import Repeater.Duration

/-!
# Client policy

What all exchanges of one client share.
-/

namespace Repeater.Client

/-- The time limit of an exchange and the view on certificates. -/
structure Policy where
  /-- The time an exchange may take, none for no limit. -/
  timeout : Option Duration := none
  /-- Accept any certificate. -/
  insecureTls : Bool := false
  deriving DecidableEq

end Repeater.Client
