/-!
# Faults of an exchange

Why a request got no answer. The text names the URL at fault, without its user information.
-/

namespace Repeater.Client

/-- Why a request got no answer. -/
inductive Fault where
  /-- The request cannot be made; the URL is unknown if it could not be read either. -/
  | unsendable (url : Option String)
  /-- No connection could be opened. -/
  | connect (url : String)
  /-- The time limit passed. -/
  | timeout (url : String)
  /-- The connection ended without a proper answer. -/
  | broken (url : String)
  /-- A redirect too many, the one met at this URL. -/
  | redirects (url : String)
  /-- The answer has a body that cannot be read to its end. -/
  | unreadable
  deriving DecidableEq, Repr

/-- A coarse classification of faults. -/
inductive FaultKind where
  | timeout | connect | other
  deriving DecidableEq, Repr

/-- The class of a fault. -/
def Fault.kind : Fault → FaultKind
  | .timeout _ => .timeout
  | .connect _ => .connect
  | _ => .other

/-- The name of a class. -/
def FaultKind.label : FaultKind → String
  | .timeout => "timeout"
  | .connect => "connect"
  | .other => "other"

/-- The text shown for a fault. -/
def Fault.message : Fault → String
  | .unsendable none => "builder error"
  | .unsendable (some url) => "builder error for url (" ++ url ++ ")"
  | .connect url | .timeout url | .broken url => "error sending request for url (" ++ url ++ ")"
  | .redirects url => "error following redirect for url (" ++ url ++ ")"
  | .unreadable => "error decoding response body"

end Repeater.Client
