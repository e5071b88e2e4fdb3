import Repeater.Client.Policy
import Repeater.Settings
import Repeater.Journal.Event

/-!
# Relay policy

The time limit and the view on certificates that all exchanges with backends share. They are fixed
when the relay is made.
-/

namespace Repeater.Relay

/-- The policy of forwarding settings. -/
def policy (f : Forwarding) : Except Duration.Fault Client.Policy :=
  match f.timeout with
  | .ok timeout => .ok { timeout, insecureTls := f.insecureTls }
  | .error e => .error e

/-- The text of a truth value. -/
def boolText (b : Bool) : String :=
  if b then "true" else "false"

/-- What the journal says when a relay is made. -/
def policyEvent (p : Client.Policy) : Journal.Event :=
  match p.timeout with
  | some d =>
    { level := .info, origin := .relay, message := "Proxy forwarding request timeout configured"
      fields := [("timeout", d.text), ("insecure_tls", boolText p.insecureTls)] }
  | none =>
    { level := .info, origin := .relay, message := "Proxy forwarding request timeout disabled"
      fields := [("insecure_tls", boolText p.insecureTls)] }

end Repeater.Relay
