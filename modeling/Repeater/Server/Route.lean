import Repeater.Settings
import Repeater.Http.Target

/-!
# Routes

Which handler a request goes to. Paths are compared as they came, character by character; what no
other route takes is relayed, as long as it has a path that starts with a slash.
-/

namespace Repeater.Server

/-- Where a request goes. -/
inductive Route where
  | health
  /-- The three administrative requests. -/
  | list
  | register
  | unregister
  /-- The relay, in place of a method that the path does not know if it tells which it does. -/
  | relay (allow : Option String)
  /-- A path that does not know the method. -/
  | notAllowed (allow : String)
  /-- No path at all. -/
  | unknown
  deriving DecidableEq, Repr

/-- The path of the health check. -/
def healthPath : String := "/healthz"

/-- The path of the administrative requests. -/
def backendsPath : String := "/backends"

/-- Where a request goes. -/
def route (dynamicBackends : Bool) (method : String) (path : List Char) : Route :=
  if path = healthPath.toList then
    if method = "GET" ∨ method = "HEAD" then .health else .notAllowed "GET,HEAD"
  else if dynamicBackends ∧ path = backendsPath.toList then
    if method = "GET" ∨ method = "HEAD" then .list
    else if method = "POST" then .register
    else if method = "DELETE" then .unregister
    else .relay (some "GET,HEAD,POST,DELETE")
  else if path.head? = some '/' then .relay none
  else .unknown

/-- Whether a route is an administrative request. -/
def Route.isAdmin : Route → Bool
  | .list | .register | .unregister => true
  | _ => false

/-- Whether a route is the relay. -/
def Route.isRelay : Route → Bool
  | .relay _ => true
  | _ => false

end Repeater.Server
