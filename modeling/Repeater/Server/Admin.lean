import Repeater.Server.Basic
import Repeater.Url.Form

/-!
# Administrative requests

Listing, registering and unregistering backends. Where a key is set, each of these needs it, and
without it nothing is looked at or changed.
-/

namespace Repeater.Server

/-- Whether the fields carry the key: the first authorization is the word `Bearer`, one space and the
key, and nothing else. -/
def bearsKey (key : String) (headers : Http.Headers) : Bool :=
  (headers.get? "authorization").bind Http.visible? == some ("Bearer " ++ key)

/-- Whether an administrative request may be carried out. -/
def isAuthorized (admin : Admin) (headers : Http.Headers) : Bool :=
  match admin.apiKey with
  | none => true
  | some key => bearsKey key headers

/-- The backend that a query names. -/
inductive Parameter where
  | backend (name : String)
  /-- It is named more than once. -/
  | repeated
  deriving DecidableEq, Repr

/-- The backend that a query names; the empty one if it names none. -/
def Parameter.ofQuery (query : Option (List Char)) : Parameter :=
  let pairs := Url.formPairs (query.getD [])
  match pairs.filter fun p => p.1 == "server".toList with
  | [] => .backend ""
  | [(_, value)] => .backend (String.ofList value)
  | _ => .repeated

/-- The response to a request that names a backend more than once. -/
def repeatedResponse : Http.Response :=
  .ofText 400 "Failed to deserialize query string: duplicate field \x60server\x60"

/-- What a change of the roster comes to: the line of the new one, or why there is none. -/
def changed (r : Roster) (change : Except Roster.Refusal Roster)
    (refused : Roster.Refusal → Journal.Event) (events : List Journal.Event) : Served × Roster :=
  match change with
  | .ok s => ({ response := .ofText 200 s.line, events }, s)
  | .error e => ({ response := .ofText 400 e.message, events := events ++ [refused e] }, r)

/-- Registers a backend. -/
def register (r : Roster) (backend : String) : Served × Roster :=
  changed r (r.add backend)
    (fun e => { level := .warn, origin := .admin, message := "Register rejected"
                fields := [("server", backend), ("error", e.message)] })
    (r.addEvents backend)

/-- Unregisters a backend. -/
def unregister (r : Roster) (backend : String) : Served × Roster :=
  changed r (r.remove backend)
    (fun e => { level := .warn, origin := .admin, message := "Unregister rejected"
                fields := [("error", e.message)] })
    (r.removeEvents backend)

/-- Carries out an administrative request. -/
def administer (r : Roster) (route : Route) (query : Option (List Char)) : Served × Roster :=
  match route, Parameter.ofQuery query with
  | .register, .backend b => register r b
  | .unregister, .backend b => unregister r b
  | .register, .repeated | .unregister, .repeated => ({ response := repeatedResponse }, r)
  | _, _ => ({ response := .ofText 200 r.line }, r)

/-- The response to an administrative request without the key, and what the journal says of it. -/
def unauthorized (requestId : String) (path : List Char) : Served where
  response := { status := 401 }
  events := [{ level := .warn, origin := .adminKey
               message := "Rejected unauthenticated admin request"
               fields := [("request_id", requestId), ("path", String.ofList path)] }]

end Repeater.Server
