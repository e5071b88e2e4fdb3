import Repeater.Client.Request
import Repeater.Relay.Intake

/-!
# Destinations

Where a request goes for one backend: scheme and authority are the backend's, path and query are the
request's. Whatever else the backend's URL says is not used.

The request's target is put behind the authority as text and the whole is read again, so a target that
does not start with a slash can change the authority.
-/

namespace Repeater.Relay

/-- Where a request goes. -/
structure Destination where
  /-- The host, with its port unless that is the usual one; the label of journal and tally. -/
  authority : String
  url : Url
  deriving DecidableEq, Repr

namespace Destination

/-- The authority of a backend URL, or why there is none. -/
def authorityOf (base : Url) : Option (List Char) :=
  base.namedHost?.map fun h => h.text ++ Url.portText base.port

/-- Where a request for `target` goes for `backend`. -/
def resolve (backend target : String) : Except Fault Destination :=
  match Url.parse backend.toList with
  | .error e => .error (.badBackend backend e.message)
  | .ok base =>
    match authorityOf base with
    | none => .error (.badBackend backend "missing host")
    | some authority =>
      match Url.parse (base.scheme ++ "://".toList ++ authority ++ target.toList) with
      | .error e => .error (.badRequest e.message)
      | .ok url => .ok { authority := String.ofList authority, url }

/-- The request for a destination: the method, the fields but the host, and the body as they were
taken in. -/
def outgoing (d : Destination) (r : Intake) : Client.Request :=
  .make r.method d.url (r.headers.erase "host") r.body

/-- Whether a destination still has a host: the URL of a file loses it to a target with a drive in it. -/
def hasHost (d : Destination) : Bool :=
  d.url.namedHost?.isSome

/-- The request for a destination, or why none can be made. -/
def request (d : Destination) (r : Intake) : Except Fault Client.Request :=
  if d.hasHost then .ok (d.outgoing r)
  else .error (.badRequest (Client.Fault.unsendable (some d.url.text)).message)

theorem request_of_hasHost {d : Destination} (h : d.hasHost = true) (r : Intake) :
    d.request r = .ok (d.outgoing r) :=
  if_pos h

theorem request_of_no_host {d : Destination} (h : d.hasHost = false) (r : Intake) :
    d.request r = .error (.badRequest (Client.Fault.unsendable (some d.url.text)).message) :=
  if_neg (Bool.not_eq_true _ ▸ h)

end Destination

end Repeater.Relay
