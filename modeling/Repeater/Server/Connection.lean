import Repeater.Http.Opening
import Repeater.Server.Answer

/-!
# Connections to the server

One request on a connection, from the bytes that arrive to the response that is sent. Only the relay
looks at bodies: it waits for one that has not arrived whole, which leaves all other requests alone.
-/

namespace Repeater.Server

/-- What is said on a connection. -/
structure Exchange where
  sent : Http.Sent
  events : List Journal.Event := []
  marks : Tally := []

/-- The pieces of a body; none while they are waited for. -/
def pieces? (isAwaited : Bool) : Except Http.Stop ByteArray → Option (List Relay.Piece)
  | .ok body => some [.data body]
  | .error .early => if isAwaited then none else some []
  | .error _ => some [.broken "error reading a body from connection"]

/-- Whether the body of a request is waited for. -/
def awaitsBody (s : Server) (head : Http.RequestHead) : Bool :=
  (route s.admin.dynamicBackends head.method head.target.path).isRelay

/-- The request of a head and the pieces of a body. -/
def arrivalOf (head : Http.RequestHead) (body : List Relay.Piece) : Relay.Arrival where
  method := head.method
  target := head.target
  headers := head.headers
  body := body

/-- Answers the request that the bytes hold; none while it is waited for. -/
def converse (s : Server) (net : Network σ) (freshId : String) (bytes : ByteArray) (st : σ) :
    Option (Exchange × Server × σ) :=
  match Http.Opening.read bytes with
  | .waiting => none
  | .refused status => some ({ sent := .refusal status }, s, st)
  | .request head body =>
    (pieces? (s.awaitsBody head) body).map fun body =>
      let (served, s, st) := answer s net freshId (arrivalOf head body) st
      ({ sent := head.answer served.response, events := served.events, marks := served.marks },
        s, st)

end Repeater.Server
