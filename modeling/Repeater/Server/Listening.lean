import Repeater.Server.Answer

/-!
# A server on a network

A network with our server on it: at some endpoints it listens itself, and it relays to the servers at
the others. Its own state becomes a part of the state of the network.
-/

namespace Repeater.Server

/-- A request that was read, as the server answers it; none for a target that is none. -/
def arrival? (d : Delivery) : Option Relay.Arrival :=
  (Http.Target.parse? d.target).map fun target =>
    { method := d.method, target, headers := d.headers, body := [.data d.body] }

/-- What the server sends back to a request that it has read. The length of its head makes no difference, though on a
socket a head of more than 417792 bytes is answered with the status 431 before it is read. -/
def reply (s : Server) (net : Network σ) (freshId : String) (d : Delivery) (st : σ) :
    Reply × Server × σ :=
  match arrival? d with
  | none => ({ bytes := ({ status := 400 } : Http.Response).bytes .http11 }, s, st)
  | some a =>
    let (served, s, st) := answer s net freshId a st
    ({ bytes := served.response.bytes .http11 }, s, st)

/-- The network `net` with a server that listens where `here` says. -/
def network (net : Network σ) (here : Endpoint → Bool) (freshId : String) :
    Network (Server × σ) where
  listener e := if here e then some .plain else net.listener e
  serve e d st :=
    if here e then reply st.1 net freshId d st.2
    else let (r, inner) := net.serve e d st.2; (r, st.1, inner)

end Repeater.Server
