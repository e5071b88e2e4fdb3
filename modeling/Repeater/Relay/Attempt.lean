import Repeater.Client.Exchange
import Repeater.Relay.Destination
import Repeater.Relay.Policy
import Repeater.Tally

/-!
# Attempts

One attempt to relay a request to one backend, from its URL to an outcome, with what it writes to the
journal and adds to the tally.

* `Attempt.stillborn` is the one that has nowhere to send to, `Attempt.unmade` the one that has nothing
  to send;
* `Attempt.finish` makes the outcome of what the exchange came to;
* `attempt` finds the destination, makes the request, sends it and finishes.
-/

namespace Repeater.Relay

/-- The outcome at one backend with what was recorded on the way. -/
structure Attempt where
  outcome : Outcome
  events : List Journal.Event
  marks : Tally
  deriving DecidableEq

/-- What an attempt to relay a request begins with. -/
structure Setting where
  policy : Client.Policy
  request : Intake

namespace Setting

/-- The fields that all events of an attempt share. -/
def fields (s : Setting) : List Journal.Field :=
  [("request_id", s.request.requestId), ("method", s.request.method), ("path", s.request.path),
    ("query", s.request.query), ("insecure_tls", boolText s.policy.insecureTls)]

/-- The activity of an attempt. -/
def activity (s : Setting) (authority : String) : Journal.Activity where
  name := "relay"
  origin := .relay
  fields := s.fields ++ [("backend", authority)]

/-- An event of an attempt. -/
def event (s : Setting) (authority : String) (level : Journal.Level) (message : String)
    (fields : List Journal.Field) : Journal.Event :=
  { level, origin := .relay, message, fields, activities := [s.activity authority] }

end Setting

namespace Attempt

/-- The attempt at a backend whose URL leads nowhere. -/
def stillborn (s : Setting) (backend : String) (fault : Fault) : Attempt where
  outcome := .failed backend fault false
  events := [{ level := .error, origin := .relay, message := "Failed to parse backend"
               fields := s.fields ++ [("error", fault.message)] }]
  marks := []

/-- The attempt at a backend for which no request can be made. -/
def unmade (s : Setting) (backend : String) (d : Destination) (fault : Fault) : Attempt where
  outcome := .failed backend fault false
  events := [s.event d.authority .error "Failed to create request" [("error", fault.message)]]
  marks := []

/-- What the journal says of the body of an answer that reports an error. -/
def bodyEvents (s : Setting) (authority : String) (a : Client.Answer) : List Journal.Event :=
  let status := ("status", toString a.status)
  if !Http.isErrorStatus a.status then []
  else match a.text? with
    | .ok text => [s.event authority .info "Response body" [status, ("body", text)]]
    | .error e => [s.event authority .info "Failed to read response" [status, ("error", e.message)]]

/-- The attempt whose exchange has come to its end. -/
def finish (s : Setting) (backend : String) (d : Destination) :
    Except Client.Fault Client.Answer → Attempt
  | .error e =>
    { outcome := .failed backend (.transport e) true
      events := [s.event d.authority .error "Proxy error" [("error", (Fault.transport e).message)]]
      marks := [.forwarded d.authority, .responseTime] }
  | .ok a =>
    { outcome := .relayed backend a.status
      events := s.event d.authority .info "Proxied request" [("status", toString a.status)] ::
        bodyEvents s d.authority a
      marks := [.forwarded d.authority, .responseTime] }

end Attempt

/-- Relays a request to one backend. -/
def attempt (net : Network σ) (s : Setting) (backend : String) (st : σ) : Attempt × σ :=
  match Destination.resolve backend s.request.target with
  | .error e => (.stillborn s backend e, st)
  | .ok d =>
    match d.request s.request with
    | .error e => (.unmade s backend d e, st)
    | .ok r =>
      let (result, st) := Client.send net s.policy r st
      (.finish s backend d result, st)

end Repeater.Relay
