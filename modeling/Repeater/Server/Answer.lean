import Repeater.Server.Admin

/-!
# Answering requests

What a server answers to a request, with what it sends to backends and what it records.

* `Server.plan` sends a request to its route, and reads the roster at most once;
* `Server.receive` gives every request an id before that, and `Reception.respond` every response its id
  and length after;
* `Server.answer` does all of it, and relays the request where that is the plan.

The id that a caller sends goes to the backends too; one that the server makes does not.
-/

namespace Repeater.Server

/-- The response to a request whose body could not be taken in. -/
def tooLargeResponse : Http.Response :=
  .ofText 413 "request body too large"

/-- What is written and sent back when a body could not be taken in. -/
def rejected (a : Relay.Arrival) (e : Relay.BodyFault) : Served where
  response := tooLargeResponse
  events := [Relay.Intake.faultEvent Relay.bodyLimit e,
    { level := .error, origin := .server, message := "Rejecting inbound request"
      fields := [("request_id", Relay.requestId a.headers), ("method", a.method),
        ("path", String.ofList a.target.path),
        ("error", (e.reported Relay.bodyLimit).message)] }]
  marks := [.inbound]

/-- The request as backends get it: with the caller's id or none. -/
def replayed (callerId : Bool) (r : Relay.Intake) : Relay.Intake :=
  if callerId then r else { r with headers := r.headers.erase Relay.requestIdField }

/-- What is done about a request. -/
inductive Plan where
  /-- It is answered at once, and the roster may be another one. -/
  | told (served : Served) (roster : Roster)
  /-- It is relayed to the backends of the roster as it is now. -/
  | relay (setting : Relay.Setting) (backends : List String)

/-- What is done about a request that is to be relayed. -/
def relay (s : Server) (callerId : Bool) (a : Relay.Arrival) : Plan :=
  match Relay.Intake.capture Relay.bodyLimit a with
  | .error e => .told (rejected a e) s.roster
  | .ok r => .relay { policy := s.policy, request := replayed callerId r } s.roster.entries

/-- What is done about a request, by its route; the methods that the path allows are told apart. -/
def plan (s : Server) (callerId : Bool) (a : Relay.Arrival) : Option String × Plan :=
  let path := a.target.path
  match route s.admin.dynamicBackends a.method path with
  | .health => (none, .told { response := .ofText 200 "ok" } s.roster)
  | .notAllowed allow => (some allow, .told { response := { status := 405 } } s.roster)
  | .unknown => (none, .told { response := { status := 404 } } s.roster)
  | .relay allow => (allow, relay s callerId a)
  | r =>
    (none,
      if isAuthorized s.admin a.headers then
        let (served, roster) := administer s.roster r a.target.query?
        .told served roster
      else .told (unauthorized (Relay.requestId a.headers) path) s.roster)

/-- What is sent back and recorded when a request has been relayed. -/
def relayed (setting : Relay.Setting) (backends : List String) (result : Relay.Result) : Served :=
  let r := setting.request
  let started : Journal.Event :=
    { level := .debug, origin := .server, message := "Relaying request"
      fields := [("request_id", r.requestId), ("backends", toString backends.length),
        ("body_bytes", toString r.body.size)] }
  { response := result.verdict.response, events := started :: result.events
    marks := .inbound :: result.marks }

/-- The response as it is sent: with the methods that the path allows and the length of the body, but
without the body where the method admits none. -/
def finish (method : String) (allow : Option String) (r : Http.Response) : Http.Response :=
  if method = "CONNECT" ∧ Http.isSuccess r.status then { r with body := .empty }
  else
    let allowField := allow.toList.map fun a => (⟨"allow", Text.utf8 a⟩ : Http.Header)
    let lengthField : Http.Header := ⟨"content-length", Text.utf8 (toString r.body.size)⟩
    { r with
      headers := r.headers ++ allowField ++ [lengthField]
      body := if method = "HEAD" then .empty else r.body }

/-- The activity in which a request is answered. -/
def activity (a : Relay.Arrival) : Journal.Activity where
  name := "http"
  origin := .server
  fields := [("method", a.method), ("uri", a.target.text),
    ("request_id", Relay.requestId a.headers)]

/-- The request with an id, its own or a new one. -/
def identified (freshId : String) (a : Relay.Arrival) : Relay.Arrival :=
  if a.headers.has Relay.requestIdField then a
  else { a with headers := a.headers ++ [⟨Relay.requestIdField, Text.utf8 freshId⟩] }

/-- A request with what is done about it. -/
structure Reception where
  /-- The request with its id. -/
  arrival : Relay.Arrival
  /-- The methods that the path allows, where the answer tells. -/
  allow : Option String
  plan : Plan

/-- Receives a request; `freshId` is its id if it brings none. -/
def receive (s : Server) (freshId : String) (a : Relay.Arrival) : Reception :=
  let arrival := identified freshId a
  let (allow, plan) := plan s (a.headers.has Relay.requestIdField) arrival
  { arrival, allow, plan }

/-- What is sent back and recorded at the end: with the id of the request, inside its activity. -/
def Reception.respond (r : Reception) (served : Served) : Served :=
  let response := finish r.arrival.method r.allow served.response
  let id := (r.arrival.headers.values Relay.requestIdField).take 1
  { response := { response with
      headers := response.headers ++ id.map fun v => ⟨Relay.requestIdField, v⟩ }
    events := served.events.map (Journal.Event.within (activity r.arrival))
    marks := served.marks }

/-- Answers a request; `freshId` is its id if it brings none. -/
def answer (s : Server) (net : Network σ) (freshId : String) (a : Relay.Arrival) (st : σ) :
    Served × Server × σ :=
  let r := receive s freshId a
  match r.plan with
  | .told served roster => (r.respond served, { s with roster }, st)
  | .relay setting backends =>
    let (result, st) := Relay.fanout net setting backends st
    (r.respond (relayed setting backends result), s, st)

end Repeater.Server
