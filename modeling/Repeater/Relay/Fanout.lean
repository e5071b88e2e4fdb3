import Repeater.Relay.Attempt

/-!
# Fan-out

Relays a request to every backend of a list, once each, and gives one verdict. The outcomes keep the
order of the list; a backend that fails keeps no other from being tried.
-/

namespace Repeater.Relay

/-- The attempts at all backends, in order. -/
def attempts (net : Network σ) (s : Setting) : List String → σ → List Attempt × σ
  | [], st => ([], st)
  | b :: r, st =>
    let (a, st) := attempt net s b st
    let (as, st) := attempts net s r st
    (a :: as, st)

/-- The verdict on a request with what was recorded on the way. -/
structure Result where
  verdict : Verdict
  events : List Journal.Event
  marks : Tally
  deriving DecidableEq

/-- What the journal says of a request that did not reach every backend. -/
def incompleteEvents (requestId : String) (v : Verdict) : List Journal.Event :=
  if v.isFailure then
    [{ level := .warn, origin := .relay, message := "Relay incomplete"
       fields := [("request_id", requestId), ("backends", toString v.outcomes.length),
         ("failed", toString v.failures.length)] }]
  else []

/-- What a list of attempts comes to. -/
def Result.ofAttempts (requestId : String) (as : List Attempt) : Result :=
  let verdict : Verdict := ⟨as.map Attempt.outcome⟩
  { verdict, events := as.flatMap Attempt.events ++ incompleteEvents requestId verdict
    marks := as.flatMap Attempt.marks }

/-- Relays a request to every backend of a list. -/
def fanout (net : Network σ) (s : Setting) (backends : List String) (st : σ) : Result × σ :=
  let (as, st) := attempts net s backends st
  (.ofAttempts s.request.requestId as, st)

end Repeater.Relay
