import Repeater.Relay.Fanout

/-!
# Relays in flight

The attempts of one relay as they go on side by side, each of them a chain of requests.

* `Progress.step` makes one more request for one attempt;
* `Flight.run` lets attempts take steps in any order, and `Flight.result?` is there once all have
  finished.

An attempt knows nothing of the others: what it does next depends on its own progress and on the
network alone.
-/

namespace Repeater.Relay

/-- How far the attempt at a backend is. -/
inductive Progress where
  /-- A request is to be made. -/
  | sending (backend : String) (d : Destination) (h : Client.Hop) (target : Http.Target)
      (endpoint : Endpoint)
  | finished (a : Attempt)

namespace Progress

/-- The attempt whose exchange is that far. -/
def ofExchange (s : Setting) (backend : String) (d : Destination) : Client.Exchange → Progress
  | .asking h target e => .sending backend d h target e
  | .ended r => .finished (.finish s backend d r)

/-- The attempt at a backend before anything is sent. -/
def start (s : Setting) (backend : String) : Progress :=
  match Destination.resolve backend s.request.target with
  | .error e => .finished (.stillborn s backend e)
  | .ok d =>
    match d.request s.request with
    | .error e => .finished (.unmade s backend d e)
    | .ok r => ofExchange s backend d (.start { request := r })

/-- How an attempt goes on after what its request met. -/
def resume (s : Setting) (c : Client.Contact) : Progress → Progress
  | .sending backend d h _ _ => ofExchange s backend d (.resume s.policy h c)
  | .finished a => .finished a

/-- Makes the next request of an attempt. -/
def step (net : Network σ) (s : Setting) (p : Progress) (st : σ) : Progress × σ :=
  match p with
  | .sending _ _ h target e =>
    let (c, st) := Client.contact net s.policy h target e st
    (p.resume s c, st)
  | .finished a => (.finished a, st)

/-- What an attempt came to. -/
def attempt? : Progress → Option Attempt
  | .finished a => some a
  | .sending .. => none

end Progress

/-- A relay whose attempts go on side by side. -/
structure Flight where
  setting : Setting
  progress : List Progress

namespace Flight

/-- A relay to the backends of a list, before anything is sent. -/
def start (s : Setting) (backends : List String) : Flight :=
  { setting := s, progress := backends.map (Progress.start s) }

/-- Makes the next request of the attempt at a position. -/
def step (net : Network σ) (f : Flight) (i : Nat) (st : σ) : Flight × σ :=
  match f.progress[i]? with
  | none => (f, st)
  | some p =>
    let (p, st) := p.step net f.setting st
    ({ f with progress := f.progress.set i p }, st)

/-- Lets the attempts at these positions make requests, in this order. -/
def run (net : Network σ) (f : Flight) (st : σ) : List Nat → Flight × σ
  | [] => (f, st)
  | i :: r => let (f, st) := f.step net i st; f.run net st r

/-- What the attempts came to, once all have finished. -/
def result? (f : Flight) : Option Result :=
  (f.progress.mapM Progress.attempt?).map (.ofAttempts f.setting.request.requestId)

end Flight

end Repeater.Relay
