import Repeater.Relay.Flight
import Repeater.Roster.Race
import Repeater.Server.Answer

/-!
# Sessions

A server that is busy with several things at once: workers change the roster, requests for relay come in piece
by piece, and the attempts of all relays go on, in any order.

* `Stage.next` is what happens to one request, and `Session.step` one thing that happens at all; nothing that
  happens waits for another;
* a relay reads the roster once, when it departs (`Motion.depart`) with its request taken in, and what happens
  to the roster after that is none of its business.
-/

namespace Repeater.Server

/-- How far a request for relay is. -/
inductive Stage where
  /-- Its body is on its way. -/
  | arriving (callerId : Bool) (arrival : Relay.Arrival)
  /-- Its body could not be taken in. -/
  | refused (fault : Relay.BodyFault)
  /-- It is taken in, and the roster is not read yet. -/
  | taken (setting : Relay.Setting)
  /-- The backends were read and the attempts go on. -/
  | flying (snapshot : Roster) (flight : Relay.Flight)

/-- What may happen to a request for relay. -/
inductive Motion where
  /-- One more piece of its body comes. -/
  | feed (piece : Relay.Piece)
  /-- Its body has come, and it is taken in. -/
  | take
  /-- It is sent to the backends of the roster as it is now. -/
  | depart
  /-- One of its attempts makes a request. -/
  | advance (attempt : Nat)

/-- What becomes of a request when something happens to it. What cannot happen leaves it where it is. -/
def Stage.next (net : Network σ) (policy : Client.Policy) (published : Roster) :
    Stage → Motion → σ → Stage × σ
  | .arriving callerId a, .feed piece, st =>
    (.arriving callerId { a with body := a.body ++ [piece] }, st)
  | .arriving callerId a, .take, st =>
    match Relay.Intake.capture Relay.bodyLimit a with
    | .ok r => (.taken { policy, request := replayed callerId r }, st)
    | .error e => (.refused e, st)
  | .taken setting, .depart, st => (.flying published (.start setting published.entries), st)
  | .flying snapshot flight, .advance i, st =>
    let (flight, st) := flight.step net i st
    (.flying snapshot flight, st)
  | stage, _, st => (stage, st)

/-- The roster with those who work on it, the relays that have come in, and the state of the network. -/
structure Session (σ : Type) where
  policy : Client.Policy
  race : Roster.Race
  relays : List Stage := []
  network : σ

namespace Session

/-- Something that happens. -/
inductive Step where
  /-- A worker takes a step at the roster. -/
  | work (worker : Nat)
  /-- A request for relay comes in; its body may follow. -/
  | arrive (callerId : Bool) (arrival : Relay.Arrival)
  /-- Something happens to the relay at a position. -/
  | move (relay : Nat) (motion : Motion)

/-- The roster as it is published now. -/
def published (x : Session σ) : Roster :=
  x.race.cell.roster

/-- One step. -/
def step (net : Network σ) (x : Session σ) : Step → Session σ
  | .work i => { x with race := x.race.step i }
  | .arrive callerId a => { x with relays := x.relays ++ [.arriving callerId a] }
  | .move i m =>
    match x.relays[i]? with
    | none => x
    | some stage =>
      let (stage, network) := stage.next net x.policy x.published m x.network
      { x with relays := x.relays.set i stage, network }

/-- Steps in order. -/
def run (net : Network σ) (x : Session σ) (steps : List Step) : Session σ :=
  steps.foldl (step net) x

end Session

end Repeater.Server
