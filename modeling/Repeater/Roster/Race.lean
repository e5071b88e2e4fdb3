import Repeater.Roster

/-!
# Racing for the roster

Several workers change one published roster without locks. A worker reads the published cell, prepares
the list that should follow it, and publishes that list only if the cell it read is still the published
one; else it starts again from the cell it found. The answer of its call is a variable of the worker: it
is set before the cell is read, and again by every attempt, and what it holds at the end is the answer.

* `Race.step` is one step of one worker, `Race.run` a schedule of them;
* `Race.roundRobin` lets the workers take turns until all calls are answered.

A cell has a version, which stands for its identity: every list that is published anew gets the next
one, and a call that changes nothing puts the same cell back.
-/

namespace Repeater.Roster

/-- What a worker may ask of the roster. -/
inductive Call where
  | add (backend : String)
  | remove (backend : String)
  | read
  deriving DecidableEq, Repr

/-- The answer of a call: why it was refused, or the roster right after it. -/
abbrev Answer := Except Refusal Roster

/-- A published roster with its identity. -/
structure Cell where
  version : Nat
  roster : Roster
  deriving DecidableEq

/-- How far a worker is with its current call, and what its answer is so far. -/
inductive Stage where
  /-- Between two calls. -/
  | idle
  /-- The call is begun, and its answer is set for the first time. -/
  | begun (call : Call) (answer : Answer)
  /-- The published cell was read. The answer is still the first one, or that of an attempt that failed. -/
  | seen (call : Call) (cell : Cell) (answer : Answer)
  /-- An attempt has been made: the list to publish, none to put the same cell back, and the answer are there. -/
  | prepared (call : Call) (cell : Cell) (next : Option Roster) (answer : Answer)

/-- A worker: where it is, the calls it has yet to begin, and its answers, the latest first. -/
structure Worker where
  stage : Stage := .idle
  todo : List Call
  answers : List (Call × Answer) := []

/-- The published cell and all who work on it. -/
structure Race where
  cell : Cell
  workers : List Worker

/-- What the answer of a call is set to before any attempt: that the backend is there, or the roster as it is. -/
def Call.preset (call : Call) (r : Roster) : Answer :=
  match call with
  | .add b => .error (.present b)
  | .remove _ | .read => .ok r

/-- One attempt at a call, on the roster that was read: sets the answer, and gives the list to publish, none if the
roster stays as it is. -/
def Call.prepare (call : Call) (r : Roster) : StateM Answer (Option Roster) :=
  match call with
  | .add b =>
    match r.add b with
    | .ok s => do set (.ok s : Answer); return some s
    | .error e => do set (.error e : Answer); return none
  | .remove b =>
    if b ∈ r.entries then
      match r.remove b with
      | .ok s => do set (.ok s : Answer); return some s
      | .error e => do set (.error e : Answer); return none
    else do set (.ok r : Answer); return none
  | .read => do set (.ok r : Answer); return none

/-- The calls that are refused before the roster is looked at. -/
def Call.isVoid : Call → Bool
  | .add b | .remove b => b == ""
  | .read => false

/-- One step of a worker, which may replace the published cell. -/
def Worker.step (cell : Cell) (w : Worker) : Cell × Worker :=
  match w.stage with
  | .idle =>
    match w.todo with
    | [] => (cell, w)
    | call :: todo =>
      if call.isVoid then
        (cell, { w with todo, answers := (call, .error .missing) :: w.answers })
      else match call with
        | .read => (cell, { w with todo, answers := (call, .ok cell.roster) :: w.answers })
        | _ => (cell, { w with todo, stage := .begun call (call.preset cell.roster) })
  | .begun call answer => (cell, { w with stage := .seen call cell answer })
  | .seen call c answer =>
    let (next, answer) := ((call.prepare c.roster).run answer).run
    (cell, { w with stage := .prepared call c next answer })
  | .prepared call c next answer =>
    if cell.version = c.version then
      let done : Worker := { w with stage := .idle, answers := (call, answer) :: w.answers }
      match next with
      | some r => (⟨cell.version + 1, r⟩, done)
      | none => (cell, done)
    else (cell, { w with stage := .seen call cell answer })

/-- Nothing is left to do. -/
def Worker.isDone (w : Worker) : Bool :=
  match w.stage with
  | .idle => w.todo.isEmpty
  | _ => false

namespace Race

/-- Workers with these programs and a roster at version 0. -/
def start (r : Roster) (programs : List (List Call)) : Race :=
  ⟨⟨0, r⟩, programs.map fun todo => { todo }⟩

/-- One step of the `i`-th worker; none if there is no such worker. -/
def step (race : Race) (i : Nat) : Race :=
  match race.workers[i]? with
  | none => race
  | some w =>
    let (cell, w) := w.step race.cell
    ⟨cell, race.workers.set i w⟩

/-- The steps of a schedule in order. -/
def run (race : Race) (schedule : List Nat) : Race :=
  schedule.foldl step race

/-- Whether every call is answered. -/
def isDone (race : Race) : Bool :=
  race.workers.all Worker.isDone

/-- At most `rounds` rounds, each worker taking one step in every round. -/
def rounds : Nat → Race → Race
  | 0, race => race
  | n + 1, race =>
    if race.isDone then race
    else rounds n (race.run (List.range race.workers.length))

/-- The workers take turns until all calls are answered. In any four rounds some call is answered, so
four rounds for each call and four more are enough. -/
def roundRobin (race : Race) : Race :=
  race.rounds (4 * (race.workers.foldl (fun n w => n + w.todo.length) 0 + 1))

end Race

end Repeater.Roster
