import Repeater.Broadcast

/-!
# The stop signal

A signal that any holder of a handle may fire and that any number of receivers wait for. It goes over a
broadcast channel that holds one signal: every handle is a sender of it, and what is sent says nothing but
that it was. A receiver waits until it gets anything from the channel; that it lags, or that nobody can
send any more, is as good as a signal.

* `StopSignal.fire` reaches the receivers of that moment;
* `StopSignal.poll` asks a receiver whether its waiting is over.
-/

namespace Repeater

/-- The channel that the signal goes over, how many handles there are, and the receivers by name. -/
structure StopSignal (channel : Broadcast Unit) where
  shared : channel.Shared
  handles : Nat
  receivers : List (String × channel.Receiver) := []

namespace StopSignal

/-- A signal with one handle. The receiver that the channel comes with is dropped. -/
def new (channel : Broadcast Unit := .ring) : StopSignal channel :=
  let (shared, first) := channel.create 1
  { shared := channel.forget shared first, handles := 1 }

variable {channel : Broadcast Unit}

/-- One handle more. -/
def clone (s : StopSignal channel) : StopSignal channel :=
  { s with shared := channel.clone s.shared, handles := s.handles + 1 }

/-- One handle less. -/
def drop (s : StopSignal channel) : StopSignal channel :=
  { s with shared := channel.drop s.shared, handles := s.handles - 1 }

/-- Without the receiver of a name. -/
def forget (s : StopSignal channel) (name : String) : StopSignal channel :=
  match s.receivers.lookup name with
  | none => s
  | some r => { s with
      shared := channel.forget s.shared r
      receivers := s.receivers.filter fun e => e.1 != name }

/-- A receiver that hears what is sent from now on; one of that name is replaced. -/
def subscribe (s : StopSignal channel) (name : String) : StopSignal channel :=
  let s := s.forget name
  let (shared, r) := channel.subscribe s.shared
  { s with shared, receivers := (name, r) :: s.receivers }

/-- With the receiver of a name as it is now. -/
def update (s : StopSignal channel) (name : String) (r : channel.Receiver) : StopSignal channel :=
  { s with receivers := s.receivers.map fun e => if e.1 = name then (name, r) else e }

/-- Sends the signal, and tells how many receivers it is for. -/
def fire (s : StopSignal channel) : StopSignal channel × Nat :=
  let (shared, reached) := channel.send s.shared ()
  ({ s with shared }, reached.getD 0)

/-- What a receiver is told when it is asked. -/
inductive Polled where
  /-- There is no receiver of that name. -/
  | gone
  | pending
  /-- Its waiting was over, and it is gone now. -/
  | done
  deriving DecidableEq, Repr

/-- Asks a receiver. Its waiting is over with whatever it gets from the channel. -/
def poll (s : StopSignal channel) (name : String) : StopSignal channel × Polled :=
  match s.receivers.lookup name with
  | none => (s, .gone)
  | some r =>
    let (shared, r, got) := channel.receive s.shared r
    let s := { s with shared }.update name r
    match got with
    | .empty => (s, .pending)
    | _ => (s.forget name, .done)

/-- An operation on the signal. -/
inductive Op where
  | clone
  | drop
  | subscribe (name : String)
  | fire
  | forget (name : String)
  | poll (name : String)
  deriving DecidableEq, Repr

/-- What an operation tells. -/
inductive Told where
  /-- No handle is left to do it with. -/
  | noHandle
  | handles (n : Nat)
  | nothing
  | reached (n : Nat)
  | existed (b : Bool)
  | polled (p : Polled)
  deriving DecidableEq, Repr

/-- Carries out an operation. Cloning, dropping, subscribing and firing need a handle. -/
def apply (s : StopSignal channel) (op : Op) : StopSignal channel × Told :=
  match op with
  | .forget name => (s.forget name, .existed (s.receivers.lookup name).isSome)
  | .poll name => let (s, p) := s.poll name; (s, .polled p)
  | op =>
    if s.handles = 0 then (s, .noHandle)
    else match op with
      | .clone => (s.clone, .handles s.clone.handles)
      | .drop => (s.drop, .handles s.drop.handles)
      | .subscribe name => (s.subscribe name, .nothing)
      | _ => let (s, n) := s.fire; (s, .reached n)

/-- Carries out operations in order. -/
def run (s : StopSignal channel) : List Op → StopSignal channel × List Told
  | [] => (s, [])
  | op :: ops =>
    let (s, t) := s.apply op
    let (s, ts) := run s ops
    (s, t :: ts)

end StopSignal

end Repeater
