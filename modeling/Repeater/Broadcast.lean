/-!
# Broadcast channels

What a sender of a channel sends reaches all receivers that there are at that time. A channel holds the
values that it was sent last, as many as its capacity allows: the oldest makes room for a new one, and a
receiver that has not read it by then is told that it lags. Values are numbered in the order in which they
are sent, and a receiver goes by the number of the value that it is to get next.

* `Broadcast` is what can be done with a channel;
* `RingChannel` is a channel that keeps count of its senders and receivers, and `Broadcast.ring` does with it what
  can be done with channels.
-/

namespace Repeater

/-- What a receiver gets that asks for the next value. -/
inductive Received (α : Type) where
  | value (a : α)
  /-- So many values are lost to it. -/
  | lagged (missed : Nat)
  /-- It has read everything, and nobody can send any more. -/
  | closed
  /-- It has read everything so far. -/
  | empty
  deriving DecidableEq, Repr

/-- What can be done with a channel. -/
structure Broadcast (α : Type) where
  /-- What the senders and receivers of a channel share. -/
  Shared : Type
  /-- What a receiver knows. -/
  Receiver : Type
  /-- A channel of some capacity, with one sender and one receiver. -/
  create : Nat → Shared × Receiver
  /-- One sender more. -/
  clone : Shared → Shared
  /-- One sender less. -/
  drop : Shared → Shared
  /-- One receiver more. -/
  subscribe : Shared → Shared × Receiver
  /-- One receiver less. -/
  forget : Shared → Receiver → Shared
  /-- Sends a value, and tells to how many receivers; none if it was refused for want of any. -/
  send : Shared → α → Shared × Option Nat
  /-- Gives a receiver the next value. -/
  receive : Shared → Receiver → Shared × Receiver × Received α

-- ---------------------------------------------------------------------------
-- A ring of the last values
-- ---------------------------------------------------------------------------

/-- A channel, and the values that it holds, the oldest first. -/
structure RingChannel (α : Type) where
  capacity : Nat
  senders : Nat := 1
  receivers : Nat := 1
  /-- How many values were sent. -/
  sent : Nat := 0
  held : List α := []
  held_le : held.length ≤ sent := by simp

namespace RingChannel

variable {α : Type}

/-- The number of the oldest value that is held. -/
def first (r : RingChannel α) : Nat :=
  r.sent - r.held.length

/-- Holds a value, in place of the oldest one if there is no room for both. -/
def push (r : RingChannel α) (a : α) : RingChannel α :=
  { r with
    sent := r.sent + 1
    held := (r.held ++ [a]).drop (r.held.length + 1 - r.capacity)
    held_le := by
      have := r.held_le
      simp only [List.length_drop, List.length_append, List.length_singleton]
      omega }

/-- Holds a value for the receivers there are. -/
def send (r : RingChannel α) (a : α) : RingChannel α × Option Nat :=
  if r.receivers = 0 then (r, none) else (r.push a, some r.receivers)

/-- What the receiver that is to get the value `next` gets, and the value that it is to get after that. -/
def receive (r : RingChannel α) (next : Nat) : Nat × Received α :=
  if next < r.first then (r.first, .lagged (r.first - next))
  else match r.held[next - r.first]? with
    | some a => (next + 1, .value a)
    | none => (next, if r.senders = 0 then .closed else .empty)

end RingChannel

/-- What can be done with a ring. -/
def Broadcast.ring {α : Type} : Broadcast α where
  Shared := RingChannel α
  Receiver := Nat
  create capacity := ({ capacity }, 0)
  clone r := { r with senders := r.senders + 1 }
  drop r := { r with senders := r.senders - 1 }
  subscribe r := ({ r with receivers := r.receivers + 1 }, r.sent)
  forget r _ := { r with receivers := r.receivers - 1 }
  send := RingChannel.send
  receive r next := (r, r.receive next)

end Repeater
