import Repeater.Broadcast

/-!
# What channels are said to do

The behaviour of a broadcast channel as its users know it, told in terms of what there is to know of a
channel: how many senders and receivers it has, how many values were sent and how many of them it has
dropped, and which value a receiver is to get next.

* `Broadcast.View`            — what there is to know of the channels of some kind;
* `Broadcast.View.Documented` — that they do as channels are said to.

## Results

* `Broadcast.View.Documented.receive_eq_empty_iff` — when a receiver gets nothing;
* `Broadcast.ringView_documented`                  — a ring does as channels are said to.
-/

namespace Repeater

namespace Broadcast

variable {α : Type}

/-- How a channel stands. -/
structure Standing where
  senders : Nat
  receivers : Nat
  /-- How many values were sent. -/
  sent : Nat
  /-- How many of them are not held any more. -/
  dropped : Nat

/-- What there is to know of channels and their receivers. -/
structure View (channel : Broadcast α) where
  standing : channel.Shared → Standing
  /-- The number of the value that a receiver is to get next. -/
  next : channel.Receiver → Nat

/-- What channels are said to do. -/
structure View.Documented {channel : Broadcast α} (v : channel.View) : Prop where
  create : ∀ capacity, 0 < capacity → v.standing (channel.create capacity).1 = ⟨1, 1, 0, 0⟩
  clone : ∀ s, v.standing (channel.clone s) = { v.standing s with senders := (v.standing s).senders + 1 }
  drop : ∀ s, v.standing (channel.drop s) = { v.standing s with senders := (v.standing s).senders - 1 }
  subscribe : ∀ s, v.standing (channel.subscribe s).1 =
    { v.standing s with receivers := (v.standing s).receivers + 1 }
  /-- A receiver gets the values that are sent after it has subscribed. -/
  next_subscribe : ∀ s, v.next (channel.subscribe s).2 = (v.standing s).sent
  forget : ∀ s r, v.standing (channel.forget s r) =
    { v.standing s with receivers := (v.standing s).receivers - 1 }
  /-- Without receivers a value is refused. -/
  send_refused : ∀ s a, (v.standing s).receivers = 0 →
    v.standing (channel.send s a).1 = v.standing s ∧ (channel.send s a).2 = none
  /-- With receivers it is held, possibly in place of older ones. -/
  send : ∀ s a, (v.standing s).receivers ≠ 0 → (channel.send s a).2 = some (v.standing s).receivers ∧
    ∃ dropped, v.standing (channel.send s a).1 = { v.standing s with sent := (v.standing s).sent + 1, dropped }
  /-- To receive changes nothing for others. -/
  receive : ∀ s r, v.standing (channel.receive s r).1 = v.standing s
  /-- A receiver whose next value has been dropped is told so, and goes on with the oldest that is held. -/
  receive_lagged : ∀ s r, v.next r < (v.standing s).dropped →
    (channel.receive s r).2.2 = .lagged ((v.standing s).dropped - v.next r) ∧
    v.next (channel.receive s r).2.1 = (v.standing s).dropped
  receive_value : ∀ s r, (v.standing s).dropped ≤ v.next r → v.next r < (v.standing s).sent →
    (∃ a, (channel.receive s r).2.2 = .value a) ∧ v.next (channel.receive s r).2.1 = v.next r + 1
  receive_closed : ∀ s r, (v.standing s).sent ≤ v.next r → (v.standing s).senders = 0 →
    (channel.receive s r).2.2 = .closed
  receive_empty : ∀ s r, (v.standing s).sent ≤ v.next r → (v.standing s).senders ≠ 0 →
    (channel.receive s r).2.2 = .empty ∧ v.next (channel.receive s r).2.1 = v.next r

/-- A receiver gets nothing just in case it has read everything and there are senders. -/
theorem View.Documented.receive_eq_empty_iff {channel : Broadcast α} {v : channel.View} (hv : v.Documented)
    (s : channel.Shared) (r : channel.Receiver) : (channel.receive s r).2.2 = .empty ↔
      (v.standing s).sent ≤ v.next r ∧ (v.standing s).senders ≠ 0 := by
  constructor
  · intro hempty
    rcases Nat.lt_or_ge (v.next r) (v.standing s).sent with hlt | hge
    · rcases Nat.lt_or_ge (v.next r) (v.standing s).dropped with hdropped | hheld
      · rw [(hv.receive_lagged s r hdropped).1] at hempty
        cases hempty
      · obtain ⟨⟨a, hvalue⟩, -⟩ := hv.receive_value s r hheld hlt
        rw [hvalue] at hempty
        cases hempty
    · refine ⟨hge, fun hsenders => ?_⟩
      rw [hv.receive_closed s r hge hsenders] at hempty
      cases hempty
  · rintro ⟨hread, hsenders⟩
    exact (hv.receive_empty s r hread hsenders).1

end Broadcast

-- ---------------------------------------------------------------------------
-- Rings
-- ---------------------------------------------------------------------------

namespace RingChannel

variable {α : Type} (r : RingChannel α) {n : Nat}

/-- What a ring holds are the last of the values that it was sent. -/
theorem first_add_length : r.first + r.held.length = r.sent :=
  Nat.sub_add_cancel r.held_le

theorem receive_of_lt_first (h : n < r.first) : r.receive n = (r.first, .lagged (r.first - n)) :=
  if_pos h

theorem receive_of_lt_sent (hheld : r.first ≤ n) (hsent : n < r.sent) :
    ∃ a, r.receive n = (n + 1, .value a) := by
  have hlt : n - r.first < r.held.length := by
    have := r.first_add_length
    omega
  refine ⟨r.held[n - r.first], ?_⟩
  rw [receive, if_neg (Nat.not_lt.2 hheld), List.getElem?_eq_getElem hlt]

theorem receive_of_sent_le (hread : r.sent ≤ n) :
    r.receive n = (n, if r.senders = 0 then .closed else .empty) := by
  have hfirst := r.first_add_length
  have hheld : ¬n < r.first := by omega
  have hnone : r.held[n - r.first]? = none := List.getElem?_eq_none (by omega)
  rw [receive, if_neg hheld, hnone]

end RingChannel

namespace Broadcast

variable {α : Type}

/-- What there is to know of rings. -/
def ringView : (ring : Broadcast α).View where
  standing r := ⟨r.senders, r.receivers, r.sent, r.first⟩
  next n := n

/-- **A ring does as channels are said to.** -/
theorem ringView_documented : (ringView (α := α)).Documented where
  create _ _ := rfl
  clone _ := rfl
  drop _ := rfl
  subscribe _ := rfl
  next_subscribe _ := rfl
  forget _ _ := rfl
  send_refused r a h := by
    have hsend : r.send a = (r, none) := if_pos h
    exact ⟨congrArg (fun p => ringView.standing p.1) hsend, congrArg Prod.snd hsend⟩
  send r a h := by
    have hsend : r.send a = (r.push a, some r.receivers) := if_neg h
    exact ⟨congrArg Prod.snd hsend, (r.push a).first, congrArg (fun p => ringView.standing p.1) hsend⟩
  receive _ _ := rfl
  receive_lagged r n h := by
    have hreceive := r.receive_of_lt_first h
    exact ⟨congrArg Prod.snd hreceive, congrArg Prod.fst hreceive⟩
  receive_value r n hheld hsent := by
    obtain ⟨a, hreceive⟩ := r.receive_of_lt_sent hheld hsent
    exact ⟨⟨a, congrArg Prod.snd hreceive⟩, congrArg Prod.fst hreceive⟩
  receive_closed r n hread hsenders := by
    have hreceive := r.receive_of_sent_le hread
    exact (congrArg Prod.snd hreceive).trans (if_pos hsenders)
  receive_empty r n hread hsenders := by
    have hreceive := r.receive_of_sent_le hread
    exact ⟨(congrArg Prod.snd hreceive).trans (if_neg hsenders), congrArg Prod.fst hreceive⟩

end Broadcast

end Repeater
