import Mathlib.Data.List.Induction
import Repeater.Proofs.Broadcast
import Repeater.StopSignal

/-!
# The stop signal neither loses nor invents a wake-up

What the operations on a stop signal have to tell is said in terms of the operations before them alone: a
receiver is there from its subscription until it is dropped or told that its waiting is over, and its
waiting is over as soon as the signal was fired since, or no handle is left. Nothing is said of channels,
and the signal keeps to it over every channel that does as channels are said to.

* `History.since`        — what has happened since a receiver subscribed;
* `History.Woken`        — its waiting is over;
* `History.Tells`        — what an operation has to tell;
* `Follows`              — the invariant: how the signal stands after what has happened.

## Results

* `Follows.step`         — one operation tells what it has to, and keeps the invariant;
* `History.Woken.cons`   — a receiver that is woken stays so until it is asked;
* `told_by_history`      — so it is for all operations of every sequence.
-/

namespace Repeater.StopSignal

-- ---------------------------------------------------------------------------
-- What has happened
-- ---------------------------------------------------------------------------

/-- Operations with what they told, the latest first. -/
abbrev History := List (Op × Told)

/-- The receiver of a name has subscribed. -/
def Begins (name : String) (event : Op × Told) : Prop :=
  event = (.subscribe name, .nothing)

/-- The receiver of a name was dropped, or it was told that its waiting is over. -/
def Ends (name : String) (event : Op × Told) : Prop :=
  event.1 = .forget name ∨ event = (.poll name, .polled .done)

instance (name : String) (event : Op × Told) : Decidable (Begins name event) :=
  inferInstanceAs (Decidable (_ = _))

instance (name : String) (event : Op × Told) : Decidable (Ends name event) :=
  inferInstanceAs (Decidable (_ ∨ _))

/-- What has happened since the receiver of a name subscribed; none if there is no such receiver. -/
def History.since (name : String) : History → Option History
  | [] => none
  | event :: past =>
    if Begins name event then some []
    else if Ends name event then none
    else (History.since name past).map (event :: ·)

/-- How many handles there are. -/
def History.handles : History → Nat
  | [] => 1
  | (.clone, .handles _) :: past => History.handles past + 1
  | (.drop, .handles _) :: past => History.handles past - 1
  | _ :: past => History.handles past

/-- The signal was fired. -/
def History.Fired (h : History) : Prop :=
  ∃ n, (Op.fire, Told.reached n) ∈ h

/-- The waiting of the receiver of a name is over: there is one, and the signal was fired since it subscribed or
nobody can fire it any more. -/
def History.Woken (h : History) (name : String) : Prop :=
  ∃ later, h.since name = some later ∧ (later.Fired ∨ h.handles = 0)

/-- The operation is one of a handle, not of a receiver. -/
def Op.OfHandle : Op → Prop
  | .clone | .drop | .subscribe _ | .fire => True
  | .forget _ | .poll _ => False

/-- What an operation has to tell after what has happened. -/
def History.Tells (past : History) (op : Op) (told : Told) : Prop :=
  match op with
  | .clone => told = if past.handles = 0 then .noHandle else .handles (past.handles + 1)
  | .drop => told = if past.handles = 0 then .noHandle else .handles (past.handles - 1)
  | .subscribe _ => told = if past.handles = 0 then .noHandle else .nothing
  -- as many as there are receivers
  | .fire => if past.handles = 0 then told = .noHandle else
      ∃ names : List String, names.Nodup ∧ (∀ name, name ∈ names ↔ (past.since name).isSome) ∧
        told = .reached names.length
  | .forget name => told = .existed (past.since name).isSome
  | .poll name => ∃ p, told = .polled p ∧ (p = .gone ↔ past.since name = none) ∧ (p = .done ↔ past.Woken name)

-- ---------------------------------------------------------------------------
-- The receivers by name
-- ---------------------------------------------------------------------------

section Receivers

variable {ρ : Type} {l : List (String × ρ)} {name : String}

theorem lookup_cons_eq (e : String × ρ) (n : String) :
    (e :: l).lookup n = if n = e.1 then some e.2 else l.lookup n := by
  obtain ⟨k, r⟩ := e
  by_cases h : n = k
  · simp [h]
  · simp [List.lookup_cons, beq_eq_false_iff_ne.2 h, h]

theorem mem_keys_iff : name ∈ l.map Prod.fst ↔ (l.lookup name).isSome := by
  induction l with
  | nil => simp
  | cons e l ih =>
    rw [lookup_cons_eq, List.map_cons, List.mem_cons, ih]
    split <;> simp_all

theorem lookup_without (n : String) :
    (l.filter fun e => e.1 != name).lookup n = if n = name then none else l.lookup n := by
  induction l with
  | nil => simp
  | cons e l ih =>
    rw [List.filter_cons, lookup_cons_eq]
    split <;> grind [lookup_cons_eq]

theorem length_without (hnodup : (l.map Prod.fst).Nodup) (h : name ∈ l.map Prod.fst) :
    (l.filter fun e => e.1 != name).length = l.length - 1 := by
  have hkeys : (l.filter fun e => e.1 != name).map Prod.fst = (l.map Prod.fst).erase name := by
    rw [hnodup.erase_eq_filter, List.filter_map]
    rfl
  rw [← List.length_map (f := Prod.fst), hkeys, List.length_erase_of_mem h, List.length_map]

theorem keys_replaced (r : ρ) : (l.map fun e => if e.1 = name then (name, r) else e).map Prod.fst =
    l.map Prod.fst := by
  rw [List.map_map]
  refine List.map_congr_left fun e _ => ?_
  simp only [Function.comp_apply]
  split <;> simp_all

theorem lookup_replaced (r : ρ) (n : String) :
    (l.map fun e => if e.1 = name then (name, r) else e).lookup n =
      (l.lookup n).map fun old => if n = name then r else old := by
  induction l with
  | nil => simp
  | cons e l ih =>
    rw [List.map_cons, lookup_cons_eq, lookup_cons_eq, ih]
    by_cases he : e.1 = name
    · by_cases hn : n = name <;> simp [he, hn]
    · by_cases hn : n = e.1 <;> simp [he, hn]

end Receivers

section Rel

variable {α β γ : Type} {R : α → β → Prop} {R' : α → γ → Prop} {x : Option α} {y : Option β}

theorem isSome_eq_of_rel (h : Option.Rel R x y) : x.isSome = y.isSome := by
  cases h <;> rfl

theorem eq_none_iff_of_rel (h : Option.Rel R x y) : y = none ↔ x = none := by
  cases h <;> simp

theorem exists_of_rel {a : α} (h : Option.Rel R (some a) y) : ∃ b, y = some b ∧ R a b := by
  cases h with
  | some hab => exact ⟨_, rfl, hab⟩

theorem rel_map_right {f : β → γ} (h : Option.Rel R x y) (hf : ∀ a b, R a b → R' a (f b)) :
    Option.Rel R' x (y.map f) := by
  cases h with
  | some hab => exact .some (hf _ _ hab)
  | none => exact .none

end Rel

-- ---------------------------------------------------------------------------
-- What has happened, and one thing more
-- ---------------------------------------------------------------------------

section Events

variable {past later : History} {event : Op × Told} {name : String}

theorem since_of_begins (h : Begins name event) : History.since name (event :: past) = some [] :=
  if_pos h

theorem since_of_ends (hbegins : ¬Begins name event) (h : Ends name event) :
    History.since name (event :: past) = none := by
  rw [History.since, if_neg hbegins, if_pos h]

theorem since_of_other (hbegins : ¬Begins name event) (hends : ¬Ends name event) :
    History.since name (event :: past) = (past.since name).map (event :: ·) := by
  rw [History.since, if_neg hbegins, if_neg hends]

/-- What a handle does ends no receiver. -/
theorem not_ends_of_ofHandle {op : Op} {told : Told} (h : op.OfHandle) : ¬Ends name (op, told) := by
  rintro (heq | heq) <;> cases heq <;> exact h

theorem not_ends_of_ne_done {n : String} {p : Polled} (h : p ≠ .done) : ¬Ends name (.poll n, .polled p) := by
  rintro (heq | heq)
  · cases heq
  · cases heq
    exact h rfl

/-- Something happens that is no firing, and has to do with no receiver. -/
structure Quiet (event : Op × Told) : Prop where
  not_fired : ∀ n, event ≠ (.fire, .reached n)
  not_begins : ∀ name, ¬Begins name event
  not_ends : ∀ name, ¬Ends name event

theorem fired_cons_iff (h : ∀ n, event ≠ (.fire, .reached n)) :
    History.Fired (event :: later) ↔ later.Fired := by
  constructor
  · rintro ⟨n, hn⟩
    rcases List.mem_cons.1 hn with heq | hmem
    · exact absurd heq.symm (h n)
    · exact ⟨n, hmem⟩
  · rintro ⟨n, hn⟩
    exact ⟨n, List.mem_cons_of_mem _ hn⟩

end Events

-- ---------------------------------------------------------------------------
-- The invariant
-- ---------------------------------------------------------------------------

section Invariant

variable {channel : Broadcast Unit}

/-- The channel has a sender for every handle, and a receiver for every name. -/
structure Sound (v : channel.View) (s : StopSignal channel) : Prop where
  senders : (v.standing s.shared).senders = s.handles
  receivers : (v.standing s.shared).receivers = s.receivers.length
  nodup : (s.receivers.map Prod.fst).Nodup

/-- A receiver has something to read just in case the signal was fired since it subscribed. -/
structure Heard (v : channel.View) (sent : Nat) (r : channel.Receiver) (later : History) : Prop where
  next_le : v.next r ≤ sent
  next_lt_iff : v.next r < sent ↔ later.Fired

/-- How the signal stands after what has happened. -/
structure Follows (v : channel.View) (past : History) (s : StopSignal channel) : Prop where
  sound : Sound v s
  handles : s.handles = past.handles
  heard : ∀ name, Option.Rel (Heard v (v.standing s.shared).sent) (s.receivers.lookup name) (past.since name)

variable {v : channel.View} {past : History} {s s' : StopSignal channel} {event : Op × Told} {name : String}

theorem Heard.cons {sent : Nat} {r : channel.Receiver} {later : History} (h : Heard v sent r later)
    (hevent : ∀ n, event ≠ (.fire, .reached n)) : Heard v sent r (event :: later) :=
  ⟨h.next_le, h.next_lt_iff.trans (fired_cons_iff hevent).symm⟩

/-- There is a receiver of a name just in case one has subscribed. -/
theorem Follows.mem_receivers_iff (h : Follows v past s) :
    name ∈ s.receivers.map Prod.fst ↔ (past.since name).isSome := by
  rw [mem_keys_iff, isSome_eq_of_rel (h.heard name)]

/-- What has to do with another receiver is only one thing more that has happened. -/
theorem heard_cons {sent : Nat} {x : Option channel.Receiver} (h : Option.Rel (Heard v sent) x (past.since name))
    (hfired : ∀ n, event ≠ (.fire, .reached n)) (hbegins : ¬Begins name event) (hends : ¬Ends name event) :
    Option.Rel (Heard v sent) x (History.since name (event :: past)) := by
  rw [since_of_other hbegins hends]
  exact rel_map_right h fun _ _ hheard => hheard.cons hfired

/-- What is no firing and has to do with no receiver leaves the receivers as they are. -/
theorem Follows.quiet (h : Follows v past s) (hevent : Quiet event)
    (hhandles : s'.handles = History.handles (event :: past)) (hreceivers : s'.receivers = s.receivers)
    (hstanding : v.standing s'.shared = { v.standing s.shared with senders := s'.handles }) :
    Follows v (event :: past) s' := by
  refine ⟨⟨?_, ?_, ?_⟩, hhandles, fun name => ?_⟩
  · rw [hstanding]
  · rw [hstanding, hreceivers]
    exact h.sound.receivers
  · rw [hreceivers]
    exact h.sound.nodup
  · rw [hstanding, hreceivers]
    exact heard_cons (h.heard name) hevent.not_fired (hevent.not_begins name) (hevent.not_ends name)

/-- The signal stays as it is. -/
theorem Follows.unmoved (h : Follows v past s) (hevent : Quiet event)
    (hhandles : History.handles (event :: past) = past.handles) : Follows v (event :: past) s := by
  refine h.quiet hevent (h.handles.trans hhandles.symm) rfl ?_
  rw [← h.sound.senders]

-- ---------------------------------------------------------------------------
-- A receiver goes
-- ---------------------------------------------------------------------------

theorem lookup_forget (n : String) :
    (s.forget name).receivers.lookup n = if n = name then none else s.receivers.lookup n := by
  rw [forget]
  cases hr : s.receivers.lookup name with
  | none =>
    by_cases hn : n = name
    · rw [if_pos hn, hn]
      exact hr
    · rw [if_neg hn]
  | some r => exact lookup_without n

@[simp] theorem handles_forget : (s.forget name).handles = s.handles := by
  rw [forget]
  split <;> rfl

theorem sent_forget (hv : v.Documented) :
    (v.standing (s.forget name).shared).sent = (v.standing s.shared).sent := by
  rw [forget]
  split
  · rfl
  · rw [hv.forget]

theorem Sound.forget (h : Sound v s) (hv : v.Documented) (name : String) : Sound v (s.forget name) := by
  rw [StopSignal.forget]
  cases hr : s.receivers.lookup name with
  | none => exact h
  | some r =>
    have hmem : name ∈ s.receivers.map Prod.fst := mem_keys_iff.2 (by rw [hr]; rfl)
    refine ⟨?_, ?_, ?_⟩
    · rw [hv.forget]
      exact h.senders
    · rw [hv.forget, h.receivers]
      exact (length_without h.nodup hmem).symm
    · exact h.nodup.sublist (List.filter_sublist.map Prod.fst)

/-- After what ends a receiver it is gone, and the others are as they were. -/
theorem Follows.ended (h : Follows v past s) (hv : v.Documented) (hends : ∀ n, Ends n event ↔ n = name)
    (hbegins : ∀ n, ¬Begins n event) (hfired : ∀ n, event ≠ (.fire, .reached n)) (hsound : Sound v s')
    (hhandles : s'.handles = History.handles (event :: past))
    (hlookup : ∀ n, n ≠ name → s'.receivers.lookup n = s.receivers.lookup n)
    (hsent : (v.standing s'.shared).sent = (v.standing s.shared).sent) :
    Follows v (event :: past) (s'.forget name) := by
  refine ⟨hsound.forget hv name, handles_forget.trans hhandles, fun n => ?_⟩
  rw [lookup_forget, sent_forget hv, hsent]
  by_cases hn : n = name
  · rw [if_pos hn, since_of_ends (hbegins n) ((hends n).2 hn)]
    exact .none
  · rw [if_neg hn, hlookup n hn]
    exact heard_cons (h.heard n) hfired (hbegins n) fun hend => hn ((hends n).1 hend)

-- ---------------------------------------------------------------------------
-- One operation
-- ---------------------------------------------------------------------------

theorem Follows.clone (h : Follows v past s) (hv : v.Documented) :
    Follows v ((.clone, .handles s.clone.handles) :: past) s.clone := by
  refine h.quiet ⟨nofun, nofun, fun _ => not_ends_of_ofHandle trivial⟩ (congrArg (· + 1) h.handles) rfl ?_
  rw [StopSignal.clone, hv.clone, h.sound.senders]

theorem Follows.drop (h : Follows v past s) (hv : v.Documented) :
    Follows v ((.drop, .handles s.drop.handles) :: past) s.drop := by
  refine h.quiet ⟨nofun, nofun, fun _ => not_ends_of_ofHandle trivial⟩ (congrArg (· - 1) h.handles) rfl ?_
  rw [StopSignal.drop, hv.drop, h.sound.senders]

theorem Follows.subscribe (h : Follows v past s) (hv : v.Documented) (name : String) :
    Follows v ((.subscribe name, .nothing) :: past) (s.subscribe name) := by
  have hsound := h.sound.forget hv name
  have hgone : name ∉ (s.forget name).receivers.map Prod.fst := by
    rw [mem_keys_iff, lookup_forget, if_pos rfl]
    nofun
  refine ⟨⟨?_, ?_, List.nodup_cons.2 ⟨hgone, hsound.nodup⟩⟩, handles_forget.trans h.handles, fun n => ?_⟩
  · rw [StopSignal.subscribe, hv.subscribe]
    exact hsound.senders
  · rw [StopSignal.subscribe, hv.subscribe]
    exact congrArg (· + 1) hsound.receivers
  · have hsent : (v.standing (s.subscribe name).shared).sent = (v.standing s.shared).sent := by
      rw [StopSignal.subscribe, hv.subscribe]
      exact sent_forget hv
    rw [hsent, StopSignal.subscribe, lookup_cons_eq]
    by_cases hn : n = name
    · -- it has read everything, since nothing has happened
      rw [if_pos hn, hn, since_of_begins rfl]
      have hnext := hv.next_subscribe (s.forget name).shared
      rw [sent_forget hv] at hnext
      refine .some ⟨Nat.le_of_eq hnext, ?_⟩
      simp [hnext, History.Fired]
    · rw [if_neg hn, lookup_forget, if_neg hn]
      refine heard_cons (h.heard n) nofun (fun heq => hn ?_) (not_ends_of_ofHandle trivial)
      cases heq
      rfl

theorem Follows.forget (h : Follows v past s) (hv : v.Documented) (name : String) (b : Bool) :
    Follows v ((.forget name, .existed b) :: past) (s.forget name) := by
  refine h.ended hv (fun n => ⟨?_, ?_⟩) nofun nofun h.sound h.handles (fun _ _ => rfl) rfl
  · rintro (heq | heq) <;> cases heq
    rfl
  · rintro rfl
    exact .inl rfl

/-- What is fired reaches as many as there are receivers, and each of them has something to read then. -/
theorem Follows.fire (h : Follows v past s) (hv : v.Documented) :
    s.fire.2 = s.receivers.length ∧ Follows v ((.fire, .reached s.fire.2) :: past) s.fire.1 := by
  have hother (n : String) : History.since n ((.fire, .reached s.fire.2) :: past) =
      (past.since n).map ((.fire, .reached s.fire.2) :: ·) :=
    since_of_other nofun (not_ends_of_ofHandle trivial)
  have hshared : s.fire.1.shared = (channel.send s.shared ()).1 := rfl
  have hcount : s.fire.2 = (channel.send s.shared ()).2.getD 0 := rfl
  by_cases hnone : (v.standing s.shared).receivers = 0
  · obtain ⟨hstanding, hrefused⟩ := hv.send_refused s.shared () hnone
    have hempty : s.receivers = [] := List.length_eq_zero_iff.1 (h.sound.receivers ▸ hnone)
    rw [← hshared] at hstanding
    refine ⟨?_, ⟨?_, ?_, h.sound.nodup⟩, h.handles, fun n => ?_⟩
    · rw [hcount, hrefused, hempty]
      rfl
    · rw [hstanding]
      exact h.sound.senders
    · rw [hstanding]
      exact h.sound.receivers
    · have hlookup : s.receivers.lookup n = none := by
        rw [hempty]
        rfl
      rw [hother, (eq_none_iff_of_rel (h.heard n)).2 hlookup]
      exact hlookup ▸ Option.Rel.none
  · obtain ⟨hreached, dropped, hstanding⟩ := hv.send s.shared () hnone
    rw [← hshared] at hstanding
    refine ⟨?_, ⟨?_, ?_, h.sound.nodup⟩, h.handles, fun n => ?_⟩
    · rw [hcount, hreached]
      exact h.sound.receivers
    · rw [hstanding]
      exact h.sound.senders
    · rw [hstanding]
      exact h.sound.receivers
    · rw [hother, hstanding]
      refine rel_map_right (h.heard n) fun r later hheard => ⟨Nat.le_succ_of_le hheard.next_le, ?_⟩
      exact iff_of_true (Nat.lt_succ_of_le hheard.next_le) ⟨_, List.mem_cons_self⟩

-- ---------------------------------------------------------------------------
-- Asking
-- ---------------------------------------------------------------------------

/-- The signal after the receiver of a name has asked for the next value. -/
def asked (s : StopSignal channel) (name : String) (r : channel.Receiver) : StopSignal channel :=
  update { s with shared := (channel.receive s.shared r).1 } name (channel.receive s.shared r).2.1

variable {r : channel.Receiver}

theorem poll_of_none (h : s.receivers.lookup name = none) : s.poll name = (s, .gone) := by
  rw [poll, h]

theorem poll_of_empty (h : s.receivers.lookup name = some r) (hgot : (channel.receive s.shared r).2.2 = .empty) :
    s.poll name = (s.asked name r, .pending) := by
  rw [poll, h]
  dsimp only
  rw [hgot]
  rfl

theorem poll_of_ne_empty (h : s.receivers.lookup name = some r)
    (hgot : (channel.receive s.shared r).2.2 ≠ .empty) : s.poll name = ((s.asked name r).forget name, .done) := by
  rw [poll, h]
  dsimp only
  split
  · contradiction
  · rfl

theorem lookup_asked (n : String) :
    (s.asked name r).receivers.lookup n = (s.receivers.lookup n).map fun old =>
      if n = name then (channel.receive s.shared r).2.1 else old :=
  lookup_replaced _ n

theorem lookup_asked_of_ne {n : String} (hn : n ≠ name) :
    (s.asked name r).receivers.lookup n = s.receivers.lookup n := by
  rw [lookup_asked]
  simp only [if_neg hn, Option.map_id']

theorem standing_asked (hv : v.Documented) :
    v.standing (s.asked name r).shared = v.standing s.shared :=
  hv.receive s.shared r

theorem Sound.asked (h : Sound v s) (hv : v.Documented) : Sound v (s.asked name r) := by
  refine ⟨?_, ?_, ?_⟩
  · rw [standing_asked hv]
    exact h.senders
  · rw [standing_asked hv, h.receivers]
    exact (List.length_map _).symm
  · rw [StopSignal.asked, update, keys_replaced]
    exact h.nodup

/-- The waiting of a receiver is over just in case it gets something from the channel. -/
theorem Follows.woken_iff (h : Follows v past s) (hv : v.Documented) (hlookup : s.receivers.lookup name = some r) :
    past.Woken name ↔ (channel.receive s.shared r).2.2 ≠ .empty := by
  obtain ⟨later, hsince, hr⟩ := exists_of_rel (hlookup ▸ h.heard name)
  rw [ne_eq, hv.receive_eq_empty_iff, h.sound.senders, h.handles, not_and_or, Nat.not_le, not_not, hr.next_lt_iff]
  simp only [History.Woken, hsince, Option.some.injEq, exists_eq_left']

/-- A receiver that gets nothing has read everything, and goes on waiting. -/
theorem Follows.pending (h : Follows v past s) (hv : v.Documented) (hlookup : s.receivers.lookup name = some r)
    (hgot : (channel.receive s.shared r).2.2 = .empty) :
    Follows v ((.poll name, .polled .pending) :: past) (s.asked name r) := by
  refine ⟨h.sound.asked hv, h.handles, fun n => ?_⟩
  rw [standing_asked hv]
  have hquiet : Option.Rel (Heard v (v.standing s.shared).sent) (s.receivers.lookup n)
      (History.since n ((.poll name, .polled .pending) :: past)) :=
    heard_cons (h.heard n) nofun nofun (not_ends_of_ne_done nofun)
  by_cases hn : n = name
  · subst hn
    rw [hlookup] at hquiet
    obtain ⟨later, hlater, hr⟩ := exists_of_rel hquiet
    rw [lookup_asked, hlookup, Option.map_some, if_pos rfl, hlater]
    obtain ⟨hread, hsenders⟩ := (hv.receive_eq_empty_iff s.shared r).1 hgot
    have hnext := (hv.receive_empty s.shared r hread hsenders).2
    exact .some ⟨hnext ▸ hr.next_le, hnext ▸ hr.next_lt_iff⟩
  · rw [lookup_asked_of_ne hn]
    exact hquiet

/-- A receiver that gets something is gone. -/
theorem Follows.done (h : Follows v past s) (hv : v.Documented) :
    Follows v ((.poll name, .polled .done) :: past) ((s.asked name r).forget name) := by
  refine h.ended hv (fun n => ⟨?_, ?_⟩) nofun nofun (h.sound.asked hv) h.handles
    (fun n hn => lookup_asked_of_ne hn) (by rw [standing_asked hv])
  · rintro (heq | heq) <;> cases heq
    rfl
  · rintro rfl
    exact .inr rfl

/-- A receiver that is asked is told of what has happened since it subscribed. -/
theorem Follows.poll (h : Follows v past s) (hv : v.Documented) (name : String) :
    History.Tells past (.poll name) (.polled (s.poll name).2) ∧
      Follows v ((.poll name, .polled (s.poll name).2) :: past) (s.poll name).1 := by
  cases hlookup : s.receivers.lookup name with
  | none =>
    have hsince := (eq_none_iff_of_rel (h.heard name)).2 hlookup
    rw [poll_of_none hlookup]
    refine ⟨⟨_, rfl, iff_of_true rfl hsince, iff_of_false nofun ?_⟩, ?_⟩
    · rintro ⟨later, hlater, -⟩
      rw [hsince] at hlater
      cases hlater
    · exact h.unmoved ⟨nofun, nofun, fun _ => not_ends_of_ne_done nofun⟩ rfl
  | some r =>
    have hsince : past.since name ≠ none := by
      rw [ne_eq, eq_none_iff_of_rel (h.heard name), hlookup]
      nofun
    have hwoken := h.woken_iff hv hlookup
    by_cases hgot : (channel.receive s.shared r).2.2 = .empty
    · rw [poll_of_empty hlookup hgot]
      have hasleep : ¬past.Woken name := fun hw => hwoken.1 hw hgot
      exact ⟨⟨_, rfl, iff_of_false nofun hsince, iff_of_false nofun hasleep⟩, h.pending hv hlookup hgot⟩
    · rw [poll_of_ne_empty hlookup hgot]
      exact ⟨⟨_, rfl, iff_of_false nofun hsince, iff_of_true rfl (hwoken.2 hgot)⟩, h.done hv⟩

/-- Without handles the operations that need one are refused. -/
theorem apply_of_handles_eq_zero (h : s.handles = 0) {op : Op} (hop : op.OfHandle) :
    s.apply op = (s, .noHandle) := by
  cases op with
  | forget name | poll name => cases hop
  | clone | drop | subscribe name | fire => exact if_pos h

theorem Follows.refused (h : Follows v past s) (hzero : s.handles = 0) {op : Op} (hop : op.OfHandle) :
    past.Tells op (s.apply op).2 ∧ Follows v ((op, (s.apply op).2) :: past) (s.apply op).1 := by
  have hnone : past.handles = 0 := h.handles ▸ hzero
  rw [apply_of_handles_eq_zero hzero hop]
  constructor
  · cases op with
    | forget name | poll name => cases hop
    | clone | drop | subscribe name | fire => simp [History.Tells, hnone]
  · refine h.unmoved ⟨nofun, nofun, fun _ => not_ends_of_ofHandle hop⟩ ?_
    cases op <;> rfl

/-- **One operation tells what it has to, and the invariant is kept.** -/
theorem Follows.step (h : Follows v past s) (hv : v.Documented) (op : Op) :
    past.Tells op (s.apply op).2 ∧ Follows v ((op, (s.apply op).2) :: past) (s.apply op).1 := by
  by_cases hrefused : s.handles = 0 ∧ op.OfHandle
  · exact h.refused hrefused.1 hrefused.2
  · have hsome (hop : op.OfHandle) : s.handles ≠ 0 := fun hzero => hrefused ⟨hzero, hop⟩
    have hpast (hop : op.OfHandle) : past.handles ≠ 0 := h.handles ▸ hsome hop
    cases op with
    | forget name => exact ⟨congrArg Told.existed (isSome_eq_of_rel (h.heard name)), h.forget hv name _⟩
    | poll name => exact h.poll hv name
    | clone =>
      have happly : s.apply .clone = (s.clone, .handles s.clone.handles) := if_neg (hsome trivial)
      rw [happly]
      refine ⟨?_, h.clone hv⟩
      rw [History.Tells, if_neg (hpast trivial), ← h.handles]
      rfl
    | drop =>
      have happly : s.apply .drop = (s.drop, .handles s.drop.handles) := if_neg (hsome trivial)
      rw [happly]
      refine ⟨?_, h.drop hv⟩
      rw [History.Tells, if_neg (hpast trivial), ← h.handles]
      rfl
    | subscribe name =>
      have happly : s.apply (.subscribe name) = (s.subscribe name, .nothing) := if_neg (hsome trivial)
      rw [happly]
      exact ⟨(if_neg (hpast trivial)).symm, h.subscribe hv name⟩
    | fire =>
      have happly : s.apply .fire = (s.fire.1, .reached s.fire.2) := if_neg (hsome trivial)
      obtain ⟨hreached, hfollows⟩ := h.fire hv
      rw [happly]
      refine ⟨?_, hfollows⟩
      rw [History.Tells, if_neg (hpast trivial)]
      refine ⟨s.receivers.map Prod.fst, h.sound.nodup, fun name => h.mem_receivers_iff, ?_⟩
      rw [hreached, List.length_map]

/-- Before the first operation there is one handle, and the receiver that the channel came with is dropped. -/
theorem follows_new (hv : v.Documented) : Follows v [] (new channel) := by
  have hstanding : v.standing (new channel).shared = ⟨1, 0, 0, 0⟩ := by
    simp only [new, hv.forget, hv.create 1 Nat.one_pos]
  refine ⟨⟨?_, ?_, List.nodup_nil⟩, rfl, fun name => .none⟩
  · rw [hstanding]
    rfl
  · rw [hstanding]
    rfl

end Invariant

-- ---------------------------------------------------------------------------
-- All operations
-- ---------------------------------------------------------------------------

/-- The operations of a sequence with what they tell, in their order. -/
def transcript (channel : Broadcast Unit) (ops : List Op) : List (Op × Told) :=
  ops.zip ((new channel).run ops).2

/-- What a sequence of operations tells is what there is to tell. -/
structure Due (events : List (Op × Told)) : Prop where
  tells : ∀ before op told after, events = before ++ (op, told) :: after → History.Tells before.reverse op told
  /-- A receiver that is woken stays so until it is asked, dropped or replaced. -/
  stays : ∀ before after name, events = before ++ after → History.Woken before.reverse name →
    (∀ event ∈ after, event.1 ≠ .poll name ∧ event.1 ≠ .forget name ∧ event.1 ≠ .subscribe name) →
      History.Woken (before ++ after).reverse name

section Run

variable {channel : Broadcast Unit} {v : channel.View} {past : History} {s : StopSignal channel}

theorem length_run (s : StopSignal channel) (ops : List Op) : (s.run ops).2.length = ops.length := by
  induction ops generalizing s with
  | nil => rfl
  | cons op ops ih => exact congrArg (· + 1) (ih _)

theorem Follows.tells_run (h : Follows v past s) (hv : v.Documented) {ops : List Op} {before after : List (Op × Told)}
    {op : Op} {told : Told} (hrun : ops.zip (s.run ops).2 = before ++ (op, told) :: after) :
    History.Tells (before.reverse ++ past) op told := by
  induction ops generalizing s past before with
  | nil => simp at hrun
  | cons first ops ih =>
    obtain ⟨htells, hfollows⟩ := h.step hv first
    rw [run, List.zip_cons_cons] at hrun
    cases before with
    | nil =>
      obtain ⟨⟨⟩, -⟩ := List.cons.inj hrun
      exact htells
    | cons event before =>
      obtain ⟨rfl, hrest⟩ := List.cons.inj hrun
      rw [List.reverse_cons, List.append_assoc]
      exact ih hfollows hrest

/-- When no handle is left there will never be one again. -/
theorem handles_cons_eq_zero {op : Op} {told : Told} (h : past.handles = 0) (htells : past.Tells op told) :
    History.handles ((op, told) :: past) = 0 := by
  cases op with
  | clone | drop =>
    obtain rfl : told = .noHandle := htells.trans (if_pos h)
    exact h
  | subscribe _ | fire | forget _ | poll _ => exact h

/-- **A receiver that is woken stays so** when what happens does not concern it. -/
theorem History.Woken.cons {op : Op} {told : Told} {name : String} (h : past.Woken name)
    (htells : past.Tells op told) (hpoll : op ≠ .poll name) (hforget : op ≠ .forget name)
    (hsubscribe : op ≠ .subscribe name) : History.Woken ((op, told) :: past) name := by
  obtain ⟨later, hsince, hor⟩ := h
  have hbegins : ¬Begins name (op, told) := fun heq => hsubscribe (congrArg Prod.fst heq)
  have hends : ¬Ends name (op, told) := fun hend => hend.elim hforget fun heq => hpoll (congrArg Prod.fst heq)
  refine ⟨(op, told) :: later, ?_, ?_⟩
  · rw [since_of_other hbegins hends, hsince]
    rfl
  · rcases hor with ⟨n, hn⟩ | hzero
    · exact .inl ⟨n, List.mem_cons_of_mem _ hn⟩
    · exact .inr (handles_cons_eq_zero hzero htells)

/-- **A stop signal neither loses nor invents a wake-up.** Over every channel that does as channels are said to, all
operations of every sequence tell what there is to tell: who fires the signal is told how many receivers there are,
and the waiting of a receiver is over just in case the signal was fired since it subscribed or no handle is left. -/
theorem told_by_history (v : channel.View) (hv : v.Documented) (ops : List Op) :
    (transcript channel ops).map Prod.fst = ops ∧ Due (transcript channel ops) := by
  have htells (before : List (Op × Told)) (op : Op) (told : Told) (after : List (Op × Told))
      (h : transcript channel ops = before ++ (op, told) :: after) : History.Tells before.reverse op told := by
    have := (follows_new hv).tells_run hv h
    rwa [List.append_nil] at this
  refine ⟨List.map_fst_zip (Nat.le_of_eq (length_run _ _).symm), htells, fun before after name h hwoken hquiet => ?_⟩
  obtain ⟨rest, hrest⟩ : ∃ rest, transcript channel ops = before ++ after ++ rest :=
    ⟨[], h.trans (List.append_nil _).symm⟩
  clear h
  induction after using List.reverseRecOn generalizing rest with
  | nil => rwa [List.append_nil]
  | append_singleton after event ih =>
    have hbefore : transcript channel ops = before ++ after ++ event :: rest := by
      rw [hrest]
      simp only [List.append_assoc, List.singleton_append]
    obtain ⟨hpoll, hforget, hsubscribe⟩ := hquiet event (by simp)
    have hstays := ih (fun e he => hquiet e (List.mem_append_left _ he)) (event :: rest) hbefore
    rw [← List.append_assoc, List.reverse_append]
    exact hstays.cons (htells _ _ _ _ hbefore) hpoll hforget hsubscribe

/-- One receiver misses a signal, one gets the next, and one is released when the last handle is dropped. -/
def threeReceivers : List Op :=
  [.subscribe "a", .fire, .fire, .clone, .subscribe "b", .drop, .poll "b", .poll "a", .poll "a", .fire,
    .subscribe "c", .poll "c", .drop, .poll "b", .poll "c", .fire]

theorem told_by_history_threeReceivers : (Broadcast.ringView (α := Unit)).Documented ∧
    transcript .ring threeReceivers = threeReceivers.zip [.nothing, .reached 1, .reached 1, .handles 2, .nothing,
      .handles 1, .polled .pending, .polled .done, .polled .gone, .reached 1, .nothing, .polled .pending, .handles 0,
      .polled .done, .polled .done, .noHandle] ∧
    Due (transcript .ring threeReceivers) :=
  ⟨Broadcast.ringView_documented, rfl, (told_by_history Broadcast.ringView Broadcast.ringView_documented _).2⟩

end Run

end Repeater.StopSignal
