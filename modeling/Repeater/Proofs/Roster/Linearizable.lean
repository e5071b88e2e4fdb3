import Mathlib.Data.List.Induction
import Repeater.Proofs.Roster.Calls

/-!
# Racing calls take effect one after the other

However the steps of racing workers are interleaved, the calls that were answered can be put into one
order in which they take effect one at a time. The order is that of the answers: a call takes effect
with the step that answers it, and until then it has done nothing that others could see.

* `Completed.Precedes` — one call was answered before another began;
* `Linearizes`         — what such an order has to fulfil;
* `Race.Coherent`      — the invariant of a race: what each worker knows about the cell it holds, and
  that its program consists of the calls answered, the call it is at, and the calls to come.

## Results

* `Race.Coherent.step`     — one step keeps the invariant;
* `Race.step_cases`        — one step answers no call, or one, which takes effect in it;
* `Linearizes.concat`      — the order of a run, continued by one step;
* `exists_linearization`   — every run of every set of programs has such an order.
-/

namespace Repeater.Roster

-- ---------------------------------------------------------------------------
-- What can be seen of a race
-- ---------------------------------------------------------------------------

/-- The answers of a worker with their calls, the earliest first. -/
def Race.answersOf (race : Race) (i : Nat) : List (Call × Answer) :=
  (race.workers[i]?.map fun w => w.answers.reverse).getD []

/-- The calls that a worker has not begun. -/
def Race.todoOf (race : Race) (i : Nat) : List Call :=
  (race.workers[i]?.map Worker.todo).getD []

/-- The call that a worker is at, if any. -/
def Race.currentOf (race : Race) (i : Nat) : List Call :=
  (race.workers[i]?.map fun w => w.stage.call?.toList).getD []

/-- A call that was answered: whose it is, its place in the program, and its answer. -/
structure Completed where
  worker : Nat
  place : Nat
  call : Call
  answer : Answer

namespace Completed

/-- The call has been answered. -/
def Returned (o : Completed) (race : Race) : Prop :=
  (race.answersOf o.worker)[o.place]? = some (o.call, o.answer)

/-- The call has been begun. -/
def Begun (o : Completed) (start race : Race) : Prop :=
  o.place < (start.todoOf o.worker).length - (race.todoOf o.worker).length

/-- At some time of a run the one call was answered and the other not yet begun. -/
def Precedes (o p : Completed) (start : Race) (schedule : List Nat) : Prop :=
  ∃ past, past <+: schedule ∧ o.Returned (start.run past) ∧ ¬p.Begun start (start.run past)

end Completed

/-- An order of the calls that a run answers, in which they could have been made one at a time. -/
structure Linearizes (order : List Completed) (start : Race) (schedule : List Nat) : Prop where
  /-- No call is there twice. -/
  nodup : (order.map fun o => (o.worker, o.place)).Nodup
  /-- The calls are those that were answered, with their answers. -/
  mem_iff : ∀ o, o ∈ order ↔ o.Returned (start.run schedule)
  /-- Each is the call that stands at its place in the program. -/
  call_eq : ∀ o ∈ order, (start.todoOf o.worker)[o.place]? = some o.call
  /-- The calls of one worker keep their order. -/
  program_order : order.Pairwise fun o p => o.worker = p.worker → o.place < p.place
  /-- A call that was answered before another began comes first. -/
  real_time : order.Pairwise fun o p => ¬p.Precedes o start schedule
  /-- Made one at a time in this order, the calls give the same answers and the same roster. -/
  performed : performAll start.cell.roster.entries (order.map Completed.call) =
    (order.map fun o => o.answer.shown, (start.run schedule).cell.roster.entries)
  /-- An answer is made from the list that was published when it was given, never from one that a
  failed attempt saw. -/
  fresh : ∀ past i, past ++ [i] <+: schedule → ∀ o : Completed,
    o.Returned (start.run (past ++ [i])) → ¬o.Returned (start.run past) →
      o.answer.shown = (o.call.perform (start.run past).cell.roster.entries).1

-- ---------------------------------------------------------------------------
-- One step of a race
-- ---------------------------------------------------------------------------

section Step

variable {start race : Race}

/-- The invariant of a race. -/
structure Race.Coherent (race start : Race) : Prop where
  sound : ∀ w ∈ race.workers, w.stage.Sound race.cell
  calls : ∀ i, start.todoOf i =
    (race.answersOf i).map Prod.fst ++ (race.currentOf i ++ race.todoOf i)

theorem Race.step_eq_self {i : Nat} (h : race.workers[i]? = none) : race.step i = race := by
  simp [Race.step, h]

theorem Race.step_eq {i : Nat} {w : Worker} (h : race.workers[i]? = some w) :
    race.step i = ⟨(w.step race.cell).1, race.workers.set i (w.step race.cell).2⟩ := by
  simp [Race.step, h]

/-- After a step of the `i`-th worker, that worker has made its step. -/
theorem Race.workers_step_self {i : Nat} {w : Worker} (h : race.workers[i]? = some w) :
    (race.step i).workers[i]? = some (w.step race.cell).2 := by
  have hi : i < race.workers.length := (List.getElem?_eq_some_iff.1 h).1
  rw [Race.step_eq h]
  exact List.getElem?_set_self hi

/-- A step of one worker is no step of another. -/
theorem Race.workers_step_of_ne {i j : Nat} (h : j ≠ i) :
    (race.step i).workers[j]? = race.workers[j]? := by
  cases hw : race.workers[i]? with
  | none => rw [Race.step_eq_self hw]
  | some w =>
    rw [Race.step_eq hw]
    exact List.getElem?_set_ne (Ne.symm h)

/-- What a step can do to the answers of all workers and to the published list. -/
inductive Race.Effect (race race' : Race) (i : Nat) : Prop where
  /-- No call is answered. -/
  | quiet (cell_eq : race'.cell = race.cell)
      (answers_eq : ∀ j, race'.answersOf j = race.answersOf j)
  /-- The `i`-th worker answers a call, which takes effect. -/
  | answered (call : Call) (answer : Answer)
      (answers_self : race'.answersOf i = race.answersOf i ++ [(call, answer)])
      (answers_eq : ∀ j, j ≠ i → race'.answersOf j = race.answersOf j)
      (meant : (answer.shown, race'.cell.roster.entries) = call.perform race.cell.roster.entries)

theorem Race.answersOf_step_of_ne {i j : Nat} (h : j ≠ i) :
    (race.step i).answersOf j = race.answersOf j := by
  rw [Race.answersOf, Race.workers_step_of_ne h, Race.answersOf]

theorem Race.answersOf_eq {i : Nat} {w : Worker} (h : race.workers[i]? = some w) :
    race.answersOf i = w.answers.reverse := by
  simp [Race.answersOf, h]

theorem Race.todoOf_eq {i : Nat} {w : Worker} (h : race.workers[i]? = some w) :
    race.todoOf i = w.todo := by
  simp [Race.todoOf, h]

theorem Race.currentOf_eq {i : Nat} {w : Worker} (h : race.workers[i]? = some w) :
    race.currentOf i = w.stage.call?.toList := by
  simp [Race.currentOf, h]

/-- One step answers no call, or one. -/
theorem Race.step_cases (h : race.Coherent start) (i : Nat) : race.Effect (race.step i) i := by
  cases hw : race.workers[i]? with
  | none =>
    rw [Race.step_eq_self hw]
    exact .quiet rfl fun _ => rfl
  | some w =>
    have hself := Race.answersOf_eq (Race.workers_step_self hw)
    have hold := Race.answersOf_eq hw
    have hcell : (race.step i).cell = (w.step race.cell).1 := by rw [Race.step_eq hw]
    rcases Worker.step_cases (h.sound w (List.mem_of_getElem? hw)) with hq | ⟨call, answer, ha⟩
    · refine .quiet (hcell.trans hq.cell_eq) fun j => ?_
      by_cases hj : j = i
      · subst hj
        rw [hself, hold, hq.answers_eq]
      · exact Race.answersOf_step_of_ne hj
    · refine .answered call answer ?_ (fun j => Race.answersOf_step_of_ne) ?_
      · rw [hself, hold, ha.answers_eq, List.reverse_cons]
      · rw [hcell]
        exact ha.meant

/-- One step keeps the invariant. -/
theorem Race.Coherent.step (h : race.Coherent start) (i : Nat) : (race.step i).Coherent start := by
  cases hw : race.workers[i]? with
  | none =>
    rw [Race.step_eq_self hw]
    exact h
  | some w =>
    have hmem : w ∈ race.workers := List.mem_of_getElem? hw
    refine ⟨fun v hv => ?_, fun j => ?_⟩
    · rw [Race.step_eq hw] at hv ⊢
      rcases List.mem_or_eq_of_mem_set hv with hold | rfl
      · -- the cell that another worker holds was published before
        exact (h.sound v hold).mono (Worker.seenBefore_step race.cell w)
      · exact (h.sound w hmem).step
    · by_cases hj : j = i
      · subst hj
        have hnew := Race.workers_step_self hw
        have hcalls := h.calls j
        rw [Race.answersOf_eq hw, Race.currentOf_eq hw, Race.todoOf_eq hw] at hcalls
        rw [Race.answersOf_eq hnew, Race.currentOf_eq hnew, Race.todoOf_eq hnew, hcalls]
        rcases Worker.step_cases (h.sound w hmem) with hq | ⟨call, answer, ha⟩
        · rw [hq.answers_eq, hq.calls_eq]
        · rw [ha.answers_eq, ha.calls_eq, ha.idle]
          simp [Stage.call?]
      · rw [h.calls j]
        simp only [Race.answersOf, Race.currentOf, Race.todoOf, Race.workers_step_of_ne hj]

theorem Race.Coherent.run (h : race.Coherent start) (schedule : List Nat) :
    (race.run schedule).Coherent start := by
  induction schedule generalizing race with
  | nil => exact h
  | cons i rest ih => exact ih (h.step i)

/-- Before the first step all calls are to come. -/
theorem Race.coherent_start (r : Roster) (programs : List (List Call)) :
    (Race.start r programs).Coherent (Race.start r programs) := by
  refine ⟨fun w hw => ?_, fun i => ?_⟩
  · obtain ⟨todo, -, rfl⟩ := List.mem_map.1 hw
    trivial
  · simp only [Race.answersOf, Race.currentOf, Race.todoOf, Race.start, List.getElem?_map]
    cases programs[i]? <;> rfl

end Step

-- ---------------------------------------------------------------------------
-- Time passes
-- ---------------------------------------------------------------------------

section Time

variable {start race : Race} {o p : Completed}

theorem Race.run_append (race : Race) (past later : List Nat) :
    race.run (past ++ later) = (race.run past).run later :=
  List.foldl_append

theorem Race.run_concat (race : Race) (schedule : List Nat) (i : Nat) :
    race.run (schedule ++ [i]) = (race.run schedule).step i := by
  rw [Race.run_append]
  rfl

/-- Answers are never taken back. -/
theorem Race.answersOf_prefix_run (h : race.Coherent start) (j : Nat) (schedule : List Nat) :
    race.answersOf j <+: (race.run schedule).answersOf j := by
  induction schedule generalizing race with
  | nil => exact List.prefix_rfl
  | cons i rest ih =>
    refine List.IsPrefix.trans ?_ (ih (h.step i))
    cases Race.step_cases h i with
    | quiet _ heq =>
      exact heq j ▸ List.prefix_rfl
    | answered call answer hself heq _ =>
      by_cases hj : j = i
      · subst hj
        rw [hself]
        exact List.prefix_append _ _
      · exact heq j hj ▸ List.prefix_rfl

/-- The place of a call that was answered is among the answers. -/
theorem Completed.Returned.place_lt (ho : o.Returned race) :
    o.place < (race.answersOf o.worker).length :=
  (List.getElem?_eq_some_iff.1 ho).1

theorem Completed.Returned.run (h : race.Coherent start) (ho : o.Returned race)
    (schedule : List Nat) : o.Returned (race.run schedule) := by
  obtain ⟨later, hlater⟩ := Race.answersOf_prefix_run h o.worker schedule
  rw [Completed.Returned, ← hlater, List.getElem?_append_left ho.place_lt]
  exact ho

/-- A call that was answered has begun. -/
theorem Completed.Returned.begun (h : race.Coherent start) (ho : o.Returned race) :
    o.Begun start race := by
  have hlt := ho.place_lt
  have hlen := congrArg List.length (h.calls o.worker)
  simp only [List.length_append, List.length_map] at hlen
  rw [Completed.Begun]
  omega

/-- A call that was answered is the one at its place in the program. -/
theorem Completed.Returned.call_eq (h : race.Coherent start) (ho : o.Returned race) :
    (start.todoOf o.worker)[o.place]? = some o.call := by
  have hlt := ho.place_lt
  rw [Completed.Returned] at ho
  rw [h.calls o.worker, List.getElem?_append_left (by simpa using hlt), List.getElem?_map, ho]
  rfl

theorem prefix_concat_cases {past schedule : List Nat} {i : Nat} (h : past <+: schedule ++ [i]) :
    past <+: schedule ∨ past = schedule ++ [i] :=
  (List.prefix_concat_iff.1 h).symm

/-- No call is begun later than at its own answer, so one more step puts none before it. -/
theorem Completed.not_precedes_concat (h : (start.run schedule).Coherent start) {i : Nat}
    (ho : o.Returned (start.run (schedule ++ [i])))
    (hp : ∀ past, past <+: schedule → p.Returned (start.run past) →
      o.Begun start (start.run past)) :
    ¬p.Precedes o start (schedule ++ [i]) := by
  rintro ⟨past, hpast, hret, hbegun⟩
  rcases prefix_concat_cases hpast with hold | rfl
  · exact hbegun (hp past hold hret)
  · rw [Race.run_concat] at ho hbegun
    exact hbegun (ho.begun (h.step i))

/-- The call that a step answers. -/
def Completed.ofStep (race : Race) (i : Nat) (call : Call) (answer : Answer) : Completed :=
  ⟨i, (race.answersOf i).length, call, answer⟩

/-- After a step that answers a call, that call is answered beside those that were before. -/
theorem Completed.returned_iff_of_answered {race' : Race} {i : Nat} {call : Call} {answer : Answer}
    (hself : race'.answersOf i = race.answersOf i ++ [(call, answer)])
    (heq : ∀ j, j ≠ i → race'.answersOf j = race.answersOf j) :
    o.Returned race' ↔ o.Returned race ∨ o = .ofStep race i call answer := by
  obtain ⟨j, place, c, a⟩ := o
  by_cases hj : j = i
  · subst hj
    simp only [Completed.Returned, Completed.ofStep, Completed.mk.injEq, true_and, hself]
    rcases Nat.lt_trichotomy place (race.answersOf j).length with hlt | rfl | hgt
    · rw [List.getElem?_append_left hlt]
      simp [Nat.ne_of_lt hlt]
    · simp [eq_comm]
    · rw [List.getElem?_eq_none (by simp; omega), List.getElem?_eq_none (Nat.le_of_lt hgt)]
      simp [Nat.ne_of_gt hgt]
  · simp [Completed.Returned, Completed.ofStep, heq j hj, hj]

end Time

-- ---------------------------------------------------------------------------
-- The order of a run
-- ---------------------------------------------------------------------------

section Order

variable {start : Race} {order : List Completed} {schedule : List Nat} {i : Nat}

/-- Before the first step nothing is answered, and nothing need be ordered. -/
theorem linearizes_nil (h : ∀ w ∈ start.workers, w.answers = []) : Linearizes [] start [] where
  nodup := List.nodup_nil
  mem_iff o := by
    have hnone : start.answersOf o.worker = [] := by
      rw [Race.answersOf]
      cases hw : start.workers[o.worker]? with
      | none => rfl
      | some w => simp [h w (List.mem_of_getElem? hw)]
    simp [Completed.Returned, Race.run, hnone]
  call_eq o ho := absurd ho List.not_mem_nil
  program_order := List.Pairwise.nil
  real_time := List.Pairwise.nil
  performed := rfl
  fresh past j hpast := by simp at hpast

theorem Linearizes.returned_concat (hc : (start.run schedule).Coherent start)
    (h : Linearizes order start schedule) {o : Completed} (ho : o ∈ order) :
    o.Returned (start.run (schedule ++ [i])) := by
  rw [Race.run_append]
  exact ((h.mem_iff o).1 ho).run hc [i]

/-- Pairs that were in order stay so, whatever step comes next. -/
theorem Linearizes.real_time_concat (hc : (start.run schedule).Coherent start)
    (h : Linearizes order start schedule) :
    order.Pairwise fun o p => ¬p.Precedes o start (schedule ++ [i]) := by
  refine h.real_time.imp_of_mem fun {o p} ho _ hnot => ?_
  refine Completed.not_precedes_concat hc (h.returned_concat hc ho) fun past hpast hp => ?_
  by_contra hbegun
  exact hnot ⟨past, hpast, hp, hbegun⟩

/-- What was made from a published list before stays so; only the last step can add to it. -/
theorem Linearizes.fresh_concat (h : Linearizes order start schedule)
    (hlast : ∀ o : Completed, o.Returned (start.run (schedule ++ [i])) →
      ¬o.Returned (start.run schedule) →
        o.answer.shown = (o.call.perform (start.run schedule).cell.roster.entries).1) :
    ∀ past j, past ++ [j] <+: schedule ++ [i] → ∀ o : Completed,
      o.Returned (start.run (past ++ [j])) → ¬o.Returned (start.run past) →
        o.answer.shown = (o.call.perform (start.run past).cell.roster.entries).1 := by
  intro past j hpast o hnew hold
  rcases prefix_concat_cases hpast with hearlier | heq
  · exact h.fresh past j hearlier o hnew hold
  · obtain ⟨rfl, hj⟩ := List.append_inj' heq rfl
    rw [heq] at hnew
    exact hlast o hnew hold

/-- A step that answers no call leaves the order of the calls as it is. -/
theorem Linearizes.quiet (hc : (start.run schedule).Coherent start)
    (h : Linearizes order start schedule)
    (hcell : (start.run (schedule ++ [i])).cell = (start.run schedule).cell)
    (hans : ∀ j, (start.run (schedule ++ [i])).answersOf j = (start.run schedule).answersOf j) :
    Linearizes order start (schedule ++ [i]) := by
  have hret (o : Completed) :
      o.Returned (start.run (schedule ++ [i])) ↔ o.Returned (start.run schedule) := by
    rw [Completed.Returned, hans, Completed.Returned]
  exact {
    nodup := h.nodup
    mem_iff := fun o => (h.mem_iff o).trans (hret o).symm
    call_eq := h.call_eq
    program_order := h.program_order
    real_time := h.real_time_concat hc
    performed := by rw [h.performed, hcell]
    fresh := h.fresh_concat fun o hnew hold => absurd ((hret o).1 hnew) hold }

/-- A call that is answered only by the last step stands behind all others in real time. -/
theorem Linearizes.not_precedes_of_new (h0 : start.Coherent start)
    (h : Linearizes order start schedule) {o new : Completed} (ho : o ∈ order)
    (hnew : ¬new.Returned (start.run schedule)) : ¬new.Precedes o start (schedule ++ [i]) := by
  have hc := h0.run schedule
  refine Completed.not_precedes_concat hc (h.returned_concat hc ho) fun past hpast hp => ?_
  -- the new call was answered at no earlier time
  obtain ⟨later, rfl⟩ := hpast
  rw [Race.run_append] at hnew
  exact absurd (hp.run (h0.run past) later) hnew

/-- A step that answers a call puts it at the end of the order. -/
theorem Linearizes.answered (h0 : start.Coherent start)
    (h : Linearizes order start schedule) {call : Call} {answer : Answer}
    (hself : (start.run (schedule ++ [i])).answersOf i =
      (start.run schedule).answersOf i ++ [(call, answer)])
    (heq : ∀ j, j ≠ i →
      (start.run (schedule ++ [i])).answersOf j = (start.run schedule).answersOf j)
    (hmeant : (answer.shown, (start.run (schedule ++ [i])).cell.roster.entries) =
      call.perform (start.run schedule).cell.roster.entries) :
    Linearizes (order ++ [.ofStep (start.run schedule) i call answer]) start
      (schedule ++ [i]) := by
  set new := Completed.ofStep (start.run schedule) i call answer with hnew
  have hc := h0.run schedule
  have hc' : (start.run (schedule ++ [i])).Coherent start := by
    rw [Race.run_concat]
    exact hc.step i
  have hret (o : Completed) : o.Returned (start.run (schedule ++ [i])) ↔
      o.Returned (start.run schedule) ∨ o = new :=
    Completed.returned_iff_of_answered hself heq
  have hmem (o : Completed) : o ∈ order ++ [new] ↔ o.Returned (start.run (schedule ++ [i])) := by
    rw [hret o, List.mem_append, List.mem_singleton, h.mem_iff o]
  have hnotyet : ¬new.Returned (start.run schedule) := by
    simp [Completed.Returned, hnew, Completed.ofStep]
  -- what the same worker was answered before stands earlier in its program
  have hplace : ∀ o ∈ order, o.worker = new.worker → o.place < new.place := by
    intro o ho hw
    have hlt := ((h.mem_iff o).1 ho).place_lt
    rw [hw] at hlt
    exact hlt
  exact {
    nodup := by
      rw [List.map_append, List.map_singleton, List.nodup_append]
      refine ⟨h.nodup, by simp, ?_⟩
      intro a ha b hb hab
      obtain ⟨o, ho, rfl⟩ := List.mem_map.1 ha
      rw [List.mem_singleton] at hb
      subst hb
      have hlt := hplace o ho (congrArg Prod.fst hab)
      exact absurd (congrArg Prod.snd hab) (Nat.ne_of_lt hlt)
    mem_iff := hmem
    call_eq := fun o ho => ((hmem o).1 ho).call_eq hc'
    program_order := by
      refine List.pairwise_append.2 ⟨h.program_order, List.pairwise_singleton _ _, ?_⟩
      intro o ho p hp
      rw [List.mem_singleton] at hp
      subst hp
      exact hplace o ho
    real_time := by
      refine List.pairwise_append.2 ⟨h.real_time_concat hc, List.pairwise_singleton _ _, ?_⟩
      intro o ho p hp
      rw [List.mem_singleton] at hp
      subst hp
      exact h.not_precedes_of_new h0 ho hnotyet
    performed := by
      rw [List.map_append, List.map_singleton, performAll_concat, h.performed, List.map_append,
        List.map_singleton]
      simp only [hnew, Completed.ofStep, ← hmeant]
    fresh := h.fresh_concat fun o hnow hbefore => by
      obtain rfl := ((hret o).1 hnow).resolve_left hbefore
      exact (congrArg Prod.fst hmeant) }

end Order

/-- **Linearizability.** Whatever the seed, the programs of the workers, and the interleaving of
their steps, the calls that were answered can be put into one order, which keeps to every worker's
program and to real time, such that the calls made one at a time give the same answers and the same
roster. -/
theorem exists_linearization (seed : List String) (programs : List (List Call))
    (schedule : List Nat) :
    ∃ order, Linearizes order (Race.start (Roster.seed seed).1 programs) schedule := by
  induction schedule using List.reverseRecOn with
  | nil =>
    refine ⟨[], linearizes_nil fun w hw => ?_⟩
    obtain ⟨todo, -, rfl⟩ := List.mem_map.1 hw
    rfl
  | append_singleton past i ih =>
    obtain ⟨order, horder⟩ := ih
    have h0 := Race.coherent_start (Roster.seed seed).1 programs
    have hstep := Race.step_cases (h0.run past) i
    rw [← Race.run_concat] at hstep
    cases hstep with
    | quiet hcell hans => exact ⟨order, horder.quiet (h0.run past) hcell hans⟩
    | answered call answer hself heq hmeant => exact ⟨_, horder.answered h0 hself heq hmeant⟩

end Repeater.Roster
