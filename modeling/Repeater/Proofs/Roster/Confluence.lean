import Repeater.Proofs.Roster.Linearizable

/-!
# Racing changes of different backends

Workers race for the roster, and no backend is both added by some of them and removed by some. Then it makes no
difference in which order their steps are taken: when all calls are answered, the roster holds the same backends, and
of every new one exactly one addition has succeeded.

* `Race.Answered` — a call has been answered;
* `Race.Settling` — the invariant of such a race: what its answered calls have made of the roster.

## Results

* `Race.Settling.step`   — one step keeps the invariant;
* `exists_isDone`        — every race can be brought to its end;
* `answered_iff_of_done` — at its end all calls of all programs are answered;
* `changes_confluent`    — what the roster is then, whatever the order of the steps.
-/

namespace Repeater.Roster

-- ---------------------------------------------------------------------------
-- What the answered calls have made of the roster
-- ---------------------------------------------------------------------------

/-- A call has been answered, to some worker at some place of its program. -/
def Race.Answered (race : Race) (call : Call) : Prop :=
  ∃ o : Completed, o.Returned race ∧ o.call = call

/-- One addition of a backend has succeeded, and all others were refused since the backend was present. -/
def Race.HasWinner (race : Race) (b : String) : Prop :=
  ∃ o : Completed, o.Returned race ∧ o.call = .add b ∧ (∃ r, o.answer = .ok r) ∧
    ∀ p : Completed, p.Returned race → p.call = .add b → p ≠ o → p.answer = .error (.present b)

/-- What the answered calls of a race have made of the roster `r`, where no backend is both added and removed. -/
structure Race.Settling (race : Race) (r : Roster) : Prop where
  mem_iff : ∀ b, b ∈ race.cell.roster.entries ↔
    (b ∈ r.entries ∨ b ≠ "" ∧ race.Answered (.add b)) ∧ ¬race.Answered (.remove b)
  /-- What is left of `r` comes first, in its order. -/
  order : ∃ old new, race.cell.roster.entries = old ++ new ∧ old.Sublist r.entries ∧ ∀ b ∈ new, b ∉ r.entries
  winner : ∀ b, b ≠ "" → b ∉ r.entries → race.Answered (.add b) → race.HasWinner b

variable {race race' : Race} {r : Roster} {i : Nat} {call : Call} {answer : Answer}

/-- After a step that answers a call, that call is answered beside those that were before. -/
theorem Race.answered_iff_of_step (hself : race'.answersOf i = race.answersOf i ++ [(call, answer)])
    (heq : ∀ j, j ≠ i → race'.answersOf j = race.answersOf j) (c : Call) :
    race'.Answered c ↔ race.Answered c ∨ c = call := by
  constructor
  · rintro ⟨o, ho, rfl⟩
    rcases (Completed.returned_iff_of_answered hself heq).1 ho with hold | rfl
    · exact .inl ⟨o, hold, rfl⟩
    · exact .inr rfl
  · rintro (⟨o, ho, rfl⟩ | rfl)
    · exact ⟨o, (Completed.returned_iff_of_answered hself heq).2 (.inl ho), rfl⟩
    · exact ⟨_, (Completed.returned_iff_of_answered hself heq).2 (.inr rfl), rfl⟩

-- ---------------------------------------------------------------------------
-- One step
-- ---------------------------------------------------------------------------

/-- What an addition answers: it is refused if the backend is there, and succeeds if it is not. -/
theorem answer_of_add {b : String} {l : List String} (hb : b ≠ "")
    (h : answer.shown = ((Call.add b).perform l).1) :
    (b ∈ l → answer = .error (.present b)) ∧ (b ∉ l → ∃ r, answer = .ok r) := by
  rw [Call.perform, if_neg hb] at h
  constructor
  · intro hmem
    rw [if_pos hmem] at h
    cases answer with
    | ok r => cases h
    | error e =>
      cases h
      rfl
  · intro hmem
    rw [if_neg hmem] at h
    cases answer with
    | ok r => exact ⟨r, rfl⟩
    | error e => cases h

section Step

variable (h : race.Settling r) (hself : race'.answersOf i = race.answersOf i ++ [(call, answer)])
  (heq : ∀ j, j ≠ i → race'.answersOf j = race.answersOf j)
  (hmeant : (answer.shown, race'.cell.roster.entries) = call.perform race.cell.roster.entries)
  (hapart : ∀ b, b ≠ "" → race'.Answered (.add b) → ¬race'.Answered (.remove b))

include h hself heq hmeant hapart

theorem Race.Settling.mem_iff_answered (x : String) : x ∈ race'.cell.roster.entries ↔
    (x ∈ r.entries ∨ x ≠ "" ∧ race'.Answered (.add x)) ∧ ¬race'.Answered (.remove x) := by
  have hafter : race'.cell.roster.entries = (call.perform race.cell.roster.entries).2 := congrArg Prod.snd hmeant
  have hanswered := Race.answered_iff_of_step hself heq
  have hbefore := h.mem_iff x
  rw [hafter]
  cases call with
  | add b =>
    have hb := hapart b
    rw [hanswered, hanswered] at hb
    rw [mem_perform_add, hbefore, hanswered, hanswered]
    grind
  | remove b =>
    rw [mem_perform_remove race.cell.roster.nonempty, hbefore, hanswered, hanswered]
    grind
  | read =>
    rw [hanswered, hanswered]
    simpa [Call.perform] using hbefore

theorem Race.Settling.order_answered : ∃ old new, race'.cell.roster.entries = old ++ new ∧
    old.Sublist r.entries ∧ ∀ b ∈ new, b ∉ r.entries := by
  have hafter : race'.cell.roster.entries = (call.perform race.cell.roster.entries).2 := congrArg Prod.snd hmeant
  obtain ⟨old, new, hsplit, hold, hnew⟩ := h.order
  rw [hafter]
  cases call with
  | add b =>
    by_cases hkept : b = "" ∨ b ∈ race.cell.roster.entries
    · refine ⟨old, new, ?_, hold, hnew⟩
      rw [← hsplit, Call.perform]
      grind
    · obtain ⟨hb, hmem⟩ := not_or.1 hkept
      refine ⟨old, new ++ [b], ?_, hold, fun x hx => ?_⟩
      · rw [Call.perform, if_neg hb, if_neg hmem, hsplit, List.append_assoc]
      · rcases List.mem_append.1 hx with hx | hx
        · exact hnew x hx
        · -- what is added now was not there, so it was not in the first place: nothing has removed it
          obtain rfl := List.mem_singleton.1 hx
          intro hseed
          have hremoved : race.Answered (.remove x) := by
            by_contra hnot
            exact hmem ((h.mem_iff x).2 ⟨.inl hseed, hnot⟩)
          have hanswered := Race.answered_iff_of_step hself heq
          exact hapart x hb ((hanswered _).2 (.inr rfl)) ((hanswered _).2 (.inl hremoved))
  | remove b =>
    by_cases hb : b = ""
    · rw [Call.perform, if_pos hb]
      exact ⟨old, new, hsplit, hold, hnew⟩
    · rw [Call.perform, if_neg hb]
      refine ⟨old.filter (· != b), new.filter (· != b), ?_, List.filter_sublist.trans hold, fun x hx => ?_⟩
      · rw [← List.filter_append, ← hsplit]
      · exact hnew x (List.mem_filter.1 hx).1
  | read => exact ⟨old, new, hsplit, hold, hnew⟩

theorem Race.Settling.winner_answered (b : String) (hb : b ≠ "") (hseed : b ∉ r.entries)
    (hadded : race'.Answered (.add b)) : race'.HasWinner b := by
  have hanswered := Race.answered_iff_of_step hself heq
  have hreturned (o : Completed) := Completed.returned_iff_of_answered (o := o) hself heq
  by_cases hcall : call = .add b
  · subst hcall
    obtain ⟨hpresent, habsent⟩ := answer_of_add hb (congrArg Prod.fst hmeant)
    by_cases hbefore : race.Answered (.add b)
    · -- another addition has succeeded, and the backend is still there
      obtain ⟨o, ho, hocall, hok, hothers⟩ := h.winner b hb hseed hbefore
      have hremoved : ¬race.Answered (.remove b) := fun hr => hapart b hb hadded ((hanswered _).2 (.inl hr))
      have hmem : b ∈ race.cell.roster.entries := (h.mem_iff b).2 ⟨.inr ⟨hb, hbefore⟩, hremoved⟩
      refine ⟨o, (hreturned o).2 (.inl ho), hocall, hok, fun p hp hpcall hne => ?_⟩
      rcases (hreturned p).1 hp with hold | rfl
      · exact hothers p hold hpcall hne
      · exact hpresent hmem
    · -- this is the first one
      have hmem : b ∉ race.cell.roster.entries := by
        intro hmem
        rcases ((h.mem_iff b).1 hmem).1 with hin | ⟨-, hadd⟩
        · exact hseed hin
        · exact hbefore hadd
      refine ⟨_, (hreturned _).2 (.inr rfl), rfl, habsent hmem, fun p hp hpcall hne => ?_⟩
      rcases (hreturned p).1 hp with hold | rfl
      · exact absurd ⟨p, hold, hpcall⟩ hbefore
      · exact absurd rfl hne
  · -- the step has to do with something else
    have hbefore : race.Answered (.add b) := ((hanswered _).1 hadded).resolve_right fun heq => hcall heq.symm
    obtain ⟨o, ho, hocall, hok, hothers⟩ := h.winner b hb hseed hbefore
    refine ⟨o, (hreturned o).2 (.inl ho), hocall, hok, fun p hp hpcall hne => ?_⟩
    rcases (hreturned p).1 hp with hold | rfl
    · exact hothers p hold hpcall hne
    · exact absurd hpcall hcall

end Step

-- ---------------------------------------------------------------------------
-- A run
-- ---------------------------------------------------------------------------

section Run

variable {start : Race}

/-- What has been answered stands in a program. -/
theorem Race.Answered.mem_todo (hc : race.Coherent start) (h : race.Answered call) : ∃ j, call ∈ start.todoOf j := by
  obtain ⟨o, ho, rfl⟩ := h
  exact ⟨o.worker, List.mem_of_getElem? (ho.call_eq hc)⟩

/-- No backend is both added and removed, by one worker or by two. -/
def Race.Apart (start : Race) : Prop :=
  ∀ b, b ≠ "" → ∀ j k, .add b ∈ start.todoOf j → .remove b ∉ start.todoOf k

/-- **One step keeps the invariant.** -/
theorem Race.Settling.step (h : race.Settling r) (hc : race.Coherent start) (hapart : start.Apart) (i : Nat) :
    (race.step i).Settling r := by
  have hanswered (b : String) (hb : b ≠ "") (hadded : (race.step i).Answered (.add b)) :
      ¬(race.step i).Answered (.remove b) := by
    intro hremoved
    obtain ⟨j, hj⟩ := hadded.mem_todo (hc.step i)
    obtain ⟨k, hk⟩ := hremoved.mem_todo (hc.step i)
    exact hapart b hb j k hj hk
  cases Race.step_cases hc i with
  | quiet hcell hans =>
    have hreturned (o : Completed) : o.Returned (race.step i) ↔ o.Returned race := by
      rw [Completed.Returned, hans, Completed.Returned]
    have hsame (c : Call) : (race.step i).Answered c ↔ race.Answered c :=
      exists_congr fun o => and_congr_left' (hreturned o)
    refine ⟨fun b => ?_, ?_, fun b hb hseed hadded => ?_⟩
    · rw [hcell, hsame, hsame]
      exact h.mem_iff b
    · rw [hcell]
      exact h.order
    · obtain ⟨o, ho, hcall, hok, hothers⟩ := h.winner b hb hseed ((hsame _).1 hadded)
      exact ⟨o, (hreturned o).2 ho, hcall, hok, fun p hp => hothers p ((hreturned p).1 hp)⟩
  | answered call answer hself heq hmeant =>
    exact ⟨h.mem_iff_answered hself heq hmeant hanswered, h.order_answered hself heq hmeant hanswered,
      h.winner_answered hself heq hmeant hanswered⟩

theorem Race.Settling.run (h : race.Settling r) (hc : race.Coherent start) (hapart : start.Apart)
    (schedule : List Nat) : (race.run schedule).Settling r := by
  induction schedule generalizing race with
  | nil => exact h
  | cons i rest ih => exact ih (h.step hc hapart i) (hc.step i)

theorem Race.settling_start (r : Roster) (programs : List (List Call)) : (Race.start r programs).Settling r := by
  have hnone (c : Call) : ¬(Race.start r programs).Answered c := by
    rintro ⟨o, ho, -⟩
    have hempty : (Race.start r programs).answersOf o.worker = [] := by
      simp only [Race.answersOf, Race.start, List.getElem?_map]
      cases programs[o.worker]? <;> rfl
    rw [Completed.Returned, hempty] at ho
    cases ho
  refine ⟨fun b => ?_, ⟨r.entries, [], (List.append_nil _).symm, List.Sublist.refl _, by simp⟩, fun b _ _ hadded => ?_⟩
  · simp only [hnone, and_false, or_false, not_false_eq_true, and_true]
    rfl
  · exact absurd hadded (hnone _)

-- ---------------------------------------------------------------------------
-- The end of a race
-- ---------------------------------------------------------------------------

/-- **At the end of a race all calls of all programs are answered.** -/
theorem answered_iff_of_done (hc : race.Coherent start) (hdone : race.isDone = true) :
    race.Answered call ↔ ∃ j, call ∈ start.todoOf j := by
  refine ⟨fun h => h.mem_todo hc, fun ⟨j, hj⟩ => ?_⟩
  -- nothing is begun and nothing is to come
  have hrest : race.currentOf j ++ race.todoOf j = [] := by
    rw [Race.currentOf, Race.todoOf]
    cases hw : race.workers[j]? with
    | none => rfl
    | some w =>
      have hw' := List.all_eq_true.1 hdone w (List.mem_of_getElem? hw)
      obtain ⟨stage, todo, answers⟩ := w
      cases stage with
      | idle =>
        obtain rfl : todo = [] := List.isEmpty_iff.1 hw'
        rfl
      | begun | seen | prepared => cases hw'
  rw [hc.calls j, hrest, List.append_nil] at hj
  obtain ⟨⟨c, a⟩, hmem, rfl⟩ := List.mem_map.1 hj
  obtain ⟨k, hk⟩ := List.getElem?_of_mem hmem
  exact ⟨⟨j, k, c, a⟩, hk, rfl⟩

end Run

-- ---------------------------------------------------------------------------
-- Every race can be brought to its end
-- ---------------------------------------------------------------------------

/-- How many steps a worker has yet to take, if no other takes any: four for every call that is to come, and fewer
for the one that it is at, unless the cell that it holds is no longer the published one. -/
def Worker.left (cell : Cell) (w : Worker) : Nat :=
  4 * w.todo.length + match w.stage with
    | .idle => 0
    | .begun .. => 3
    | .seen _ c _ => if cell.version = c.version then 2 else 4
    | .prepared _ c _ _ => if cell.version = c.version then 1 else 3

theorem Worker.left_step {cell : Cell} {w : Worker} (h : w.isDone = false) :
    (w.step cell).2.left (w.step cell).1 < w.left cell := by
  obtain ⟨stage, todo, answers⟩ := w
  cases stage with
  | idle =>
    cases todo with
    | nil => cases h
    | cons call todo =>
      by_cases hvoid : call.isVoid = true
      · simp [Worker.step, hvoid, Worker.left]
      · cases call with
        | add b | remove b =>
          simp [Worker.step, hvoid, Worker.left]
          omega
        | read => simp [Worker.step, hvoid, Worker.left]
  | begun call answer => simp [Worker.step, Worker.left]
  | seen call c answer => by_cases hversion : cell.version = c.version <;> simp [Worker.step, Worker.left, hversion]
  | prepared call c next answer =>
    by_cases hversion : cell.version = c.version
    · cases next <;> simp [Worker.step, hversion, Worker.left]
    · simp [Worker.step, hversion, Worker.left]

theorem Race.length_step (race : Race) (i : Nat) : (race.step i).workers.length = race.workers.length := by
  unfold Race.step
  split
  · rfl
  · exact List.length_set

theorem Race.length_run (race : Race) (schedule : List Nat) :
    (race.run schedule).workers.length = race.workers.length := by
  induction schedule generalizing race with
  | nil => rfl
  | cons i rest ih => exact (ih _).trans (race.length_step i)

/-- The steps of one worker are no steps of another. -/
theorem Race.workers_run_replicate {i j : Nat} (h : j ≠ i) (race : Race) (n : Nat) :
    (race.run (List.replicate n i)).workers[j]? = race.workers[j]? := by
  induction n generalizing race with
  | zero => rfl
  | succ n ih => exact (ih _).trans (Race.workers_step_of_ne h)

/-- A worker that takes all the steps is at its end some time. -/
theorem exists_done_alone {i : Nat} {w : Worker} (h : race.workers[i]? = some w) :
    ∃ n w', (race.run (List.replicate n i)).workers[i]? = some w' ∧ w'.isDone = true := by
  induction hleft : w.left race.cell using Nat.strongRecOn generalizing race w with
  | ind m ih =>
    by_cases hdone : w.isDone = true
    · exact ⟨0, w, h, hdone⟩
    · have hcell : (race.step i).cell = (w.step race.cell).1 := by rw [Race.step_eq h]
      have hless : (w.step race.cell).2.left (w.step race.cell).1 < w.left race.cell :=
        Worker.left_step (Bool.eq_false_iff.2 hdone)
      rw [hleft, ← hcell] at hless
      obtain ⟨n, w', hw', hend⟩ := ih _ hless (Race.workers_step_self h) rfl
      exact ⟨n + 1, w', hw', hend⟩

/-- **Every race can be brought to its end**, one worker after the other. -/
theorem exists_isDone (race : Race) : ∃ schedule, (race.run schedule).isDone = true := by
  have hfirst (k : Nat) (hk : k ≤ race.workers.length) :
      ∃ schedule, ∀ j < k, ∃ w, (race.run schedule).workers[j]? = some w ∧ w.isDone = true := by
    induction k with
    | zero => exact ⟨[], fun j hj => absurd hj (Nat.not_lt_zero j)⟩
    | succ k ih =>
      obtain ⟨schedule, hall⟩ := ih (Nat.le_of_succ_le hk)
      have hlt : k < (race.run schedule).workers.length := by
        rw [Race.length_run]
        exact hk
      obtain ⟨n, w, hw, hdone⟩ := exists_done_alone (List.getElem?_eq_getElem hlt)
      refine ⟨schedule ++ List.replicate n k, fun j hj => ?_⟩
      rw [Race.run_append]
      by_cases heq : j = k
      · exact ⟨w, heq ▸ hw, hdone⟩
      · rw [Race.workers_run_replicate heq]
        exact hall j (by omega)
  obtain ⟨schedule, hall⟩ := hfirst race.workers.length (Nat.le_refl _)
  refine ⟨schedule, List.all_eq_true.2 fun w hw => ?_⟩
  obtain ⟨j, hj, rfl⟩ := List.getElem_of_mem hw
  obtain ⟨w', hw', hdone⟩ := hall j (by rwa [Race.length_run] at hj)
  rw [List.getElem?_eq_getElem hj, Option.some.injEq] at hw'
  rwa [hw']

-- ---------------------------------------------------------------------------
-- What the roster is then
-- ---------------------------------------------------------------------------

/-- Some program has the call. -/
def Requested (programs : List (List Call)) (call : Call) : Prop :=
  ∃ program ∈ programs, call ∈ program

/-- The calls of the programs are those that are to come at the start. -/
theorem requested_iff_todoOf {programs : List (List Call)} {call : Call} :
    Requested programs call ↔ ∃ j, call ∈ (Race.start r programs).todoOf j := by
  have htodo (j : Nat) : (Race.start r programs).todoOf j = (programs[j]?).getD [] := by
    simp only [Race.todoOf, Race.start, List.getElem?_map]
    cases programs[j]? <;> rfl
  constructor
  · rintro ⟨program, hprogram, hcall⟩
    obtain ⟨j, hj⟩ := List.getElem?_of_mem hprogram
    refine ⟨j, ?_⟩
    rwa [htodo, hj]
  · rintro ⟨j, hj⟩
    rw [htodo] at hj
    cases hprogram : programs[j]? with
    | none =>
      rw [hprogram] at hj
      cases hj
    | some program =>
      rw [hprogram] at hj
      exact ⟨program, List.mem_of_getElem? hprogram, hj⟩

/-- What has become of the roster that `seeds` seeds when these programs have been carried out. -/
structure Settled (seeds : List String) (programs : List (List Call)) (race : Race) : Prop where
  nodup : race.cell.roster.entries.Nodup
  mem_iff : ∀ b, b ∈ race.cell.roster.entries ↔
    b ≠ "" ∧ (b ∈ seeds ∨ Requested programs (.add b)) ∧ ¬Requested programs (.remove b)
  /-- What is left of the seed comes first, in its order, and then what is new. -/
  order : ∃ old new, race.cell.roster.entries = old ++ new ∧ old.Sublist (seed seeds).1.entries ∧
    ∀ b ∈ new, b ∉ seeds
  /-- Of every new backend one addition has succeeded, and all others were refused since it was present. -/
  winner : ∀ b, b ≠ "" → b ∉ seeds → Requested programs (.add b) → race.HasWinner b

theorem settled_of_settling {seeds : List String} {programs : List (List Call)} {race : Race}
    (h : race.Settling (seed seeds).1)
    (hanswered : ∀ call, race.Answered call ↔ Requested programs call) : Settled seeds programs race := by
  have hmem (b : String) := h.mem_iff b
  have hnonempty (b : String) (hb : b ∈ race.cell.roster.entries) : b ≠ "" := by
    rintro rfl
    exact race.cell.roster.nonempty hb
  obtain ⟨old, new, hsplit, hold, hnew⟩ := h.order
  refine ⟨race.cell.roster.nodup, fun b => ?_, ⟨old, new, hsplit, hold, fun b hb hseed => ?_⟩,
    fun b hb hseed hadded => ?_⟩
  · have hb := hnonempty b
    rw [hmem, mem_seed, hanswered, hanswered] at *
    grind
  · have hb' := hnonempty b (hsplit ▸ List.mem_append_right old hb)
    exact hnew b hb (mem_seed.2 ⟨hseed, hb'⟩)
  · exact h.winner b hb (fun hin => hseed (mem_seed.1 hin).1) ((hanswered _).2 hadded)

/-- **Changes of different backends are confluent.** Where no backend is both added and removed, every race can be
brought to its end, and whatever the order of the steps, at its end the roster holds the seed and what was added
without what was removed, the seed first, and of every new backend one addition has succeeded. -/
theorem changes_confluent (seeds : List String) (programs : List (List Call))
    (hapart : ∀ b, b ≠ "" → Requested programs (.add b) → ¬Requested programs (.remove b)) :
    (∃ schedule, ((Race.start (seed seeds).1 programs).run schedule).isDone = true) ∧
    ∀ schedule, ((Race.start (seed seeds).1 programs).run schedule).isDone = true →
      Settled seeds programs ((Race.start (seed seeds).1 programs).run schedule) := by
  have hc := Race.coherent_start (seed seeds).1 programs
  have hstart : (Race.start (seed seeds).1 programs).Apart := fun b hb j k hadd hremove =>
    hapart b hb (requested_iff_todoOf.2 ⟨j, hadd⟩) (requested_iff_todoOf.2 ⟨k, hremove⟩)
  refine ⟨exists_isDone _, fun schedule hdone => ?_⟩
  refine settled_of_settling ((Race.settling_start _ programs).run hc hstart schedule) fun call => ?_
  rw [answered_iff_of_done (hc.run schedule) hdone, requested_iff_todoOf]

/-- A seed with a repetition, and two workers that add the same backend while one of them removes another. -/
def contested : List String × List (List Call) :=
  (["a", "b", "a"], [[.add "c", .remove "a"], [.add "c", .add ""]])

/-- Both workers have read the seed when the second one publishes, so the first one has to start anew. -/
def contestedEnd : Race :=
  (Race.start (seed contested.1).1 contested.2).run [0, 0, 1, 1, 1, 1, 0, 0, 0, 0, 1, 0, 0, 0, 0]

theorem contested_confluent :
    (∀ b, b ≠ "" → Requested contested.2 (.add b) → ¬Requested contested.2 (.remove b)) ∧
      contestedEnd.isDone = true ∧ Settled contested.1 contested.2 contestedEnd := by
  have hapart : ∀ b, b ≠ "" → Requested contested.2 (.add b) → ¬Requested contested.2 (.remove b) := by
    simp only [Requested, contested]
    rintro b hb hadded hremoved
    simp_all
  have hdone : contestedEnd.isDone = true := by decide +kernel
  exact ⟨hapart, hdone, (changes_confluent contested.1 contested.2 hapart).2 _ hdone⟩

end Repeater.Roster
