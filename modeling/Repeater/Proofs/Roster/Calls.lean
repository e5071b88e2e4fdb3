import Mathlib.Data.List.Induction
import Repeater.Roster.Race

/-!
# Calls one after the other, and one worker's step

What a call on the roster means when nobody else is at work (`Call.perform`), on bare lists of texts,
and what a single step of a racing worker can do about it.

## Results

* `prepare_eq_perform` — what an attempt makes of a cell is what the call means on its list, whatever the
  worker was about to answer before;
* `Worker.step_cases`  — a step either leaves cell and answers alone, or answers one call, and then
  cell and answer are what the call means on the list that was published just before;
* `Worker.Sound.step`  — the step keeps what a worker knows about the cell it has read.
-/

namespace Repeater.Roster

-- ---------------------------------------------------------------------------
-- The meaning of calls
-- ---------------------------------------------------------------------------

/-- What a call answers on a list, and the list after it. -/
def Call.perform (l : List String) : Call → Except Refusal (List String) × List String
  | .add b =>
    if b = "" then (.error .missing, l)
    else if b ∈ l then (.error (.present b), l)
    else (.ok (l ++ [b]), l ++ [b])
  | .remove b =>
    if b = "" then (.error .missing, l)
    else (.ok (l.filter (· != b)), l.filter (· != b))
  | .read => (.ok l, l)

/-- The answers of calls that are made one after the other, and the list after them. -/
def performAll (l : List String) : List Call → List (Except Refusal (List String)) × List String
  | [] => ([], l)
  | call :: rest =>
    let (answer, l) := call.perform l
    let (answers, l) := performAll l rest
    (answer :: answers, l)

/-- An answer, with the bare list for the roster in it. -/
def Answer.shown (a : Answer) : Except Refusal (List String) :=
  a.map Roster.entries

theorem performAll_concat (l : List String) (calls : List Call) (call : Call) :
    performAll l (calls ++ [call]) =
      let before := performAll l calls
      (before.1 ++ [(call.perform before.2).1], (call.perform before.2).2) := by
  induction calls generalizing l with
  | nil => rfl
  | cons c rest ih => simp [performAll, ih]

theorem perform_of_isVoid {call : Call} (h : call.isVoid = true) (l : List String) :
    call.perform l = (.error .missing, l) := by
  cases call with
  | add b => simp_all [Call.isVoid, Call.perform]
  | remove b => simp_all [Call.isVoid, Call.perform]
  | read => cases h

/-- The list after a call is the one that it answers, or the one before if it is refused. -/
theorem perform_snd (call : Call) (l : List String) :
    (call.perform l).2 = match (call.perform l).1 with
      | .ok l' => l'
      | .error _ => l := by
  cases call with
  | add b =>
    rw [Call.perform]
    split
    · rfl
    · split <;> rfl
  | remove b =>
    rw [Call.perform]
    split <;> rfl
  | read => rfl

/-- What an addition gives is what the call answers. -/
theorem add_eq_perform (r : Roster) (b : String) :
    (r.add b).map Roster.entries = ((Call.add b).perform r.entries).1 := by
  rw [Roster.add, Call.perform]
  split
  · rfl
  · split <;> rfl

/-- What a removal gives is what the call answers. -/
theorem remove_eq_perform (r : Roster) (b : String) :
    (r.remove b).map Roster.entries = ((Call.remove b).perform r.entries).1 := by
  rw [Roster.remove, Call.perform]
  split <;> rfl

/-- Calls that are made in two goes come to the same list. -/
theorem performAll_append (l : List String) (calls more : List Call) :
    (performAll l (calls ++ more)).2 = (performAll (performAll l calls).2 more).2 := by
  induction calls generalizing l with
  | nil => rfl
  | cons c rest ih => exact ih _

/-- The last entry of a list is added to what the others seed, unless it is refused. -/
theorem seed_concat (backends : List String) (b : String) :
    (seed (backends ++ [b])).1 = ((seed backends).1.add b).toOption.getD (seed backends).1 := by
  rw [seed, List.foldl_append, ← seed, List.foldl_cons, List.foldl_nil]
  cases hadd : (seed backends).1.add b with
  | ok r => simp only [hadd, Except.toOption, Option.getD_some]
  | error e => simp only [hadd, Except.toOption, Option.getD_none]

/-- The roster that a list seeds is what adding its entries one by one comes to. -/
theorem entries_seed (backends : List String) :
    (seed backends).1.entries = (performAll [] (backends.map .add)).2 := by
  induction backends using List.reverseRecOn with
  | nil => rfl
  | append_singleton backends b ih =>
    have hafter := perform_snd (.add b) (seed backends).1.entries
    rw [← add_eq_perform] at hafter
    rw [seed_concat, List.map_append, List.map_singleton, performAll_concat]
    dsimp only
    rw [← ih, hafter]
    cases (seed backends).1.add b <;> rfl

theorem mem_perform_add {b x : String} {l : List String} :
    x ∈ ((Call.add b).perform l).2 ↔ x ∈ l ∨ x = b ∧ b ≠ "" := by
  rw [Call.perform]
  by_cases hb : b = ""
  · simp [hb]
  · by_cases hmem : b ∈ l
    · rw [if_neg hb, if_pos hmem]
      refine ⟨.inl, fun h => h.elim id fun hx => ?_⟩
      rw [hx.1]
      exact hmem
    · simp [hb, hmem]

theorem mem_perform_remove {b x : String} {l : List String} (hempty : "" ∉ l) :
    x ∈ ((Call.remove b).perform l).2 ↔ x ∈ l ∧ x ≠ b := by
  rw [Call.perform]
  by_cases hb : b = ""
  · rw [if_pos hb, hb]
    refine ⟨fun h => ⟨h, ?_⟩, And.left⟩
    rintro rfl
    exact hempty h
  · simp [hb]

/-- The backends that a list seeds are those of the list, but for the empty text. -/
theorem mem_seed {seeds : List String} {b : String} : b ∈ (seed seeds).1.entries ↔ b ∈ seeds ∧ b ≠ "" := by
  rw [entries_seed]
  induction seeds using List.reverseRecOn with
  | nil => simp [performAll]
  | append_singleton seeds c ih =>
    rw [List.map_append, List.map_singleton, performAll_concat]
    dsimp only
    rw [mem_perform_add, ih, List.mem_append, List.mem_singleton]
    grind

/-- Without the text that is to go, a list stays as it is. -/
theorem filter_ne_of_notMem {b : String} {l : List String} (h : b ∉ l) :
    l.filter (· != b) = l := by
  rw [List.filter_eq_self]
  intro x hx
  rw [bne_iff_ne]
  rintro rfl
  exact h hx

/-- What an attempt makes of a roster is what the call means on its list, whatever the answer was before. -/
theorem prepare_eq_perform {call : Call} (h : call.isVoid = false) (r : Roster) (before : Answer) :
    let (next, answer) := ((call.prepare r).run before).run
    (answer.shown, (next.getD r).entries) = call.perform r.entries := by
  cases call with
  | add b =>
    have hb : b ≠ "" := by simpa [Call.isVoid] using h
    by_cases hm : b ∈ r.entries
    · simp [Call.prepare, Call.perform, Roster.add, Answer.shown, Except.map, hb, hm]
    · simp [Call.prepare, Call.perform, Roster.add, Answer.shown, Except.map, hb, hm]
  | remove b =>
    have hb : b ≠ "" := by simpa [Call.isVoid] using h
    by_cases hm : b ∈ r.entries
    · simp [Call.prepare, Call.perform, Roster.remove, Answer.shown, Except.map, hb, hm]
    · have hl := filter_ne_of_notMem hm
      simp [Call.prepare, Call.perform, Answer.shown, Except.map, hb, hm, hl]
  | read => rfl

-- ---------------------------------------------------------------------------
-- One step of a worker
-- ---------------------------------------------------------------------------

/-- The call that a worker is at. -/
def Stage.call? : Stage → Option Call
  | .idle => none
  | .begun call _ | .seen call _ _ | .prepared call _ _ _ => some call

/-- A cell that was read earlier is older than the published one, or it is the published one. -/
structure Cell.SeenBefore (c cell : Cell) : Prop where
  le : c.version ≤ cell.version
  eq : c.version = cell.version → c = cell

theorem Cell.SeenBefore.refl (c : Cell) : c.SeenBefore c :=
  ⟨Nat.le_refl _, fun _ => rfl⟩

theorem Cell.SeenBefore.trans {c d e : Cell} (h : c.SeenBefore d) (h' : d.SeenBefore e) :
    c.SeenBefore e := by
  refine ⟨Nat.le_trans h.le h'.le, fun hv => ?_⟩
  have hd : d.version = e.version := Nat.le_antisymm h'.le (hv ▸ h.le)
  have hde := h'.eq hd
  subst hde
  exact h.eq hv

/-- What a worker knows while it is at a call: the call looks at the roster, the cell it holds was
published, and what it has prepared was made from that cell. Of its answer it knows nothing until then. -/
def Stage.Sound (cell : Cell) : Stage → Prop
  | .idle => True
  | .begun call _ => call.isVoid = false
  | .seen call c _ => call.isVoid = false ∧ c.SeenBefore cell
  | .prepared call c next answer =>
    call.isVoid = false ∧ c.SeenBefore cell ∧ ∃ before, (next, answer) = ((call.prepare c.roster).run before).run

theorem Stage.Sound.mono {cell cell' : Cell} {stage : Stage} (h : stage.Sound cell)
    (hc : cell.SeenBefore cell') : stage.Sound cell' := by
  cases stage with
  | idle => trivial
  | begun call answer => exact h
  | seen call c answer => exact ⟨h.1, h.2.trans hc⟩
  | prepared call c next answer => exact ⟨h.1, h.2.1.trans hc, h.2.2⟩

/-- A step that answers no call: the published cell stays, and no call is lost. -/
structure Worker.Quiet (cell : Cell) (w : Worker) (cell' : Cell) (w' : Worker) : Prop where
  cell_eq : cell' = cell
  answers_eq : w'.answers = w.answers
  calls_eq : w'.stage.call?.toList ++ w'.todo = w.stage.call?.toList ++ w.todo

/-- A step that answers a call as the call is meant on the list published just before. -/
structure Worker.Answers (cell : Cell) (w : Worker) (call : Call) (answer : Answer) (cell' : Cell)
    (w' : Worker) : Prop where
  answers_eq : w'.answers = (call, answer) :: w.answers
  calls_eq : w.stage.call?.toList ++ w.todo = call :: w'.todo
  idle : w'.stage = .idle
  meant : (answer.shown, cell'.roster.entries) = call.perform cell.roster.entries

/-- A step answers no call, or one. -/
theorem Worker.step_cases {cell : Cell} {w : Worker} (h : w.stage.Sound cell) :
    Worker.Quiet cell w (w.step cell).1 (w.step cell).2 ∨
      ∃ call answer, Worker.Answers cell w call answer (w.step cell).1 (w.step cell).2 := by
  obtain ⟨stage, todo, answers⟩ := w
  cases stage with
  | idle =>
    cases todo with
    | nil => exact .inl ⟨rfl, rfl, rfl⟩
    | cons call todo =>
      by_cases hv : call.isVoid = true
      · refine .inr ⟨call, .error .missing, ?_⟩
        have hp := perform_of_isVoid hv cell.roster.entries
        simp only [Worker.step, if_pos hv]
        exact ⟨rfl, rfl, rfl, hp.symm⟩
      · cases call with
        | add b =>
          simp only [Worker.step, if_neg hv]
          exact .inl ⟨rfl, rfl, rfl⟩
        | remove b =>
          simp only [Worker.step, if_neg hv]
          exact .inl ⟨rfl, rfl, rfl⟩
        | read =>
          refine .inr ⟨.read, .ok cell.roster, ?_⟩
          simp only [Worker.step, if_neg hv]
          exact ⟨rfl, rfl, rfl, rfl⟩
  | begun | seen => exact .inl ⟨rfl, rfl, rfl⟩
  | prepared call c next answer =>
    obtain ⟨hv, hc, before, hprep⟩ := h
    by_cases hver : cell.version = c.version
    · -- the cell that was read is still the published one
      have hcell : c = cell := hc.eq hver.symm
      subst hcell
      have hp := prepare_eq_perform hv c.roster before
      rw [← hprep] at hp
      refine .inr ⟨call, answer, ?_⟩
      cases next with
      | none =>
        simp only [Worker.step, if_true]
        exact ⟨rfl, rfl, rfl, hp⟩
      | some r =>
        simp only [Worker.step, if_true]
        exact ⟨rfl, rfl, rfl, hp⟩
    · simp only [Worker.step, if_neg hver]
      exact .inl ⟨rfl, rfl, rfl⟩

/-- A new cell gets a version of its own. -/
theorem Worker.seenBefore_step (cell : Cell) (w : Worker) : cell.SeenBefore (w.step cell).1 := by
  unfold Worker.step
  split
  · split
    · exact .refl cell
    · split
      · exact .refl cell
      · split <;> exact .refl cell
  · exact .refl cell
  · exact .refl cell
  · split
    · split
      · exact ⟨Nat.le_succ _, fun h => absurd h (Nat.ne_of_lt (Nat.lt_succ_self _))⟩
      · exact .refl cell
    · exact .refl cell

/-- What a worker knows about the cell it has read stays true over its step. -/
theorem Stage.Sound.step {cell : Cell} {w : Worker} (h : w.stage.Sound cell) :
    (w.step cell).2.stage.Sound (w.step cell).1 := by
  obtain ⟨stage, todo, answers⟩ := w
  cases stage with
  | idle =>
    cases todo with
    | nil => trivial
    | cons call todo =>
      by_cases hv : call.isVoid = true
      · simp only [Worker.step, if_pos hv]
        trivial
      · have hv' : call.isVoid = false := by simpa using hv
        cases call with
        | add b =>
          simp only [Worker.step, if_neg hv]
          exact hv'
        | remove b =>
          simp only [Worker.step, if_neg hv]
          exact hv'
        | read =>
          simp only [Worker.step, if_neg hv]
          trivial
  | begun call answer => exact ⟨h, .refl cell⟩
  | seen call c answer => exact ⟨h.1, h.2, answer, rfl⟩
  | prepared call c next answer =>
    by_cases hver : cell.version = c.version
    · cases next <;> simp only [Worker.step, if_pos hver] <;> trivial
    · simp only [Worker.step, if_neg hver]
      exact ⟨h.1, .refl cell⟩

end Repeater.Roster
