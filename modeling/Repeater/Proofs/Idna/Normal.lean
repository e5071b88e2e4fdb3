import Repeater.Idna.Normal

/-!
# Normal form of inert characters

A text of characters that are bases of their own is in normal form: nothing comes apart, nothing is
reordered, and nothing is composed.

## Results

* `normalize_of_inert` — such a text is its own normal form.
-/

namespace Repeater.Idna

/-- Every character of a text is a base of its own. -/
def IsInert (s : List Char) : Prop :=
  ∀ c ∈ s, isInert c.toNat = true

theorem combiningClass_of_inert {c : Char} (h : isInert c.toNat = true) : combiningClass c = 0 :=
  if_pos h

theorem decomposeBy_of_inert {n : Nat} (h : isInert n = true) (pair? : Nat → Option (Nat × Nat))
    (fuel : Nat) : decomposeBy pair? fuel n = [n] := by
  cases fuel with
  | zero => rfl
  | succ fuel => rw [decomposeBy, if_pos h]

theorem decompose_of_inert {n : Nat} (h : isInert n = true) : decompose n = [n] :=
  decomposeBy_of_inert h _ 8

theorem compose?_of_inert {b : Nat} (h : isInert b = true) (a : Nat) : compose? a b = none := by
  rw [compose?, if_pos h]

/-- Nothing comes apart. -/
theorem decompose_text {s : List Char} (h : IsInert s) :
    (s.flatMap fun c => decompose c.toNat).map Char.ofNat = s := by
  induction s with
  | nil => rfl
  | cons c s ih =>
    have hc : isInert c.toNat = true := h c List.mem_cons_self
    have hs : IsInert s := fun d hd => h d (List.mem_cons_of_mem c hd)
    rw [List.flatMap_cons, decompose_of_inert hc, List.map_append, ih hs, List.map_singleton,
      Char.ofNat_toNat, List.singleton_append]

/-- Nothing is reordered. -/
theorem orderMarks_of_inert {s : List Char} (h : IsInert s) : orderMarks [] s = s := by
  induction s with
  | nil => simp [orderMarks, orderMarks.sortMarks]
  | cons c s ih =>
    have hc := combiningClass_of_inert (h c List.mem_cons_self)
    have hs : IsInert s := fun d hd => h d (List.mem_cons_of_mem c hd)
    rw [orderMarks, if_pos hc, ih hs]
    simp [orderMarks.sortMarks]

/-- Nothing is composed. -/
theorem composeFrom_of_inert {s : List Char} (h : IsInert s) (base : Char) :
    composeFrom (some base) [] s = base :: s := by
  induction s generalizing base with
  | nil => rfl
  | cons c s ih =>
    have hc : isInert c.toNat = true := h c List.mem_cons_self
    have hs : IsInert s := fun d hd => h d (List.mem_cons_of_mem c hd)
    simp only [composeFrom, compose?_of_inert hc, combiningClass_of_inert hc]
    simp [ih hs]

/-- A text of characters that are bases of their own is in normal form. -/
theorem normalize_of_inert {s : List Char} (h : IsInert s) : normalize s = s := by
  rw [normalize, decompose_text h, orderMarks_of_inert h]
  cases s with
  | nil => rfl
  | cons c s =>
    have hc := combiningClass_of_inert (h c List.mem_cons_self)
    have hs : IsInert s := fun d hd => h d (List.mem_cons_of_mem c hd)
    rw [composeFrom]
    simp only [hc, if_true]
    exact composeFrom_of_inert hs c

end Repeater.Idna
