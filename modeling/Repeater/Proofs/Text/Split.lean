import Mathlib.Data.List.Forall2
import Repeater.Text.Blank

/-!
# Texts cut into pieces

What is used again and again of cutting a text at its separators, of mapping pieces one by one, and of reading
one piece after the other.

## Results

* `bind_eq_ok`          — what is read after something else;
* `exists_front`, `takeWhile_front`, `dropWhile_front` — what a text starts with and what is left;
* `mem_of_mem_splitOnP` — the pieces consist of the characters of the text that are no separators;
* `mapM_eq_some_iff`    — all pieces map exactly if each one does.
-/

namespace Repeater

theorem ok_bind {ε α β : Type} (a : α) (f : α → Except ε β) : (Except.ok a >>= f) = f a :=
  rfl

theorem bind_eq_ok {ε α β : Type} {x : Except ε α} {f : α → Except ε β} {b : β} :
    (x >>= f) = .ok b ↔ ∃ a, x = .ok a ∧ f a = .ok b := by
  cases x <;> simp [bind, Except.bind]

namespace Text

variable {α β : Type}

/-- No digit is white space. -/
theorem isBlank_of_isDigit {c : Char} (h : c.isDigit = true) : isBlank c = false := by
  simp only [Char.isDigit, Bool.and_eq_true, decide_eq_true_eq] at h
  have hrange : 48 ≤ c.toNat ∧ c.toNat ≤ 57 := h
  simp [isBlank]
  omega

/-- What holds of all members can be tried out. -/
theorem forall_mem_of_all {p : α → Prop} [DecidablePred p] {s : List α}
    (h : s.all (fun x => decide (p x)) = true) : ∀ x ∈ s, p x :=
  fun x hx => of_decide_eq_true (List.all_eq_true.1 h x hx)

/-- The pieces consist of the characters of the text that are no separators. -/
theorem mem_of_mem_splitOnP {p : α → Bool} {s piece : List α} (h : piece ∈ s.splitOnP p) {x : α}
    (hx : x ∈ piece) : x ∈ s ∧ p x = false := by
  induction s generalizing piece with
  | nil =>
    rw [List.splitOnP_nil, List.mem_singleton] at h
    subst h
    cases hx
  | cons a s ih =>
    have hlater {piece : List α} (h : piece ∈ s.splitOnP p) (hx : x ∈ piece) :
        x ∈ a :: s ∧ p x = false := (ih h hx).imp_left (List.mem_cons_of_mem a)
    rw [List.splitOnP_cons_eq_if_modifyHead] at h
    by_cases hp : p a
    · rw [if_pos hp, List.mem_cons] at h
      rcases h with rfl | h
      · cases hx
      · exact hlater h hx
    · rw [if_neg hp] at h
      cases hs : s.splitOnP p with
      | nil => exact absurd hs (List.splitOnP_ne_nil p s)
      | cons first rest =>
        rw [hs, List.modifyHead_cons, List.mem_cons] at h
        rw [hs] at hlater
        rcases h with rfl | h
        · rcases List.mem_cons.1 hx with rfl | hx
          · exact ⟨List.mem_cons_self, Bool.eq_false_iff.2 hp⟩
          · exact hlater List.mem_cons_self hx
        · exact hlater (List.mem_cons_of_mem _ h) hx

theorem drop_length_takeWhile (p : α → Bool) (s : List α) :
    s.drop (s.takeWhile p).length = s.dropWhile p := by
  conv_lhs => arg 2; rw [← List.takeWhile_append_dropWhile (p := p) (l := s)]
  exact List.drop_left

/-- A text starts with all that satisfies a test, up to the first that does not. -/
theorem exists_front (p : α → Bool) (s : List α) :
    ∃ front rest, s = front ++ rest ∧ (∀ x ∈ front, p x = true) ∧ ∀ x ∈ rest.head?, p x = false := by
  refine ⟨s.takeWhile p, s.dropWhile p, List.takeWhile_append_dropWhile.symm,
    List.all_eq_true.1 List.all_takeWhile, ?_⟩
  intro x hx
  have hnot := List.head?_dropWhile_not p s
  rw [Option.mem_def.1 hx] at hnot
  exact hnot

/-- What starts with one character, if with any, fails a test that this one fails. -/
theorem forall_head?_of_eq {p : α → Bool} {rest : List α} {x : α} (hrest : ∀ y ∈ rest.head?, y = x)
    (hx : p x = false) : ∀ y ∈ rest.head?, p y = false :=
  fun y hy => (congrArg p (hrest y hy)).trans hx

/-- That front is what is taken, whatever follows it. -/
theorem takeWhile_front {p : α → Bool} {front rest : List α} (hfront : ∀ x ∈ front, p x = true)
    (hrest : ∀ x ∈ rest.head?, p x = false) : (front ++ rest).takeWhile p = front := by
  rw [List.takeWhile_append_of_pos hfront]
  cases rest with
  | nil => exact List.append_nil front
  | cons x rest => rw [List.takeWhile_cons_of_neg (Bool.eq_false_iff.1 (hrest x rfl)), List.append_nil]

/-- The rest is what is left. -/
theorem dropWhile_front {p : α → Bool} {front rest : List α} (hfront : ∀ x ∈ front, p x = true)
    (hrest : ∀ x ∈ rest.head?, p x = false) : (front ++ rest).dropWhile p = rest := by
  rw [List.dropWhile_append_of_pos hfront]
  cases rest with
  | nil => rfl
  | cons x rest => rw [List.dropWhile_cons_of_neg (Bool.eq_false_iff.1 (hrest x rfl))]

theorem cutFirst_append {p : Char → Bool} {s r : List Char} {c : Char} (hs : ∀ d ∈ s, p d = false)
    (hc : p c = true) : cutFirst p (s ++ c :: r) = some (s, r) := by
  have hbefore : ∀ d ∈ s, (!p d) = true := by
    intro d hd
    rw [hs d hd, Bool.not_false]
  have hstop : ∀ d ∈ (c :: r).head?, (!p d) = false := by
    rintro d ⟨⟩
    rw [hc, Bool.not_true]
  rw [cutFirst, dropWhile_front hbefore hstop, takeWhile_front hbefore hstop]

/-- A text is cut at its last separator. -/
theorem cutLast_append {p : Char → Bool} {s r : List Char} {c : Char} (hr : ∀ d ∈ r, p d = false)
    (hc : p c = true) : cutLast p (s ++ c :: r) = some (s, r) := by
  have hflip : (s ++ c :: r).reverse = r.reverse ++ c :: s.reverse := by simp
  rw [cutLast, hflip, cutFirst_append (fun d hd => hr d (List.mem_reverse.1 hd)) hc]
  simp only [Option.map_some, List.reverse_reverse]

/-- What stands behind the last separator is part of the text. -/
theorem mem_of_cutLast {p : Char → Bool} {s before after : List Char} (h : cutLast p s = some (before, after)) :
    ∀ c ∈ after, c ∈ s := by
  intro c hc
  obtain ⟨⟨back, front⟩, hcut, heq⟩ := Option.map_eq_some_iff.1 h
  cases heq
  rw [cutFirst] at hcut
  split at hcut
  · cases hcut
  · cases hcut
    exact List.mem_reverse.1 (List.takeWhile_subset _ (List.mem_reverse.1 hc))

theorem dropRight_subset (p : Char → Bool) (s : List Char) : dropRight p s ⊆ s := fun _ hc =>
  List.mem_reverse.1 ((List.dropWhile_sublist p).subset (List.mem_reverse.1 hc))

/-- Behind a character that stays, the end of a text is cut as if it stood alone. -/
theorem dropRight_append {p : Char → Bool} {s : List Char} (hs : ∀ c ∈ s, p c = false) (hne : s ≠ [])
    (t : List Char) : dropRight p (s ++ t) = s ++ dropRight p t := by
  have hstay : s.reverse.dropWhile p = s.reverse := by
    obtain ⟨c, r, hr⟩ := List.exists_cons_of_ne_nil (mt List.reverse_eq_nil_iff.1 hne)
    have hc : c ∈ s := List.mem_reverse.1 (hr ▸ List.mem_cons_self)
    rw [hr, List.dropWhile_cons_of_neg (by simp [hs c hc])]
  have hcut : (t.reverse ++ s.reverse).dropWhile p = t.reverse.dropWhile p ++ s.reverse := by
    rw [List.dropWhile_append]
    split
    · rename_i h
      rw [hstay, List.isEmpty_iff.1 h, List.nil_append]
    · rfl
  rw [dropRight, List.reverse_append, hcut, List.reverse_append, List.reverse_reverse, dropRight]

/-- What is not dropped stays behind anything. -/
theorem dropRight_append_of_ne_nil {p : Char → Bool} {s : List Char} (h : dropRight p s ≠ []) (t : List Char) :
    dropRight p (t ++ s) = t ++ dropRight p s := by
  rw [dropRight, List.reverse_append, List.dropWhile_append, if_neg ?_, List.reverse_append, List.reverse_reverse,
    dropRight]
  intro hnil
  rw [List.isEmpty_iff] at hnil
  exact h (congrArg List.reverse hnil)

/-- Tests that agree on a text cut it alike. -/
theorem splitOnP_congr {p q : α → Bool} {s : List α} (h : ∀ x ∈ s, p x = q x) :
    s.splitOnP p = s.splitOnP q := by
  induction s with
  | nil => rfl
  | cons a s ih =>
    rw [List.splitOnP_cons_eq_if_modifyHead, List.splitOnP_cons_eq_if_modifyHead,
      h a List.mem_cons_self, ih fun x hx => h x (List.mem_cons_of_mem a hx)]

/-- What is joined consists of the pieces and what stands between them. -/
theorem mem_of_mem_intercalate {between : α} {pieces : List (List α)} {x : α}
    (h : x ∈ [between].intercalate pieces) : x = between ∨ ∃ piece ∈ pieces, x ∈ piece := by
  induction pieces with
  | nil => cases h
  | cons piece pieces ih =>
    cases pieces with
    | nil => exact .inr ⟨piece, List.mem_cons_self, by simpa using h⟩
    | cons next rest =>
      rw [List.intercalate_cons_cons, List.append_assoc, List.mem_append, List.singleton_append,
        List.mem_cons] at h
      rcases h with h | h | h
      · exact .inr ⟨piece, List.mem_cons_self, h⟩
      · exact .inl h
      · exact (ih h).imp_right fun ⟨l, hl, hx⟩ => ⟨l, List.mem_cons_of_mem _ hl, hx⟩

/-- All pieces map exactly if each one does. -/
theorem mapM_eq_some_iff {f : α → Option β} {xs : List α} {ys : List β} :
    xs.mapM f = some ys ↔ List.Forall₂ (fun x y => f x = some y) xs ys := by
  induction xs generalizing ys with
  | nil => simp [eq_comm]
  | cons x xs ih =>
    cases ys with
    | nil => simp [Option.bind_eq_some_iff]
    | cons y ys => simp [Option.bind_eq_some_iff, ih]

/-- Pieces that all stay make the same list. -/
theorem mapM_eq_self {f : α → Option α} {xs : List α} (h : ∀ x ∈ xs, f x = some x) :
    xs.mapM f = some xs :=
  mapM_eq_some_iff.2 (List.forall₂_same.2 h)

/-- Each member on the left has its partner on the right. -/
theorem exists_of_mem_left {R : α → β → Prop} {xs : List α} {ys : List β} (h : List.Forall₂ R xs ys)
    {x : α} (hx : x ∈ xs) : ∃ y ∈ ys, R x y := by
  induction h with
  | nil => cases hx
  | cons hab _ ih =>
    rcases List.mem_cons.1 hx with rfl | hx
    · exact ⟨_, List.mem_cons_self, hab⟩
    · obtain ⟨y, hy, hxy⟩ := ih hx
      exact ⟨y, List.mem_cons_of_mem _ hy, hxy⟩

/-- Each member on the right has its partner on the left. -/
theorem exists_of_mem_right {R : α → β → Prop} {xs : List α} {ys : List β}
    (h : List.Forall₂ R xs ys) {y : β} (hy : y ∈ ys) : ∃ x ∈ xs, R x y :=
  exists_of_mem_left h.flip hy

/-- One piece that does not map is enough. -/
theorem mapM_eq_none {f : α → Option β} {xs : List α} {x : α} (hx : x ∈ xs) (h : f x = none) :
    xs.mapM f = none := by
  refine Option.eq_none_iff_forall_ne_some.2 fun ys hys => ?_
  obtain ⟨y, -, hy⟩ := exists_of_mem_left (mapM_eq_some_iff.1 hys) hx
  rw [h] at hy
  cases hy

end Text

end Repeater
