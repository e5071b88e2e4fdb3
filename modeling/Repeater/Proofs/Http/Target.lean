import Mathlib.Data.List.TakeWhile
import Repeater.Http.Target
import Repeater.Proofs.Text.Split

/-!
# What a request target consists of

Every character of a target that is read is visible and no hash, so a URL can be made of it without
passing anything over. What consists of the characters of a path and of a query is read to its end.

## Results

* `Target.visible_of_parse?` — the characters of a target that is read;
* `Target.parse?_of_slash`   — what is read as a path with a query.
-/

namespace Repeater.Http.Target

/-- A character that may stand in a target. -/
def IsTargetChar (c : Char) : Prop :=
  0x20 < c.toNat ∧ c ≠ '#'

instance (c : Char) : Decidable (IsTargetChar c) :=
  inferInstanceAs (Decidable (_ ∧ _))

theorem isTargetChar_of_pathChar {c : Char} (h : isPathChar c = true) : IsTargetChar c := by
  simp only [isPathChar, Bool.and_eq_true, decide_eq_true_eq, Bool.not_eq_true', List.contains_eq_mem,
    decide_eq_false_iff_not] at h
  exact ⟨h.1, fun heq => h.2 (heq ▸ List.mem_cons_self)⟩

theorem isTargetChar_of_queryChar {c : Char} (h : isQueryChar c = true) : IsTargetChar c := by
  simp only [isQueryChar, Bool.and_eq_true, decide_eq_true_eq, Bool.not_eq_true', List.contains_eq_mem,
    decide_eq_false_iff_not] at h
  exact ⟨h.1, fun heq => h.2 (by simp [heq])⟩

/-- A path with a query consists of visible characters. -/
theorem visible_of_pathAndQueryOf? {s rest : List Char} (h : pathAndQueryOf? s = some rest) :
    ∀ c ∈ rest, IsTargetChar c := by
  unfold pathAndQueryOf? at h
  dsimp only at h
  split at h
  · rename_i hall
    rw [Bool.and_eq_true, List.all_eq_true, List.all_eq_true] at hall
    cases h
    intro c hc
    rcases List.mem_append.1 hc with hc | hc
    · exact isTargetChar_of_pathChar (hall.1 c hc)
    · rw [Text.drop_length_takeWhile] at hall hc
      cases hrest : s.dropWhile (fun c => c != '?' && c != '#') with
      | nil =>
        rw [hrest] at hc
        cases hc
      | cons mark r =>
        rw [hrest] at hall hc
        have hmark : (mark != '?' && mark != '#') = false := by
          have hne : s.dropWhile (fun c => c != '?' && c != '#') ≠ [] := by simp [hrest]
          have := List.head_dropWhile_not (fun c => c != '?' && c != '#') hne
          simpa [hrest] using this
        by_cases hhash : mark = '#'
        · rw [hhash, List.takeWhile_cons_of_neg (by decide)] at hc
          cases hc
        · have hquery : mark = '?' := by simpa [hhash] using hmark
          have hgo : (mark :: r).takeWhile (· != '#') = mark :: r.takeWhile (· != '#') :=
            List.takeWhile_cons_of_pos (bne_iff_ne.2 hhash)
          rw [hgo] at hall hc
          rcases List.mem_cons.1 hc with rfl | hc
          · rw [hquery]
            decide
          · exact isTargetChar_of_queryChar (hall.2 c hc)
  · cases h

/-- The characters of a target that is read. -/
theorem visible_of_parse? {text : String} {t : Target} (h : parse? text = some t) :
    ∀ c ∈ t.rest, IsTargetChar c := by
  unfold parse? at h
  split at h
  · cases h
  · split at h
    · cases h
    · cases h
      exact Text.forall_mem_of_all (by decide)
    · obtain ⟨rest, hrest, rfl⟩ := Option.map_eq_some_iff.1 h
      exact visible_of_pathAndQueryOf? hrest
    · obtain ⟨⟨scheme, r⟩, -, h⟩ := Option.bind_eq_some_iff.1 h
      obtain ⟨⟨authority, r⟩, -, h⟩ := Option.bind_eq_some_iff.1 h
      dsimp only at h
      split at h
      · cases h
      · split at h
        · split at h
          · cases h
            simp
          · cases h
        · obtain ⟨rest, hrest, h⟩ := Option.bind_eq_some_iff.1 h
          cases h
          exact visible_of_pathAndQueryOf? hrest

/-- A path and a query of characters that may stand in them are read to their end. -/
theorem pathAndQueryOf?_eq_self {path query : List Char} (hpath : ∀ c ∈ path, isPathChar c = true)
    (hquery : ∀ c ∈ query, isQueryChar c = true) (hmark : ∀ c ∈ query.head?, c = '?') :
    pathAndQueryOf? (path ++ query) = some (path ++ query) := by
  have hstay : ∀ c ∈ path, (c != '?' && c != '#') = true := by
    intro c hc
    have hchar := hpath c hc
    simp only [isPathChar, Bool.and_eq_true, Bool.not_eq_true', List.contains_eq_mem, decide_eq_false_iff_not] at hchar
    rw [Bool.and_eq_true, bne_iff_ne, bne_iff_ne]
    exact ⟨fun heq => hchar.2 (by simp [heq]), fun heq => hchar.2 (by simp [heq])⟩
  have hwhole : query.takeWhile (· != '#') = query := List.takeWhile_eq_self_iff.2 fun c hc =>
    bne_iff_ne.2 (isTargetChar_of_queryChar (hquery c hc)).2
  have hall : (path.all isPathChar && (query.drop 1).all isQueryChar) = true :=
    Bool.and_eq_true_iff.2 ⟨List.all_eq_true.2 hpath,
      List.all_eq_true.2 fun c hc => hquery c (List.mem_of_mem_drop hc)⟩
  rw [pathAndQueryOf?, Text.takeWhile_front hstay (Text.forall_head?_of_eq hmark rfl)]
  simp only [List.drop_left, hwhole]
  rw [if_pos hall]

/-- What starts with a slash and is read to its end is a target, unless it is too long. -/
theorem parse?_of_slash {s : List Char} (hslash : s.head? = some '/') (hread : pathAndQueryOf? s = some s)
    (hsize : (String.ofList s).utf8ByteSize ≤ maxLength) : parse? (String.ofList s) = some { rest := s } := by
  obtain ⟨r, rfl⟩ := List.head?_eq_some_iff.1 hslash
  rw [parse?, if_neg (Nat.not_lt.2 hsize), String.toList_ofList]
  simp [hread]

end Repeater.Http.Target
