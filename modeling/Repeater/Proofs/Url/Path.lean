import Mathlib.Data.List.Induction
import Repeater.Proofs.Text.Split
import Repeater.Proofs.Url.Authority

/-!
# Paths read as they are written

What is read behind an authority of a special scheme starts with a slash. It is the text itself exactly
if nothing in it is encoded, no backslash counts as a slash, and no dot segment is carried out. The last
is shown by length: without encoding, carrying out a dot segment makes the path shorter
(`weight_addSegments`).

## Results

* `weight_addSegments`    — dot segments make a path shorter;
* `forall_mem_addSegments` — what is left of the segments of a path;
* `pathText_eq_iff`       — when the path is the text;
* `target_eq_iff`         — when the path with the query is;
* `head?_target_of_parse` — whatever is read, the path starts with a slash.
-/

namespace Repeater.Url

/-- The text of segments. -/
abbrev segmentText (segs : List (List Char)) : List Char :=
  (Path.segments segs).text

theorem segmentText_cons (seg : List Char) (segs : List (List Char)) :
    segmentText (seg :: segs) = '/' :: seg ++ segmentText segs :=
  rfl

/-- Segments are joined by slashes, with one in front. -/
theorem segmentText_eq_intercalate {segs : List (List Char)} (h : segs ≠ []) :
    segmentText segs = '/' :: ['/'].intercalate segs := by
  induction segs with
  | nil => exact absurd rfl h
  | cons seg segs ih =>
    cases segs with
    | nil => simp [Path.text]
    | cons next rest =>
      rw [segmentText_cons, ih (List.cons_ne_nil _ _), List.intercalate_cons_cons]
      simp

-- ---------------------------------------------------------------------------
-- Segments
-- ---------------------------------------------------------------------------

/-- A dot segment that is the last one leaves an empty segment where it stood. -/
def closed (last : Bool) (segs : List (List Char)) : List (List Char) :=
  if last then segs ++ [[]] else segs

/-- What stands after one more segment of a special scheme, which may be the last. -/
def nextSegments (done : List (List Char)) (seg : List Char) (last : Bool) : List (List Char) :=
  if isDots 2 seg then closed last (shorten done)
  else if isDots 1 seg then closed last done
  else done ++ [percentEncode inPath seg]

theorem addSegments_cons (done : List (List Char)) (seg : List Char) (rest : List (List Char)) :
    addSegments .special done (seg :: rest) =
      addSegments .special (nextSegments done seg rest.isEmpty) rest := by
  rw [addSegments, nextSegments]
  simp [closed]

/-- There is always a segment. -/
theorem addSegments_ne_nil (done : List (List Char)) {segs : List (List Char)} (h : segs ≠ []) :
    addSegments .special done segs ≠ [] := by
  induction segs generalizing done with
  | nil => exact absurd rfl h
  | cons seg rest ih =>
    rw [addSegments_cons]
    cases rest with
    | nil =>
      rw [addSegments, nextSegments]
      split
      · simp [closed]
      · split <;> simp [closed]
    | cons next rest => exact ih _ (List.cons_ne_nil _ _)

/-- A segment that is carried out. -/
def IsDotSegment (seg : List Char) : Prop :=
  isDots 1 seg = true ∨ isDots 2 seg = true

instance (seg : List Char) : Decidable (IsDotSegment seg) :=
  inferInstanceAs (Decidable (_ ∨ _))

theorem ne_nil_of_isDots {n : Nat} {seg : List Char} (h : isDots (n + 1) seg = true) : seg ≠ [] := by
  rintro rfl
  cases h

/-- How long the text of segments is. -/
def weight (segs : List (List Char)) : Nat :=
  (segs.map fun seg => seg.length + 1).sum

theorem length_segmentText (segs : List (List Char)) : (segmentText segs).length = weight segs := by
  induction segs with
  | nil => rfl
  | cons seg segs ih =>
    rw [segmentText_cons, weight, List.map_cons, List.sum_cons, ← weight, ← ih, List.length_append,
      List.length_cons]

theorem weight_append (s t : List (List Char)) : weight (s ++ t) = weight s + weight t := by
  simp [weight]

theorem weight_shorten (segs : List (List Char)) : weight (shorten segs) ≤ weight segs := by
  rw [shorten]
  split
  · exact Nat.le_refl _
  · cases segs using List.reverseRecOn with
    | nil => exact Nat.le_refl _
    | append_singleton segs seg =>
      rw [List.dropLast_concat, weight_append]
      exact Nat.le_add_right _ _

theorem weight_closed (last : Bool) (segs : List (List Char)) :
    weight (closed last segs) ≤ weight segs + 1 := by
  rw [closed]
  split
  · rw [weight_append]
    exact Nat.le_refl _
  · exact Nat.le_succ _

/-- One more segment adds no more than its own text, and a dot segment less. -/
theorem weight_nextSegments (done : List (List Char)) {seg : List Char} (last : Bool)
    (hseg : ∀ c ∈ seg, inPath c = false) :
    weight (nextSegments done seg last) ≤ weight done + (seg.length + 1) ∧
      (IsDotSegment seg → weight (nextSegments done seg last) < weight done + (seg.length + 1)) := by
  have hpos {n : Nat} (h : isDots (n + 1) seg = true) : 0 < seg.length :=
    List.length_pos_iff.2 (ne_nil_of_isDots h)
  rw [nextSegments]
  by_cases htwo : isDots 2 seg
  · have := weight_closed last (shorten done)
    have := weight_shorten done
    have := hpos htwo
    rw [if_pos htwo]
    exact ⟨by omega, fun _ => by omega⟩
  · rw [if_neg htwo]
    by_cases hone : isDots 1 seg
    · have := weight_closed last done
      have := hpos hone
      rw [if_pos hone]
      exact ⟨by omega, fun _ => by omega⟩
    · rw [if_neg hone, (percentEncode_eq_self isSafeSet_inPath).2 hseg, weight_append]
      exact ⟨Nat.le_refl _, fun h => absurd h (by simp [IsDotSegment, hone, htwo])⟩

/-- Carrying out dot segments makes the path shorter. -/
theorem weight_addSegments (done : List (List Char)) {segs : List (List Char)}
    (hsegs : ∀ seg ∈ segs, ∀ c ∈ seg, inPath c = false) :
    weight (addSegments .special done segs) ≤ weight done + weight segs ∧
      ((∃ seg ∈ segs, IsDotSegment seg) →
        weight (addSegments .special done segs) < weight done + weight segs) := by
  induction segs generalizing done with
  | nil => exact ⟨Nat.le_refl _, fun ⟨seg, hseg, _⟩ => by cases hseg⟩
  | cons seg rest ih =>
    obtain ⟨hle, hlt⟩ := weight_nextSegments done rest.isEmpty (hsegs seg List.mem_cons_self)
    obtain ⟨hrest, hdots⟩ := ih (nextSegments done seg rest.isEmpty)
      fun seg' h => hsegs seg' (List.mem_cons_of_mem seg h)
    have hweight : weight (seg :: rest) = seg.length + 1 + weight rest := by
      rw [weight, List.map_cons, List.sum_cons, ← weight]
    rw [addSegments_cons, hweight]
    refine ⟨by omega, fun ⟨dot, hmem, hdot⟩ => ?_⟩
    rcases List.mem_cons.1 hmem with rfl | hmem
    · have := hlt hdot
      omega
    · have := hdots ⟨dot, hmem, hdot⟩
      omega

/-- A character that can stand in a path as it is read. -/
def IsPathChar (c : Char) : Prop :=
  inPath c = false ∧ c ≠ '\\'

instance (c : Char) : Decidable (IsPathChar c) :=
  inferInstanceAs (Decidable (_ ∧ _))

theorem mem_shorten {segs : List (List Char)} {seg : List Char} (h : seg ∈ shorten segs) : seg ∈ segs := by
  rw [shorten] at h
  split at h
  · exact h
  · exact List.dropLast_subset segs h

theorem mem_closed {last : Bool} {segs : List (List Char)} {seg : List Char} (h : seg ∈ closed last segs) :
    seg ∈ segs ∨ seg = [] := by
  rw [closed] at h
  split at h
  · exact (List.mem_append.1 h).imp_right List.mem_singleton.1
  · exact .inl h

/-- A segment that is left was there before, or is empty, or is the encoding of one that is not carried out. -/
theorem forall_mem_addSegments {P : List Char → Prop} {done segs : List (List Char)} (hdone : ∀ seg ∈ done, P seg)
    (hnil : P []) (hsegs : ∀ seg ∈ segs, ¬IsDotSegment seg → P (percentEncode inPath seg)) :
    ∀ seg ∈ addSegments .special done segs, P seg := by
  induction segs generalizing done with
  | nil => exact hdone
  | cons seg rest ih =>
    rw [addSegments_cons]
    refine ih (fun s hs => ?_) fun s hs => hsegs s (List.mem_cons_of_mem seg hs)
    rw [nextSegments] at hs
    split at hs
    · rcases mem_closed hs with hs | rfl
      · exact hdone s (mem_shorten hs)
      · exact hnil
    · rename_i htwo
      split at hs
      · rcases mem_closed hs with hs | rfl
        · exact hdone s hs
        · exact hnil
      · rename_i hone
        rcases List.mem_append.1 hs with hs | hs
        · exact hdone s hs
        · rw [List.mem_singleton.1 hs]
          exact hsegs seg List.mem_cons_self (not_or.2 ⟨hone, htwo⟩)

/-- An encoded segment consists of characters that can stand in a path. -/
theorem isPathChar_of_mem_percentEncode {seg : List Char} (hseg : '\\' ∉ seg) {c : Char}
    (hc : c ∈ percentEncode inPath seg) : IsPathChar c := by
  refine ⟨percentEncode_safe isSafeSet_inPath hc, ?_⟩
  rintro rfl
  rcases mem_percentEncode hc with h | h
  · exact absurd h (by decide)
  · exact hseg h.1

/-- Without dot segments and characters to be encoded, segments stay as they are. -/
theorem addSegments_eq_self (done : List (List Char)) {segs : List (List Char)}
    (hsegs : ∀ seg ∈ segs, (∀ c ∈ seg, inPath c = false) ∧ ¬IsDotSegment seg) :
    addSegments .special done segs = done ++ segs := by
  induction segs generalizing done with
  | nil => simp [addSegments]
  | cons seg rest ih =>
    obtain ⟨hchars, hdots⟩ := hsegs seg List.mem_cons_self
    rw [IsDotSegment, not_or] at hdots
    rw [addSegments_cons, nextSegments, if_neg hdots.2, if_neg hdots.1,
      (percentEncode_eq_self isSafeSet_inPath).2 hchars,
      ih _ fun s hs => hsegs s (List.mem_cons_of_mem seg hs), List.append_assoc, List.singleton_append]

-- ---------------------------------------------------------------------------
-- Paths
-- ---------------------------------------------------------------------------

/-- A path that is read as it is written: nothing is encoded, no backslash counts as a slash, and no dot
segment is carried out. -/
structure IsPlainPath (p : List Char) : Prop where
  chars : ∀ c ∈ p, IsPathChar c
  segments : ∀ seg ∈ p.splitOnP (· == '/'), ¬IsDotSegment seg

/-- Without backslashes the path is cut at the slashes. -/
theorem splitOnP_isSlash {p : List Char} (h : '\\' ∉ p) :
    p.splitOnP (isSlash .special) = p.splitOnP (· == '/') := by
  refine Text.splitOnP_congr fun c hc => ?_
  have hne : (c == '\\') = false := beq_eq_false_iff_ne.2 fun heq => h (heq ▸ hc)
  simp [isSlash, hne]

/-- The pieces of a path make its text. -/
theorem segmentText_splitOnP (p : List Char) : segmentText (p.splitOnP (· == '/')) = '/' :: p := by
  rw [segmentText_eq_intercalate (List.splitOnP_ne_nil _ p)]
  exact congrArg _ (List.intercalate_splitOn '/')

theorem mem_segmentText {segs : List (List Char)} {c : Char} (h : c ∈ segmentText segs) :
    c = '/' ∨ ∃ seg ∈ segs, c ∈ seg := by
  obtain ⟨seg, hseg, hc⟩ := List.mem_flatMap.1 h
  exact (List.mem_cons.1 hc).imp_right fun hc => ⟨seg, hseg, hc⟩

/-- Whatever is read, the path consists of characters that can stand in it. -/
theorem isPathChar_of_mem_pathText {p : List Char} {c : Char}
    (h : c ∈ segmentText (addSegments .special [] (p.splitOnP (isSlash .special)))) : IsPathChar c := by
  rcases mem_segmentText h with rfl | ⟨seg, hseg, hc⟩
  · decide
  · refine forall_mem_addSegments (P := fun seg => ∀ c ∈ seg, IsPathChar c) (by simp) (by simp)
      (fun s hs _ c hc => isPathChar_of_mem_percentEncode (fun hmem => ?_) hc) seg hseg c hc
    exact absurd (Text.mem_of_mem_splitOnP hs hmem).2 (by decide)

/-- When the path is the text. -/
theorem pathText_eq_iff {p : List Char} :
    segmentText (addSegments .special [] (p.splitOnP (isSlash .special))) = '/' :: p ↔
      IsPlainPath p := by
  constructor
  · intro h
    have hchars : ∀ c ∈ p, IsPathChar c := by
      intro c hc
      have hmem : c ∈ '/' :: p := List.mem_cons_of_mem _ hc
      rw [← h] at hmem
      exact isPathChar_of_mem_pathText hmem
    have hslash := splitOnP_isSlash fun hmem => (hchars '\\' hmem).2 rfl
    refine ⟨hchars, fun seg hseg hdot => ?_⟩
    have hsegs : ∀ seg ∈ p.splitOnP (· == '/'), ∀ c ∈ seg, inPath c = false :=
      fun seg hseg c hc => (hchars c (Text.mem_of_mem_splitOnP hseg hc).1).1
    have hshort := (weight_addSegments [] hsegs).2 ⟨seg, hseg, hdot⟩
    have hlength := congrArg List.length (h.trans (segmentText_splitOnP p).symm)
    rw [hslash, length_segmentText, length_segmentText] at hlength
    rw [hlength] at hshort
    exact absurd hshort (by simp [weight])
  · intro h
    have hsegs : ∀ seg ∈ p.splitOnP (· == '/'), (∀ c ∈ seg, inPath c = false) ∧ ¬IsDotSegment seg :=
      fun seg hseg => ⟨fun c hc => (h.chars c (Text.mem_of_mem_splitOnP hseg hc).1).1,
        h.segments seg hseg⟩
    rw [splitOnP_isSlash fun hmem => (h.chars '\\' hmem).2 rfl, addSegments_eq_self [] hsegs,
      List.nil_append, segmentText_splitOnP]

-- ---------------------------------------------------------------------------
-- Path and query
-- ---------------------------------------------------------------------------

/-- A text up to its first question mark. -/
def beforeMark (s : List Char) : List Char :=
  s.takeWhile (· != '?')

/-- A text behind its first question mark. -/
def afterMark (s : List Char) : List Char :=
  (s.dropWhile (· != '?')).drop 1

/-- What is left from the first question mark on. -/
theorem dropWhile_mark (s : List Char) :
    s.dropWhile (· != '?') = [] ∧ afterMark s = [] ∨ s.dropWhile (· != '?') = '?' :: afterMark s := by
  cases h : s.dropWhile (· != '?') with
  | nil => exact .inl ⟨rfl, by rw [afterMark, h]; rfl⟩
  | cons c r =>
    have hc : c = '?' := by
      have hne : s.dropWhile (· != '?') ≠ [] := by simp [h]
      simpa [h] using List.head_dropWhile_not (· != '?') hne
    exact .inr (by rw [afterMark, h, hc]; rfl)

/-- Two texts that are cut at their first question mark are the same if both parts are. -/
theorem append_mark_inj {p p' q q' : List Char} (hp : '?' ∉ p) (hp' : '?' ∉ p')
    (hq : ∀ c ∈ q.head?, c = '?') (hq' : ∀ c ∈ q'.head?, c = '?') :
    p ++ q = p' ++ q' ↔ p = p' ∧ q = q' := by
  have hcut {p q : List Char} (hp : '?' ∉ p) (hq : ∀ c ∈ q.head?, c = '?') :
      (p ++ q).takeWhile (· != '?') = p :=
    Text.takeWhile_front (fun c hc => bne_iff_ne.2 fun heq => hp (heq ▸ hc)) (Text.forall_head?_of_eq hq rfl)
  refine ⟨fun h => ?_, fun ⟨h₁, h₂⟩ => by rw [h₁, h₂]⟩
  have hfront : p = p' := by rw [← hcut hp hq, h, hcut hp' hq']
  exact ⟨hfront, List.append_cancel_left (hfront ▸ h)⟩

variable {scheme r : List Char} {port : Option UInt16} {host : Host}

theorem takeWhile_congr {α : Type} {p q : α → Bool} {s : List α} (h : ∀ x ∈ s, p x = q x) :
    s.takeWhile p = s.takeWhile q ∧ s.dropWhile p = s.dropWhile q := by
  induction s with
  | nil => exact ⟨rfl, rfl⟩
  | cons a s ih =>
    obtain ⟨htake, hdrop⟩ := ih fun x hx => h x (List.mem_cons_of_mem a hx)
    simp only [List.takeWhile_cons, List.dropWhile_cons, h a List.mem_cons_self, htake, hdrop, and_self]

/-- Without a hash only a question mark ends the path. -/
theorem cut_of_no_hash (hhash : '#' ∉ r) :
    pathPart r = beforeMark r ∧ r.dropWhile (fun c => c != '?' && c != '#') = r.dropWhile (· != '?') := by
  refine takeWhile_congr fun c hc => ?_
  have hne : (c != '#') = true := bne_iff_ne.2 fun heq => hhash (heq ▸ hc)
  rw [hne, Bool.and_true]

/-- Without a hash all behind the question mark is query. -/
theorem queryAndFragment_of_no_hash (hhash : '#' ∉ r) :
    queryAndFragment .special r =
      (if r.dropWhile (· != '?') = [] then none else some (percentEncode inSpecialQuery (afterMark r)), none) := by
  have hstay : ∀ c ∈ afterMark r, (c != '#') = true := fun c hc =>
    bne_iff_ne.2 fun heq => hhash (heq ▸ List.dropWhile_subset _ (List.mem_of_mem_drop hc))
  rw [queryAndFragment, (cut_of_no_hash hhash).2]
  rcases dropWhile_mark r with ⟨hnone, -⟩ | hsome
  · rw [hnone]
    rfl
  · rw [hsome, if_neg (List.cons_ne_nil _ _)]
    simp [List.takeWhile_eq_self_iff.2 hstay, List.dropWhile_eq_nil_iff.2 hstay]

/-- Where a query starts, the text has it encoded. -/
def writtenQuery (r : List Char) : List Char :=
  if r.dropWhile (· != '?') = [] then [] else '?' :: percentEncode inSpecialQuery (afterMark r)

/-- The path with the query of a text without a fragment. -/
theorem target_withTarget (hhash : '#' ∉ r) :
    (withTarget scheme port ('/' :: r) host).target =
      segmentText (addSegments .special [] ((beforeMark r).splitOnP (isSlash .special))) ++
        writtenQuery r := by
  have hquery : queryAndFragment .special ('/' :: r) = queryAndFragment .special r := rfl
  rw [target, queryText, withTarget, hquery, queryAndFragment_of_no_hash hhash, writtenQuery]
  congr 1
  · simp [pathAfterAuthority, segmentsOf, isSlash, (cut_of_no_hash hhash).1]
  · by_cases hnone : r.dropWhile (· != '?') = []
    · rw [if_pos hnone, if_pos hnone]
    · rw [if_neg hnone, if_neg hnone]

/-- A target that is read as it is written. -/
structure IsPlainTarget (r : List Char) : Prop where
  path : IsPlainPath (beforeMark r)
  query : ∀ c ∈ afterMark r, inSpecialQuery c = false

/-- **The path with the query is the text exactly if nothing in it is encoded or carried out.** -/
theorem target_eq_iff (hhash : '#' ∉ r) :
    (withTarget scheme port ('/' :: r) host).target = '/' :: r ↔ IsPlainTarget r := by
  have hwritten : ∀ c ∈ (writtenQuery r).head?, c = '?' := by
    rw [writtenQuery]
    split <;> simp
  have hrest : ∀ c ∈ (r.dropWhile (· != '?')).head?, c = '?' := by
    rcases dropWhile_mark r with ⟨h, -⟩ | h <;> simp [h]
  have hfront : '?' ∉ segmentText (addSegments .special [] ((beforeMark r).splitOnP (isSlash .special))) :=
    fun hmem => absurd (isPathChar_of_mem_pathText hmem) (by decide)
  have hback : '?' ∉ '/' :: beforeMark r := by
    intro hmem
    rcases List.mem_cons.1 hmem with h | h
    · cases h
    · simpa using List.all_eq_true.1 List.all_takeWhile _ h
  have hsplit : '/' :: r = '/' :: beforeMark r ++ r.dropWhile (· != '?') := by
    rw [List.cons_append, beforeMark, List.takeWhile_append_dropWhile]
  have hquery : writtenQuery r = r.dropWhile (· != '?') ↔ ∀ c ∈ afterMark r, inSpecialQuery c = false := by
    rw [← percentEncode_eq_self isSafeSet_inSpecialQuery, writtenQuery]
    rcases dropWhile_mark r with ⟨hnone, hafter⟩ | hsome
    · rw [if_pos hnone, hnone, hafter]
      exact iff_of_true rfl rfl
    · rw [if_neg (by rw [hsome]; exact List.cons_ne_nil _ _), hsome, List.cons_inj_right]
  rw [target_withTarget hhash]
  conv_lhs => rhs; rw [hsplit]
  rw [append_mark_inj hfront hback hwritten hrest, pathText_eq_iff, hquery]
  exact ⟨fun ⟨h₁, h₂⟩ => ⟨h₁, h₂⟩, fun h => ⟨h.path, h.query⟩⟩

-- ---------------------------------------------------------------------------
-- The slash in front
-- ---------------------------------------------------------------------------

theorem segmentsOf_ne_nil (s : List Char) : segmentsOf .special [] s ≠ [] :=
  addSegments_ne_nil [] (List.splitOnP_ne_nil _ _)

/-- There is always a path in a special scheme. -/
theorem pathAfterAuthority_ne_nil (s : List Char) : pathAfterAuthority .special s ≠ [] := by
  unfold pathAfterAuthority
  split
  · exact segmentsOf_ne_nil []
  · split
    · exact segmentsOf_ne_nil _
    · simp [segmentsOf_ne_nil]

/-- What is read behind the scheme of the web has a path that starts with a slash, whatever follows. -/
theorem head?_target_of_parse {scheme s : List Char} {u : Url} (hscheme : IsWebScheme scheme)
    (h : parse (scheme ++ "://".toList ++ s) = .ok u) : u.target.head? = some '/' := by
  have hclean : clean (scheme ++ "://".toList ++ s) = scheme ++ ':' :: '/' :: '/' :: trimmed s := by
    rw [clean_append (scheme_visible hscheme) (by simp)]
    simp
  rw [parse, hclean, scheme?_web hscheme] at h
  simp only [afterScheme, hscheme.kind] at h
  obtain ⟨-, ⟨t, hpath⟩, -⟩ := afterSlashes_spec h
  rw [hscheme.kind] at hpath
  obtain ⟨seg, segs, hsegs⟩ := List.exists_cons_of_ne_nil (pathAfterAuthority_ne_nil t)
  rw [target, hpath, hsegs]
  rfl

end Repeater.Url
