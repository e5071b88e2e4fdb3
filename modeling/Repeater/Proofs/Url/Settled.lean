import Repeater.Proofs.Url.Path

/-!
# Targets that have been read

Reading a target carries out dot segments, turns backslashes into slashes, passes over tabs and line ends and encodes
what may not stand for itself. None of these leaves work for another: above all, no encoding looks like an encoded dot,
so a segment that is not carried out is still none when it has been encoded. What has been read is therefore read
again as it is written.

## Results

* `isDotSegment_of_percentEncode` — encoding makes no dot segment;
* `isSettled_withTarget`          — path and query are settled when they have been read;
* `IsSettled.withTarget_target`   — a settled path and query are read as they are written.
-/

namespace Repeater.Url

-- ---------------------------------------------------------------------------
-- Encodings and dots
-- ---------------------------------------------------------------------------

/-- In a dot segment a percent sign stands before the digits of a dot only. -/
theorem digits_of_isDots {n : Nat} {front rest : List Char} (h : isDots n (front ++ '%' :: rest) = true) :
    ∃ e tail, rest = '2' :: e :: tail ∧ (e = 'e' ∨ e = 'E') := by
  change isDots.go n (front ++ '%' :: rest) = true at h
  generalize hs : front ++ '%' :: rest = s at h
  fun_induction isDots.go n s generalizing front with
  | case1 => simp at hs
  | case2 n r ih =>
    cases front with
    | nil => cases hs
    | cons c front => exact ih (List.cons.inj hs).2 h
  | case3 n e r ih =>
    obtain ⟨hdigit, hdots⟩ := Bool.and_eq_true_iff.1 h
    have he : e = 'e' ∨ e = 'E' := by simpa using hdigit
    match front, hs with
    | [], hs =>
      cases hs
      exact ⟨e, r, rfl, he⟩
    | [_], hs => cases hs
    | [_, _], hs =>
      cases hs
      exact absurd he (by decide)
    | _ :: _ :: _ :: front, hs =>
      cases hs
      exact ih rfl hdots
  | case4 => cases h

/-- Only the byte of a dot is written with these digits. -/
theorem toNat_of_percentByte {b : UInt8} {e : Char} {r tail : List Char}
    (h : percentByte b ++ r = '%' :: '2' :: e :: tail) (he : e = 'e' ∨ e = 'E') : b.toNat = 46 := by
  have hall : ∀ n < 256, percentByte (UInt8.ofNat n) ∈ [['%', '2', 'e'], ['%', '2', 'E']] → n = 46 := by
    decide +kernel
  have hb : percentByte b = ['%', '2', e] := by
    simp only [percentByte, List.cons_append, List.cons.injEq, true_and] at h ⊢
    exact ⟨h.1, h.2.1, trivial⟩
  have hmem : percentByte b ∈ [['%', '2', 'e'], ['%', '2', 'E']] := by
    rw [hb]
    rcases he with rfl | rfl <;> decide
  rw [← UInt8.ofNat_toNat (x := b)] at hmem
  exact hall b.toNat b.toNat_lt hmem

/-- **Encoding makes no dot segment.** -/
theorem isDotSegment_of_percentEncode {seg : List Char} (h : IsDotSegment (percentEncode inPath seg)) :
    IsDotSegment seg := by
  have hplain : ∀ c ∈ seg, inPath c = false := by
    intro c hc
    rw [Bool.eq_false_iff]
    intro hencoded
    obtain ⟨before, after, rfl⟩ := List.append_of_mem hc
    obtain ⟨b, bytes, hbytes⟩ := List.exists_cons_of_length_pos
      (Nat.lt_of_lt_of_eq c.utf8Size_pos (String.length_utf8EncodeChar c).symm)
    -- the encoding of the first byte, with the digits that only a dot has
    have hwritten : percentEncode inPath (before ++ c :: after) = percentEncode inPath before ++
        (percentByte b ++ (bytes.flatMap percentByte ++ percentEncode inPath after)) := by
      simp [percentEncode, percentChar, hencoded, hbytes]
    rw [hwritten] at h
    obtain ⟨e, tail, htail, he⟩ := h.elim digits_of_isDots digits_of_isDots
    have hdot : b.toNat = 46 := toNat_of_percentByte (congrArg (List.cons '%') htail) he
    have hmem : b ∈ String.utf8EncodeChar c := hbytes ▸ List.mem_cons_self
    have hc : c = '.' := Char.toNat_inj.1 ((toNat_eq_of_mem (by omega) hmem).trans hdot)
    rw [hc] at hencoded
    exact absurd hencoded (by decide)
  rwa [(percentEncode_eq_self isSafeSet_inPath).2 hplain] at h

-- ---------------------------------------------------------------------------
-- Segments
-- ---------------------------------------------------------------------------

/-- A character of a path does not end it. -/
theorem IsPathChar.stays {c : Char} (h : IsPathChar c) : (c != '?' && c != '#') = true := by
  rw [Bool.and_eq_true, bne_iff_ne, bne_iff_ne]
  constructor
  · rintro rfl
    exact absurd h (by decide)
  · rintro rfl
    exact absurd h (by decide)

/-- A segment that is read as it is written, and as one. -/
structure IsSettledSegment (seg : List Char) : Prop where
  chars : ∀ c ∈ seg, IsPathChar c
  whole : '/' ∉ seg
  stays : ¬IsDotSegment seg

/-- An encoded segment is settled, unless it is carried out. -/
theorem isSettledSegment_percentEncode {seg : List Char} (hslash : '/' ∉ seg) (hback : '\\' ∉ seg)
    (hdots : ¬IsDotSegment seg) : IsSettledSegment (percentEncode inPath seg) where
  chars _ hc := isPathChar_of_mem_percentEncode hback hc
  whole h := by
    rcases mem_percentEncode h with hescape | ⟨hmem, -⟩
    · exact absurd hescape (by decide)
    · exact hslash hmem
  stays h := hdots (isDotSegment_of_percentEncode h)

/-- All segments that are left of a path are settled. -/
theorem isSettledSegment_of_mem_segmentsOf {s seg : List Char} (h : seg ∈ segmentsOf .special [] s) :
    IsSettledSegment seg := by
  have hnil : IsSettledSegment [] := ⟨by simp, by simp, by decide⟩
  refine forall_mem_addSegments (by simp) hnil (fun piece hpiece hdots => ?_) seg h
  have hno {c : Char} (hc : isSlash .special c = true) : c ∉ piece := fun hmem => by
    have := (Text.mem_of_mem_splitOnP hpiece hmem).2
    rw [hc] at this
    cases this
  exact isSettledSegment_percentEncode (hno rfl) (hno rfl) hdots

theorem isPathChar_of_mem_intercalate {segs : List (List Char)} (h : ∀ seg ∈ segs, IsSettledSegment seg) :
    ∀ c ∈ ['/'].intercalate segs, IsPathChar c := by
  intro c hc
  rcases Text.mem_of_mem_intercalate hc with rfl | ⟨seg, hseg, hmem⟩
  · decide
  · exact (h seg hseg).chars c hmem

/-- Settled segments are read as they are written. -/
theorem segmentsOf_intercalate {segs : List (List Char)} (hne : segs ≠ []) (h : ∀ seg ∈ segs, IsSettledSegment seg) :
    segmentsOf .special [] (['/'].intercalate segs) = segs := by
  have hchars := isPathChar_of_mem_intercalate h
  have hpath : pathPart (['/'].intercalate segs) = ['/'].intercalate segs :=
    List.takeWhile_eq_self_iff.2 fun c hc => (hchars c hc).stays
  have hsplit : (['/'].intercalate segs).splitOnP (isSlash .special) = segs := by
    rw [splitOnP_isSlash fun hmem => (hchars _ hmem).2 rfl]
    exact List.splitOn_intercalate '/' (fun seg hseg => (h seg hseg).whole) hne
  have hkept : addSegments .special [] segs = segs := by
    rw [addSegments_eq_self [] fun seg hseg => ⟨fun c hc => ((h seg hseg).chars c hc).1, (h seg hseg).stays⟩,
      List.nil_append]
  rw [segmentsOf, hpath, hsplit, hkept, if_neg SchemeKind.noConfusion]

-- ---------------------------------------------------------------------------
-- Path and query
-- ---------------------------------------------------------------------------

/-- A path and a query that are read as they are written, without a fragment. -/
structure IsSettled (u : Url) : Prop where
  path : ∃ segs, u.path = .segments segs ∧ segs ≠ [] ∧ ∀ seg ∈ segs, IsSettledSegment seg
  query : ∀ q, u.query = some q → ∀ c ∈ q, inSpecialQuery c = false
  fragment : u.fragment = none

variable {scheme r : List Char} {port : Option UInt16} {host : Host}

/-- **Path and query are settled when they have been read.** -/
theorem isSettled_withTarget (hhash : '#' ∉ r) : IsSettled (withTarget scheme port ('/' :: r) host) := by
  have hread : queryAndFragment .special ('/' :: r) = queryAndFragment .special r := rfl
  refine ⟨⟨_, rfl, segmentsOf_ne_nil r, fun seg => isSettledSegment_of_mem_segmentsOf⟩, fun q hq => ?_, ?_⟩
  · rw [withTarget, hread, queryAndFragment_of_no_hash hhash] at hq
    dsimp only at hq
    split at hq
    · cases hq
    · cases hq
      exact fun c => percentEncode_safe isSafeSet_inSpecialQuery
  · rw [withTarget, hread, queryAndFragment_of_no_hash hhash]

/-- What a settled path and query are written as. -/
theorem IsSettled.exists_target {u : Url} (h : IsSettled u) :
    ∃ p, u.target = '/' :: (p ++ u.queryText) ∧ (∀ c ∈ p, IsPathChar c) ∧
      u.path = .segments (segmentsOf .special [] p) := by
  obtain ⟨segs, hpath, hne, hsegs⟩ := h.path
  refine ⟨['/'].intercalate segs, ?_, isPathChar_of_mem_intercalate hsegs, ?_⟩
  · have htext : (Path.segments segs).text = '/' :: ['/'].intercalate segs := segmentText_eq_intercalate hne
    rw [target, hpath, htext, List.cons_append]
  · rw [hpath, segmentsOf_intercalate hne hsegs]

theorem head?_queryText (u : Url) : ∀ c ∈ u.queryText.head?, c = '?' := by
  rw [queryText]
  split <;> simp

/-- Nothing of a settled query is encoded. -/
theorem IsSettled.mem_queryText {u : Url} (h : IsSettled u) {c : Char} (hc : c ∈ u.queryText) :
    inSpecialQuery c = false := by
  rw [queryText] at hc
  split at hc
  · cases hc
  · rename_i hquery
    rcases List.mem_cons.1 hc with rfl | hc
    · decide
    · exact h.query _ hquery c hc

/-- What follows a path is no part of it. -/
theorem segmentsOf_append {p q : List Char} (hp : ∀ c ∈ p, IsPathChar c) (hq : ∀ c ∈ q.head?, c = '?') :
    segmentsOf .special [] (p ++ q) = segmentsOf .special [] p := by
  have hfront : pathPart (p ++ q) = p :=
    Text.takeWhile_front (fun c hc => (hp c hc).stays) (Text.forall_head?_of_eq hq rfl)
  have hwhole : pathPart p = p := List.takeWhile_eq_self_iff.2 fun c hc => (hp c hc).stays
  rw [segmentsOf, segmentsOf, hfront, hwhole]

/-- A settled query is read as it is written. -/
theorem IsSettled.queryAndFragment_queryText {u : Url} (h : IsSettled u) {p : List Char} (hp : ∀ c ∈ p, IsPathChar c) :
    queryAndFragment .special (p ++ u.queryText) = (u.query, none) := by
  have hhash : '#' ∉ p ++ u.queryText := by
    intro hmem
    rcases List.mem_append.1 hmem with hmem | hmem
    · exact absurd (hp _ hmem) (by decide)
    · exact absurd (h.mem_queryText hmem) (by decide)
  have hbefore : ∀ c ∈ p, (c != '?') = true := fun c hc => (Bool.and_eq_true_iff.1 (hp c hc).stays).1
  have hfrom : (p ++ u.queryText).dropWhile (· != '?') = u.queryText :=
    Text.dropWhile_front hbefore (Text.forall_head?_of_eq (head?_queryText u) rfl)
  rw [queryAndFragment_of_no_hash hhash, afterMark, hfrom, queryText]
  cases hq : u.query with
  | none => rfl
  | some q =>
    have hkept : percentEncode inSpecialQuery q = q :=
      (percentEncode_eq_self isSafeSet_inSpecialQuery).2 (h.query q hq)
    simp [hkept]

/-- **A settled path and query are read as they are written**, behind whatever authority. -/
theorem IsSettled.withTarget_target {u : Url} (h : IsSettled u) :
    withTarget scheme port u.target host =
      { scheme, host := some host, port, path := u.path, query := u.query } := by
  obtain ⟨p, htarget, hchars, hpath⟩ := h.exists_target
  have hsegs : pathAfterAuthority .special ('/' :: (p ++ u.queryText)) = segmentsOf .special [] p :=
    segmentsOf_append hchars (head?_queryText u)
  have hquery : queryAndFragment .special ('/' :: (p ++ u.queryText)) = (u.query, none) :=
    h.queryAndFragment_queryText hchars
  rw [withTarget, htarget, hsegs, hquery, hpath]

end Repeater.Url
