import Repeater.Idna.Domain
import Repeater.Proofs.Idna.Normal
import Repeater.Proofs.Idna.Punycode
import Repeater.Proofs.Text.Split

/-!
# Domain names read back

The form that is looked up is read back as itself, but for one bound: a label is written in Punycode up
to a thousand characters, and Punycode is read up to two thousand. Some long labels are written in more
than that, and these are not read back (`IsReadable`).

Reading goes in two halves. Up to the labels, a name of characters that nothing changes (`IsSteady`)
stays as it is; and what the labels are written in are such characters (`IsPlain`).

## Results

* `toAscii?_of_steady`   — a name of steady characters is only cut into labels and written again;
* `toAscii?_of_digits`   — digits and dots are looked up as they are;
* `toAscii?_of_figures`  — a label of figures and ideographs is looked up in Punycode;
* `toAscii?_of_toAscii?` — the form that is looked up is read back exactly if it is readable;
* `plain_of_toAscii?`    — the characters it consists of.
-/

namespace Repeater.Idna

-- ---------------------------------------------------------------------------
-- Characters that nothing changes
-- ---------------------------------------------------------------------------

/-- A character that stays under the mapping and in normal form, and may stand in any label. -/
structure IsSteady (c : Char) : Prop where
  inert : isInert c.toNat = true
  stays : fate c.toNat = .stays
  allowed : isForbidden c = false

/-- An ASCII character that is no capital and may stand in a name. -/
structure IsPlain (c : Char) : Prop where
  basic : c.toNat < 0x80
  not_upper : ¬(0x41 ≤ c.toNat ∧ c.toNat ≤ 0x5A)
  allowed : isForbidden c = false

theorem IsPlain.steady {c : Char} (h : IsPlain c) : IsSteady c where
  inert := by simp [isInert, h.basic]
  stays := by rw [fate, if_pos h.basic, if_neg h.not_upper]
  allowed := h.allowed

instance (c : Char) : Decidable (IsPlain c) :=
  decidable_of_iff (c.toNat < 0x80 ∧ ¬(0x41 ≤ c.toNat ∧ c.toNat ≤ 0x5A) ∧ isForbidden c = false)
    ⟨fun ⟨a, b, d⟩ => ⟨a, b, d⟩, fun h => ⟨h.basic, h.not_upper, h.allowed⟩⟩

/-- A fact about ASCII characters, from one character after the other. -/
theorem forall_basic {p : Char → Prop} (h : ∀ n < 0x80, p (Char.ofNat n)) {c : Char}
    (hc : c.toNat < 0x80) : p c := by
  have := h c.toNat hc
  rwa [Char.ofNat_toNat] at this

theorem basic_of_isForbidden {c : Char} (h : isForbidden c = true) : c.toNat < 0x80 := by
  simp only [isForbidden, Bool.or_eq_true, decide_eq_true_eq, beq_iff_eq, List.contains_eq_mem,
    List.mem_cons, List.not_mem_nil, or_false] at h
  rcases h with (h | h) | h
  · omega
  · omega
  · rcases h with rfl | rfl | rfl | rfl | rfl | rfl | rfl | rfl | rfl | rfl | rfl | rfl | rfl <;> decide

theorem steady_of_ideograph {c : Char} (h : isIdeograph c.toNat = true) : IsSteady c := by
  have hlarge : 0x80 ≤ c.toNat := by
    simp only [isIdeograph, Bool.and_eq_true, decide_eq_true_eq] at h
    omega
  refine ⟨by simp [isInert, h], ?_, ?_⟩
  · rw [fate, if_neg (Nat.not_lt.2 hlarge), if_pos h]
  · exact Bool.eq_false_iff.2 fun hf => absurd (basic_of_isForbidden hf) (Nat.not_lt.2 hlarge)

theorem basic_of_isDigit {c : Char} (h : Punycode.IsDigit c) : c.toNat < 0x80 := by
  rcases h with ⟨-, h⟩ | ⟨-, h⟩ <;> exact Nat.lt_of_le_of_lt h (by decide)

theorem plain_of_isDigit {c : Char} (h : Punycode.IsDigit c) : IsPlain c ∧ c ≠ '.' := by
  have hall : ∀ n < 0x80, Punycode.IsDigit (Char.ofNat n) →
      IsPlain (Char.ofNat n) ∧ Char.ofNat n ≠ '.' := by decide
  exact forall_basic (p := fun c => Punycode.IsDigit c → IsPlain c ∧ c ≠ '.') hall (basic_of_isDigit h) h

-- ---------------------------------------------------------------------------
-- Names of such characters
-- ---------------------------------------------------------------------------

/-- Nothing is mapped. -/
theorem map?_of_steady {s : List Char} (h : ∀ c ∈ s, IsSteady c) : map? s = some s := by
  have hplace : s.mapM map?.place = some (s.map fun c => [c]) := by
    rw [Text.mapM_eq_some_iff, List.forall₂_map_right_iff, List.forall₂_same]
    intro c hc
    rw [map?.place, (h c hc).stays]
  rw [map?, hplace, Option.map_some, ← List.flatMap_def, List.flatMap_singleton']

theorem joinersOk_of_inert {s : List Char} (h : IsInert s) (before : List Char) :
    joinersOk before s = true := by
  induction s generalizing before with
  | nil => rfl
  | cons c s ih =>
    have hc : isInert c.toNat = true := h c List.mem_cons_self
    have hjoiner : c ≠ '\u200d' := by
      rintro rfl
      exact absurd hc (by decide)
    have hnonjoiner : c ≠ '\u200c' := by
      rintro rfl
      exact absurd hc (by decide)
    rw [joinersOk]
    simp [hjoiner, hnonjoiner, ih fun d hd => h d (List.mem_cons_of_mem c hd)]

theorem isValidLabel_of_steady {label : List Char} (h : ∀ c ∈ label, IsSteady c) :
    isValidLabel label = true := by
  have hinert : IsInert label := fun c hc => (h c hc).inert
  have hall : (label.all fun c => !isForbidden c && fate c.toNat == .stays) = true := by
    rw [List.all_eq_true]
    intro c hc
    rw [(h c hc).allowed, (h c hc).stays]
    rfl
  have hhead : label.head?.any isMark = false := by
    cases label with
    | nil => rfl
    | cons c r =>
      rw [List.head?_cons, Option.any_some, isMark, hinert c List.mem_cons_self]
      rfl
  rw [isValidLabel, hall, normalize_of_inert hinert, hhead, joinersOk_of_inert hinert]
  simp

/-- An unmarked label of steady characters is what its reader sees. -/
theorem decodeLabel?_of_steady {label : List Char} (h : ∀ c ∈ label, IsSteady c)
    (hmark : label.take 4 ≠ punycodeMark) : decodeLabel? label = some label := by
  rw [decodeLabel?, if_neg hmark, if_pos (isValidLabel_of_steady h)]

/-- The second half of reading: the labels are checked together and written. -/
def ofLabels? (labels : List (List Char)) : Option (List Char) :=
  if labels.any (·.any fun c => isRightToLeft (direction c)) && !labels.all directionsOk then none
  else (labels.mapM encodeLabel?).map (['.'].intercalate ·)

theorem toAscii?_eq (name : List Char) :
    toAscii? name = (map? name).bind fun mapped =>
      (((normalize mapped).splitOnP (· == '.')).mapM decodeLabel?).bind ofLabels? := by
  rw [toAscii?]
  congr 1
  funext mapped
  congr 1
  funext labels
  rw [ofLabels?]
  split
  · rfl
  · cases labels.mapM encodeLabel? <;> rfl

/-- A name of steady characters is only cut into labels and written again. -/
theorem toAscii?_of_steady {s : List Char} (h : ∀ c ∈ s, IsSteady c) :
    toAscii? s = ((s.splitOnP (· == '.')).mapM decodeLabel?).bind ofLabels? := by
  rw [toAscii?_eq, map?_of_steady h, Option.bind_some, normalize_of_inert fun c hc => (h c hc).inert]

-- ---------------------------------------------------------------------------
-- Figures and ideographs
-- ---------------------------------------------------------------------------

/-- A name of steady characters is only written if its labels have no mark and run from left to
right. -/
theorem toAscii?_of_unmarked {s : List Char} (h : ∀ c ∈ s, IsSteady c)
    (hlabels : ∀ label ∈ s.splitOnP (· == '.'),
      label.take 4 ≠ punycodeMark ∧ ∀ c ∈ label, isRightToLeft (direction c) = false) :
    toAscii? s = ((s.splitOnP (· == '.')).mapM encodeLabel?).map (['.'].intercalate ·) := by
  have hdecode : (s.splitOnP (· == '.')).mapM decodeLabel? = some (s.splitOnP (· == '.')) := by
    refine Text.mapM_eq_self fun label hl => decodeLabel?_of_steady ?_ (hlabels label hl).1
    exact fun c hc => h c (Text.mem_of_mem_splitOnP hl hc).1
  have hdirection : ((s.splitOnP (· == '.')).any (·.any fun c => isRightToLeft (direction c))) =
      false := by
    rw [List.any_eq_false]
    intro label hl
    rw [Bool.not_eq_true, List.any_eq_false]
    intro c hc
    rw [(hlabels label hl).2 c hc]
    exact Bool.false_ne_true
  rw [toAscii?_of_steady h, hdecode, Option.bind_some, ofLabels?, hdirection, Bool.false_and,
    if_neg Bool.false_ne_true]

/-- A figure or an ideograph. -/
def IsFigure (c : Char) : Prop :=
  c.isDigit ∨ isIdeograph c.toNat = true

instance (c : Char) : Decidable (IsFigure c) :=
  inferInstanceAs (Decidable (_ ∨ _))

theorem plain_of_figure {c : Char} (h : c.isDigit) : IsPlain c ∧ c ≠ '.' := by
  simp only [Char.isDigit, Bool.and_eq_true, decide_eq_true_eq] at h
  exact plain_of_isDigit (.inr h)

theorem IsFigure.steady {c : Char} (h : IsFigure c) : IsSteady c :=
  h.elim (fun hd => (plain_of_figure hd).1.steady) steady_of_ideograph

/-- Labels of figures and ideographs have no mark and run from left to right. -/
theorem unmarked_of_figures {label : List Char} (h : ∀ c ∈ label, IsFigure c) :
    label.take 4 ≠ punycodeMark ∧ ∀ c ∈ label, isRightToLeft (direction c) = false := by
  constructor
  · intro hmark
    have hx : 'x' ∈ label.take 4 := hmark ▸ List.mem_cons_self
    rcases h 'x' (List.mem_of_mem_take hx) with hd | hi
    · exact absurd hd (by decide)
    · exact absurd hi (by decide)
  · intro c hc
    by_cases hd : c.isDigit
    · rw [direction, if_pos hd]
      decide
    · rw [direction, if_neg hd, if_pos ((h c hc).resolve_left hd)]
      decide

/-- Digits and dots are looked up as they are. -/
theorem toAscii?_of_digits {s : List Char} (h : ∀ c ∈ s, c.isDigit ∨ c = '.') :
    toAscii? s = some s := by
  have hlabel {label : List Char} (hl : label ∈ s.splitOnP (· == '.')) {c : Char} (hc : c ∈ label) :
      c.isDigit := by
    obtain ⟨hmem, hdot⟩ := Text.mem_of_mem_splitOnP hl hc
    exact (h c hmem).resolve_right fun heq => by simp [heq] at hdot
  have hsteady : ∀ c ∈ s, IsSteady c := by
    intro c hc
    rcases h c hc with hd | rfl
    · exact (plain_of_figure hd).1.steady
    · exact IsPlain.steady (by decide)
  have hencode : (s.splitOnP (· == '.')).mapM encodeLabel? = some (s.splitOnP (· == '.')) := by
    refine Text.mapM_eq_self fun label hl => if_pos ?_
    rw [List.all_eq_true]
    exact fun c hc => decide_eq_true (plain_of_figure (hlabel hl hc)).1.basic
  rw [toAscii?_of_unmarked hsteady fun label hl => unmarked_of_figures fun c hc => .inl (hlabel hl hc),
    hencode, Option.map_some]
  exact congrArg some (List.intercalate_splitOn '.')

theorem no_dot_of_figures {s : List Char} (h : ∀ c ∈ s, IsFigure c) : '.' ∉ s :=
  fun hmem => absurd (h '.' hmem) (by decide)

theorem no_dot_encode {s : List Char} (h : ∀ c ∈ s, IsFigure c) (hlen : s.length ≤ 1000) :
    '.' ∉ Punycode.encode s := by
  intro hmem
  rcases Punycode.mem_encode hlen hmem with ⟨hmem, -⟩ | heq | hd
  · exact no_dot_of_figures h hmem
  · exact absurd heq (by decide)
  · exact absurd hd (by decide)

/-- A label of figures and ideographs is looked up in Punycode. -/
theorem toAscii?_of_figures {s : List Char} (h : ∀ c ∈ s, IsFigure c) {c : Char} (hc : c ∈ s)
    (hbeyond : isIdeograph c.toNat = true) (hlen : s.length ≤ 1000) :
    toAscii? s = some (punycodeMark ++ Punycode.encode s) := by
  have hsplit : s.splitOnP (· == '.') = [s] := List.splitOn_eq_singleton (no_dot_of_figures h)
  have hencode : encodeLabel? s = some (punycodeMark ++ Punycode.encode s) := by
    rw [encodeLabel?, if_neg, if_neg (Nat.not_lt.2 hlen)]
    rw [List.all_eq_true]
    intro hall
    have hbasic := of_decide_eq_true (hall c hc)
    simp only [isIdeograph, Bool.and_eq_true, decide_eq_true_eq] at hbeyond
    omega
  rw [toAscii?_of_unmarked (fun c hc => (h c hc).steady), hsplit]
  · simp [hencode]
  · intro label hl
    rw [hsplit, List.mem_singleton] at hl
    exact hl ▸ unmarked_of_figures h

-- ---------------------------------------------------------------------------
-- Labels read back
-- ---------------------------------------------------------------------------

/-- A label that can be read: in Punycode it has at most two thousand characters after its mark. -/
def IsReadableLabel (label : List Char) : Prop :=
  label.take 4 = punycodeMark → (label.drop 4).length ≤ 2000

instance (label : List Char) : Decidable (IsReadableLabel label) :=
  inferInstanceAs (Decidable (_ → _))

/-- A name with labels that can be read. -/
def IsReadable (name : List Char) : Prop :=
  ∀ label ∈ name.splitOnP (· == '.'), IsReadableLabel label

instance (name : List Char) : Decidable (IsReadable name) :=
  inferInstanceAs (Decidable (∀ label ∈ _, _))

theorem take_mark (r : List Char) : (punycodeMark ++ r).take 4 = punycodeMark :=
  List.take_left' rfl

theorem drop_mark (r : List Char) : (punycodeMark ++ r).drop 4 = r :=
  List.drop_left' rfl

/-- A long label in Punycode cannot be read. -/
theorem not_isReadable_marked {r : List Char} (hdot : '.' ∉ r) (hlen : 2000 < r.length) :
    ¬IsReadable (punycodeMark ++ r) := by
  intro h
  have hno : '.' ∉ punycodeMark ++ r :=
    fun hmem => (List.mem_append.1 hmem).elim (by decide) hdot
  have hsplit : (punycodeMark ++ r).splitOnP (· == '.') = [punycodeMark ++ r] :=
    List.splitOn_eq_singleton hno
  rw [IsReadable, hsplit] at h
  have hshort := h _ (List.mem_singleton_self _) (take_mark r)
  rw [drop_mark] at hshort
  omega

/-- A label as its reader sees it: valid, without a dot, and marked only beyond ASCII. -/
structure IsSeen (label : List Char) : Prop where
  valid : isValidLabel label = true
  unmarked : label.all (·.toNat < 0x80) = true → label.take 4 ≠ punycodeMark
  no_dot : '.' ∉ label

theorem isSeen_of_decodeLabel? {label l : List Char} (h : decodeLabel? label = some l)
    (hdot : '.' ∉ label) : IsSeen l := by
  unfold decodeLabel? at h
  split at h
  · dsimp only at h
    split at h
    · cases h
    · split at h
      · cases h
      · rename_i hdecode
        split at h
        · cases h
        · rename_i hbad
          cases h
          rw [Bool.or_eq_true, not_or, Bool.not_eq_true, Bool.not_eq_true', Bool.not_eq_false] at hbad
          refine ⟨hbad.2, fun hall => absurd hall (Bool.eq_false_iff.1 hbad.1), fun hmem => hdot ?_⟩
          exact List.mem_of_mem_drop (Punycode.mem_of_decode? hdecode hmem (by decide))
  · rename_i hmark
    split at h
    · rename_i hvalid
      cases h
      exact ⟨hvalid, fun _ => hmark, hdot⟩
    · cases h

variable {l e : List Char}

theorem IsSeen.plain (hl : IsSeen l) {c : Char} (hc : c ∈ l) (hbasic : c.toNat < 0x80) :
    IsPlain c ∧ c ≠ '.' := by
  have hvalid := hl.valid
  simp only [isValidLabel, Bool.and_eq_true, List.all_eq_true, Bool.not_eq_true', beq_iff_eq]
    at hvalid
  obtain ⟨hallowed, hstays⟩ := hvalid.1.1.1 c hc
  refine ⟨⟨hbasic, fun hupper => ?_, hallowed⟩, ?_⟩
  · rw [fate, if_pos hbasic, if_pos hupper] at hstays
    cases hstays
  · rintro rfl
    exact hl.no_dot hc

theorem mark_plain : ∀ c ∈ punycodeMark, IsPlain c ∧ c ≠ '.' :=
  Text.forall_mem_of_all (by decide)

/-- Labels are written in plain characters other than the dot. -/
theorem plain_of_encodeLabel? (hl : IsSeen l) (he : encodeLabel? l = some e) {c : Char} (hc : c ∈ e) :
    IsPlain c ∧ c ≠ '.' := by
  unfold encodeLabel? at he
  split at he
  · rename_i hbasic
    cases he
    rw [List.all_eq_true] at hbasic
    exact hl.plain hc (of_decide_eq_true (hbasic c hc))
  · split at he
    · cases he
    · rename_i hlen
      cases he
      rcases List.mem_append.1 hc with hc | hc
      · exact mark_plain c hc
      · rcases Punycode.mem_encode (Nat.not_lt.1 hlen) hc with ⟨hmem, hbasic⟩ | rfl | hd
        · exact hl.plain hmem hbasic
        · decide
        · exact plain_of_isDigit hd

/-- A written label is read back exactly if it is readable. -/
theorem decodeLabel?_of_encodeLabel? (hl : IsSeen l) (he : encodeLabel? l = some e) :
    decodeLabel? e = if IsReadableLabel e then some l else none := by
  unfold encodeLabel? at he
  split at he
  · rename_i hbasic
    cases he
    have hmark := hl.unmarked hbasic
    have hreadable : IsReadableLabel l := fun h => absurd h hmark
    rw [decodeLabel?, if_neg hmark, if_pos hl.valid, if_pos hreadable]
  · split at he
    · cases he
    · rename_i hbasic hlen
      cases he
      rw [decodeLabel?, if_pos (take_mark _)]
      simp only [drop_mark, IsReadableLabel, take_mark, true_imp_iff]
      by_cases hlong : 2000 < (Punycode.encode l).length
      · rw [if_pos hlong, if_neg (Nat.not_le.2 hlong)]
      · rw [if_neg hlong, if_pos (Nat.not_lt.1 hlong), Punycode.decode?_encode (Nat.not_lt.1 hlen)]
        simp [hbasic, hl.valid]

-- ---------------------------------------------------------------------------
-- Names read back
-- ---------------------------------------------------------------------------

/-- What a name is looked up as comes from labels as their readers see them. -/
theorem labels_of_toAscii? {name a : List Char} (h : toAscii? name = some a) :
    ∃ labels encoded, ofLabels? labels = some a ∧ labels.mapM encodeLabel? = some encoded ∧
      a = ['.'].intercalate encoded ∧ encoded ≠ [] ∧ ∀ l ∈ labels, IsSeen l := by
  rw [toAscii?_eq, Option.bind_eq_some_iff] at h
  obtain ⟨mapped, -, h⟩ := h
  obtain ⟨labels, hdecode, hof⟩ := Option.bind_eq_some_iff.1 h
  have hsome := hof
  rw [ofLabels?] at hsome
  split at hsome
  · cases hsome
  · obtain ⟨encoded, hencode, ha⟩ := Option.map_eq_some_iff.1 hsome
    rw [Text.mapM_eq_some_iff] at hdecode
    refine ⟨labels, encoded, hof, hencode, ha.symm, ?_, ?_⟩
    · rintro rfl
      have hlen := hdecode.length_eq.trans (Text.mapM_eq_some_iff.1 hencode).length_eq
      exact List.splitOnP_ne_nil _ _ (List.length_eq_zero_iff.1 hlen)
    · intro l hl
      obtain ⟨label, hlabel, hl⟩ := Text.exists_of_mem_right hdecode hl
      refine isSeen_of_decodeLabel? hl fun hdot => ?_
      simpa using (Text.mem_of_mem_splitOnP hlabel hdot).2

/-- The form that is looked up consists of plain characters. -/
theorem plain_of_toAscii? {name a : List Char} (h : toAscii? name = some a) {c : Char} (hc : c ∈ a) :
    IsPlain c := by
  obtain ⟨labels, encoded, -, hencode, rfl, -, hseen⟩ := labels_of_toAscii? h
  rcases Text.mem_of_mem_intercalate hc with rfl | ⟨e, he, hc⟩
  · decide
  · obtain ⟨l, hl, hle⟩ := Text.exists_of_mem_right (Text.mapM_eq_some_iff.1 hencode) he
    exact (plain_of_encodeLabel? (hseen l hl) hle hc).1

/-- **The form that is looked up is read back exactly if it is readable.** -/
theorem toAscii?_of_toAscii? {name a : List Char} (h : toAscii? name = some a) :
    toAscii? a = if IsReadable a then some a else none := by
  have hsteady : ∀ c ∈ a, IsSteady c := fun c hc => (plain_of_toAscii? h hc).steady
  obtain ⟨labels, encoded, hof, hencode, ha, hne, hseen⟩ := labels_of_toAscii? h
  have hpairs := Text.mapM_eq_some_iff.1 hencode
  have hsplit : a.splitOnP (· == '.') = encoded := by
    rw [ha]
    refine List.splitOn_intercalate '.' (fun e he hdot => ?_) hne
    obtain ⟨l, hl, hle⟩ := Text.exists_of_mem_right hpairs he
    exact (plain_of_encodeLabel? (hseen l hl) hle hdot).2 rfl
  rw [toAscii?_of_steady hsteady, hsplit]
  by_cases hread : IsReadable a
  · rw [if_pos hread]
    rw [IsReadable, hsplit] at hread
    have hdecode : encoded.mapM decodeLabel? = some labels := by
      have hback : List.Forall₂ (fun e l => IsSeen l ∧ encodeLabel? l = some e) encoded labels :=
        List.Forall₂.flip ((List.forall₂_and_left labels encoded).2 ⟨hseen, hpairs⟩)
      rw [Text.mapM_eq_some_iff]
      refine ((List.forall₂_and_left encoded labels).2 ⟨hread, hback⟩).imp ?_
      rintro e l ⟨hr, hl, hle⟩
      rw [decodeLabel?_of_encodeLabel? hl hle, if_pos hr]
    rw [hdecode, Option.bind_some, hof]
  · rw [if_neg hread]
    simp only [IsReadable, hsplit, not_forall] at hread
    obtain ⟨e, he, hbad⟩ := hread
    obtain ⟨l, hl, hle⟩ := Text.exists_of_mem_right hpairs he
    have hnone : decodeLabel? e = none := by
      rw [decodeLabel?_of_encodeLabel? (hseen l hl) hle, if_neg hbad]
    rw [Text.mapM_eq_none he hnone, Option.bind_none]

end Repeater.Idna
