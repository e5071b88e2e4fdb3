import Repeater.Proofs.Text.Split
import Repeater.Proofs.Text.Utf8
import Repeater.Proofs.Url.Percent
import Repeater.Url.Form

/-!
# Forms read back

A text that is written into a form has no character that means anything in a query, and it is read back as it
was, whatever characters it is made of.

Main results:

* `formDecode_formEncode` — a text is read back;
* `formPairs_formPair` — so is a pair of them;
* `isFormChar_of_mem_formEncode` — the characters that are written.
-/

namespace Repeater.Url

-- ---------------------------------------------------------------------------
-- Characters
-- ---------------------------------------------------------------------------

/-- A character of a form. -/
def IsFormChar (c : Char) : Prop :=
  c.isAlphanum = true ∨ c ∈ ['*', '-', '.', '_', '+', '%']

instance (c : Char) : Decidable (IsFormChar c) :=
  inferInstanceAs (Decidable (_ ∨ _))

theorem isFormChar_of_isEscape {c : Char} (h : IsEscape c) : IsFormChar c := by
  rcases h with rfl | hdigit | hletter
  · decide
  · left
    show (c.isAlpha || c.isDigit) = true
    rw [hdigit, Bool.or_true]
  · exact .inl (isAlphanum_iff.2 (.inl (.inl ⟨hletter.1, Char.le_trans hletter.2 (by decide)⟩)))

theorem isFormChar_of_mem_formByte {b : UInt8} {c : Char} (h : c ∈ formByte b) : IsFormChar c := by
  unfold formByte at h
  split at h
  · rw [List.mem_singleton.1 h]
    decide
  · split at h
    · rename_i hform
      rw [List.mem_singleton.1 h]
      simp only [isFormByte, Bool.or_eq_true, beq_iff_eq] at hform
      rcases hform with (((hform | hform) | hform) | hform) | hform
      · exact .inl hform
      all_goals
        rw [hform]
        decide
    · exact isFormChar_of_isEscape (isEscape_of_mem_percentByte h)

theorem isFormChar_of_mem_formEncode {s : List Char} {c : Char} (h : c ∈ formEncode s) : IsFormChar c := by
  obtain ⟨b, -, hc⟩ := List.mem_flatMap.1 h
  exact isFormChar_of_mem_formByte hc

-- ---------------------------------------------------------------------------
-- Bytes
-- ---------------------------------------------------------------------------

/-- A character of a form as it is meant before percent signs are looked at. -/
def unplus (c : Char) : Char :=
  if c = '+' then ' ' else c

theorem bytesOf_append (s t : List Char) : bytesOf (s ++ t) = bytesOf s ++ bytesOf t :=
  List.flatMap_append

/-- A byte that is no percent sign stays. -/
theorem percentDecode_cons {b : UInt8} (h : b ≠ 37) (r : List UInt8) :
    percentDecode (b :: r) = b :: percentDecode r := by
  rw [percentDecode]
  rintro a b' r' rfl
  exact absurd rfl h

theorem hexValue?_digit : ∀ n < 16,
    (String.utf8EncodeChar (if n < 10 then Char.ofNat (48 + n) else Char.ofNat (55 + n))).map hexValue? =
      [some (UInt8.ofNat n)] := by
  decide

theorem percentDecode_percentByte (b : UInt8) (r : List UInt8) :
    percentDecode (bytesOf (percentByte b) ++ r) = b :: percentDecode r := by
  have hb : b.toNat < 256 := b.toNat_lt
  obtain ⟨x, hx, hhigh⟩ := List.map_eq_singleton_iff.1 (hexValue?_digit (b.toNat / 16) (by omega))
  obtain ⟨y, hy, hlow⟩ := List.map_eq_singleton_iff.1 (hexValue?_digit (b.toNat % 16) (by omega))
  have hbytes : bytesOf (percentByte b) = [37, x, y] := by
    simp only [bytesOf, percentByte, List.flatMap_cons, List.flatMap_nil, hx, hy]
    rfl
  have hvalue : UInt8.ofNat (b.toNat / 16) * 16 + UInt8.ofNat (b.toNat % 16) = b := by
    apply UInt8.toNat_inj.1
    simp only [UInt8.toNat_add, UInt8.toNat_mul, UInt8.toNat_ofNat', UInt8.reduceToNat]
    omega
  rw [hbytes, List.cons_append, List.cons_append, List.cons_append, List.nil_append, percentDecode]
  simp only [hhigh, hlow, hvalue]

theorem unplus_of_isEscape {c : Char} (h : IsEscape c) : unplus c = c := by
  refine if_neg ?_
  rintro rfl
  exact absurd h (by decide)

/-- A byte that stands for itself in a form is neither the plus nor the percent sign. -/
theorem bytesOf_unplus_plain : ∀ n < 256, isFormByte (UInt8.ofNat n) = false ∨
    bytesOf ([Char.ofUInt8 (UInt8.ofNat n)].map unplus) = [UInt8.ofNat n] ∧ UInt8.ofNat n ≠ 37 := by
  decide +kernel

/-- One byte of a text is read back. -/
theorem percentDecode_formByte (b : UInt8) (r : List UInt8) :
    percentDecode (bytesOf ((formByte b).map unplus) ++ r) = b :: percentDecode r := by
  unfold formByte
  by_cases hspace : b = 32
  · subst hspace
    exact percentDecode_cons (by decide) r
  · rw [if_neg (by simpa using hspace)]
    by_cases hform : isFormByte b = true
    · have hplain := bytesOf_unplus_plain b.toNat b.toNat_lt
      rw [UInt8.ofNat_toNat, hform] at hplain
      obtain ⟨hbyte, hne⟩ := hplain.resolve_left Bool.noConfusion
      rw [if_pos hform, hbyte]
      exact percentDecode_cons hne r
    · have hkept : (percentByte b).map unplus = percentByte b := by
        conv_rhs => rw [← List.map_id (percentByte b)]
        exact List.map_congr_left fun c hc => unplus_of_isEscape (isEscape_of_mem_percentByte hc)
      rw [if_neg hform, hkept]
      exact percentDecode_percentByte b r

-- ---------------------------------------------------------------------------
-- Texts and pairs
-- ---------------------------------------------------------------------------

/-- **A text is read back from a form.** -/
theorem formDecode_formEncode (s : List Char) : formDecode (formEncode s) = s := by
  have hbytes (bytes : List UInt8) : percentDecode (bytesOf ((bytes.flatMap formByte).map unplus)) = bytes := by
    induction bytes with
    | nil => rfl
    | cons b r ih => rw [List.flatMap_cons, List.map_append, bytesOf_append, percentDecode_formByte, ih]
  have hread := hbytes (bytesOf s)
  unfold formDecode formEncode
  rw [show (fun c => if c = '+' then ' ' else c) = unplus from rfl, hread]
  exact Text.decodeBytes_encode s

/-- **A pair is read back from a form.** -/
theorem formPairs_formPair (name value : List Char) : formPairs (formPair name value) = [(name, value)] := by
  have hne {c d : Char} {s : List Char} (hc : c ∈ formEncode s) (hd : ¬IsFormChar d) : (c == d) = false := by
    rw [beq_eq_false_iff_ne]
    rintro rfl
    exact hd (isFormChar_of_mem_formEncode hc)
  have hwhole : ∀ c ∈ formPair name value, (c == '&') = false := by
    intro c hc
    rcases List.mem_append.1 hc with hc | hc
    · exact hne hc (by decide)
    · rcases List.mem_cons.1 hc with rfl | hc
      · rfl
      · exact hne hc (by decide)
  have hcut : Text.cutFirst (· == '=') (formPair name value) = some (formEncode name, formEncode value) :=
    Text.cutFirst_append (fun c hc => hne hc (by decide)) rfl
  have hsplit : (formPair name value).splitOnP (· == '&') = [formPair name value] :=
    List.splitOnP_eq_singleton hwhole
  have hkept : [formPair name value].filter (fun p => !p.isEmpty) = [formPair name value] :=
    List.filter_cons_of_pos (by simp [formPair])
  rw [formPairs, hsplit, hkept, List.map_singleton, hcut]
  simp only [Option.getD_some, formDecode_formEncode]

end Repeater.Url
