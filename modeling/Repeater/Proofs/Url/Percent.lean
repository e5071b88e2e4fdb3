import Mathlib.Data.List.Basic
import Repeater.Url.Percent

/-!
# Percent encoding and what it leaves alone

An encoding is made of percent signs, digits and capitals, which no set holds, so it never makes a text
that still needs encoding. A text without a percent sign has nothing to decode.

## Results

* `percentEncode_safe`     — encoding leaves no character of its set;
* `percentEncode_eq_self`  — a text is its own encoding exactly if it has no character of the set;
* `utf8?_percentDecode`    — a text without a percent sign is decoded to itself.
-/

namespace Repeater.Url

-- ---------------------------------------------------------------------------
-- Letters and digits
-- ---------------------------------------------------------------------------

theorem isAlphanum_iff {c : Char} :
    c.isAlphanum = true ↔ (('A' ≤ c ∧ c ≤ 'Z') ∨ ('a' ≤ c ∧ c ≤ 'z')) ∨ ('0' ≤ c ∧ c ≤ '9') := by
  have hcases : c.isAlphanum = (decide ('A' ≤ c ∧ c ≤ 'Z') || (decide ('a' ≤ c) && decide (c ≤ 'z')) ||
      (decide ('0' ≤ c) && decide (c ≤ '9'))) := rfl
  rw [hcases]
  simp only [Bool.or_eq_true, Bool.and_eq_true, decide_eq_true_eq]

-- ---------------------------------------------------------------------------
-- Encoding
-- ---------------------------------------------------------------------------

/-- A character that encodings are made of. -/
def IsEscape (c : Char) : Prop :=
  c = '%' ∨ c.isDigit ∨ ('A' ≤ c ∧ c ≤ 'F')

instance (c : Char) : Decidable (IsEscape c) :=
  inferInstanceAs (Decidable (_ ∨ _))

theorem isEscape_of_mem_percentByte {b : UInt8} {c : Char} (h : c ∈ percentByte b) : IsEscape c := by
  have hdigit : ∀ n < 16, IsEscape (if n < 10 then Char.ofNat (48 + n) else Char.ofNat (55 + n)) := by
    decide
  have hb : b.toNat < 256 := b.toNat_lt
  simp only [percentByte, List.mem_cons, List.not_mem_nil, or_false] at h
  rcases h with rfl | rfl | rfl
  · decide
  · exact hdigit _ (by omega)
  · exact hdigit _ (by omega)

theorem isEscape_of_mem_percentChar {c d : Char} (h : d ∈ percentChar c) : IsEscape d := by
  obtain ⟨b, -, h⟩ := List.mem_flatMap.1 h
  exact isEscape_of_mem_percentByte h

/-- A set that holds no character that encodings are made of. -/
def IsSafeSet (p : Char → Bool) : Prop :=
  ∀ c, IsEscape c → p c = false

/-- A character of an encoding is made by it, or stays. -/
theorem mem_percentEncode {p : Char → Bool} {s : List Char} {c : Char} (h : c ∈ percentEncode p s) :
    IsEscape c ∨ (c ∈ s ∧ p c = false) := by
  obtain ⟨d, hmem, h⟩ := List.mem_flatMap.1 h
  split at h
  · exact .inl (isEscape_of_mem_percentChar h)
  · rename_i hd
    obtain rfl := List.mem_singleton.1 h
    exact .inr ⟨hmem, Bool.eq_false_iff.2 hd⟩

/-- Encoding leaves no character of its set. -/
theorem percentEncode_safe {p : Char → Bool} (hp : IsSafeSet p) {s : List Char} {c : Char}
    (h : c ∈ percentEncode p s) : p c = false :=
  (mem_percentEncode h).elim (hp c) And.right

/-- A text is its own encoding exactly if it has no character of the set. -/
theorem percentEncode_eq_self {p : Char → Bool} (hp : IsSafeSet p) {s : List Char} :
    percentEncode p s = s ↔ ∀ c ∈ s, p c = false := by
  constructor
  · intro h c hc
    rw [← h] at hc
    exact percentEncode_safe hp hc
  · intro h
    calc percentEncode p s = s.flatMap fun c => [c] :=
          List.flatMap_congr fun c hc => by rw [h c hc, if_neg Bool.false_ne_true]
      _ = s := List.flatMap_singleton' s

/-- A fact about the characters of encodings, from one ASCII character after the other. -/
theorem isSafeSet_of_basic {p : Char → Bool}
    (h : ∀ n < 0x80, IsEscape (Char.ofNat n) → p (Char.ofNat n) = false) : IsSafeSet p := by
  intro c hc
  have hbasic : c.toNat < 0x80 := by
    rcases hc with rfl | hc | ⟨-, hc⟩
    · decide
    · simp only [Char.isDigit, Bool.and_eq_true, decide_eq_true_eq] at hc
      exact Nat.lt_of_le_of_lt hc.2 (by decide)
    · exact Nat.lt_of_le_of_lt hc (by decide)
  have := h c.toNat hbasic
  rw [Char.ofNat_toNat] at this
  exact this hc

theorem isSafeSet_inPath : IsSafeSet inPath :=
  isSafeSet_of_basic (by decide)

theorem isSafeSet_inSpecialQuery : IsSafeSet inSpecialQuery :=
  isSafeSet_of_basic (by decide)

-- ---------------------------------------------------------------------------
-- Decoding
-- ---------------------------------------------------------------------------

/-- A byte of ASCII stands for its character only. -/
theorem toNat_eq_of_mem {b : UInt8} (hb : b.toNat < 0x80) {c : Char} (h : b ∈ String.utf8EncodeChar c) :
    c.toNat = b.toNat := by
  have hbyte (n : Nat) (hn : n < 256) (h : b = UInt8.ofNat n) : b.toNat = n := by
    have := congrArg UInt8.toNat h
    rwa [UInt8.toNat_ofNat', Nat.mod_eq_of_lt hn] at this
  have hc : c.val.toNat < 0x110000 := by
    rcases c.valid with h | h
    · exact Nat.lt_trans h (by decide)
    · exact h.2
  simp only [String.utf8EncodeChar] at h
  split at h
  · exact (hbyte _ (by omega) (List.mem_singleton.1 h)).symm
  · split at h
    · simp only [List.mem_cons, List.not_mem_nil, or_false] at h
      rcases h with h | h <;> exact absurd (hbyte _ (by omega) h) (by omega)
    · split at h
      · simp only [List.mem_cons, List.not_mem_nil, or_false] at h
        rcases h with h | h | h <;> exact absurd (hbyte _ (by omega) h) (by omega)
      · simp only [List.mem_cons, List.not_mem_nil, or_false] at h
        rcases h with h | h | h | h <;> exact absurd (hbyte _ (by omega) h) (by omega)

/-- Only the percent sign is written with its byte. -/
theorem eq_percent_of_mem {c : Char} (h : 37 ∈ String.utf8EncodeChar c) : c = '%' :=
  Char.toNat_inj.1 (toNat_eq_of_mem (by decide) h)

/-- Without a percent sign nothing is decoded. -/
theorem percentDecode_eq_self {bytes : List UInt8} (h : 37 ∉ bytes) : percentDecode bytes = bytes := by
  induction bytes with
  | nil => rfl
  | cons b r ih =>
    rw [percentDecode]
    · rw [ih fun hr => h (List.mem_cons_of_mem b hr)]
    · rintro a b' r' rfl
      exact fun _ => h List.mem_cons_self

/-- A text without a percent sign is decoded to itself. -/
theorem utf8?_percentDecode {s : List Char} (h : '%' ∉ s) :
    Text.utf8? (percentDecode (bytesOf s)).toByteArray = some (String.ofList s) := by
  have hbytes : 37 ∉ bytesOf s := by
    intro hmem
    obtain ⟨c, hc, hb⟩ := List.mem_flatMap.1 hmem
    rw [eq_percent_of_mem hb] at hc
    exact h hc
  have htext : (bytesOf s).toByteArray = Text.utf8 (String.ofList s) := rfl
  rw [percentDecode_eq_self hbytes, htext, Text.utf8?_utf8]

end Repeater.Url
