/-!
# UTF-8

* `utf8` and `utf8?` are the exact encoding and its partial inverse;
* `decodeLossy` reads any bytes, each maximal piece that starts no character becoming U+FFFD.
-/

namespace Repeater.Text

/-- Bytes are compared as the core library does, whatever else is loaded. -/
instance decidableEqByteArray : DecidableEq ByteArray :=
  ByteArray.decEq

/-- The bytes of a text. -/
def utf8 (s : String) : ByteArray :=
  s.toUTF8

/-- The text that the bytes encode, if they encode one. -/
def utf8? (bytes : ByteArray) : Option String :=
  String.fromUTF8? bytes

/-- The character that stands for bytes that encode none. -/
def replacement : Char := '\uFFFD'

/-- For a lead byte: how many bytes follow it, the range of the first of these, and the bits that
the lead contributes. -/
def leadByte? (b : UInt8) : Option (Nat × UInt8 × UInt8 × Nat) :=
  if 0xC2 ≤ b && b ≤ 0xDF then some (1, 0x80, 0xBF, b.toNat % 0x20)
  else if b == 0xE0 then some (2, 0xA0, 0xBF, 0)
  else if b == 0xED then some (2, 0x80, 0x9F, 0xD)
  else if 0xE1 ≤ b && b ≤ 0xEF then some (2, 0x80, 0xBF, b.toNat % 0x10)
  else if b == 0xF0 then some (3, 0x90, 0xBF, 0)
  else if 0xF1 ≤ b && b ≤ 0xF3 then some (3, 0x80, 0xBF, b.toNat % 8)
  else if b == 0xF4 then some (3, 0x80, 0x8F, 4)
  else none

/-- Reads `n` continuation bytes, the first of them in `lo` to `hi`: the code point, or none when one
is missing, and the number of bytes read. -/
def continuation (n : Nat) (lo hi : UInt8) (bits : Nat) : List UInt8 → Option Nat × Nat
  | [] => if n = 0 then (some bits, 0) else (none, 0)
  | b :: r =>
    match n with
    | 0 => (some bits, 0)
    | n + 1 =>
      if lo ≤ b && b ≤ hi then
        let (code, used) := continuation n 0x80 0xBF (bits * 0x40 + b.toNat % 0x40) r
        (code, used + 1)
      else (none, 0)

/-- The first character of `b :: r` and how many bytes of `r` it takes. -/
def firstChar (b : UInt8) (r : List UInt8) : Char × Nat :=
  if b < 0x80 then (Char.ofNat b.toNat, 0)
  else match leadByte? b with
    | none => (replacement, 0)
    | some (n, lo, hi, bits) =>
      match continuation n lo hi bits r with
      | (some code, used) => (Char.ofNat code, used)
      | (none, used) => (replacement, used)

/-- Reads bytes as UTF-8; a maximal piece that starts no character becomes U+FFFD. -/
def decodeBytes (bytes : List UInt8) : List Char :=
  go bytes []
where
  go (bytes : List UInt8) (done : List Char) : List Char :=
    match bytes with
    | [] => done.reverse
    | b :: r =>
      let (c, used) := firstChar b r
      go (r.drop used) (c :: done)
  termination_by bytes.length
  decreasing_by simp only [List.length_drop, List.length_cons]; omega

/-- Reads bytes as UTF-8; a maximal piece that starts no character becomes U+FFFD. -/
def decodeLossy (bytes : ByteArray) : String :=
  match utf8? bytes with
  | some s => s
  | none => String.ofList (decodeBytes bytes.toList)

theorem utf8?_utf8 (s : String) : utf8? (utf8 s) = some s := by
  simp [utf8?, utf8, String.fromUTF8?, String.fromUTF8, s.isValidUTF8]

theorem utf8?_eq_some_iff {bytes : ByteArray} {s : String} : utf8? bytes = some s ↔ bytes = utf8 s := by
  constructor
  · intro h
    rw [utf8?, String.fromUTF8?] at h
    split at h
    · cases h
      rfl
    · cases h
  · rintro rfl
    exact utf8?_utf8 s

end Repeater.Text
