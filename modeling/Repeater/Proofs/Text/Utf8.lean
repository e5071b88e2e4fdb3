import Repeater.Text.Charset

/-!
# Texts read back from their bytes

A text that is written in UTF-8 is read back by a reader that takes any bytes, and by one that looks for a byte
order mark; only the mark itself, where a text starts with it, is lost to the latter.

Main results:

* `decodeBytes_encode` — the bytes of a text are read as the text;
* `decodeAs_utf8` — what is left of a text when its bytes are searched for a mark.
-/

namespace Repeater

-- ---------------------------------------------------------------------------
-- Bytes and letters
-- ---------------------------------------------------------------------------

theorem toList_loop (b : ByteArray) (i : Nat) (done : List UInt8) :
    ByteArray.toList.loop b i done = done.reverse ++ b.data.toList.drop i := by
  -- on the bytes that are left
  induction hleft : b.size - i generalizing i done with
  | zero =>
    unfold ByteArray.toList.loop
    have hlength : b.data.toList.length ≤ i := Nat.le_of_sub_eq_zero hleft
    rw [if_neg (by omega), List.drop_eq_nil_of_le hlength, List.append_nil]
  | succ n ih =>
    unfold ByteArray.toList.loop
    have hi : i < b.data.toList.length := by
      have : i < b.size := by omega
      exact this
    have hget : b.get! i = b.data.toList[i] := getElem!_pos b.data i hi
    rw [if_pos (by omega), ih _ _ (by omega), List.drop_eq_getElem_cons hi, List.reverse_cons,
      List.append_assoc, List.singleton_append, hget]

/-- The bytes as a list. -/
theorem toList_eq_data (b : ByteArray) : b.toList = b.data.toList := by
  rw [ByteArray.toList, toList_loop]
  rfl

/-- A text in lower case, letter by letter. -/
theorem toLower_eq (s : String) : s.toLower = String.ofList (s.toList.map Char.toLower) := by
  rw [← String.toList_inj, String.toList_ofList]
  exact String.toList_map

namespace Text

theorem toList_utf8 (s : String) : (utf8 s).data.toList = s.toList.flatMap String.utf8EncodeChar := by
  have hbytes : utf8 (String.ofList s.toList) = (s.toList.flatMap String.utf8EncodeChar).toByteArray := rfl
  rw [String.ofList_toList] at hbytes
  rw [hbytes, List.data_toByteArray]

theorem utf8_append (s t : String) : utf8 (s ++ t) = utf8 s ++ utf8 t :=
  String.toByteArray_append

-- ---------------------------------------------------------------------------
-- One character
-- ---------------------------------------------------------------------------

theorem toNat_byte {n : Nat} (h : n < 256) : (UInt8.ofNat n).toNat = n :=
  UInt8.toNat_ofNat_of_lt' h

theorem leadByte?_two {n : Nat} (h : 2 ≤ n) (hn : n < 32) :
    leadByte? (UInt8.ofNat (n + 192)) = some (1, 0x80, 0xBF, n) := by
  have hall : ∀ m < 30, leadByte? (UInt8.ofNat (m + 2 + 192)) = some (1, 0x80, 0xBF, m + 2) := by decide
  obtain ⟨m, rfl⟩ := Nat.exists_eq_add_of_le' h
  exact hall m (by omega)

theorem leadByte?_three : ∀ n < 16, leadByte? (UInt8.ofNat (n + 224)) =
    some (2, if n = 0 then 0xA0 else 0x80, if n = 13 then 0x9F else 0xBF, n) := by
  decide

theorem leadByte?_four : ∀ n < 5, leadByte? (UInt8.ofNat (n + 240)) =
    some (3, if n = 0 then 0x90 else 0x80, if n = 4 then 0x8F else 0xBF, n) := by
  decide

theorem continuation_zero (lo hi : UInt8) (bits : Nat) (r : List UInt8) :
    continuation 0 lo hi bits r = (some bits, 0) := by
  cases r <;> rfl

/-- A byte in the range that is asked for adds its six bits. -/
theorem continuation_succ {n m w used : Nat} {lo hi : UInt8} {r : List UInt8} {code : Option Nat}
    (hm : m < 64) (hlo : lo.toNat ≤ m + 128) (hhi : m + 128 ≤ hi.toNat)
    (hr : continuation n 0x80 0xBF (w * 64 + m) r = (code, used)) :
    continuation (n + 1) lo hi w (UInt8.ofNat (m + 128) :: r) = (code, used + 1) := by
  have hbyte : (UInt8.ofNat (m + 128)).toNat = m + 128 := toNat_byte (by omega)
  have hrange : (lo ≤ UInt8.ofNat (m + 128) && UInt8.ofNat (m + 128) ≤ hi) = true := by
    simp only [Bool.and_eq_true, decide_eq_true_eq, UInt8.le_iff_toNat_le, hbyte]
    exact ⟨hlo, hhi⟩
  have hw : w * 0x40 + (m + 128) % 0x40 = w * 64 + m := by omega
  rw [continuation]
  simp only [hrange, if_true, hbyte, hw, hr]

theorem continuation_tail {n m w used : Nat} {r : List UInt8} {code : Option Nat} (hm : m < 64)
    (hr : continuation n 0x80 0xBF (w * 64 + m) r = (code, used)) :
    continuation (n + 1) 0x80 0xBF w (UInt8.ofNat (m + 128) :: r) = (code, used + 1) := by
  refine continuation_succ hm ?_ ?_ hr
  · show 128 ≤ m + 128
    omega
  · show m + 128 ≤ 191
    omega

/-- A character is read back, whatever follows it. -/
theorem firstChar_encode (c : Char) : ∃ b t, String.utf8EncodeChar c = b :: t ∧
    ∀ r, firstChar b (t ++ r) = (c, t.length) := by
  have hvalid := c.valid
  have hself : Char.ofNat c.val.toNat = c := Char.ofNat_toNat c
  generalize hv : c.val.toNat = v at hself
  have hrange : v < 0xD800 ∨ 0xDFFF < v ∧ v < 0x110000 := hv ▸ hvalid
  have hchar {m : Nat} (hm : m = v) : Char.ofNat m = c := by rw [hm, hself]
  have hlarge {m : Nat} (hm : 128 ≤ m) (hbyte : m < 256) : ¬UInt8.ofNat m < 0x80 := by
    rw [UInt8.lt_iff_toNat_lt, toNat_byte hbyte]
    show ¬m < 128
    omega
  rw [String.utf8EncodeChar, hv]
  split
  · refine ⟨_, [], rfl, fun r => ?_⟩
    have hb : (UInt8.ofNat v).toNat = v := toNat_byte (by omega)
    have hbasic : UInt8.ofNat v < 0x80 := by
      rw [UInt8.lt_iff_toNat_lt, hb]
      show v < 128
      omega
    rw [firstChar, if_pos hbasic, hb, hself]
    rfl
  · split
    · refine ⟨_, _, rfl, fun r => ?_⟩
      have hread := continuation_tail (w := v / 64 % 32) (m := v % 64) (r := r) (by omega)
        (continuation_zero _ _ _ _)
      rw [firstChar, if_neg (hlarge (by omega) (by omega)), leadByte?_two (by omega) (by omega)]
      dsimp only [List.cons_append, List.nil_append]
      rw [hread]
      dsimp only
      rw [hchar (by omega)]
      rfl
    · split
      · refine ⟨_, _, rfl, fun r => ?_⟩
        have hlo : (if v / 4096 % 16 = 0 then 0xA0 else 0x80 : UInt8).toNat ≤ v / 64 % 64 + 128 := by
          split
          · show 160 ≤ v / 64 % 64 + 128
            omega
          · show 128 ≤ v / 64 % 64 + 128
            omega
        have hhi : v / 64 % 64 + 128 ≤ (if v / 4096 % 16 = 13 then 0x9F else 0xBF : UInt8).toNat := by
          split
          · show v / 64 % 64 + 128 ≤ 159
            omega
          · show v / 64 % 64 + 128 ≤ 191
            omega
        have hread := continuation_succ (w := v / 4096 % 16) (by omega) hlo hhi
          (continuation_tail (m := v % 64) (r := r) (by omega) (continuation_zero _ _ _ _))
        rw [firstChar, if_neg (hlarge (by omega) (by omega)), leadByte?_three _ (by omega)]
        dsimp only [List.cons_append, List.nil_append]
        rw [hread]
        dsimp only
        rw [hchar (by omega)]
        rfl
      · refine ⟨_, _, rfl, fun r => ?_⟩
        have hlo : (if v / 262144 % 8 = 0 then 0x90 else 0x80 : UInt8).toNat ≤ v / 4096 % 64 + 128 := by
          split
          · show 144 ≤ v / 4096 % 64 + 128
            omega
          · show 128 ≤ v / 4096 % 64 + 128
            omega
        have hhi : v / 4096 % 64 + 128 ≤ (if v / 262144 % 8 = 4 then 0x8F else 0xBF : UInt8).toNat := by
          split
          · show v / 4096 % 64 + 128 ≤ 143
            omega
          · show v / 4096 % 64 + 128 ≤ 191
            omega
        have hread := continuation_succ (w := v / 262144 % 8) (by omega) hlo hhi
          (continuation_tail (m := v / 64 % 64) (by omega)
            (continuation_tail (m := v % 64) (r := r) (by omega) (continuation_zero _ _ _ _)))
        rw [firstChar, if_neg (hlarge (by omega) (by omega)), leadByte?_four _ (by omega)]
        dsimp only [List.cons_append, List.nil_append]
        rw [hread]
        dsimp only
        rw [hchar (by omega)]
        rfl

-- ---------------------------------------------------------------------------
-- Whole texts
-- ---------------------------------------------------------------------------

theorem decodeBytes_go (s done : List Char) :
    decodeBytes.go (s.flatMap String.utf8EncodeChar) done = done.reverse ++ s := by
  induction s generalizing done with
  | nil =>
    rw [List.flatMap_nil, decodeBytes.go, List.append_nil]
  | cons c s ih =>
    obtain ⟨b, t, hencode, hfirst⟩ := firstChar_encode c
    rw [List.flatMap_cons, hencode, List.cons_append, decodeBytes.go, hfirst]
    dsimp only
    rw [List.drop_left, ih, List.reverse_cons, List.append_assoc, List.singleton_append]

/-- **The bytes of a text are read as the text.** -/
theorem decodeBytes_encode (s : List Char) : decodeBytes (s.flatMap String.utf8EncodeChar) = s :=
  decodeBytes_go s []

/-- The byte order mark as a character. -/
def markChar : Char := '\uFEFF'

/-- A text without the mark that it may start with. -/
def unmarked (s : List Char) : List Char :=
  if s.head? = some markChar then s.drop 1 else s

/-- No character is written with a byte that is no lead byte. -/
theorem ne_of_encode {c : Char} {b : UInt8} {t : List UInt8} (h : String.utf8EncodeChar c = b :: t) :
    b ≠ 0xFF ∧ b ≠ 0xFE := by
  obtain ⟨b', t', hencode, hfirst⟩ := firstChar_encode c
  obtain ⟨rfl, rfl⟩ := List.cons.inj (h.symm.trans hencode)
  have hnone (hlead : leadByte? b = none) (hb : ¬b < 0x80) : b = 0xEF := by
    have hread := hfirst []
    rw [firstChar, if_neg hb, hlead] at hread
    obtain ⟨rfl, -⟩ := Prod.mk.inj hread
    exact (List.cons.inj (h.symm.trans (show String.utf8EncodeChar replacement = [0xEF, 0xBF, 0xBD] by decide))).1
  constructor
  · rintro rfl
    exact absurd (hnone (by decide) (by decide)) (by decide)
  · rintro rfl
    exact absurd (hnone (by decide) (by decide)) (by decide)

theorem encode_mark : String.utf8EncodeChar markChar = [0xEF, 0xBB, 0xBF] := by
  decide

theorem firstChar_mark (r : List UInt8) : (firstChar 0xEF (0xBB :: 0xBF :: r)).1 = markChar := by
  obtain ⟨b, t, hencode, hfirst⟩ := firstChar_encode markChar
  obtain ⟨rfl, rfl⟩ := List.cons.inj (encode_mark.symm.trans hencode)
  exact congrArg Prod.fst (hfirst r)

/-- In the bytes of a text a mark is found exactly where the text starts with one. -/
theorem byteOrderMark_encode (charset : Charset) (s : List Char) :
    byteOrderMark charset (s.flatMap String.utf8EncodeChar) =
      if s.head? = some markChar then (.utf8, (s.drop 1).flatMap String.utf8EncodeChar)
      else (charset, s.flatMap String.utf8EncodeChar) := by
  cases s with
  | nil => rfl
  | cons c s =>
    by_cases hc : c = markChar
    · have hhead : (markChar :: s).head? = some markChar := rfl
      rw [hc, if_pos hhead, List.flatMap_cons, encode_mark]
      rfl
    · obtain ⟨b, t, hencode, hfirst⟩ := firstChar_encode c
      have hread := hfirst (s.flatMap String.utf8EncodeChar)
      rw [if_neg (by simpa using hc), List.flatMap_cons, hencode, List.cons_append]
      generalize t ++ s.flatMap String.utf8EncodeChar = rest at hread
      unfold byteOrderMark
      split
      · rename_i heq
        obtain ⟨rfl, rfl⟩ := List.cons.inj heq
        exact absurd ((congrArg Prod.fst hread).symm.trans (firstChar_mark _)) hc
      · rename_i heq
        exact absurd (List.cons.inj heq).1 (ne_of_encode hencode).1
      · rename_i heq
        exact absurd (List.cons.inj heq).1 (ne_of_encode hencode).2
      · rfl

/-- **What is left of a text**: all of it, but for a mark at its start. -/
theorem decodeAs_utf8 (s : String) : decodeAs .utf8 (utf8 s) = String.ofList (unmarked s.toList) := by
  rw [decodeAs, toList_eq_data, toList_utf8, byteOrderMark_encode, unmarked]
  by_cases hmark : s.toList.head? = some markChar
  · rw [if_pos hmark, if_pos hmark]
    exact congrArg String.ofList (decodeBytes_encode _)
  · rw [if_neg hmark, if_neg hmark]
    exact congrArg String.ofList (decodeBytes_encode _)

end Text

end Repeater
