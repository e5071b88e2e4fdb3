import Repeater.Http.Framing
import Repeater.Proofs.Http.Head

/-!
# Responses read back

A response that was written is read as the status and the fields that it was written with, as long as the fields
can be written at all; what follows the head is its body.

Main results:

* `readFields_written` — fields are read back;
* `ResponseHead.read_headOctets` — so is the head of a response, whatever follows it.
-/

namespace Repeater.Http

-- ---------------------------------------------------------------------------
-- Bytes of texts and numbers
-- ---------------------------------------------------------------------------

/-- The bytes of a text one by one. -/
def octets (s : String) : List UInt8 :=
  (Text.utf8 s).data.toList

theorem toList_append (a b : ByteArray) : (a ++ b).data.toList = a.data.toList ++ b.data.toList := by
  rw [ByteArray.data_append, Array.toList_append]

theorem octets_append (s t : String) : octets (s ++ t) = octets s ++ octets t := by
  rw [octets, Text.utf8_append, toList_append, octets, octets]

theorem octets_eq (s : String) : octets s = s.toList.flatMap String.utf8EncodeChar :=
  Text.toList_utf8 s

theorem octets_lineEnd : octets "\r\n" = [13, 10] :=
  rfl

theorem octets_number (n : Nat) : octets (toString n) = (Nat.toDigits 10 n).flatMap String.utf8EncodeChar := by
  rw [octets_eq]
  exact congrArg (List.flatMap String.utf8EncodeChar) Nat.toList_repr

theorem octets_digit : ∀ d < 10, String.utf8EncodeChar (Nat.digitChar d) = [UInt8.ofNat (48 + d)] := by
  decide

theorem readDigit_octets {d : Nat} (h : d < 10) (s : List UInt8) :
    readDigit (UInt8.ofNat (48 + d) :: s) = .ok (d, s) := by
  have hall : ∀ d < 10, (48 ≤ UInt8.ofNat (48 + d) ∧ UInt8.ofNat (48 + d) ≤ 57) ∧
      (UInt8.ofNat (48 + d)).toNat - 48 = d := by
    decide
  obtain ⟨hdigit, hvalue⟩ := hall d h
  rw [readDigit, if_pos hdigit, hvalue]

theorem encode_of_isDigit {c : Char} (h : c.isDigit = true) :
    ∃ b, String.utf8EncodeChar c = [b] ∧ 48 ≤ b ∧ b ≤ 57 := by
  have hall : ∀ d < 10, String.utf8EncodeChar (Char.ofNat (48 + d)) = [UInt8.ofNat (48 + d)] ∧
      48 ≤ UInt8.ofNat (48 + d) ∧ UInt8.ofNat (48 + d) ≤ 57 := by
    decide
  have hrange : 48 ≤ c.toNat ∧ c.toNat ≤ 57 := by
    simp only [Char.isDigit, Bool.and_eq_true, decide_eq_true_eq] at h
    exact h
  have hread := hall (c.toNat - 48) (by omega)
  rw [show 48 + (c.toNat - 48) = c.toNat by omega, Char.ofNat_toNat] at hread
  exact ⟨_, hread⟩

/-- A number is written in digits. -/
theorem digit_of_mem_number {n : Nat} {b : UInt8} (h : b ∈ octets (toString n)) : 48 ≤ b ∧ b ≤ 57 := by
  rw [octets_number] at h
  obtain ⟨c, hc, hb⟩ := List.mem_flatMap.1 h
  obtain ⟨d, hd, hrange⟩ := encode_of_isDigit (Nat.isDigit_of_mem_toDigits (by decide) (by decide) hc)
  rw [hd, List.mem_singleton] at hb
  rwa [hb]

/-- A status has three digits. -/
theorem octets_status {n : Nat} (h : isStatus n = true) : octets (toString n) =
    [UInt8.ofNat (48 + n / 100), UInt8.ofNat (48 + n / 10 % 10), UInt8.ofNat (48 + n % 10)] := by
  simp only [isStatus, Bool.and_eq_true, decide_eq_true_eq] at h
  have hhundreds : n / 10 / 10 = n / 100 := by omega
  have hdigits : Nat.toDigits 10 n = [(n / 100).digitChar, (n / 10 % 10).digitChar, (n % 10).digitChar] := by
    rw [Nat.toDigits_of_base_le (by decide) (by omega), Nat.toDigits_of_base_le (by decide) (by omega),
      Nat.toDigits_of_lt_base (by omega), hhundreds]
    rfl
  rw [octets_number, hdigits, List.flatMap_cons, List.flatMap_cons, List.flatMap_singleton,
    octets_digit _ (by omega), octets_digit _ (by omega), octets_digit _ (by omega)]
  rfl

-- ---------------------------------------------------------------------------
-- Lengths
-- ---------------------------------------------------------------------------

theorem visible?_eq_some_iff {value : ByteArray} {s : String} :
    visible? value = some s ↔ (∀ b ∈ value.data.toList, isVisible b = true) ∧ value = Text.utf8 s := by
  rw [visible?, toList_eq_data]
  split
  · rename_i hall
    rw [Text.utf8?_eq_some_iff, and_iff_right (List.all_eq_true.1 hall)]
  · rename_i hall
    refine ⟨nofun, fun h => absurd (List.all_eq_true.2 h.1) hall⟩

theorem strip_eq_self {p : Char → Bool} {s : List Char} (h : ∀ c ∈ s, p c = false) : Text.strip p s = s := by
  have hfront {s : List Char} (h : ∀ c ∈ s, p c = false) : s.dropWhile p = s := by
    cases s with
    | nil => rfl
    | cons c s => exact List.dropWhile_cons_of_neg (by simp [h c List.mem_cons_self])
  rw [Text.strip, hfront h, Text.dropRight, hfront fun c hc => h c (List.mem_reverse.1 hc), List.reverse_reverse]

theorem commaParts_number (n : Nat) : commaParts (Text.utf8 (toString n)) = some [Nat.toDigits 10 n] := by
  have hdigit {c : Char} (h : c ∈ Nat.toDigits 10 n) : c.isDigit = true :=
    Nat.isDigit_of_mem_toDigits (by decide) (by decide) h
  have hvisible : visible? (Text.utf8 (toString n)) = some (toString n) := by
    refine visible?_eq_some_iff.2 ⟨fun b hb => ?_, rfl⟩
    obtain ⟨hlow, hhigh⟩ := digit_of_mem_number hb
    have hprintable : 0x20 ≤ b ∧ b < 0x7f :=
      ⟨UInt8.le_trans (by decide) hlow, UInt8.lt_of_le_of_lt hhigh (by decide)⟩
    simp [isVisible, hprintable]
  have hno : ',' ∉ Nat.toDigits 10 n := fun h => absurd (hdigit h) (by decide)
  have htrim : Text.trim (Nat.toDigits 10 n) = Nat.toDigits 10 n :=
    strip_eq_self fun c hc => Text.isBlank_of_isDigit (hdigit hc)
  have hchars : (toString n).toList = Nat.toDigits 10 n := Nat.toList_repr
  rw [commaParts, hvisible, Option.map_some, hchars, List.splitOn_eq_singleton hno, List.map_singleton, htrim]

theorem decimal?_number (n : Nat) :
    decimal? (Nat.toDigits 10 n) = if n < UInt64.size then some n else none := by
  have hdigits : (Nat.toDigits 10 n).all Char.isDigit = true :=
    List.all_eq_true.2 fun c hc => Nat.isDigit_of_mem_toDigits (by decide) (by decide) hc
  have hne : (Nat.toDigits 10 n).isEmpty = false := by
    simp [Nat.toDigits_ne_nil]
  have hvalue : (Nat.toDigits 10 n).foldl (fun n c => 10 * n + (c.toNat - 48)) 0 = n := by
    have hread := Nat.ofDigitChars_toDigits (b := 10) (n := n) (by decide) (by decide)
    rwa [Nat.ofDigitChars_eq_foldl] at hread
  rw [decimal?, hdigits, hne]
  simp only [hvalue, Bool.not_true, Bool.or_self, Bool.false_eq_true, if_false]

/-- **A length that is written is read back**, if it has at most 64 bits. -/
theorem contentLength?_number {hs : Headers} {n : Nat}
    (h : hs.values "content-length" = [Text.utf8 (toString n)]) :
    contentLength? hs = if n < UInt64.size then some n else none := by
  rw [contentLength?, h, List.mapM_cons, List.mapM_nil, commaParts_number]
  by_cases hn : n < UInt64.size
  · simp [decimal?_number, hn]
  · simp [decimal?_number, hn]

-- ---------------------------------------------------------------------------
-- Fields
-- ---------------------------------------------------------------------------

/-- A field that is read as it was written: its name is a word in lower case, and its value holds no control
character, and no blank at its ends. -/
structure Header.IsWritable (h : Header) : Prop where
  named : octets h.name ≠ []
  token : ∀ b ∈ octets h.name, isTokenByte b = true
  lower : (asciiText (octets h.name)).toLower = h.name
  value : ∀ b ∈ h.value.data.toList, isValueByte b = true
  trimmed : trimSpaces h.value.data.toList = h.value.data.toList

/-- A field as it is written. -/
def Header.octets (h : Header) : List UInt8 :=
  Http.octets h.name ++ 58 :: 32 :: (h.value.data.toList ++ [13, 10])

theorem trimSpaces_cons {b : UInt8} (h : isSpaceByte b = true) (s : List UInt8) :
    trimSpaces (b :: s) = trimSpaces s := by
  rw [trimSpaces, List.dropWhile_cons_of_pos h, trimSpaces]

theorem readField_written {h : Header} (hwritable : h.IsWritable) (t : List UInt8) :
    readField (h.octets ++ t) = .ok (h, t) := by
  have hbytes : h.octets ++ t = octets h.name ++ 58 :: 32 :: (h.value.data.toList ++ 13 :: 10 :: t) := by
    simp [Header.octets]
  have hname : (h.octets ++ t).takeWhile isTokenByte = octets h.name := by
    rw [hbytes, List.takeWhile_append_of_pos hwritable.token, List.takeWhile_cons_of_neg (by decide),
      List.append_nil]
  have hvalue : (32 :: (h.value.data.toList ++ 13 :: 10 :: t)).takeWhile isValueByte =
      32 :: h.value.data.toList := by
    rw [List.takeWhile_cons_of_pos (by decide), List.takeWhile_append_of_pos hwritable.value,
      List.takeWhile_cons_of_neg (by decide), List.append_nil]
  refine readField_eq_ok_iff.2 ⟨?_, 32 :: (h.value.data.toList ++ 13 :: 10 :: t), ?_, ?_, ?_⟩
  · rw [hname]
    exact hwritable.named
  · rw [hbytes, List.dropWhile_append_of_pos hwritable.token, List.dropWhile_cons_of_neg (by decide)]
  · rw [List.dropWhile_cons_of_pos (by decide), List.dropWhile_append_of_pos hwritable.value,
      List.dropWhile_cons_of_neg (by decide)]
    rfl
  · rw [hname, hwritable.lower, hvalue, trimSpaces_cons (by decide), hwritable.trimmed]

/-- **Fields are read back.** -/
theorem readFields_written {limit : Nat} {hs : Headers} (hwritable : ∀ h ∈ hs, h.IsWritable)
    (hlimit : hs.length ≤ limit) (t : List UInt8) :
    readFields limit (hs.flatMap Header.octets ++ 13 :: 10 :: t) = .ok (hs, t) := by
  induction hs generalizing limit with
  | nil =>
    cases limit <;> rfl
  | cons h hs ih =>
    obtain ⟨limit, rfl⟩ := Nat.exists_eq_add_of_le' (show 1 ≤ limit from Nat.le_trans (by simp) hlimit)
    have hfirst := hwritable h List.mem_cons_self
    have hread := readField_written hfirst (hs.flatMap Header.octets ++ 13 :: 10 :: t)
    obtain ⟨b, name, hname⟩ := List.exists_cons_of_ne_nil hfirst.named
    have htoken : isTokenByte b = true := hfirst.token b (hname ▸ List.mem_cons_self)
    have hinside : ¬(b = 13 ∨ b = 10) := by
      rintro (rfl | rfl) <;> exact absurd htoken (by decide)
    have hbytes : h.octets = b :: (name ++ 58 :: 32 :: (h.value.data.toList ++ [13, 10])) := by
      rw [Header.octets, hname, List.cons_append]
    rw [List.flatMap_cons, List.append_assoc]
    rw [hbytes, List.cons_append] at hread ⊢
    rw [readFields, if_neg hinside]
    dsimp only
    rw [hread]
    dsimp only
    rw [ih (fun x hx => hwritable x (List.mem_cons_of_mem h hx)) (by simpa using hlimit)]
    rfl

-- ---------------------------------------------------------------------------
-- Responses
-- ---------------------------------------------------------------------------

/-- What is written of a response before its body. -/
def Response.headOctets (r : Response) : List UInt8 :=
  octets (statusLine .http11 r.status ++ "\r\n") ++ (r.headers.flatMap Header.octets ++ [13, 10])

/-- The body stands behind the head. -/
theorem octets_bytes (r : Response) : (r.bytes .http11).data.toList = r.headOctets ++ r.body.data.toList := by
  have hlines (out : ByteArray) (hs : Headers) :
      (hs.foldl (fun out h => out ++ Text.utf8 (h.name ++ ": ") ++ h.value ++ Text.utf8 "\r\n") out).data.toList =
        out.data.toList ++ hs.flatMap Header.octets := by
    induction hs generalizing out with
    | nil => rw [List.foldl_nil, List.flatMap_nil, List.append_nil]
    | cons h hs ih =>
      have hcolon : octets (h.name ++ ": ") = octets h.name ++ [58, 32] := octets_append h.name ": "
      rw [List.foldl_cons, ih, List.flatMap_cons, toList_append, toList_append, toList_append]
      show out.data.toList ++ octets (h.name ++ ": ") ++ h.value.data.toList ++ octets "\r\n" ++ _ = _
      rw [hcolon, octets_lineEnd]
      simp [Header.octets]
  rw [Response.bytes, toList_append, toList_append, hlines]
  show octets (statusLine .http11 r.status ++ "\r\n") ++ r.headers.flatMap Header.octets ++ octets "\r\n" ++ _ = _
  rw [octets_lineEnd, Response.headOctets]
  simp only [List.append_assoc]

theorem reason_bytes (n : Nat) : ∀ b ∈ octets ((reason? n).getD "<none>"), isValueByte b = true := by
  unfold reason?
  split <;> exact Text.forall_mem_of_all (by decide)

/-- The first line of a response with what stands behind it. -/
theorem octets_statusLine {status : Nat} (h : isStatus status = true) (t : List UInt8) :
    octets (statusLine .http11 status ++ "\r\n") ++ t =
      [72, 84, 84, 80, 47, 49, 46, 49, 32, UInt8.ofNat (48 + status / 100), UInt8.ofNat (48 + status / 10 % 10),
        UInt8.ofNat (48 + status % 10), 32] ++
        (octets ((reason? status).getD "<none>") ++ 13 :: 10 :: t) := by
  have hversion : octets "HTTP/1.1" = [72, 84, 84, 80, 47, 49, 46, 49] := rfl
  have hblank : octets " " = [32] := rfl
  rw [statusLine, Version.text]
  simp only [octets_append, hversion, hblank, octets_status h, octets_lineEnd, List.append_assoc,
    List.cons_append, List.nil_append]

/-- **The head of a response is read back**, whatever follows it. -/
theorem ResponseHead.read_headOctets {r : Response} (hstatus : isStatus r.status = true)
    (hwritable : ∀ h ∈ r.headers, h.IsWritable) (hcount : r.headers.length ≤ maxFields) (t : List UInt8) :
    ResponseHead.read (r.headOctets ++ t) =
      .ok ({ version := .http11, status := r.status, headers := r.headers }, t) := by
  have hfields := readFields_written hwritable hcount t
  have hbehind : r.headers.flatMap Header.octets ++ [13, 10] ++ t =
      r.headers.flatMap Header.octets ++ 13 :: 10 :: t := by
    rw [List.append_assoc]
    rfl
  rw [Response.headOctets, List.append_assoc, hbehind, octets_statusLine hstatus]
  simp only [isStatus, Bool.and_eq_true, decide_eq_true_eq] at hstatus
  generalize r.headers.flatMap Header.octets ++ 13 :: 10 :: t = rest at hfields
  have hreason : skipReason (32 :: (octets ((reason? r.status).getD "<none>") ++ 13 :: 10 :: rest)) = .ok rest := by
    rw [skipReason, List.dropWhile_append_of_pos (reason_bytes r.status), List.dropWhile_cons_of_neg (by decide)]
    rfl
  have hversion (s : List UInt8) :
      readVersion (72 :: 84 :: 84 :: 80 :: 47 :: 49 :: 46 :: 49 :: s) = .ok (.http11, s) := by
    unfold readVersion
    rw [version_bytes]
    rfl
  have hstart (s : List UInt8) : skipEmptyLines (72 :: s) = .ok (72 :: s) := rfl
  have hblank (s : List UInt8) : expect 32 (32 :: s) = .ok s := rfl
  simp only [List.cons_append, List.nil_append]
  rw [ResponseHead.read, hstart, ok_bind, hversion, ok_bind]
  dsimp only
  rw [hblank, ok_bind, readDigit_octets (by omega), ok_bind]
  dsimp only
  rw [readDigit_octets (by omega), ok_bind]
  dsimp only
  rw [readDigit_octets (by omega), ok_bind]
  dsimp only
  rw [hreason, ok_bind, hfields, ok_bind]
  dsimp only
  rw [if_neg (by omega)]
  have hvalue : 100 * (r.status / 100) + 10 * (r.status / 10 % 10) + r.status % 10 = r.status := by omega
  rw [hvalue]

end Repeater.Http
