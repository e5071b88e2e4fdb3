import Repeater.Toml.Value

/-!
# TOML scalars

Readers for the strings, numbers and dates of TOML. A reader takes the text that is left and gives a
value with the text after it, or nothing if the text does not start with what it reads.
-/

namespace Repeater.Toml

/-- Reads a value at the start of a text. -/
abbrev Reader (α : Type) := List Char → Option (α × List Char)

-- ---------------------------------------------------------------------------
-- Character classes
-- ---------------------------------------------------------------------------

/-- A blank inside a line. -/
def isSpace (c : Char) : Bool := c == ' ' || c == '\t'

/-- A character of a comment: no control character but the tab. -/
def isCommentChar (c : Char) : Bool :=
  c == '\t' || (0x20 ≤ c.toNat && c.toNat != 0x7f)

/-- A character that stands for itself between double quotes. -/
def isBasicChar (c : Char) : Bool :=
  isCommentChar c && c != '"' && c != '\\'

/-- A character of a string between single quotes. -/
def isLiteralChar (c : Char) : Bool :=
  isCommentChar c && c != '\''

/-- A character of a key without quotes. -/
def isBareKeyChar (c : Char) : Bool :=
  c.isAlphanum || c == '_' || c == '-'

/-- A hexadecimal digit. -/
def isHexDigit (c : Char) : Bool :=
  c.isDigit || ('a' ≤ c && c ≤ 'f') || ('A' ≤ c && c ≤ 'F')

/-- The value of a hexadecimal digit. -/
def hexValue (c : Char) : Nat :=
  if c.isDigit then c.toNat - '0'.toNat
  else if 'a' ≤ c then c.toNat - 'a'.toNat + 10
  else c.toNat - 'A'.toNat + 10

/-- The number that digits of a base write. -/
def ofDigits (base : Nat) (ds : List Char) : Nat :=
  ds.foldl (fun n c => n * base + hexValue c) 0

/-- Drops blanks of a line. -/
def skipSpaces (s : List Char) : List Char :=
  s.dropWhile isSpace

/-- The text after one line end. -/
def lineEnd? : List Char → Option (List Char)
  | '\n' :: r => some r
  | '\r' :: '\n' :: r => some r
  | _ => none

-- ---------------------------------------------------------------------------
-- Strings
-- ---------------------------------------------------------------------------

/-- The character of a code point, if it has one. -/
def charOfCode? (n : Nat) : Option Char :=
  if h : n.isValidChar then some (Char.ofNatAux n h) else none

/-- Reads the rest of an escape, after the backslash. -/
def escape : Reader Char
  | 'b' :: r => some ('\x08', r)
  | 't' :: r => some ('\t', r)
  | 'n' :: r => some ('\n', r)
  | 'f' :: r => some ('\x0c', r)
  | 'r' :: r => some ('\r', r)
  | '"' :: r => some ('"', r)
  | '\\' :: r => some ('\\', r)
  | 'u' :: r => number 4 r
  | 'U' :: r => number 8 r
  | _ => none
where
  number (n : Nat) (r : List Char) : Option (Char × List Char) :=
    let ds := r.take n
    if ds.length = n ∧ ds.all isHexDigit then
      (charOfCode? (ofDigits 16 ds)).map fun c => (c, r.drop n)
    else none

/-- Reads the inside of a string between double quotes, and the closing quote. The fuel bounds the
characters. -/
def basicBody : Nat → List Char → Reader (List Char)
  | 0, _, _ => none
  | fuel + 1, done, s =>
    match s with
    | '"' :: r => some (done.reverse, r)
    | '\\' :: r =>
      match escape r with
      | some (c, r) => basicBody fuel (c :: done) r
      | none => none
    | c :: r => if isBasicChar c then basicBody fuel (c :: done) r else none
    | [] => none

/-- The length of the run of `q` at the start. -/
def runLength (q : Char) (s : List Char) : Nat :=
  (s.takeWhile (· == q)).length

/-- After a backslash: the text after a line end and all blanks and line ends that follow it. -/
def foldedLine? (s : List Char) : Option (List Char) :=
  (lineEnd? (skipSpaces s)).map fun r => skip r.length r
where
  skip : Nat → List Char → List Char
    | 0, s => s
    | fuel + 1, s =>
      match s with
      | ' ' :: r | '\t' :: r => skip fuel r
      | _ =>
        match lineEnd? s with
        | some r => skip fuel r
        | none => s

/-- Reads the inside of a string between triple quotes `q`, and the closing quotes. Up to two quotes
may stand right before these. With `escapes` the backslash escapes. -/
def longBody (q : Char) (escapes : Bool) : Nat → List Char → Reader (List Char)
  | 0, _, _ => none
  | fuel + 1, done, s =>
    match s with
    | [] => none
    | c :: r =>
      if c == q then
        let n := runLength q s
        if n < 3 then longBody q escapes fuel (c :: done) r
        else
          let n := min n 5
          some ((List.replicate (n - 3) q ++ done).reverse, s.drop n)
      else if escapes && c == '\\' then
        match foldedLine? r with
        | some r => longBody q escapes fuel done r
        | none =>
          match escape r with
          | some (c, r) => longBody q escapes fuel (c :: done) r
          | none => none
      else match lineEnd? s with
        | some r => longBody q escapes fuel ('\n' :: done) r
        | none => if isCommentChar c then longBody q escapes fuel (c :: done) r else none

/-- Drops one line end. -/
def skipLineEnd (s : List Char) : List Char :=
  (lineEnd? s).getD s

/-- Reads a string on one line. -/
def shortString : Reader String
  | '"' :: r => (basicBody (r.length + 1) [] r).map fun (cs, r) => (String.ofList cs, r)
  | '\'' :: r =>
    match r.dropWhile isLiteralChar with
    | '\'' :: rest => some (String.ofList (r.takeWhile isLiteralChar), rest)
    | _ => none
  | _ => none

/-- Reads a string of any form. -/
def anyString : Reader String
  | '"' :: '"' :: '"' :: r =>
    (longBody '"' true (r.length + 1) [] (skipLineEnd r)).map fun (cs, r) => (String.ofList cs, r)
  | '\'' :: '\'' :: '\'' :: r =>
    (longBody '\'' false (r.length + 1) [] (skipLineEnd r)).map fun (cs, r) => (String.ofList cs, r)
  | s => shortString s

-- ---------------------------------------------------------------------------
-- Numbers
-- ---------------------------------------------------------------------------

/-- Reads digits of a class; single underscores may stand between them. -/
def digits (p : Char → Bool) (s : List Char) : Option (List Char × List Char) :=
  match s with
  | c :: r => if p c then some (go [c] r) else none
  | [] => none
where
  go (done : List Char) : List Char → List Char × List Char
    | '_' :: c :: r => if p c then go (c :: done) r else (done.reverse, '_' :: c :: r)
    | c :: r => if p c then go (c :: done) r else (done.reverse, c :: r)
    | [] => (done.reverse, [])

/-- Reads a sign, if there is one; true for minus. -/
def sign (s : List Char) : Option Bool × List Char :=
  match s with
  | '+' :: r => (some false, r)
  | '-' :: r => (some true, r)
  | _ => (none, s)

/-- Reads the digits of a decimal integer, which start with a zero only if that is all. -/
def decimalDigits : Reader (List Char)
  | '0' :: r => some (['0'], r)
  | s => digits Char.isDigit s

/-- Whether `m * 10 ^ e` rounds to more than the largest double, `2 ^ 1024 - 2 ^ 971`. -/
def overflowsDouble (m : Nat) (e : Int) : Bool :=
  let top := Nat.pow 2 1024 - Nat.pow 2 970
  let n : Int := (Nat.toDigits 10 m).length + e
  if m = 0 then false
  else if n > 310 then true
  else if n < 308 then false
  else if 0 ≤ e then top ≤ m * Nat.pow 10 e.toNat else top * Nat.pow 10 (-e).toNat ≤ m

/-- Reads a number with a fraction, an exponent or a name; one beyond the doubles has no value unless
it is negative. -/
def float : Reader Value := fun s => do
  let (minus, r) := sign s
  match r with
  | 'i' :: 'n' :: 'f' :: rest => some (.float "inf", rest)
  | 'n' :: 'a' :: 'n' :: rest => some (.float "nan", rest)
  | _ =>
    let (whole, r) ← decimalDigits r
    let (fraction, r) ← match r with
      | '.' :: r => (digits Char.isDigit r).map fun (ds, r) => (some ds, r)
      | _ => some (none, r)
    let (exponent, r) ← match r with
      | 'e' :: r | 'E' :: r =>
        let (minus, r) := sign r
        (digits Char.isDigit r).map fun (ds, r) =>
          (some ((if minus = some true then -1 else 1) * (ofDigits 10 ds : Int)), r)
      | _ => some (none, r)
    if fraction.isNone ∧ exponent.isNone then none
    else
      let places := fraction.getD []
      let e := exponent.getD 0 - places.length
      if minus != some true && overflowsDouble (ofDigits 10 (whole ++ places)) e then none
      else some (.float (String.ofList (s.take (s.length - r.length))), r)

/-- Reads an integer of 64 bits. -/
def integer : Reader Value := fun s =>
  match s with
  | '0' :: 'x' :: r => ofBase 16 isHexDigit r
  | '0' :: 'o' :: r => ofBase 8 (fun c => '0' ≤ c && c ≤ '7') r
  | '0' :: 'b' :: r => ofBase 2 (fun c => c == '0' || c == '1') r
  | _ => do
    let (minus, r) := sign s
    let (ds, r) ← decimalDigits r
    let n : Int := ofDigits 10 ds
    let n := if minus = some true then -n else n
    if -9223372036854775808 ≤ n ∧ n ≤ 9223372036854775807 then some (.integer n, r) else none
where
  ofBase (base : Nat) (p : Char → Bool) (s : List Char) : Option (Value × List Char) := do
    let (ds, r) ← digits p s
    let n := ofDigits base ds
    if n ≤ 9223372036854775807 then some (.integer n, r) else none

-- ---------------------------------------------------------------------------
-- Dates and times
-- ---------------------------------------------------------------------------

/-- Reads exactly `n` digits as a number in a range. -/
def fixedNumber (n lo hi : Nat) (s : List Char) : Option (Nat × List Char) :=
  let ds := s.take n
  let v := ofDigits 10 ds
  if ds.length = n ∧ ds.all Char.isDigit ∧ lo ≤ v ∧ v ≤ hi then some (v, s.drop n) else none

/-- Drops one given character. -/
def expect (c : Char) : List Char → Option (List Char)
  | d :: r => if d = c then some r else none
  | [] => none

/-- The number of days in a month. -/
def daysIn (year month : Nat) : Nat :=
  if month = 2 then
    if year % 4 = 0 ∧ (year % 100 ≠ 0 ∨ year % 400 = 0) then 29 else 28
  else if month = 4 ∨ month = 6 ∨ month = 9 ∨ month = 11 then 30 else 31

/-- The text after a date. -/
def date (s : List Char) : Option (List Char) := do
  let (year, r) ← fixedNumber 4 0 9999 s
  let r ← expect '-' r
  let (month, r) ← fixedNumber 2 1 12 r
  let r ← expect '-' r
  let (_, r) ← fixedNumber 2 1 (daysIn year month) r
  some r

/-- The text after a time of day. -/
def time (s : List Char) : Option (List Char) := do
  let (_, r) ← fixedNumber 2 0 23 s
  let r ← expect ':' r
  let (_, r) ← fixedNumber 2 0 59 r
  let r ← expect ':' r
  let (_, r) ← fixedNumber 2 0 60 r
  match r with
  | '.' :: c :: r => if c.isDigit then some (r.dropWhile Char.isDigit) else none
  | '.' :: [] => none
  | _ => some r

/-- The text after an offset from universal time. -/
def offset (s : List Char) : Option (List Char) :=
  match s with
  | 'Z' :: r | 'z' :: r => some r
  | '+' :: r | '-' :: r => do
    let (_, r) ← fixedNumber 2 0 23 r
    let r ← expect ':' r
    let (_, r) ← fixedNumber 2 0 59 r
    some r
  | _ => some s

/-- Reads a date, a time, or both. -/
def datetime : Reader Value := fun s => do
  let rest ← match date s with
    | some r =>
      match r with
      | 'T' :: t | 't' :: t | ' ' :: t =>
        match time t with
        | some r => offset r
        | none => some r
      | _ => some r
    | none => time s
  some (.datetime (String.ofList (s.take (s.length - rest.length))), rest)

end Repeater.Toml
