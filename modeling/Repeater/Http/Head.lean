import Repeater.Http.Header
import Repeater.Http.Status

/-!
# Message heads

Reads the lines before the body: a first line, then fields up to an empty line. Lines end with a line
feed, which a carriage return may precede; empty lines before the first are passed over.

Every reader gives what it read with the bytes that follow, or says why it stopped: `early` where more
bytes could still make it a head, `malformed` or `tooLarge` where none could.
-/

namespace Repeater.Http

/-- Why reading stopped. -/
inductive Stop where
  /-- The bytes end before the head does. -/
  | early
  | malformed
  /-- There are too many fields. -/
  | tooLarge
  /-- The request target is too long. -/
  | targetTooLong
  deriving DecidableEq, Repr

-- ---------------------------------------------------------------------------
-- Bytes
-- ---------------------------------------------------------------------------

/-- A letter, a digit, or a mark that names and methods may hold. -/
def isTokenByte (b : UInt8) : Bool :=
  let c := Char.ofUInt8 b
  c.isAlphanum || ("!#$%&'*+-.^_|~\x60".toList).contains c

/-- A byte that a field value may hold: any but controls, where a tab is none. -/
def isValueByte (b : UInt8) : Bool :=
  b == 9 || (32 ≤ b && b != 127)

/-- A space or a tab. -/
def isSpaceByte (b : UInt8) : Bool :=
  b == 32 || b == 9

/-- The text of ASCII bytes. -/
def asciiText (bytes : List UInt8) : String :=
  String.ofList (bytes.map Char.ofUInt8)

/-- The bytes without spaces and tabs at their ends. -/
def trimSpaces (bytes : List UInt8) : List UInt8 :=
  ((bytes.dropWhile isSpaceByte).reverse.dropWhile isSpaceByte).reverse

-- ---------------------------------------------------------------------------
-- Lines
-- ---------------------------------------------------------------------------

/-- The bytes after a line end. -/
def lineEnd : List UInt8 → Except Stop (List UInt8)
  | 10 :: r => .ok r
  | 13 :: 10 :: r => .ok r
  | [] | [13] => .error .early
  | _ => .error .malformed

/-- The bytes after empty lines. -/
def skipEmptyLines : List UInt8 → Except Stop (List UInt8)
  | 10 :: r => skipEmptyLines r
  | 13 :: 10 :: r => skipEmptyLines r
  | [] | [13] => .error .early
  | 13 :: _ => .error .malformed
  | s => .ok s

/-- The bytes after a given one. -/
def expect (b : UInt8) : List UInt8 → Except Stop (List UInt8)
  | [] => .error .early
  | c :: r => if c = b then .ok r else .error .malformed

/-- The bytes after a given word. -/
def expectAll : List UInt8 → List UInt8 → Except Stop (List UInt8)
  | [], s => .ok s
  | b :: bs, s => do expectAll bs (← expect b s)

-- ---------------------------------------------------------------------------
-- Fields
-- ---------------------------------------------------------------------------

/-- The most fields that a head may have. -/
def maxFields : Nat := 100

/-- Reads a field with its line end. -/
def readField (s : List UInt8) : Except Stop (Header × List UInt8) :=
  let name := s.takeWhile isTokenByte
  match s.drop name.length with
  | [] => .error .early
  | 58 :: r =>
    let value := r.takeWhile isValueByte
    match name, lineEnd (r.drop value.length) with
    | [], _ => .error .malformed
    | _, .error e => .error e
    | _, .ok r => .ok (⟨(asciiText name).toLower, ⟨(trimSpaces value).toArray⟩⟩, r)
  | _ => .error .malformed

/-- Reads at most `limit` fields with the empty line after them. -/
def readFields : Nat → List UInt8 → Except Stop (Headers × List UInt8)
  | limit, s =>
    match s with
    | [] => .error .early
    | b :: _ =>
      if b = 13 ∨ b = 10 then (lineEnd s).map fun r => ([], r)
      else match limit with
        | 0 => .error (if isTokenByte b then .tooLarge else .malformed)
        | limit + 1 =>
          match readField s with
          | .error e => .error e
          | .ok (h, r) => (readFields limit r).map fun (hs, r) => (h :: hs, r)

-- ---------------------------------------------------------------------------
-- Responses
-- ---------------------------------------------------------------------------

/-- The versions that are spoken. -/
inductive Version where
  | http10
  | http11
  deriving DecidableEq, Repr

/-- Reads a version. -/
def readVersion (s : List UInt8) : Except Stop (Version × List UInt8) := do
  let s ← expectAll "HTTP/1.".toUTF8.toList s
  match s with
  | [] => .error .early
  | 48 :: r => .ok (.http10, r)
  | 49 :: r => .ok (.http11, r)
  | _ => .error .malformed

/-- Reads a decimal digit. -/
def readDigit : List UInt8 → Except Stop (Nat × List UInt8)
  | [] => .error .early
  | b :: r => if 48 ≤ b ∧ b ≤ 57 then .ok (b.toNat - 48, r) else .error .malformed

/-- A response up to its body. -/
structure ResponseHead where
  version : Version
  status : Nat
  headers : Headers
  deriving DecidableEq

/-- Reads the line end after a status, with the phrase that a space may bring. -/
def skipReason : List UInt8 → Except Stop (List UInt8)
  | 32 :: r => lineEnd (r.dropWhile isValueByte)
  | s => lineEnd s

/-- Reads the head of a response. -/
def ResponseHead.read (s : List UInt8) : Except Stop (ResponseHead × List UInt8) := do
  let s ← skipEmptyLines s
  let (version, s) ← readVersion s
  let s ← expect 32 s
  let (a, s) ← readDigit s
  let (b, s) ← readDigit s
  let (c, s) ← readDigit s
  let s ← skipReason s
  let (headers, s) ← readFields maxFields s
  if a = 0 then .error .malformed
  else .ok ({ version, status := 100 * a + 10 * b + c, headers }, s)

end Repeater.Http
