import Repeater.Http.Head
import Repeater.Text.Blank

/-!
# Framing of bodies

Where the body of a message ends: after a number of bytes, after the chunk of size zero, or with the
connection.

* `Framing.ofResponse` decides it from a response's head;
* `Framing.read` takes the body off the bytes that follow the head;
* `joinChunks` puts the chunks of a body together.
-/

namespace Repeater.Http

/-- How the end of a body is found. -/
inductive Framing where
  | length (n : Nat)
  | chunked
  | toEnd
  deriving DecidableEq, Repr

-- ---------------------------------------------------------------------------
-- Fields on framing
-- ---------------------------------------------------------------------------

/-- The text of a value's parts between commas, without blanks around them; none for a value that is
not visible. -/
def commaParts (value : ByteArray) : Option (List (List Char)) :=
  (visible? value).map fun s => (s.toList.splitOn ',').map Text.trim

/-- A number of at most 64 bits in decimal digits. -/
def decimal? (s : List Char) : Option Nat :=
  if s.isEmpty || !s.all Char.isDigit then none
  else
    let n := s.foldl (fun n c => 10 * n + (c.toNat - 48)) 0
    if n < UInt64.size then some n else none

/-- The length that all values of the field agree on; none if there is none, or they do not. -/
def contentLength? (hs : Headers) : Option Nat := do
  let parts ← (hs.values "content-length").mapM commaParts
  let ns ← parts.flatten.mapM decimal?
  match ns with
  | [] => none
  | n :: r => if r.all (· == n) then some n else none

/-- Whether the last of the encodings named is `chunked`. -/
def isChunked (hs : Headers) : Bool :=
  match (hs.values "transfer-encoding").getLast?.bind commaParts with
  | none => false
  | some parts => parts.getLast?.any fun p => (String.ofList p).toLower == "chunked"

/-- The largest length that a body may have. -/
def maxLength : Nat := UInt64.size - 3

/-- How the body of a response to a request with this method ends; none for contradictory fields. -/
def Framing.ofResponse (method : String) (head : ResponseHead) : Option Framing :=
  if head.status = 101 ∨ head.status = 204 ∨ head.status = 304 ∨ method = "HEAD" ∨
      (method = "CONNECT" ∧ isSuccess head.status) then some (.length 0)
  else if head.headers.has "transfer-encoding" then
    if head.version = .http10 then none
    else if isChunked head.headers then some .chunked
    else some .toEnd
  else match contentLength? head.headers with
    | some n => if n ≤ maxLength then some (.length n) else none
    | none => if head.headers.has "content-length" then none else some .toEnd

-- ---------------------------------------------------------------------------
-- Chunks
-- ---------------------------------------------------------------------------

/-- The value of a hexadecimal digit. -/
def hexDigit? (b : UInt8) : Option Nat :=
  if 48 ≤ b ∧ b ≤ 57 then some (b.toNat - 48)
  else if 65 ≤ b ∧ b ≤ 70 then some (b.toNat - 55)
  else if 97 ≤ b ∧ b ≤ 102 then some (b.toNat - 87)
  else none

/-- Reads a line end of two bytes. -/
def crlf (s : List UInt8) : Except Stop (List UInt8) := expectAll [13, 10] s

/-- Reads the line before a chunk: its size, and perhaps an extension after a semicolon. -/
def chunkSize (s : List UInt8) : Except Stop (Nat × List UInt8) :=
  let digits := s.takeWhile fun b => (hexDigit? b).isSome
  let size := digits.foldl (fun n b => 16 * n + (hexDigit? b).getD 0) 0
  let rest := s.drop digits.length
  if digits.isEmpty then .error (if rest.isEmpty then .early else .malformed)
  else if UInt64.size ≤ size then .error .malformed
  else
    let rest := rest.dropWhile isSpaceByte
    let rest := match rest with
      | 59 :: r => r.dropWhile fun b => b != 13 && b != 10
      | r => r
    (crlf rest).map fun r => (size, r)

/-- Puts at most `limit` chunks together; fields may follow the last. -/
def chunksFrom : Nat → List UInt8 → Except Stop (List UInt8 × List UInt8)
  | 0, _ => .error .malformed
  | limit + 1, s =>
    match chunkSize s with
    | .error e => .error e
    | .ok (0, r) => (readFields maxFields r).map fun (_, r) => ([], r)
    | .ok (n, r) =>
      let data := r.take n
      if data.length < n then .error .early
      else match crlf (r.drop n) with
        | .error e => .error e
        | .ok r => (chunksFrom limit r).map fun (rest, r) => (data ++ rest, r)

/-- Puts the chunks of a body together. -/
def joinChunks (s : List UInt8) : Except Stop (List UInt8 × List UInt8) :=
  chunksFrom (s.length + 1) s

/-- Takes a body off the bytes that follow a head; `ended` says that no more bytes will come. What
follows the body is given with it. -/
def Framing.split (f : Framing) (ended : Bool) (bytes : ByteArray) :
    Except Stop (ByteArray × ByteArray) :=
  match f with
  | .length n =>
    if n ≤ bytes.size then .ok (bytes.extract 0 n, bytes.extract n bytes.size) else .error .early
  | .chunked => (joinChunks bytes.toList).map fun (body, rest) => (⟨body.toArray⟩, ⟨rest.toArray⟩)
  | .toEnd => if ended then .ok (bytes, .empty) else .error .early

/-- The body at the start of the bytes that follow a head. -/
def Framing.read (f : Framing) (ended : Bool) (bytes : ByteArray) : Except Stop ByteArray :=
  (f.split ended bytes).map Prod.fst

end Repeater.Http
