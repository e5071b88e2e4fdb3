import Repeater.Http.Framing
import Repeater.Http.Target

/-!
# Request heads

Reads the head of a request, with what it says of its body and of the connection.

* `RequestHead.read` reads one;
* a head that is none is answered with the status of `Stop.status?`.
-/

namespace Repeater.Http

/-- A request up to its body. -/
structure RequestHead where
  version : Version
  method : String
  target : Target
  headers : Headers
  framing : Framing
  /-- Whether more requests may follow on the connection. -/
  keepAlive : Bool
  deriving DecidableEq

/-- The status that answers bytes that are no head; none if more bytes may make them one. -/
def Stop.status? : Stop → Option Nat
  | .early => none
  | .malformed => some 400
  | .tooLarge => some 431
  | .targetTooLong => some 414

-- ---------------------------------------------------------------------------
-- The first line
-- ---------------------------------------------------------------------------

/-- A byte that a target may hold: any but controls and the space. -/
def isTargetByte (b : UInt8) : Bool :=
  32 < b && b != 127

/-- Reads a word and the space after it. -/
def readWord (p : UInt8 → Bool) (s : List UInt8) :
    Except Stop (List UInt8 × List UInt8) :=
  let word := s.takeWhile p
  match s.drop word.length with
  | [] => .error .early
  | 32 :: r => if word.isEmpty then .error .malformed else .ok (word, r)
  | _ => .error .malformed

-- ---------------------------------------------------------------------------
-- What the fields say
-- ---------------------------------------------------------------------------

/-- Whether a value names an option, in upper or lower case. -/
def hasOption (name : String) (value : ByteArray) : Bool :=
  ((commaParts value).getD []).any fun p => (String.ofList p).toLower == name

/-- Whether more requests may follow: a connection is kept from version 1.1 on unless it is to be
closed, and before only if that is asked for. -/
def keepsAlive (version : Version) (headers : Headers) : Bool :=
  (headers.values "connection").foldl
    (fun keep value => if keep then !hasOption "close" value else hasOption "keep-alive" value)
    (version == .http11)

/-- What has been seen of the fields on framing. -/
structure FramingScan where
  /-- The fields that are kept, the latest first. -/
  kept : Headers := []
  framing : Framing := .length 0
  length : Option Nat := none
  /-- Whether the body is encoded, and the last encoding is `chunked`. -/
  encoded : Option Bool := none

/-- Looks at one more field. A length counts only before any encoding, and only once. -/
def FramingScan.step (version : Version) (a : FramingScan) (h : Header) : Option FramingScan :=
  if h.name = "transfer-encoding" then
    if version = .http10 then none
    else
      let last := isChunked [h]
      some { a with
        kept := h :: a.kept, encoded := some last
        framing := if last then .chunked else a.framing }
  else if h.name = "content-length" then
    if a.encoded.isSome then some a
    else match (visible? h.value).bind fun s => decimal? s.toList with
      | none => none
      | some n =>
        match a.length with
        | some m => if m = n then some a else none
        | none =>
          if n ≤ maxLength then
            some { a with kept := h :: a.kept, length := some n, framing := .length n }
          else none
  else some { a with kept := h :: a.kept }

/-- The fields that are kept, and how the body ends. -/
def framingOf? (version : Version) (headers : Headers) : Option (Headers × Framing) :=
  match headers.foldlM (FramingScan.step version) {} with
  | none => none
  | some a => if a.encoded = some false then none else some (a.kept.reverse, a.framing)

-- ---------------------------------------------------------------------------
-- The head
-- ---------------------------------------------------------------------------

/-- Reads the head of a request, of any length. On a socket a server keeps no more than 417792 bytes of a head that
has not come whole, and refuses it with `Stop.tooLarge`; heads of that length are not told apart here. -/
def RequestHead.read (s : List UInt8) : Except Stop (RequestHead × List UInt8) := do
  let s ← skipEmptyLines s
  let (method, s) ← readWord isTokenByte s
  let (target, s) ← readWord isTargetByte s
  let (version, s) ← readVersion s
  let s ← lineEnd s
  let (headers, s) ← readFields maxFields s
  if Target.maxLength < target.length then .error .targetTooLong
  else match Target.ofBytes? ⟨target.toArray⟩, framingOf? version headers with
    | some t, some (kept, framing) =>
      .ok ({ version, method := asciiText method, target := t, headers := kept, framing
             keepAlive := keepsAlive version headers }, s)
    | _, _ => .error .malformed

end Repeater.Http
