import Repeater.Http.Message
import Repeater.Http.RequestHead

/-!
# The first request on a connection

What the bytes that arrive on a connection hold, and how an answer is framed for it. Bytes that are no
request are refused with a status of their own, and nothing more is read.
-/

namespace Repeater.Http

/-- What the bytes of a connection hold. -/
inductive Opening where
  /-- A request; its body may not have arrived whole, or may be broken. -/
  | request (head : RequestHead) (body : Except Stop ByteArray)
  /-- No request. -/
  | refused (status : Nat)
  /-- Not yet a request. -/
  | waiting

/-- Reads the bytes of a connection. -/
def Opening.read (bytes : ByteArray) : Opening :=
  match RequestHead.read bytes.toList with
  | .error e => e.status?.elim .waiting .refused
  | .ok (head, rest) => .request head (head.framing.read false ⟨rest.toArray⟩)

/-- A response in the version that it is sent in. -/
structure Sent where
  version : Version
  response : Response
  deriving DecidableEq

/-- The bytes that are sent. -/
def Sent.bytes (s : Sent) : ByteArray :=
  s.response.bytes s.version

/-- The field on what becomes of the connection. -/
def connectionField (version : Version) (keepAlive : Bool) : Headers :=
  match version, keepAlive with
  | .http11, false => [⟨"connection", Text.utf8 "close"⟩]
  | .http10, true => [⟨"connection", Text.utf8 "keep-alive"⟩]
  | _, _ => []

/-- The answer to bytes that are no request. -/
def Sent.refusal (status : Nat) : Sent where
  version := .http11
  response := { status, headers := [⟨"connection", Text.utf8 "close"⟩,
    ⟨"content-length", Text.utf8 "0"⟩] }

/-- The answer to a request. -/
def RequestHead.answer (head : RequestHead) (r : Response) : Sent where
  version := head.version
  response := { r with headers := r.headers ++ connectionField head.version head.keepAlive }

end Repeater.Http
