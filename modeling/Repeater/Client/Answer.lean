import Repeater.Client.Fault
import Repeater.Client.Policy
import Repeater.Http.Framing
import Repeater.Net.Network
import Repeater.Text.Charset

/-!
# Answers

Reads the answer to a request from what the server sends. Heads with a provisional status come before
the answer and are passed over. An answer is there as soon as its head is; its body is read only when
it is asked for, and may then turn out to be broken.
-/

namespace Repeater.Client

/-- The answer to a request. -/
structure Answer where
  status : Nat
  headers : Http.Headers
  framing : Http.Framing
  /-- What follows the head. -/
  rest : ByteArray
  ending : Ending

namespace Answer

/-- The most bytes of a head that are read. -/
def headLimit : Nat := 417792

/-- Reads the first answer that is not provisional; `limit` bounds how many heads are read. -/
def readFrom (method : String) (ending : Ending) : Nat → ByteArray → Except Http.Stop Answer
  | 0, _ => .error .malformed
  | limit + 1, bytes =>
    match Http.ResponseHead.read (bytes.extract 0 headLimit).toList with
    | .error .early => .error (if headLimit ≤ bytes.size then .tooLarge else .early)
    | .error e => .error e
    | .ok (head, after) =>
      let used := min bytes.size headLimit - after.length
      let rest := bytes.extract used bytes.size
      if head.status < 200 ∧ head.status ≠ 101 then readFrom method ending limit rest
      else match Http.Framing.ofResponse method head with
        | none => .error .malformed
        | some framing =>
          .ok { status := head.status, headers := head.headers, framing, rest, ending }

/-- Reads the answer to a request with this method. -/
def read (method : String) (reply : Reply) : Except Http.Stop Answer :=
  readFrom method reply.ending (reply.bytes.size + 1) reply.bytes

/-- Whether the answer and its body are there, and nothing more need be read. -/
def isWhole (method : String) (bytes : ByteArray) : Bool :=
  match read method { bytes, ending := .silent } with
  | .ok a => (a.framing.read false a.rest).isOk
  | .error _ => false

/-- The body, if it can be read to its end. One that stops coming cannot, which is known when the time limit is over
or, without a limit, when the connection is finally lost. -/
def body? (a : Answer) : Except Fault ByteArray :=
  match a.framing.read (a.ending == .closed) a.rest with
  | .ok body => .ok body
  | .error _ => .error .unreadable

/-- The body as text, in the alphabet that the answer names. -/
def text? (a : Answer) : Except Fault String :=
  match a.body? with
  | .ok body =>
    let named := ((a.headers.get? "content-type").bind Http.visible?).map Text.Charset.ofMediaType
    .ok (Text.decodeAs (named.getD .utf8) body)
  | .error e => .error e

end Answer

end Repeater.Client
