import Repeater.Http.Header
import Repeater.Http.Head

/-!
# Messages

Requests and responses as values: what a handler is given and what it gives back.
-/

namespace Repeater.Http

/-- A response: its status, the fields of its head, and its body. -/
structure Response where
  status : Nat
  headers : Headers := []
  body : ByteArray := .empty
  deriving DecidableEq

/-- The media type of plain text. -/
def plainText : String := "text/plain; charset=utf-8"

/-- A response with a text as its body. -/
def Response.ofText (status : Nat) (text : String) : Response :=
  { status, headers := [⟨"content-type", Text.utf8 plainText⟩], body := Text.utf8 text }

/-- The name of a version. -/
def Version.text : Version → String
  | .http10 => "HTTP/1.0"
  | .http11 => "HTTP/1.1"

/-- The first line of a response. -/
def statusLine (version : Version) (status : Nat) : String :=
  version.text ++ " " ++ toString status ++ " " ++ (reason? status).getD "<none>"

/-- A response as it is sent. -/
def Response.bytes (version : Version) (r : Response) : ByteArray :=
  let line (out : ByteArray) (h : Header) : ByteArray :=
    out ++ Text.utf8 (h.name ++ ": ") ++ h.value ++ Text.utf8 "\r\n"
  r.headers.foldl line (Text.utf8 (statusLine version r.status ++ "\r\n")) ++ Text.utf8 "\r\n" ++
    r.body

end Repeater.Http
