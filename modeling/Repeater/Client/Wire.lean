import Repeater.Client.Request
import Repeater.Http.Framing
import Repeater.Http.Target
import Repeater.Net.Network

/-!
# Requests on the wire

What a server reads of a request. The client adds the host, the media types that it accepts, and the
length of the body where the request says nothing of it; all else goes as it was given.

A request that announces another length than its body has cannot be sent whole (`Written`). The bytes
of one that can are `Delivery.bytes`.
-/

namespace Repeater.Client

/-- The host that a request is for, with the port unless it is the usual one. -/
def hostField (url : Url) : Http.Header :=
  ⟨"host", Text.utf8 (String.ofList url.authority)⟩

/-- The media types that are accepted: any, unless the request says which. -/
def withAccept (hs : Http.Headers) : Http.Headers :=
  if hs.has "accept" then hs else hs ++ [⟨"accept", Text.utf8 "*/*"⟩]

/-- What becomes of a request on a connection. -/
inductive Written where
  /-- The server reads the whole of it. -/
  | whole (d : Delivery)
  /-- The client has less than it announced, and hangs up. -/
  | short
  /-- The client announced a body and has none, and the server waits for it. -/
  | waiting

/-- The fields with `chunked` as the last transfer encoding. -/
def withChunked (hs : Http.Headers) : Http.Headers :=
  if Http.isChunked hs then hs
  else
    let others := hs.erase "transfer-encoding"
    let values := hs.values "transfer-encoding"
    let values := values.dropLast ++
      (values.getLast?.map fun v => v ++ Text.utf8 ", chunked").toList
    others ++ values.map fun v => ⟨"transfer-encoding", v⟩

/-- The fields on the length of a body, and the body as far as it is sent; none if it is shorter than
announced. -/
def frameBody (hs : Http.Headers) (body : ByteArray) : Option (Http.Headers × ByteArray) :=
  if hs.has "transfer-encoding" then
    some (withChunked (hs.erase "content-length"), body)
  else match Http.contentLength? hs with
    | some n => if n ≤ body.size then some (hs, body.extract 0 n) else none
    | none => some (hs.set "content-length" (Text.utf8 (toString body.size)), body)

/-- The field as it is read: without spaces and tabs around its value. -/
def asRead (h : Http.Header) : Http.Header :=
  { h with value := ⟨(Http.trimSpaces h.value.toList).toArray⟩ }

/-- The second word of the request line. -/
def requestTarget (method : String) (url : Url) (target : Http.Target) : List Char :=
  if method = "CONNECT" then url.authority else target.pathAndQuery?.getD ['/']

/-- A request for a URL that is also a request target, as the server reads it. -/
def Request.written (r : Request) (target : Http.Target) : Written :=
  let hs := withAccept (r.headers ++ if r.headers.has "host" then [] else [hostField r.url])
  let delivery (hs : Http.Headers) (body : ByteArray) : Delivery :=
    { method := r.method, target := String.ofList (requestTarget r.method r.url target)
      headers := hs.map asRead, body }
  if r.body.size = 0 then
    match Http.contentLength? hs with
    | some (_ + 1) => .waiting
    | _ => .whole (delivery (hs.erase "transfer-encoding") .empty)
  else match frameBody hs r.body with
    | none => .short
    | some (hs, body) => .whole (delivery hs body)

/-- A body as one chunk, and the empty chunk that ends it. -/
def chunked (body : ByteArray) : ByteArray :=
  let one := Text.utf8 (String.ofList (Nat.toDigits 16 body.size) ++ "\r\n") ++ body ++ Text.utf8 "\r\n"
  (if body.size = 0 then .empty else one) ++ Text.utf8 "0\r\n\r\n"

end Repeater.Client

namespace Repeater

/-- The bytes of a request on a connection. -/
def Delivery.bytes (d : Delivery) : ByteArray :=
  let line (out : ByteArray) (h : Http.Header) : ByteArray :=
    out ++ Text.utf8 (h.name ++ ": ") ++ h.value ++ Text.utf8 "\r\n"
  d.headers.foldl line (Text.utf8 (d.method ++ " " ++ d.target ++ " HTTP/1.1\r\n")) ++
    Text.utf8 "\r\n" ++
    (if d.headers.has "transfer-encoding" then Client.chunked d.body else d.body)

end Repeater
