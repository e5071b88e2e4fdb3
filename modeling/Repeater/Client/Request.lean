import Repeater.Http.Message
import Repeater.Text.Base64
import Repeater.Url.Parse

/-!
# Outgoing requests

A request as the client is given it, before it adds what the wire needs.

User name and password do not stay in the URL: `Request.make` turns them into a header field, which a
field of that name among the given ones replaces.
-/

namespace Repeater.Client

/-- A request to send. -/
structure Request where
  method : String
  url : Url
  headers : Http.Headers := []
  body : ByteArray := .empty
  deriving DecidableEq

/-- The user name and the password of a URL, if they are text. A password alone is one too. -/
def credentials? (url : Url) : Option (String × Option String) :=
  let decode (s : List Char) : Option String :=
    Text.utf8? (Url.percentDecode (Url.bytesOf s)).toByteArray
  match decode url.username with
  | none => none
  | some user =>
    let password := if url.password.isEmpty then none else decode url.password
    if user = "" ∧ password = none then none else some (user, password)

/-- The field that carries a user name and a password. -/
def basicAuthorization (user : String) (password : Option String) : Http.Header :=
  let token := Text.base64 (Text.utf8 (user ++ ":" ++ password.getD "")).toList
  ⟨"authorization", Text.utf8 ("Basic " ++ String.ofList token)⟩

/-- A request with the given fields. -/
def Request.make (method : String) (url : Url) (headers : Http.Headers) (body : ByteArray) :
    Request :=
  match credentials? url with
  | none => { method, url, headers, body }
  | some (user, password) =>
    let own := if headers.has "authorization" then [] else [basicAuthorization user password]
    { method, url := url.withoutUserinfo, headers := own ++ headers, body }

end Repeater.Client
