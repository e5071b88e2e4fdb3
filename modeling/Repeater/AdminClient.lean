import Repeater.Client.Exchange
import Repeater.Http.Status
import Repeater.Text.Blank
import Repeater.Url.Form

/-!
# The client of the administrative requests

Talks to one server: registers, unregisters and lists backends, and asks whether the server is up.

* `AdminClient.request` is the request that a call makes, if one can be made;
* `AdminClient.call` makes it and reads the answer;
* `splitList` reads the line of backends that a server answers with.
-/

namespace Repeater

/-- A client of one server. -/
structure AdminClient where
  /-- The URL of the server, before the path of each call. -/
  base : String
  key : Option String := none

namespace AdminClient

/-- What can be asked. -/
inductive Call where
  | register (backend : String)
  | unregister (backend : String)
  | list
  | health
  deriving DecidableEq, Repr

/-- Why a call failed. -/
inductive Fault where
  /-- There was no answer. -/
  | exchange (fault : Client.Fault)
  /-- The answer reports an error. -/
  | status (code : Nat) (body : String)
  deriving DecidableEq, Repr

/-- The text shown for a fault. -/
def Fault.message : Fault → String
  | .exchange fault => "request failed: " ++ fault.message
  | .status code body => "proxy returned " ++ Http.statusText code ++ ": " ++ body

/-- What a call comes to. -/
inductive Answer where
  | backends (names : List String)
  | up (healthy : Bool)
  deriving DecidableEq, Repr

/-- Reads the line of backends: the words of it. -/
def splitList (body : String) : List String :=
  Text.words body

/-- The method of a call. -/
def Call.method : Call → String
  | .register _ => "POST"
  | .unregister _ => "DELETE"
  | .list | .health => "GET"

/-- The path of a call. -/
def Call.path : Call → String
  | .health => "/healthz"
  | _ => "/backends"

/-- The backend that a call names. -/
def Call.backend? : Call → Option String
  | .register b | .unregister b => some b
  | _ => none

/-- The URL of a call before its query. -/
def urlText (c : AdminClient) (call : Call) : List Char :=
  Text.dropRight (· == '/') c.base.toList ++ call.path.toList

/-- A URL with one more pair in its query. -/
def withPair (url : Url) (name value : List Char) : Url :=
  let pair := Url.formPair name value
  { url with query := some (match url.query with
      | none | some [] => pair
      | some q => q ++ '&' :: pair) }

/-- The field that carries the key; none if no field can. -/
def keyField? (key : String) : Option Http.Header :=
  let value := Text.utf8 ("Bearer " ++ key)
  if value.toList.all Http.isValueByte then some ⟨"authorization", value⟩ else none

/-- The field on the key that a call carries, or none if the key cannot be sent. -/
def keyFields? (c : AdminClient) (call : Call) : Option Http.Headers :=
  match call, c.key with
  | .health, _ | _, none => some []
  | _, some key => (keyField? key).map fun h => [h]

/-- The request that a call makes. -/
def request (c : AdminClient) (call : Call) : Except Client.Fault Client.Request :=
  match Url.parse (c.urlText call) with
  | .error _ => .error (.unsendable none)
  | .ok url =>
    if url.namedHost?.isNone then .error (.unsendable (some url.text))
    else
      let url := match call.backend? with
        | some b => withPair url "server".toList b.toList
        | none => url
      match c.keyFields? call with
      | none => .error (.unsendable none)
      | some fields =>
        let r := Client.Request.make call.method url [] .empty
        .ok { r with headers := r.headers ++ fields }

/-- Reads the answer to a call. -/
def read (call : Call) (a : Client.Answer) : Except Fault Answer :=
  match call with
  | .health => .ok (.up (Http.isSuccess a.status))
  | _ =>
    match a.text? with
    | .error e => .error (.exchange e)
    | .ok body =>
      if Http.isSuccess a.status then .ok (.backends (splitList body))
      else .error (.status a.status body)

/-- Makes a call. -/
def call (c : AdminClient) (net : Network σ) (which : Call) (st : σ) : Except Fault Answer × σ :=
  match c.request which with
  | .error e => (.error (.exchange e), st)
  | .ok r =>
    match Client.send net {} r st with
    | (.error e, st) => (.error (.exchange e), st)
    | (.ok a, st) => (read which a, st)

end AdminClient

end Repeater
