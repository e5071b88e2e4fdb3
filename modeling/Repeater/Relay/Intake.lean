import Repeater.Http.Message
import Repeater.Http.Target
import Repeater.Journal.Event
import Repeater.Relay.Outcome

/-!
# Intake

Takes in a request for relay: its body is buffered up to a limit, and method, target and header fields
are kept as they came.

* `collect` joins the pieces in which a body arrives, or says why it cannot;
* `Intake.capture` takes in a whole request;
* `Intake.accept` is what becomes of it: for whatever reason its body cannot be buffered, it is too large.

How a body is cut into pieces makes no difference, and an empty piece is none.
-/

namespace Repeater.Relay

/-- A piece of a body, or the failure to read one. -/
inductive Piece where
  | data (bytes : ByteArray)
  | broken (reason : String)

/-- The most bytes of a body that is relayed. -/
def bodyLimit : Nat := 26214400

/-- Why a body could not be buffered. -/
inductive BodyFault where
  /-- A piece is longer than what was left of the limit. -/
  | tooLong
  /-- A piece could not be read. -/
  | broken (reason : String)
  deriving DecidableEq, Repr

/-- The text shown for it. -/
def BodyFault.message : BodyFault → String
  | .tooLong => "length limit exceeded"
  | .broken reason => reason

/-- The fault that the request is refused for. -/
def BodyFault.reported (limit : Nat) (_ : BodyFault) : Fault :=
  .bodyTooLarge limit

/-- Joins pieces to `done`, as long as `left` bytes are enough. -/
def collectFrom (left : Nat) (done : ByteArray) : List Piece → Except BodyFault ByteArray
  | [] => .ok done
  | .broken reason :: _ => .error (.broken reason)
  | .data bytes :: r =>
    if bytes.size ≤ left then collectFrom (left - bytes.size) (done ++ bytes) r
    else .error .tooLong

/-- Joins the pieces of a body of at most `limit` bytes. -/
def collect (limit : Nat) (pieces : List Piece) : Except BodyFault ByteArray :=
  collectFrom limit .empty pieces

/-- A request as it arrives, its body in pieces. -/
structure Arrival where
  method : String
  target : Http.Target
  headers : Http.Headers := []
  body : List Piece := []

/-- The name of the field that carries the id of a request. -/
def requestIdField : String := "x-request-id"

/-- The id of a request for the journal; one that cannot be shown is unknown. -/
def requestId (headers : Http.Headers) : String :=
  ((headers.get? requestIdField).bind Http.visible?).getD "unknown"

/-- A request taken in, ready to be sent any number of times. -/
structure Intake where
  method : String
  /-- The path with the query. -/
  target : String
  headers : Http.Headers := []
  body : ByteArray := .empty
  /-- The id for the journal. -/
  requestId : String
  deriving DecidableEq

namespace Intake

/-- The path before the first question mark. -/
def path (r : Intake) : String :=
  String.ofList (r.target.toList.takeWhile (· != '?'))

/-- The query after the first question mark. -/
def query (r : Intake) : String :=
  String.ofList ((r.target.toList.dropWhile (· != '?')).drop 1)

/-- Takes in a request with a body of at most `limit` bytes. An authority alone is taken for the root
path. -/
def capture (limit : Nat) (a : Arrival) : Except BodyFault Intake :=
  match collect limit a.body with
  | .error e => .error e
  | .ok body => .ok {
      method := a.method, target := String.ofList (a.target.pathAndQuery?.getD ['/'])
      headers := a.headers, body, requestId := Relay.requestId a.headers }

/-- Takes in a request, or refuses it. -/
def accept (limit : Nat) (a : Arrival) : Except Fault Intake :=
  (capture limit a).mapError (BodyFault.reported limit)

/-- What the journal says of a body that could not be buffered. -/
def faultEvent (limit : Nat) (e : BodyFault) : Journal.Event :=
  { level := .debug, origin := .intake, message := "Failed to buffer request body"
    fields := [("error", e.message), ("limit", toString limit)] }

end Intake

end Repeater.Relay
