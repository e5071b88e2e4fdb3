import Repeater.Duration
import Repeater.Text.Blank

/-!
# Settings

What the program is told before it starts. Every setting has a default, so the empty file is a valid
one.

* `LogFormat.parse` reads the name of a journal format;
* `Forwarding.timeout` is the time that a backend is given to answer.
-/

namespace Repeater

/-- How the journal is written. -/
inductive LogFormat where
  | pretty
  | json
  deriving DecidableEq, Repr

/-- The name of a format. -/
def LogFormat.name : LogFormat → String
  | .pretty => "pretty"
  | .json => "json"

/-- The format of a name in any case of ASCII; else the text that says what was expected. -/
def LogFormat.parse (s : String) : Except String LogFormat :=
  match String.ofList (s.toList.map Char.toLower) with
  | "pretty" => .ok .pretty
  | "json" => .ok .json
  | other => .error ("unknown log format '" ++ other ++ "', expected pretty or json")

/-- How requests are passed on. -/
structure Forwarding where
  /-- The time a backend is given, as a duration text. -/
  requestTimeout : Option String := none
  /-- Accept any certificate of a backend. -/
  insecureTls : Bool := false
  deriving DecidableEq, Repr

/-- The administration of the roster over HTTP. -/
structure Admin where
  /-- Offer the endpoints. -/
  dynamicBackends : Bool := false
  /-- The bearer key that they require. -/
  apiKey : Option String := none
  deriving DecidableEq, Repr

/-- Journal and metrics. -/
structure Observability where
  logLevel : String := "info"
  logFormat : LogFormat := .pretty
  metricsEnabled : Bool := true
  metricsAddress : String := "0.0.0.0:9090"
  deriving DecidableEq, Repr

/-- All settings. -/
structure Settings where
  /-- The socket address to listen on. -/
  bindAddress : String := "0.0.0.0:8080"
  forwarding : Forwarding := {}
  /-- The backends at the start, in relay order. -/
  backends : List String := []
  admin : Admin := {}
  observability : Observability := {}
  deriving DecidableEq, Repr

/-- The time a backend is given when no other is set. -/
def defaultTimeout : Duration := Duration.ofSeconds 15

/-- The time a backend is given, none for no limit. A text that is no duration counts as absent, an
explicit zero lifts the limit. A duration that fails by a carry is a fault of the whole program. -/
def Forwarding.timeout (f : Forwarding) : Except Duration.Fault (Option Duration) :=
  let limit (d : Duration) : Option Duration := if d.total = 0 then none else some d
  match f.requestTimeout with
  | none => .ok (some defaultTimeout)
  | some raw =>
    match Duration.parse (Text.trim raw.toList) with
    | .ok d => .ok (limit d)
    | .error .carry => .error .carry
    | .error _ => .ok (some defaultTimeout)

end Repeater
