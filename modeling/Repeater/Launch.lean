import Repeater.AdminClient.Tool
import Repeater.Journal.Filter
import Repeater.Launch.Options
import Repeater.Launch.Startup
import Repeater.Settings.Load

/-!
# The relay as a program

From the command line to a relay that takes requests, or to the end of a program that cannot run.

* `Launch.begin` reads the command line and the settings, sets up the journal and starts;
* a program that fails says why on one line (`Failure.line`).
-/

namespace Repeater.Launch

open Journal

/-- Why a program fails once its command line is read. -/
inductive Failure where
  | settings (path : String) (error : Settings.LoadError)
  | start (fault : StartFault)
  deriving DecidableEq, Repr

/-- A problem of the settings with its name. -/
def problemDetails : Problem → String
  | .bindAddress text => "BindAddress(" ++ Text.quote text ++ ")"
  | .metricsAddress text => "MetricsAddress(" ++ Text.quote text ++ ")"
  | .emptyBackend position => "EmptyBackend(" ++ toString position ++ ")"
  | .duplicateBackend backend => "DuplicateBackend(" ++ Text.quote backend ++ ")"

/-- A fault of a settings file by its parts. -/
def fileDetails : Settings.FileFault → String
  | .system e => e.details
  | .notUtf8 =>
    "Error \x7b kind: InvalidData, message: " ++ Text.quote Settings.notUtf8Text ++ " \x7d"

/-- A failure by its parts. -/
def Failure.details : Failure → String
  | .settings path (.file fault) =>
    "Io \x7b path: " ++ Text.quote path ++ ", source: " ++ fileDetails fault ++ " \x7d"
  | .settings _ .malformed => "Parse"
  | .settings _ (.invalid problems) =>
    "Validation([" ++ ", ".intercalate (problems.map problemDetails) ++ "])"
  | .start fault => fault.details

/-- The line on the error output. -/
def Failure.line (f : Failure) : String :=
  "Error: " ++ f.details ++ "\n"

/-- The end of a program that fails. -/
def Failure.ended (f : Failure) : Ended :=
  { code := 1, errors := f.line }

/-- How the journal is kept. -/
structure Book where
  filter : Filter
  format : LogFormat
  deriving DecidableEq, Repr

/-- The events that are written. -/
def Book.kept (b : Book) (es : List Event) : List Event :=
  es.filter b.filter.admits

/-- What begins the dotted paths that a log level is for: those of the relay, and those of what
answers its connections. -/
def levelTargets : List String := ["spray_proxy", "tower_http"]

/-- The journal that the settings ask for; directives of the environment come before the level of the
settings unless one is at fault. The directives that are passed over are complained of. -/
def openBook (o : Observability) (directives : Option String) : Book × List String :=
  match directives.bind fun s => (Filter.parse s).toOption with
  | some filter => ({ filter, format := o.logFormat }, [])
  | none =>
    let (filter, complaints) :=
      Filter.read (",".intercalate (levelTargets.map fun t => t ++ "=" ++ o.logLevel))
    ({ filter, format := o.logFormat }, complaints)

/-- What a program finds when it begins. -/
structure Surroundings where
  environment : String → Option String
  /-- The file at a path. -/
  file : String → Settings.File
  ports : Net.Ports := []

/-- The variable with the directives of the journal. -/
def directivesVariable : String := "RUST_LOG"

/-- What has become of a program that began. -/
inductive Begun where
  /-- It ended before it opened its journal. -/
  | ended (e : Ended)
  /-- It opened its journal, wrote events, and complained on the error output. -/
  | opened (book : Book) (events : List Event) (complaints : List String)
      (result : Except StartFault Started)

/-- Begins a program. -/
def begin (s : Surroundings) (arguments : List String) : Begun :=
  match program.parse s.environment arguments with
  | .error h => .ended (.ofHalt h)
  | .ok m =>
    let path := configPath m
    match Settings.load (path.map s.file) (overrides m) with
    | .error e => .ended (Failure.settings (path.getD "") e).ended
    | .ok settings =>
      let (book, complaints) :=
        openBook settings.observability (s.environment directivesVariable)
      let (events, result) := start settings s.ports
      .opened book (startingEvent version settings :: events) complaints result

/-- The lines of complaints. -/
def complaintText (complaints : List String) : String :=
  String.join (complaints.map (· ++ "\n"))

end Repeater.Launch
