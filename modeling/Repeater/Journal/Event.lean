/-!
# Journal events

What the program writes to its journal, as values. An event has a severity, the part of the program
it comes from, a message, named fields, and the activities it happened in, the outermost first.
-/

namespace Repeater.Journal

/-- Severities, the most severe first. -/
inductive Level where
  | error | warn | info | debug | trace
  deriving DecidableEq, Repr

/-- The number of a severity; larger means more talkative. -/
def Level.rank : Level → Nat
  | .error => 1
  | .warn => 2
  | .info => 3
  | .debug => 4
  | .trace => 5

/-- The upper-case name. -/
def Level.label : Level → String
  | .error => "ERROR"
  | .warn => "WARN"
  | .info => "INFO"
  | .debug => "DEBUG"
  | .trace => "TRACE"

/-- The parts of the program that write events. -/
inductive Origin where
  | program | startup | signals | stop | metrics | roster | intake | relay | server | adminKey | admin
  deriving DecidableEq, Repr

/-- The dotted path by which filters select an origin. -/
def Origin.target : Origin → String
  | .program => "spray_proxy"
  | .startup => "spray_proxy::lifecycle::startup"
  | .signals => "spray_proxy::lifecycle::signals"
  | .stop => "spray_proxy::lifecycle::shutdown"
  | .metrics => "spray_proxy::observability::metrics"
  | .roster => "spray_proxy::backends::registry"
  | .intake => "spray_proxy::relay::capture"
  | .relay => "spray_proxy::relay::fanout"
  | .server => "spray_proxy::http::server"
  | .adminKey => "spray_proxy::admin::auth"
  | .admin => "spray_proxy::admin::handlers"

/-- A name and a text. -/
abbrev Field := String × String

/-- An activity that events happen in. -/
structure Activity where
  name : String
  origin : Origin
  fields : List Field
  deriving DecidableEq, Repr

/-- One entry of the journal. -/
structure Event where
  level : Level
  origin : Origin
  message : String
  fields : List Field := []
  /-- The activities around it, the outermost first. -/
  activities : List Activity := []
  deriving DecidableEq, Repr

/-- The event as part of a wider activity. -/
def Event.within (activity : Activity) (e : Event) : Event :=
  { e with activities := activity :: e.activities }

end Repeater.Journal
