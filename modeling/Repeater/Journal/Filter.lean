import Repeater.Journal.Event
import Repeater.Text.Blank
import Repeater.Text.Quoted

/-!
# Journal filters

Which events are written to the journal. A filter is a list of directives; each says how talkative
the events that it selects may be.

* `Directive.parse` reads one: `target[activity{field=value}]=level`, where each part may be missing;
* `Filter.parse` reads a list of them with commas between and refuses it if one is at fault,
  `Filter.read` passes over those at fault and says why;
* `Filter.admits` is whether an event is written.

A directive with an activity or fields selects what happens inside such activities; any of them can
let an event through. Of the other directives only the most specific that selects an event counts,
and of several equal ones the last.
-/

namespace Repeater.Journal

-- ---------------------------------------------------------------------------
-- Ceilings
-- ---------------------------------------------------------------------------

/-- The most talkative severity that is let through; none lets nothing through. -/
abbrev Ceiling := Option Level

/-- Whether a severity is let through. -/
def Ceiling.admits (c : Ceiling) (l : Level) : Bool :=
  c.any fun top => l.rank ≤ top.rank

/-- The ceilings by number. -/
def Ceiling.all : List Ceiling :=
  [none, some .error, some .warn, some .info, some .debug, some .trace]

/-- The name of a ceiling. -/
def Ceiling.name : Ceiling → String
  | none => "OFF"
  | some l => l.label

/-- The number that digits write, which a plus sign may precede. -/
def natural? (s : List Char) : Option Nat :=
  let ds := match s with
    | '+' :: r => r
    | r => r
  if ds.isEmpty || !ds.all Char.isDigit then none
  else some (ds.foldl (fun n c => 10 * n + (c.toNat - 48)) 0)

/-- The ceiling of a number or of a name in upper or lower case. -/
def Ceiling.parse? (s : List Char) : Option Ceiling :=
  match (natural? s).bind (Ceiling.all[·]?) with
  | some c => some c
  | none =>
    let name := String.ofList (s.map Char.toUpper)
    Ceiling.all.find? fun c => c.name == name

-- ---------------------------------------------------------------------------
-- Directives
-- ---------------------------------------------------------------------------

/-- A field that an activity must have, and perhaps its text. -/
structure FieldPattern where
  name : String
  text : Option String := none
  deriving DecidableEq, Repr

/-- How talkative the selected events may be. -/
structure Directive where
  /-- How the dotted path of an origin begins. -/
  target : Option String := none
  /-- The name of an activity. -/
  activity : Option String := none
  fields : List FieldPattern := []
  ceiling : Ceiling := some .trace
  deriving DecidableEq, Repr

/-- What is wrong with a directive. -/
inductive Directive.Fault where
  | malformed
  | level
  deriving DecidableEq, Repr

/-- The text shown for a directive at fault. -/
def Directive.Fault.message : Directive.Fault → String
  | .malformed => "invalid filter directive"
  | .level =>
    "error parsing level filter: expected one of " ++
      String.join (["off", "error", "warn", "info", "debug", "trace"].map fun n => Text.quote n ++ ", ") ++
      "or a number 0-5"

/-- A character that a directive may begin with, a bracket aside. Beyond ASCII these are all that can
be seen. -/
def startsDirective (c : Char) : Bool :=
  c.isAlphanum || c == '-' || c == ':' || c == '_' ||
    (128 ≤ c.toNat && !Text.isBlank c && !Text.isHidden c)

/-- The pattern of a field: its name, and its text after an equals sign up to the next one. -/
def FieldPattern.ofText (s : List Char) : FieldPattern :=
  let name := String.ofList (s.takeWhile (· != '='))
  match s.dropWhile (· != '=') with
  | [] => { name }
  | _ :: r => { name, text := some (String.ofList (r.takeWhile (· != '='))) }

/-- A text with the part of it that is still to be read. Blanks at the ends of the text are not read,
yet what is cut out is counted from its very start. -/
structure Cutter where
  whole : List Char
  /-- How many characters have been read. -/
  position : Nat := 0
  rest : List Char

namespace Cutter

/-- A text of which nothing has been read. -/
def ofText (s : List Char) : Cutter := { whole := s, rest := Text.trim s }

/-- Passes over one character. -/
def skip (c : Cutter) : Cutter :=
  { c with position := c.position + 1, rest := c.rest.drop 1 }

/-- Reads up to a character of `stops`, which is not read, and cuts out what was read. -/
def upTo (c : Cutter) (stops : List Char) : List Char × Cutter :=
  let n := (c.rest.takeWhile fun x => !stops.contains x).length
  ((c.whole.drop c.position).take n, { c with position := c.position + n, rest := c.rest.drop n })

/-- Cuts out all that follows. -/
def remainder (c : Cutter) : List Char := c.whole.drop c.position

end Cutter

namespace Directive

/-- Reads the level after its equals sign; without one everything is let through. -/
def withLevel (d : Directive) (c : Cutter) : Except Fault Directive :=
  if c.remainder.isEmpty then .ok d
  else match Ceiling.parse? c.remainder with
    | some ceiling => .ok { d with ceiling }
    | none => .error .level

/-- Reads what follows the closing bracket. -/
def afterBracket (d : Directive) (c : Cutter) : Except Fault Directive :=
  match c.rest with
  | [] => .ok d
  | '=' :: _ => d.withLevel c.skip
  | _ => .error .malformed

/-- Reads the fields of an activity after their opening brace. -/
def withFields (d : Directive) (c : Cutter) : Except Fault Directive :=
  let (field, c) := c.upTo ['\x7d']
  match c.rest with
  | '\x7d' :: ']' :: _ =>
    if field.isEmpty then .error .malformed
    else { d with fields := [.ofText field] }.afterBracket c.skip.skip
  | _ => .error .malformed

/-- Reads an activity after its opening bracket. -/
def withActivity (d : Directive) (c : Cutter) : Except Fault Directive :=
  let (name, c) := c.upTo [']', '\x7b']
  match c.rest with
  | ']' :: _ => { d with activity := some (String.ofList name) }.afterBracket c.skip
  | '\x7b' :: _ =>
    { d with activity := if name.isEmpty then none else some (String.ofList name) }.withFields c.skip
  | _ => .error .malformed

/-- Reads a directive. A lone word is a level if it names one, else a target. -/
def parse (s : List Char) : Except Fault Directive :=
  let c := Cutter.ofText s
  match c.rest with
  | [] => .error .malformed
  | '[' :: _ => withActivity {} c.skip
  | first :: _ =>
    if !startsDirective first then .error .malformed
    else
      let (word, after) := c.upTo ['=', '[']
      let named : Directive := { target := some (String.ofList word) }
      match after.rest with
      | '=' :: _ => named.withLevel after.skip
      | '[' :: _ => named.withActivity after.skip
      | _ =>
        match Ceiling.parse? c.remainder with
        | some ceiling => .ok { ceiling }
        | none => .ok { target := some (String.ofList c.remainder) }

-- ---------------------------------------------------------------------------
-- Selecting
-- ---------------------------------------------------------------------------

/-- Whether an origin is selected. -/
def selectsOrigin (d : Directive) (o : Origin) : Bool :=
  d.target.all fun t => t.toList.isPrefixOf o.target.toList

/-- Whether a directive selects what happens inside activities. -/
def isScoped (d : Directive) : Bool :=
  d.activity.isSome || !d.fields.isEmpty

/-- Whether a directive selects events by themselves. -/
def isPlain (d : Directive) : Bool :=
  d.activity.isNone && d.fields.all fun p => p.text.isNone

/-- Whether an event is selected by itself: its origin, and the names of its fields. -/
def selects (d : Directive) (e : Event) : Bool :=
  d.selectsOrigin e.origin &&
    d.fields.all fun p => p.name == "message" || e.fields.any fun f => f.1 == p.name

/-- Whether an activity is selected. -/
def selectsActivity (d : Directive) (a : Activity) : Bool :=
  d.selectsOrigin a.origin && d.activity.all (· == a.name) &&
    d.fields.all fun p => a.fields.any fun f => f.1 == p.name && p.text.all (· == f.2)

/-- The names of the fields. -/
def fieldNames (d : Directive) : List String :=
  d.fields.map FieldPattern.name

/-- Whether a directive comes before another that selects the same event: it has the longer target, or
more fields, or as many with later names, or is no different. -/
def outranks (d other : Directive) : Bool :=
  let size (x : Directive) : Nat := x.target.elim 0 fun t => t.length + 1
  if size d != size other then size other < size d
  else if d.fields.length != other.fields.length then other.fields.length < d.fields.length
  else !(d.fieldNames < other.fieldNames)

end Directive

-- ---------------------------------------------------------------------------
-- Filters
-- ---------------------------------------------------------------------------

/-- Which events are written. -/
structure Filter where
  directives : List Directive
  deriving DecidableEq, Repr

namespace Filter

/-- The filter of directives; without any, only errors are written. -/
def ofDirectives (ds : List Directive) : Filter :=
  if ds.isEmpty then ⟨[{ ceiling := some .error }]⟩ else ⟨ds⟩

/-- The directives of a text; empty ones are passed over. -/
def pieces (s : String) : List (List Char) :=
  (s.toList.splitOn ',').filter fun p => !p.isEmpty

/-- Reads a filter. -/
def parse (s : String) : Except Directive.Fault Filter :=
  ((pieces s).mapM Directive.parse).map ofDirectives

/-- What is said of a directive that is passed over. -/
def complaint (piece : List Char) (fault : Directive.Fault) : String :=
  "ignoring \x60" ++ String.ofList piece ++ "\x60: " ++ fault.message

/-- Reads a filter, with what is said of the directives at fault. -/
def read (s : String) : Filter × List String :=
  let (ds, complaints) := (pieces s).foldl (fun (ds, cs) p =>
    match Directive.parse p with
    | .ok d => (ds ++ [d], cs)
    | .error e => (ds, cs ++ [complaint p e])) (([], []) : List Directive × List String)
  (ofDirectives ds, complaints)

/-- The directive that decides on an event by itself. -/
def decisive? (f : Filter) (e : Event) : Option Directive :=
  (f.directives.filter fun d => d.isPlain && d.selects e).foldl
    (fun best d => some (match best with
      | none => d
      | some b => if d.outranks b then d else b)) none

/-- Whether an activity around an event lets it through. -/
def admitsInside (f : Filter) (e : Event) : Bool :=
  e.activities.any fun a =>
    f.directives.any fun d => d.isScoped && d.selectsActivity a && d.ceiling.admits e.level

/-- Whether an event is written. -/
def admits (f : Filter) (e : Event) : Bool :=
  f.admitsInside e || (f.decisive? e).any fun d => d.ceiling.admits e.level

end Filter

end Repeater.Journal
