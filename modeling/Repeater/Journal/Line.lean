import Repeater.Journal.Event

/-!
# Journal lines

An event as it is written, one line each, after the time at which it happened.

* `Event.prettyLine` is made for people: the activities, the origin, the message and the fields;
* `Event.jsonLine` is a JSON object.
-/

namespace Repeater.Journal

-- ---------------------------------------------------------------------------
-- For people
-- ---------------------------------------------------------------------------

/-- Fields with their texts. -/
def fieldText (fs : List Field) : String :=
  " ".intercalate (fs.map fun f => f.1 ++ "=" ++ f.2)

/-- An activity with its fields in braces. -/
def Activity.text (a : Activity) : String :=
  a.name ++ "\x7b" ++ fieldText a.fields ++ "\x7d:"

/-- The line of an event for people. -/
def Event.prettyLine (time : String) (e : Event) : String :=
  let level := String.ofList (List.replicate (5 - e.level.label.length) ' ') ++ e.level.label
  let activities := String.join (e.activities.map Activity.text)
  " ".intercalate ([time, level] ++ (if e.activities.isEmpty then [] else [activities]) ++
    [e.origin.target ++ ":", e.message] ++ (if e.fields.isEmpty then [] else [fieldText e.fields]))

-- ---------------------------------------------------------------------------
-- As JSON
-- ---------------------------------------------------------------------------

/-- One character of a JSON string. -/
def jsonChar (c : Char) : List Char :=
  match c with
  | '"' => ['\\', '"']
  | '\\' => ['\\', '\\']
  | '\n' => ['\\', 'n']
  | '\r' => ['\\', 'r']
  | '\t' => ['\\', 't']
  | c =>
    if c.toNat < 32 then
      ['\\', 'u', '0', '0', Nat.digitChar (c.toNat / 16), Nat.digitChar (c.toNat % 16)]
    else [c]

/-- A JSON string. -/
def jsonText (s : String) : String :=
  "\"" ++ String.ofList (s.toList.flatMap jsonChar) ++ "\""

/-- A JSON object of names and values, which are JSON already. -/
def jsonObject (members : List (String × String)) : String :=
  "\x7b" ++ ",".intercalate (members.map fun m => jsonText m.1 ++ ":" ++ m.2) ++ "\x7d"

/-- Fields as members of an object. -/
def jsonFields (fs : List Field) : List (String × String) :=
  fs.map fun f => (f.1, jsonText f.2)

/-- An activity as an object. -/
def Activity.json (a : Activity) : String :=
  jsonObject (jsonFields a.fields ++ [("name", jsonText a.name)])

/-- The line of an event as JSON; the innermost activity is told apart from the list of all. -/
def Event.jsonLine (time : String) (e : Event) : String :=
  let innermost := e.activities.getLast?.toList.map fun a => ("span", a.json)
  let all := if e.activities.isEmpty then []
    else [("spans", "[" ++ ",".intercalate (e.activities.map Activity.json) ++ "]")]
  jsonObject ([("timestamp", jsonText time), ("level", jsonText e.level.label),
    ("fields", jsonObject (("message", jsonText e.message) :: jsonFields e.fields)),
    ("target", jsonText e.origin.target)] ++ innermost ++ all)

end Repeater.Journal
