/-!
# TOML values

A document is a table. Each table remembers how it came to be (`TableKind`), because that decides
whether a later line may still add to it.

* `Value.Entries` are the keys of a table with their values, in order, each key once;
* `Value.alterAt` changes the table at a path, making the tables on the way.
-/

namespace Repeater.Toml

/-- How a table came to be. -/
inductive TableKind where
  /-- By a header of its own, or the document itself. -/
  | header
  /-- By the header of a table inside it. -/
  | implied
  /-- By a dotted key. -/
  | dotted
  /-- Between braces; nothing can be added later. -/
  | inline
  deriving DecidableEq, Repr

/-- A value of a document. -/
inductive Value where
  | string (text : String)
  | integer (n : Int)
  | float (text : String)
  | boolean (b : Bool)
  | datetime (text : String)
  | array (items : List Value)
  | table (kind : TableKind) (entries : List (String × Value))
  /-- The tables that repeated double headers made, none of them empty-handed. -/
  | tables (items : List (List (String × Value)))

/-- The keys of a table with their values. -/
abbrev Entries := List (String × Value)

namespace Entries

/-- The value of a key. -/
def get? (es : Entries) (key : String) : Option Value :=
  es.lookup key

/-- Replaces the value of a key that is present. -/
def replace (es : Entries) (key : String) (v : Value) : Entries :=
  es.map fun e => if e.1 == key then (key, v) else e

/-- Changes the table at `path` by `f`, which is told how that table came to be. Missing tables are
made on the way; `viaDots` says that the path is part of a dotted key, which may not reach into a
table with a header of its own. A table between braces and a plain value stop the way, unless
`within` says that the whole change happens between braces. -/
def alterAt (viaDots within : Bool) (f : TableKind → Entries → Option Entries) :
    List String → TableKind → Entries → Option Entries
  | [], kind, es => f kind es
  | key :: path, _, es =>
    match es.get? key with
    | none =>
      let kind := if viaDots then .dotted else .implied
      (alterAt viaDots within f path kind []).map fun t => es ++ [(key, .table kind t)]
    | some (.table kind t) =>
      if !within && (kind == .inline || (viaDots && kind == .header)) then none
      else (alterAt viaDots within f path kind t).map fun t => es.replace key (.table kind t)
    | some (.tables items) =>
      match items.getLast? with
      | none => none
      | some t =>
        (alterAt viaDots within f path .header t).map fun t =>
          es.replace key (.tables (items.dropLast ++ [t]))
    | some _ => none

/-- Sets a key at the end of a dotted path; the key must be new, and a table that was not made by
dotted keys can only be reached by a path without dots. -/
def define (within : Bool) (path : List String) (key : String) (v : Value) (kind : TableKind)
    (es : Entries) : Option Entries :=
  alterAt true within (fun kind t =>
    if (kind == .dotted) == path.isEmpty then none
    else if (t.get? key).isSome then none
    else some (t ++ [(key, v)])) path kind es

/-- Opens the table of a header, which may exist only as implied by another header. -/
def openTable (path : List String) (key : String) (es : Entries) : Option Entries :=
  alterAt false false (fun _ t =>
    match t.get? key with
    | none => some (t ++ [(key, .table .header [])])
    | some (.table .implied inner) => some (t.replace key (.table .header inner))
    | some _ => none) path .header es

/-- Opens one more table of a double header. -/
def openItem (path : List String) (key : String) (es : Entries) : Option Entries :=
  alterAt false false (fun _ t =>
    match t.get? key with
    | none => some (t ++ [(key, .tables [[]])])
    | some (.tables items) => some (t.replace key (.tables (items ++ [[]])))
    | some _ => none) path .header es

end Entries

end Repeater.Toml
