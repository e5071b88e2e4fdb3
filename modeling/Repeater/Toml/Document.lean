import Repeater.Toml.Scalar

/-!
# TOML documents

* `value` reads any value, arrays and inline tables nested up to a given depth;
* `parse?` reads a whole document as the entries of its root table.

Only whether a document is well formed and what it says counts; the place of a fault is not kept.
-/

namespace Repeater.Toml

-- ---------------------------------------------------------------------------
-- Blanks and keys
-- ---------------------------------------------------------------------------

/-- The text after a comment; its line end stays. -/
def skipComment : List Char → List Char
  | '#' :: r => r.dropWhile isCommentChar
  | s => s

/-- Drops blanks, comments and line ends between the items of an array. The fuel bounds the lines. -/
def skipLines : Nat → List Char → Option (List Char)
  | 0, s => some s
  | fuel + 1, s =>
    let s := skipSpaces s
    match s with
    | '#' :: _ => (lineEnd? (skipComment s)).bind (skipLines fuel)
    | '\n' :: _ | '\r' :: _ => (lineEnd? s).bind (skipLines fuel)
    | _ => some s

/-- The text after the end of a line, with blanks and a comment before it. -/
def endOfLine (s : List Char) : Option (List Char) :=
  match skipComment (skipSpaces s) with
  | [] => some []
  | s => lineEnd? s

/-- Reads one part of a key. -/
def keyPart : Reader String := fun s =>
  match s with
  | '"' :: _ | '\'' :: _ => shortString s
  | _ =>
    let name := s.takeWhile isBareKeyChar
    if name.isEmpty then none else some (String.ofList name, s.dropWhile isBareKeyChar)

/-- How deep values and keys may nest. -/
def depthLimit : Nat := 80

/-- Reads the parts of a dotted key, with blanks around each. -/
def keyParts : Nat → Reader (List String)
  | 0, _ => none
  | fuel + 1, s => do
    let (part, r) ← keyPart (skipSpaces s)
    match skipSpaces r with
    | '.' :: r =>
      let (parts, r) ← keyParts fuel r
      some (part :: parts, r)
    | r => some ([part], r)

/-- Reads a dotted key as the path before its last part and that part. -/
def key : Reader (List String × String) := fun s => do
  let (parts, r) ← keyParts (s.length + 1) s
  match parts.getLast? with
  | some last => if parts.length < depthLimit then some ((parts.dropLast, last), r) else none
  | none => none

-- ---------------------------------------------------------------------------
-- Values
-- ---------------------------------------------------------------------------

/-- Reads the items of an array and the closing bracket; a comma may follow the last. -/
def arrayItems (item : Reader Value) : Nat → List Value → Reader (List Value)
  | 0, _, _ => none
  | fuel + 1, done, s => do
    let s ← skipLines s.length s
    match s with
    | ']' :: r => some (done.reverse, r)
    | _ =>
      let (v, r) ← item s
      let r ← skipLines r.length r
      match r with
      | ',' :: r => arrayItems item fuel (v :: done) r
      | ']' :: r => some ((v :: done).reverse, r)
      | _ => none

/-- Reads the pairs of an inline table and the closing brace. -/
def inlinePairs (item : Reader Value) : Nat → Entries → Reader Entries
  | 0, _, _ => none
  | fuel + 1, done, s => do
    let ((path, name), r) ← key s
    let r ← expect '=' r
    let (v, r) ← item (skipSpaces r)
    let done ← done.define true path name v .inline
    match skipSpaces r with
    | ',' :: r => inlinePairs item fuel done r
    | '\x7d' :: r => some (done, r)
    | _ => none

/-- Reads a value with at most `depth` levels of arrays and inline tables. -/
def value (depth : Nat) : Reader Value := fun s =>
  match s with
  | '"' :: _ | '\'' :: _ => (anyString s).map fun (t, r) => (.string t, r)
  | 't' :: 'r' :: 'u' :: 'e' :: r => some (.boolean true, r)
  | 'f' :: 'a' :: 'l' :: 's' :: 'e' :: r => some (.boolean false, r)
  | '[' :: r =>
    match depth with
    | 0 => none
    | depth + 1 =>
      (arrayItems (value depth) (r.length + 1) [] r).map fun (items, r) => (.array items, r)
  | '\x7b' :: r =>
    match depth with
    | 0 => none
    | depth + 1 =>
      match skipSpaces r with
      | '\x7d' :: r => some (.table .inline [], r)
      | _ =>
        (inlinePairs (value depth) (r.length + 1) [] r).map fun (es, r) => (.table .inline es, r)
  | _ => datetime s <|> float s <|> integer s

-- ---------------------------------------------------------------------------
-- Documents
-- ---------------------------------------------------------------------------

/-- The root of a document and the path of the table that lines add to. -/
structure State where
  root : Entries := []
  path : List String := []

/-- Adds a pair to the table at hand. -/
def State.define (st : State) (path : List String) (name : String) (v : Value) : Option State :=
  (st.root.alterAt false false (fun kind t => t.define false path name v kind) st.path
    .header).map fun root => { st with root }

/-- Reads the header of a table, after its first bracket. -/
def header (st : State) (s : List Char) : Option (State × List Char) := do
  let (double, s) := match s with
    | '[' :: r => (true, r)
    | _ => (false, s)
  let ((path, name), r) ← key s
  let r ← expect ']' r
  let r ← if double then expect ']' r else some r
  let r ← endOfLine r
  let root ← if double then st.root.openItem path name else st.root.openTable path name
  some (⟨root, path ++ [name]⟩, r)

/-- Reads a pair on a line of its own. -/
def pair (st : State) (s : List Char) : Option (State × List Char) := do
  let ((path, name), r) ← key s
  let r ← expect '=' r
  let (v, r) ← value (depthLimit - 1) (skipSpaces r)
  let r ← endOfLine r
  let st ← st.define path name v
  some (st, r)

/-- Reads lines to the end. The fuel bounds their number. -/
def lines : Nat → State → List Char → Option State
  | 0, st, s => if s.isEmpty then some st else none
  | fuel + 1, st, s =>
    match skipSpaces s with
    | [] => some st
    | '[' :: r => (header st r).bind fun (st, r) => lines fuel st r
    | '#' :: r => (endOfLine ('#' :: r)).bind (lines fuel st)
    | c :: r =>
      if c == '\n' || c == '\r' then (lineEnd? (c :: r)).bind (lines fuel st)
      else (pair st (c :: r)).bind fun (st, r) => lines fuel st r

/-- The entries of a document; a byte order mark may stand in front. -/
def parse? (s : String) : Option Entries :=
  let cs := match s.toList with
    | '\uFEFF' :: r => r
    | cs => cs
  (lines (cs.length + 1) {} cs).map State.root

end Repeater.Toml
