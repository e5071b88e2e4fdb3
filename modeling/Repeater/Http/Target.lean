import Repeater.Text.Blank
import Repeater.Text.Utf8

/-!
# Request targets

The second word of a request line: a path with a query, the star, an absolute URI, or an authority
alone.

* `Target.parse?` reads one; a fragment is dropped;
* `Target.path` is the path that routes are matched against;
* `Target.pathAndQuery?` is what a relay passes on;
* `Target.text` writes one.
-/

namespace Repeater.Http

/-- A request target. The path with the query may be empty, where a slash is meant. -/
structure Target where
  /-- The scheme of an absolute URI. -/
  scheme : Option (List Char) := none
  authority : List Char := []
  rest : List Char
  deriving DecidableEq, Repr

namespace Target

-- ---------------------------------------------------------------------------
-- Character classes
-- ---------------------------------------------------------------------------

/-- A character that may stand in a path. -/
def isPathChar (c : Char) : Bool :=
  0x21 ≤ c.toNat && !(['#', '<', '>', '?', '\x60'].contains c)

/-- A character that may stand in a query. -/
def isQueryChar (c : Char) : Bool :=
  0x21 ≤ c.toNat && !(['"', '#', '<', '>'].contains c)

/-- A character that may stand in a scheme. -/
def isSchemeChar (c : Char) : Bool :=
  c.isAlphanum || ['+', '-', '.', '~'].contains c

/-- A character that may stand in an authority. -/
def isAuthorityChar (c : Char) : Bool :=
  c.isAlphanum || ("!$&'()*+,-.:;=@[]_~%".toList).contains c

-- ---------------------------------------------------------------------------
-- Reading
-- ---------------------------------------------------------------------------

/-- The most bytes that a target may have. -/
def maxLength : Nat := 65534

/-- Reads a path with a query up to a fragment. -/
def pathAndQueryOf? (s : List Char) : Option (List Char) :=
  let path := s.takeWhile fun c => c != '?' && c != '#'
  let rest := (s.drop path.length).takeWhile (· != '#')
  if path.all isPathChar && (rest.drop 1).all isQueryChar then some (path ++ rest) else none

/-- What has been seen of an authority: the colons since the last `@` or bracket, the brackets, and
whether a percent sign is left over. -/
structure AuthorityScan where
  colons : Nat := 0
  opened : Bool := false
  closed : Bool := false
  percent : Bool := false

/-- One more character of an authority. -/
def AuthorityScan.step (a : AuthorityScan) (c : Char) : Option AuthorityScan :=
  match c with
  | ':' => if 8 ≤ a.colons then none else some { a with colons := a.colons + 1 }
  | '[' => if a.percent || a.opened then none else some { a with opened := true }
  | ']' =>
    if !a.opened || a.closed then none
    else some { a with closed := true, colons := 0, percent := false }
  | '@' => some { a with colons := 0, percent := false }
  | '%' => some { a with percent := true }
  | c => if isAuthorityChar c then some a else none

/-- Splits off an authority, which may be empty: user information, a host, and at most one colon with
a port. A percent sign may stand only before the `@` or between brackets. -/
def authorityOf? (s : List Char) : Option (List Char × List Char) :=
  let authority := s.takeWhile fun c => c != '/' && c != '?' && c != '#'
  match authority.foldlM AuthorityScan.step {} with
  | none => none
  | some a =>
    if a.opened != a.closed || 1 < a.colons || authority.getLast? == some '@' || a.percent then none
    else some (authority, s.drop authority.length)

/-- Splits off a scheme and the two slashes after its colon. -/
def schemeOf (s : List Char) : Option (Option (List Char) × List Char) :=
  let name := s.takeWhile isSchemeChar
  match s.drop name.length with
  | ':' :: '/' :: '/' :: r =>
    let lower := name.map Char.toLower
    if lower = "http".toList ∨ lower = "https".toList then some (some lower, r)
    else if 64 < name.length then none
    else some (some name, r)
  | _ => some (none, s)

/-- Reads a target. -/
def parse? (text : String) : Option Target :=
  if maxLength < text.utf8ByteSize then none
  else match text.toList with
    | [] => none
    | ['*'] => some { rest := ['*'] }
    | '/' :: r => (pathAndQueryOf? ('/' :: r)).map fun rest => { rest }
    | s => do
      let (scheme, r) ← schemeOf s
      let (authority, r) ← authorityOf? r
      if authority.isEmpty then none
      else if scheme.isNone then
        if r.isEmpty then some { authority, rest := [] } else none
      else
        let rest ← pathAndQueryOf? r
        some { scheme, authority, rest }

/-- Reads a target from bytes. -/
def ofBytes? (bytes : ByteArray) : Option Target :=
  (Text.utf8? bytes).bind parse?

-- ---------------------------------------------------------------------------
-- Parts
-- ---------------------------------------------------------------------------

/-- The path; an authority alone has none, otherwise an absent one is a slash. -/
def path (t : Target) : List Char :=
  if t.rest.isEmpty && t.scheme.isNone then []
  else match t.rest.takeWhile (· != '?') with
    | [] => ['/']
    | p => p

/-- The query, if there is a mark for it. -/
def query? (t : Target) : Option (List Char) :=
  (Text.cutFirst (· == '?') t.rest).map Prod.snd

/-- The path with the query as it came; an authority alone has none. -/
def pathAndQuery? (t : Target) : Option (List Char) :=
  if t.scheme.isSome || t.authority.isEmpty then
    some (if t.rest.isEmpty then ['/'] else t.rest)
  else none

/-- The written form, with a slash for an absent path. -/
def text (t : Target) : String :=
  String.ofList <|
    (match t.scheme with
      | some s => s ++ "://".toList
      | none => []) ++ t.authority ++ t.path ++
    (match t.query? with
      | some q => '?' :: q
      | none => [])

end Target

end Repeater.Http
