import Repeater.Url.Basic
import Repeater.Text.Blank

/-!
# Reading URLs

* `Url.parse` reads an absolute URL;
* `Url.resolve` reads a reference relative to a URL that has a special scheme.

Tabs and line ends anywhere in the text are passed over, and so are blanks and control characters at
its ends. A backslash counts as a slash in special schemes, and dot segments are carried out, also
where their dots are percent encoded.
-/

namespace Repeater.Url

-- ---------------------------------------------------------------------------
-- The text that is read
-- ---------------------------------------------------------------------------

/-- A control character or a space. -/
def isEdge (c : Char) : Bool := c.toNat ≤ 0x20

/-- A tab or a line end. -/
def isSkipped (c : Char) : Bool := c == '\t' || c == '\n' || c == '\r'

/-- The text without what is passed over. -/
def clean (s : List Char) : List Char :=
  (Text.strip isEdge s).filter fun c => !isSkipped c

/-- A character of a scheme. -/
def isSchemeChar (c : Char) : Bool :=
  c.isAlphanum || c == '+' || c == '-' || c == '.'

/-- Splits off a scheme, in lower case, and its colon. -/
def scheme? (s : List Char) : Option (List Char × List Char) :=
  if s.head?.any Char.isAlpha then
    match s.dropWhile isSchemeChar with
    | ':' :: r => some ((s.takeWhile isSchemeChar).map Char.toLower, r)
    | _ => none
  else none

/-- A slash, or in special schemes a backslash. -/
def isSlash (kind : SchemeKind) (c : Char) : Bool :=
  c == '/' || (kind != .other && c == '\\')

/-- A character that ends the authority. -/
def endsAuthority (kind : SchemeKind) (c : Char) : Bool :=
  isSlash kind c || c == '?' || c == '#'

-- ---------------------------------------------------------------------------
-- Paths, queries and fragments
-- ---------------------------------------------------------------------------

/-- Whether a segment, with percent encoded dots, is one of `forms`. -/
def isDots (n : Nat) (seg : List Char) : Bool :=
  go n seg
where
  go : Nat → List Char → Bool
    | 0, [] => true
    | n + 1, '.' :: r => go n r
    | n + 1, '%' :: '2' :: e :: r => (e == 'e' || e == 'E') && go n r
    | _, _ => false

/-- A letter and a colon, or a bar in its place. -/
def isDrive (seg : List Char) : Bool :=
  match seg with
  | [c, d] => c.isAlpha && (d == ':' || d == '|')
  | _ => false

/-- The segments without the last; one that looks like a drive stays, whatever the scheme. -/
def shorten (segs : List (List Char)) : List (List Char) :=
  if segs.getLast?.any isDrive then segs else segs.dropLast

/-- Puts segments after others, carrying out dot segments. The last of them leaves an empty segment
where it stood. -/
def addSegments (kind : SchemeKind) (done : List (List Char)) :
    List (List Char) → List (List Char)
  | [] => done
  | seg :: rest =>
    let close (segs : List (List Char)) := if rest.isEmpty then segs ++ [[]] else segs
    let done :=
      if isDots 2 seg then close (shorten done)
      else if isDots 1 seg then close done
      else if kind = .file ∧ isDrive seg then done ++ [seg.take 1 ++ [':']]
      else done ++ [percentEncode inPath seg]
    addSegments kind done rest

/-- The text before a query or fragment. -/
def pathPart (s : List Char) : List Char :=
  s.takeWhile fun c => c != '?' && c != '#'

/-- The query and the fragment after a path. -/
def queryAndFragment (kind : SchemeKind) (s : List Char) :
    Option (List Char) × Option (List Char) :=
  let encode := if kind = .other then inQuery else inSpecialQuery
  match s.dropWhile fun c => c != '?' && c != '#' with
  | '?' :: r =>
    (some (percentEncode encode (r.takeWhile (· != '#'))),
      match r.dropWhile (· != '#') with
      | _ :: f => some (percentEncode inFragment f)
      | [] => none)
  | _ :: f => (none, some (percentEncode inFragment f))
  | [] => (none, none)

/-- Segments after `done`, from a text without its leading slash. -/
def segmentsOf (kind : SchemeKind) (done : List (List Char)) (s : List Char) : List (List Char) :=
  let segs := addSegments kind done ((pathPart s).splitOnP (isSlash kind))
  if kind = .file then
    match segs.dropWhile List.isEmpty with
    | [] => [[]]
    | segs => segs
  else segs

/-- The path after an authority: in special schemes it has at least one segment. -/
def pathAfterAuthority (kind : SchemeKind) (s : List Char) : List (List Char) :=
  match s with
  | [] => if kind = .other then [] else segmentsOf kind [] []
  | c :: r =>
    if isSlash kind c then segmentsOf kind [] r
    else if kind = .other ∧ (c = '?' ∨ c = '#') then []
    else segmentsOf kind [] s

-- ---------------------------------------------------------------------------
-- Authorities
-- ---------------------------------------------------------------------------

/-- Splits off user name and password. With nothing before the last `@`, a host must follow. -/
def userinfoOf (kind : SchemeKind) (s : List Char) :
    Except Fault (List Char × List Char × List Char) :=
  let authority := s.takeWhile fun c => !endsAuthority kind c
  match Text.cutLast (· == '@') authority with
  | none => .ok ([], [], s)
  | some (info, host) =>
    let rest := host ++ s.drop authority.length
    if info.isEmpty then
      if rest.head?.any (endsAuthority kind) then .error .emptyHost else .ok ([], [], rest)
    else
      let (user, password) :=
        match Text.cutFirst (· == ':') info with
        | some (u, p) => (u, p)
        | none => (info, [])
      .ok (percentEncode inUserinfo user, percentEncode inUserinfo password, rest)

/-- Splits off the text of a host, which ends at a colon outside brackets or with the authority. -/
def hostPart (kind : SchemeKind) : Bool → List Char → List Char × List Char
  | _, [] => ([], [])
  | inside, c :: r =>
    if (c == ':' && !inside) || endsAuthority kind c then ([], c :: r)
    else
      let (host, rest) := hostPart kind (c == '[' || (inside && c != ']')) r
      (c :: host, rest)

/-- Reads a port after its colon; it ends where the authority does. A usual port is not kept. -/
def portOf (scheme : List Char) (s : List Char) : Except Fault (Option UInt16 × List Char) :=
  match s with
  | ':' :: r =>
    let ds := r.takeWhile Char.isDigit
    let rest := r.dropWhile Char.isDigit
    let n : Nat := ds.foldl (fun n c => n * 10 + (c.toNat - 48)) 0
    if 65535 < n then .error .invalidPort
    else if rest.head?.any fun c => !(c == '/' || c == '\\' || c == '?' || c == '#') then
      .error .invalidPort
    else if ds.isEmpty ∨ usualPort? scheme = some n.toUInt16 then .ok (none, rest)
    else .ok (some n.toUInt16, rest)
  | _ => .ok (none, s)

/-- Reads the host of an authority; only special schemes insist on one. -/
def hostOf (kind : SchemeKind) (name : List Char) : Except Fault Host :=
  if kind = .special then
    if name.isEmpty then .error .emptyHost else Host.special name
  else Host.plain name

/-- Reads what follows the two slashes. -/
def afterSlashes (scheme : List Char) (s : List Char) : Except Fault Url := do
  let kind := schemeKind scheme
  let (username, password, s) ← userinfoOf kind s
  let (name, s) := hostPart kind false s
  let host ← hostOf kind name
  if host = .domain [] ∧ (s.head? = some ':' ∨ username ≠ [] ∨ password ≠ []) then
    .error .emptyHost
  else
    let (port, s) ← portOf scheme s
    let (query, fragment) := queryAndFragment kind s
    .ok { scheme, username, password, host := some host, port
          path := .segments (pathAfterAuthority kind s), query, fragment }

-- ---------------------------------------------------------------------------
-- Files
-- ---------------------------------------------------------------------------

/-- A file URL without a host, its path from a text. -/
def filePath (s : List Char) : Url :=
  let (query, fragment) := queryAndFragment .file s
  { scheme := "file".toList, host := some (.domain [])
    path := .segments (pathAfterAuthority .file s), query, fragment }

/-- Whether a segment of a path looks like a drive. -/
def Path.hasDrive : Path → Bool
  | .segments segs => segs.any isDrive
  | .whole _ => false

/-- Reads what follows the scheme of files. The local machine is no host, and neither is one before a
drive. -/
def fileUrl (s : List Char) : Except Fault Url :=
  match s with
  | a :: b :: r =>
    if isSlash .file a && isSlash .file b then
      let name := r.takeWhile fun c => !endsAuthority .file c
      let rest := r.drop name.length
      if isDrive name then .ok (filePath ('/' :: r))
      else if name.isEmpty then .ok (filePath rest)
      else do
        let host ← Host.special name
        let u := filePath rest
        if host = .domain "localhost".toList ∨ u.path.hasDrive then .ok u
        else .ok { u with host := some host }
    else .ok (filePath s)
  | _ => .ok (filePath s)

-- ---------------------------------------------------------------------------
-- Absolute and relative
-- ---------------------------------------------------------------------------

/-- Reads what follows a scheme that is not special. -/
def otherUrl (scheme : List Char) (s : List Char) : Except Fault Url :=
  match s with
  | '/' :: '/' :: r => afterSlashes scheme r
  | '/' :: r =>
    let (query, fragment) := queryAndFragment .other r
    .ok { scheme, host := none, path := .segments (segmentsOf .other [] r), query, fragment }
  | _ =>
    let (query, fragment) := queryAndFragment .other s
    .ok { scheme, host := none, path := .whole (percentEncode isControl (pathPart s)), query
          fragment }

/-- Reads what follows any scheme. -/
def afterScheme (scheme : List Char) (s : List Char) : Except Fault Url :=
  match schemeKind scheme with
  | .special => afterSlashes scheme (s.dropWhile (isSlash .special))
  | .file => fileUrl s
  | .other => otherUrl scheme s

/-- Reads an absolute URL. -/
def parse (s : List Char) : Except Fault Url :=
  match scheme? (clean s) with
  | some (scheme, r) => afterScheme scheme r
  | none => .error .relativeWithoutBase

/-- The segments of a path. -/
def pathSegments (u : Url) : List (List Char) :=
  match u.path with
  | .segments segs => segs
  | .whole _ => []

/-- Reads a reference without a scheme. -/
def relative (base : Url) (s : List Char) : Except Fault Url :=
  let kind := schemeKind base.scheme
  let withPath (segs : List (List Char)) : Except Fault Url :=
    let (query, fragment) := queryAndFragment kind s
    .ok { base with path := .segments segs, query, fragment }
  match s with
  | [] => .ok { base with fragment := none }
  | '?' :: _ =>
    let (query, fragment) := queryAndFragment kind s
    .ok { base with query, fragment }
  | '#' :: f => .ok { base with fragment := some (percentEncode inFragment f) }
  | '/' :: '/' :: r => afterSlashes base.scheme r
  | c :: r =>
    if isSlash kind c then
      if r.head?.any (isSlash kind) then afterSlashes base.scheme (r.dropWhile (isSlash kind))
      else withPath (segmentsOf kind [] r)
    else withPath (segmentsOf kind base.pathSegments.dropLast s)

/-- Reads a reference relative to a URL with a special scheme. -/
def resolve (base : Url) (s : List Char) : Except Fault Url :=
  let s := clean s
  match scheme? s with
  | some (scheme, r) =>
    if schemeKind scheme = .special ∧ scheme = base.scheme ∧
        (r.takeWhile (isSlash .special)).length < 2 then relative base r
    else afterScheme scheme r
  | none => relative base s

end Repeater.Url
