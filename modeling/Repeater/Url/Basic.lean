import Repeater.Url.Host

/-!
# URLs

A URL as its parts, each in the encoding in which it is written.

* `Url.text` writes a URL;
* `Url.authority` is the host, with the port unless it is the usual one of the scheme;
* `Url.target` is the path with the query.
-/

namespace Repeater

/-- A path: one text, or segments with a slash before each. -/
inductive Url.Path where
  | whole (text : List Char)
  | segments (segs : List (List Char))
  deriving DecidableEq, Repr

/-- A URL; a port that is the usual one of the scheme is not kept. -/
structure Url where
  scheme : List Char
  username : List Char := []
  password : List Char := []
  /-- None where there is no authority at all. -/
  host : Option Url.Host
  port : Option UInt16 := none
  path : Url.Path
  query : Option (List Char) := none
  fragment : Option (List Char) := none
  deriving DecidableEq, Repr

namespace Url

/-- The kinds of scheme that differ in how the rest is read. -/
inductive SchemeKind where
  | special
  | file
  | other
  deriving DecidableEq, Repr

/-- The kind of a scheme. -/
def schemeKind (scheme : List Char) : SchemeKind :=
  match String.ofList scheme with
  | "http" | "https" | "ws" | "wss" | "ftp" => .special
  | "file" => .file
  | _ => .other

/-- The usual port of a scheme. -/
def usualPort? (scheme : List Char) : Option UInt16 :=
  match String.ofList scheme with
  | "http" | "ws" => some 80
  | "https" | "wss" => some 443
  | "ftp" => some 21
  | _ => none

/-- The text of a path. -/
def Path.text : Path → List Char
  | .whole s => s
  | .segments segs => segs.flatMap fun s => '/' :: s

/-- The host, if it is not empty. -/
def namedHost? (u : Url) : Option Host :=
  u.host.filter fun h => h != .domain []

/-- A port after its colon. -/
def portText (port : Option UInt16) : List Char :=
  match port with
  | none => []
  | some p => ':' :: Nat.toDigits 10 p.toNat

/-- The host with the port that is kept. -/
def authority (u : Url) : List Char :=
  (u.host.map Host.text).getD [] ++ portText u.port

/-- User name and password before the host. -/
def userinfo (u : Url) : List Char :=
  if u.username.isEmpty && u.password.isEmpty then []
  else u.username ++ (if u.password.isEmpty then [] else ':' :: u.password) ++ ['@']

/-- The query after its mark. -/
def queryText (u : Url) : List Char :=
  match u.query with
  | none => []
  | some q => '?' :: q

/-- The path with the query. -/
def target (u : Url) : List Char :=
  u.path.text ++ u.queryText

/-- The fragment after its mark. -/
def fragmentText (u : Url) : List Char :=
  match u.fragment with
  | none => []
  | some f => '#' :: f

/-- All parts in order. -/
def chars (u : Url) : List Char :=
  u.scheme ++ ':' :: (if u.host.isSome then '/' :: '/' :: u.userinfo ++ u.authority else []) ++
    u.target ++ u.fragmentText

/-- The written form. -/
def text (u : Url) : String :=
  String.ofList u.chars

/-- Without user name and password. -/
def withoutUserinfo (u : Url) : Url :=
  { u with username := [], password := [] }

/-- The port to connect to, if the scheme has a usual one or one is given. -/
def effectivePort? (u : Url) : Option UInt16 :=
  u.port <|> usualPort? u.scheme

end Url

end Repeater
