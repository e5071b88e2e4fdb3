import Repeater.Text.Blank

/-!
# Media types

A media type is a type and a subtype with parameters after semicolons, such as
`text/plain; charset="utf-8"`. A value of a parameter is a token or is quoted.
-/

namespace Repeater.Text

/-- A letter, a digit, or a mark that names of types and parameters may hold. -/
def isTokenChar (c : Char) : Bool :=
  c.isAlphanum || ("!#$%&'*+-.^_|~\x60".toList).contains c

/-- A character that may stand in a quoted value. -/
def isQuotedChar (c : Char) : Bool :=
  32 ≤ c.toNat && c.toNat != 127

/-- Splits off a value with the blanks and the semicolon after it. A quoted value ends with a quote,
but not with one that is its first character. -/
def parameterValue? : List Char → Option (List Char × List Char)
  | '"' :: c :: r =>
    let more := r.takeWhile fun c => isQuotedChar c && c != '"'
    match r.drop more.length with
    | '"' :: r =>
      if !isQuotedChar c then none
      else match r.dropWhile (· == ' ') with
        | [] => some (c :: more, [])
        | ';' :: r => some (c :: more, r)
        | _ => none
    | _ => none
  | s =>
    let value := s.takeWhile isTokenChar
    match s.drop value.length with
    | [] => some (value, [])
    | ';' :: r => if value.isEmpty then none else some (value, r)
    | _ => none

/-- Reads at most `limit` parameters. -/
def parametersFrom : Nat → List Char → Option (List (List Char × List Char))
  | 0, _ => none
  | limit + 1, s =>
    let s := s.dropWhile (· == ' ')
    if s.isEmpty then some []
    else
      let name := s.takeWhile isTokenChar
      match s.drop name.length with
      | '=' :: r =>
        if name.isEmpty then none
        else do
          let (value, r) ← parameterValue? r
          let rest ← parametersFrom limit r
          pure ((name.map Char.toLower, value) :: rest)
      | _ => none

/-- The parameters of a media type, their names in lower case; none for a text that is no media
type. -/
def mediaParameters? (s : List Char) : Option (List (List Char × List Char)) :=
  let kind := s.takeWhile isTokenChar
  match s.drop kind.length with
  | '/' :: r =>
    let subtype := r.takeWhile isTokenChar
    if kind.isEmpty || subtype.isEmpty then none
    else match r.drop subtype.length with
      | [] => some []
      | ';' :: r => parametersFrom (r.length + 1) r
      | _ => none
  | _ => none

/-- The first value of a parameter. -/
def mediaParameter? (s : List Char) (name : String) : Option (List Char) :=
  (mediaParameters? s).bind fun ps => ps.lookup name.toList

end Repeater.Text
