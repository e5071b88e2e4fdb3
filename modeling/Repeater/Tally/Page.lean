import Repeater.Http.Opening
import Repeater.Tally

/-!
# The metrics page

A tally as a page of text for collectors: for every name the kind and the meaning of its series, then
a line for each series. Only what was counted appears.

* `Tally.page` is the page;
* `Tally.converse` answers on a connection that asks for it.
-/

namespace Repeater

/-- What a series means. -/
def Series.help : Series → String
  | .inbound => "Inbound requests received for relay"
  | .forwarded _ => "Requests forwarded to a backend"
  | .responseTime => "Time spent waiting on a backend response"

/-- The kind of a series: how often something happened, or how often something was measured. -/
def Series.kind : Series → String
  | .inbound | .forwarded _ => "counter"
  | .responseTime => "summary"

/-- The name in front of the number of a series. -/
def Series.countName (s : Series) : String :=
  match s with
  | .responseTime => s.name ++ "_count"
  | _ => s.name

namespace Tally

/-- One character of a label's value as it stands between double quotes. -/
def labelChar : Char → List Char
  | '\\' => ['\\', '\\']
  | '"' => ['\\', '"']
  | '\n' => ['\\', 'n']
  | c => [c]

/-- The label of a series in braces, if it has one. -/
def labelText (s : Series) : String :=
  match s.label? with
  | none => ""
  | some (name, value) =>
    "\x7b" ++ name ++ "=\"" ++ String.ofList (value.toList.flatMap labelChar) ++ "\"\x7d"

/-- The line of a series. -/
def seriesLine (s : Series) (count : Nat) : String :=
  s.countName ++ labelText s ++ " " ++ toString count ++ "\n"

/-- The lines in front of the series of a name. -/
def heading (s : Series) : String :=
  "# HELP " ++ s.name ++ " " ++ s.help ++ "\n# TYPE " ++ s.name ++ " " ++ s.kind ++ "\n"

/-- The lines of the series of one name, and an empty one. -/
def familyText : List (Series × Nat) → String
  | [] => ""
  | (s, n) :: r =>
    heading s ++ String.join (((s, n) :: r).map fun (s, n) => seriesLine s n) ++ "\n"

/-- The page for these totals. -/
def pageOf (totals : List (Series × Nat)) : String :=
  let names := (totals.map fun p => p.1.name).eraseDups
  String.join (names.map fun name => familyText (totals.filter fun p => p.1.name == name))

/-- The page. -/
def page (t : Tally) : String :=
  pageOf t.totals

/-- The response to a request for a path; there is no page but this and the health of it. -/
def pageResponse (page : String) (method : String) (path : List Char) : Http.Response :=
  let body := Text.utf8 (if path = "/health".toList then "OK" else page)
  { status := 200
    headers := [⟨"content-type", Text.utf8 "text/plain"⟩,
      ⟨"content-length", Text.utf8 (toString body.size)⟩]
    body := if method = "HEAD" then .empty else body }

/-- Answers the request that the bytes hold with a page; none while it is waited for. -/
def converse (page : String) (bytes : ByteArray) : Option Http.Sent :=
  match Http.Opening.read bytes with
  | .waiting => none
  | .refused status => some (.refusal status)
  | .request head _ => some (head.answer (pageResponse page head.method head.target.path))

end Tally

end Repeater
