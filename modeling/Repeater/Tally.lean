/-!
# Tallies

What the relay counts. A tally is the list of things counted, oldest first, so that what two stages
count is the concatenation of their tallies, and the value of a series is the number of its marks
(`Tally.count`).
-/

namespace Repeater

/-- A series that is counted. -/
inductive Series where
  /-- A request that came in for relay, accepted or not. -/
  | inbound
  /-- A request that was forwarded to the backend of this authority. -/
  | forwarded (authority : String)
  /-- The time of one exchange with a backend was taken. -/
  | responseTime
  deriving DecidableEq, Repr

/-- The marks made, oldest first. -/
abbrev Tally := List Series

namespace Tally

/-- How often a series was marked. -/
def count (t : Tally) (s : Series) : Nat :=
  List.count s t

/-- The series that were marked, each once, with their counts. -/
def totals (t : Tally) : List (Series × Nat) :=
  t.eraseDups.map fun s => (s, t.count s)

/-- Totals with one mark more. -/
def mark (s : Series) : List (Series × Nat) → List (Series × Nat)
  | [] => [(s, 1)]
  | (u, n) :: r => if u = s then (u, n + 1) :: r else (u, n) :: mark s r

/-- Totals with the marks of a tally. -/
def addTo (totals : List (Series × Nat)) (t : Tally) : List (Series × Nat) :=
  t.foldl (fun totals s => mark s totals) totals

end Tally

/-- The name under which a series is published. -/
def Series.name : Series → String
  | .inbound => "sprayproxy_inbound_requests_total"
  | .forwarded _ => "sprayproxy_forwarded_requests_total"
  | .responseTime => "sprayproxy_forwarded_response_time_seconds"

/-- The label of a series: its name and value. -/
def Series.label? : Series → Option (String × String)
  | .forwarded authority => some ("backend", authority)
  | _ => none

end Repeater
