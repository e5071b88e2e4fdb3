import Repeater.Text.Blank

/-!
# Durations

A duration is a whole number of nanoseconds; its seconds fit in 64 bits.

* `Duration.parse` reads spans such as `1h 30m` or `1.5s`;
* `Duration.text` writes one, the largest unit first.

Reading keeps a running total. A number or a total out of range is refused, with one exception: a
carry of exactly one second out of the nanoseconds is not foreseen, and when the seconds are full it
brings the program down (`Duration.Fault.carry`).
-/

namespace Repeater

/-- A span of time in nanoseconds, its whole seconds a word of 64 bits. -/
structure Duration where
  /-- The length in nanoseconds. -/
  total : Nat
  total_lt : total < UInt64.size * 1000000000 := by decide
  deriving DecidableEq

namespace Duration

/-- The largest 64-bit number. -/
def wordMax : Nat := 18446744073709551615

/-- No time at all. -/
def zero : Duration := ⟨0, by decide⟩

/-- A length of whole seconds. -/
def ofSeconds (n : Nat) (h : n < UInt64.size := by decide) : Duration :=
  ⟨n * 1000000000, Nat.mul_lt_mul_of_pos_right h (by decide)⟩

/-- The whole seconds. -/
def seconds (d : Duration) : Nat := d.total / 1000000000

/-- The nanoseconds beyond the whole seconds. -/
def nanos (d : Duration) : Nat := d.total % 1000000000

/-- What stops the reading of a duration. -/
inductive Fault where
  /-- The text is no list of spans. -/
  | malformed
  /-- A number, a fraction or the total has no exact value in range. -/
  | outOfRange
  /-- The nanoseconds make one second more than the seconds can hold. -/
  | carry
  deriving DecidableEq, Repr

/-- The units of a span. -/
inductive TimeUnit where
  | nanosecond | microsecond | millisecond | second | minute | hour | day | week | month | year
  deriving DecidableEq, Repr

/-- The unit of a name; case counts. -/
def TimeUnit.ofName? (name : List Char) : Option TimeUnit :=
  match String.ofList name with
  | "nanos" | "nsec" | "ns" => some .nanosecond
  | "usec" | "us" | "\u00b5s" => some .microsecond
  | "millis" | "msec" | "ms" => some .millisecond
  | "seconds" | "second" | "secs" | "sec" | "s" => some .second
  | "minutes" | "minute" | "min" | "mins" | "m" => some .minute
  | "hours" | "hour" | "hrs" | "hr" | "h" => some .hour
  | "days" | "day" | "d" => some .day
  | "weeks" | "week" | "wks" | "wk" | "w" => some .week
  | "months" | "month" | "M" => some .month
  | "years" | "year" | "yrs" | "yr" | "y" => some .year
  | _ => none

/-- Whether a unit is counted in whole seconds, and how many of these (else nanoseconds) it has. A
month is 30.44 days and a year 365.25. -/
def TimeUnit.size : TimeUnit → Bool × Nat
  | .nanosecond => (false, 1)
  | .microsecond => (false, 1000)
  | .millisecond => (false, 1000000)
  | .second => (true, 1)
  | .minute => (true, 60)
  | .hour => (true, 3600)
  | .day => (true, 86400)
  | .week => (true, 604800)
  | .month => (true, 2630016)
  | .year => (true, 31557600)

/-- Whether a fraction of the unit is counted in whole seconds, and how many of these (else
nanoseconds) the unit has; none for the smallest unit, which has no fractions. Down from the minute
a fraction may reach the nanosecond, from the hour up it must be whole seconds. -/
def TimeUnit.fractionSize : TimeUnit → Option (Bool × Nat)
  | .nanosecond => none
  | .second => some (false, 1000000000)
  | .minute => some (false, 60000000000)
  | u => some u.size

/-- A product within 64 bits. -/
def checkedMul (a b : Nat) : Except Fault Nat :=
  if a * b ≤ wordMax then .ok (a * b) else .error .outOfRange

/-- The total after `secs` seconds and `ns` nanoseconds more. -/
def add (d : Duration) (secs ns : Nat) : Except Fault Duration :=
  if d.nanos + ns ≤ wordMax then
    if h : d.total + secs * 1000000000 + ns < UInt64.size * 1000000000 then
      .ok ⟨d.total + secs * 1000000000 + ns, h⟩
    else if d.nanos + ns = 1000000000 ∧ d.seconds + secs ≤ wordMax then .error .carry
    else .error .outOfRange
  else .error .outOfRange

/-- Adds `n` parts that are whole seconds or nanoseconds. -/
def addParts (d : Duration) (wholeSeconds : Bool) (n : Nat) : Except Fault Duration :=
  if wholeSeconds then d.add n 0 else d.add 0 n

/-- Adds a span: a number, the fraction `numerator / denominator` beyond it, and the unit. A fraction
that is no whole number of parts is refused. -/
def addSpan (d : Duration) (n : Nat) (fraction : Option (Nat × Nat)) (name : List Char) :
    Except Fault Duration := do
  match TimeUnit.ofName? name with
  | none => .error .malformed
  | some unit =>
    let (whole, size) := unit.size
    let d ← d.addParts whole (← checkedMul n size)
    match fraction with
    | none => .ok d
    | some (numerator, denominator) =>
      match unit.fractionSize with
      | none => .error .outOfRange
      | some (whole, size) =>
        let parts ← checkedMul numerator size
        if parts % denominator = 0 then d.addParts whole (parts / denominator)
        else .error .outOfRange

-- ---------------------------------------------------------------------------
-- Reading
-- ---------------------------------------------------------------------------

/-- A letter that may stand in the name of a unit. -/
def isUnitChar (c : Char) : Bool :=
  c.isAlpha || c == '\u00b5'

/-- The value of a decimal digit. -/
def digit (c : Char) : Nat :=
  c.toNat - '0'.toNat

/-- The state of reading: before the first digit of a span, in its number, in its fraction (with
numerator and denominator so far), or in its unit (reversed). -/
inductive Reading where
  | between
  | number (n : Nat)
  | fraction (n numerator denominator : Nat)
  | unit (n : Nat) (part : Option (Nat × Nat)) (name : List Char)
  deriving DecidableEq, Repr

/-- One more decimal digit, within 64 bits. -/
def pushDigit (n : Nat) (c : Char) : Except Fault Nat :=
  if n * 10 + digit c ≤ wordMax then .ok (n * 10 + digit c) else .error .outOfRange

/-- Reads one character. Blanks may stand between any two characters of a number, but one in a unit
ends the span; so does a digit. -/
def Reading.step (total : Duration) : Reading → Char → Except Fault (Duration × Reading)
  | .between, c =>
    if c.isDigit then .ok (total, .number (digit c))
    else if Text.isBlank c then .ok (total, .between)
    else .error .malformed
  | .number n, c =>
    if c.isDigit then do .ok (total, .number (← pushDigit n c))
    else if Text.isBlank c then .ok (total, .number n)
    else if isUnitChar c then .ok (total, .unit n none [c])
    else if c = '.' then .ok (total, .fraction n 0 1)
    else .error .malformed
  | .fraction n numerator denominator, c =>
    if c.isDigit then do
      .ok (total, .fraction n (← pushDigit numerator c) (← checkedMul denominator 10))
    else if Text.isBlank c then .ok (total, .fraction n numerator denominator)
    else if isUnitChar c then
      if denominator = 1 then .error .malformed
      else .ok (total, .unit n (some (numerator, denominator)) [c])
    else .error .malformed
  | .unit n part name, c =>
    if c.isDigit then do
      .ok (← total.addSpan n part name.reverse, .number (digit c))
    else if Text.isBlank c then do
      .ok (← total.addSpan n part name.reverse, .between)
    else if isUnitChar c then .ok (total, .unit n part (c :: name))
    else .error .malformed

/-- Reads the end of the text: a span in the making must have its unit. -/
def Reading.finish (total : Duration) : Reading → Except Fault Duration
  | .between => .ok total
  | .unit n part name => total.addSpan n part name.reverse
  | .number _ | .fraction .. => .error .malformed

/-- Reads on from a state. -/
def Reading.run (total : Duration) (state : Reading) : List Char → Except Fault Duration
  | [] => state.finish total
  | c :: r => do
    let (total, state) ← state.step total c
    state.run total r

/-- Reads a list of spans, at least one; a lone `0` needs no unit. -/
def parse (s : List Char) : Except Fault Duration :=
  if s = ['0'] then .ok zero
  else if s.all Text.isBlank then .error .malformed
  else Reading.between.run zero s

-- ---------------------------------------------------------------------------
-- Writing
-- ---------------------------------------------------------------------------

/-- The parts of a duration from the year down, as counts with the unit's name and whether the name
takes a plural. -/
def fields (d : Duration) : List (Nat × String × Bool) :=
  let s := d.seconds
  let days := s % 31557600
  let hours := days % 2630016
  let rest := hours % 86400
  [(s / 31557600, "year", true), (days / 2630016, "month", true), (hours / 86400, "day", true),
    (rest / 3600, "h", false), (rest % 3600 / 60, "m", false), (rest % 60, "s", false),
    (d.nanos / 1000000, "ms", false), (d.nanos / 1000 % 1000, "us", false),
    (d.nanos % 1000, "ns", false)]

/-- The parts that are not zero, one blank between them. -/
def text (d : Duration) : String :=
  if d.total = 0 then "0s"
  else " ".intercalate <| (d.fields.filter fun f => f.1 != 0).map fun (n, name, plural) =>
    toString n ++ name ++ (if plural && n > 1 then "s" else "")

end Duration

end Repeater
