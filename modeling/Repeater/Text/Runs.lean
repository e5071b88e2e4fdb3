import Repeater.Text.Blank

/-!
# Run-length tables

A property of all code points, written as runs: the length of each run in hexadecimal and the value
that holds for it, which starts with a character that is no lower-case hexadecimal digit.

* `Runs.parse` reads such a text, the runs with blanks between them;
* `Runs.get` is the value at a code point.
-/

namespace Repeater.Text

/-- The number that lower-case hexadecimal digits write. -/
def hexNumber (ds : List Char) : Nat :=
  ds.foldl (fun n c =>
    n * 16 + (if c.isDigit then c.toNat - '0'.toNat else c.toNat - 'a'.toNat + 10)) 0

/-- The number that decimal digits write. -/
def decimalNumber (ds : List Char) : Nat :=
  ds.foldl (fun n c => n * 10 + (c.toNat - '0'.toNat)) 0

/-- A lower-case hexadecimal digit. -/
def isLowerHex (c : Char) : Bool :=
  c.isDigit || ('a' ≤ c && c ≤ 'f')

/-- The start of each run, ascending from zero, with its value. -/
structure Runs where
  entries : Array (Nat × List Char)

namespace Runs

/-- Reads runs. -/
def parse (text : String) : Runs :=
  let step (acc : Nat × Array (Nat × List Char)) (word : List Char) :=
    if word.isEmpty then acc
    else
      let length := hexNumber (word.takeWhile isLowerHex)
      (acc.1 + length, acc.2.push (acc.1, word.dropWhile isLowerHex))
  ⟨((text.toList.splitOnP isBlank).foldl step (0, #[])).2⟩

/-- The value at `n`: that of the last run that does not start after it. The fuel bounds the
halvings. -/
def get (r : Runs) (n : Nat) : List Char :=
  go 32 0 r.entries.size
where
  go : Nat → Nat → Nat → List Char
    | 0, _, _ => []
    | fuel + 1, lo, hi =>
      if lo + 1 < hi then
        let mid := (lo + hi) / 2
        match r.entries[mid]? with
        | none => []
        | some (start, _) => if n < start then go fuel lo mid else go fuel mid hi
      else (r.entries[lo]?.map Prod.snd).getD []

end Runs

end Repeater.Text
