/-!
# Blank characters

The white space of Unicode, and what is cut at it:

* `isBlank` is the property `White_Space`;
* `trim` drops it at both ends;
* `words` cuts a text into its maximal runs of other characters.
-/

namespace Repeater.Text

/-- The characters with the Unicode property `White_Space`. -/
def isBlank (c : Char) : Bool :=
  let n := c.toNat
  (9 ≤ n && n ≤ 13) || n == 0x20 || n == 0x85 || n == 0xa0 || n == 0x1680 ||
    (0x2000 ≤ n && n ≤ 0x200a) || n == 0x2028 || n == 0x2029 || n == 0x202f ||
    n == 0x205f || n == 0x3000

/-- The text without the characters of `p` at its end. -/
def dropRight (p : Char → Bool) (s : List Char) : List Char :=
  (s.reverse.dropWhile p).reverse

/-- The text without the characters of `p` at either end. -/
def strip (p : Char → Bool) (s : List Char) : List Char :=
  dropRight p (s.dropWhile p)

/-- The text without blanks at either end. -/
def trim (s : List Char) : List Char :=
  strip isBlank s

/-- The maximal runs of characters that are not blank, in order. -/
def words (s : String) : List String :=
  ((s.toList.splitOnP isBlank).filter fun w => !w.isEmpty).map String.ofList

/-- Cuts at the first character of `p`, which is dropped. -/
def cutFirst (p : Char → Bool) (s : List Char) : Option (List Char × List Char) :=
  match s.dropWhile (fun c => !p c) with
  | [] => none
  | _ :: r => some (s.takeWhile (fun c => !p c), r)

/-- Cuts at the last character of `p`, which is dropped. -/
def cutLast (p : Char → Bool) (s : List Char) : Option (List Char × List Char) :=
  (cutFirst p s.reverse).map fun (after, before) => (before.reverse, after.reverse)

end Repeater.Text
