import Repeater.Idna.Mapping
import Repeater.Idna.Normal
import Repeater.Idna.Punycode

/-!
# Domain names

`toAscii?` brings a domain name into the one form that is looked up: characters mapped, composed, and
labels beyond ASCII written in Punycode. It refuses

* labels that are marked as Punycode and are none, or would have been written otherwise;
* labels that start with a combining mark, hold a character that does not stay under the mapping, or
  hold a joiner where nothing joins;
* names with letters of both directions that do not keep to the rule for them;
* ASCII characters that have a meaning elsewhere in a URL.
-/

namespace Repeater.Idna

/-- The ASCII characters that no domain name may hold. -/
def isForbidden (c : Char) : Bool :=
  c.toNat ≤ 0x20 || c.toNat == 0x7f ||
    ['#', '/', ':', '<', '>', '?', '@', '[', '\\', ']', '^', '|', '%'].contains c

/-- Maps every character; none if one is refused. -/
def map? (s : List Char) : Option (List Char) :=
  (s.mapM place).map List.flatten
where
  place (c : Char) : Option (List Char) :=
    match fate c.toNat with
    | .stays => some [c]
    | .disappears => some []
    | .refused => none
    | .becomes codes => some (codes.map Char.ofNat)

/-- A joiner after a virama, or for the non-joiner, between letters that would join. -/
def joinersOk : List Char → List Char → Bool
  | _, [] => true
  | before, c :: after =>
    let virama := before.head?.any fun p => combiningClass p == 9
    let here :=
      if c == '\u200d' then virama
      else if c == '\u200c' then
        virama ||
          (((before.dropWhile fun p => joiningType p == 'T').head?.any fun p =>
              joiningType p == 'L' || joiningType p == 'D') &&
            ((after.dropWhile fun p => joiningType p == 'T').head?.any fun p =>
              joiningType p == 'R' || joiningType p == 'D'))
      else true
    here && joinersOk (c :: before) after

/-- A label with characters that may stand in it, in composed form, not led by a mark. -/
def isValidLabel (label : List Char) : Bool :=
  (label.all fun c => !isForbidden c && fate c.toNat == .stays) &&
    normalize label == label && !(label.head?.any isMark) && joinersOk [] label

/-- The mark of a label in Punycode. -/
def punycodeMark : List Char := ['x', 'n', '-', '-']

/-- A mapped label in the characters that its reader sees. -/
def decodeLabel? (label : List Char) : Option (List Char) :=
  if label.take 4 = punycodeMark then
    let rest := label.drop 4
    if 2000 < rest.length then none
    else match Punycode.decode? rest with
      | none => none
      | some l => if l.all (·.toNat < 0x80) || !isValidLabel l then none else some l
  else if isValidLabel label then some label else none

/-- Whether a direction runs from right to left. -/
def isRightToLeft (d : String) : Bool :=
  d == "R" || d == "AL" || d == "AN"

/-- The rule for labels of names that hold right-to-left letters. -/
def directionsOk (label : List Char) : Bool :=
  match label.map direction with
  | [] => true
  | first :: rest =>
    let rest := (rest.reverse.dropWhile (· == "NSM")).reverse
    let neutral := ["EN", "ES", "CS", "ET", "ON", "BN", "NSM"]
    match rest.getLast? with
    | none => ["L", "R", "AL"].contains first
    | some last =>
      if first == "L" then
        ["L", "EN"].contains last && rest.dropLast.all fun d => d == "L" || neutral.contains d
      else if first == "R" || first == "AL" then
        ["R", "AL", "EN", "AN"].contains last &&
          (rest.dropLast.all fun d => isRightToLeft d || neutral.contains d) &&
          !(rest.contains "EN" && rest.contains "AN")
      else false

/-- A label as it is looked up. -/
def encodeLabel? (label : List Char) : Option (List Char) :=
  if label.all (·.toNat < 0x80) then some label
  else if 1000 < label.length then none
  else some (punycodeMark ++ Punycode.encode label)

/-- The form of a domain name that is looked up. -/
def toAscii? (name : List Char) : Option (List Char) := do
  let mapped ← map? name
  let labels ← ((normalize mapped).splitOnP (· == '.')).mapM decodeLabel?
  if labels.any (·.any fun c => isRightToLeft (direction c)) && !labels.all directionsOk then none
  else
    let encoded ← labels.mapM encodeLabel?
    some (['.'].intercalate encoded)

end Repeater.Idna
