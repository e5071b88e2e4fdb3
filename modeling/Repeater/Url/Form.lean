import Repeater.Text.Blank
import Repeater.Url.Percent

/-!
# Form encoding

Names and values in a query: pairs are joined by `&`, a name and its value by `=`, a space is written
as `+`, and all other characters but a few are percent encoded.

* `formEncode` writes a text, `formDecode` reads one;
* `formPairs` reads a query.
-/

namespace Repeater.Url

/-- A byte that stands for itself in a form. -/
def isFormByte (b : UInt8) : Bool :=
  let c := Char.ofUInt8 b
  c.isAlphanum || c == '*' || c == '-' || c == '.' || c == '_'

/-- A byte in a form. -/
def formByte (b : UInt8) : List Char :=
  if b == 32 then ['+']
  else if isFormByte b then [Char.ofUInt8 b]
  else percentByte b

/-- Writes a text for a form. -/
def formEncode (s : List Char) : List Char :=
  (bytesOf s).flatMap formByte

/-- Reads a text of a form. -/
def formDecode (s : List Char) : List Char :=
  Text.decodeBytes (percentDecode (bytesOf (s.map fun c => if c = '+' then ' ' else c)))

/-- Reads a query: its names and values in order. A name without a value has an empty one. -/
def formPairs (query : List Char) : List (List Char × List Char) :=
  ((query.splitOnP (· == '&')).filter fun p => !p.isEmpty).map fun p =>
    let (name, value) := (Text.cutFirst (· == '=') p).getD (p, [])
    (formDecode name, formDecode value)

/-- Writes one pair. -/
def formPair (name value : List Char) : List Char :=
  formEncode name ++ '=' :: formEncode value

end Repeater.Url
