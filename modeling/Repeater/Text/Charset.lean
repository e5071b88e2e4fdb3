import Repeater.Text.CodePages
import Repeater.Text.MediaType
import Repeater.Text.Utf8

/-!
# Character sets

Reads bytes as text in an alphabet that goes by a name. A byte order mark at the start decides the
alphabet, whatever the name, and is no part of the text. Bytes that stand for no character become
U+FFFD, and an unknown name stands for UTF-8.
-/

namespace Repeater.Text

/-- An alphabet. -/
inductive Charset where
  | utf8
  /-- Units of two bytes, the higher byte first or last. -/
  | utf16 (bigEndian : Bool)
  | page (p : CodePage)
  /-- The bytes from 128 on are characters without a meaning. -/
  | userDefined
  /-- A name that is known and not to be trusted. -/
  | refused
  deriving Repr

/-- Names of the alphabets that are no code pages. -/
def otherCharset? (label : String) : Option Charset :=
  if ["unicode-1-1-utf-8", "unicode11utf8", "unicode20utf8", "utf-8", "utf8",
      "x-unicode20utf8"].contains label then some .utf8
  else if ["csunicode", "iso-10646-ucs-2", "ucs-2", "unicode", "unicodefeff", "utf-16",
      "utf-16le"].contains label then some (.utf16 false)
  else if ["unicodefffe", "utf-16be"].contains label then some (.utf16 true)
  else if label = "x-user-defined" then some .userDefined
  else if ["csiso2022kr", "hz-gb-2312", "iso-2022-cn", "iso-2022-cn-ext", "iso-2022-kr",
      "replacement"].contains label then some .refused
  else none

/-- The alphabet of a name, in upper or lower case. -/
def Charset.ofName? (name : List Char) : Option Charset :=
  let blank (c : Char) : Bool := [' ', '\t', '\n', '\r', '\x0c'].contains c
  let label := String.ofList ((strip blank name).map Char.toLower)
  otherCharset? label <|> (codePages.find? fun p => p.labels.contains label).map .page

/-- The alphabet that a media type names. -/
def Charset.ofMediaType (s : String) : Charset :=
  ((mediaParameter? s.toList "charset").bind Charset.ofName?).getD .utf8

/-- The units of two bytes; none for a byte left over. -/
def units (bigEndian : Bool) : List UInt8 → List (Option Nat)
  | a :: b :: r =>
    some (if bigEndian then a.toNat * 256 + b.toNat else b.toNat * 256 + a.toNat) ::
      units bigEndian r
  | [_] => [none]
  | [] => []

/-- A character for each unit or pair of surrogates. -/
def ofUnits : List (Option Nat) → List Char
  | some high :: some low :: r =>
    if 0xD800 ≤ high ∧ high < 0xDC00 ∧ 0xDC00 ≤ low ∧ low < 0xE000 then
      Char.ofNat (0x10000 + (high - 0xD800) * 0x400 + (low - 0xDC00)) :: ofUnits r
    else single high :: ofUnits (some low :: r)
  | some unit :: r => single unit :: ofUnits r
  | none :: r => replacement :: ofUnits r
  | [] => []
where
  single (unit : Nat) : Char :=
    if 0xD800 ≤ unit ∧ unit < 0xE000 then replacement else Char.ofNat unit

/-- Reads bytes in an alphabet. -/
def Charset.decode (c : Charset) (bytes : List UInt8) : List Char :=
  match c with
  | .utf8 => decodeBytes bytes
  | .utf16 bigEndian => ofUnits (units bigEndian bytes)
  | .page p => bytes.map p.decode
  | .userDefined => bytes.map fun b =>
      if b < 128 then Char.ofUInt8 b else Char.ofNat (0xF700 + b.toNat)
  | .refused => if bytes.isEmpty then [] else [replacement]

/-- Takes a byte order mark off, and tells the alphabet that it stands for. -/
def byteOrderMark (c : Charset) : List UInt8 → Charset × List UInt8
  | 0xEF :: 0xBB :: 0xBF :: r => (.utf8, r)
  | 0xFF :: 0xFE :: r => (.utf16 false, r)
  | 0xFE :: 0xFF :: r => (.utf16 true, r)
  | bytes => (c, bytes)

/-- Reads bytes as text, in the given alphabet unless a byte order mark tells another. -/
def decodeAs (c : Charset) (bytes : ByteArray) : String :=
  let (c, bytes) := byteOrderMark c bytes.toList
  String.ofList (c.decode bytes)

end Repeater.Text
