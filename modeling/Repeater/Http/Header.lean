import Repeater.Text.Utf8

/-!
# Header fields

A field is a lower-case name and the bytes of its value; a name may occur more than once, and the
values of one name keep their order.

* `Headers.get?` is the first value of a name, `Headers.values` all of them;
* `Headers.erase` and `Headers.set` change one name and leave the others as they are;
* `visible?` is the text of a value that holds printable ASCII and tabs only.
-/

namespace Repeater.Http

/-- A field of a message head; the name is in lower case. -/
structure Header where
  name : String
  value : ByteArray
  deriving DecidableEq

/-- The fields of a message head in order of arrival. -/
abbrev Headers := List Header

namespace Headers

/-- The values of a name in order. -/
def values (hs : Headers) (name : String) : List ByteArray :=
  (hs.filter fun h => h.name == name).map Header.value

/-- The first value of a name. -/
def get? (hs : Headers) (name : String) : Option ByteArray :=
  (hs.values name).head?

/-- Whether a name occurs. -/
def has (hs : Headers) (name : String) : Bool :=
  hs.any fun h => h.name == name

/-- The fields of other names. -/
def erase (hs : Headers) (name : String) : Headers :=
  hs.filter fun h => h.name != name

/-- Replaces all values of a name by one. -/
def set (hs : Headers) (name : String) (value : ByteArray) : Headers :=
  hs.erase name ++ [⟨name, value⟩]

/-- The fields sorted by name, the values of one name in order. -/
def sorted (hs : Headers) : Headers :=
  hs.mergeSort fun a b => !(b.name < a.name)

theorem values_erase (hs : Headers) {name other : String} (h : other ≠ name) :
    (hs.erase name).values other = hs.values other := by
  simp only [values, erase, List.filter_filter]
  congr 1
  apply List.filter_congr
  intro x _
  by_cases hx : x.name = other
  · simp [hx, h]
  · simp [hx]

theorem values_erase_self (hs : Headers) (name : String) : (hs.erase name).values name = [] := by
  simp [values, erase, List.filter_filter]

end Headers

/-- Printable ASCII or a tab. -/
def isVisible (b : UInt8) : Bool :=
  (0x20 ≤ b && b < 0x7f) || b == 9

/-- The text of a value that holds printable ASCII and tabs only. -/
def visible? (value : ByteArray) : Option String :=
  if value.toList.all isVisible then Text.utf8? value else none

end Repeater.Http
