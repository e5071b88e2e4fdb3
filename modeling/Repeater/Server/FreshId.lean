/-!
# Fresh request ids

A request that brings no id gets a random one: a UUID of version 4, made of sixteen random bytes.
-/

namespace Repeater.Server

/-- Two hexadecimal digits. -/
def hexPair (b : UInt8) : List Char :=
  [Nat.digitChar (b.toNat / 16), Nat.digitChar (b.toNat % 16)]

/-- The bytes with the version and the variant written into the seventh and the ninth. -/
def marked (bytes : List UInt8) : List UInt8 :=
  (bytes.modify 6 fun b => (b &&& 0x0f) ||| 0x40).modify 8 fun b => (b &&& 0x3f) ||| 0x80

/-- The id made of random bytes. -/
def freshId (random : List UInt8) : String :=
  let digits := (marked random).flatMap hexPair
  let groups := [(0, 8), (8, 4), (12, 4), (16, 4), (20, 12)]
  "-".intercalate (groups.map fun (start, length) =>
    String.ofList ((digits.drop start).take length))

end Repeater.Server
