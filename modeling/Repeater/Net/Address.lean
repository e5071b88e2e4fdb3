/-!
# Addresses

The numeric addresses of the internet and their texts.

* `Ipv4.parse?` and `Ipv6.parse?` read the strict forms; `Ipv6` may end in an IPv4 address and may
  leave out one run of zero groups;
* `SocketAddress.parse?` reads an address with a port, an IPv6 address in brackets and with an
  optional scope;
* `Ipv4.text` and `Ipv6.text` write the canonical forms.
-/

namespace Repeater.Net

/-- An IPv4 address, most significant part first. -/
structure Ipv4 where
  a : UInt8
  b : UInt8
  c : UInt8
  d : UInt8
  deriving DecidableEq, Repr, Inhabited

/-- An IPv6 address as its eight groups. -/
structure Ipv6 where
  groups : Vector UInt16 8
  deriving DecidableEq, Repr

/-- An address of either family; IPv6 addresses carry a scope, zero for none. -/
inductive Host where
  | v4 (ip : Ipv4)
  | v6 (ip : Ipv6) (scope : UInt32)
  deriving DecidableEq, Repr

/-- An address and a port. -/
structure SocketAddress where
  host : Host
  port : UInt16
  deriving DecidableEq, Repr

-- ---------------------------------------------------------------------------
-- Reading
-- ---------------------------------------------------------------------------

/-- The value of a digit in a base up to 16. -/
def digit? (base : Nat) (c : Char) : Option Nat :=
  let v :=
    if c.isDigit then c.toNat - '0'.toNat
    else if 'a' ≤ c ∧ c ≤ 'f' then c.toNat - 'a'.toNat + 10
    else if 'A' ≤ c ∧ c ≤ 'F' then c.toNat - 'A'.toNat + 10
    else base
  if v < base then some v else none

/-- Splits off the digits at the start of a text: how many there are and their number. -/
def number (base : Nat) (s : List Char) : Nat × Nat × List Char :=
  go 0 0 s
where
  go (count value : Nat) : List Char → Nat × Nat × List Char
    | [] => (count, value, [])
    | c :: r =>
      match digit? base c with
      | some v => go (count + 1) (value * base + v) r
      | none => (count, value, c :: r)

/-- Reads a decimal part of an IPv4 address: up to three digits, at most 255, no leading zero. -/
def octet? (s : List Char) : Option (UInt8 × List Char) :=
  let (count, value, r) := number 10 s
  if count = 0 ∨ 3 < count ∨ 255 < value then none
  else if 1 < count ∧ s.head? = some '0' then none
  else some (value.toUInt8, r)

/-- Reads an IPv4 address at the start of a text. -/
def Ipv4.read? (s : List Char) : Option (Ipv4 × List Char) := do
  let (a, r) ← octet? s
  let (b, r) ← dot r
  let (c, r) ← dot r
  let (d, r) ← dot r
  some (⟨a, b, c, d⟩, r)
where
  dot : List Char → Option (UInt8 × List Char)
    | '.' :: r => octet? r
    | _ => none

/-- Reads a whole text as an IPv4 address. -/
def Ipv4.parse? (s : List Char) : Option Ipv4 :=
  match Ipv4.read? s with
  | some (ip, []) => some ip
  | _ => none

/-- Reads one group of an IPv6 address: up to four hexadecimal digits. -/
def group? (s : List Char) : Option (UInt16 × List Char) :=
  let (count, value, r) := number 16 s
  if count = 0 ∨ 4 < count then none else some (value.toUInt16, r)

/-- The two groups of an IPv4 address. -/
def Ipv4.groups (ip : Ipv4) : List UInt16 :=
  [ip.a.toUInt16 * 256 + ip.b.toUInt16, ip.c.toUInt16 * 256 + ip.d.toUInt16]

/-- Reads at most `limit` groups with a colon between them; an IPv4 address may take the place of the
last two. Says whether it did. `first` is false when a colon must come first. -/
def readGroups (first : Bool) (limit : Nat) (s : List Char) : List UInt16 × Bool × List Char :=
  match limit with
  | 0 => ([], false, s)
  | limit + 1 =>
    let body : Option (List Char) := if first then some s else
      match s with
      | ':' :: r => some r
      | _ => none
    match body with
    | none => ([], false, s)
    | some t =>
      match (if 1 ≤ limit then Ipv4.read? t else none) with
      | some (ip, r) => (ip.groups, true, r)
      | none =>
        match group? t with
        | some (g, r) =>
          let (gs, v4, r) := readGroups false limit r
          (g :: gs, v4, r)
        | none => ([], false, s)

/-- The address of eight groups. -/
def Ipv6.ofGroups? (gs : List UInt16) : Option Ipv6 :=
  if h : gs.toArray.size = 8 then some ⟨⟨gs.toArray, h⟩⟩ else none

/-- Reads an IPv6 address at the start of a text. Where groups are left out at `::`, at least one is
missing. -/
def Ipv6.read? (s : List Char) : Option (Ipv6 × List Char) := do
  let (head, v4, r) := readGroups true 8 s
  if head.length = 8 then
    let ip ← Ipv6.ofGroups? head
    some (ip, r)
  else if v4 then none
  else match r with
    | ':' :: ':' :: r =>
      let (tail, _, r) := readGroups true (7 - head.length) r
      let ip ← Ipv6.ofGroups? (head ++ List.replicate (8 - head.length - tail.length) 0 ++ tail)
      some (ip, r)
    | _ => none

/-- Reads a whole text as an IPv6 address. -/
def Ipv6.parse? (s : List Char) : Option Ipv6 :=
  match Ipv6.read? s with
  | some (ip, []) => some ip
  | _ => none

/-- Reads a port at the end of a text, after its colon. Leading zeros are allowed. -/
def port? : List Char → Option UInt16
  | ':' :: r =>
    match number 10 r with
    | (0, _, _) => none
    | (_, value, []) => if value ≤ 65535 then some value.toUInt16 else none
    | _ => none
  | _ => none

/-- Reads a scope, which is a number of 32 bits after a percent sign. -/
def scope (s : List Char) : Option (UInt32 × List Char) :=
  match s with
  | '%' :: r =>
    match number 10 r with
    | (0, _, _) => none
    | (_, value, r) => if value < UInt32.size then some (value.toUInt32, r) else none
  | _ => some (0, s)

/-- Reads a whole text as an address and a port. -/
def SocketAddress.parse? (s : List Char) : Option SocketAddress :=
  match Ipv4.read? s with
  | some (ip, r) => (port? r).map fun port => ⟨.v4 ip, port⟩
  | none =>
    match s with
    | '[' :: r => do
      let (ip, r) ← Ipv6.read? r
      let (scope, r) ← scope r
      match r with
      | ']' :: r => (port? r).map fun port => ⟨.v6 ip scope, port⟩
      | _ => none
    | _ => none

-- ---------------------------------------------------------------------------
-- Writing
-- ---------------------------------------------------------------------------

/-- The four decimal parts with dots. -/
def Ipv4.text (ip : Ipv4) : List Char :=
  ".".intercalate [toString ip.a, toString ip.b, toString ip.c, toString ip.d] |>.toList

/-- The longest run of zero groups of at least two, the first of several: where it starts and its
length. -/
def Ipv6.zeroRun (gs : List UInt16) : Nat × Nat :=
  let runs := (List.range gs.length).map fun i => (i, ((gs.drop i).takeWhile (· == 0)).length)
  runs.foldl (fun best run => if best.2 < run.2 ∧ 2 ≤ run.2 then run else best) (0, 0)

/-- Groups in hexadecimal with colons between them. -/
def Ipv6.groupText (gs : List UInt16) : List Char :=
  (":".toList).intercalate (gs.map fun g => Nat.toDigits 16 g.toNat)

/-- The groups in lower-case hexadecimal, the longest run of at least two zero groups left out. -/
def Ipv6.text (ip : Ipv6) : List Char :=
  let gs := ip.groups.toList
  let (start, length) := Ipv6.zeroRun gs
  if length = 0 then Ipv6.groupText gs
  else Ipv6.groupText (gs.take start) ++ "::".toList ++ Ipv6.groupText (gs.drop (start + length))

end Repeater.Net
