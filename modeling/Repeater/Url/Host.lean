import Repeater.Url.Percent
import Repeater.Idna.Domain
import Repeater.Net.Address

/-!
# Hosts of URLs

A host is a domain name or a numeric address. For a special scheme, a name is brought into the form
that is looked up, and one whose last label is a number must be an IPv4 address; other schemes take a
name as it is.
-/

namespace Repeater.Url

/-- Why a text is no URL. -/
inductive Fault where
  | relativeWithoutBase
  | emptyHost
  | invalidPort
  | invalidDomain
  | invalidIpv4
  | invalidIpv6
  | invalidDomainCharacter
  deriving DecidableEq, Repr

/-- The text shown for a fault. -/
def Fault.message : Fault → String
  | .relativeWithoutBase => "relative URL without a base"
  | .emptyHost => "empty host"
  | .invalidPort => "invalid port number"
  | .invalidDomain => "invalid international domain name"
  | .invalidIpv4 => "invalid IPv4 address"
  | .invalidIpv6 => "invalid IPv6 address"
  | .invalidDomainCharacter => "invalid domain character"

/-- A host. -/
inductive Host where
  | domain (name : List Char)
  | v4 (ip : Net.Ipv4)
  | v6 (ip : Net.Ipv6)
  deriving DecidableEq, Repr

/-- The text of a host in a URL. -/
def Host.text : Host → List Char
  | .domain name => name
  | .v4 ip => ip.text
  | .v6 ip => '[' :: ip.text ++ [']']

-- ---------------------------------------------------------------------------
-- IPv4 addresses in the forms that URLs allow
-- ---------------------------------------------------------------------------

/-- The number that a part of an IPv4 address writes in decimal, octal after `0`, or hexadecimal after
`0x`; `0x` alone is zero. -/
def ipv4Number? (part : List Char) : Option Nat :=
  let ofBase (base : Nat) (ds : List Char) : Option Nat :=
    ds.foldlM (fun n c => (Net.digit? base c).map (n * base + ·)) 0
  match part with
  | [] => none
  | '0' :: 'x' :: ds | '0' :: 'X' :: ds => ofBase 16 ds
  | '0' :: d :: ds => ofBase 8 (d :: ds)
  | ds => ofBase 10 ds

/-- The parts of a name between its dots, without an empty one at the end. -/
def hostParts (name : List Char) : List (List Char) :=
  let parts := name.splitOnP (· == '.')
  if parts.getLast? = some [] then parts.dropLast else parts

/-- Whether the last part of a name is a number, so that the name must be an address. -/
def endsInNumber (name : List Char) : Bool :=
  match (hostParts name).getLast? with
  | none => false
  | some part => (!part.isEmpty && part.all Char.isDigit) || (ipv4Number? part).isSome

/-- The address of up to four numbers; the last fills the bytes that are left. -/
def ipv4? (name : List Char) : Option Net.Ipv4 := do
  let numbers ← (hostParts name).mapM ipv4Number?
  let last ← numbers.getLast?
  let init := numbers.dropLast
  if 3 < init.length ∨ init.any (255 < ·) ∨ Nat.pow 256 (4 - init.length) ≤ last then none
  else
    let high := (init ++ List.replicate (4 - init.length) 0).foldl (fun n b => n * 256 + b) 0
    let n := high + last
    some ⟨(n / 16777216).toUInt8, (n / 65536).toUInt8, (n / 256).toUInt8, n.toUInt8⟩

-- ---------------------------------------------------------------------------
-- Reading a host
-- ---------------------------------------------------------------------------

/-- Reads an address in brackets, the opening one already found. -/
def bracketed (s : List Char) : Except Fault Host :=
  if s.getLast? = some ']' then
    match Net.Ipv6.parse? (s.drop 1).dropLast with
    | some ip => .ok (.v6 ip)
    | none => .error .invalidIpv6
  else .error .invalidIpv6

/-- Reads the host of a special scheme. -/
def Host.special (s : List Char) : Except Fault Host :=
  if s.head? = some '[' then bracketed s
  else
    match Text.utf8? (percentDecode (bytesOf s)).toByteArray with
    | none => .error .invalidDomain
    | some decoded =>
      match Idna.toAscii? decoded.toList with
      | none => .error .invalidDomain
      | some [] => .error .emptyHost
      | some name =>
        if endsInNumber name then
          match ipv4? name with
          | some ip => .ok (.v4 ip)
          | none => .error .invalidIpv4
        else .ok (.domain name)

/-- The characters that the host of other schemes may not hold. -/
def isForbiddenInHost (c : Char) : Bool :=
  ['\x00', '\t', '\n', '\r', ' ', '#', '/', ':', '<', '>', '?', '@', '[', '\\', ']', '^',
    '|'].contains c

/-- Reads the host of another scheme; it may be empty. -/
def Host.plain (s : List Char) : Except Fault Host :=
  if s.head? = some '[' then bracketed s
  else if s.any isForbiddenInHost then .error .invalidDomainCharacter
  else .ok (.domain (percentEncode isControl s))

end Repeater.Url
