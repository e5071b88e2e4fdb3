import Repeater.Net.Address
import Repeater.SystemError
import Repeater.Text.Blank

/-!
# Listening

At which addresses of this machine nobody can listen, and what becomes of the wish to listen at one
more. Two listeners get in each other's way if they have the same port and one address covers the
other; the address of all zeros covers every address.

* `Ports.listen` takes an address;
* `Ports.listenAt` takes a text, which need not be an address.
-/

namespace Repeater.Net

/-- The IPv4 address that an IPv6 address stands for. -/
def Ipv6.mapped? (ip : Ipv6) : Option (List UInt16) :=
  let gs := ip.groups.toList
  if gs.take 6 = [0, 0, 0, 0, 0, 0xffff] then some (gs.drop 6) else none

/-- The groups of an address; those of an IPv4 address also if it is written as IPv6. -/
def Host.groups : Host → List UInt16
  | .v4 ip => ip.groups
  | .v6 ip _ => ip.mapped?.getD ip.groups.toList

/-- Whether an address covers another: it is the same, or all zeros. IPv6 covers IPv4. -/
def Host.covers (a b : Host) : Bool :=
  let gs := a.groups
  gs == b.groups || (gs.all (· == 0) && b.groups.length ≤ gs.length)

/-- Whether two listeners get in each other's way. Port zero stands for any free port. -/
def SocketAddress.conflicts (a b : SocketAddress) : Bool :=
  a.port == b.port && a.port != 0 && (a.host.covers b.host || b.host.covers a.host)

/-- The text of an IPv6 address, with dots where it stands for an IPv4 address. -/
def Ipv6.dottedText (ip : Ipv6) : List Char :=
  match ip.mapped? with
  | some [a, b] =>
    let ip : Ipv4 := ⟨(a / 256).toUInt8, a.toUInt8, (b / 256).toUInt8, b.toUInt8⟩
    "::ffff:".toList ++ ip.text
  | _ => ip.text

/-- The address with its port; an IPv6 address stands in brackets, with its scope if it has one. -/
def SocketAddress.text (a : SocketAddress) : String :=
  let host := match a.host with
    | .v4 ip => ip.text
    | .v6 ip scope =>
      '[' :: ip.dottedText ++ (if scope = 0 then [] else '%' :: (toString scope).toList) ++ [']']
  String.ofList host ++ ":" ++ toString a.port

/-- The addresses at which nobody can listen, each with what the system says. -/
abbrev Ports := List (SocketAddress × SystemError)

/-- Why nobody can listen at what a text says. -/
inductive ListenFault where
  /-- There is no port. -/
  | noPort
  | badPort
  | unknownHost
  | system (error : SystemError)
  deriving DecidableEq, Repr

/-- The text shown for a fault. -/
def ListenFault.message : ListenFault → String
  | .noPort => "invalid socket address"
  | .badPort => "invalid port value"
  | .unknownHost => "failed to lookup address information: Name or service not known"
  | .system e => e.message

/-- The parts of a fault by name. -/
def ListenFault.details : ListenFault → String
  | .system e => e.details
  | .unknownHost =>
    "Custom \x7b kind: Uncategorized, error: " ++ Text.quote ListenFault.unknownHost.message ++ " \x7d"
  | f => "Error \x7b kind: InvalidInput, message: " ++ Text.quote f.message ++ " \x7d"

namespace Ports

/-- Listens at an address, which is in use from then on. -/
def listen (p : Ports) (a : SocketAddress) : Except SystemError Ports :=
  match p.find? fun q => q.1.conflicts a with
  | some (_, e) => .error e
  | none => .ok ((a, .inUse) :: p)

/-- The port at the end of a text, which may have a plus sign. -/
def trailingPort? (s : List Char) : Option UInt16 :=
  match s with
  | '+' :: r | r => Net.port? (':' :: r)

/-- What is wrong with a text that is no address. The one name that is known is that of this
machine. -/
def resolve? (s : List Char) : Except ListenFault SocketAddress :=
  match SocketAddress.parse? s with
  | some a => .ok a
  | none =>
    match Text.cutLast (· == ':') s with
    | none => .error .noPort
    | some (host, port) =>
      match trailingPort? port with
      | none => .error .badPort
      | some port =>
        if host = "localhost".toList then .ok ⟨.v4 ⟨127, 0, 0, 1⟩, port⟩ else .error .unknownHost

/-- Listens at what a text says. -/
def listenAt (p : Ports) (text : String) : Except ListenFault (SocketAddress × Ports) :=
  match resolve? text.toList with
  | .error e => .error e
  | .ok a =>
    match p.listen a with
    | .error e => .error (.system e)
    | .ok p => .ok (a, p)

end Ports

end Repeater.Net
