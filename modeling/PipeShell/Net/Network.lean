import PipeShell.Net.Address
import PipeShell.Stream.Failure

/-!
# Networks

What a network answers to those who want to listen or to connect. A listener takes an address that
nobody holds; port zero stands for any free port. A connection goes to an address, or to a host by
name; `HOST:PORT` is read as a numeric address first and else cut at its last colon.
-/

set_option autoImplicit false

namespace PipeShell

/-- Why a name leads to no address. -/
inductive LookupFault where
  | unknownName
  | noAnswer
  | nulInName
  deriving DecidableEq, Repr

/-- The wording of a fault. -/
def LookupFault.message : LookupFault → Text
  | unknownName =>
    "failed to lookup address information: Name or service not known".toList
  | noAnswer =>
    "failed to lookup address information: Temporary failure in name resolution".toList
  | nulInName => Failure.nulInPath.message

/-- A network. -/
structure Network where
  /-- The address behind a name. -/
  lookUp : Text → Except LookupFault IpAddress
  /-- Can an address be reached? -/
  reach : SocketAddress → Except Failure Unit

/-- Why a connection was not made. -/
inductive ConnectError where
  /-- The text has no colon. -/
  | invalidAddress
  | invalidPort
  | lookup (fault : LookupFault)
  | unreachable (failure : Failure)
  deriving DecidableEq, Repr

namespace ConnectError

/-- What the user is told. -/
def message : String := "failed to connect to server"

/-- What lies behind it. -/
def cause : ConnectError → Text
  | invalidAddress => "invalid socket address".toList
  | invalidPort => "invalid port value".toList
  | lookup fault => fault.message
  | unreachable f => f.message

end ConnectError

namespace Network

/-- A text cut at its last colon. -/
def cutAtLastColon (t : Text) : Option (Text × Text) :=
  let behind := t.reverse.takeWhile (· != ':')
  match t.reverse.dropWhile (· != ':') with
  | [] => none
  | _ :: front => some (front.reverse, behind.reverse)

/-- The address that `HOST:PORT` stands for. -/
def resolve (n : Network) (t : Text) : Except ConnectError SocketAddress :=
  match SocketAddress.parse? t with
  | some address => .ok address
  | none =>
    match cutAtLastColon t with
    | none => .error .invalidAddress
    | some (name, port) =>
      match Numeral.read? portBound port with
      | none => .error .invalidPort
      | some port =>
        match n.lookUp name with
        | .error fault => .error (.lookup fault)
        | .ok ip => .ok ⟨ip, port⟩

/-- Connects to an address. -/
def connectTo (n : Network) (address : SocketAddress) : Except ConnectError Unit :=
  (n.reach address).mapError .unreachable

/-- Connects to `HOST:PORT`. -/
def connect (n : Network) (t : Text) : Except ConnectError SocketAddress :=
  match n.resolve t with
  | .error e => .error e
  | .ok address => (n.connectTo address).map fun _ => address

/-- Why a machine without routes does not reach an address. -/
def unreached (ip : IpAddress) : Errno :=
  match ip with
  | .v4 _ => Errno.networkUnreachable
  | .v6 _ =>
    if ip.isMapped || ip.isMulticast then Errno.networkUnreachable
    else if ip.isLinkLocal then Errno.invalidArgument
    else Errno.addressUnavailable

/-- The network of a machine without routes: it knows itself by name and numeric addresses, and
reaches nobody, not even itself. -/
def isolated : Network where
  lookUp name :=
    if name.contains (Char.ofNat 0) then .error .nulInName
    else match (IpAddress.parse? name).orElse fun _ => IpAddress.loose? name with
      | some ip => .ok ip
      | none =>
        if name.map Char.toLower = "localhost".toList then .ok (.v4 [127, 0, 0, 1])
        else if name.isEmpty then .error .unknownName
        else .error .noAnswer
  reach address := .error (.system (unreached address.ip))

end Network

/-- Why an address was not taken. -/
structure BindError where
  address : SocketAddress
  failure : Failure
  deriving DecidableEq, Repr

/-- What the user is told. -/
def BindError.message (e : BindError) : Text := "failed to bind ".toList ++ e.address.text

/-- The addresses that listeners hold. -/
abbrev Listeners := List SocketAddress

namespace Listeners

/-- The first port given to a listener that asks for any. -/
def firstFreePort : Nat := 32768

/-- Do two addresses get in each other's way? -/
def conflict (a b : SocketAddress) : Bool :=
  a.port == b.port && (a.ip == b.ip || a.ip.isUnspecified || b.ip.isUnspecified)

/-- The first of `n` ports from `port` on that nobody holds. -/
def freePort? (held : Listeners) : Nat → Nat → Option Nat
  | 0, _ => none
  | n + 1, port => if held.any (·.port == port) then freePort? held n (port + 1) else some port

/-- The number below which a port is kept for the system, port zero apart. -/
def firstPublicPort : Nat := 1024

/-- Why a machine refuses an address to everybody. -/
def refusal? (a : SocketAddress) : Option Errno :=
  if a.ip.isMulticast then some Errno.invalidArgument
  else if 0 < a.port ∧ a.port < firstPublicPort then some Errno.accessDenied
  else match a.ip with
    | .v4 _ => none
    | .v6 _ =>
      if a.ip.isUnspecified || a.ip.isMapped then none
      else if a.ip.isLinkLocal then some Errno.invalidArgument
      else some Errno.addressUnavailable

/-- Takes an address, or one with a free port for port zero. -/
def bind (held : Listeners) (a : SocketAddress) : Except BindError SocketAddress × Listeners :=
  let wanted := if a.port = 0 then
      (freePort? held (portBound - firstFreePort) firstFreePort).map fun port => { a with port }
    else some a
  match refusal? a, wanted with
  | some e, _ => (.error ⟨a, .system e⟩, held)
  | none, none => (.error ⟨a, .system Errno.addressInUse⟩, held)
  | none, some a =>
    if held.any (conflict a) then (.error ⟨a, .system Errno.addressInUse⟩, held)
    else (.ok a, held ++ [a])

end Listeners

end PipeShell
