import PipeShell.Net.Address
import PipeShell.System.Context
import PipeShell.Limits

/-!
# Settings of a server

Where a server listens, whether each client has a worker of its own, the limits in force and the
scope of working directory and status. The environment sets limits and scope; the arguments of the
command line set the rest. Arguments are read from left to right and the first that does not fit is
reported; whatever follows an option is its value.
-/

set_option autoImplicit false

namespace PipeShell

/-- The settings of a server. -/
structure ServerConfig where
  /-- The address of the interface. -/
  interface : IpAddress := .v4 [0, 0, 0, 0]
  port : Nat := 1234
  /-- Does each client have a worker of its own? -/
  threaded : Bool := false
  limits : Limits := {}
  scope : Scope := .connection
  deriving DecidableEq, Repr

namespace ServerConfig

/-- The variable that sets the scope. -/
def scopeVariable : String := "RDSH_STATE_SCOPE"

/-- The defaults, with what the environment says in place of some. -/
def ofEnvironment (env : Environment) : ServerConfig :=
  { limits := Limits.ofEnvironment env
    scope := ((env.text? scopeVariable).bind Scope.parse?).getD .connection }

/-- Where the server listens. -/
def address (c : ServerConfig) : SocketAddress := ⟨c.interface, c.port⟩

/-- Why an argument does not fit. -/
inductive ArgumentError where
  | missingInterface
  | invalidInterface (value : Text)
  | missingPort
  | invalidPort (value : Text)
  | unknownOption (option : Text)
  deriving DecidableEq, Repr

/-- The wording of an error. -/
def ArgumentError.message : ArgumentError → Text
  | missingInterface => "-i needs an interface".toList
  | invalidInterface value => "invalid interface '".toList ++ value ++ ['\'']
  | missingPort => "-p needs a port".toList
  | invalidPort value => "invalid port '".toList ++ value ++ ['\'']
  | unknownOption option => "unknown option '".toList ++ option ++ ['\'']

/-- Reads the options of a command line behind settings already made. No settings are given when
help is asked for. -/
def withArguments (c : ServerConfig) : List Text → Except ArgumentError (Option ServerConfig)
  | [] => .ok (some c)
  | option :: rest =>
    if option = "-i".toList then
      match rest with
      | [] => .error .missingInterface
      | value :: rest =>
        match IpAddress.parse? value with
        | some interface => withArguments { c with interface } rest
        | none => .error (.invalidInterface value)
    else if option = "-p".toList then
      match rest with
      | [] => .error .missingPort
      | value :: rest =>
        match Numeral.read? portBound value with
        | some port => withArguments { c with port } rest
        | none => .error (.invalidPort value)
    else if option = "-x".toList then withArguments { c with threaded := true } rest
    else if option = "-h".toList ∨ option = "--help".toList then .ok none
    else .error (.unknownOption option)

end ServerConfig

end PipeShell
