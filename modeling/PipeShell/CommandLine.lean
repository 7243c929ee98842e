import PipeShell.Net.Network
import PipeShell.Server.Config
import PipeShell.Shell.Local
import PipeShell.Shell.Remote

/-!
# The two command lines

`rdsh` is the shell, local or remote; `rdshd` is the server. Each reads its arguments from left to
right. The first that does not fit is reported on the error channel, with the help on the output
unless it is an option whose value is missing at the shell. A failure is reported with its cause.
-/

set_option autoImplicit false

namespace PipeShell.CommandLine

/-- The version of both programs. -/
def version : String := "0.1.0"

/-- Lines as a text. -/
def text (lines : List String) : Text := lines.flatMap fun line => line.toList ++ ['\n']

/-- The help of the shell. -/
def shellHelp : Text := text
  ["rdsh v" ++ version ++ " - local and remote shell",
    "",
    "Usage:",
    "  rdsh                Start the local shell",
    "  rdsh -c HOST:PORT   Connect to an rdshd server",
    "  rdsh -h, --help     Show this help message",
    "",
    "Built-ins: cd, dragon, exit, rc (stop-server when remote)"]

/-- The help of the server. -/
def serverHelp : Text := text
  ["rdshd v" ++ version,
    "",
    "Usage: rdshd [-i IFACE] [-p PORT] [-x]",
    "",
    "Options:",
    "  -i IFACE    Interface address to bind (default 0.0.0.0)",
    "  -p PORT     Port to listen on (default 1234)",
    "  -x          Serve each client on its own thread",
    "  -h, --help  Show this help message",
    "",
    "Environment:",
    "  RDSH_MAX_COMMANDS   Pipeline length limit (default 8)",
    "  RDSH_MAX_REQUEST    Request size limit in bytes (default 65536)",
    "  RDSH_STATE_SCOPE    connection (default) or process",
    "  RUST_LOG            Log filter (default info)"]

/-- What the shell is called for. -/
inductive ShellPlan where
  | help
  | console
  | connect (address : Text)
  deriving DecidableEq, Repr

/-- Why the shell's arguments do not fit. -/
inductive ShellArgumentError where
  | missingAddress
  | unknownOption (option : Text)
  deriving DecidableEq, Repr

/-- The wording of an error. -/
def ShellArgumentError.message : ShellArgumentError → Text
  | missingAddress => "-c needs HOST:PORT".toList
  | unknownOption option => "unknown option '".toList ++ option ++ ['\'']

/-- Reads the arguments of the shell behind an address already given. -/
def ShellPlan.ofArguments (address : Option Text) :
    List Text → Except ShellArgumentError ShellPlan
  | [] => .ok (match address with
    | some a => .connect a
    | none => .console)
  | option :: rest =>
    if option = "-c".toList then
      match rest with
      | [] => .error .missingAddress
      | a :: rest => ofArguments (some a) rest
    else if option = "-h".toList ∨ option = "--help".toList then .ok .help
    else .error (.unknownOption option)

/-- How a program ended, and its terminal after it. -/
structure Ended where
  code : Nat
  terminal : Terminal

/-- Ends with a text on the output. -/
def finish (code : Nat) (out : Text) (t : Terminal) : Ended :=
  { code, terminal := t.write .output (Utf8.encode out) }

/-- Ends with a report of a failure, and its cause if it has one. -/
def fail (message : Text) (cause : Option Text) (t : Terminal) : Ended :=
  let behind := match cause with
    | some c => "\n\nCaused by:\n    ".toList ++ c
    | none => []
  { code := 1, terminal := t.report .error ("Error: ".toList ++ message ++ behind) }

/-- The code that a process ends with for a status. -/
def exitCode (status : Status) : Nat := (status % 256).toNat

/-- The far ends that the shell can reach. -/
structure Outside (τ : Type) where
  network : Network
  /-- The connection to an address that can be reached. -/
  client : SocketAddress → Client τ
  peer : Peer τ

/-- The remote shell at a terminal. -/
def runRemote {τ : Type} (outside : Outside τ) (address : Text) (t : Terminal) : Ended :=
  match outside.network.connect address with
  | .error e => fail ConnectError.message.toList (some e.cause) t
  | .ok a =>
    let start : RemoteShell.State τ :=
      { client := outside.client a, lines := { source := t.input }, out := t.output }
    let (result, s) := RemoteShell.run outside.peer start
    let t := { t with input := s.lines.source, output := s.out }
    match result with
    | .ok () => { code := 0, terminal := t }
    | .error fault => fail fault.message none t

/-- The local shell at a terminal, and what becomes of the system. Processes that it leaves behind
may go on writing to its terminal. -/
def runLocal {σ : Type} (host : Host σ) (env : Environment) (t : Terminal) (world : World σ) :
    Ended × World σ :=
  let shell : Shell σ := { context := Context.start host .connection world, world, terminal := t }
  let i : Interpreter := { limits := Limits.ofEnvironment env, offered := BuiltinSet.atTerminal }
  let (result, s) := LocalShell.run host i { shell, dialogue := {} }
  let ended : Ended := match result with
    | .ok status => { code := exitCode status, terminal := s.shell.terminal }
    | .error f => fail f.message none s.shell.terminal
  let (conduct, system) := host.linger ended.terminal s.shell.world.system
  ({ ended with terminal := ended.terminal.undergo conduct }, { s.shell.world with system })

/-- The shell. -/
def runShell {σ τ : Type} (host : Host σ) (outside : Outside τ) (env : Environment)
    (args : List Text) (t : Terminal) (world : World σ) : Ended × World σ :=
  match ShellPlan.ofArguments none args with
  | .error .missingAddress => (fail ShellArgumentError.missingAddress.message none t, world)
  | .error e => (finish 1 shellHelp (fail e.message none t).terminal, world)
  | .ok .help => (finish 0 shellHelp t, world)
  | .ok .console => runLocal host env t world
  | .ok (.connect a) => (runRemote outside a t, world)

/-- What the server does before it waits for clients. -/
inductive ServerStart where
  | ended (how : Ended)
  /-- It listens at an address. -/
  | listening (config : ServerConfig) (address : SocketAddress) (terminal : Terminal)

/-- Starts the server. -/
def startServer (held : Listeners) (env : Environment) (args : List Text) (t : Terminal) :
    ServerStart :=
  match (ServerConfig.ofEnvironment env).withArguments args with
  | .error e => .ended (finish 1 serverHelp (fail e.message none t).terminal)
  | .ok none => .ended (finish 0 serverHelp t)
  | .ok (some config) =>
    match held.bind config.address with
    | (.error e, _) => .ended (fail e.message (some e.failure.message) t)
    | (.ok a, _) =>
      let banner := "rdshd listening on ".toList ++ a.text ++ ['\n']
      .listening config a (t.write .output (Utf8.encode banner))

end PipeShell.CommandLine
