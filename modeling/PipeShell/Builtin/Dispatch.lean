import PipeShell.Builtin.Dragon
import PipeShell.System.Context

/-!
# Built-ins

Commands that a shell carries out itself. They are recognised only where they stand alone, without
redirects. What a built-in has to say is sent in one piece and flushed; a failed `cd` is reported
there and is no failure of the command. `exit` and `stop-server` leave the deed to the caller.
-/

set_option autoImplicit false

namespace PipeShell

/-- A command of the shell's own. -/
inductive Builtin where
  /-- Changes the directory. -/
  | cd
  /-- Draws a dragon. -/
  | dragon
  /-- Ends the session. -/
  | exit
  /-- Shows the status of the last pipeline. -/
  | rc
  /-- Stops the server. -/
  | stopServer
  deriving DecidableEq, Repr

/-- The word that ends a session. -/
def exitWord : String := "exit"

/-- The word that stops a server. -/
def stopServerWord : String := "stop-server"

/-- How a built-in is called. -/
def Builtin.name : Builtin → String
  | cd => "cd"
  | dragon => "dragon"
  | exit => exitWord
  | rc => "rc"
  | stopServer => stopServerWord

/-- The built-ins that a shell offers, in the order of their names. -/
abbrev BuiltinSet := List Builtin

namespace BuiltinSet

/-- What a shell at a terminal offers. -/
def atTerminal : BuiltinSet := [.cd, .dragon, .exit, .rc]

/-- What a server offers its clients. -/
def forClients : BuiltinSet := [.cd, .dragon, .exit, .rc, .stopServer]

/-- The built-in with the given name, if it is offered. -/
def find? (offered : BuiltinSet) (name : Text) : Option Builtin :=
  List.find? (fun b => b.name.toList == name) offered

/-- The names on offer. -/
def names (offered : BuiltinSet) : List String := List.map Builtin.name offered

end BuiltinSet

/-- What the caller has to do after a built-in. -/
inductive ControlAction where
  | exitSession
  | stopServer
  deriving DecidableEq, Repr

/-- What came of looking for a built-in. -/
inductive Dispatch where
  /-- The pipeline is none. -/
  | notBuiltin
  /-- It was carried out. -/
  | executed
  /-- The caller has to act. -/
  | control (action : ControlAction)
  deriving DecidableEq, Repr

/-- Why a built-in failed. -/
inductive BuiltinError where
  /-- It was called with a redirect. -/
  | redirection
  /-- What it had to say could not be sent. -/
  | output (failure : Failure)
  deriving DecidableEq, Repr

/-- The wording of an error. -/
def BuiltinError.message : BuiltinError → Text
  | redirection => "error: redirection not supported for built-in commands".toList
  | output f => "error: failed to write built-in output: ".toList ++ f.message

namespace Builtin

variable {σ : Type} (host : Host σ)

/-- What a built-in is to answer, and the state after it. -/
structure Reply (σ : Type) where
  dispatch : Dispatch := .executed
  text : Text := []
  context : Context
  world : World σ

/-- Changes the directory to the first argument, if there is one. -/
def changeDirectory (args : List Text) (c : Context) (world : World σ) : Reply σ :=
  match args with
  | [] => { context := c, world }
  | target :: _ =>
    match c.changeDirectory host target world with
    | (.ok (), context, world) => { context, world }
    | (.error f, context, world) =>
      { text := "cd: ".toList ++ target ++ ": ".toList ++ f.message ++ ['\n'], context, world }

/-- Carries out a built-in. -/
def act (b : Builtin) (args : List Text) (c : Context) (world : World σ) : Reply σ :=
  match b with
  | cd => changeDirectory host args c world
  | dragon => { text := Dragon.picture, context := c, world }
  | exit => { dispatch := .control .exitSession, context := c, world }
  | rc => { text := Numeral.ofInt (c.lastStatus world) ++ ['\n'], context := c, world }
  | stopServer => { dispatch := .control .stopServer, context := c, world }

end Builtin

/-- Carries out a pipeline that is a built-in, sending what it says to a sink. -/
def dispatch {σ : Type} (host : Host σ) (offered : BuiltinSet) (pipeline : Pipeline) (c : Context)
    (world : World σ) (out : Sink) :
    Except BuiltinError Dispatch × Context × World σ × Sink :=
  match Pipeline.single? pipeline with
  | none => (.ok .notBuiltin, c, world, out)
  | some command =>
    match offered.find? command.name with
    | none => (.ok .notBuiltin, c, world, out)
    | some b =>
      if command.hasRedirects then (.error .redirection, c, world, out)
      else
        let reply := b.act host command.args c world
        match out.send [Utf8.encode reply.text] with
        | (.error f, out) => (.error (.output f), reply.context, reply.world, out)
        | (.ok (), out) => (.ok reply.dispatch, reply.context, reply.world, out)

end PipeShell
