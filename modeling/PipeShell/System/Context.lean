import PipeShell.System.Host
import PipeShell.System.Path

/-!
# Working directory and last status

Two values outlive a line: the directory in which pipelines run and the status of the last one. A
context of connection scope holds both itself. Contexts of process scope share them: the directory
is the system's own and the status is one for all. A change of directory that fails is reported; the
path of a successful one is without links.
-/

set_option autoImplicit false

namespace PipeShell

/-- Who shares directory and status. -/
inductive Scope where
  /-- Nobody: each connection has its own. -/
  | connection
  /-- All contexts of the process. -/
  | process
  deriving DecidableEq, Repr

/-- Reads a scope; case and outer blanks do not matter. -/
def Scope.parse? (t : Text) : Option Scope :=
  let word := (Text.trim t).map Char.toLower
  if word = "connection".toList ∨ word = "session".toList then some .connection
  else if word = "process".toList ∨ word = "global".toList then some .process
  else none

/-- The directory and the status that one shell or connection works with. -/
structure Context where
  scope : Scope := .connection
  /-- The directory, or under process scope the last one known. -/
  directory : Text
  /-- The status, or under process scope a value never read. -/
  status : Status := 0
  deriving DecidableEq, Repr

namespace Context

variable {σ : Type} (host : Host σ)

/-- A context that starts in the system's own directory, or at the root if there is none. -/
def start (scope : Scope) (world : World σ) : Context :=
  { scope, directory := (host.currentDirectory world.system).toOption.getD ['/'] }

/-- A context of connection scope in the given directory. -/
def inDirectory (directory : Text) : Context := { directory }

/-- The directory in force. -/
def currentDirectory (c : Context) (world : World σ) : Text :=
  match c.scope with
  | .connection => c.directory
  | .process => (host.currentDirectory world.system).toOption.getD c.directory

/-- A path seen from the directory in force. -/
def resolve (c : Context) (world : World σ) (path : Text) : Text :=
  Path.join (c.currentDirectory host world) path

/-- Moves to another directory. -/
def changeDirectory (target : Text) (c : Context) (world : World σ) :
    Except Failure Unit × Context × World σ :=
  let path := c.resolve host world target
  match c.scope with
  | .connection =>
    match host.canonicalize path world.system with
    | .error f => (.error f, c, world)
    | .ok directory =>
      if host.isDirectory directory world.system then (.ok (), { c with directory }, world)
      else (.error .notDirectory, c, world)
  | .process =>
    match host.changeDirectory path world.system with
    | (.error f, system) => (.error f, c, { world with system })
    | (.ok (), system) =>
      match host.currentDirectory system with
      | .error f => (.error f, c, { world with system })
      | .ok directory => (.ok (), { c with directory }, { world with system })

/-- The status of the last pipeline. -/
def lastStatus (c : Context) (world : World σ) : Status :=
  match c.scope with
  | .connection => c.status
  | .process => world.sharedStatus

/-- Records the status of a pipeline. -/
def setStatus (status : Status) (c : Context) (world : World σ) : Context × World σ :=
  match c.scope with
  | .connection => ({ c with status }, world)
  | .process => (c, { world with sharedStatus := status })

end Context

/-- A shell at work: its context, the system around it and its terminal. -/
structure Shell (σ : Type) where
  context : Context
  world : World σ
  terminal : Terminal

namespace Shell

variable {σ : Type} (host : Host σ)

/-- Applies an operation of the system. -/
def withSystem (s : Shell σ) (system : σ) : Shell σ :=
  { s with world := { s.world with system } }

/-- The directory in force. -/
def directory (s : Shell σ) : Text := s.context.currentDirectory host s.world

/-- The status of the last pipeline. -/
def lastStatus (s : Shell σ) : Status := s.context.lastStatus s.world

/-- Records the status of a pipeline. -/
def setStatus (status : Status) (s : Shell σ) : Shell σ :=
  let (context, world) := s.context.setStatus status s.world
  { s with context, world }

/-- How much input the terminal still holds. -/
def unread (s : Shell σ) : Nat := s.terminal.input.size

@[simp] theorem withSystem_unread (s : Shell σ) (system : σ) :
    (s.withSystem system).unread = s.unread := rfl

@[simp] theorem setStatus_unread (s : Shell σ) (status : Status) :
    (s.setStatus status).unread = s.unread := rfl

end Shell

end PipeShell
