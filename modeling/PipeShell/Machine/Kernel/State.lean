import PipeShell.Machine.FileSystem.Changes
import PipeShell.System.Host

/-!
# What the machine holds

The files, the open files, the pipes, the processes and, while processes run, the terminal they
share. A process refers to open files by slots; processes that share an open file share the place in
it. A pipe has a reader as long as anybody holds its reading end, and a writer likewise.
-/

set_option autoImplicit false

namespace PipeShell.Machine

/-- What is behind an open file. -/
inductive Object where
  | node (i : Inode)
  | terminal (side : TerminalEnd)
  /-- The reading end of a pipe. -/
  | pipeReader (pipe : Nat)
  /-- The writing end of a pipe. -/
  | pipeWriter (pipe : Nat)
  deriving DecidableEq, Repr

/-- An open file, with the place where it is read or written next. -/
structure OpenFile where
  object : Object
  offset : Nat := 0
  readable : Bool := false
  writable : Bool := false
  /-- Does every write go to the end? -/
  appends : Bool := false
  deriving Repr

/-- What a process has at a number: an open file. -/
structure Slot where
  number : Nat
  openFile : Nat
  /-- Is it given up when another program takes over? -/
  isPrivate : Bool := false
  deriving Repr

/-- What a process does about a signal, unless it is left to the machine. -/
inductive Disposition where
  | ignored
  | caught
  deriving DecidableEq, Repr

/-- A variable of a program's environment. -/
abbrev Setting := Raw × Raw

/-- What a program is called with: its name, its arguments and its environment. -/
structure Task where
  name : Raw
  args : List Raw := []
  environment : List Setting := []

/-- The number of a process as programs see it. -/
abbrev ProcessId := Nat

/-- A process. -/
structure Entry where
  parent : ProcessId := 0
  slots : List Slot := []
  directory : Inode := FileSystem.root
  /-- The permissions that new files do not get. -/
  mask : Nat := 0o022
  dispositions : List (Nat × Disposition) := []
  /-- Caught signals that the process has not looked at. -/
  pending : List Nat := []
  exit : Option Exit := none
  /-- When it ended. -/
  ended : Nat := 0

/-- Something that was written to the terminal, and when. -/
structure Writing where
  time : Nat
  channel : Channel
  bytes : Bytes

/-- A process that waits to be run: the program behind it and what it is called with. -/
structure Launched where
  process : ProcessId
  program : String
  task : Task

/-- The state of the machine. -/
structure State where
  files : FileSystem := {}
  /-- The machine's own working directory. -/
  directory : Inode := FileSystem.root
  opened : Array OpenFile := #[]
  /-- What is in each pipe. -/
  pipes : Array Raw := #[]
  /-- The open files behind the handles of the shell. -/
  handles : List (Handle × Nat) := []
  nextHandle : Handle := 0
  processes : Array Entry := #[]
  launched : List Launched := []
  /-- The terminal of the processes that run. -/
  terminal : Terminal := {}
  /-- How many bytes of its input they have taken. -/
  taken : Nat := 0
  /-- The bytes of its input that they have used. -/
  used : Bytes := []
  /-- What was written to a terminal and the shell has not been told, the last first. -/
  written : List Writing := []
  /-- Milliseconds that have passed. -/
  time : Nat := 0

namespace State

/-- The number of the first process. -/
def firstProcess : Nat := 1000

/-- The process with a number. -/
def entry? (s : State) (p : ProcessId) : Option Entry :=
  if p < firstProcess then none else s.processes[p - firstProcess]?

/-- Changes a process. -/
def modifyEntry (s : State) (p : ProcessId) (f : Entry → Entry) : State :=
  { s with processes := s.processes.modify (p - firstProcess) f }

/-- Adds a process. -/
def addEntry (s : State) (e : Entry) : ProcessId × State :=
  (firstProcess + s.processes.size, { s with processes := s.processes.push e })

/-- Has a process not ended? -/
def isAlive (s : State) (p : ProcessId) : Bool :=
  match s.entry? p with
  | some e => e.exit.isNone
  | none => false

/-- Ends a process; what it had open is given up. -/
def finish (s : State) (p : ProcessId) (how : Exit) : State :=
  s.modifyEntry p fun e =>
    if e.exit.isSome then e
    else { e with exit := some how, ended := s.time, slots := [], pending := [] }

/-- Adds an open file. -/
def addOpenFile (s : State) (f : OpenFile) : Nat × State :=
  (s.opened.size, { s with opened := s.opened.push f })

/-- The number of the open file in a slot of a process. -/
def slot? (s : State) (p : ProcessId) (number : Nat) : Option Nat :=
  (s.entry? p).bind fun e => (e.slots.find? (·.number == number)).map Slot.openFile

/-- The open file in a slot of a process. -/
def openFile? (s : State) (p : ProcessId) (number : Nat) : Option OpenFile :=
  (s.slot? p number).bind fun id => s.opened[id]?

/-- Does somebody hold an open file of a kind? -/
def isHeld (s : State) (test : OpenFile → Bool) : Bool :=
  let holds (id : Nat) : Bool := ((s.opened[id]?).map test).getD false
  s.handles.any (fun h => holds h.2) ||
    s.processes.any fun e => e.slots.any fun slot => holds slot.openFile

/-- Is somebody writing to a node? -/
def isBeingWritten (s : State) (i : Inode) : Bool :=
  s.isHeld fun f => f.writable && f.object == .node i

/-- The working directory of a process. -/
def directoryOf (s : State) (p : ProcessId) : Inode :=
  ((s.entry? p).map Entry.directory).getD FileSystem.root

/-- The mode of a new file of a process. -/
def newMode (s : State) (p : ProcessId) (mode : Nat) : Nat :=
  mode &&& (0o7777 ^^^ ((s.entry? p).map Entry.mask).getD 0)

end State

end PipeShell.Machine
