import PipeShell.System.Terminal
import PipeShell.Pipeline.Outcome
import PipeShell.Command.Pipeline

/-!
# The system around a shell

What a shell asks of the system it runs on: its own directory, questions about paths, files, pipes
and processes. The answers depend on a state that only the system knows, so whatever is shown about
a shell holds for every way in which a system can answer.

A shell waits for the processes it has started and for nothing else. What programs do to the
terminal is therefore told in two places: while the shell waits for a process (`Host.await`), and
while it waits for its next line (`Host.linger`), which takes a program that leaves a process
behind. A shell that carries out a line meets only the first. Nothing is written between two waits
of one line, or while a built-in answers: what comes in such moments is told with the next wait.
-/

set_option autoImplicit false

namespace PipeShell

/-- An open file, or an end of a pipe, that the shell holds. -/
abbrev Handle := Nat

/-- A process that was started. -/
abbrev Process := Nat

/-- The two ends of a pipe. -/
structure Pipe where
  reader : Handle
  writer : Handle
  deriving DecidableEq, Repr

/-- Where a process reads from. -/
inductive Inlet where
  | terminal
  | file (h : Handle)
  | pipe (h : Handle)
  deriving DecidableEq, Repr

/-- Where a process writes to. -/
inductive Outlet where
  | terminal
  | file (h : Handle)
  | pipe (h : Handle)
  deriving DecidableEq, Repr

/-- What a process is started with. Its errors go to the terminal. -/
structure Launch where
  program : Text
  args : List Text
  directory : Text
  input : Inlet
  output : Outlet
  deriving DecidableEq, Repr

/-- How a process ended. -/
inductive Exit where
  | code (code : Status)
  | signal (number : Nat)
  | unknown
  deriving DecidableEq, Repr

/-- The status of an ended process; a death by signal counts from 128. -/
def Exit.status : Exit → Status
  | code c => c
  | signal n => 128 + n
  | unknown => 1

/-- The operations of a system with states `σ`. Programs do something to the terminal only while the
shell waits, for a process or for its next line. -/
structure Host (σ : Type) where
  /-- The system's own working directory. -/
  currentDirectory : σ → Except Failure Text
  /-- Moves the system's own working directory. -/
  changeDirectory : Text → σ → Except Failure Unit × σ
  /-- The absolute path without links that a path leads to. -/
  canonicalize : Text → σ → Except Failure Text
  /-- Does a path lead to a directory? -/
  isDirectory : Text → σ → Bool
  /-- Opens a file for reading. -/
  openInput : Text → σ → Except Failure Handle × σ
  /-- Opens a file for writing, made if it is missing. -/
  openOutput : Text → WriteMode → σ → Except Failure Handle × σ
  /-- Makes a pipe. -/
  makePipe : σ → Except Failure Pipe × σ
  /-- Gives up a handle. -/
  close : Handle → σ → σ
  /-- Makes an end of the terminal ready for use by one process or by the shell itself. -/
  attach : TerminalEnd → σ → Except Failure Unit × σ
  /-- Starts a process. -/
  start : Launch → σ → Except Failure Process × σ
  /-- Waits until a process has ended, and tells what programs did to the terminal meanwhile. A
  process that the program has left behind is not waited for. -/
  await : Process → Terminal → σ → Except Failure Exit × Conduct × σ
  /-- What processes that were left behind do to the terminal while the shell waits for its next
  line. Unless it is said otherwise there are none. -/
  linger : Terminal → σ → Conduct × σ := fun _ s => ({}, s)

/-- A system with its state, and the status that process-wide contexts share. -/
structure World (σ : Type) where
  system : σ
  sharedStatus : Status := 0

end PipeShell
