import PipeShell.Machine.Kernel.State

/-!
# Programs as the machine runs them

A program is what it asks of the machine, one request after another, and how it ends. A request is
answered at once, or not before something has happened, or it is the end of the process. Besides, a
program can split in two processes and can hand over to another program. Written as a job, a
program is put together from steps that each give a value to the next.
-/

set_option autoImplicit false

namespace PipeShell.Machine

/-- What comes of a request. -/
inductive Progress (α : Type) where
  /-- An answer. -/
  | done (answer : α) (s : State)
  /-- Nothing yet; perhaps there is an answer at a point of time. -/
  | wait (wake : Option Nat)
  /-- The process ends. -/
  | died (how : Exit)

/-- A program. -/
inductive Program : Type 1 where
  | exit (how : Exit)
  | ask {α : Type} (request : ProcessId → State → Progress α) (next : α → Program)
  /-- Goes on as two processes; the first is told the number of the second. -/
  | fork (child : Program) (next : ProcessId → Program)
  /-- Hands over to a program of the machine. -/
  | become (name : String) (task : Task)

/-- A part of a program that gives a value to what follows it. -/
def Job (α : Type) : Type 1 := (α → Program) → Program

namespace Job

instance : Monad Job where
  pure a := fun next => next a
  bind job f := fun next => job fun a => f a next

/-- Asks the machine. -/
def ask {α : Type} (request : ProcessId → State → Progress α) : Job α := fun next => .ask request next

/-- Reads from and writes to the state at once. -/
def act {α : Type} (f : ProcessId → State → α × State) : Job α :=
  ask fun p s => let (a, s) := f p s; .done a s

/-- Ends the process. -/
def exit {α : Type} (how : Exit) : Job α := fun _ => .exit how

/-- Ends the process with a code. -/
def exitWith {α : Type} (code : Int) : Job α := exit (.code (code % 256))

/-- Goes on as two processes. The second does its own job and ends. -/
def fork (child : Job Unit) : Job ProcessId := fun next =>
  .fork (child fun _ => .exit (.code 0)) next

/-- Hands over to a program of the machine. -/
def become {α : Type} (name : String) (task : Task) : Job α := fun _ => .become name task

/-- A job as a whole program. -/
def toProgram (job : Job Int) : Program := job fun code => .exit (.code (code % 256))

end Job

end PipeShell.Machine
