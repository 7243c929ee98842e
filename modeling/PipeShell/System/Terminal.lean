import PipeShell.Stream.Source
import PipeShell.Stream.Sink

/-!
# Terminals

The outer ends of a shell: where its programs read from when nothing else is said, where output
goes, and where errors go, which may be the same sink. A terminal is a value: what programs take
from it and write to it is recorded as their conduct and then applied.

Proves: whatever is written and whatever programs do, a terminal's input does not grow
(`report_input`, `undergo_input_size`).
-/

set_option autoImplicit false

namespace PipeShell

/-- One of the two sides of a terminal that take bytes. -/
inductive Channel where
  | output
  | error
  deriving DecidableEq, Repr

/-- One of the three ends of a terminal. -/
inductive TerminalEnd where
  | input
  | output
  | error
  deriving DecidableEq, Repr

/-- The outer ends of a shell. -/
structure Terminal where
  /-- What is still to be read. -/
  input : Source := []
  /-- Can a program that has read more than it uses step back? -/
  seekable : Bool := false
  output : Sink := {}
  /-- The sink for errors, if it is not the one for output. -/
  error : Option Sink := none

/-- What a program did to its terminal: the bytes of input it used, and what it wrote, in order. -/
structure Conduct where
  taken : Nat := 0
  wrote : List (Channel × Bytes) := []

namespace Terminal

/-- The sink behind a channel. -/
def sink (t : Terminal) : Channel → Sink
  | .output => t.output
  | .error => t.error.getD t.output

/-- The terminal with another sink behind a channel. -/
def withSink (t : Terminal) (channel : Channel) (s : Sink) : Terminal :=
  match channel, t.error with
  | .error, some _ => { t with error := some s }
  | _, _ => { t with output := s }

/-- Writes bytes as far as they are taken. -/
def write (t : Terminal) (channel : Channel) (bs : Bytes) : Terminal :=
  t.withSink channel ((t.sink channel).deliver bs).2

/-- Writes a line of the shell's own and flushes. A line that is not taken is lost. -/
def report (t : Terminal) (channel : Channel) (line : Text) : Terminal :=
  t.withSink channel ((t.sink channel).send [Utf8.encode (line ++ ['\n'])]).2

/-- Applies what a program did. -/
def undergo (t : Terminal) (conduct : Conduct) : Terminal :=
  conduct.wrote.foldl (fun t w => t.write w.1 w.2) { t with input := t.input.skip conduct.taken }

@[simp] theorem withSink_input (t : Terminal) (channel : Channel) (s : Sink) :
    (t.withSink channel s).input = t.input := by
  unfold withSink
  split <;> rfl

@[simp] theorem write_input (t : Terminal) (channel : Channel) (bs : Bytes) :
    (t.write channel bs).input = t.input := by simp [write]

@[simp] theorem report_input (t : Terminal) (channel : Channel) (line : Text) :
    (t.report channel line).input = t.input := by simp [report]

theorem foldl_write_input (wrote : List (Channel × Bytes)) (t : Terminal) :
    (wrote.foldl (fun t w => t.write w.1 w.2) t).input = t.input := by
  induction wrote generalizing t with
  | nil => rfl
  | cons w rest ih => simp [ih]

@[simp] theorem undergo_input (t : Terminal) (conduct : Conduct) :
    (t.undergo conduct).input = t.input.skip conduct.taken := by
  simp [undergo, foldl_write_input]

theorem undergo_input_size (t : Terminal) (conduct : Conduct) :
    (t.undergo conduct).input.size ≤ t.input.size := by
  simpa using Source.skip_size _ _

end Terminal

end PipeShell
