import PipeShell.Text.Blank

/-!
# Commands and pipelines

A command is a program name with arguments and at most one redirect of each direction. A pipeline
is a sequence of commands, each feeding the next. A command that stands alone is the only shape in
which a built-in is recognised.
-/

set_option autoImplicit false

namespace PipeShell

/-- What happens to the contents of an output file. -/
inductive WriteMode where
  /-- They are dropped. -/
  | truncate
  /-- They stay, and output follows them. -/
  | append
  deriving DecidableEq, Repr

/-- The file that takes a command's output. -/
structure OutputFile where
  path : Text
  mode : WriteMode
  deriving DecidableEq, Repr

/-- One command. -/
structure Command where
  name : Text
  args : List Text := []
  /-- The file that gives the command its input. -/
  input : Option Text := none
  output : Option OutputFile := none
  deriving DecidableEq, Repr

/-- A command with a redirect in either direction. -/
def Command.hasRedirects (command : Command) : Bool :=
  command.input.isSome || command.output.isSome

/-- The program name followed by its arguments. -/
def Command.words (command : Command) : List Text := command.name :: command.args

/-- The commands of a pipeline, first to last. -/
abbrev Pipeline := List Command

/-- The command of a pipeline that has no other. -/
def Pipeline.single? : Pipeline → Option Command
  | [command] => some command
  | _ => none

/-- A pipeline has a single command exactly if it consists of it. -/
theorem Pipeline.single?_eq_some {pipeline : Pipeline} {command : Command} :
    single? pipeline = some command ↔ pipeline = [command] := by
  constructor
  · intro h
    unfold single? at h
    split at h
    · rw [Option.some.inj h]
    · cases h
  · intro h
    rw [h, single?]

end PipeShell
