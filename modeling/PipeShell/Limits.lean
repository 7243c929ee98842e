import PipeShell.Text.Utf8
import PipeShell.Text.Numeral

/-!
# Limits and the environment

The bounds that a shell puts on pipelines, commands and requests, and the variables of the
environment that change two of them. A variable counts when it holds a positive whole number below
2^64, blanks around it left out; whatever else it holds, the default stands.
-/

set_option autoImplicit false

namespace PipeShell

/-- The bounds in force. Lengths are counted in bytes of UTF-8. -/
structure Limits where
  /-- Commands in one pipeline. -/
  commands : Nat := 8
  /-- Bytes of a program name. -/
  programLength : Nat := 64
  /-- Bytes of an argument or of a redirect's path. -/
  argLength : Nat := 256
  /-- Arguments of one command. -/
  args : Nat := 8
  /-- Bytes of one request, its terminator included. -/
  requestLength : Nat := 65536
  deriving DecidableEq, Repr

/-- The variables of an environment, by name. Values are bytes. -/
abbrev Environment := List (String × Bytes)

namespace Environment

/-- The value of a variable, if it is set and is text. -/
def text? (env : Environment) (name : String) : Option Text :=
  (env.lookup name).bind Utf8.decode?

/-- One more than the largest number a limit can be. -/
def limitBound : Nat := Nat.pow 2 64

/-- A positive number from the environment. -/
def positive? (env : Environment) (name : String) : Option Nat :=
  ((env.text? name).bind fun t => Numeral.read? limitBound (Text.trim t)).filter (0 < ·)

end Environment

namespace Limits

/-- The variable that bounds the commands of a pipeline. -/
def commandsVariable : String := "RDSH_MAX_COMMANDS"

/-- The variable that bounds the bytes of a request. -/
def requestVariable : String := "RDSH_MAX_REQUEST"

/-- The defaults, with what the environment says in place of two of them. -/
def ofEnvironment (env : Environment) : Limits :=
  { commands := (env.positive? commandsVariable).getD 8
    requestLength := (env.positive? requestVariable).getD 65536 }

end Limits

end PipeShell
