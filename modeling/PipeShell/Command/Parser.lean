import PipeShell.Command.Token
import PipeShell.Command.Pipeline
import PipeShell.Limits

/-!
# Reading a command line

A line is cut at each `|`; the parts that are not blank are its commands. The number of commands is
checked first, then each command is read from left to right and the first fault is reported. In a
command, a redirect operator takes the token after it as its path, the first other text is the
program name and the rest are arguments. Texts without characters are passed over, except as a path.
-/

set_option autoImplicit false

namespace PipeShell

/-- Why a line is not a pipeline. -/
inductive ParseError where
  | noCommands
  | tooManyCommands (max : Nat)
  | tooBig
  | outOfMemory
  | missingPath (op : RedirectOp)
  | missingName
  | invalidToken (position : Nat) (text : Text)
  deriving DecidableEq, Repr

namespace ParseError

/-- The wording of an error. -/
def message : ParseError → Text
  | noCommands => "warning: no commands provided".toList
  | tooManyCommands max =>
    "error: piping limited to ".toList ++ Numeral.ofNat max ++ " commands".toList
  | tooBig => "error: command or arguments too big".toList
  | outOfMemory => "error: memory allocation failed".toList
  | missingPath op => ("error: missing file name after '" ++ op.symbol ++ "'").toList
  | missingName => "error: missing command name".toList
  | invalidToken position text =>
    "error: invalid token at position ".toList ++ Numeral.ofNat position ++ ": '".toList ++ text ++
      "'".toList

/-- A line without commands is reported but is no error. -/
def isWarning (e : ParseError) : Bool := e == noCommands

end ParseError

namespace Command

/-- What has been read of a command. -/
structure Draft where
  name : Option Text := none
  /-- The arguments, last one first. -/
  args : List Text := []
  input : Option Text := none
  output : Option OutputFile := none

/-- Takes up a text that is no path: as the name if there is none yet, else as an argument. -/
def Draft.addText (limits : Limits) (draft : Draft) (t : Text) : Except ParseError Draft :=
  if t.isEmpty then .ok draft
  else match draft.name with
    | none =>
      if limits.programLength < Utf8.length t then .error .tooBig
      else .ok { draft with name := some t }
    | some _ =>
      if limits.argLength < Utf8.length t ∨ limits.args ≤ draft.args.length then .error .tooBig
      else .ok { draft with args := t :: draft.args }

/-- The path of a redirect, from the token behind the operator. -/
def path (limits : Limits) (op : RedirectOp) (token : Token) : Except ParseError Text :=
  match token.text? with
  | none | some [] => .error (.missingPath op)
  | some t => if limits.argLength < Utf8.length t then .error .tooBig else .ok t

/-- Takes up the path of a redirect. -/
def Draft.redirect (draft : Draft) (op : RedirectOp) (path : Text) : Draft :=
  match op with
  | .input => { draft with input := some path }
  | .output => { draft with output := some ⟨path, .truncate⟩ }
  | .append => { draft with output := some ⟨path, .append⟩ }

/-- The command of a draft, once all tokens are read. -/
def Draft.finish (draft : Draft) : Except ParseError Command :=
  match draft.name with
  | none => .error .missingName
  | some name => .ok ⟨name, draft.args.reverse, draft.input, draft.output⟩

/-- Reads tokens behind a draft. -/
def ofTokensFrom (limits : Limits) (draft : Draft) : List Token → Except ParseError Command
  | [] => draft.finish
  | [.redirect op] => .error (.missingPath op)
  | .redirect op :: token :: rest => do
    ofTokensFrom limits (draft.redirect op (← path limits op token)) rest
  | .quoted t :: rest => do ofTokensFrom limits (← draft.addText limits t) rest
  | .word t :: rest => do ofTokensFrom limits (← draft.addText limits t) rest

/-- Reads one command from its tokens. -/
def ofTokens (limits : Limits) (tokens : List Token) : Except ParseError Command :=
  ofTokensFrom limits {} tokens

/-- Reads one command from its text. -/
def parse (limits : Limits) (t : Text) : Except ParseError Command :=
  ofTokens limits (Token.scan t)

end Command

namespace Pipeline

/-- The sign between commands. -/
def separator : Char := '|'

/-- Cuts a text at each separator. -/
def cut : Text → List Text
  | [] => [[]]
  | c :: rest =>
    if c = separator then [] :: cut rest
    else match cut rest with
      | [] => [[c]]
      | t :: ts => (c :: t) :: ts

/-- The parts of a line between separators, trimmed, blank ones left out. -/
def segments (line : Text) : List Text :=
  ((cut line).map Text.trim).filter fun t => !t.isEmpty

/-- Reads a line. -/
def parse (limits : Limits) (line : Text) : Except ParseError Pipeline :=
  match segments line with
  | [] => .error .noCommands
  | parts =>
    if limits.commands < parts.length then .error (.tooManyCommands limits.commands)
    else parts.mapM (Command.parse limits)

end Pipeline

end PipeShell
