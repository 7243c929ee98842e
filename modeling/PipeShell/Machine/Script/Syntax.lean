import PipeShell.Machine.Raw

/-!
# Scripts

What a script is made of. A word consists of plain and quoted characters and of what is to be put
in when it is used: parameters, the output of commands, and numbers. Commands are simple ones and
those made of others. Every command knows the line where it stands. A here-document is kept apart
from the redirection that names it, since it is read later.
-/

set_option autoImplicit false

namespace PipeShell.Machine.Script

/-- What happens with the value of a parameter. -/
inductive Rule where
  /-- It is put in. -/
  | value
  /-- The word is put in where there is no value. -/
  | orElse
  /-- The word is put in where there is a value. -/
  | andThen
  /-- The parameter is set to the word where there is no value. -/
  | orAssign
  /-- The word is complained of where there is no value. -/
  | orFail
  /-- What fits the word is cut off in front or behind, as little or as much as possible. -/
  | cutFront (most : Bool)
  | cutBack (most : Bool)
  | length
  /-- There is no such rule. -/
  | unknown
  deriving DecidableEq, Repr

/-- How a redirection connects a slot. -/
inductive Connection where
  | input
  | output
  /-- Output to a file even if it is there and files are protected. -/
  | replacing
  | appending
  | both
  /-- Shares another slot. -/
  | sharing
  | document (id : Nat)
  deriving DecidableEq, Repr

mutual

/-- A part of a word. -/
inductive Part where
  | plain (c : Char)
  | quoted (c : Char)
  /-- A place where quotes begin or end. -/
  | mark
  /-- With `orEmpty` an empty value counts as none. -/
  | parameter (name : List Char) (rule : Rule) (orEmpty : Bool) (word : List Part)
  | command (body : Option Node)
  | arithmetic (expression : List Part)

/-- A redirection of a slot; the target is a path or names another slot. -/
inductive Redirection where
  | mk (slot : Nat) (connection : Connection) (target : List Part)

/-- A choice of a case. -/
inductive Choice where
  | mk (patterns : List (List Part)) (body : Option Node)

/-- A command. -/
inductive Node where
  | simple (line : Nat) (settings words : List (List Part)) (redirections : List Redirection)
  | pipe (background : Bool) (commands : List (Option Node))
  | redirected (line : Nat) (body : Option Node) (redirections : List Redirection)
  | background (line : Nat) (body : Option Node) (redirections : List Redirection)
  | subshell (line : Nat) (body : Option Node) (redirections : List Redirection)
  | both (first second : Option Node)
  | either (first second : Option Node)
  | sequence (first second : Option Node)
  | negated (body : Option Node)
  | choice (test yes no : Option Node)
  /-- Goes on as long as the test succeeds, or fails. -/
  | repeated (succeeds : Bool) (test body : Option Node)
  | each (line : Nat) (name : List Char) (words : List (List Part)) (body : Option Node)
  | select (line : Nat) (word : List Part) (choices : List Choice)
  | define (line : Nat) (name : List Char) (body : Option Node)

end

/-- A word. -/
abbrev Word := List Part

namespace Part

/-- The character of a part that is one and is not quoted. -/
def plain? : Part → Option Char
  | plain c => some c
  | _ => none

end Part

/-- Can a character start a name? -/
def startsName (c : Char) : Bool := c == '_' || c.isAlpha

/-- Can a character stand in a name? -/
def isInName (c : Char) : Bool := c == '_' || c.isAlphanum

/-- The name at the front of a text. -/
def nameAt (r : Raw) : Raw :=
  match r with
  | c :: rest => if startsName c then c :: rest.takeWhile isInName else []
  | [] => []

/-- Is a text a name? -/
def isName (r : Raw) : Bool := !r.isEmpty && nameAt r == r

/-- The characters at the front of a word that are not quoted. -/
def plainFront : Word → Raw
  | .plain c :: rest => c :: plainFront rest
  | _ => []

/-- The text of a word that has only plain characters. -/
def plainText? (w : Word) : Option Raw := w.mapM Part.plain?

/-- Is a word a setting of a variable? -/
def isSetting (w : Word) : Bool :=
  let front := plainFront w
  let name := nameAt front
  !name.isEmpty && (front.drop name.length).head? == some '='

/-- Parameters with a character of their own. -/
def isSpecial (c : Char) : Bool := "*@#?-$!".toList.contains c || c.isDigit

end PipeShell.Machine.Script
