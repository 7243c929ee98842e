import PipeShell.Text.Blank

/-!
# Tokens of a command

A command is written as redirect operators, quoted texts and bare words, with blanks between them.
At each place the longest token is taken: `>>` before `>`, a quoted text up to the next quote or
the end, a word up to the next blank or redirect sign. A quote opens a quoted text only where a
token starts; inside a word it is an ordinary character. Every text has a reading.

Proves: a token uses up at least its first character (`next_length`), by which scanning ends.
-/

set_option autoImplicit false

namespace PipeShell

/-- A redirect operator. -/
inductive RedirectOp where
  /-- `<` -/
  | input
  /-- `>` -/
  | output
  /-- `>>` -/
  | append
  deriving DecidableEq, Repr

/-- How the operator is written. -/
def RedirectOp.symbol : RedirectOp → String
  | input => "<"
  | output => ">"
  | append => ">>"

/-- A token of a command. -/
inductive Token where
  | redirect (op : RedirectOp)
  /-- A text in double quotes, the quotes left out. -/
  | quoted (text : Text)
  /-- A bare word. -/
  | word (text : Text)
  deriving DecidableEq, Repr

namespace Token

/-- The text of a quoted text or a word. -/
def text? : Token → Option Text
  | quoted t => some t
  | word t => some t
  | redirect _ => none

/-- A character that goes on with a word. -/
def continuesWord (c : Char) : Bool := !Text.isBlank c && c != '<' && c != '>'

/-- The token that starts with `c`, which is not blank, and the text after it. -/
def next (c : Char) (rest : Text) : Token × Text :=
  if c = '<' then (redirect .input, rest)
  else if c = '>' then
    match rest with
    | '>' :: rest => (redirect .append, rest)
    | _ => (redirect .output, rest)
  else if c = '"' then
    (quoted (rest.takeWhile (· != '"')), (rest.dropWhile (· != '"')).drop 1)
  else (word (c :: rest.takeWhile continuesWord), rest.dropWhile continuesWord)

theorem next_length (c : Char) (rest : Text) : (next c rest).2.length ≤ rest.length := by
  have hd : ∀ p : Char → Bool, (rest.dropWhile p).length ≤ rest.length :=
    fun p => (List.dropWhile_suffix p).length_le
  unfold next
  split
  · simp
  · split
    · split <;> simp
    · split
      · have := hd (· != '"')
        simp only [List.length_drop]
        omega
      · exact hd _

/-- The tokens of a text, in order. -/
def scan : Text → List Token
  | [] => []
  | c :: rest =>
    if Text.isBlank c then scan rest
    else (next c rest).1 :: scan (next c rest).2
termination_by t => t.length
decreasing_by
  · simp
  · have := next_length c rest
    simp only [List.length_cons]
    omega

end Token

end PipeShell
