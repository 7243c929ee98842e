import PipeShell.Machine.Script.Syntax

/-!
# Reading words

A script is read character by character. Text that is not at its end may go on, so whoever needs a
character that is not there yet asks for more. A backslash in front of a newline joins lines.
-/

set_option autoImplicit false

namespace PipeShell.Machine.Script

/-- Reserved words. -/
def reservedWords : List String :=
  ["!", "case", "do", "done", "elif", "else", "esac", "fi", "for", "if", "in", "then", "until",
    "while", "\x7b", "\x7d"]

/-- What a script is read as. -/
inductive Token where
  | ended
  | newline
  | redirection (slot : Nat) (connection : Connection) (strips : Bool)
  | word (w : Word)
  | semicolon
  | ampersand
  | both
  | either
  | bar
  | opening
  | closing
  | endChoice
  | reserved (w : String)

/-- A token in a message. -/
def Token.text : Token → String
  | ended => "end of file"
  | newline => "newline"
  | redirection .. => "redirection"
  | word .. => "word"
  | semicolon => "\";\""
  | ampersand => "\"&\""
  | both => "\"&&\""
  | either => "\"||\""
  | bar => "\"|\""
  | opening => "\"(\""
  | closing => "\")\""
  | endChoice => "\";;\""
  | reserved w => "\"" ++ w ++ "\""

/-- A here-document that is still to be read. -/
structure Awaited where
  id : Nat
  /-- The line that ends it. -/
  ending : Raw
  /-- Are tabs in front of lines left out? -/
  strips : Bool
  /-- Are parameters put in? -/
  expands : Bool

/-- Where reading is. -/
structure Reader where
  rest : Raw
  /-- Does nothing follow? -/
  ended : Bool := true
  line : Nat := 1
  /-- The token that was read last, and whether it is to be read again. -/
  last : Token := .newline
  again : Bool := false
  awaited : List Awaited := []
  documents : List (Nat × Word) := []
  /-- The number for the next here-document. -/
  nextDocument : Nat := 0
  aliases : List (Raw × Raw) := []
  /-- Names that were replaced, with how much followed them. -/
  replaced : List (Raw × Nat) := []

/-- Why reading stops. -/
inductive ReadFault where
  /-- More text is needed. -/
  | more
  | wrong (line : Nat) (message : Raw)

/-- A part of reading. -/
abbrev Read := EStateM ReadFault Reader

namespace Read

/-- Reading fails. -/
def wrong {α : Type} (message : String) : Read α := do
  throw (.wrong (← get).line message.toList)

/-- The next character, a backslash and a newline not joined. -/
def rawNext : Read (Option Char) := do
  let r ← get
  match r.rest with
  | c :: rest =>
    set { r with rest, line := if c == '\n' then r.line + 1 else r.line }
    return some c
  | [] => if r.ended then return none else throw .more

/-- A character that is read again. -/
def putBack (c : Option Char) : Read Unit := do
  if let some c := c then
    modify fun r => { r with rest := c :: r.rest
                             line := if c == '\n' then r.line - 1 else r.line }

/-- The next character, joined lines passed over, at most so many. -/
def nextWithin : Nat → Read (Option Char)
  | 0 => rawNext
  | joins + 1 => do
    match ← rawNext with
    | some '\\' =>
      let r ← get
      match r.rest with
      | '\n' :: rest =>
        set { r with rest, line := r.line + 1 }
        nextWithin joins
      | [] => if r.ended then return some '\\' else throw .more
      | _ => return some '\\'
    | c => return c

/-- The next character. -/
def next : Read (Option Char) := do nextWithin ((← get).rest.length + 1)

/-- How much reading is left at most. -/
def steps : Read Nat := do return 4 * (← get).rest.length + 64

end Read

/-- What ends a run of parts. -/
inductive Closing where
  /-- A character that no word holds. -/
  | word
  | quote
  | brace
  | document
  | expression
  deriving DecidableEq, Repr

/-- The surroundings in which characters are read. -/
structure Surroundings where
  closing : Closing := .word
  /-- Are quotes and patterns without meaning? -/
  double : Bool := false
  /-- The line that ends the here-document around, and whether tabs in front of lines are left
  out. -/
  ending : Option (Raw × Bool) := none
  /-- Is nothing put in? -/
  literal : Bool := false

/-- Characters that end a word. -/
def endsWord (c : Char) : Bool := " \t\n;&|()<>".toList.contains c

/-- A character behind a backslash, and the backslash where it does not escape. -/
def escaped (s : Surroundings) (c : Char) : Word :=
  let escapes := !s.double || c == '\\' || c == '`' || c == '$' ||
    (c == '"' && (s.ending.isNone || s.closing == .brace)) || (c == '}' && s.closing == .brace)
  if escapes then [.quoted c] else [.quoted '\\', .quoted c]

/-- Characters up to the next single quote. -/
def singleQuoted : Nat → Word → Read Word
  | 0, _ => Read.wrong "Unterminated quoted string"
  | steps + 1, parts => do
    match ← Read.rawNext with
    | none => Read.wrong "Unterminated quoted string"
    | some '\'' => return .mark :: parts
    | some c => singleQuoted steps (.quoted c :: parts)

/-- The text of an old-style command up to the closing sign. -/
def oldStyleText (s : Surroundings) : Nat → Raw → Read Raw
  | 0, _ => Read.wrong "EOF in backquote substitution"
  | steps + 1, text => do
    match ← Read.rawNext with
    | none => Read.wrong "EOF in backquote substitution"
    | some '`' => return text.reverse
    | some '\\' =>
      match ← Read.rawNext with
      | none => Read.wrong "EOF in backquote substitution"
      | some '\n' => oldStyleText s steps text
      | some c =>
        let escapes := c == '\\' || c == '`' || c == '$' || (c == '"' && s.double)
        oldStyleText s steps (if escapes then c :: text else c :: '\\' :: text)
    | some c => oldStyleText s steps (c :: text)

/-- Characters of a name. -/
def nameChars : Nat → Raw → Read Raw
  | 0, name => return name.reverse
  | steps + 1, name => do
    let c ← Read.next
    if (c.map isInName).getD false then nameChars steps (c.toList ++ name)
    else
      Read.putBack c
      return name.reverse

/-- Digits. -/
def digitChars : Nat → Raw → Read Raw
  | 0, digits => return digits.reverse
  | steps + 1, digits => do
    let c ← Read.next
    if (c.map Char.isDigit).getD false then digitChars steps (c.toList ++ digits)
    else
      Read.putBack c
      return digits.reverse

/-- The name of a parameter in braces whose first character is known. -/
def bracedName (c : Char) : Read (Option Raw) := do
  if startsName c then return some (← nameChars (← Read.steps) [c])
  else if c.isDigit then return some (← digitChars (← Read.steps) [c])
  else if isSpecial c then return some [c]
  else
    Read.putBack (some c)
    return none

/-- The name of a parameter in braces, and whether its length is asked for. -/
def bracedHead : Read (Option Raw × Bool) := do
  match ← Read.next with
  | none => return (none, false)
  | some '#' =>
    let c ← Read.next
    match c with
    | some d =>
      if isInName d then return (← bracedName d, true)
      else
        let e ← Read.next
        if d == '}' || e != some '}' then
          Read.putBack e
          Read.putBack c
          return (some ['#'], false)
        else
          Read.putBack e
          if isSpecial d then return (some [d], true)
          else
            Read.putBack c
            return (none, false)
    | none => return (some ['#'], false)
  | some c => return (← bracedName c, false)

/-- The rule behind the name of a parameter, and whether an empty value counts as none. -/
def ruleBehind : Read (Rule × Bool) := do
  let c ← Read.next
  match c with
  | some '%' =>
    let d ← Read.next
    if d == some '%' then return (.cutBack true, false)
    Read.putBack d
    return (.cutBack false, false)
  | some '#' =>
    let d ← Read.next
    if d == some '#' then return (.cutFront true, false)
    Read.putBack d
    return (.cutFront false, false)
  | _ =>
    let colon := c == some ':'
    let c ← if colon then Read.next else pure c
    match c with
    | some '}' => return (if colon then .unknown else .value, colon)
    | some '-' => return (.orElse, colon)
    | some '+' => return (.andThen, colon)
    | some '?' => return (.orFail, colon)
    | some '=' => return (.orAssign, colon)
    | c =>
      Read.putBack c
      return (.unknown, colon)

/-- Is an ending line next? It is passed over. -/
def passEnding (ending : Raw) (strips : Bool) : Read Bool := do
  let r ← get
  let body := if strips then r.rest.dropWhile (· == '\t') else r.rest
  let behind := body.drop ending.length
  if ending.isPrefixOf body then
    match behind with
    | '\n' :: rest =>
      set { r with rest, line := r.line + 1 }
      return true
    | [] =>
      if r.ended then
        set { r with rest := [] }
        return true
      else throw .more
    | _ => return false
  else if body.isPrefixOf ending && !r.ended then throw .more
  else return false

/-- Passes over tabs. -/
def passTabs : Read Unit := modify fun r => { r with rest := r.rest.dropWhile (· == '\t') }

/-- What is wrong with text that ends too early. -/
def Closing.missing : Closing → String
  | expression => "Missing '))'"
  | brace => "Missing '\x7d'"
  | _ => "Unterminated quoted string"

/-- At the start of a line: is the here-document around at its end? -/
def atEnding (s : Surroundings) : Read Bool := do
  match s.ending with
  | none => return false
  | some (ending, strips) =>
    if ← passEnding ending strips then return true
    if strips then passTabs
    return false

/-- Reads an old-style command. -/
def oldStyle (list : Read (Option Node)) (s : Surroundings) : Read Part := do
  let text ← oldStyleText s (← Read.steps) []
  let r ← get
  set { r with rest := text, ended := true, awaited := [], again := false, line := 1 }
  let body ← list
  let inner ← get
  match inner.last with
  | .ended =>
    set { inner with rest := r.rest, ended := r.ended, line := r.line, awaited := r.awaited
                     again := r.again, last := r.last }
    return .command body
  | t => Read.wrong (t.text ++ " unexpected")

/-- Reads a command up to its closing sign. -/
def newStyle (list : Read (Option Node)) : Read Part := do
  let r ← get
  set { r with awaited := [], again := false }
  let body ← list
  let inner ← get
  match inner.last with
  | .closing =>
    set { inner with awaited := r.awaited, again := r.again, last := r.last }
    return .command body
  | t => Read.wrong (t.text ++ " unexpected (expecting \")\")")

mutual

/-- Parts up to the end of their surroundings; they come last one first. -/
def parts (list : Read (Option Node)) (s : Surroundings) : Nat → Word → Read Word
  | 0, _ => Read.wrong s.closing.missing
  | steps + 1, done => do
    let c ← Read.next
    match c with
    | none =>
      if s.closing == .word || s.closing == .document then return done
      else Read.wrong s.closing.missing
    | some c =>
      if c == '\\' then
        match ← Read.rawNext with
        | none => parts list s steps (.quoted '\\' :: done)
        | some d => parts list s steps ((escaped s d).reverse ++ done)
      else if c == '\'' && !s.double then
        parts list s steps (← singleQuoted (← Read.steps) (.mark :: done))
      else if c == '"' && s.closing == .quote then return done
      else if c == '"' && s.closing == .expression then parts list s steps (.quoted c :: done)
      else if c == '"' && s.closing != .document then
        let inner ← parts list { s with closing := .quote, double := true } steps []
        parts list s steps (.mark :: inner ++ .mark :: done)
      else if c == '`' && s.literal then parts list s steps (.quoted c :: done)
      else if c == '$' && s.literal then parts list s steps (.plain c :: done)
      else if c == '`' then parts list s steps ((← oldStyle list s) :: done)
      else if c == '$' then parts list s steps ((← dollar list s steps) :: done)
      else if c == '}' && s.closing == .brace then return done
      else if c == '(' && s.closing == .expression then
        let inner ← parts list s steps []
        parts list s steps (.quoted ')' :: inner ++ .quoted '(' :: done)
      else if c == ')' && s.closing == .expression then return done
      else if s.closing == .word && endsWord c then
        Read.putBack (some c)
        return done
      else
        let done := (if s.double then .quoted c else .plain c) :: done
        if c == '\n' then
          if ← atEnding s then
            if s.closing == .document then return done else Read.wrong s.closing.missing
        parts list s steps done

/-- What stands behind a dollar sign. -/
def dollar (list : Read (Option Node)) (s : Surroundings) : Nat → Read Part
  | 0 => Read.wrong s.closing.missing
  | steps + 1 => do
    let sign : Part := if s.double then .quoted '$' else .plain '$'
    let braced := { s with closing := .brace }
    match ← Read.next with
    | none => return sign
    | some '(' =>
      let d ← Read.next
      if d == some '(' then return .arithmetic (← expression list s steps).reverse
      else
        Read.putBack d
        newStyle list
    | some '{' =>
      match ← bracedHead with
      | (none, _) => return .parameter [] .unknown false (← parts list braced steps []).reverse
      | (some name, true) =>
        let c ← Read.next
        if c == some '}' then return .parameter name .length false []
        else
          Read.putBack c
          return .parameter name .unknown false (← parts list braced steps []).reverse
      | (some name, false) =>
        match ← ruleBehind with
        | (.value, _) => return .parameter name .value false []
        | (rule, orEmpty) =>
          let cuts := match rule with
            | .cutFront _ | .cutBack _ => true
            | _ => false
          let word ← parts list { braced with double := s.double && !cuts } steps []
          return .parameter name rule orEmpty word.reverse
    | some c =>
      if startsName c then return .parameter (← nameChars (← Read.steps) [c]) .value false []
      else if isSpecial c then return .parameter [c] .value false []
      else
        Read.putBack (some c)
        return sign

/-- An expression up to its two closing signs; the parts come last one first. -/
def expression (list : Read (Option Node)) (s : Surroundings) : Nat → Read Word
  | 0 => Read.wrong Closing.expression.missing
  | steps + 1 => do
    let inner ← parts list { s with closing := .expression, double := true } steps []
    let c ← Read.next
    if c == some ')' then return inner
    else
      Read.putBack c
      return (← expression list s steps) ++ .quoted ')' :: inner

end

/-- Lines up to an ending line; the characters come last one first. -/
def literalDocument (a : Awaited) : Nat → Word → Read Word
  | 0, done => return done
  | steps + 1, done => do
    if ← passEnding a.ending a.strips then return done
    else
      if a.strips then passTabs
      let rec line : Nat → Word → Read (Word × Bool)
        | 0, done => return (done, true)
        | steps + 1, done => do
          match ← Read.rawNext with
          | none => return (done, true)
          | some '\n' => return (.quoted '\n' :: done, false)
          | some c => line steps (.quoted c :: done)
      let (done, ended) ← line (← Read.steps) done
      if ended then return done else literalDocument a steps done

/-- Reads a here-document. -/
def document (list : Read (Option Node)) (a : Awaited) : Read Unit := do
  let steps ← Read.steps
  let s : Surroundings :=
    { closing := .document, double := true, ending := some (a.ending, a.strips) }
  let found ←
    if a.expands then do
      if ← atEnding s then pure [] else parts list s steps []
    else literalDocument a steps []
  modify fun r => { r with documents := (a.id, found.reverse) :: r.documents }

/-- Reads the here-documents that are awaited. -/
def documents (list : Read (Option Node)) : Read Unit := do
  let awaited := (← get).awaited
  modify fun r => { r with awaited := [] }
  for a in awaited do document list a

end PipeShell.Machine.Script
