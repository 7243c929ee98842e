import PipeShell.Machine.Script.Reader

/-!
# Reading commands

The grammar of scripts: lists of pipelines, compound commands, simple commands with their
redirections, and functions. A script is read one line of commands at a time, so a line runs before
the next one is read. How deep commands may be nested is bounded.
-/

set_option autoImplicit false

namespace PipeShell.Machine.Script

/-- Where a list of commands stands. -/
inductive ListPlace where
  /-- On a line of the script, which ends it. -/
  | line
  /-- Between reserved words. -/
  | inner
  /-- In a command that is put in, or a choice of a case; it may be empty. -/
  | substituted
  deriving DecidableEq, Repr

/-- The parts of the grammar that hold each other. -/
structure Grammar where
  list : ListPlace → Read (Option Node)
  command : Read (Option Node)

namespace Grammar

/-! ## Tokens -/

/-- What is looked for in a token. -/
structure Look where
  /-- Are newlines passed over? -/
  newlines : Bool := false
  reserved : Bool := false
  aliases : Bool := false

/-- Looks for everything. -/
def Look.all : Look := { newlines := true, reserved := true, aliases := true }

/-- A list of commands that is put in. -/
def inner (g : Grammar) : Read (Option Node) := g.list .substituted

/-- Reads a word. -/
def word (g : Grammar) (literal : Bool) : Read Word := do
  return (← parts g.inner { literal } (← Read.steps) []).reverse

/-- The sign of a redirection, whose first character is known. -/
def sign (first : Char) : Read (Connection × Bool × Nat) := do
  let c ← Read.next
  if first == '>' then
    match c with
    | some '>' => return (.appending, false, 1)
    | some '|' => return (.replacing, false, 1)
    | some '&' => return (.sharing, false, 1)
    | c => Read.putBack c; return (.output, false, 1)
  else
    match c with
    | some '<' =>
      let d ← Read.next
      if d == some '-' then return (.document 0, true, 0)
      Read.putBack d
      return (.document 0, false, 0)
    | some '&' => return (.sharing, false, 0)
    | some '>' => return (.both, false, 0)
    | c => Read.putBack c; return (.input, false, 0)

/-- Passes over a comment. -/
def comment : Nat → Read Unit
  | 0 => return
  | steps + 1 => do
    match ← Read.rawNext with
    | none => return
    | some '\n' => Read.putBack (some '\n')
    | some _ => comment steps

/-- A token of one or two characters. -/
def twice (c : Char) (one two : Token) : Read Token := do
  let d ← Read.next
  if d == some c then return two
  Read.putBack d
  return one

/-- Reads a word, or a redirection with the digit in front of it. -/
def wordToken (g : Grammar) (literal : Bool) : Read Token := do
  let w ← g.word literal
  let slot? := match w with
    | [] => some none
    | [.plain d] => if d.isDigit then some (some (d.toNat - '0'.toNat)) else none
    | _ => none
  match slot? with
  | none => return .word w
  | some slot =>
    let c ← Read.next
    if c == some '<' || c == some '>' then
      let (connection, strips, usual) ← sign (c.getD '<')
      return .redirection (slot.getD usual) connection strips
    else
      Read.putBack c
      return .word w

/-- Reads a token. -/
def token (g : Grammar) (literal : Bool) : Nat → Read Token
  | 0 => return .ended
  | steps + 1 => do
    let c ← Read.next
    match c with
    | none => return .ended
    | some ' ' | some '\t' => token g literal steps
    | some '#' => comment (← Read.steps); token g literal steps
    | some '\n' => return .newline
    | some '&' => twice '&' .ampersand .both
    | some '|' => twice '|' .bar .either
    | some ';' => twice ';' .semicolon .endChoice
    | some '(' => return .opening
    | some ')' => return .closing
    | some c =>
      Read.putBack (some c)
      wordToken g literal

/-- The token that is read again, or a new one. -/
def nextToken (g : Grammar) (literal : Bool) : Read Token := do
  let r ← get
  if r.again then
    set { r with again := false }
    return r.last
  let t ← token g literal (← Read.steps)
  modify fun r => { r with last := t }
  return t

/-- Passes over newlines; the here-documents in front of them are read. -/
def passNewlines (g : Grammar) : Nat → Token → Read Token
  | 0, t => return t
  | steps + 1, t => do
    match t with
    | .newline =>
      documents g.inner
      passNewlines g steps (← nextToken g false)
    | t => return t

/-- What a name is replaced by, if it is not being replaced already. -/
def replacement? (r : Reader) (name : Raw) : Option Raw :=
  if r.replaced.any fun e => e.1 == name && decide (e.2 < r.rest.length) then none
  else r.aliases.lookup name

/-- Reads a token that is looked at. -/
def look (g : Grammar) (l : Look) : Nat → Read Token
  | 0 => return .ended
  | steps + 1 => do
    let t ← nextToken g false
    let t ← if l.newlines then passNewlines g (← Read.steps) t else pure t
    match t with
    | .word w =>
      match plainText? w with
      | none => return t
      | some text =>
        match if l.reserved then reservedWords.find? (·.toList == text) else none with
        | some keyword =>
          modify fun r => { r with last := .reserved keyword }
          return .reserved keyword
        | none =>
          let r ← get
          match if l.aliases then replacement? r text else none with
          | some value =>
            modify fun r => { r with rest := value ++ r.rest
                                     replaced := (text, r.rest.length) :: r.replaced }
            look g l steps
          | none => return t
    | t => return t

/-- Reads a token that is looked at. -/
def next (g : Grammar) (l : Look) : Read Token := do look g l (← Read.steps)

/-- The token that was read last is read again. -/
def again : Read Unit := modify fun r => { r with again := true }

/-- The last token is not what could stand here. -/
def unexpected {α : Type} : Read α := do
  Read.wrong ((← get).last.text ++ " unexpected")

/-- The last token is not the one that must stand here. -/
def expecting {α : Type} (t : Token) : Read α := do
  Read.wrong ((← get).last.text ++ " unexpected (expecting " ++ t.text ++ ")")

/-- Is a token a reserved word? -/
def isReserved (w : String) : Token → Bool
  | .reserved v => v == w
  | _ => false

/-- Reads a reserved word that must stand here. -/
def demand (g : Grammar) (w : String) : Read Unit := do
  unless isReserved w (← g.next {}) do expecting (.reserved w)

/-! ## Redirections -/

/-- The text of a word without its quotes. -/
def unquoted (w : Word) : Raw := w.filterMap fun part =>
  match part with
  | .plain c | .quoted c => some c
  | _ => none

/-- Is anything in a word quoted? -/
def hasQuotes (w : Word) : Bool := w.any fun part =>
  match part with
  | .quoted _ | .mark => true
  | _ => false

/-- Reads the target of a redirection. -/
def redirection (g : Grammar) (slot : Nat) (connection : Connection) (strips : Bool) :
    Read Redirection := do
  let isDocument := match connection with
    | .document _ => true
    | _ => false
  match ← nextToken g isDocument with
  | .word w =>
    match connection with
    | .document _ =>
      let r ← get
      let id := r.nextDocument
      let awaited : Awaited :=
        { id, ending := unquoted w, strips, expands := !hasQuotes w }
      set { r with nextDocument := id + 1, awaited := r.awaited ++ [awaited] }
      return .mk slot (.document id) []
    | _ => return .mk slot connection w
  | _ => unexpected

/-- Reads the redirections behind a compound command. -/
def redirections (g : Grammar) : Nat → List Redirection → Read (List Redirection)
  | 0, done => return done.reverse
  | steps + 1, done => do
    match ← g.next { reserved := true, aliases := true } with
    | .redirection slot connection strips =>
      redirections g steps ((← g.redirection slot connection strips) :: done)
    | _ => again; return done.reverse

/-! ## Commands -/

/-- A simple command as far as it was read; everything comes last one first. -/
structure Simple where
  settings : List Word := []
  words : List Word := []
  redirections : List Redirection := []

/-- Names that no function can have. -/
def specialBuiltins : List String :=
  [".", ":", "break", "continue", "eval", "exec", "exit", "export", "readonly", "return", "set",
    "shift", "times", "trap", "unset"]

/-- Reads a function whose name is known. -/
def function (g : Grammar) (name : Word) : Read (Option Node) := do
  match ← g.next {} with
  | .closing => pure ()
  | _ => expecting .closing
  let text := (plainText? name).getD []
  if !isName text || specialBuiltins.any (·.toList == text) then Read.wrong "Bad function name"
  match ← g.next Look.all with
  | _ =>
    again
    let line := (← get).line
    return some (.define line text (← g.command))

/-- Reads a simple command. -/
def simple (g : Grammar) (line : Nat) : Nat → Simple → Read (Option Node)
  | 0, _ => unexpected
  | steps + 1, c => do
    let finish : Read (Option Node) := do
      again
      return some (.simple line c.settings.reverse c.words.reverse c.redirections.reverse)
    match ← g.next { aliases := c.words.isEmpty } with
    | .word w =>
      if c.words.isEmpty && isSetting w then
        simple g line steps { c with settings := w :: c.settings }
      else simple g line steps { c with words := w :: c.words }
    | .redirection slot connection strips =>
      let r ← g.redirection slot connection strips
      simple g line steps { c with redirections := r :: c.redirections }
    | .opening =>
      match c.words, c.settings, c.redirections with
      | [name], [], [] => g.function name
      | _, _, _ => finish
    | _ => finish

/-- Reads the branches of a condition behind its first reserved word. -/
def condition (g : Grammar) : Nat → Read (Option Node)
  | 0 => unexpected
  | steps + 1 => do
    let test ← g.list .inner
    g.demand "then"
    let yes ← g.list .inner
    match ← g.next {} with
    | .reserved "elif" => return some (.choice test yes (← condition g steps))
    | .reserved "else" => return some (.choice test yes (← g.list .inner))
    | _ =>
      again
      return some (.choice test yes none)

/-- Reads words up to the end of their line. -/
def wordsOfLine (g : Grammar) : Nat → List Word → Read (List Word)
  | 0, done => return done.reverse
  | steps + 1, done => do
    match ← g.next {} with
    | .word w => wordsOfLine g steps (w :: done)
    | .newline | .semicolon => return done.reverse
    | _ => unexpected

/-- The word that stands for all parameters. -/
def allParameters : Word := [.mark, .parameter ['@'] .value false [], .mark]

/-- Reads a loop over words. -/
def each (g : Grammar) (line : Nat) : Read (Option Node) := do
  let name ← match ← g.next {} with
    | .word w => pure ((plainText? w).getD [])
    | _ => pure []
  unless isName name do Read.wrong "Bad for loop variable"
  let words ← match ← g.next Look.all with
    | .reserved "in" => wordsOfLine g (← Read.steps) []
    | .semicolon => pure [allParameters]
    | _ => do again; pure [allParameters]
  match ← g.next Look.all with
  | .reserved "do" => pure ()
  | _ => expecting (.reserved "do")
  return some (.each line name words (← g.list .inner))

/-- The word of the last token. -/
def lastWord : Read Word := do
  match (← get).last with
  | .word w => return w
  | .reserved w => return w.toList.map .plain
  | _ => return []

/-- Reads the patterns of a choice; the first token has been read. -/
def patterns (g : Grammar) : Nat → List Word → Read (List Word)
  | 0, done => return done.reverse
  | steps + 1, done => do
    let w ← lastWord
    match ← g.next {} with
    | .bar => let _ ← g.next {}; patterns g steps (w :: done)
    | .closing => return (w :: done).reverse
    | _ => expecting .closing

/-- Reads the choices of a case. -/
def choices (g : Grammar) : Nat → List Choice → Read (List Choice)
  | 0, done => return done.reverse
  | steps + 1, done => do
    match ← g.next { newlines := true, reserved := true } with
    | .reserved "esac" => return done.reverse
    | t =>
      if let .opening := t then
        let _ ← g.next {}
      let ps ← patterns g (← Read.steps) []
      let done := .mk ps (← g.list .substituted) :: done
      match ← g.next { newlines := true, reserved := true } with
      | .reserved "esac" => return done.reverse
      | .endChoice => choices g steps done
      | _ => expecting .endChoice

/-- Reads a case. -/
def select (g : Grammar) (line : Nat) : Read (Option Node) := do
  let w ← match ← g.next {} with
    | .word w => pure w
    | _ => expecting (.word [])
  match ← g.next Look.all with
  | .reserved "in" => pure ()
  | _ => expecting (.reserved "in")
  return some (.select line w (← choices g (← Read.steps) []))

/-- Reads the end of a compound command. -/
def closed (g : Grammar) (t : Token) (body : Option Node) : Read (Option Node) := do
  match t, ← g.next {} with
  | .closing, .closing => return body
  | .reserved w, .reserved v => if w = v then return body else expecting t
  | _, _ => expecting t

/-- A compound command with its redirections. -/
def withRedirections (g : Grammar) (line : Nat) (body : Option Node) : Read (Option Node) := do
  match body, ← redirections g (← Read.steps) [] with
  | body, [] => return body
  | some (.subshell line inner _), rs => return some (.subshell line inner rs)
  | body, rs => return some (.redirected line body rs)

/-- Reads a command whose first token has been looked at. -/
def commandBody (g : Grammar) : Read (Option Node) := do
  let t ← g.next {}
  let line := (← get).line
  match t with
  | .reserved "if" =>
    g.withRedirections line (← g.closed (.reserved "fi") (← condition g (← Read.steps)))
  | .reserved "while" =>
    let test ← g.list .inner
    g.demand "do"
    g.withRedirections line
      (← g.closed (.reserved "done") (some (.repeated true test (← g.list .inner))))
  | .reserved "until" =>
    let test ← g.list .inner
    g.demand "do"
    g.withRedirections line
      (← g.closed (.reserved "done") (some (.repeated false test (← g.list .inner))))
  | .reserved "for" => g.withRedirections line (← g.closed (.reserved "done") (← g.each line))
  | .reserved "case" => g.withRedirections line (← g.select line)
  | .opening =>
    let body ← g.list .inner
    g.withRedirections line (← g.closed .closing (some (.subshell line body [])))
  | .reserved "\x7b" =>
    g.withRedirections line (← g.closed (.reserved "\x7d") (← g.list .inner))
  | .word _ | .redirection .. =>
    again
    g.simple line (← Read.steps) {}
  | _ => unexpected

/-- Reads the commands of a pipeline behind the first. -/
def piped (g : Grammar) : Nat → List (Option Node) → Read (List (Option Node))
  | 0, done => return done.reverse
  | steps + 1, done => do
    match ← g.next {} with
    | .bar =>
      let _ ← g.next Look.all
      again
      piped g steps ((← g.commandBody) :: done)
    | _ => again; return done.reverse

/-- Reads a pipeline. -/
def pipeline (g : Grammar) : Read (Option Node) := do
  let isNegated := isReserved "!" (← g.next {})
  if isNegated then
    let _ ← g.next { reserved := true, aliases := true }
  again
  let body ← match ← piped g (← Read.steps) [← g.commandBody] with
    | [one] => pure one
    | commands => pure (some (.pipe false commands))
  return if isNegated then some (.negated body) else body

/-- Reads pipelines that depend on each other. -/
def conditional (g : Grammar) : Nat → Option Node → Read (Option Node)
  | 0, done => return done
  | steps + 1, done => do
    match ← g.next {} with
    | .both =>
      let _ ← g.next Look.all
      again
      conditional g steps (some (.both done (← g.pipeline)))
    | .either =>
      let _ ← g.next Look.all
      again
      conditional g steps (some (.either done (← g.pipeline)))
    | _ => again; return done

/-- A command that is not waited for. -/
def inBackground : Option Node → Option Node
  | some (.pipe _ commands) => some (.pipe true commands)
  | some (.redirected line body rs) => some (.background line body rs)
  | body => some (.background 0 body [])

/-- Tokens that end a list. -/
def endsList : Token → Bool
  | .ended | .closing | .endChoice => true
  | .reserved w => ["do", "done", "elif", "else", "esac", "fi", "then", "\x7d"].contains w
  | _ => false

/-- One command after another. -/
def after (first second : Option Node) : Option Node :=
  match first with
  | none => second
  | some _ => some (.sequence first second)

/-- Reads a list of commands behind those that were read. The flag tells that the list may end. -/
def listFrom (g : Grammar) (place : ListPlace) : Nat → Bool → Option Node → Read (Option Node)
  | 0, _, done => return done
  | steps + 1, mayEnd, done => do
    let t ← g.next { newlines := place != .line, reserved := true, aliases := true }
    match t with
    | .newline =>
      documents g.inner
      return done
    | .ended =>
      documents g.inner
      again
      modify fun r => { r with last := .ended }
      return done
    | t =>
      again
      if mayEnd && place != .line && endsList t then return done
      let one ← conditional g (← Read.steps) (← g.pipeline)
      let t ← g.next {}
      let one := match t with
        | .ampersand => inBackground one
        | _ => one
      let done := after done one
      match t with
      | .ended =>
        documents g.inner
        again
        return done
      | .newline => again; listFrom g place steps true done
      | .ampersand | .semicolon => listFrom g place steps true done
      | _ =>
        if place == .line then unexpected
        again
        return done

end Grammar

/-- The grammar with commands nested at most so deep. -/
def grammar : Nat → Grammar
  | 0 => { list := fun _ => Read.wrong "too deep", command := Read.wrong "too deep" }
  | depth + 1 =>
    let g := grammar depth
    { list := fun place => do
        Grammar.listFrom g place (← Read.steps) (place == .substituted) none
      command := Grammar.commandBody g }

/-- How deep commands may be nested. -/
def maxNesting : Nat := 1000

/-- What comes of reading a line of commands. -/
inductive Line where
  /-- The script is at its end. -/
  | ended
  /-- A line, which may be empty; the flag tells that nothing follows. -/
  | commands (body : Option Node) (isLast : Bool)

/-- Reads a line of commands. -/
def readLine : Read Line := do
  modify fun r => { r with again := false, awaited := [] }
  let body ← (grammar maxNesting).list .line
  let r ← get
  let isLast := match r.last, r.again with
    | .ended, true => true
    | _, _ => false
  if body.isNone && isLast then return .ended else return .commands body isLast

end PipeShell.Machine.Script
