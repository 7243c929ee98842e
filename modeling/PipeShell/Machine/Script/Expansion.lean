import PipeShell.Machine.Script.Arithmetic
import PipeShell.Machine.Script.Pattern
import PipeShell.Machine.Script.Shell

/-!
# Expansion of words

A word is expanded to characters that know whether they are quoted and whether they may be split at,
with signs where quotes stand and where parameters end. The characters are split into fields, and a
field with an active pattern becomes the paths that it fits, if there are any.
-/

set_option autoImplicit false

namespace PipeShell.Machine.Script

/-- A piece of an expanded word. -/
inductive Cell where
  | char (c : Char) (quoted splits : Bool)
  /-- Quotes; a field that holds some is kept even if it is empty. -/
  | mark
  /-- An end of a parameter; empty fields in between are dropped. -/
  | gap
  /-- An end of a parameter; all fields are kept. -/
  | edge
  deriving DecidableEq, Repr

namespace Cell

/-- The text of cells. -/
def text (cells : List Cell) : Raw := cells.filterMap fun c =>
  match c with
  | char c _ _ => some c
  | _ => none

/-- The pattern of cells. -/
def pattern (cells : List Cell) : Pattern := cells.filterMap fun c =>
  match c with
  | char c quoted _ => some (c, quoted)
  | _ => none

end Cell

/-! ## Fields -/

/-- The characters that fields are split at unless others are set. -/
def usualSeparators : Raw := [' ', '\t', '\n']

/-- The separators among cells. -/
inductive Separation where
  | none
  /-- Blanks, of which many count as one. -/
  | soft
  /-- A character that always ends a field. -/
  | hard
  /-- The end of a parameter. -/
  | edge
  deriving DecidableEq, Repr

/-- How a cell separates. -/
def Cell.separation (separators : Raw) : Cell → Separation
  | char c _ true =>
    if separators.contains c then (if usualSeparators.contains c then .soft else .hard) else .none
  | gap => .soft
  | edge => .edge
  | _ => .none

/-- Splits cells into fields. `current` is the field at work, its last cell first; `passed` tells
that a blank has just ended a field. -/
def splitFrom (separators : Raw) : List Cell → Option (List Cell) → Bool → List (List Cell)
  | [], current, _ => (current.map List.reverse).toList
  | cell :: rest, current, passed =>
    match cell.separation separators, current with
    | .none, current => splitFrom separators rest (some (cell :: current.getD [])) false
    | .soft, some field => field.reverse :: splitFrom separators rest none true
    | .soft, none => splitFrom separators rest none passed
    | .hard, some field => field.reverse :: splitFrom separators rest none false
    | .hard, none =>
      if passed then splitFrom separators rest none false
      else [] :: splitFrom separators rest none false
    | .edge, current => (current.getD []).reverse :: splitFrom separators rest none false

/-- Splits cells into fields. -/
def split (separators : Raw) (cells : List Cell) : List (List Cell) :=
  splitFrom separators cells none false

/-! ## Parameters -/

/-- What the characters of a value are. -/
def valueCells (quoted : Bool) (value : Raw) : List Cell :=
  value.map fun c => .char c quoted (!quoted)

/-- Parameters with something between them. -/
def spreadCells (quoted : Bool) (marked : Bool) (between : List Cell) (values : List Raw) :
    List Cell :=
  let shown (v : Raw) : List Cell := (if marked then [.mark] else []) ++ valueCells quoted v
  ((values.map shown).intersperse between).flatten

/-- How a word is expanded. -/
structure Manner where
  /-- Is all of it quoted? -/
  quoted : Bool := false
  /-- Is it going to be split into fields? -/
  full : Bool := false
  /-- May its own plain characters be split at? -/
  splits : Bool := false
  tilde : Bool := false
  /-- Are tildes expanded behind colons and the equals sign, too? -/
  settingTilde : Bool := false

/-- The separators in force. -/
def separatorsOf (env : Env) : Raw := (Shell.valueOf env "IFS".toList).getD usualSeparators

/-- The letters of options, in the order in which they are shown. -/
def optionLetters : List Char :=
  ['e', 'f', 'I', 'i', 'm', 'n', 's', 'x', 'v', 'V', 'E', 'C', 'a', 'b', 'u']

/-- The cells of the values of all parameters. -/
def parametersCells (env : Env) (name : Char) (m : Manner) : List Cell :=
  if name == '@' && m.quoted && m.full then spreadCells true true [.edge] env.parameters
  else if m.full && !m.quoted then spreadCells false false [.gap] env.parameters
  else
    let between : List Cell := match Shell.valueOf env "IFS".toList with
      | none => [.char ' ' m.quoted false]
      | some (c :: _) => [.char c m.quoted false]
      | some [] => []
    spreadCells m.quoted false between env.parameters

/-- The cells of the value of a parameter, if it has one. -/
def parameterCells (env : Env) (name : Raw) (m : Manner) : Option (List Cell) :=
  let text (r : Raw) : Option (List Cell) := some (valueCells m.quoted r)
  match name with
  | ['$'] => text (Numeral.ofNat env.self)
  | ['?'] => text (Numeral.ofInt env.status)
  | ['#'] => text (Numeral.ofNat env.parameters.length)
  | ['!'] => env.lastBackground.bind fun p => text (Numeral.ofNat p)
  | ['-'] => text (optionLetters.reverse.filter env.options.contains)
  | ['@'] | ['*'] =>
    if env.parameters.isEmpty then none else some (parametersCells env (name.headD '*') m)
  | c :: _ =>
    if c.isDigit then
      let n := Number.valueIn 10 name
      if n = 0 then text env.name else (env.parameters[n - 1]?).bind text
    else (Shell.valueOf env name).bind text
  | [] => none

/-- The home of a user. -/
def homeOf (env : Env) (user : Raw) : Option Raw :=
  if user.isEmpty then Shell.valueOf env "HOME".toList
  else if user == "root".toList then some "/root".toList
  else none

/-- A tilde at the front of a word: the home that it stands for, and what follows it. -/
def tildeAt (env : Env) (colons : Bool) (w : Word) : Option (Raw × Word) :=
  match w with
  | .plain '~' :: rest =>
    let ends (c : Char) : Bool := c == '/' || (colons && c == ':')
    let user := (plainFront rest).takeWhile fun c => !ends c
    let after := rest.drop user.length
    let closed := match after with
      | [] => true
      | .plain c :: _ => ends c
      | _ => false
    if closed then (homeOf env user).map fun home => (home, after) else none
  | _ => none

/-- The quoted characters at the front of a word. -/
def quotedFront : Word → Raw
  | .quoted c :: rest => c :: quotedFront rest
  | _ => []

/-- Complains of a parameter without a value. -/
def complainUnset {α : Type} (name message : Raw) : Shell α :=
  Shell.fail (name ++ ": ".toList ++ message)

mutual

/-- Expands the parts of a word. `inQuotes` tells whether quotes are open; with `colon` a tilde may
follow. -/
def cellsOf (put : Option Node → Shell Raw) (m : Manner) :
    Nat → Word → Bool → Bool → Shell (List Cell)
  | 0, _, _, _ => return []
  | _ + 1, [], _, _ => return []
  | steps + 1, w, inQuotes, colon => do
    let env ← get
    let quoted := m.quoted || inQuotes
    match if colon && !quoted then tildeAt env m.settingTilde w else none with
    | some (home, rest) =>
      return valueCells true home ++ (← cellsOf put m steps rest inQuotes false)
    | none =>
      match w with
      | [] => return []
      | .mark :: .parameter ['@'] .value _ _ :: .mark :: rest =>
        if inQuotes then
          let cells ← cellsOf put m steps (.parameter ['@'] .value false [] :: .mark :: rest)
            false false
          return .mark :: cells
        else
          let cells ← parameter put { m with quoted := true } steps ['@'] .value false []
          return cells ++ (← cellsOf put m steps rest inQuotes false)
      | .mark :: rest => return .mark :: (← cellsOf put m steps rest (!inQuotes) false)
      | .plain c :: rest =>
        let again := m.settingTilde && (c == ':' || c == '=')
        return .char c m.quoted (m.splits && !quoted) ::
          (← cellsOf put m steps rest inQuotes again)
      | .quoted c :: rest =>
        let more := quotedFront rest
        let run := (c :: more).map fun c => Cell.char c true false
        return run ++ (← cellsOf put m steps (rest.drop more.length) inQuotes false)
      | .parameter name rule orEmpty word :: rest =>
        let cells ← parameter put { m with quoted } steps name rule orEmpty word
        return cells ++ (← cellsOf put m steps rest inQuotes false)
      | .command body :: rest =>
        let cells := valueCells quoted (← put body)
        return cells ++ (← cellsOf put m steps rest inQuotes false)
      | .arithmetic expression :: rest =>
        let text := Cell.text (← cellsOf put { quoted := true } steps expression false false)
        let cells := valueCells quoted (← number text)
        return cells ++ (← cellsOf put m steps rest inQuotes false)
where
  /-- The value of an expression, its assignments carried out. -/
  number (text : Raw) : Shell Raw := do
    let env ← get
    match Arithmetic.evaluate (fun name => (Shell.valueOf env name).getD []) text with
    | .error (.expression message) =>
      Shell.fail ("arithmetic expression: ".toList ++ message.toList ++ ": \"".toList ++ text ++
        ['"'])
    | .error (.notNumber value) => Shell.illegalNumber value
    | .ok (n, assigned) =>
      for (name, value) in assigned.reverse do
        Shell.setVariable name (Numeral.ofInt value) false
      return Numeral.ofInt n

/-- Expands a parameter by its rule. -/
def parameter (put : Option Node → Shell Raw) (m : Manner) :
    Nat → Raw → Rule → Bool → Word → Shell (List Cell)
  | 0, _, _, _, _ => return []
  | steps + 1, name, rule, orEmpty, word => do
    let env ← get
    let value := parameterCells env name m
    let isEmpty : Bool := match value with
      | none => true
      | some cells => orEmpty && (cells.all (· == .mark))
    let inner : Manner := { m with splits := m.full && !m.quoted, tilde := true
                                   settingTilde := false }
    let expanded (m : Manner) : Shell (List Cell) := cellsOf put m steps word false true
    let demand : Shell Unit := do
      if value.isNone && env.options.contains 'u' && name != ['@'] && name != ['*'] then
        complainUnset name "parameter not set".toList
    match rule with
    | .unknown => Shell.fail "Bad substitution".toList
    | .orElse => if isEmpty then expanded inner else return value.getD []
    | .andThen => if isEmpty then return [] else expanded inner
    | .orAssign =>
      if isEmpty then
        Shell.assign name (Cell.text (← expanded { inner with full := false, splits := false }))
        return (parameterCells (← get) name m).getD []
      else return value.getD []
    | .orFail =>
      if isEmpty then
        let usual := if orEmpty then "parameter not set or null" else "parameter not set"
        if word.isEmpty then complainUnset name usual.toList
        else
          complainUnset name (Cell.text (← expanded { inner with full := false, splits := false }))
      else return value.getD []
    | .value =>
      demand
      return value.getD []
    | .length =>
      demand
      return valueCells m.quoted (Numeral.ofNat (Cell.text (value.getD [])).length)
    | .cutFront most =>
      demand
      let p ← expanded { tilde := true }
      return valueCells m.quoted
        (Pattern.cutFront (Cell.pattern p) most (Cell.text (value.getD [])))
    | .cutBack most =>
      demand
      let p ← expanded { tilde := true }
      return valueCells m.quoted
        (Pattern.cutBack (Cell.pattern p) most (Cell.text (value.getD [])))

end

/-- How far into a word expansion goes at most. -/
def expansionDepth : Nat := Nat.pow 2 40

/-- The cells of a word. -/
def expandCells (put : Option Node → Shell Raw) (m : Manner) (w : Word) : Shell (List Cell) :=
  cellsOf put m expansionDepth w false m.tilde

/-- The text of a word that is not split. -/
def expandText (put : Option Node → Shell Raw) (w : Word) : Shell Raw := do
  return Cell.text (← expandCells put { tilde := true } w)

/-- The text of a setting. -/
def expandSetting (put : Option Node → Shell Raw) (w : Word) : Shell Raw := do
  return Cell.text (← expandCells put { settingTilde := true } w)

/-- The pattern that a word is. -/
def expandPattern (put : Option Node → Shell Raw) (w : Word) : Shell Pattern := do
  return Cell.pattern (← expandCells put { tilde := true } w)

/-- The text of a here-document. -/
def expandDocument (put : Option Node → Shell Raw) (w : Word) : Shell Raw := do
  return Cell.text (← expandCells put { quoted := true } w)

/-- The fields of a word. -/
def expandFields (put : Option Node → Shell Raw) (w : Word) : Shell (List Raw) := do
  let cells ← expandCells put { full := true, tilde := true } w
  let env ← get
  let fields := split (separatorsOf env) cells
  let mut result := []
  for field in fields do
    let p := Cell.pattern field
    if p.isActive && !env.options.contains 'f' then
      let files ← Shell.ask Kernel.files
      let directory ← Shell.ask Kernel.directory
      match p.paths files directory with
      | [] => result := result ++ [Cell.text field]
      | paths => result := result ++ paths
    else result := result ++ [Cell.text field]
  return result

end PipeShell.Machine.Script
