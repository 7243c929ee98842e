import PipeShell.Machine.Regex
import PipeShell.Machine.Regex.Bracket

/-!
# Reading regular expressions

In the basic notation groups, counts, alternatives, `+` and `?` are written with a backslash, in the
extended one without. A strict reader refuses a repetition of nothing and, in the basic notation, of
a repetition; another one takes the sign for itself or skips it.
-/

set_option autoImplicit false

namespace PipeShell.Machine

/-- How regular expressions are written. -/
structure Notation where
  isExtended : Bool := false
  isStrict : Bool := false
  anyCase : Bool := false

/-- A regular expression as it was read. -/
structure Pattern where
  tree : Regex
  anyCase : Bool := false
  /-- The number of its groups. -/
  groups : Nat := 0
  /-- Is a group matched once more? -/
  isExact : Bool := false
  /-- What a reader may have meant otherwise. -/
  warnings : List Raw := []
  /-- Does it hold a class without its outer brackets? -/
  isConfusing : Bool := false

namespace Regex.Reader

/-- What comes next in a regular expression. -/
inductive Token where
  | finish
  | literal (c : Char)
  | one (accepts : Char → Bool)
  | anchor (place : Anchor)
  | again (number : Nat)
  | openSet
  | openGroup
  | closeGroup
  | alternative
  /-- A repetition, with the sign it is written by. -/
  | times (sign : Char)
  | openCount
  | closeCount
  | backslash

/-- How far a regular expression has been read. -/
structure State where
  /-- What stands behind the token at hand. -/
  rest : Raw
  token : Token := .finish
  groups : Nat := 0
  /-- The groups that are complete. -/
  complete : List Nat := []
  /-- Has nothing been read yet that can be repeated? -/
  atFront : Bool := true
  isExact : Bool := false
  warnings : List Raw := []
  isConfusing : Bool := false

/-- A step in reading a regular expression. -/
abbrev Reading := StateT State (Except RegexFault)

/-- The token that an escaped character is. -/
def escaped (n : Notation) (c : Char) : Token :=
  let basic (token : Token) : Token := if n.isExtended then .literal c else token
  match c with
  | '|' => basic .alternative
  | '(' => basic .openGroup
  | ')' => basic .closeGroup
  | '\x7b' => basic .openCount
  | '\x7d' => basic .closeCount
  | '+' | '?' => basic (.times c)
  | '<' => .anchor .wordStart
  | '>' => .anchor .wordEnd
  | 'b' => .anchor .wordEdge
  | 'B' => .anchor .elsewhere
  | '`' => .anchor .textStart
  | '\'' => .anchor .textEnd
  | 'w' => .one Subject.isWord
  | 'W' => .one fun c => !Subject.isWord c
  | 's' => .one Number.isSpace
  | 'S' => .one fun c => !Number.isSpace c
  | c => if c.isDigit && c != '0' then .again (c.toNat - '0'.toNat) else .literal c

/-- Does an alternative or the end of a group come next? -/
def endsBranch (n : Notation) (rest : Raw) : Bool :=
  match rest with
  | [] => true
  | '\\' :: c :: _ => !n.isExtended && (c == '|' || c == ')')
  | _ => false

/-- The first token of a text, and what follows it. A caret may be told to be an anchor. -/
def tokenOf (n : Notation) (caretIsAnchor : Bool) (text : Raw) : Token × Raw :=
  match text with
  | [] => (.finish, [])
  | ['\\'] => (.backslash, [])
  | '\\' :: c :: rest => (escaped n c, rest)
  | c :: rest =>
    let extended (token : Token) : Token := if n.isExtended then token else .literal c
    let token := match c with
      | '*' => .times c
      | '[' => .openSet
      | '.' => .one fun _ => true
      | '^' => if n.isExtended || caretIsAnchor then .anchor .lineStart else .literal c
      | '$' => if n.isExtended || endsBranch n rest then .anchor .lineEnd else .literal c
      | '|' => extended .alternative
      | '(' => extended .openGroup
      | ')' => extended .closeGroup
      | '\x7b' => extended .openCount
      | '\x7d' => extended .closeCount
      | '+' | '?' => extended (.times c)
      | c => .literal c
    (token, rest)

/-- Goes on to the next token. -/
def advance (n : Notation) (caretIsAnchor : Bool := false) : Reading Unit :=
  modify fun s =>
    let (token, rest) := tokenOf n caretIsAnchor s.rest
    { s with token, rest }

/-- A set with the other case of its letters. -/
def folded (n : Notation) (accepts : Char → Bool) : Char → Bool :=
  if n.anyCase then fun c => accepts c || accepts c.toLower || accepts c.toUpper else accepts

/-- Tells that something was read that can be repeated. -/
def leaveFront : Reading Unit := modify fun s => { s with atFront := false }

/-- A character that stands for itself. -/
def literal (n : Notation) (c : Char) : Reading Regex := do
  leaveFront
  return .one (folded n (· == c))

/-- The largest count of a repetition. -/
def largestCount : Nat := 32767

/-- A number in a count: none, one, or something else. -/
inductive Count where
  | absent
  | number (k : Nat)
  | senseless

/-- Reads a number in a count up to a comma or the end of the count. -/
def count (n : Notation) : Nat → Count → Reading Count
  | 0, _ => return .senseless
  | steps + 1, before => do
    advance n
    match (← get).token with
    | .finish => return .senseless
    | .closeCount | .literal ',' => return before
    | .literal c =>
      let digit := c.toNat - '0'.toNat
      count n steps <| match c.isDigit, before with
        | true, .absent => .number digit
        | true, .number k => .number (min (largestCount + 1) (k * 10 + digit))
        | _, _ => .senseless
    | _ => count n steps .senseless

/-- Reads what follows the start of a count: the least and the most, or nothing if this is no count
and the notation lets it stand for itself. -/
def counts (n : Notation) : Reading (Option (Nat × Option Nat)) := do
  let steps := (← get).rest.length + 1
  let senseless : Reading (Option (Nat × Option Nat)) := do
    if n.isExtended && !n.isStrict then return none
    match (← get).token with
    | .finish => throw .countOpen
    | _ => throw .countContent
  let isComma : Reading Bool := return match (← get).token with
    | .literal ',' => true
    | _ => false
  let least ← match ← count n steps .absent with
    | .number k => pure (some k)
    | .senseless => pure none
    | .absent => do if ← isComma then pure (some 0) else throw .countContent
  match least with
  | none => senseless
  | some least =>
    let most ← if ← isComma then count n steps .absent else pure (.number least)
    let isClosed := match (← get).token with
      | .closeCount => true
      | _ => false
    match most with
    | .senseless => senseless
    | .absent =>
      if !isClosed then throw .countContent
      if largestCount < least then throw .countTooLarge
      return some (least, none)
    | .number most =>
      if most < least || !isClosed then throw .countContent
      if largestCount < most then throw .countTooLarge
      return some (least, some most)

/-- A group that is repeated may be left out. -/
def optionalGroup : Regex → Regex
  | .group number _ body => .group number true body
  | r => r

/-- A repetition of what was read. What must be there is there before what may be. -/
def repetition (least : Nat) (most : Option Nat) (body : Regex) : Regex :=
  match least, most with
  | _, some 0 => .empty
  | 0, _ => .repeated 0 most (optionalGroup body)
  | _, some most =>
    if most = least then .repeated least (some least) body
    else .inRow (.repeated least (some least) body)
      (.repeated 0 (some (most - least)) (optionalGroup body))
  | _, none =>
    .inRow (.repeated least (some least) body) (.repeated 0 none (optionalGroup body))

/-- Reads repetitions behind what was read. -/
def repetitions (n : Notation) : Nat → Regex → Reading Regex
  | 0, r => return r
  | steps + 1, r => do
    let again (least : Nat) (most : Option Nat) : Reading Regex := do
      advance n
      let repeatsAgain := match (← get).token with
        | .times '*' | .openCount => true
        | _ => false
      if n.isStrict && !n.isExtended && repeatsAgain then throw .nothingToRepeat
      repetitions n steps (repetition least most r)
    match (← get).token with
    | .times sign => again (if sign == '+' then 1 else 0) (if sign == '?' then some 1 else none)
    | .openCount =>
      let before ← get
      match ← counts n with
      | some (least, most) => again least most
      | none =>
        set { before with token := .literal '\x7b' }
        return r
    | _ => return r

/-- Warns of a repetition of nothing. -/
def warnOfRepetition (what : String) : Reading Unit := do
  if (← get).atFront then
    modify fun s => { s with warnings := s.warnings ++ [(what ++ " at start of expression").toList] }

/-- Is the token at hand the end of a branch, within a group or outside? -/
def isBranchEnd (inGroup : Bool) : Token → Bool
  | .finish | .alternative => true
  | .closeGroup => inGroup
  | _ => false

/-- Reads repetitions behind an anchor, where they change nothing but that it may be left out. -/
def repeatedAnchor (n : Notation) (r : Regex) : Reading Regex := do
  let s ← get
  match s.token with
  | .times sign => warnOfRepetition (String.singleton sign)
  | .openCount =>
    match (counts n).run s with
    | .ok (some _, _) => warnOfRepetition "\x7b...\x7d"
    | _ => pure ()
  | _ => pure ()
  repetitions n (s.rest.length + 2) r

mutual

/-- Reads alternatives. -/
def alternatives (n : Notation) (inGroup : Bool) : Nat → Reading Regex
  | 0 => throw .groupOpen
  | steps + 1 => do
    let first ← branch n inGroup steps
    moreAlternatives n inGroup steps first

/-- Reads the alternatives behind the first one. -/
def moreAlternatives (n : Notation) (inGroup : Bool) : Nat → Regex → Reading Regex
  | 0, _ => throw .groupOpen
  | steps + 1, first => do
    match (← get).token with
    | .alternative =>
      modify fun s => { s with atFront := true }
      advance n true
      let second ← if isBranchEnd inGroup (← get).token then pure .empty else branch n inGroup steps
      moreAlternatives n inGroup steps (.either first second)
    | _ => return first

/-- Reads pieces in a row. -/
def branch (n : Notation) (inGroup : Bool) : Nat → Reading Regex
  | 0 => throw .groupOpen
  | steps + 1 => do
    let first ← piece n inGroup steps
    morePieces n inGroup steps first

/-- Reads the pieces behind the first one. -/
def morePieces (n : Notation) (inGroup : Bool) : Nat → Regex → Reading Regex
  | 0, _ => throw .groupOpen
  | steps + 1, first => do
    if isBranchEnd inGroup (← get).token then return first
    let second ← piece n inGroup steps
    morePieces n inGroup steps (.inRow first second)

/-- Reads a piece with its repetitions. -/
def piece (n : Notation) (inGroup : Bool) : Nat → Reading Regex
  | 0 => throw .groupOpen
  | steps + 1 => do
    let behind (r : Regex) : Reading Regex := do
      leaveFront
      advance n
      repetitions n ((← get).rest.length + 2) r
    let plain (c : Char) : Reading Regex := do behind (← literal n c)
    match (← get).token with
    | .finish | .alternative => return .empty
    | .backslash => throw .backslashAtEnd
    | .literal c => plain c
    | .one accepts => behind (.one accepts)
    | .anchor place =>
      advance n true
      if n.isExtended && !n.isStrict then repeatedAnchor n (.anchor place) else return .anchor place
    | .again number =>
      if !(← get).complete.contains number then throw .groupUnknown
      modify fun s => { s with isExact := true }
      behind (.again number)
    | .openSet =>
      let set ← liftM (Bracket.read (← get).rest)
      let members := folded n set.members
      modify fun s => { s with rest := set.rest, isConfusing := s.isConfusing || set.isConfusing }
      behind (.one fun c => members c != set.isNegated)
    | .openGroup =>
      let number := (← get).groups + 1
      modify fun s => { s with groups := number, atFront := true }
      advance n true
      let body ← match (← get).token with
        | .closeGroup => pure .empty
        | _ => alternatives n true steps
      match (← get).token with
      | .closeGroup =>
        modify fun s => { s with complete := number :: s.complete }
        behind (.group number false body)
      | _ => throw .groupOpen
    | .closeGroup =>
      if n.isStrict || !n.isExtended then throw .groupUnopened
      plain ')'
    | .closeCount => plain '\x7d'
    | .times sign =>
      if !n.isExtended then plain sign
      else if n.isStrict then throw .nothingToRepeat
      else
        warnOfRepetition (String.singleton sign)
        advance n
        piece n inGroup steps
    | .openCount =>
      if n.isStrict then throw .nothingToRepeat
      else if !n.isExtended then plain '\x7b'
      else
        let before ← get
        match ← counts n with
        | some _ =>
          warnOfRepetition "\x7b...\x7d"
          advance n
          piece n inGroup steps
        | none =>
          set before
          plain '\x7b'

end

end Regex.Reader

namespace Pattern

open Regex.Reader

/-- Reads a regular expression. -/
def read (n : Notation) (text : Raw) : Except RegexFault Pattern :=
  let reading : Reading Regex := do
    advance n true
    alternatives n false (4 * text.length + 8)
  match reading.run { rest := text } with
  | .error f => .error f
  | .ok (tree, s) => .ok { tree, anyCase := n.anyCase, groups := s.groups, isExact := s.isExact, warnings := s.warnings, isConfusing := s.isConfusing }

/-- A row of characters that stand for themselves. -/
def ofText (anyCase : Bool) (text : Raw) : Pattern :=
  { tree := text.foldr (fun c rest => .inRow (.one (folded { anyCase } (· == c))) rest) .empty,
    anyCase }

/-- What a pattern is matched with. -/
def subject (p : Pattern) (text : Raw) (byLine : Bool := false) : Subject :=
  { bytes := text.toArray, byLine, anyCase := p.anyCase, isExact := p.isExact }

/-- The first match in a text that starts at a place or behind it. -/
def search (p : Pattern) (t : Subject) (i : Nat := 0) : Option Match := p.tree.search t i

end Pattern

end PipeShell.Machine
