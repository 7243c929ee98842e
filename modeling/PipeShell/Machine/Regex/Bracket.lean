import PipeShell.Machine.CharClass

/-!
# Sets of characters in brackets

A set is written as its characters, ranges of them and classes by name, behind a caret for all
others. A closing bracket that comes first and a dash at either end stand for themselves.
-/

set_option autoImplicit false

namespace PipeShell.Machine

/-- Why a regular expression cannot be read. -/
inductive RegexFault where
  | bracketMissing
  | bracketOpen
  | rangeBackward
  | className
  | characterName
  | backslashAtEnd
  | groupUnknown
  | groupOpen
  | groupUnopened
  | countOpen
  | countContent
  | countTooLarge
  | nothingToRepeat
  deriving DecidableEq, Repr

/-- The wording of a fault. -/
def RegexFault.message : RegexFault → String
  | bracketMissing => "Invalid regular expression"
  | bracketOpen => "Unmatched [, [^, [:, [., or [="
  | rangeBackward => "Invalid range end"
  | className => "Invalid character class name"
  | characterName => "Invalid collation character"
  | backslashAtEnd => "Trailing backslash"
  | groupUnknown => "Invalid back reference"
  | groupOpen => "Unmatched ( or \\("
  | groupUnopened => "Unmatched ) or \\)"
  | countOpen => "Unmatched \\\x7b"
  | countContent => "Invalid content of \\\x7b\\\x7d"
  | countTooLarge => "Regular expression too big"
  | nothingToRepeat => "Invalid preceding regular expression"

namespace Bracket

/-- What comes next in brackets. -/
inductive Token where
  | finish
  | plain (c : Char)
  | dash
  | close
  /-- A bracket with the sign that names something. -/
  | named (sign : Char)
  deriving DecidableEq, Repr

/-- What comes next, and what follows it. -/
def next : Raw → Token × Raw
  | [] => (.finish, [])
  | '[' :: '.' :: rest => (.named '.', rest)
  | '[' :: '=' :: rest => (.named '=', rest)
  | '[' :: ':' :: rest => (.named ':', rest)
  | '-' :: '-' :: '-' :: rest => (.plain '-', rest)
  | '-' :: rest => (.dash, rest)
  | ']' :: rest => (.close, rest)
  | c :: rest => (.plain c, rest)

/-- A member of a set: a character, one that was written by its name, all that are like one, or a
class. -/
inductive Member where
  | char (c : Char)
  | symbol (name : Raw)
  | alike (name : Raw)
  | kind (name : Raw)

/-- The name in front of a sign and a closing bracket, and what follows these. -/
def name (sign : Char) : Nat → Raw → Except RegexFault (Raw × Raw)
  | 0, _ => .error .bracketOpen
  | steps + 1, text =>
    match text with
    | [] | [_] => .error .bracketOpen
    | c :: d :: rest =>
      if c == sign && d == ']' then .ok ([], rest)
      else do
        let (more, rest) ← name sign steps (d :: rest)
        return (c :: more, rest)

/-- The longest name. -/
def nameSize : Nat := 32

/-- Reads a member that begins with a token. -/
def member (token : Token) (rest : Raw) (takesDash : Bool) : Except RegexFault (Member × Raw) :=
  match token with
  | .finish => .error .bracketOpen
  | .plain c => .ok (.char c, rest)
  | .close => .ok (.char ']', rest)
  | .dash =>
    if takesDash || (next rest).1 == .close then .ok (.char '-', rest) else .error .rangeBackward
  | .named sign => do
    let (name, rest) ← name sign nameSize rest
    match sign with
    | ':' => return (.kind name, rest)
    | '=' => return (.alike name, rest)
    | _ => return (.symbol name, rest)

/-- The end of a range. -/
def bound : Member → Except RegexFault Char
  | .char c => .ok c
  | .symbol [c] => .ok c
  | .symbol _ => .error .characterName
  | .alike _ | .kind _ => .error .rangeBackward

/-- The characters of a member. -/
def Member.test : Member → Except RegexFault (Char → Bool)
  | char c => .ok (· == c)
  | symbol [c] | alike [c] => .ok (· == c)
  | symbol _ | alike _ => .error .characterName
  | kind name =>
    match CharClass.find? name with
    | some test => .ok test
    | none => .error .className

/-- A set of characters as it was read, and whether all its members are single characters. -/
structure Set where
  test : Char → Bool := fun _ => false
  isPlain : Bool := true

/-- Reads members up to the closing bracket, the first of which begins with a token. -/
def members : Nat → Token → Raw → Bool → Set → Except RegexFault (Set × Raw)
  | 0, _, _, _, _ => .error .bracketOpen
  | steps + 1, token, rest, isFirst, set => do
    let (start, rest) ← member token rest isFirst
    let (token, behind) := next rest
    let mayStart := match start with
      | .char _ | .symbol _ => true
      | .alike _ | .kind _ => false
    let last := next behind
    let isRange := mayStart && token == .dash && last.1 != .close
    let isPlain := set.isPlain && !isRange && (match start with | .char _ => true | _ => false)
    let (test, token, behind) ← show Except RegexFault ((Char → Bool) × Token × Raw) from do
      if isRange then
        let (stop, rest) ← member last.1 last.2 true
        let first ← bound start
        let final ← bound stop
        if final < first then .error .rangeBackward
        let inRange (c : Char) : Bool := decide (first ≤ c) && decide (c ≤ final)
        return (inRange, next rest)
      else
        if mayStart && token == .finish then .error .bracketOpen
        let test ← start.test
        let isLastDash := mayStart && token == .dash
        return (test, if isLastDash then .plain '-' else token, behind)
    let set := { test := fun c => set.test c || test c, isPlain }
    match token with
    | .finish => .error .bracketOpen
    | .close => return (set, behind)
    | _ => members steps token behind false set

/-- A set as it was read behind its opening bracket, and what follows it. -/
structure Reading where
  members : Char → Bool
  /-- Are all others meant? -/
  isNegated : Bool
  /-- Does it look like a class that was written without the outer brackets? -/
  isConfusing : Bool
  rest : Raw

/-- Reads a set behind its opening bracket. -/
def read (text : Raw) : Except RegexFault Reading := do
  let (isNegated, text) := match text with
    | '^' :: rest => (true, rest)
    | _ => (false, text)
  match next text with
  | (.finish, _) => .error .bracketMissing
  | (token, rest) =>
    let (set, behind) ← members (text.length + 1) token rest true {}
    let inside := text.take (text.length - behind.length - 1)
    let isConfusing := set.isPlain && inside.head? == some ':' && inside.getLast? == some ':' &&
      inside.any (· != ':')
    return { members := set.test, isNegated, isConfusing, rest := behind }

end Bracket

end PipeShell.Machine
