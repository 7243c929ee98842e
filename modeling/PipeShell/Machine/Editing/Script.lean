import PipeShell.Machine.Regex.Reader

/-!
# Scripts for editing streams

A script is a row of commands, each for the lines that its addresses choose. Lines are edited in a
pattern space; a hold space keeps text from one line to the next.
-/

set_option autoImplicit false

namespace PipeShell.Machine.Editing

/-- What a line is matched with: a pattern, and whether lines within the text count. -/
structure Sought where
  pattern : Pattern
  byLine : Bool := false

/-- What chooses a line. -/
inductive Address where
  | number (n : Nat)
  /-- Every line that is so many lines, or a multiple of that, behind a first one. -/
  | every (first step : Nat)
  | last
  /-- A line that holds a match, of the pattern that was used last if none is given. -/
  | fits (sought : Option Sought)
  /-- The end of a range: so many lines behind its start. -/
  | later (n : Nat)
  /-- The end of a range: a line whose number is a multiple. -/
  | multiple (n : Nat)

/-- How letters are written. -/
inductive Casing where
  | upper
  | lower
  deriving DecidableEq, Repr

/-- How the letters of a piece are written, and how the first one is. -/
structure Lettering where
  all : Option Casing := none
  first : Option Casing := none
  deriving DecidableEq, Repr

/-- A piece of a replacement: a text, and the content of a group behind it. -/
structure Piece where
  text : Raw
  group : Option Nat := none
  lettering : Lettering := {}

/-- What a substitution does with matches. -/
structure Substitution where
  sought : Option Sought
  pieces : List Piece
  isGlobal : Bool := false
  /-- The first match that is replaced. -/
  first : Nat := 1
  prints : Bool := false
  /-- Is the outcome carried out as a command? -/
  runs : Bool := false
  target : Option Raw := none

/-- What a command does. -/
inductive Action where
  | nothing
  /-- Goes behind the end of a block. -/
  | skip (index : Nat)
  | append (text : Raw)
  | insert (text : Raw)
  | change (text : Raw)
  | jump (index : Nat)
  | jumpIfReplaced (index : Nat)
  | jumpUnlessReplaced (index : Nat)
  | delete
  | deleteFirst
  | getHold
  | addHold
  | hold
  | addToHold
  | exchange
  | list (width : Option Nat)
  | next
  | addNext
  | print
  | printFirst
  | printName
  | printNumber
  | quit (code : Nat)
  | quitSilently (code : Nat)
  | read (path : Raw)
  | readLine (path : Raw)
  | substitute (s : Substitution)
  | write (path : Raw)
  | writeFirst (path : Raw)
  | translate (pairs : List (Char × Char))
  | clear
  /-- Runs a command, or the pattern space as one. -/
  | run (command : Raw)

/-- A command. -/
structure Command where
  start : Option Address := none
  stop : Option Address := none
  /-- Is it for the lines that are not chosen? -/
  isInverted : Bool := false
  action : Action := .nothing

/-- The default number of characters in a line of a listing. -/
def listWidth : Nat := 70

/-- A script. -/
structure Script where
  commands : Array Command := #[]
  /-- Was it marked as one that prints nothing by itself? -/
  isSilent : Bool := false

/-! ## Replacing -/

/-- A letter in a case. -/
def Casing.apply : Casing → Char → Char
  | upper, c => c.toUpper
  | lower, c => c.toLower

/-- A text in a lettering. -/
def Lettering.apply (l : Lettering) : Raw → Raw
  | [] => []
  | c :: rest =>
    let rest := match l.all with
      | some k => rest.map k.apply
      | none => rest
    match l.first <|> l.all with
    | some k => k.apply c :: rest
    | none => c :: rest

/-- What a match is replaced by. How a first letter is written is left to the next text where a
group is empty. -/
def replacement (pieces : List Piece) (m : Match) (t : Subject) : Raw :=
  let step (state : Raw × Option Casing) (p : Piece) : Raw × Option Casing :=
    let (shown, carried) := state
    let lettering := if p.lettering.first.isSome then p.lettering
      else { p.lettering with first := carried }
    let shown := shown ++ lettering.apply p.text
    let inner := if p.text.isEmpty then lettering else { lettering with first := none }
    match p.group with
    | none => (shown, none)
    | some number =>
      let content := m.held t number
      if content.isEmpty then (shown, if p.lettering.first.isSome then inner.first else none)
      else (shown ++ inner.apply content, none)
  (pieces.foldl step ([], none)).1

/-- A text in which matches are replaced, from a place on, and whether any was. A match of nothing
directly behind another match does not count. -/
def substituteFrom (s : Substitution) (p : Pattern) (t : Subject) :
    Nat → Nat → Option Nat → Nat → Raw → Raw × Bool
  | 0, i, _, _, shown => (shown ++ Match.between t i t.size, false)
  | steps + 1, i, lastEnd, count, shown =>
    match if t.size < i then none else p.search t i with
    | none => (shown ++ Match.between t i t.size, false)
    | some m =>
      let shown := shown ++ Match.between t i m.start
      let isVain := m.start == m.stop && lastEnd == some m.start
      let count := if isVain then count else count + 1
      let isReplaced := !isVain && decide (s.first ≤ count)
      let shown := shown ++
        (if isReplaced then replacement s.pieces m t else Match.between t m.start m.stop)
      if isReplaced && !s.isGlobal then (shown ++ Match.between t m.stop t.size, true)
      else
        let shown := if m.start == m.stop then shown ++ Match.between t m.stop (m.stop + 1) else shown
        let next := if m.start == m.stop then m.stop + 1 else m.stop
        let (shown, more) := substituteFrom s p t steps next (some m.stop) count shown
        (shown, isReplaced || more)

/-! ## Listing -/

/-- A byte as a listing shows it. -/
def shownByte (c : Char) : Raw :=
  match c with
  | '\\' => ['\\', '\\']
  | '\n' => ['\\', 'n']
  | '\t' => ['\\', 't']
  | '\r' => ['\\', 'r']
  | c =>
    match [(7, 'a'), (8, 'b'), (11, 'v'), (12, 'f')].lookup c.toNat with
    | some letter => ['\\', letter]
    | none =>
      if CharClass.isGraphic c || c == ' ' then [c]
      else '\\' :: (Nat.toDigits 8 (512 + c.toNat)).tail

/-- A text as a listing shows it, in lines of a width. -/
def listing (width : Nat) (text : Raw) : Raw :=
  let step (state : List Raw × Nat) (c : Char) : List Raw × Nat :=
    let (shown, column) := state
    let piece := shownByte c
    if width != 0 && decide (width - 1 < column + piece.length) then
      (piece :: ['\\', '\n'] :: shown, piece.length)
    else (piece :: shown, column + piece.length)
  (text.foldl step ([], 0)).1.reverse.flatten ++ ['$', '\n']

end PipeShell.Machine.Editing
