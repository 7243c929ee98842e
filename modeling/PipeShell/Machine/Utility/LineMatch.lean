import PipeShell.Machine.Regex.Reader

/-!
# Matches in lines

A line is matched with several patterns at once. Of their matches the one that starts first counts,
and of those the longest. A match can be asked to be a whole line, or whole words.
-/

set_option autoImplicit false

namespace PipeShell.Machine

/-- What a match must be. -/
inductive Extension where
  | anything
  | words
  | line
  deriving DecidableEq, Repr

/-- Patterns to look for, and what a match must be. -/
structure LineMatcher where
  patterns : List Pattern
  extension : Extension := .anything

namespace LineMatcher

/-- Is a piece of a subject not part of longer words? -/
def standsAlone (t : Subject) (start stop : Nat) : Bool :=
  !t.holdsBefore Subject.isWord start && !t.holdsAt Subject.isWord stop

/-- The end of the longest match from a place on that is as it must be. -/
def endFrom (e : Extension) (p : Pattern) (t : Subject) (i : Nat) : Option Nat :=
  let ends := (p.tree.reach t { place := i }).map Reached.place
  match e with
  | .anything => ends.max?
  | .line => if i = 0 && ends.contains t.size then some t.size else none
  | .words =>
    match ends.max? with
    | none => none
    | some longest =>
      if standsAlone t i longest then some longest
      else (ends.filter fun stop => decide (i < stop) && standsAlone t i stop).max?

/-- The first match of a pattern that starts in one of so many places from the given one on. -/
def firstOf (e : Extension) (p : Pattern) (t : Subject) : Nat → Nat → Option (Nat × Nat)
  | 0, _ => none
  | steps + 1, i =>
    match endFrom e p t i with
    | some stop => some (i, stop)
    | none => firstOf e p t steps (i + 1)

/-- The better one of two matches. -/
def better : Option (Nat × Nat) → Option (Nat × Nat) → Option (Nat × Nat)
  | none, b => b
  | a, none => a
  | some a, some b => if b.1 < a.1 || (b.1 == a.1 && decide (a.2 < b.2)) then some b else some a

/-- The best match in a line that starts at a place or behind it. -/
def find (m : LineMatcher) (line : Raw) (i : Nat := 0) : Option (Nat × Nat) :=
  m.patterns.foldl (fun found p =>
    let t := p.subject line true
    better found (firstOf m.extension p t (t.size + 1 - i) i)) none

/-- Does a line hold a match? -/
def fits (m : LineMatcher) (line : Raw) : Bool :=
  m.patterns.any fun p =>
    let t := p.subject line true
    (firstOf m.extension p t (t.size + 1) 0).isSome

/-- The matches in a line that are not empty, from a place on, in so many steps. -/
def allFrom (m : LineMatcher) (line : Raw) : Nat → Nat → List (Nat × Nat)
  | 0, _ => []
  | steps + 1, i =>
    match m.find line i with
    | none => []
    | some (start, stop) =>
      if start = stop then (if line.length ≤ start then [] else allFrom m line steps (start + 1))
      else (start, stop) :: allFrom m line steps stop

/-- The matches in a line that are not empty, in order. -/
def all (m : LineMatcher) (line : Raw) : List (Nat × Nat) := m.allFrom line (line.length + 2) 0

end LineMatcher

end PipeShell.Machine
