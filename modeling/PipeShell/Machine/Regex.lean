import PipeShell.Machine.Raw

/-!
# Regular expressions

A regular expression fits pieces of a subject. The matches from one place are found in the order in
which they are preferred: a first alternative before a second one, more rounds of a repetition before
fewer. Of the pieces that it fits, the one that starts first counts, and of those the longest; among
the ways to fit that piece the preferred one tells what the groups hold.
-/

set_option autoImplicit false

namespace PipeShell.Machine

/-- What a place between two bytes can be. -/
inductive Anchor where
  | lineStart
  | lineEnd
  | textStart
  | textEnd
  | wordStart
  | wordEnd
  | wordEdge
  | elsewhere
  deriving DecidableEq, Repr

/-- A regular expression. -/
inductive Regex where
  | empty
  /-- One byte of a set. -/
  | one (accepts : Char → Bool)
  | anchor (place : Anchor)
  /-- A group that is remembered, and whether it stands in a repetition that may leave it out. -/
  | group (number : Nat) (isOptional : Bool) (body : Regex)
  /-- What a group holds, once more. -/
  | again (number : Nat)
  | inRow (first second : Regex)
  | either (first second : Regex)
  | repeated (least : Nat) (most : Option Nat) (body : Regex)

/-- What regular expressions are matched with. -/
structure Subject where
  bytes : Array Char
  /-- Do lines within it have starts and ends? -/
  byLine : Bool := false
  /-- Does a group that is matched once more fit letters of either case? -/
  anyCase : Bool := false
  /-- Are matches told apart that end at one place? -/
  isExact : Bool := false

namespace Subject

/-- The size of a subject. -/
def size (t : Subject) : Nat := t.bytes.size

/-- Is a byte part of words? -/
def isWord (c : Char) : Bool := c.isAlphanum || c == '_'

/-- Does a test hold of the byte at a place? -/
def holdsAt (t : Subject) (test : Char → Bool) (i : Nat) : Bool := t.bytes[i]?.any test

/-- Does a test hold of the byte in front of a place? -/
def holdsBefore (t : Subject) (test : Char → Bool) (i : Nat) : Bool :=
  decide (0 < i) && t.holdsAt test (i - 1)

/-- Is a place what an anchor asks for? -/
def isAt (t : Subject) (i : Nat) : Anchor → Bool
  | .lineStart => i == 0 || (t.byLine && t.holdsBefore (· == '\n') i)
  | .lineEnd => i == t.size || (t.byLine && t.holdsAt (· == '\n') i)
  | .textStart => i == 0
  | .textEnd => i == t.size
  | .wordStart => !t.holdsBefore isWord i && t.holdsAt isWord i
  | .wordEnd => t.holdsBefore isWord i && !t.holdsAt isWord i
  | .wordEdge => t.holdsBefore isWord i != t.holdsAt isWord i
  | .elsewhere => t.holdsBefore isWord i == t.holdsAt isWord i

end Subject

/-- What a group holds: where it starts, and where it ends once it is closed. -/
structure Held where
  number : Nat
  start : Nat
  stop : Option Nat := none
  deriving DecidableEq, Repr

/-- How far a match has come: its place, what its groups hold, and what they held when a group was
last closed that is not empty. -/
structure Reached where
  place : Nat
  groups : List Held := []
  kept : List Held := []
  deriving DecidableEq, Repr

namespace Reached

/-- What a group holds. -/
def held? (s : Reached) (number : Nat) : Option Held := s.groups.find? (·.number == number)

/-- Groups with another content of one of them. -/
def put (h : Held) (groups : List Held) : List Held := h :: groups.filter (·.number != h.number)

/-- Starts a group. -/
def enter (s : Reached) (number : Nat) : Reached :=
  { s with groups := put { number, start := s.place } s.groups }

/-- Closes a group. An optional group that is empty gives way to what it held before. -/
def leave (s : Reached) (number : Nat) (isOptional : Bool) : Reached :=
  match s.held? number with
  | none => s
  | some h =>
    let groups := put { h with stop := some s.place } s.groups
    if h.start < s.place then { s with groups, kept := groups }
    else if isOptional && s.kept.any (·.number == number) then { s with groups := s.kept }
    else { s with groups }

/-- Keeps the first of those that count as one: all that end at one place, unless matches are told
apart. -/
def distinct (isExact : Bool) (all : List Reached) : List Reached :=
  let isNew (kept : List Reached) (s : Reached) : Bool :=
    !kept.any fun k => k.place == s.place && (!isExact || k == s)
  match all with
  | [] | [_] => all
  | _ => (all.foldl (fun kept s => if isNew kept s then s :: kept else kept) []).reverse

end Reached

namespace Regex

/-- Goes through a body so many times. -/
def copies (isExact : Bool) (step : Reached → List Reached) : Nat → List Reached → List Reached
  | 0, from' => from'
  | n + 1, from' => copies isExact step n (Reached.distinct isExact (from'.flatMap step))

/-- Goes through a body at most so many times, more often first. -/
def upTo (isExact : Bool) (step : Reached → List Reached) : Nat → List Reached → List Reached
  | 0, from' => from'
  | n + 1, from' =>
    let next := Reached.distinct isExact (from'.flatMap step)
    if next.isEmpty then from' else upTo isExact step n next ++ from'

/-- What is found from one place on by going through a body as often as it goes, more often first,
and where that was begun. A round that takes nothing is the last one. -/
def rounds (isExact : Bool) (step : Reached → List Reached) :
    Nat → List Reached × List Reached → Reached → List Reached × List Reached
  | 0, (begun, found), s => (begun, s :: found)
  | fuel + 1, (begun, found), s =>
    if begun.any fun b => b.place == s.place && (!isExact || b == s) then (begun, found)
    else
      let goOn (state : List Reached × List Reached) (next : Reached) :
          List Reached × List Reached :=
        if next.place = s.place then (state.1, next :: state.2)
        else rounds isExact step fuel state next
      let (begun, found) := (step s).foldl goOn (s :: begun, found)
      (begun, s :: found)

/-- The number of bytes from a place on that a test holds of, at most so many. -/
def runLength (t : Subject) (test : Char → Bool) : Nat → Nat → Nat
  | 0, _ => 0
  | most + 1, i => if t.holdsAt test i then runLength t test most (i + 1) + 1 else 0

/-- The places behind runs of bytes of a set, longest run first. -/
def runs (t : Subject) (test : Char → Bool) (least : Nat) (most : Option Nat) (s : Reached) :
    List Reached :=
  let room := t.size - s.place
  let longest := runLength t test (min room (most.getD room)) s.place
  if longest < least then []
  else (List.range (longest - least + 1)).map fun k => { s with place := s.place + (longest - k) }

/-- Is a part of a subject found at a place once more? -/
def isRepeated (t : Subject) (start size place : Nat) : Bool :=
  (List.range size).all fun k =>
    match t.bytes[start + k]?, t.bytes[place + k]? with
    | some a, some b => a == b || (t.anyCase && a.toLower == b.toLower)
    | _, _ => false

/-- The ends of the matches from one place on, in the order in which they are preferred. -/
def reach (t : Subject) : Regex → Reached → List Reached
  | empty, s => [s]
  | one accepts, s => if t.holdsAt accepts s.place then [{ s with place := s.place + 1 }] else []
  | anchor a, s => if t.isAt s.place a then [s] else []
  | group number isOptional body, s =>
    (reach t body (s.enter number)).map fun r => r.leave number isOptional
  | again number, s =>
    match s.held? number with
    | some { start, stop := some stop, .. } =>
      if isRepeated t start (stop - start) s.place then
        [{ s with place := s.place + (stop - start) }]
      else []
    | _ => []
  | inRow first second, s =>
    match reach t first s with
    | [] => []
    | [r] => reach t second r
    | rs => Reached.distinct t.isExact (rs.flatMap fun r => reach t second r)
  | either first second, s =>
    Reached.distinct t.isExact (reach t first s ++ reach t second s)
  | repeated least most (one accepts), s => runs t accepts least most s
  | repeated least most body, s =>
    let step := fun r => reach t body r
    let first := copies t.isExact step least [s]
    match most with
    | some most => Reached.distinct t.isExact (upTo t.isExact step (most - least) first)
    | none =>
      let fuel := t.size - s.place + 1
      Reached.distinct t.isExact
        (first.foldl (rounds t.isExact step fuel) ([], [])).2.reverse

end Regex

/-- A match: a piece of a subject, and what the groups hold. -/
structure Match where
  start : Nat
  stop : Nat
  groups : List Held := []

namespace Match

/-- The bytes of a subject between two places. -/
def between (t : Subject) (start stop : Nat) : Raw := (t.bytes.extract start stop).toList

/-- What a group holds; the whole match is group zero. -/
def held (m : Match) (t : Subject) (number : Nat) : Raw :=
  if number = 0 then between t m.start m.stop
  else match m.groups.find? (·.number == number) with
    | some { start, stop := some stop, .. } => between t start stop
    | _ => []

end Match

namespace Regex

/-- The longest of several ends, the first one of those. -/
def longest : List Reached → Option Reached
  | [] => none
  | r :: rest =>
    match longest rest with
    | none => some r
    | some l => if r.place < l.place then some l else some r

/-- The match from a place on. -/
def matchAt (r : Regex) (t : Subject) (i : Nat) : Option Match :=
  (longest (r.reach t { place := i })).map fun s => { start := i, stop := s.place, groups := s.groups }

/-- The first match that starts in one of so many places from the given one on. -/
def searchWithin (r : Regex) (t : Subject) : Nat → Nat → Option Match
  | 0, _ => none
  | steps + 1, i =>
    match r.matchAt t i with
    | some m => some m
    | none => searchWithin r t steps (i + 1)

/-- The first match that starts at a place or behind it. -/
def search (r : Regex) (t : Subject) (i : Nat) : Option Match := searchWithin r t (t.size + 1 - i) i

end Regex

end PipeShell.Machine
