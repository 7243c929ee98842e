import PipeShell.Machine.CharClass
import PipeShell.Machine.FileSystem

/-!
# Patterns

A pattern is a row of characters some of which are quoted. An asterisk fits any text, a question
mark any character, and brackets one of a set of characters; what is quoted fits only itself. A
pattern can also be expanded to the paths it fits; a name with a point in front is fitted only by a
point.
-/

set_option autoImplicit false

namespace PipeShell.Machine.Script

/-- A character of a pattern, and whether it is quoted. -/
abbrev PatternChar := Char × Bool

/-- A pattern. -/
abbrev Pattern := List PatternChar

namespace Pattern

/-- The class whose name stands behind an opening bracket, and what follows it. -/
def classAt (p : Pattern) : Option ((Char → Bool) × Pattern) :=
  CharClass.table.findSome? fun (name, test) =>
    let text := (':' :: name.toList ++ [':', ']']).map fun c => (c, false)
    if text.isPrefixOf p then some (test, p.drop text.length) else none

/-- Does a character fit what stands in brackets behind its first character? Gives the rest of the
pattern behind the closing bracket, or nothing if there is none. -/
def bracketFrom (x : Char) : Nat → PatternChar → Pattern → Bool → Option (Bool × Pattern)
  | 0, _, _, _ => none
  | steps + 1, c, p, found =>
    let goOn (p : Pattern) (found : Bool) : Option (Bool × Pattern) :=
      match p with
      | [] => none
      | (']', false) :: rest => some (found, rest)
      | d :: rest => bracketFrom x steps d rest found
    match if c == ('[', false) then classAt p else none with
    | some (test, rest) => goOn rest (found || test x)
    | none =>
      match p with
      | ('-', false) :: (']', false) :: _ => goOn p (found || x == c.1)
      | ('-', false) :: last :: rest =>
        goOn rest (found || (decide (c.1 ≤ x) && decide (x ≤ last.1)))
      | _ => goOn p (found || x == c.1)

/-- Does a character fit brackets? Gives the rest of the pattern, or nothing if these are no
brackets. -/
def bracket (x : Char) (p : Pattern) : Option (Bool × Pattern) :=
  let (inverted, body) := match p with
    | ('!', false) :: rest => (true, rest)
    | _ => (false, p)
  match body with
  | [] => none
  | c :: rest =>
    (bracketFrom x (body.length + 1) c rest false).map fun (found, rest) =>
      (found != inverted, rest)

/-- Does a text fit a pattern? The text is compared in so many steps. -/
def fitsWithin : Nat → Pattern → Raw → Bool
  | 0, _, _ => false
  | _ + 1, [], r => r.isEmpty
  | steps + 1, (c, quoted) :: p, r =>
    match c, quoted, r with
    | '*', false, [] => fitsWithin steps p []
    | '*', false, _ :: rest => fitsWithin steps p r || fitsWithin steps ((c, quoted) :: p) rest
    | _, _, [] => false
    | '?', false, _ :: rest => fitsWithin steps p rest
    | '[', false, x :: rest =>
      match bracket x p with
      | some (fits, after) => fits && fitsWithin steps after rest
      | none => x == '[' && fitsWithin steps p rest
    | _, _, x :: rest => x == c && fitsWithin steps p rest

/-- Does a text fit a pattern? -/
def fits (p : Pattern) (r : Raw) : Bool := fitsWithin (p.length + r.length + 1) p r

/-- The characters of a pattern as they stand. -/
def text (p : Pattern) : Raw := p.map Prod.fst

/-- Can a pattern fit more than its own text? -/
def isActive (p : Pattern) : Bool := p.any fun c => !c.2 && (c.1 == '*' || c.1 == '?' || c.1 == '[')

/-- A pattern cut at its slashes, in so many steps. -/
def segments : Nat → Pattern → List Pattern
  | 0, p => [p]
  | steps + 1, p =>
    let front := p.takeWhile fun c => c.1 != '/'
    match p.drop front.length with
    | [] => [front]
    | _ :: rest => front :: segments steps rest

/-- The names in a directory behind a path that a segment fits. -/
def namesIn (fs : FileSystem) (directory : Inode) (front : Raw) (segment : Pattern) : List Raw :=
  match fs.find directory (if front.isEmpty then ['.'] else front) true with
  | .error _ => []
  | .ok i =>
    if fs.allows i .toRead then
      let names := match fs.entries? i with
        | some entries => ['.'] :: ['.', '.'] :: entries.map Prod.fst
        | none => []
      let pointed := (segment.head?.map (·.1 == '.')).getD false
      names.filter fun name => (pointed || name.head? != some '.') && fits segment name
    else []

/-- The paths that segments fit behind a path. -/
def pathsFrom (fs : FileSystem) (directory : Inode) : List Pattern → Raw → List Raw
  | [], _ => []
  | segment :: rest, front =>
    let goOn (path : Raw) : List Raw :=
      if rest.isEmpty then [path] else pathsFrom fs directory rest (path ++ ['/'])
    if isActive segment then
      (namesIn fs directory front segment).flatMap fun name => goOn (front ++ name)
    else
      let path := front ++ text segment
      if rest.isEmpty && !(fs.find directory path false).isOk then [] else goOn path

/-- The paths that a pattern fits, in order. -/
def paths (fs : FileSystem) (directory : Inode) (p : Pattern) : List Raw :=
  (pathsFrom fs directory (segments (p.length + 1) p) []).mergeSort Raw.le

/-- Cuts off the shortest or longest front that a pattern fits. -/
def cutFront (p : Pattern) (most : Bool) (r : Raw) : Raw :=
  let cuts := List.range (r.length + 1)
  let cuts := if most then cuts.reverse else cuts
  match cuts.find? fun n => fits p (r.take n) with
  | some n => r.drop n
  | none => r

/-- Cuts off the shortest or longest back that a pattern fits. -/
def cutBack (p : Pattern) (most : Bool) (r : Raw) : Raw :=
  let cuts := List.range (r.length + 1)
  let cuts := if most then cuts else cuts.reverse
  match cuts.find? fun n => fits p (r.drop n) with
  | some n => r.take n
  | none => r

end Pattern

end PipeShell.Machine.Script
