import PipeShell.Machine.Decimal
import PipeShell.Machine.Versions
import PipeShell.Machine.Utility.Translation

/-!
# Keys of lines

A key is a part of a line, from one place to another, and a way to compare it: as text, as a number,
as the name of a month or as a version. Lines are compared key by key.
-/

set_option autoImplicit false

namespace PipeShell.Machine

/-- Which bytes do not count. -/
inductive Passing where
  | nothing
  | unprintable
  /-- All but blanks, letters and digits. -/
  | punctuation
  deriving DecidableEq, Repr

/-- A key of a line. -/
structure SortKey where
  /-- The field it begins in and the bytes to skip there; without a field the whole line. -/
  firstField : Option Nat := none
  firstByte : Nat := 0
  /-- The field it ends in and the bytes of it that belong to it, none for all. -/
  lastField : Option Nat := none
  lastByte : Nat := 0
  skipsAtStart : Bool := false
  skipsAtEnd : Bool := false
  passing : Passing := .nothing
  folded : Bool := false
  numeric : Bool := false
  general : Bool := false
  human : Bool := false
  month : Bool := false
  version : Bool := false
  random : Bool := false
  reversed : Bool := false

namespace SortKey

/-- Does a key say nothing about how it is compared? -/
def isPlain (k : SortKey) : Bool :=
  k.passing == .nothing && !k.folded && !k.skipsAtStart && !k.skipsAtEnd && !k.numeric &&
    !k.general && !k.human && !k.month && !k.version && !k.random

/-- Reads a letter about a key; for the start of it, for its end, or for both. -/
def withLetter? (k : SortKey) (start ending : Bool) : Char → Option SortKey
  | 'b' => some { k with skipsAtStart := k.skipsAtStart || start
                         skipsAtEnd := k.skipsAtEnd || ending }
  | 'd' => some { k with passing := .punctuation }
  | 'f' => some { k with folded := true }
  | 'g' => some { k with general := true }
  | 'h' => some { k with human := true }
  | 'i' => some { k with passing := if k.passing == .nothing then .unprintable else k.passing }
  | 'M' => some { k with month := true }
  | 'n' => some { k with numeric := true }
  | 'R' => some { k with random := true }
  | 'r' => some { k with reversed := true }
  | 'V' => some { k with version := true }
  | _ => none

/-- Reads letters about a key, and gives what follows them. -/
def withLetters (k : SortKey) (start ending : Bool) : Raw → SortKey × Raw
  | [] => (k, [])
  | c :: rest =>
    match k.withLetter? start ending c with
    | some k => k.withLetters start ending rest
    | none => (k, c :: rest)

/-- The letters of the ways to compare that do not go together, if there are any. -/
def conflict? (k : SortKey) : Option Raw :=
  let ways := [k.numeric, k.general, k.human, k.month,
    k.version || k.random || k.passing != .nothing]
  if (ways.filter id).length ≤ 1 then none
  else some ((if k.passing == .punctuation then ['d'] else []) ++ (if k.folded then ['f'] else []) ++
    (if k.general then ['g'] else []) ++ (if k.human then ['h'] else []) ++
    (if k.passing == .unprintable then ['i'] else []) ++ (if k.month then ['M'] else []) ++
    (if k.numeric then ['n'] else []) ++ (if k.random then ['R'] else []) ++
    (if k.version then ['V'] else []))

/-! ## The part of a line -/

/-- A byte that separates fields. -/
def isGap (c : Char) : Bool := c == ' ' || c == '\t' || c == '\n'

/-- What is behind so many fields. With a separator, so is the separator behind the last of them,
unless it is the last and `stays` holds. -/
def behindFields (separator : Option Char) (stays : Bool) : Nat → Raw → Raw
  | 0, r => r
  | n + 1, r =>
    match separator with
    | some c =>
      let rest := r.dropWhile (· != c)
      let rest := if n = 0 && stays then rest else rest.drop 1
      behindFields separator stays n rest
    | none => behindFields separator stays n ((r.dropWhile isGap).dropWhile fun c => !isGap c)

/-- Where the key begins. -/
def start (k : SortKey) (separator : Option Char) (line : Raw) : Nat :=
  let rest := behindFields separator false (k.firstField.getD 0) line
  let rest := if k.skipsAtStart then rest.dropWhile isGap else rest
  min line.length (line.length - rest.length + k.firstByte)

/-- Where the key ends. -/
def limit (k : SortKey) (separator : Option Char) (line : Raw) : Nat :=
  match k.lastField with
  | none => line.length
  | some field =>
    if k.lastByte = 0 then line.length - (behindFields separator true (field + 1) line).length
    else
      let rest := behindFields separator false field line
      let rest := if k.skipsAtEnd then rest.dropWhile isGap else rest
      min line.length (line.length - rest.length + k.lastByte)

/-- The part of a line that is compared. -/
def part (k : SortKey) (separator : Option Char) (line : Raw) : Raw :=
  let first := if k.firstField.isNone && k.firstByte = 0 && !k.skipsAtStart then 0
    else k.start separator line
  let last := k.limit separator line
  (line.drop first).take (last - first)

/-! ## Values -/

/-- What a part of a line is compared by. -/
inductive Value where
  | text (r : Raw)
  /-- A number with a rank that comes first. -/
  | number (rank : Int) (negative : Bool) (whole places : Raw)
  | fraction (x : Option Decimal)
  | month (n : Nat)
  | version (r : Raw)

/-- The number at the front of a text: its sign, and its digits in front of and behind the point,
without zeros that do not count; and what follows. -/
def numberAt (r : Raw) : Bool × Raw × Raw × Raw :=
  let body := r.dropWhile isGap
  let (negative, body) := match body with
    | '-' :: rest => (true, rest)
    | body => (false, body)
  let (whole, rest) := body.span Char.isDigit
  let (places, rest) := match rest with
    | '.' :: rest => rest.span Char.isDigit
    | rest => ([], rest)
  let whole := whole.dropWhile (· == '0')
  let places := (places.reverse.dropWhile (· == '0')).reverse
  (negative && !(whole.isEmpty && places.isEmpty), whole, places, rest)

/-- The rank of the letter behind a number. -/
def unitRank (c : Option Char) : Nat :=
  match c with
  | some 'k' => 1
  | some c => (['K', 'M', 'G', 'T', 'P', 'E', 'Z', 'Y'].findIdx? (· == c)).elim 0 (· + 1)
  | none => 0

/-- The names of months. -/
def months : List String :=
  ["JAN", "FEB", "MAR", "APR", "MAY", "JUN", "JUL", "AUG", "SEP", "OCT", "NOV", "DEC"]

/-- The value of a part of a line. -/
def value (k : SortKey) (part : Raw) : Value :=
  let kept := match k.passing with
    | .nothing => part
    | .unprintable => part.filter Quoting.isPrintable
    | .punctuation => part.filter fun c => c == ' ' || c == '\t' || c.isAlphanum
  let text := if k.folded then kept.map Char.toUpper else kept
  if k.numeric then
    let (negative, whole, places, _) := numberAt text
    .number 0 negative whole places
  else if k.general then .fraction ((Decimal.front? Decimal.digitsKept text).map Prod.fst)
  else if k.human then
    let (negative, whole, places, rest) := numberAt text
    let rank : Int := if whole.isEmpty && places.isEmpty then 0 else unitRank rest.head?
    .number (if negative then -rank else rank) negative whole places
  else if k.month then
    let word := ((text.dropWhile isGap).take 3).map Char.toUpper
    .month ((months.findIdx? (·.toList == word)).elim 0 (· + 1))
  else if k.version then .version text
  else .text text

/-- The order of two magnitudes given by digits. -/
def compareDigits (a b : Raw × Raw) : Ordering :=
  ((compare a.1.length b.1.length).then (Raw.compare a.1 b.1)).then (Raw.compare a.2 b.2)

/-- The order of two fractions; what is none comes first, and then what is no number. -/
def compareFractions (x y : Option Decimal) : Ordering :=
  let rank : Option Decimal → Nat
    | none => 0
    | some (.undefined _) => 1
    | some (.infinite true) => 2
    | some (.finite _ _ _) => 3
    | some (.infinite false) => 4
  let signed (negative : Bool) (n : Nat) : Int := if negative then -(n : Int) else n
  match x, y with
  | some (.finite s n d), some (.finite t m e) => compare (signed s n * e) (signed t m * d)
  | x, y => compare (rank x) (rank y)

/-- The order of two values. -/
def Value.compare : Value → Value → Ordering
  | text a, text b => Raw.compare a b
  | number r s w p, number q t v o =>
    (Ord.compare r q).then
      (if s && !t then .lt
        else if !s && t then .gt
        else if s then compareDigits (v, o) (w, p)
        else compareDigits (w, p) (v, o))
  | fraction x, fraction y => compareFractions x y
  | month m, month n => Ord.compare m n
  | version a, version b => Versions.compareNames a b
  | _, _ => .eq

/-! ## Lines -/

/-- How lines are compared. -/
structure Order where
  keys : List SortKey := []
  separator : Option Char := none
  /-- Do lines with equal keys stay in order? -/
  stable : Bool := false
  /-- Does only one of several lines with equal keys stay? -/
  unique : Bool := false
  reversed : Bool := false

/-- A line with the values of its keys. -/
structure Keyed where
  line : Raw
  values : List Value

/-- A line with the values of its keys. -/
def Order.keyed (o : Order) (line : Raw) : Keyed :=
  { line, values := o.keys.map fun k => k.value (k.part o.separator line) }

/-- The order of the values of keys. -/
def compareValues : List SortKey → List Value → List Value → Ordering
  | k :: ks, a :: as, b :: bs =>
    match a.compare b with
    | .eq => compareValues ks as bs
    | order => if k.reversed then order.swap else order
  | _, _, _ => .eq

/-- The order of two lines. -/
def Order.compare (o : Order) (a b : Keyed) : Ordering :=
  let byKeys := compareValues o.keys a.values b.values
  if byKeys != .eq then byKeys
  else if !o.keys.isEmpty && (o.unique || o.stable) then .eq
  else
    let whole := Raw.compare a.line b.line
    if o.reversed then whole.swap else whole

end SortKey

end PipeShell.Machine
