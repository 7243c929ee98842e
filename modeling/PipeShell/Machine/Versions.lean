import PipeShell.Machine.Raw

/-!
# The order of versions

Names with numbers in them, ordered so that numbers count as such: digits are compared by their value
and all else letter by letter, where letters come before other characters and a tilde comes even
before the end. Names with a point in front come first, and suffixes count only where all else is
equal.
-/

set_option autoImplicit false

namespace PipeShell.Machine.Versions

/-- The weight of what stands at the front of a rest. -/
def weight : Raw → Int
  | [] => -1
  | c :: _ =>
    if c.isDigit then 0
    else if c.isAlpha then c.toNat
    else if c == '~' then -2
    else c.toNat + 256

/-- The order of two rests up to the digits in them; the rests from there on where they are equal. -/
def compareText : Nat → Raw → Raw → Ordering × Raw × Raw
  | 0, a, b => (.eq, a, b)
  | steps + 1, a, b =>
    let stops (r : Raw) : Bool := (r.head?.map Char.isDigit).getD true
    if stops a && stops b then (.eq, a, b)
    else if weight a != weight b then (compare (weight a) (weight b), a, b)
    else compareText steps a.tail b.tail

/-- The order of two numbers at the front of rests. -/
def compareNumber (a b : Raw) : Ordering :=
  let a := a.dropWhile (· == '0')
  let b := b.dropWhile (· == '0')
  (compare a.length b.length).then (Raw.compare a b)

/-- The order of two texts in which digits are compared by their value, in so many steps. -/
def compareParts : Nat → Raw → Raw → Ordering
  | 0, _, _ => .eq
  | steps + 1, a, b =>
    if a.isEmpty && b.isEmpty then .eq
    else
      let (order, a, b) := compareText (a.length + b.length + 1) a b
      let (m, a) := a.span Char.isDigit
      let (n, b) := b.span Char.isDigit
      (order.then (compareNumber m n)).then (compareParts steps a b)

/-- The order of two texts in which digits are compared by their value. -/
def comparePlain (a b : Raw) : Ordering := compareParts (a.length + b.length + 1) a b

/-- Is a character one of a suffix? -/
def isInSuffix (c : Char) : Bool := c.isAlphanum || c == '~'

/-- Is a text made of suffixes only: each a point, a letter and more letters and digits? -/
def isSuffixes : Nat → Raw → Bool
  | 0, _ => false
  | _ + 1, [] => true
  | steps + 1, r =>
    match r with
    | '.' :: c :: rest =>
      (c.isAlpha || c == '~') && isSuffixes steps (rest.dropWhile isInSuffix)
    | _ => false

/-- The part of a name in front of its suffixes. It is not empty. -/
def front (name : Raw) : Raw :=
  let lengths := (List.range name.length).map (· + 1)
  match lengths.find? fun n => isSuffixes (name.length + 1) (name.drop n) with
  | some n => name.take n
  | none => name

/-- The class of a name by the points in front of it. -/
def rank (name : Raw) : Nat :=
  match name with
  | [] => 0
  | ['.'] => 1
  | ['.', '.'] => 2
  | '.' :: _ => 3
  | _ => 4

/-- The order of two names. -/
def compareNames (a b : Raw) : Ordering :=
  (compare (rank a) (rank b)).then
    ((comparePlain (front a) (front b)).then (comparePlain a b))

end PipeShell.Machine.Versions
