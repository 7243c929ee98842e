import PipeShell.Machine.Number

/-!
# Escapes

Bytes written as a backslash and what follows it: a letter, octal digits, or hexadecimal ones behind
an `x`. What no dialect knows stands for itself. One escape ends all output.
-/

set_option autoImplicit false

namespace PipeShell.Machine.Escape

/-- What an escape stands for. -/
inductive Meaning where
  | bytes (bs : Raw)
  /-- The end of all output. -/
  | stop
  /-- Digits are missing. -/
  | fault
  deriving DecidableEq, Repr

/-- How hexadecimal digits are taken. -/
inductive Hexadecimal where
  | unknown
  | optional
  /-- Missing digits are a fault. -/
  | required
  deriving DecidableEq, Repr

/-- Which escapes there are. -/
structure Dialect where
  letters : List (Char × Nat)
  /-- Does `c` end all output? -/
  stops : Bool
  hexadecimal : Hexadecimal
  /-- Does a zero in front of octal digits not count as one of the three? -/
  extraZero : Bool

/-- Letters that every dialect knows. -/
def commonLetters : List (Char × Nat) :=
  [('a', 7), ('b', 8), ('f', 12), ('n', 10), ('r', 13), ('t', 9), ('v', 11), ('\\', 92)]

/-- At most so many digits of a base at the front. -/
def digits (base most : Nat) (r : Raw) : Raw := (r.take most).takeWhile (Number.isDigitIn base)

/-- A byte by its number. -/
def byte (n : Nat) : Char := Char.ofNat (n % 256)

/-- Digits of a code point behind `u` or `U`. -/
def codePoint (most : Nat) (letter : Char) (rest : Raw) : Meaning × Raw :=
  let ds := digits 16 most rest
  if ds.length < most then (.fault, rest)
  else
    let n := Number.valueIn 16 ds
    let shown := if n < 128 then [Char.ofNat n]
      else if n < 65536 then "\\u".toList ++ (ds.drop (most - 4)).map Char.toUpper
      else '\\' :: letter :: ds.map Char.toUpper
    (.bytes shown, rest.drop most)

/-- What follows a backslash means. -/
def meaning (d : Dialect) (r : Raw) : Meaning × Raw :=
  match r with
  | [] => (.bytes ['\\'], [])
  | c :: rest =>
    match d.letters.lookup c with
    | some n => (.bytes [byte n], rest)
    | none =>
      if c == 'c' && d.stops then (.stop, rest)
      else if Number.isDigitIn 8 c then
        let skips := d.extraZero && c == '0' && (rest.head?.map (Number.isDigitIn 8)).getD false
        let body := if skips then rest else r
        let ds := digits 8 3 body
        (.bytes [byte (Number.valueIn 8 ds)], body.drop ds.length)
      else if c == 'x' && d.hexadecimal != .unknown then
        let ds := digits 16 2 rest
        if ds.isEmpty then
          (if d.hexadecimal == .required then (.fault, rest) else (.bytes ['\\', 'x'], rest))
        else (.bytes [byte (Number.valueIn 16 ds)], rest.drop ds.length)
      else if d.hexadecimal == .required && c == 'u' then codePoint 4 c rest
      else if d.hexadecimal == .required && c == 'U' then codePoint 8 c rest
      else (.bytes ['\\', c], rest)

/-- A text with its escapes carried out, in so many steps, up to a stop or a fault. -/
def carryOut (d : Dialect) : Nat → Raw → Raw × Option Meaning
  | 0, _ => ([], none)
  | _ + 1, [] => ([], none)
  | steps + 1, '\\' :: rest =>
    match meaning d rest with
    | (.bytes bs, after) => let (more, fate) := carryOut d steps after; (bs ++ more, fate)
    | (other, _) => ([], some other)
  | steps + 1, c :: rest => let (more, fate) := carryOut d steps rest; (c :: more, fate)

/-- A text with its escapes carried out, up to a stop or a fault. -/
def apply (d : Dialect) (r : Raw) : Raw × Option Meaning := carryOut d (r.length + 1) r

end PipeShell.Machine.Escape
