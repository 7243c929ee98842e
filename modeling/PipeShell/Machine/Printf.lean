import PipeShell.Machine.Escape
import PipeShell.Machine.Decimal

/-!
# Formats

A format consists of literal text and of directives, each a percent sign, flags, a width, a
precision and a letter. A width or a precision may be taken from an argument.
-/

set_option autoImplicit false

namespace PipeShell.Machine.Printf

/-- A width or a precision. -/
inductive Measure where
  | absent
  | given (n : Nat)
  /-- Taken from an argument. -/
  | argument
  deriving DecidableEq, Repr

/-- A directive. -/
structure Directive where
  flags : List Char := []
  width : Measure := .absent
  precision : Measure := .absent
  kind : Char
  /-- The directive as it is written. -/
  text : Raw
  deriving Repr

/-- A measure at the front of a text. -/
def measure (r : Raw) : Measure × Raw :=
  match r with
  | '*' :: rest => (.argument, rest)
  | _ =>
    let (digits, rest) := Number.spanIn 10 r
    if digits.isEmpty then (.absent, r) else (.given (Number.valueIn 10 digits), rest)

/-- Reads what follows a percent sign. A NUL is the kind of a directive that the format cuts short. -/
def directive (flagLetters lengthLetters : List Char) (r : Raw) : Directive × Raw :=
  let flags := r.takeWhile flagLetters.contains
  let (width, rest) := measure (r.drop flags.length)
  let (precision, rest) := match rest with
    | '.' :: rest =>
      match measure rest with
      | (.absent, rest) => (Measure.given 0, rest)
      | other => other
    | _ => (.absent, rest)
  let rest := rest.dropWhile lengthLetters.contains
  let after := rest.drop 1
  let text := '%' :: r.take (r.length - after.length)
  ({ flags, width, precision, kind := rest.headD (Char.ofNat 0), text }, after)

/-- What measures amount to once arguments are taken: a negative width asks for the left side. -/
structure Layout where
  left : Bool := false
  zero : Bool := false
  plus : Bool := false
  space : Bool := false
  alternate : Bool := false
  width : Nat := 0
  precision : Option Nat := none

/-- The layout of a directive. -/
def layout (d : Directive) (width precision : Int) : Layout :=
  let width : Int := match d.width with
    | .absent => 0
    | .given n => n
    | .argument => width
  let precision := match d.precision with
    | .absent => none
    | .given n => some n
    | .argument => if precision < 0 then none else some precision.toNat
  { left := d.flags.contains '-' || decide (width < 0), zero := d.flags.contains '0'
    plus := d.flags.contains '+', space := d.flags.contains ' '
    alternate := d.flags.contains '#', width := width.natAbs, precision }

/-- Text brought to the width of a layout. -/
def Layout.pad (l : Layout) (text : Raw) : Raw :=
  let blanks := List.replicate (l.width - text.length) ' '
  if l.left then text ++ blanks else blanks ++ text

/-- A sign and a magnitude brought to the width of a layout, with zeros between them if asked. -/
def Layout.padNumber (l : Layout) (zeros : Bool) (sign magnitude : Raw) : Raw :=
  if zeros && l.zero && !l.left then
    sign ++ List.replicate (l.width - sign.length - magnitude.length) '0' ++ magnitude
  else l.pad (sign ++ magnitude)

/-- The sign of a number. -/
def Layout.sign (l : Layout) (negative : Bool) : Raw :=
  if negative then ['-'] else if l.plus then ['+'] else if l.space then [' '] else []

/-- A text, cut to the precision. -/
def Layout.text (l : Layout) (r : Raw) : Raw := l.pad (r.take (l.precision.getD r.length))

/-- Digits of a base. -/
def digitsOf (base n : Nat) : Raw := Nat.toDigits base n

/-- A whole number in the form of a letter; negative ones wrap around where there is no sign. -/
def Layout.integer (l : Layout) (kind : Char) (n : Int) : Raw :=
  let signed := kind == 'd' || kind == 'i'
  let value := if !signed && n < 0 then (Int.pow 2 64 + n).toNat else n.natAbs
  let base := if kind == 'o' then 8 else if kind == 'x' || kind == 'X' then 16 else 10
  let digits := if value = 0 && l.precision == some 0 then [] else digitsOf base value
  let digits := List.replicate (l.precision.getD 0 - digits.length) '0' ++ digits
  let digits := if kind == 'o' && l.alternate && digits.head? != some '0' then '0' :: digits
    else digits
  let digits := if kind == 'X' then digits.map Char.toUpper else digits
  let front := if l.alternate && value != 0 && kind == 'x' then ['0', 'x']
    else if l.alternate && value != 0 && kind == 'X' then ['0', 'X'] else []
  l.padNumber l.precision.isNone ((if signed then l.sign (decide (n < 0)) else []) ++ front) digits

/-- A fraction in the form of a letter. -/
def Layout.decimal (l : Layout) (kind : Char) (x : Decimal) : Raw :=
  let isFinite := match x with
    | .finite .. => true
    | _ => false
  l.padNumber isFinite (l.sign x.isNegative) (x.magnitudeText kind l.precision l.alternate)

/-- Letters for whole numbers with a sign. -/
def signedKinds : List Char := ['d', 'i']

/-- Letters for whole numbers without a sign. -/
def unsignedKinds : List Char := ['o', 'u', 'x', 'X']

/-- Letters for fractions. -/
def decimalKinds : List Char := ['e', 'E', 'f', 'F', 'g', 'G']

end PipeShell.Machine.Printf
