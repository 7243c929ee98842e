import PipeShell.Machine.Number

/-!
# Decimal fractions

Numbers with a fraction and an exponent, read from text, rounded to binary digits, and written
with a fixed number of places, with an exponent, or in the shorter of both forms. A half goes to the
even neighbour.
-/

set_option autoImplicit false

namespace PipeShell.Machine

/-- A fraction `numerator / denominator` with a sign of its own, or no number at all. -/
inductive Decimal where
  | finite (negative : Bool) (numerator denominator : Nat)
  | infinite (negative : Bool)
  | undefined (negative : Bool)
  deriving Repr

namespace Decimal

/-- A quotient rounded to the nearest number; a half goes to the even neighbour. -/
def roundDiv (n d : Nat) : Nat :=
  let q := n / d
  let r := n % d
  if d < 2 * r ∨ (2 * r = d ∧ q % 2 = 1) then q + 1 else q

/-- The number of binary digits kept unless another is asked for. -/
def digitsKept : Nat := 64

/-- A fraction rounded to so many binary digits. -/
def rounded (digitsKept n d : Nat) : Nat × Nat :=
  if n = 0 ∨ d = 0 then (0, 1)
  else
    let up := digitsKept + d.log2
    let size := (n * Nat.pow 2 up / d).log2 + 1
    let down := size - digitsKept
    let m := roundDiv (n * Nat.pow 2 up) (d * Nat.pow 2 down)
    if up ≤ down then (m * Nat.pow 2 (down - up), 1) else (m, Nat.pow 2 (up - down))

/-- The fraction behind a mark, with its digits, and what follows. -/
def fraction (base : Nat) (r : Raw) : Raw × Raw :=
  match r with
  | '.' :: rest => Number.spanIn base rest
  | _ => ([], r)

/-- The exponent behind a letter, and what follows; none unless there is a digit. -/
def exponent (letter : Char) (r : Raw) : Int × Raw :=
  match r with
  | c :: rest =>
    if c.toLower == letter then
      let (negative, body) := Number.sign rest
      let (digits, after) := Number.spanIn 10 body
      if digits.isEmpty then (0, r)
      else
        let n := min (Number.valueIn 10 digits) 20000
        (if negative then -(n : Int) else n, after)
    else (0, r)
  | [] => (0, r)

/-- A whole number with digits behind the mark, times a power. -/
def scaled (kept : Nat) (negative : Bool) (value base places power : Nat) (e : Int) :
    Decimal :=
  let (n, d) := (value, Nat.pow base places)
  let (n, d) := if 0 ≤ e then (n * Nat.pow power e.toNat, d) else (n, d * Nat.pow power (-e).toNat)
  let (n, d) := rounded kept n d
  .finite negative n d

/-- Is a text the front of another, in letters of either case? -/
def startsWith (word : String) (r : Raw) : Bool :=
  word.toList.isPrefixOf (r.map Char.toLower)

/-- The number at the front of a text, behind blanks, and what follows it. So many binary digits
are kept. -/
def front? (kept : Nat) (r : Raw) : Option (Decimal × Raw) :=
  let (negative, body) := Number.sign (r.dropWhile Number.isSpace)
  let decimal : Option (Decimal × Raw) :=
    let (whole, rest) := Number.spanIn 10 body
    let (places, rest) := if whole.isEmpty && (fraction 10 rest).1.isEmpty then ([], rest)
      else fraction 10 rest
    if whole.isEmpty && places.isEmpty then none
    else
      let (e, rest) := exponent 'e' rest
      some (scaled kept negative (Number.valueIn 10 (whole ++ places)) 10 places.length 10 e, rest)
  if startsWith "infinity" body then some (.infinite negative, body.drop 8)
  else if startsWith "inf" body then some (.infinite negative, body.drop 3)
  else if startsWith "nan" body then some (.undefined negative, body.drop 3)
  else match body with
    | '0' :: x :: rest =>
      if x == 'x' || x == 'X' then
        let (whole, after) := Number.spanIn 16 rest
        let (places, after) := fraction 16 after
        if whole.isEmpty && places.isEmpty then decimal
        else
          let (e, after) := exponent 'p' after
          some (scaled kept negative (Number.valueIn 16 (whole ++ places)) 16 places.length 2 e, after)
      else decimal
    | _ => decimal

/-- Digits with a mark in front of the last so many. -/
def pointed (places : Nat) (always : Bool) (n : Nat) : Raw :=
  let digits := Numeral.ofNat n
  let digits := List.replicate (places + 1 - digits.length) '0' ++ digits
  let front := digits.take (digits.length - places)
  if places = 0 then (if always then front ++ ['.'] else front)
  else front ++ '.' :: digits.drop (digits.length - places)

/-- A magnitude with a fixed number of places. -/
def fixed (n d places : Nat) (always : Bool) : Raw :=
  pointed places always (roundDiv (n * Nat.pow 10 places) d)

/-- The power of ten that a magnitude reaches. -/
def power (n d : Nat) : Int :=
  if n = 0 then 0
  else if d ≤ n then ((Numeral.ofNat (n / d)).length : Int) - 1
  else
    let k := (Numeral.ofNat (d / n)).length
    if n * Nat.pow 10 (k - 1) = d ∧ 0 < k then -((k : Int) - 1) else -(k : Int)

/-- The digits of a magnitude, so many behind the first, rounded, and its power of ten. -/
def leading (n d places : Nat) : Nat × Int :=
  let e := power n d
  let shift := (places : Int) - e
  let m := if 0 ≤ shift then roundDiv (n * Nat.pow 10 shift.toNat) d
    else roundDiv n (d * Nat.pow 10 (-shift).toNat)
  if Nat.pow 10 (places + 1) ≤ m then (m / 10, e + 1) else (m, e)

/-- The exponent as it is written. -/
def exponentText (e : Int) : Raw :=
  let digits := Numeral.ofNat e.natAbs
  (if e < 0 then ['e', '-'] else ['e', '+']) ++
    List.replicate (2 - digits.length) '0' ++ digits

/-- A magnitude with an exponent. -/
def scientific (n d places : Nat) (always : Bool) : Raw :=
  let (m, e) := leading n d places
  pointed places always m ++ exponentText e

/-- Digits behind a mark without the zeros at their end. -/
def withoutZeros (r : Raw) : Raw :=
  if r.contains '.' then
    let kept := (r.reverse.dropWhile (· == '0')).reverse
    if kept.getLast? == some '.' then kept.dropLast else kept
  else r

/-- A magnitude in the shorter form, with so many digits. -/
def general (n d digits : Nat) (always : Bool) : Raw :=
  let digits := max digits 1
  let e := (leading n d (digits - 1)).2
  if e < -4 ∨ (digits : Int) ≤ e then
    let (m, e) := leading n d (digits - 1)
    let front := pointed (digits - 1) always m
    (if always then front else withoutZeros front) ++ exponentText e
  else
    let text := fixed n d ((digits : Int) - 1 - e).toNat always
    if always then text else withoutZeros text

/-- Is there a minus sign in front? -/
def isNegative : Decimal → Bool
  | finite negative _ _ => negative
  | infinite negative => negative
  | undefined negative => negative

/-- The text of a number without its sign, in the form of a letter. -/
def magnitudeText (x : Decimal) (letter : Char) (precision : Option Nat) (always : Bool) : Raw :=
  let text := match x with
    | infinite _ => "inf".toList
    | undefined _ => "nan".toList
    | finite _ n d =>
      match letter.toLower with
      | 'f' => fixed n d (precision.getD 6) always
      | 'e' => scientific n d (precision.getD 6) always
      | _ => general n d (precision.getD 6) always
  if letter.isUpper then text.map Char.toUpper else text

end Decimal

end PipeShell.Machine
