import PipeShell.Text.Blank

/-!
# Decimal numerals

Reading an unsigned number with an optional plus sign below a bound, and writing whole numbers.
A numeral whose value reaches the bound is refused however long it is; leading zeros are not
counted. Digits of other bases are read one at a time.
-/

set_option autoImplicit false

namespace PipeShell.Numeral

/-- The value of a decimal digit. -/
def digit? (c : Char) : Option Nat :=
  if '0' ≤ c ∧ c ≤ '9' then some (c.toNat - '0'.toNat) else none

/-- The value of a run of digits behind a value already read. -/
def digits? : Nat → Text → Option Nat
  | n, [] => some n
  | n, c :: r => (digit? c).bind fun d => digits? (n * 10 + d) r

/-- Reads one or more digits. -/
def unsigned? : Text → Option Nat
  | [] => none
  | t => digits? 0 t

/-- Reads one or more digits behind an optional plus sign, for a value below `bound`. -/
def read? (bound : Nat) (t : Text) : Option Nat :=
  let body := match t with
    | '+' :: r => r
    | r => r
  (unsigned? body).filter (· < bound)

/-- The value of a digit in a base up to sixteen. -/
def digitIn? (base : Nat) (c : Char) : Option Nat :=
  let value :=
    if '0' ≤ c ∧ c ≤ '9' then some (c.toNat - '0'.toNat)
    else if 'a' ≤ c ∧ c ≤ 'f' then some (c.toNat - 'a'.toNat + 10)
    else if 'A' ≤ c ∧ c ≤ 'F' then some (c.toNat - 'A'.toNat + 10)
    else none
  value.filter (· < base)

/-- A number in decimal. -/
def ofNat (n : Nat) : Text := Nat.toDigits 10 n

/-- A whole number in decimal, a minus sign in front of a negative one. -/
def ofInt : Int → Text
  | .ofNat n => ofNat n
  | .negSucc n => '-' :: ofNat (n + 1)

end PipeShell.Numeral
