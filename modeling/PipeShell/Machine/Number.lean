import PipeShell.Machine.Raw
import PipeShell.Text.Numeral

/-!
# Numbers in texts

Whole numbers as they stand at the front of a text, behind blanks and a sign, in decimal or with
the base marked in front; and counts with a letter behind them that multiplies them.
-/

set_option autoImplicit false

namespace PipeShell.Machine.Number

/-- A byte that separates words. -/
def isSpace (c : Char) : Bool := c == ' ' || (decide (9 ≤ c.toNat) && decide (c.toNat ≤ 13))

/-- Is a byte a digit of a base up to sixteen? -/
def isDigitIn (base : Nat) (c : Char) : Bool := (Numeral.digitIn? base c).isSome

/-- The value of digits. -/
def valueIn (base : Nat) (digits : Raw) : Nat :=
  digits.foldl (fun n c => n * base + (Numeral.digitIn? base c).getD 0) 0

/-- The digits of a base at the front of a text, and what follows them. -/
def spanIn (base : Nat) (r : Raw) : Raw × Raw := r.span (isDigitIn base)

/-- A sign at the front of a text, and what follows it. -/
def sign (r : Raw) : Bool × Raw :=
  match r with
  | '-' :: rest => (true, rest)
  | '+' :: rest => (false, rest)
  | _ => (false, r)

/-- The magnitude at the front of a text and what follows it. With base zero a leading `0x` marks
base sixteen, and any other leading zero base eight. -/
def magnitude? (base : Nat) (r : Raw) : Option (Nat × Raw) :=
  let plain (base : Nat) : Option (Nat × Raw) :=
    let (digits, rest) := spanIn base r
    if digits.isEmpty then none else some (valueIn base digits, rest)
  if base ≠ 0 then plain base
  else match r with
    | '0' :: x :: rest =>
      if (x == 'x' || x == 'X') && (rest.head?.map (isDigitIn 16)).getD false then
        let (digits, rest) := spanIn 16 rest
        some (valueIn 16 digits, rest)
      else plain 8
    | '0' :: _ => plain 8
    | _ => plain 10

/-- The whole number at the front of a text, behind blanks, and what follows it. -/
def front? (base : Nat) (r : Raw) : Option (Int × Raw) :=
  let (negative, body) := sign (r.dropWhile isSpace)
  (magnitude? base body).map fun (n, rest) => (if negative then -(n : Int) else n, rest)

/-- A text that is a whole number in decimal. -/
def whole? (r : Raw) : Option Int :=
  match front? 10 r with
  | some (n, []) => some n
  | _ => none

/-- A text that is a natural number in decimal, without a sign. -/
def natural? (r : Raw) : Option Nat := Numeral.unsigned? r

/-- A number in decimal, brought to a width with blanks in front. -/
def padded (width n : Nat) : Raw :=
  let digits := Numeral.ofNat n
  List.replicate (width - digits.length) ' ' ++ digits

/-- Why a count cannot be read. -/
inductive CountFault where
  | invalid
  | tooLarge
  deriving DecidableEq, Repr

/-- The letters that multiply a count, in order of their powers. -/
def multipliers : List Char := ['K', 'M', 'G', 'T', 'P', 'E', 'Z', 'Y']

/-- What the letters behind a count multiply it with. -/
def factor? (letters : Raw) : Option Nat :=
  match letters with
  | [] => some 1
  | ['b'] => some 512
  | c :: rest =>
    let c := if c == 'k' || c == 'm' then c.toUpper else c
    (multipliers.findIdx? (· == c)).bind fun power =>
      if rest == [] || rest == ['i', 'B'] then some (Nat.pow 1024 (power + 1))
      else if rest == ['B'] then some (Nat.pow 1000 (power + 1))
      else none

/-- A count with letters behind it, below a bound. -/
def count? (bound : Nat) (r : Raw) : Except CountFault Nat :=
  let body := match r.dropWhile isSpace with
    | '+' :: rest => rest
    | rest => rest
  let (digits, letters) := spanIn 10 body
  match factor? letters with
  | some f =>
    if digits.isEmpty then (if letters.isEmpty then .error .invalid else if f < bound then .ok f else .error .tooLarge)
    else if valueIn 10 digits * f < bound then .ok (valueIn 10 digits * f)
    else .error .tooLarge
  | none => .error .invalid

end PipeShell.Machine.Number
