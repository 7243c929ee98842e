import PipeShell.Machine.Number

/-!
# Permissions in words

The permissions on a file are a number, or changes in order, each with those concerned, a sign and
what is given, taken or set. Where nobody is named everybody is concerned, except for what new files
do not get.
-/

set_option autoImplicit false

namespace PipeShell.Machine.Mode

/-- All permission bits. -/
def all : Nat := 0o7777

/-- What is given, taken or set. -/
inductive Grant where
  | bits (value : Nat)
  /-- To run or search, if somebody may or it is a directory. -/
  | whereFitting (value : Nat)
  /-- What somebody has. -/
  | copied (value : Nat)

/-- A change of permissions. -/
structure Change where
  sign : Char
  /-- The bits of those concerned; none if nobody was named. -/
  concerned : Nat
  grant : Grant
  /-- The bits that are spoken of. -/
  spoken : Nat

/-- The bits of those that a letter names. -/
def concernedBits : List (Char × Nat) := [('u', 0o4700), ('g', 0o2070), ('o', 0o1007), ('a', all)]

/-- The bits that a letter copies. -/
def copiedBits : List (Char × Nat) := [('u', 0o700), ('g', 0o070), ('o', 0o007)]

/-- The bits that a letter grants. -/
def grantedBits : List (Char × Nat) :=
  [('r', 0o444), ('w', 0o222), ('x', 0o111), ('s', 0o6000), ('t', 0o1000), ('X', 0)]

/-- Is a character a sign of a change? -/
def isSign (c : Char) : Bool := c == '+' || c == '-' || c == '='

/-- The octal number at the front of a text and what follows, unless it is too large. -/
def octal? (r : Raw) : Option (Nat × Raw) :=
  let (digits, rest) := Number.spanIn 8 r
  let n := Number.valueIn 8 digits
  if digits.isEmpty || all < n then none else some (n, rest)

/-- The change behind the names of those concerned, and what follows it. -/
def change? (concerned : Nat) (r : Raw) : Option (Change × Raw) :=
  match r with
  | [] => none
  | sign :: rest =>
    if !isSign sign then none
    else
      let spoken (bits : Nat) : Nat := if concerned = 0 then bits else concerned &&& bits
      match rest with
      | c :: behind =>
        if Number.isDigitIn 8 c then
          match octal? rest with
          | some (n, behind) =>
            if concerned ≠ 0 || !(behind.isEmpty || behind.head? == some ',') then none
            else some ({ sign, concerned := all, grant := .bits n, spoken := all }, behind)
          | none => none
        else match copiedBits.lookup c with
          | some bits =>
            some ({ sign, concerned, grant := .copied bits, spoken := spoken bits }, behind)
          | none => letters sign spoken rest
      | [] => letters sign spoken rest
where
  /-- A change by letters. -/
  letters (sign : Char) (spoken : Nat → Nat) (r : Raw) : Option (Change × Raw) :=
    let (given, rest) := r.span fun c => (grantedBits.lookup c).isSome
    let bits := given.foldl (fun n c => n ||| (grantedBits.lookup c).getD 0) 0
    let grant := if given.contains 'X' then .whereFitting bits else .bits bits
    some ({ sign, concerned, grant, spoken := spoken bits }, rest)

/-- The changes of a clause: one or more for the same ones concerned. -/
def clause? (r : Raw) : Option (List Change × Raw) :=
  let (names, rest) := r.span fun c => (concernedBits.lookup c).isSome
  let concerned := names.foldl (fun n c => n ||| (concernedBits.lookup c).getD 0) 0
  let rec more : Nat → Raw → Option (List Change × Raw)
    | 0, rest => some ([], rest)
    | steps + 1, rest =>
      if (rest.head?.map isSign).getD false then do
        let (c, rest) ← change? concerned rest
        let (cs, rest) ← more steps rest
        return (c :: cs, rest)
      else some ([], rest)
  if (rest.head?.map isSign).getD false then more rest.length rest else none

/-- The changes of clauses with commas between them, in so many steps. -/
def clauses? : Nat → Raw → Option (List Change)
  | 0, _ => none
  | steps + 1, r => do
    let (changes, rest) ← clause? r
    match rest with
    | [] => return changes
    | ',' :: rest => return changes ++ (← clauses? steps rest)
    | _ => none

/-- Reads permissions. A number of fewer than five digits leaves the special bits of directories. -/
def read? (r : Raw) : Option (List Change) :=
  if (r.head?.map (Number.isDigitIn 8)).getD false then do
    let (n, rest) ← octal? r
    if !rest.isEmpty then none
    else
      let spoken := if r.length < 5 then (n &&& 0o7000) ||| 0o777 else all
      return [{ sign := '=', concerned := all, grant := .bits n, spoken }]
  else clauses? (r.length + 1) r

/-- Permissions after a change. -/
def Change.apply (c : Change) (isDirectory : Bool) (mask mode : Nat) : Nat :=
  let kept := if isDirectory then 0o6000 &&& (all ^^^ c.spoken) else 0
  let has (bits : Nat) (everybody : Nat) : Nat := if bits &&& everybody = 0 then 0 else everybody
  let value := match c.grant with
    | .bits n => n
    | .whereFitting n => if mode &&& 0o111 ≠ 0 || isDirectory then n ||| 0o111 else n
    | .copied n =>
      let own := n &&& mode
      own ||| has own 0o444 ||| has own 0o222 ||| has own 0o111
  let reach := if c.concerned = 0 then all ^^^ mask else c.concerned
  let value := value &&& reach &&& (all ^^^ kept)
  match c.sign with
  | '+' => mode ||| value
  | '-' => mode &&& (all ^^^ value)
  | _ =>
    let preserved := (if c.concerned = 0 then 0 else all ^^^ c.concerned) ||| kept
    (mode &&& preserved) ||| value

/-- Permissions after changes. -/
def adjust (changes : List Change) (isDirectory : Bool) (mask mode : Nat) : Nat :=
  changes.foldl (fun mode c => c.apply isDirectory mask mode) mode

/-- The nine letters of permissions. -/
def letters (mode : Nat) : Raw :=
  let bit (n : Nat) (c : Char) : Char := if mode / Nat.pow 2 n % 2 = 1 then c else '-'
  let run (n : Nat) (special : Nat) (c : Char) : Char :=
    match decide (mode / Nat.pow 2 special % 2 = 1), decide (mode / Nat.pow 2 n % 2 = 1) with
    | true, true => c
    | true, false => c.toUpper
    | false, true => 'x'
    | false, false => '-'
  [bit 8 'r', bit 7 'w', run 6 11 's', bit 5 'r', bit 4 'w', run 3 10 's', bit 2 'r', bit 1 'w',
    run 0 9 't']

/-- Permissions as four octal digits. -/
def octal (mode : Nat) : Raw :=
  let digits := Nat.toDigits 8 mode
  List.replicate (4 - digits.length) '0' ++ digits

end PipeShell.Machine.Mode
