import PipeShell.Machine.Printf
import PipeShell.Machine.Utility.Options
import PipeShell.Machine.Utility.PathName

/-!
# Utilities that print

`echo`, `printf`, `seq`, `yes`, `pwd`, `basename`, `dirname`, and those that only have a status.
`printf` goes through its format again as long as arguments are left over and the format takes any.
-/

set_option autoImplicit false

namespace PipeShell.Machine.Utility

open Act

/-! ## `echo` -/

/-- The escapes of `echo`. -/
def echoEscapes : Escape.Dialect where
  letters := ('e', 27) :: Escape.commonLetters
  stops := true
  hexadecimal := .optional
  extraZero := true

/-- Texts with a blank between them. -/
def spaced (rs : List Raw) : Raw := Raw.joined [' '] rs

/-- Is an argument made of the letters that `echo` takes as options? -/
def isEchoOption : Raw → Bool
  | '-' :: c :: cs => (c :: cs).all fun c => "neE".toList.contains c
  | _ => false

/-- What `echo` prints for its arguments. -/
def echoed (args : List Raw) : Raw :=
  let letters := (args.takeWhile isEchoOption).flatMap fun o => o.drop 1
  let text := spaced (args.dropWhile isEchoOption)
  let (text, fate) :=
    if (letters.filter (· != 'n')).getLast? == some 'e' then Escape.apply echoEscapes text
    else (text, none)
  if fate.isSome || letters.contains 'n' then text else text ++ ['\n']

/-- Prints its arguments. -/
def echo : Utility where
  main t := do
    emit (echoed t.args)
    return 0

/-! ## `printf` -/

/-- The escapes in a format. -/
def formatEscapes : Escape.Dialect where
  letters := ('e', 27) :: ('"', 34) :: Escape.commonLetters
  stops := true
  hexadecimal := .required
  extraZero := false

/-- The escapes in an argument that is printed with its escapes carried out. -/
def argumentEscapes : Escape.Dialect := { formatEscapes with extraZero := true }

/-- The greatest whole number with a sign. -/
def largest : Int := Int.pow 2 63 - 1

/-- What is wrong with a number, and what is left of it. -/
inductive NumberFault where
  | range
  | expected
  | partly

/-- Complains of a number. -/
def complainOfNumber (arg : Raw) : NumberFault → Act Unit
  | .range => complainOf (Quoting.word arg) 34
  | .expected => complain (Quoting.word arg ++ ": expected a numeric value".toList)
  | .partly => complain (Quoting.word arg ++ ": value not completely converted".toList)

/-- The code of the character behind a quote, if an argument is of that form. -/
def characterCode? (arg : Raw) : Option (Nat × Raw) :=
  match arg with
  | '\'' :: c :: rest => some (c.toNat, rest)
  | '"' :: c :: rest => some (c.toNat, rest)
  | _ => none

/-- A whole number between two bounds, or what is wrong with it. -/
def wholeArgument (least greatest : Int) (arg : Raw) : Int × Option NumberFault :=
  match Number.front? 0 arg with
  | none => (0, if arg.isEmpty then none else some .expected)
  | some (n, rest) =>
    if n < least then (least, some .range)
    else if greatest < n then (greatest, some .range)
    else (n, if rest.isEmpty then none else some .partly)

/-- A fraction, or what is wrong with it. -/
def decimalArgument (arg : Raw) : Decimal × Option NumberFault :=
  match Decimal.front? Decimal.digitsKept arg with
  | none => (.finite false 0 1, if arg.isEmpty then none else some .expected)
  | some (x, rest) => (x, if rest.isEmpty then none else some .partly)

/-- What became of printing by a format. -/
structure Printed where
  args : List Raw
  /-- How many arguments were taken. -/
  taken : Nat := 0
  status : Int := 0

/-- The next argument; nothing where there is none. -/
def Printed.next (p : Printed) : Raw × Printed :=
  (p.args.headD [], { p with args := p.args.tail
                             taken := p.taken + (if p.args.isEmpty then 0 else 1) })

/-- Notes what is wrong with a number. -/
def Printed.judge (p : Printed) (arg : Raw) (fault : Option NumberFault) : Act Printed := do
  match fault with
  | none => return p
  | some f => complainOfNumber arg f; return { p with status := 1 }

/-- A whole number from an argument. -/
def Printed.whole (p : Printed) (least greatest : Int) (arg : Raw) : Act (Int × Printed) := do
  match characterCode? arg with
  | some (n, rest) =>
    unless rest.isEmpty do
      complain ("warning: ".toList ++ rest ++
        ": character(s) following character constant have been ignored".toList)
    return (n, p)
  | none =>
    let (n, fault) := wholeArgument least greatest arg
    return (n, ← p.judge arg fault)

/-- A width or a precision from an argument, if it is asked for. -/
def Printed.measure (p : Printed) (what : String) (m : Printf.Measure) : Act (Int × Printed) := do
  if m != .argument then return (0, p)
  let (arg, p) := p.next
  let (n, p) ← p.whole (-largest - 1) largest arg
  if n < -(Int.pow 2 31) ∨ Int.pow 2 31 ≤ n then
    fail 1 ("invalid ".toList ++ what.toList ++ ": ".toList ++ Quoting.word arg)
  return (n, p)

/-- Can a directive be carried out with its flags and its precision? -/
def isSound (d : Printf.Directive) : Bool :=
  let kind := d.kind
  let known := "cdiouxXsaAeEfFgG".toList.contains kind
  let grouped := !(d.flags.contains '\'' && "aAceEosxX".toList.contains kind)
  let alternate := !(d.flags.contains '#' && "cdisu".toList.contains kind)
  let zeroed := !(d.flags.contains '0' && "cs".toList.contains kind)
  let precise := !(d.precision != .absent && kind == 'c')
  known && grouped && alternate && zeroed && precise

/-- Prints an argument by a directive. -/
def printDirective (d : Printf.Directive) (p : Printed) : Act Printed := do
  if d.text == ['%', 'b'] then
    let (arg, p) := p.next
    let (text, fate) := Escape.apply argumentEscapes arg
    emit text
    match fate with
    | none => return p
    | some .stop => exit 0
    | some _ => fail 1 "missing hexadecimal number in escape".toList
  else if d.text == ['%', 'q'] then
    unless p.args.isEmpty do emit (Quoting.whereNeeded (p.args.headD []))
    return p.next.2
  else
    let (width, p) ← p.measure "field width" d.width
    let (precision, p) ← p.measure "precision" d.precision
    if !isSound d then fail 1 (d.text ++ ": invalid conversion specification".toList)
    let l := Printf.layout d width precision
    let (arg, p) := p.next
    if d.kind == 's' then
      emit (l.text arg)
      return p
    else if d.kind == 'c' then
      emit (l.pad [arg.headD (Char.ofNat 0)])
      return p
    else if Printf.signedKinds.contains d.kind then
      let (n, p) ← p.whole (-largest - 1) largest arg
      emit (l.integer d.kind n)
      return p
    else if Printf.unsignedKinds.contains d.kind then
      let (n, p) ← p.whole (-(Int.pow 2 64 - 1)) (Int.pow 2 64 - 1) arg
      emit (l.integer d.kind n)
      return p
    else
      match characterCode? arg with
      | some (n, _) =>
        emit (l.decimal d.kind (.finite false n 1))
        return p
      | none =>
        let (x, fault) := decimalArgument arg
        let p ← p.judge arg fault
        emit (l.decimal d.kind x)
        return p

/-- Goes through a format once, in so many steps. -/
def printOnce : Nat → Raw → Printed → Act Printed
  | 0, _, p => return p
  | _ + 1, [], p => return p
  | steps + 1, c :: rest, p => do
    if c == '\\' then
      match Escape.meaning formatEscapes rest with
      | (.bytes bs, after) => emit bs; printOnce steps after p
      | (.stop, _) => exit 0
      | (.fault, _) => fail 1 "missing hexadecimal number in escape".toList
    else if c == '%' then
      if rest.head? == some '%' then
        emit ['%']
        printOnce steps rest.tail p
      else
        let (d, after) := Printf.directive "-+ #0'I".toList "lLhjtz".toList rest
        printOnce steps after (← printDirective d p)
    else
      let plain := (c :: rest).takeWhile fun c => c != '\\' && c != '%'
      emit plain
      printOnce steps ((c :: rest).drop plain.length) p

/-- Goes through a format at most so many times. -/
def printAgain (format : Raw) : Nat → Printed → Act Printed
  | 0, p => return p
  | times + 1, p => do
    let q ← printOnce (format.length + 1) format { p with taken := 0 }
    if q.taken = 0 || q.args.isEmpty then return q else printAgain format times q

/-- Prints its arguments by a format. -/
def printf : Utility where
  main t := do
    let args := if t.args.head? == some ['-', '-'] then t.args.tail else t.args
    match args with
    | [] => missingOperand
    | format :: args =>
      let p ← printAgain format (args.length + 1) { args }
      if let some extra := p.args.head? then
        complain ("warning: ignoring excess arguments, starting with ".toList ++
          Quoting.word extra)
      return p.status

/-! ## Paths -/

/-- Prints the working directory. -/
def pwd : Utility where
  main t := do
    let line ← options { letters := "LP", long := [("logical", .nothing, "L"), ("physical", .nothing, "P")] } 1 t.args
    unless line.operands.isEmpty do complain "ignoring non-option arguments".toList
    match ← ask Kernel.currentPath with
    | .ok path => emitLine path; return 0
    | .error _ => fail 1 "couldn't find directory entry in '..' with matching i-node".toList

/-- A name without a suffix that it is longer than. -/
def withoutSuffix (suffix name : Raw) : Raw :=
  if suffix.isSuffixOf name && suffix != name then name.take (name.length - suffix.length) else name

/-- Prints the last names of paths. -/
def basename : Utility where
  main t := do
    let long := [("multiple", Takes.nothing, "a"), ("suffix", .value, "s"), ("zero", .nothing, "z")]
    let line ← options { letters := "as:z", long, strict := true } 1 t.args
    let ending := if line.has "z" then [Char.ofNat 0] else ['\n']
    let many := line.has "a" || line.has "s"
    match line.operands, many with
    | [], _ => missingOperand
    | [path], false => emit (lastName path ++ ending)
    | [path, suffix], false => emit (withoutSuffix suffix (lastName path) ++ ending)
    | _ :: _ :: extra :: _, false => extraOperand extra
    | paths, true =>
      for path in paths do
        emit (withoutSuffix ((line.value? "s").getD []) (lastName path) ++ ending)
    return 0

/-- Prints what stands in front of the last names of paths. -/
def dirname : Utility where
  main t := do
    let line ← options { letters := "z", long := [("zero", .nothing, "z")], strict := true } 1 t.args
    if line.operands.isEmpty then missingOperand
    for path in line.operands do
      emit (directoryPart path ++ (if line.has "z" then [Char.ofNat 0] else ['\n']))
    return 0

/-! ## `seq` -/

/-- A number of a sequence. -/
structure SeqNumber where
  /-- The number times ten to the power of its places; none if it is endless. -/
  value : Option Int
  places : Nat := 0
  /-- The number of places that it is written with, if that can be told. -/
  shown : Option Nat := some 0
  /-- Its width as it is written. -/
  width : Nat := 0
  isNegative : Bool := false

/-- A number of a sequence that is written in decimal digits; an exponent shifts its mark. -/
def SeqNumber.decimal? (body : Raw) : Option SeqNumber :=
  let (isNegative, digits) := Number.sign body
  let (whole, rest) := Number.spanIn 10 digits
  let (places, rest) := Decimal.fraction 10 rest
  let hasMark := digits.contains '.'
  let front := body.length - rest.length - (if body.head? == some '+' then 1 else 0)
  let (e, rest) := Decimal.exponent 'e' rest
  if (whole.isEmpty && places.isEmpty) || !rest.isEmpty then none
  else
    let n := (Number.valueIn 10 (whole ++ places) : Int)
    let n := if isNegative then -n else n
    let (value, count) := if e < 0 then (n, places.length + (-e).toNat)
      else (n * Int.pow 10 (e.toNat - places.length), places.length - e.toNat)
    let isAdded := hasMark && !places.isEmpty && whole.isEmpty || !hasMark && e < 0
    let isDropped := hasMark && places.isEmpty && 0 ≤ e
    let width := front + e.natAbs + (if isAdded then 1 else 0) - (if isDropped then 1 else 0)
    some { value := some value, places := count, shown := some count, width, isNegative }

/-- A number of a sequence that is written in another way: in hexadecimal digits, or as a word. -/
def SeqNumber.special? (body : Raw) : Option SeqNumber :=
  match Decimal.front? Decimal.digitsKept body with
  | some (.infinite isNegative, []) => some { value := none, isNegative }
  | some (.finite isNegative n d, []) =>
    let hasPlaces := body.contains '.' || body.contains 'p'
    let n : Int := if isNegative then -n else n
    some { value := some (n * Int.pow 10 d.log2 / d), places := d.log2
           shown := if hasPlaces then none else some 0, isNegative }
  | _ => none

/-- Reads a number of a sequence. -/
def seqNumber? (arg : Raw) : Option SeqNumber :=
  let body := arg.dropWhile Number.isSpace
  (SeqNumber.decimal? body).orElse fun () => SeqNumber.special? body

/-- Writes numbers `step` apart, so many of them, with a separator in front of each. -/
def writeNumbers (shown : Int → Raw) (separator : Raw) (step : Int) : Nat → Int → Act Unit
  | 0, _ => return
  | count + 1, n => do
    emit (separator ++ shown n)
    if (← get).refusal.isSome then return
    writeNumbers shown separator step count (n + step)

/-- How many numbers there are from `first` to `last`, `step` apart. -/
def numberCount (first step last : Int) : Nat :=
  if 0 < step then (if first ≤ last then ((last - first) / step + 1).toNat else 0)
  else if step < 0 then (if last ≤ first then ((first - last) / (-step) + 1).toNat else 0)
  else 0

/-- A number with so many places. -/
def placedText (places : Nat) (n : Int) : Raw :=
  (if n < 0 then ['-'] else []) ++ Decimal.pointed places false n.natAbs

/-- Zeros behind the sign, up to a width. -/
def widened (width : Nat) (text : Raw) : Raw :=
  let zeros := List.replicate (width - text.length) '0'
  match text with
  | '-' :: rest => '-' :: zeros ++ rest
  | _ => zeros ++ text

/-- Does an argument start a negative number? -/
def isNegativeNumber : Raw → Bool
  | '-' :: c :: _ => c.isDigit || c == '.'
  | _ => false

/-- Puts an end to the options in front of a negative number. -/
def guardNumbers : List Raw → List Raw
  | [] => []
  | arg :: rest =>
    if isNegativeNumber arg then ['-', '-'] :: arg :: rest
    else if arg.head? != some '-' || arg == ['-', '-'] then arg :: rest
    else if arg == ['-', 's'] || arg == ['-', 'f'] then
      match rest with
      | value :: rest => arg :: value :: guardNumbers rest
      | [] => [arg]
    else arg :: guardNumbers rest

/-- The one directive of a format for numbers, with the text in front of it and behind it. -/
def numberFormat (format : Raw) : Act (Raw × Printf.Directive × Raw) := do
  let rec literal : Nat → Raw → Raw × Raw
    | 0, r => ([], r)
    | _ + 1, [] => ([], [])
    | steps + 1, '%' :: '%' :: rest => let (a, b) := literal steps rest; ('%' :: a, b)
    | _ + 1, '%' :: rest => ([], '%' :: rest)
    | steps + 1, c :: rest => let (a, b) := literal steps rest; (c :: a, b)
  let (front, rest) := literal (format.length + 1) format
  match rest with
  | [] =>
    fail 1 ("format ".toList ++ Quoting.word format ++ " has no % directive".toList)
  | _ :: rest =>
    let (d, after) := Printf.directive "-+ #0'".toList ['L'] rest
    if d.kind == Char.ofNat 0 then
      fail 1 ("format ".toList ++ Quoting.word format ++ " ends in %".toList)
    if !"efgaEFGA".toList.contains d.kind then
      fail 1 ("format ".toList ++ Quoting.word format ++ " has unknown %".toList ++ [d.kind] ++
        " directive".toList)
    let (back, more) := literal (after.length + 1) after
    unless more.isEmpty do
      fail 1 ("format ".toList ++ Quoting.word format ++ " has too many % directives".toList)
    return (front, d, back)

/-- Prints numbers in a row. -/
def seq : Utility where
  main t := do
    let long := [("equal-width", Takes.nothing, "w"), ("format", .value, "f"),
      ("separator", .value, "s")]
    let line ← options { letters := "f:s:w", long, strict := true } 1 (guardNumbers t.args)
    match line.operands with
    | [] => missingOperand
    | _ :: _ :: _ :: extra :: _ => extraOperand extra
    | operands =>
      let format ← match line.value? "f" with
        | some f => do let f ← numberFormat f; pure (some f)
        | none => pure none
      if format.isSome && line.has "w" then
        complain "format string may not be specified when printing equal width strings".toList
        misuse 1
      let numbers ← operands.mapM fun o => do
        if let some (.undefined _, []) := Decimal.front? Decimal.digitsKept o then
          complain ("invalid 'not-a-number' argument: ".toList ++ Quoting.word o)
          misuse 1
        match seqNumber? o with
        | some n => return n
        | none =>
          complain ("invalid floating point argument: ".toList ++ Quoting.word o)
          misuse 1
      let one : SeqNumber := { value := some 1, width := 1 }
      let (first, step, last) := match numbers with
        | [last] => (one, one, last)
        | [first, last] => (first, one, last)
        | first :: step :: last :: _ => (first, step, last)
        | [] => (one, one, one)
      if step.value == some 0 then
        complain ("invalid Zero increment value: ".toList ++ Quoting.word (operands.getD 1 []))
        misuse 1
      let common := max first.places (max step.places last.places)
      let raised (n : SeqNumber) : Int := n.value.getD 0 * Int.pow 10 (common - n.places)
      let places := max (first.shown.getD 0) (step.shown.getD 0)
      let isPlain := first.shown.isSome && step.shown.isSome && last.shown.isSome
      let width :=
        if line.has "w" then
          let widthOf (n : SeqNumber) : Nat :=
            let own := n.shown.getD 0
            n.width + places - own + (if own = 0 && 0 < places then 1 else 0) -
              (if places = 0 && 0 < own then 1 else 0)
          max (widthOf first) (widthOf last)
        else 0
      let text (v : Int) : Raw :=
        let (n, m) := Decimal.rounded Decimal.digitsKept v.natAbs (Nat.pow 10 common)
        let x : Decimal := .finite (decide (v < 0)) n m
        match format with
        | some (front, d, back) => front ++ (Printf.layout d 0 0).decimal d.kind x ++ back
        | none =>
          if isPlain then widened width (placedText places (Int.tdiv v (Int.pow 10 (common - places))))
          else ({} : Printf.Layout).decimal 'g' x
      let count := match last.value with
        | some _ => numberCount (raised first) (raised step) (raised last)
        | none => if last.isNegative == decide (raised step < 0) then Kernel.endlessly else 0
      if count = 0 then return 0
      emit (text (raised first))
      let separator := (line.value? "s").getD ['\n']
      writeNumbers text separator (raised step) (count - 1) (raised first + raised step)
      emit ['\n']
      return 0

/-! ## Others -/

/-- Writes a block again and again, at most so many times. -/
def repeatBlock (block : Raw) : Nat → Act Int
  | 0 => return 0
  | times + 1 => do
    match ← ask (Kernel.writeAll 1 block) with
    | .ok () => repeatBlock block times
    | .error e =>
      complainOf "standard output".toList e
      return 1

/-- Prints a line for ever. -/
def yes : Utility where
  main t := do
    let line ← options { strict := true } 1 t.args
    let text := (if line.operands.isEmpty then ['y'] else spaced line.operands) ++ ['\n']
    let copies := max 1 (8192 / text.length)
    repeatBlock (List.replicate copies text).flatten Kernel.endlessly

/-- Does nothing, with a status. -/
def constant (status : Int) : Utility where
  main _ := return status

/-- The milliseconds of a duration: a fraction and a unit. -/
def duration? (arg : Raw) : Option Nat :=
  match Decimal.front? Decimal.digitsKept arg with
  | none => none
  | some (x, unit) =>
    let factor := match unit with
      | [] | ['s'] => some 1000
      | ['m'] => some 60000
      | ['h'] => some 3600000
      | ['d'] => some 86400000
      | _ => none
    match x, factor with
    | .finite false n d, some f => some ((n * f + d - 1) / d)
    | .finite true 0 _, some _ => some 0
    | .infinite false, some _ => some (Nat.pow 2 62)
    | _, _ => none

/-- Lets time pass. -/
def sleep : Utility where
  main t := do
    let line ← options { strict := true } 1 t.args
    if line.operands.isEmpty then missingOperand
    let mut total := 0
    let mut sound := true
    for arg in line.operands do
      match duration? arg with
      | some n => total := total + n
      | none =>
        complain ("invalid time interval ".toList ++ Quoting.word arg)
        sound := false
    unless sound do misuse 1
    ask (Kernel.sleep total)
    return 0

end PipeShell.Machine.Utility
