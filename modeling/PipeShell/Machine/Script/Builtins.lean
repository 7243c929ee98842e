import PipeShell.Machine.Printf
import PipeShell.Machine.Script.Condition
import PipeShell.Machine.Script.Execution
import PipeShell.Machine.Script.Expansion
import PipeShell.Machine.Script.Grammar

/-!
# Builtins

The commands that an interpreter carries out itself, as far as they run no commands of their own.
Each is called with its arguments and gives a status; an error in a special builtin ends the
interpreter.
-/

set_option autoImplicit false

namespace PipeShell.Machine.Script

/-- A command that an interpreter carries out itself. -/
structure Builtin where
  name : String
  /-- Does an error end the interpreter? Are settings in front of it kept? -/
  isSpecial : Bool := false
  /-- Are its arguments settings? -/
  assigns : Bool := false
  run : List Raw → Shell Int

namespace Builtins

open Shell

/-! ## Arguments -/

/-- A number without a sign. -/
def number (text : Raw) : Shell Int := do
  match Number.front? 10 text with
  | some (n, rest) =>
    if (rest.dropWhile Number.isSpace).isEmpty && 0 ≤ n && n < Int.pow 2 31 then return n
    else illegalNumber text
  | none => illegalNumber text

/-- Options at the front of arguments. Letters with a colon behind them take a value. -/
def options (letters : List Char) : List Raw → Shell (List (Char × Raw) × List Raw)
  | ['-', '-'] :: rest => return ([], rest)
  | ('-' :: c :: cs) :: rest => do
    let (given, owed) ← cluster (c :: cs)
    match owed, rest with
    | none, rest =>
      let (more, operands) ← options letters rest
      return (given ++ more, operands)
    | some c, value :: rest =>
      let (more, operands) ← options letters rest
      return (given ++ (c, value) :: more, operands)
    | some c, [] => fail ("No arg for -".toList ++ [c] ++ " option".toList)
  | operands => return ([], operands)
where
  /-- The letters behind a dash, and one that a value is still owed to. -/
  cluster : Raw → Shell (List (Char × Raw) × Option Char)
    | [] => return ([], none)
    | c :: rest => do
      match letters.dropWhile (· != c) with
      | _ :: ':' :: _ =>
        if rest.isEmpty then return ([], some c) else return ([(c, rest)], none)
      | _ :: _ =>
        if c == ':' then fail "Illegal option -:".toList
        let (more, owed) ← cluster rest
        return ((c, []) :: more, owed)
      | [] => fail ("Illegal option -".toList ++ [c])

/-- Operands behind no options at all. -/
def operands (args : List Raw) : Shell (List Raw) := do return (← options [] args).2

/-- A text between single quotes. -/
def singleQuoted (r : Raw) : Raw :=
  let rec go : Nat → Raw → Raw
    | 0, _ => []
    | steps + 1, r =>
      let plain := r.takeWhile (· != '\'')
      let rest := r.drop plain.length
      let quotes := rest.takeWhile (· == '\'')
      let rest := rest.drop quotes.length
      let front := '\'' :: plain ++ ['\'']
      let middle := if quotes.isEmpty then [] else '"' :: quotes ++ ['"']
      front ++ middle ++ (if rest.isEmpty then [] else go steps rest)
  go (r.length + 1) r

/-! ## Output -/

/-- The escapes of `echo` and `printf`. -/
def escapes (inArgument : Bool) : Escape.Dialect where
  letters := Escape.commonLetters
  stops := inArgument
  hexadecimal := .unknown
  extraZero := inArgument

/-- What `echo` prints. -/
def echoed : List Raw → Raw
  | [] => ['\n']
  | [arg] =>
    let (text, fate) := Escape.apply (escapes true) arg
    if fate.isSome then text else text ++ ['\n']
  | arg :: rest =>
    let (text, fate) := Escape.apply (escapes true) arg
    if fate.isSome then text else text ++ ' ' :: echoed rest

/-- Prints its arguments. -/
def echo (args : List Raw) : Shell Int := do
  match args with
  | ['-', 'n'] :: rest =>
    let text := echoed rest
    let isStopped := rest.any fun arg => (Escape.apply (escapes true) arg).2.isSome
    print (if rest.isEmpty then [] else if isStopped then text else text.dropLast)
  | args => print (echoed args)
  return 0

/-- What became of printing by a format. -/
structure Printed where
  args : List Raw
  taken : Nat := 0
  status : Int := 0

/-- The next argument, if there is one. -/
def Printed.next? (p : Printed) : Option Raw × Printed :=
  match p.args with
  | [] => (none, p)
  | arg :: rest => (some arg, { p with args := rest, taken := p.taken + 1 })

/-- Complains of an argument. -/
def Printed.warn (p : Printed) (text : Raw) : Shell Printed := do
  complain text
  return { p with status := 1 }

/-- A whole number from the next argument. -/
def Printed.whole (p : Printed) (signed : Bool) : Shell (Int × Printed) := do
  match p.next? with
  | (none, p) => return (0, p)
  | (some ('"' :: rest), p) | (some ('\'' :: rest), p) =>
    return ((rest.headD (Char.ofNat 0)).toNat, p)
  | (some arg, p) =>
    let least : Int := if signed then -(Int.pow 2 63) else -(Int.pow 2 64 - 1)
    let greatest : Int := if signed then Int.pow 2 63 - 1 else Int.pow 2 64 - 1
    match Number.front? 0 arg with
    | none =>
      if arg.isEmpty then return (0, p)
      else return (0, ← p.warn (arg ++ ": expected numeric value".toList))
    | some (n, rest) =>
      let kept := max least (min greatest n)
      if !rest.isEmpty then return (kept, ← p.warn (arg ++ ": not completely converted".toList))
      else if kept ≠ n then
        return (kept, ← p.warn (arg ++ ": ".toList ++ Errno.text 34))
      else return (n, p)

/-- A fraction from the next argument. -/
def Printed.decimal (p : Printed) : Shell (Decimal × Printed) := do
  let zero : Decimal := .finite false 0 1
  match p.next? with
  | (none, p) => return (zero, p)
  | (some ('"' :: rest), p) | (some ('\'' :: rest), p) =>
    return (.finite false (rest.headD (Char.ofNat 0)).toNat 1, p)
  | (some arg, p) =>
    match Decimal.front? 53 arg with
    | none =>
      if arg.isEmpty then return (zero, p)
      else return (zero, ← p.warn (arg ++ ": expected numeric value".toList))
    | some (x, rest) =>
      if rest.isEmpty then return (x, p)
      else return (x, ← p.warn (arg ++ ": not completely converted".toList))

/-- A width or a precision from the next argument, if it is asked for. -/
def Printed.measure (p : Printed) (m : Printf.Measure) : Shell (Int × Printed) :=
  if m == .argument then p.whole true else return (0, p)

/-- Prints an argument by a directive; the flag tells that all output ends. -/
def printDirective (d : Printf.Directive) (p : Printed) : Shell (Printed × Bool) := do
  let (width, p) ← p.measure d.width
  let (precision, p) ← p.measure d.precision
  let l := Printf.layout d width precision
  match d.kind with
  | 'b' =>
    let (arg, p) := p.next?
    let (text, fate) := Escape.apply (escapes true) (arg.getD [])
    print (l.text text)
    return (p, fate.isSome)
  | 's' =>
    let (arg, p) := p.next?
    print (l.text (arg.getD []))
    return (p, false)
  | 'c' =>
    let (arg, p) := p.next?
    print (l.pad [(arg.getD []).headD (Char.ofNat 0)])
    return (p, false)
  | kind =>
    if Printf.signedKinds.contains kind then
      let (n, p) ← p.whole true
      print (l.integer kind n)
      return (p, false)
    else if Printf.unsignedKinds.contains kind then
      let (n, p) ← p.whole false
      print (l.integer kind n)
      return (p, false)
    else if Printf.decimalKinds.contains kind then
      let (x, p) ← p.decimal
      print (l.decimal kind x)
      return (p, false)
    else if kind == Char.ofNat 0 then fail "missing format character".toList
    else fail (d.text ++ ": invalid directive".toList)

/-- Goes through a format once, in so many steps; the flag tells that all output ends. -/
def printOnce : Nat → Raw → Printed → Shell (Printed × Bool)
  | 0, _, p => return (p, false)
  | _ + 1, [], p => return (p, false)
  | steps + 1, c :: rest, p => do
    if c == '\\' then
      match Escape.meaning (escapes false) rest with
      | (.bytes bs, after) => print bs; printOnce steps after p
      | (_, after) => printOnce steps after p
    else if c == '%' && rest.head? != some '%' then
      let (d, after) := Printf.directive "#-+ 0".toList [] rest
      let (p, stops) ← printDirective d p
      if stops then return (p, true) else printOnce steps after p
    else
      print [c]
      printOnce steps (if c == '%' then rest.tail else rest) p

/-- Goes through a format at most so many times. -/
def printAgain (format : Raw) : Nat → Printed → Shell Printed
  | 0, p => return p
  | times + 1, p => do
    let (p, stops) ← printOnce (format.length + 1) format p
    if stops || p.taken = 0 || p.args.isEmpty then return p else printAgain format times p

/-- Prints its arguments by a format. -/
def printf (args : List Raw) : Shell Int := do
  match ← operands args with
  | [] => fail "usage: printf format [arg ...]".toList
  | format :: args => return (← printAgain format (args.length + 1) { args }).status

/-! ## Directories -/

/-- A path with its points carried out. -/
def tidied (directory path : Raw) : Raw :=
  let step (names : List Raw) (name : Raw) : List Raw :=
    if name == ['.'] || name.isEmpty then names
    else if name == ['.', '.'] then names.dropLast
    else names ++ [name]
  let base := if Path.isAbsolute path then [] else FileSystem.names directory
  FileSystem.absolute ((Raw.splitAt '/' path).foldl step base)

/-- Moves to a directory. -/
def cd (args : List Raw) : Shell Int := do
  let (given, rest) ← options ['P', 'L'] args
  let physical := (given.getLast?.map fun o => o.1 == 'P').getD false
  let env ← get
  let (target, shows) := match rest with
    | [] => ((valueOf env "HOME".toList).getD [], false)
    | ['-'] :: _ => ((valueOf env "OLDPWD".toList).getD [], true)
    | target :: _ => (target, false)
  let path := if target.isEmpty then ['.'] else target
  let goal := if physical then path else tidied env.directory path
  match ← ask (Kernel.changeDirectory goal) with
  | .error _ => fail ("can't cd to ".toList ++ target)
  | .ok () =>
    let reached ← if physical then do
        match ← ask Kernel.currentPath with
        | .ok p => pure p
        | .error _ => pure goal
      else pure goal
    setVariable "OLDPWD".toList env.directory true
    modify fun env => { env with directory := reached }
    setVariable "PWD".toList reached true
    if shows then printLine reached
    return 0

/-- Prints the working directory. -/
def pwd (args : List Raw) : Shell Int := do
  let (given, _) ← options ['P', 'L'] args
  if (given.getLast?.map fun o => o.1 == 'P').getD false then
    match ← ask Kernel.currentPath with
    | .ok p => printLine p; return 0
    | .error _ => printLine (← get).directory; return 0
  else
    printLine (← get).directory
    return 0

/-! ## Conditions -/

/-- Decides a condition. -/
def test (args : List Raw) : Shell Int := do
  let s : Condition.Surroundings :=
    { files := ← ask Kernel.files, directory := ← ask Kernel.directory }
  match Condition.decide s args with
  | .ok result => return if result then 0 else 1
  | .error message => fail message

/-- Decides a condition that a bracket closes. -/
def bracket (args : List Raw) : Shell Int :=
  if args.getLast? == some [']'] then test args.dropLast else fail "missing ]".toList

/-! ## Variables -/

/-- A setting cut at its equals sign. -/
def cutSetting (r : Raw) : Raw × Option Raw :=
  match Raw.cutAt '=' r with
  | some (name, value) => (name, some value)
  | none => (r, none)

/-- Variables in order of their names. -/
def sorted (vs : List Variable) : List Variable := vs.mergeSort fun v w => Raw.le v.name w.name

/-- Prints variables. -/
def showVariables (front : Raw) (vs : List Variable) : Shell Unit := do
  for v in sorted vs do
    let value := match v.value with
      | some value => '=' :: singleQuoted value
      | none => []
    printLine (front ++ v.name ++ value)

/-- Marks variables, perhaps with values. -/
def mark (word : String) (isMarked : Variable → Bool) (change : Variable → Variable)
    (args : List Raw) : Shell Int := do
  let (given, names) ← options ['p'] args
  if names.isEmpty || !given.isEmpty then
    showVariables (word.toList ++ [' ']) ((← get).vars.filter isMarked)
  else
    for arg in names do
      let (name, value) := cutSetting arg
      unless isName name do fail (name ++ ": bad variable name".toList)
      if let some value := value then setVariable name value false
      modifyVariable name change
  return 0

/-- Gives variables to other programs. -/
def exportVariables : List Raw → Shell Int :=
  mark "export" (·.exported) fun v => { v with exported := true }

/-- Protects variables. -/
def protectVariables : List Raw → Shell Int :=
  mark "readonly" (·.isReadonly) fun v => { v with isReadonly := true }

/-- Takes variables or functions away. -/
def unset (args : List Raw) : Shell Int := do
  let (given, names) ← options ['v', 'f'] args
  let functions := (given.getLast?.map fun o => o.1 == 'f').getD false
  for name in names do
    if functions then
      modify fun env => { env with functions := env.functions.filter (·.1 != name) }
    else if isName name then Shell.unset name
    else fail (name ++ ": bad variable name".toList)
  return 0

/-- Makes variables local to a function. -/
def makeLocal (args : List Raw) : Shell Int := do
  unless (← get).inFunction do fail "not in a function".toList
  for arg in args do
    let (name, value) := cutSetting arg
    if name == ['-'] then pure ()
    else
      unless isName name do fail (name ++ ": bad variable name".toList)
      keepForLater name
      match value with
      | some value => setVariable name value false
      | none =>
        if ((← findVariable name).bind Variable.value).isNone then
          modifyVariable name fun v => v
  return 0

/-! ## Options and parameters -/

/-- Options by their long names. -/
def longOptions : List (String × Char) :=
  [("errexit", 'e'), ("noglob", 'f'), ("ignoreeof", 'I'), ("interactive", 'i'), ("monitor", 'm'),
    ("noexec", 'n'), ("stdin", 's'), ("xtrace", 'x'), ("verbose", 'v'), ("vi", 'V'), ("emacs", 'E'),
    ("noclobber", 'C'), ("allexport", 'a'), ("notify", 'b'), ("nounset", 'u'), ("nolog", '0'),
    ("debug", '1')]

/-- Switches an option by its letter. -/
def setOption (letter : Char) (on : Bool) : Shell Unit :=
  if optionLetters.contains letter then switch letter on
  else fail ("Illegal option -".toList ++ [letter])

/-- Switches an option by its long name, or shows all. -/
def setLongOption (name : Option Raw) (on : Bool) : Shell Unit := do
  match name with
  | none =>
    let env ← get
    if on then printLine "Current option settings".toList
    for (long, letter) in longOptions do
      let isOn := env.options.contains letter
      if on then
        printLine (long.toList ++ List.replicate (16 - long.length) ' ' ++
          (if isOn then "on" else "off").toList)
      else printLine ("set ".toList ++ (if isOn then "-o " else "+o ").toList ++ long.toList)
  | some name =>
    match longOptions.find? fun o => o.1.toList == name with
    | some (_, letter) => switch letter on
    | none => fail ("Illegal option ".toList ++ (if on then "-o " else "+o ").toList ++ name)

/-- Switches the options of a cluster of letters; the flag tells that one takes a long name. -/
def setCluster (on : Bool) : Raw → Shell Nat
  | [] => return 0
  | 'o' :: rest => do return 1 + (← setCluster on rest)
  | c :: rest => do
    setOption c on
    setCluster on rest

/-- Takes long names of options from the front of arguments. -/
def takeLong (on : Bool) : Nat → List Raw → Shell (List Raw)
  | 0, args => return args
  | count + 1, args => do
    setLongOption args.head? on
    takeLong on count args.tail

/-- Reads options at the front of arguments, in so many steps. Gives the parameters behind them, if
there are new ones. -/
def readOptions : Nat → List Raw → Shell (Option (List Raw))
  | 0, _ => return none
  | _ + 1, [] => return none
  | steps + 1, arg :: rest => do
    match arg with
    | ['-'] =>
      switch 'x' false
      switch 'v' false
      return if rest.isEmpty then none else some rest
    | ['-', '-'] => return some rest
    | '-' :: letters =>
      let count ← setCluster true letters
      readOptions steps (← takeLong true count rest)
    | '+' :: letters =>
      let count ← setCluster false letters
      readOptions steps (← takeLong false count rest)
    | _ => return some (arg :: rest)

/-- Sets options and parameters, or shows variables. -/
def setCommand (args : List Raw) : Shell Int := do
  if args.isEmpty then
    showVariables [] ((← get).vars.filter fun v => v.value.isSome)
  else
    match ← readOptions (args.length + 1) args with
    | none => pure ()
    | some parameters => modify fun env => { env with parameters, optionPlace := 0 }
  return 0

/-- Drops parameters in front. -/
def shift (args : List Raw) : Shell Int := do
  let n ← match args with
    | [] => pure 1
    | arg :: _ => number arg
  let env ← get
  if env.parameters.length < n.toNat then fail "can't shift that many".toList
  set { env with parameters := env.parameters.drop n.toNat, optionPlace := 0 }
  return 0

/-! ## Leaving -/

/-- Leaves loops, or goes on with the next round. -/
def leaveLoops (goesOn : Bool) (args : List Raw) : Shell Int := do
  let n ← match args with
    | [] => pure 1
    | arg :: _ => number arg
  if n = 0 then illegalNumber (args.headD [])
  modify fun env =>
    let count := min n.toNat env.loops
    if count = 0 then env
    else { env with skip := if goesOn then .rounds count else .loops count }
  return 0

/-- Leaves a function or a script. -/
def returnCommand (args : List Raw) : Shell Int := do
  match args with
  | [] =>
    modify fun env => { env with skip := .script }
    return (← get).status
  | arg :: _ =>
    let n ← number arg
    modify fun env => { env with skip := .function }
    return n

/-- Ends the interpreter. -/
def exitCommand (args : List Raw) : Shell Int := do
  if let arg :: _ := args then
    let n ← number arg
    modify fun env => { env with savedStatus := some n }
  throw .exit

/-! ## Reading -/

/-- A character that was read, and whether it was escaped. -/
abbrev ReadChar := Char × Bool

/-- Reads a line; the flag tells that a newline ended it. -/
def readLineFrom (rawMode : Bool) : Nat → Bool → List ReadChar → Shell (List ReadChar × Bool)
  | 0, _, done => return (done.reverse, true)
  | steps + 1, isEscaped, done => do
    match ← ask (Kernel.read 0 1) with
    | .ok [c] =>
      if c == Char.ofNat 0 then readLineFrom rawMode steps isEscaped done
      else if isEscaped then
        readLineFrom rawMode steps false (if c == '\n' then done else (c, true) :: done)
      else if c == '\\' && !rawMode then readLineFrom rawMode steps true done
      else if c == '\n' then return (done.reverse, true)
      else readLineFrom rawMode steps false ((c, false) :: done)
    | _ => return (done.reverse, false)

/-- Is a character a separator, and a blank one? -/
def isSeparator (separators : Raw) (c : ReadChar) : Bool := !c.2 && separators.contains c.1

/-- Is a character a blank separator? -/
def isBlankSeparator (separators : Raw) (c : ReadChar) : Bool :=
  isSeparator separators c && usualSeparators.contains c.1

/-- The field at the front of a line, and what follows it. -/
def takeField (separators : Raw) (line : List ReadChar) : List ReadChar × List ReadChar :=
  let (field, rest) := line.span fun c => !isSeparator separators c
  match rest with
  | [] => (field, [])
  | c :: after =>
    if isBlankSeparator separators c then
      let after := after.dropWhile (isBlankSeparator separators)
      match after with
      | d :: more => if isSeparator separators d then (field, more) else (field, after)
      | [] => (field, [])
    else (field, after)

/-- Where the last field of a line ends: behind its first separator there may only be blanks, or
one separator that belongs to it. -/
def lastFieldEnd (separators : Raw) :
    Nat → Option Nat → Bool → Bool → List ReadChar → Option Nat
  | _, ending, _, _, [] => ending
  | i, ending, passed, soft, c :: rest =>
    let isAny := isSeparator separators c
    let isBlank := isBlankSeparator separators c
    if !passed then
      if isAny then lastFieldEnd separators (i + 1) (some i) true isBlank rest
      else lastFieldEnd separators (i + 1) none false false rest
    else if isBlank then lastFieldEnd separators (i + 1) (some (ending.getD i)) true soft rest
    else lastFieldEnd separators (i + 1) (if isAny && soft then ending else none) true false rest

/-- The values for so many variables. -/
def fieldsOf (separators : Raw) : Nat → List ReadChar → List Raw
  | 0, _ => []
  | more + 1, line =>
    let line := line.dropWhile (isBlankSeparator separators)
    if more = 0 then
      let ending := lastFieldEnd separators 0 none false false line
      [(line.take (ending.getD line.length)).map Prod.fst]
    else
      let (field, rest) := takeField separators line
      field.map Prod.fst :: fieldsOf separators more rest

/-- Reads a line into variables. -/
def read (args : List Raw) : Shell Int := do
  let (given, names) ← options ['p', ':', 'r'] args
  if names.isEmpty then fail "arg count".toList
  let rawMode := given.any fun o => o.1 == 'r'
  let (line, ended) ← readLineFrom rawMode Kernel.endlessly false []
  let separators := separatorsOf (← get)
  for (name, value) in names.zip (fieldsOf separators names.length line) do
    assign name value
  return if ended then 0 else 1

/-! ## Names of commands -/

/-- Names and replacements. -/
def aliasCommand (args : List Raw) : Shell Int := do
  let shown (a : Raw × Raw) : Raw := a.1 ++ '=' :: singleQuoted a.2
  if args.isEmpty then
    for a in (← get).aliases do printLine (shown a)
    return 0
  let mut status := 0
  for arg in args do
    match cutSetting arg with
    | (name, some value) =>
      modify fun env =>
        { env with aliases := env.aliases.filter (·.1 != name) ++ [(name, value)] }
    | (name, none) =>
      match (← get).aliases.lookup name with
      | some value => printLine (shown (name, value))
      | none =>
        writeTo 2 ("alias: ".toList ++ name ++ " not found\n".toList)
        status := 1
  return status

/-- Forgets replacements. -/
def unaliasCommand (args : List Raw) : Shell Int := do
  let (given, names) ← options ['a'] args
  unless given.isEmpty do
    modify fun env => { env with aliases := [] }
    return 0
  let mut status := 0
  for name in names do
    if ((← get).aliases.lookup name).isSome then
      modify fun env => { env with aliases := env.aliases.filter (·.1 != name) }
    else
      writeTo 2 ("unalias: ".toList ++ name ++ " not found\n".toList)
      status := 1
  return status

/-! ## Permissions -/

/-- Letters of permissions. -/
def permissionText (bits : Nat) : Raw :=
  (if bits / 4 % 2 = 1 then ['r'] else []) ++ (if bits / 2 % 2 = 1 then ['w'] else []) ++
    (if bits % 2 = 1 then ['x'] else [])

/-- The letters of users. -/
def userBits : List (Char × Nat) := [('u', 0o700), ('g', 0o070), ('o', 0o007), ('a', 0o777)]

/-- The letters of permissions with their bits for everybody. -/
def letterBits : List (Char × Nat) := [('r', 0o444), ('w', 0o222), ('x', 0o111)]

/-- Permissions after a change by letters, if it can be read. -/
def changedMode (mode : Nat) (text : Raw) : Option Nat :=
  (Raw.splitAt ',' text).foldl (fun mode clause => do
    let mode ← mode
    let users := clause.takeWhile fun c => (userBits.lookup c).isSome
    let who := if users.isEmpty then 0o777
      else users.foldl (fun n c => n ||| ((userBits.lookup c).getD 0)) 0
    match clause.drop users.length with
    | sign :: letters => do
      let bits ← letters.foldlM (fun n c => (letterBits.lookup c).map (n ||| ·)) 0
      let bits := bits &&& who
      match sign with
      | '+' => return mode ||| bits
      | '-' => return mode &&& (0o777 ^^^ bits)
      | '=' => return (mode &&& (0o777 ^^^ who)) ||| bits
      | _ => none
    | [] => none) (some mode)

/-- Shows or sets the permissions that new files do not get. -/
def umask (args : List Raw) : Shell Int := do
  let (given, rest) ← options ['S'] args
  let mask ← ask Kernel.mask
  match rest with
  | [] =>
    if given.isEmpty then
      let digits := Nat.toDigits 8 mask
      printLine (List.replicate (4 - digits.length) '0' ++ digits)
    else
      let mode := 0o777 ^^^ (mask &&& 0o777)
      printLine ("u=".toList ++ permissionText (mode / 64 % 8) ++ ",g=".toList ++
        permissionText (mode / 8 % 8) ++ ",o=".toList ++ permissionText (mode % 8))
    return 0
  | text :: _ =>
    if (text.head?.map Char.isDigit).getD false then
      unless text.all (Number.isDigitIn 8) do illegalNumber text
      let _ ← ask (Kernel.setMask (Number.valueIn 8 text &&& 0o777))
      return 0
    else
      match changedMode (0o777 ^^^ (mask &&& 0o777)) text with
      | some mode =>
        let _ ← ask (Kernel.setMask (0o777 ^^^ mode))
        return 0
      | none => fail ("Illegal mode: ".toList ++ text)

/-! ## Signals and processes -/

/-- The number of a signal, not below a least one. -/
def signal? (least : Nat) (text : Raw) : Option Nat :=
  if !text.isEmpty && text.all Char.isDigit then
    let n := Number.valueIn 10 text
    if n ≤ Signal.largest && (least ≤ n || n = 0) then some n else none
  else if least = 0 && text.map Char.toLower == "exit".toList then some 0
  else Signal.number? text

/-- The name of a signal. -/
def signalName (n : Nat) : Raw := if n = 0 then "EXIT".toList else (Signal.names[n - 1]?).getD []

/-- Makes the kernel do about a signal what the traps say. -/
def applyTrap (n : Nat) : Shell Unit := do
  let env ← get
  if n = 0 || Signal.isSovereign n || env.deaf.contains n then return
  ask (Signal.dispose n (match env.traps.lookup n with
    | none => none
    | some [] => some .ignored
    | some _ => some .caught))

/-- Sets what is done about signals, or shows it. -/
def trap (args : List Raw) : Shell Int := do
  match ← operands args with
  | [] =>
    let env ← get
    for n in List.range (Signal.largest + 1) do
      if let some action := env.traps.lookup n then
        printLine ("trap -- ".toList ++ singleQuoted action ++ ' ' :: signalName n)
    return 0
  | first :: rest =>
    let isNumber := !first.isEmpty && first.all Char.isDigit
    let (action, names) : Option Raw × List Raw :=
      if rest.isEmpty || isNumber then (none, first :: rest)
      else (if first == ['-'] then none else some first, rest)
    for name in names do
      match signal? 0 name with
      | none =>
        writeTo 2 ("trap: ".toList ++ name ++ ": bad trap\n".toList)
        return 1
      | some n =>
        modify fun env =>
          let others := env.traps.filter (·.1 != n)
          { env with traps := match action with
            | some action => (n, action) :: others
            | none => others }
        applyTrap n
    return 0

/-- How `kill` is called. -/
def killUsage {α : Type} : Shell α :=
  fail ("Usage: kill [-s sigspec | -signum | -sigspec] [pid | job]... or\n".toList ++
    "kill -l [exitstatus]".toList)

/-- Sends a signal to processes. -/
def sendSignals (n : Nat) (targets : List Raw) : Shell Int := do
  let mut status := 0
  for target in targets do
    let p ← match target with
      | '-' :: rest => do pure (-(← number rest))
      | _ => number target
    match ← ask (Signal.sendTo p n) with
    | .ok () => pure ()
    | .error e =>
      complain (Errno.text e ++ ['\n'])
      status := 1
  return status

/-- Lists signals. -/
def listSignals (args : List Raw) : Shell Int := do
  match args with
  | [] =>
    printLine ['0']
    for name in Signal.names do printLine name
    return 0
  | arg :: _ =>
    let n ← number arg
    let n := if 128 < n then n - 128 else n
    if 0 < n && n ≤ Signal.largest then
      printLine (signalName n.toNat)
      return 0
    else fail ("invalid signal number or exit status: ".toList ++ arg)

/-- Sends a signal to processes, or lists signals. -/
def kill (args : List Raw) : Shell Int := do
  let usual := 15
  match args with
  | [] => killUsage
  | ('-' :: name) :: rest =>
    match signal? 1 name with
    | some n => if rest.isEmpty then killUsage else sendSignals n rest
    | none =>
      let (given, rest) ← options ['l', 's', ':'] args
      if given.any fun o => o.1 == 'l' then listSignals rest
      else
        let n ← match given.getLast? with
          | none => pure usual
          | some (_, name) =>
            match signal? 1 name with
            | some n => pure n
            | none => fail ("invalid signal number or name: ".toList ++ name)
        if rest.isEmpty then killUsage else sendSignals n rest
  | targets => sendSignals usual targets

/-- Waits for a process; gives nothing if a caught signal comes first. -/
def awaitChild (c : Child) : Shell (Option Int) := do
  match ← ask (Kernel.awaitOrSignal c.process) with
  | none => return none
  | some how => return some how.status

/-- The status of a wait that a signal has cut short. -/
def waitCutShort : Shell Int := do
  let n ← ask (Job.act fun p s => (((s.entry? p).bind fun e => e.pending.head?).getD 0, s))
  return 128 + n

/-- Waits for processes in the background. -/
def wait (args : List Raw) : Shell Int := do
  match ← operands args with
  | [] =>
    for c in (← get).children do
      if (← awaitChild c).isNone then return ← waitCutShort
    modify fun env => { env with children := [] }
    return 0
  | targets =>
    let mut status := 127
    for target in targets do
      let children := (← get).children
      let child? ← match target with
        | '%' :: rest => do
          let n ← number rest
          pure (children[n.toNat - 1]?)
        | _ => do
          let n ← number target
          pure (children.find? fun c => (c.process : Int) == n)
      match child? with
      | none => status := 127
      | some c =>
        match ← awaitChild c with
        | some s => status := s
        | none => return ← waitCutShort
    return status

/-! ## Options of scripts -/

/-- Reads the next option of a script's own parameters. -/
def getopts (args : List Raw) : Shell Int := do
  match args with
  | letters :: name :: rest =>
    let env ← get
    let params := if rest.isEmpty then env.parameters else rest
    let index := ((valueOf env "OPTIND".toList).bind Number.natural?).getD 1
    let place := env.optionPlace
    let finish (index place : Nat) (status : Int) (c : Raw) : Shell Int := do
      setVariable "OPTIND".toList (Numeral.ofNat index) false
      modify fun env => { env with optionPlace := place }
      assign name c
      return status
    let ended (index : Nat) : Shell Int := do
      finish index 0 1 ['?']
    match params[index - 1]? with
    | none => ended index
    | some arg =>
      let place := if place = 0 then 1 else place
      if place = 1 && (arg.head? != some '-' || arg == ['-']) then ended index
      else if place = 1 && arg == ['-', '-'] then ended (index + 1)
      else
        let c := (arg[place]?).getD '?'
        let isLast := arg.length ≤ place + 1
        let silent := letters.head? == some ':'
        let known := (if silent then letters.tail else letters).dropWhile (· != c)
        match known with
        | _ :: ':' :: _ =>
          if !isLast then
            setVariable "OPTARG".toList (arg.drop (place + 1)) false
            finish (index + 1) 0 0 [c]
          else
            match params[index]? with
            | some value =>
              setVariable "OPTARG".toList value false
              finish (index + 2) 0 0 [c]
            | none =>
              if silent then
                setVariable "OPTARG".toList [c] false
                finish (index + 1) 0 0 [':']
              else
                writeTo 2 ("No arg for -".toList ++ [c] ++ " option\n".toList)
                Shell.unset "OPTARG".toList
                finish (index + 1) 0 0 ['?']
        | d :: _ =>
          if d == ':' then finish index 0 0 ['?']
          else
            Shell.unset "OPTARG".toList
            if isLast then finish (index + 1) 0 0 [c] else finish index (place + 1) 0 [c]
        | [] =>
          if silent then setVariable "OPTARG".toList [c] false
          else
            writeTo 2 ("Illegal option -".toList ++ [c, '\n'])
            Shell.unset "OPTARG".toList
          if isLast then finish (index + 1) 0 0 ['?'] else finish index (place + 1) 0 ['?']
  | _ => fail "Usage: getopts optstring var [arg]".toList

/-! ## All of them -/

/-- Does nothing, with a status. -/
def constant (status : Int) (_ : List Raw) : Shell Int := return status

/-- Shows how much time was used. -/
def times (_ : List Raw) : Shell Int := do
  for _ in [1, 2] do printLine "0m0.000000s 0m0.000000s".toList
  return 0

/-- The builtins that run no commands of their own. -/
def table : List Builtin :=
  [{ name := ":", isSpecial := true, run := constant 0 }, { name := "[", run := bracket },
    { name := "alias", assigns := true, run := aliasCommand }, { name := "bg", run := constant 0 },
    { name := "break", isSpecial := true, run := leaveLoops false }, { name := "cd", run := cd },
    { name := "chdir", run := cd },
    { name := "continue", isSpecial := true, run := leaveLoops true }, { name := "echo", run := echo },
    { name := "exit", isSpecial := true, run := exitCommand },
    { name := "export", isSpecial := true, assigns := true, run := exportVariables },
    { name := "false", run := constant 1 }, { name := "fg", run := constant 0 },
    { name := "getopts", run := getopts }, { name := "hash", run := constant 0 },
    { name := "jobs", run := constant 0 }, { name := "kill", run := kill },
    { name := "local", isSpecial := true, assigns := true, run := makeLocal },
    { name := "printf", run := printf }, { name := "pwd", run := pwd }, { name := "read", run := read },
    { name := "readonly", isSpecial := true, assigns := true, run := protectVariables },
    { name := "return", isSpecial := true, run := returnCommand },
    { name := "set", isSpecial := true, run := setCommand },
    { name := "shift", isSpecial := true, run := shift }, { name := "test", run := test },
    { name := "times", isSpecial := true, run := times },
    { name := "trap", isSpecial := true, run := trap }, { name := "true", run := constant 0 },
    { name := "umask", run := umask }, { name := "unalias", run := unaliasCommand },
    { name := "unset", isSpecial := true, run := unset }, { name := "wait", run := wait }]

end Builtins

end PipeShell.Machine.Script
