import PipeShell.Machine.Utility.Output

/-!
# Options

Options may stand anywhere before `--`, or only in front of the first operand where a utility says
so; several letters may follow one dash, and a long name may be cut short as long as it means one
option. Options are looked at in order, so the first fault is the one that is told.
-/

set_option autoImplicit false

namespace PipeShell.Machine

/-- Does an option take a value? -/
inductive Takes where
  | nothing
  | value
  /-- Only one that is joined to it. -/
  | perhaps
  deriving DecidableEq, Repr

/-- The options a utility knows. Each has a key by which it is asked for. -/
structure OptionTable where
  /-- Letters, each its own key; a colon behind one tells that it takes a value, two that it may. -/
  letters : String := ""
  /-- Long names with their keys. -/
  long : List (String × Takes × String) := []
  /-- Does the first operand end the options? -/
  strict : Bool := false

/-- An option as it was given. -/
structure Given where
  key : String
  value : Raw := []
  /-- Is there a value? -/
  valued : Bool := false
  /-- Does it stand directly behind the dash? -/
  leads : Bool := false

/-- Why a command line cannot be read. -/
inductive OptionFault where
  | unknown (letter : Char)
  | unknownLong (name : Raw)
  | ambiguous (name : Raw) (candidates : List String)
  | missing (letter : Char)
  | missingLong (name : String)
  | unwanted (name : String)

/-- The wording of a fault. -/
def OptionFault.message : OptionFault → Raw
  | unknown c => "invalid option -- '".toList ++ [c, '\'']
  | unknownLong name => "unrecognized option '--".toList ++ name ++ ['\'']
  | ambiguous name candidates =>
    "option '--".toList ++ name ++ "' is ambiguous; possibilities:".toList ++
      candidates.flatMap fun c => " '--".toList ++ c.toList ++ ['\'']
  | missing c => "option requires an argument -- '".toList ++ [c, '\'']
  | missingLong name => "option '--".toList ++ name.toList ++ "' requires an argument".toList
  | unwanted name => "option '--".toList ++ name.toList ++ "' doesn't allow an argument".toList

/-- A command line as it was read: the options up to a fault, and the operands. -/
structure CommandLine where
  options : List Given := []
  operands : List Raw := []
  fault : Option OptionFault := none

namespace CommandLine

/-- Is an option given? -/
def has (c : CommandLine) (key : String) : Bool := c.options.any (·.key == key)

/-- The last value given to an option. -/
def value? (c : CommandLine) (key : String) : Option Raw :=
  ((c.options.filter (·.key == key)).getLast?).map Given.value

/-- All values given to an option, in order. -/
def values (c : CommandLine) (key : String) : List Raw :=
  (c.options.filter (·.key == key)).map Given.value

/-- The last of some options to be given. -/
def last? (c : CommandLine) (keys : List String) : Option String :=
  ((c.options.filter fun o => keys.contains o.key).getLast?).map Given.key

end CommandLine

namespace OptionTable

/-- What a letter takes. -/
def takes? (letter : Char) : List Char → Option Takes
  | c :: ':' :: ':' :: rest => if c = letter then some .perhaps else takes? letter rest
  | c :: ':' :: rest => if c = letter then some .value else takes? letter rest
  | c :: rest => if c = letter then some .nothing else takes? letter rest
  | [] => none

/-- The letters behind a dash: the options up to one that owes a value or a fault. -/
def readCluster (table : OptionTable) : Raw → List Given × Option Char × Option OptionFault
  | [] => ([], none, none)
  | c :: rest =>
    let key := String.singleton c
    match if c == ':' then none else takes? c table.letters.toList with
    | none => ([], none, some (.unknown c))
    | some .nothing =>
      let (more, owed, fault) := readCluster table rest
      ({ key } :: more, owed, fault)
    | some .perhaps => ([{ key, value := rest, valued := !rest.isEmpty }], none, none)
    | some .value =>
      if rest.isEmpty then ([], some c, none)
      else ([{ key, value := rest, valued := true }], none, none)

/-- The long option that a name, perhaps cut short, means. A fault is told of the whole argument. -/
def findLong (table : OptionTable) (name arg : Raw) :
    Except OptionFault (String × Takes × String) :=
  match table.long.find? fun e => e.1.toList == name with
  | some e => .ok e
  | none =>
    match table.long.filter fun e => name.isPrefixOf e.1.toList with
    | [] => .error (.unknownLong arg)
    | e :: more =>
      if more.all fun other => other.2 == e.2 then .ok e
      else .error (.ambiguous arg ((e :: more).map Prod.fst))

/-- What is read from a long option: the option, or that it owes a value. -/
def readLong (table : OptionTable) (arg : Raw) : Except OptionFault (Given ⊕ (String × String)) :=
  let name := arg.takeWhile (· != '=')
  let behind := arg.drop name.length
  match table.findLong name arg with
  | .error f => .error f
  | .ok (long, takes, key) =>
    match takes, behind with
    | .nothing, [] => .ok (.inl { key })
    | .nothing, _ :: _ => .error (.unwanted long)
    | .perhaps, [] => .ok (.inl { key })
    | .value, [] => .ok (.inr (long, key))
    | _, _ :: value => .ok (.inl { key, value, valued := true })

/-- Tells of the first of some options that it stands directly behind the dash. -/
def led : List Given → List Given
  | [] => []
  | o :: more => { o with leads := true } :: more

/-- Reads a command line. -/
def read (table : OptionTable) : List Raw → CommandLine
  | [] => {}
  | arg :: rest =>
    match arg with
    | ['-', '-'] => { operands := rest }
    | '-' :: '-' :: long =>
      match table.readLong long, rest with
      | .error f, _ => { fault := some f }
      | .ok (.inl o), rest => let line := table.read rest; { line with options := o :: line.options }
      | .ok (.inr (long, _)), [] => { fault := some (.missingLong long) }
      | .ok (.inr (_, key)), value :: rest =>
        let line := table.read rest
        { line with options := { key, value, valued := true } :: line.options }
    | '-' :: c :: cs =>
      match table.readCluster (c :: cs), rest with
      | (given, _, some f), _ => { options := given, fault := some f }
      | (given, none, none), rest =>
        let line := table.read rest
        { line with options := led given ++ line.options }
      | (given, some c, none), [] => { options := given, fault := some (.missing c) }
      | (given, some c, none), value :: rest =>
        let line := table.read rest
        { line with options := led given ++
            { key := String.singleton c, value, valued := true } :: line.options }
    | _ =>
      if table.strict then { operands := arg :: rest }
      else let line := table.read rest; { line with operands := arg :: line.operands }

end OptionTable

namespace Act

/-- Reads the arguments of a utility: each option is looked at in order, then comes the fault, with
advice behind it. -/
def options (table : OptionTable) (status : Int) (args : List Raw)
    (look : Given → Act Unit := fun _ => return) (advise : Act Unit := hint) : Act CommandLine := do
  let line := table.read args
  for o in line.options do look o
  match line.fault with
  | none => return line
  | some f =>
    writeError ((← get).name ++ ": ".toList ++ f.message ++ ['\n'])
    advise
    exit status

/-- Which of some choices the value of an option means, given by a name that may be cut short. The
choices stand in order; some have several names. -/
def choose (option : String) (choices : List (List String)) (value : Raw) : Act Nat := do
  match choices.findIdx? (·.any (·.toList == value)) with
  | some k => return k
  | none =>
    let isMeant (names : List String) : Bool := names.any fun name => value.isPrefixOf name.toList
    let meant := choices.zipIdx.filter fun c => isMeant c.1
    match meant with
    | [(_, k)] => return k
    | _ =>
      let fault := if meant.isEmpty then "invalid" else "ambiguous"
      let shown (names : List String) : Raw :=
        "  - ".toList ++ Raw.joined ", ".toList (names.map fun n => '\'' :: n.toList ++ ['\'']) ++
          ['\n']
      complain (fault.toList ++ " argument ".toList ++ Quoting.word value ++ " for '".toList ++
        option.toList ++ ['\''])
      writeError ("Valid arguments are:\n".toList ++ choices.flatMap shown)
      misuse 1

/-- Complains of an operand that is missing, and ends. -/
def missingOperand {α : Type} (status : Int := 1) : Act α := do
  complain "missing operand".toList
  misuse status

/-- Complains of an operand too many, and ends. -/
def extraOperand {α : Type} (operand : Raw) (status : Int := 1) : Act α := do
  complain ("extra operand ".toList ++ Quoting.word operand)
  misuse status

end Act

end PipeShell.Machine
