import PipeShell.Machine.Script.Syntax
import PipeShell.Machine.Kernel.Calls

/-!
# The state of an interpreter

What an interpreter of scripts knows: parameters, variables, functions, options, traps and how the
last command has ended. Its work can be cut short by an error, by the end of the interpreter, or by
leaving loops, functions and scripts, which is noted in the state. Complaints name the interpreter,
the line and the command at work.
-/

set_option autoImplicit false

namespace PipeShell.Machine.Script

/-- A variable. -/
structure Variable where
  name : Raw
  /-- Nothing if it is only marked. -/
  value : Option Raw := none
  exported : Bool := false
  isReadonly : Bool := false

/-- What is being left. -/
inductive Skip where
  | nothing
  /-- So many loops. -/
  | loops (count : Nat)
  /-- All but the last of so many loops, which goes on. -/
  | rounds (count : Nat)
  /-- A function or script, with a status. -/
  | function
  /-- A function or script, with the status of the last command. -/
  | script
  deriving DecidableEq, Repr

/-- Why work is cut short. -/
inductive Raised where
  | error
  /-- The interpreter ends with the status of the last command. -/
  | ended
  /-- The interpreter was told to end. -/
  | exit
  deriving DecidableEq, Repr

/-- A process in the background. -/
structure Child where
  process : ProcessId
  /-- Those that work with it. -/
  others : List ProcessId := []

/-- What an interpreter knows. -/
structure Env where
  /-- The name it goes by. -/
  name : Raw := "sh".toList
  parameters : List Raw := []
  vars : List Variable := []
  functions : List (Raw × Nat × Option Node) := []
  aliases : List (Raw × Raw) := []
  /-- Letters of the options that are on. -/
  options : List Char := []
  status : Int := 0
  /-- The status of the commands whose output was put in last. -/
  innerStatus : Int := 0
  /-- The status that a trap or an end works with. -/
  savedStatus : Option Int := none
  skip : Skip := .nothing
  loops : Nat := 0
  /-- Is a function at work? -/
  inFunction : Bool := false
  line : Nat := 1
  /-- The builtin at work. -/
  command : Option Raw := none
  directory : Raw := []
  /-- The number by which it knows itself. -/
  self : ProcessId := 0
  lastBackground : Option ProcessId := none
  children : List Child := []
  traps : List (Nat × Raw) := []
  /-- Signals that were ignored from the start. -/
  deaf : List Nat := []
  /-- Is it a part of another interpreter? -/
  isInner : Bool := false
  /-- Variables to be put back when functions are left. -/
  locals : List (List (Raw × Option Variable)) := []
  documents : List (Nat × Word) := []
  nextDocument : Nat := 0
  /-- Where option parsing is in its argument. -/
  optionPlace : Nat := 0
  /-- What a builtin has printed, last one first. -/
  printed : List Raw := []
  /-- Was the output of a builtin refused? -/
  refused : Bool := false
  /-- The slot for traces. -/
  traceSlot : Nat := 2
  /-- What stood in slots that were redirected, for each command at work: a slot and a copy of what
  was in it. -/
  redirected : List (List (Nat × Option Nat)) := []
  /-- Programs that were found before. -/
  found : List Raw := []

/-- The work of an interpreter. -/
abbrev Shell := ExceptT Raised (StateT Env Job)

namespace Shell

/-- Asks the kernel. -/
def ask {α : Type} (job : Job α) : Shell α := liftM (m := Job) job

/-- Runs work and catches what cuts it short. -/
def attempt {α : Type} (work : Shell α) : Shell (Except Raised α) := fun env => do
  let (result, env) ← work env
  return (.ok result, env)

/-! ## Messages -/

/-- Writes to a slot at once. -/
def writeTo (slot : Nat) (text : Raw) : Shell Unit := do
  let _ ← ask (Kernel.writeAll slot text)

/-- Writes a complaint. -/
def complain (text : Raw) : Shell Unit := do
  let env ← get
  let command := match env.command with
    | some c => c ++ ": ".toList
    | none => []
  writeTo 2 (env.name ++ ": ".toList ++ Numeral.ofNat env.line ++ ": ".toList ++ command ++ text ++
    ['\n'])

/-- Complains and fails with a status. -/
def failWith {α : Type} (status : Int) (text : Raw) : Shell α := do
  modify fun env => { env with status }
  complain text
  throw .error

/-- Complains and fails. -/
def fail {α : Type} (text : Raw) : Shell α := failWith 2 text

/-- Complains of what is no number. -/
def illegalNumber {α : Type} (text : Raw) : Shell α := fail ("Illegal number: ".toList ++ text)

/-- The reason why a file was not opened, made or found. -/
def reason (missing : String) (e : Errno) : Raw :=
  if e = Errno.noEntry ∨ e = Errno.notDirectory then missing.toList else Errno.text e

/-- Prints for a builtin. -/
def print (text : Raw) : Shell Unit := modify fun env => { env with printed := text :: env.printed }

/-- Prints a line for a builtin. -/
def printLine (text : Raw) : Shell Unit := print (text ++ ['\n'])

/-- Writes out what a builtin has printed. -/
def flush : Shell Unit := do
  let env ← get
  let text := env.printed.reverse.flatten
  set { env with printed := [] }
  unless text.isEmpty do
    match ← ask (Kernel.writeAll 1 text) with
    | .ok () => return
    | .error _ => modify fun env => { env with refused := true }

/-! ## Options -/

/-- Is an option on? -/
def isOn (letter : Char) : Shell Bool := return (← get).options.contains letter

/-- Switches an option. -/
def switch (letter : Char) (on : Bool) : Shell Unit :=
  modify fun env =>
    let others := env.options.filter (· != letter)
    { env with options := if on then letter :: others else others }

/-! ## Variables -/

/-- The variable with a name. -/
def findVariable (name : Raw) : Shell (Option Variable) :=
  return (← get).vars.find? (·.name == name)

/-- The value of a variable. -/
def valueOf (env : Env) (name : Raw) : Option Raw :=
  (env.vars.find? (·.name == name)).bind Variable.value

/-- Changes a variable, or makes it. -/
def modifyVariable (name : Raw) (f : Variable → Variable) : Shell Unit :=
  modify fun env =>
    if env.vars.any (·.name == name) then
      { env with vars := env.vars.map fun v => if v.name == name then f v else v }
    else { env with vars := env.vars ++ [f { name }] }

/-- Sets a variable. -/
def setVariable (name value : Raw) (exported : Bool) : Shell Unit := do
  match ← findVariable name with
  | some { isReadonly := true, .. } => fail (name ++ ": is read only".toList)
  | _ =>
    let all ← isOn 'a'
    if name == "OPTIND".toList then modify fun env => { env with optionPlace := 0 }
    modifyVariable name fun v =>
      { v with value := some value, exported := v.exported || exported || all }

/-- Sets a variable whose name may be none. -/
def assign (name value : Raw) : Shell Unit :=
  if isName name then setVariable name value false
  else fail (name ++ ": bad variable name".toList)

/-- Takes a variable away. -/
def unset (name : Raw) : Shell Unit := do
  match ← findVariable name with
  | some { isReadonly := true, .. } => fail (name ++ ": is read only".toList)
  | _ =>
    modify fun env => { env with vars := env.vars.filter (·.name != name) }

/-- Notes a variable to be put back when the function at work is left. -/
def keepForLater (name : Raw) : Shell Unit := do
  let v ← findVariable name
  modify fun env =>
    match env.locals with
    | scope :: outer => { env with locals := ((name, v) :: scope) :: outer }
    | [] => env

/-- Puts back the variables of the scope that is left. -/
def leaveScope : Shell Unit :=
  modify fun env =>
    match env.locals with
    | scope :: outer =>
      let put (vars : List Variable) (saved : Raw × Option Variable) : List Variable :=
        match saved.2 with
        | none => vars.filter (·.name != saved.1)
        | some v =>
          if vars.any (·.name == saved.1) then
            vars.map fun w => if w.name == saved.1 then v else w
          else vars ++ [v]
      { env with vars := scope.foldl put env.vars, locals := outer }
    | [] => env

/-- Opens a scope. -/
def enterScope : Shell Unit := modify fun env => { env with locals := [] :: env.locals }

/-! ## The environment -/

/-- The number of places in which variables are kept. -/
def places : Nat := 39

/-- The place of a variable. -/
def placeOf (name : Raw) : Nat :=
  ((name.headD (Char.ofNat 0)).toNat * 16 + (name.map Char.toNat).foldl (· + ·) 0) % places

/-- Variables in the order of their places. -/
def inPlaces (vs : List Variable) : List Variable :=
  (List.range places).flatMap fun k => vs.filter fun v => placeOf v.name == k

/-- The environment for other programs. -/
def environment (env : Env) : List Setting :=
  (inPlaces (env.vars.filter (·.exported))).filterMap fun v =>
    v.value.map fun value => (v.name, value)

end Shell

end PipeShell.Machine.Script
