import PipeShell.Machine.Script.Interpreter

/-!
# Starting an interpreter

An interpreter is called with options and operands, which say where its script is: in an operand, in
a file or on its input. It takes over the variables of its environment, and ends with the status of
the last command. A fault of its own command line stands at line zero.
-/

set_option autoImplicit false

namespace PipeShell.Machine.Script.Start

open Shell

/-- Where the script of an interpreter is. -/
structure Source where
  /-- Is it an operand? -/
  isOperand : Bool := false
  /-- Is it what comes on the input? -/
  isInput : Bool := false
  operands : List Raw := []

/-- Switches the options of a cluster of letters. Tells whether the script is an operand, and how
many long names are still to come. -/
def cluster (on : Bool) : Raw → Shell (Bool × Nat)
  | [] => return (false, 0)
  | 'c' :: rest => do return (true, (← cluster on rest).2)
  | 'l' :: rest => cluster on rest
  | 'o' :: rest => do
    let (isOperand, count) ← cluster on rest
    return (isOperand, count + 1)
  | c :: rest => do
    Builtins.setOption c on
    cluster on rest

/-- Reads the options of an interpreter, in so many steps. Tells whether the script is an operand,
and which operands there are. -/
def readOptions : Nat → List Raw → Shell (Bool × List Raw)
  | 0, args => return (false, args)
  | _ + 1, [] => return (false, [])
  | steps + 1, arg :: rest => do
    match arg with
    | ['-'] | ['-', '-'] => return (false, rest)
    | '-' :: letters => go steps true letters rest
    | '+' :: letters => go steps false letters rest
    | _ => return (false, arg :: rest)
where
  /-- Reads a cluster and what follows it. -/
  go (steps : Nat) (on : Bool) (letters : Raw) (rest : List Raw) : Shell (Bool × List Raw) := do
    let (isOperand, count) ← cluster on letters
    let rest ← Builtins.takeLong on count rest
    let (more, operands) ← readOptions steps rest
    return (isOperand || more, operands)

/-- Tells the processes that a signal is ignored from the start. -/
def ignoredSignals : Job (List Nat) :=
  Job.act fun p s =>
    (((s.entry? p).map Entry.dispositions).getD [] |>.filterMap fun d =>
      if d.2 == .ignored then some d.1 else none, s)

/-- Do two paths lead to one directory? -/
def isCurrent (path : Raw) : Job Bool := do
  match ← Kernel.find path true with
  | .ok i => return i == (← Kernel.directory)
  | .error _ => return false

/-- Takes over variables, and sets those that every interpreter has. -/
def prepare (environment : List Setting) : Shell Unit := do
  modify fun env =>
    { env with vars :=
        [{ name := "IFS".toList }, { name := "PATH".toList, value := some Interpreter.usualPath },
          { name := "PS1".toList, value := some "$ ".toList },
          { name := "PS2".toList, value := some "> ".toList },
          { name := "PS4".toList, value := some "+ ".toList }, { name := "OPTIND".toList }] }
  for (name, value) in environment do
    if isName name then setVariable name value true
  setVariable "IFS".toList " \t\n".toList false
  setVariable "OPTIND".toList ['1'] false
  setVariable "PPID".toList (Numeral.ofNat (← ask Kernel.parent)) false
  let said := (valueOf (← get) "PWD".toList).getD []
  let directory ← if Path.isAbsolute said && (← ask (isCurrent said)) then pure said
    else pure ((← ask Kernel.currentPath).toOption.getD [])
  setVariable "PWD".toList directory true
  let self ← ask Kernel.self
  let deaf ← ask ignoredSignals
  modify fun env => { env with directory, self, deaf }

/-- Reads the command line; a script in a file is opened in a slot. -/
def source (args : List Raw) : Shell (Source × Option Nat) := do
  let (isOperand, operands) ← readOptions (args.length + 1) args
  let isInput ← isOn 's'
  match isOperand, operands with
  | true, [] => fail "-c requires an argument".toList
  | true, text :: rest =>
    match rest with
    | [] => return ({ isOperand, isInput, operands := [text] }, none)
    | name :: rest =>
      modify fun env => { env with name, parameters := rest }
      return ({ isOperand, isInput, operands := [text] }, none)
  | false, [] =>
    switch 's' true
    return ({ isInput := true }, none)
  | false, name :: rest =>
    if isInput then
      modify fun env => { env with parameters := name :: rest }
      return ({ isInput }, none)
    else
      let slot ← Redirecting.openPath name Kernel.Opening.reading Redirecting.failToOpen
      let kept ← ask (Kernel.keep slot Redirecting.copies)
      let _ ← ask (Kernel.close slot)
      modify fun env => { env with name, parameters := rest }
      return ({}, some (kept.toOption.getD slot))

/-- Runs an interpreter up to its end. -/
def run (args : List Raw) (environment : List Setting) : Shell Unit := do
  let work : Shell Unit := do
    prepare environment
    let (source, slot) ← source args
    modify fun env => { env with line := 1 }
    if source.isOperand then
      let _ ← Interpreter.runText Kernel.endlessly { last := !source.isInput }
        (source.operands.headD [])
    if source.isInput || !source.isOperand then
      let _ ← Interpreter.runLines Kernel.endlessly {}
        { reader := { rest := [], ended := false }, slot := some (slot.getD 0) } 0
  match ← attempt work with
  | .ok () => Interpreter.finish Kernel.endlessly (some .ended)
  | .error r => Interpreter.finish Kernel.endlessly (some r)

/-- An interpreter as a program. -/
def program (task : Task) : Program :=
  let env : Env := { name := task.name, line := 0 }
  Job.toProgram do
    let (_, env) ← StateT.run (ExceptT.run (run task.args task.environment)) env
    return env.status

end PipeShell.Machine.Script.Start
