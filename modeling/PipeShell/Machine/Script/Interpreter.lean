import PipeShell.Machine.Script.Builtins
import PipeShell.Machine.Script.Redirection

/-!
# Running scripts

The commands of a script are carried out one after the other. A simple command is a builtin, a
function or another program, which runs as a process of its own; so do the parts of a pipeline, the
commands in parentheses, and those whose output is put in. How far the work goes in all is bounded.
-/

set_option autoImplicit false

namespace PipeShell.Machine.Script

/-- How a command is run. -/
structure Flags where
  /-- Is its failure looked at? -/
  tested : Bool := false
  /-- Does the interpreter end with it? -/
  last : Bool := false

namespace Interpreter

open Shell

/-! ## Processes -/

/-- Does any trap hold an action? -/
def hasTraps (env : Env) : Bool := env.traps.any fun t => !t.2.isEmpty

/-- Ends the process with the status of the interpreter. -/
def endProcess : Shell Unit := do
  flush
  ask (Job.exitWith (← get).status)

/-- Gets an interpreter back into order after work was cut short. -/
def restore (cause : Option Raised) : Shell Unit := do
  modify fun env =>
    let status := match env.savedStatus with
      | some s => if cause == some .exit || env.skip == .script then s else env.status
      | none => env.status
    { env with status, savedStatus := none, skip := .nothing, loops := 0, command := none }
  Redirecting.leaveTo 0 ((← get).redirected.length + 1)

/-- What an inner interpreter starts with: actions of traps are forgotten. -/
def becomeInner : Shell Unit := do
  let env ← get
  for t in env.traps do
    if !t.2.isEmpty && t.1 != 0 then ask (Signal.dispose t.1 none)
  modify fun env =>
    { env with traps := env.traps.filter (·.2.isEmpty), children := [], isInner := true
               printed := [] }

/-- Runs work as a process of its own. -/
def fork (work : Shell Unit) : Shell ProcessId := fun env => do
  let child : Job Unit := do
    let _ ← StateT.run (ExceptT.run work) env
    return
  let p ← Job.fork child
  return (.ok p, env)

/-- What is said of a process that was killed. -/
def killedText (how : Exit) : Option Raw :=
  match how with
  | .signal n =>
    if n = 2 || n = Signal.brokenPipe then none
    else some (((Signal.descriptions.lookup n).map String.toList).getD
      (if n < 34 then "Unknown signal ".toList ++ Numeral.ofNat n
        else "Real-time signal ".toList ++ Numeral.ofNat (n - 34)))
  | _ => none

/-- Waits for processes and gives the status of the last one. -/
def waitFor (processes : List ProcessId) : Shell Int := do
  let mut status := 0
  for p in processes do
    let how ← ask (Kernel.await p)
    if let some text := killedText how then writeTo 2 (text ++ ['\n'])
    status := how.status
  return status

/-- Notes processes in the background. -/
def noteBackground (processes : List ProcessId) : Shell Unit := do
  if let some p := processes.getLast? then
    modify fun env =>
      { env with lastBackground := some p
                 children := env.children ++ [{ process := p, others := processes.dropLast }] }

/-- A process in the background reads nothing and is not interrupted. -/
def detach : Shell Unit := do
  for n in [2, 3] do ask (Signal.dispose n (some .ignored))
  let _ ← ask (Kernel.close 0)
  let _ ← ask (Kernel.openFile "/dev/null".toList Kernel.Opening.reading)

/-! ## Names of commands -/

/-- What a name stands for. -/
inductive Command where
  | builtin (b : Builtin)
  | function (body : Option Node)
  | program
  | unknown (e : Errno)

/-- Is a name reserved? -/
def isReservedWord (name : Raw) : Bool := reservedWords.any (·.toList == name)

/-- Describes what a name stands for. -/
def describe (builtins : List Builtin) (brief : Bool) (path name : Raw) : Shell Int := do
  let env ← get
  let say (text : Raw) : Shell Int := do printLine text; return 0
  let builtin? := builtins.find? (·.name.toList == name)
  if isReservedWord name then
    say (if brief then name else name ++ " is a shell keyword".toList)
  else match env.aliases.lookup name with
  | some value =>
    say (if brief then "alias ".toList ++ name ++ '=' :: Builtins.singleQuoted value
      else name ++ " is an alias for ".toList ++ value)
  | none =>
    if name.contains '/' then
      match ← ask (Kernel.status name true) with
      | .ok _ =>
        if ← ask (Kernel.allows name .toExecute) then
          say (if brief then name else name ++ " is ".toList ++ name)
        else missing
      | .error _ => missing
    else match env.functions.lookup name, builtin? with
    | some _, _ => say (if brief then name else name ++ " is a shell function".toList)
    | none, some b =>
      say (if brief then name
        else name ++ (if b.isSpecial then " is a special shell builtin" else " is a shell builtin").toList)
    | none, none =>
      let known := env.found.contains name
      match ← Execution.find name path with
      | .ok file =>
        say (if brief then file
          else name ++ (if known then " is a tracked alias for " else " is ").toList ++ file)
      | .error _ => missing
where
  /-- Nothing is known of the name. -/
  missing : Shell Int := do
    unless brief do printLine (name ++ ": not found".toList)
    return 127

/-- Describes names. -/
def describeAll (builtins : List Builtin) (brief : Bool) (path : Raw) (names : List Raw) :
    Shell Int := do
  let mut status := 0
  for name in names do
    let s ← describe builtins brief path name
    if s ≠ 0 then status := s
  return status

/-- The path on which the usual programs are. -/
def usualPath : Raw := "/usr/local/sbin:/usr/local/bin:/usr/sbin:/usr/bin:/sbin:/bin".toList

/-- Describes names as its options say. -/
def commandCommand (builtins : List Builtin) (args : List Raw) : Shell Int := do
  let (given, names) ← Builtins.options ['p', 'v', 'V'] args
  let env ← get
  let path := if given.any fun o => o.1 == 'p' then usualPath else Execution.searchPath env
  let verbose := (given.filter fun o => o.1 != 'p').getLast?
  match verbose with
  | some (c, _) =>
    match names with
    | [] => return 0
    | name :: _ => describe builtins (c == 'v') path name
  | none => return 0

/-! ## Builtins that are carried out here -/

/-- Runs a builtin; what it has printed is written out. -/
def runBuiltin (name : Raw) (work : Shell Int) : Shell (Except Raised Int) := do
  let outer := (← get).command
  modify fun env => { env with command := some name }
  match ← attempt work with
  | .ok status =>
    flush
    let env ← get
    let status := if env.refused then (if status % 2 = 0 then status + 1 else status) else status
    if env.refused then complain (name ++ ": I/O error".toList)
    modify fun env => { env with command := outer, refused := false, status }
    return .ok status
  | .error r =>
    modify fun env => { env with command := outer, refused := false, printed := [] }
    return .error r

/-- Notes that loops are left, and tells whether this one is. -/
def passLoop : Shell (Skip × Bool) := do
  match (← get).skip with
  | .nothing => return (.nothing, false)
  | .loops n =>
    if n ≤ 1 then
      modify fun env => { env with skip := .nothing }
      return (.loops n, true)
    else
      modify fun env => { env with skip := .loops (n - 1) }
      return (.loops n, true)
  | .rounds n =>
    if n ≤ 1 then
      modify fun env => { env with skip := .nothing }
      return (.rounds n, false)
    else
      modify fun env => { env with skip := .rounds (n - 1) }
      return (.loops n, true)
  | s => return (s, true)

/-- Writes a trace of a command. -/
def trace (settings words : List Raw) : Shell Unit := do
  let env ← get
  if env.options.contains 'x' then
    let sign := (valueOf env "PS4".toList).getD []
    writeTo env.traceSlot (sign ++ Raw.joined [' '] (settings ++ words) ++ ['\n'])

/-- Where a script is read from. -/
structure Origin where
  reader : Reader
  /-- The slot from which more text comes. -/
  slot : Option Nat := none

/-- The most bytes of a script that are read at once. -/
def scriptBlock : Nat := 8191

/-- Shows the lines of a script that were read, if the option for it is on and they come from a
slot. -/
def showLines (s : Origin) (behind : Raw) : Shell Unit := do
  if s.slot.isSome && (← isOn 'v') then
    let taken := s.reader.rest.take (s.reader.rest.length - behind.length)
    let isWhole := taken.isEmpty || taken.getLast? == some '\n'
    let (line, after) := behind.span (· != '\n')
    writeTo 2 (taken ++ if isWhole then [] else line ++ after.take 1)

/-- Reads the next line of commands of a script, in so many attempts. -/
def nextLine (s : Origin) : Nat → Shell (Line × Origin)
  | 0 => return (.ended, s)
  | attempts + 1 => do
    let env ← get
    let reader := { s.reader with aliases := env.aliases, nextDocument := env.nextDocument
                                  documents := [], replaced := [] }
    match readLine.run reader with
    | .ok line reader =>
      showLines s reader.rest
      modify fun env =>
        { env with documents := reader.documents ++ env.documents
                   nextDocument := reader.nextDocument }
      return (line, { s with reader })
    | .error .more reader' =>
      let _ := reader'
      match s.slot with
      | none => nextLine { s with reader := { s.reader with ended := true } } attempts
      | some slot =>
        match ← ask (Kernel.read slot scriptBlock) with
        | .ok (c :: cs) =>
          let text := (c :: cs).filter (· != Char.ofNat 0)
          nextLine { s with reader := { s.reader with rest := s.reader.rest ++ text } } attempts
        | _ => nextLine { s with reader := { s.reader with ended := true } } attempts
    | .error (.wrong line message) reader =>
      showLines s reader.rest
      modify fun env => { env with line }
      fail ("Syntax error: ".toList ++ message)

mutual

/-- Runs a command. -/
def run : Nat → Flags → Option Node → Shell Int
  | 0, _, _ => throw .ended
  | fuel + 1, flags, node => do
    match node with
    | none => pure ()
    | some node =>
      unless ← isOn 'n' do
        runTraps fuel
        let checks ← runNode fuel flags node
        runTraps fuel
        let env ← get
        if checks && !flags.tested && env.status ≠ 0 && env.options.contains 'e' then throw .ended
    if flags.last then throw .ended
    return (← get).status

/-- Runs the actions of traps for signals that have come. -/
def runTraps : Nat → Shell Unit
  | 0 => return
  | fuel + 1 => do
    unless (← get).traps.isEmpty do
      let pending ← ask Signal.takePending
      unless pending.isEmpty do
        let before := (← get).savedStatus
        let status := before.getD (← get).status
        modify fun env => { env with savedStatus := some status }
        for n in pending.mergeSort (· ≤ ·) do
          if let some action := (← get).traps.lookup n then
            let _ ← runText fuel {} action
            if (← get).skip != .function then modify fun env => { env with status }
        modify fun env => { env with savedStatus := before }

/-- Runs a command of some kind; the status is noted. Tells whether a failure may end the
interpreter. -/
def runNode : Nat → Flags → Node → Shell Bool
  | 0, _, _ => throw .ended
  | fuel + 1, flags, node => do
    let set (checks : Bool) (status : Int) : Shell Bool := do
      modify fun env => { env with status }
      return checks
    match node with
    | .simple line settings words redirections =>
      set true (← runSimple fuel flags line settings words redirections)
    | .pipe background commands => set true (← runPipe fuel flags background commands)
    | .redirected line body redirections =>
      modify fun env => { env with line }
      let resolved ← redirections.mapM (Redirecting.resolve (outputOf fuel))
      Redirecting.enter
      let status ← match ← attempt (Redirecting.connectNoted resolved) with
        | .ok () => run fuel { tested := flags.tested } body
        | .error .error => pure 2
        | .error r => throw r
      Redirecting.leave false
      set false status
    | .background line body redirections =>
      modify fun env => { env with line }
      let p ← fork do
        becomeInner
        detach
        runInner fuel { last := true } redirections body
      noteBackground [p]
      set true 0
    | .subshell line body redirections =>
      modify fun env => { env with line }
      if flags.last && !hasTraps (← get) then
        let resolved ← redirections.mapM (Redirecting.resolve (outputOf fuel))
        Redirecting.connectAll resolved
        set true (← run fuel { flags with last := true } body)
      else
        let resolved ← redirections.mapM (Redirecting.resolve (outputOf fuel))
        let p ← fork do
          becomeInner
          runResolved fuel { flags with last := true } resolved body
        set true (← waitFor [p])
    | .both first second =>
      let status ← run fuel { tested := true } first
      if status ≠ 0 || (← get).skip != .nothing then return false
      set false (← run fuel flags second)
    | .either first second =>
      let status ← run fuel { tested := true } first
      if status = 0 || (← get).skip != .nothing then return false
      set false (← run fuel flags second)
    | .sequence first second =>
      let _ ← run fuel { tested := flags.tested } first
      if (← get).skip != .nothing then return false
      set false (← run fuel flags second)
    | .negated body =>
      let status ← run fuel { tested := true } body
      set false (if status = 0 then 1 else 0)
    | .choice test yes no =>
      let status ← run fuel { tested := true } test
      if (← get).skip != .nothing then return false
      if status = 0 then set false (← run fuel flags yes)
      else if no.isSome then set false (← run fuel flags no)
      else set false 0
    | .repeated succeeds test body =>
      modify fun env => { env with loops := env.loops + 1 }
      let status ← runLoop fuel { tested := flags.tested } succeeds test body 0
      modify fun env => { env with loops := env.loops - 1 }
      set false status
    | .each line name words body =>
      modify fun env => { env with line }
      let mut values := []
      for w in words do values := values ++ (← expandFields (outputOf fuel) w)
      modify fun env => { env with loops := env.loops + 1 }
      let status ← runEach fuel { tested := flags.tested } name body values 0
      modify fun env => { env with loops := env.loops - 1 }
      set false status
    | .select line word choices =>
      modify fun env => { env with line }
      let text ← expandText (outputOf fuel) word
      set false (← runChoices fuel flags text choices)
    | .define _ name body =>
      modify fun env =>
        { env with functions := (name, 0, body) :: env.functions.filter (·.1 != name) }
      set false 0

/-- Runs rounds of a loop behind those that have run. -/
def runLoop : Nat → Flags → Bool → Option Node → Option Node → Int → Shell Int
  | 0, _, _, _, _, _ => throw .ended
  | fuel + 1, flags, succeeds, test, body, status => do
    let tested ← run fuel { tested := true } test
    let (skip, leaves) ← passLoop
    if skip != .nothing then
      let status := if skip == .function then tested else status
      if leaves then return status else runLoop fuel flags succeeds test body status
    else if (tested == 0) != succeeds then return status
    else
      let status ← run fuel flags body
      let (_, leaves) ← passLoop
      if leaves then return status else runLoop fuel flags succeeds test body status

/-- Runs a loop over values. -/
def runEach : Nat → Flags → Raw → Option Node → List Raw → Int → Shell Int
  | 0, _, _, _, _, _ => throw .ended
  | _, _, _, _, [], status => return status
  | fuel + 1, flags, name, body, value :: rest, _ => do
    setVariable name value false
    let status ← run fuel flags body
    let (_, leaves) ← passLoop
    if leaves then return status else runEach fuel flags name body rest status

/-- Runs the first choice that a text fits. -/
def runChoices : Nat → Flags → Raw → List Choice → Shell Int
  | 0, _, _, _ => throw .ended
  | _, _, _, [] => return 0
  | fuel + 1, flags, text, .mk patterns body :: rest => do
    for w in patterns do
      if Pattern.fits (← expandPattern (outputOf fuel) w) text then
        return ← match body with
          | none => pure 0
          | some _ => run fuel flags body
    runChoices fuel flags text rest

/-- The output of a command, without the newlines at its end. -/
def outputOf : Nat → Option Node → Shell Raw
  | 0, _ => throw .ended
  | _, none => return []
  | fuel + 1, body => do
    let (reader, writer) ← ask Kernel.makePipe
    let p ← fork do
      becomeInner
      let _ ← ask (Kernel.close reader)
      if writer ≠ 1 then
        let _ ← ask (Kernel.share writer 1)
        let _ ← ask (Kernel.close writer)
      runInner fuel { last := true } [] body
    let _ ← ask (Kernel.close writer)
    let text := (← ask (Kernel.readAll reader)).toOption.getD []
    let _ ← ask (Kernel.close reader)
    let status ← waitFor [p]
    modify fun env => { env with innerStatus := status }
    let text := text.filter (· != Char.ofNat 0)
    return (text.reverse.dropWhile (· == '\n')).reverse

/-- Runs a command in an inner interpreter, to its end. -/
def runInner : Nat → Flags → List Redirection → Option Node → Shell Unit
  | 0, _, _, _ => throw .ended
  | fuel + 1, flags, redirections, body => do
    let work : Shell Unit := do
      let resolved ← redirections.mapM (Redirecting.resolve (outputOf fuel))
      Redirecting.connectAll resolved
      let _ ← run fuel flags body
    match ← attempt work with
    | .ok () => finish fuel (some .ended)
    | .error r => finish fuel (some r)

/-- Runs a command with its slots connected in an inner interpreter, to its end. -/
def runResolved : Nat → Flags → List Resolved → Option Node → Shell Unit
  | 0, _, _, _ => throw .ended
  | fuel + 1, flags, resolved, body => do
    let work : Shell Unit := do
      Redirecting.connectAll resolved
      let _ ← run fuel flags body
    match ← attempt work with
    | .ok () => finish fuel (some .ended)
    | .error r => finish fuel (some r)

/-- Ends an interpreter; the action for its end is run first. -/
def finish : Nat → Option Raised → Shell Unit
  | 0, _ => endProcess
  | fuel + 1, cause => do
    restore cause
    let env ← get
    match env.traps.lookup 0 with
    | none | some [] => pure ()
    | some action =>
      set { env with traps := env.traps.filter (·.1 != 0), savedStatus := some env.status }
      match ← attempt (runText fuel {} action) with
      | .ok _ =>
        modify fun env => { env with skip := .script }
        restore none
      | .error r => restore (some r)
    endProcess

/-- Runs a pipeline. -/
def runPipe : Nat → Flags → Bool → List (Option Node) → Shell Int
  | 0, _, _, _ => throw .ended
  | fuel + 1, flags, background, commands => do
    let processes ← startPipe fuel { flags with last := true } background none commands []
    if background then
      noteBackground processes
      return 0
    else waitFor processes

/-- Starts the processes of a pipeline behind those that were started. -/
def startPipe : Nat → Flags → Bool → Option Nat → List (Option Node) → List ProcessId →
    Shell (List ProcessId)
  | 0, _, _, _, _, _ => throw .ended
  | _, _, _, _, [], started => return started
  | fuel + 1, flags, background, input, command :: rest, started => do
    let pipe ← if rest.isEmpty then pure none else some <$> ask Kernel.makePipe
    let p ← fork do
      becomeInner
      if background && started.isEmpty then detach
      if let some (reader, _) := pipe then
        let _ ← ask (Kernel.close reader)
      if let some reader := input then
        if reader ≠ 0 then
          let _ ← ask (Kernel.share reader 0)
          let _ ← ask (Kernel.close reader)
      if let some (_, writer) := pipe then
        if writer ≠ 1 then
          let _ ← ask (Kernel.share writer 1)
          let _ ← ask (Kernel.close writer)
      runInner fuel flags [] command
    if let some reader := input then
      let _ ← ask (Kernel.close reader)
    if let some (_, writer) := pipe then
      let _ ← ask (Kernel.close writer)
    startPipe fuel flags background (pipe.map Prod.fst) rest (started ++ [p])

/-- Expands words until there is a field. -/
def firstFields : Nat → List Word → Shell (List Raw × List Word)
  | 0, _ => throw .ended
  | _, [] => return ([], [])
  | fuel + 1, w :: rest => do
    match ← expandFields (outputOf fuel) w with
    | [] => firstFields fuel rest
    | fields => return (fields, rest)

/-- The words of a command that the builtin `command` is to run, with the path for it, if it is to
run one. -/
def commandWords : Nat → List Raw → List Word → Option Raw →
    Shell (Option (List Raw × List Word × Option Raw))
  | 0, _, _, _ => throw .ended
  | fuel + 1, fields, rest, path => do
    match fields with
    | [] =>
      match rest with
      | [] => return none
      | _ =>
        let (fields, rest) ← firstFields fuel rest
        if fields.isEmpty then return none else commandWords fuel fields rest path
    | ['-', '-'] :: more =>
      match more, rest with
      | [], [] => return none
      | [], rest =>
        let (fields, rest) ← firstFields fuel rest
        return if fields.isEmpty then none else some (fields, rest, path)
      | more, rest => return some (more, rest, path)
    | ('-' :: 'p' :: letters) :: more =>
      if letters.all (· == 'p') then commandWords fuel more rest (some usualPath)
      else return none
    | ('-' :: _ :: _) :: _ => return none
    | fields => return some (fields, rest, path)

/-- Runs a simple command. -/
def runSimple : Nat → Flags → Nat → List Word → List Word → List Redirection → Shell Int
  | 0, _, _, _, _, _ => throw .ended
  | fuel + 1, flags, line, settings, words, redirections => do
    modify fun env => { env with line, innerStatus := 0 }
    let (fields, rest) ← firstFields fuel words
    let builtins := builtinsWith fuel flags
    let builtin? (env : Env) (functions : Bool) (name : Raw) : Option Builtin :=
      if name.contains '/' || (functions && (env.functions.lookup name).isSome) then none
      else builtins.find? fun b => b.name.toList == name
    let first := fields.headD []
    let found := builtin? (← get) true first
    let isCommand := !fields.isEmpty && (found.map fun b => b.name == "command").getD false
    let stripped ← if isCommand then commandWords fuel fields.tail rest none else pure none
    let (words, rest, path, functions) := match stripped with
      | some (words, rest, path) => (words, rest, path, false)
      | none => (fields, rest, none, true)
    let env ← get
    let inner := if words.isEmpty then none
      else if stripped.isSome then builtin? env false (words.headD []) else found
    let special := !isCommand && (inner.map Builtin.isSpecial).getD false
    let assigns := (inner.map Builtin.assigns).getD false
    let isExec := (inner.map fun b => b.name == "exec").getD false
    let mut args := words
    for w in rest do
      if assigns && isSetting w then args := args ++ [← expandSetting (outputOf fuel) w]
      else args := args ++ (← expandFields (outputOf fuel) w)
    let hasScope := !args.isEmpty && !special
    let resolved ← redirections.mapM (Redirecting.resolve (outputOf fuel))
    let depth := (← get).redirected.length
    let outerTrace := (← get).traceSlot
    if hasScope then enterScope
    Redirecting.enter
    let connected ← attempt (Redirecting.connectNoted resolved)
    let leave (status : Int) : Shell Int := do
      if isExec && connected.isOk then Redirecting.leave true
      Redirecting.leaveTo depth ((← get).redirected.length + 1)
      modify fun env => { env with traceSlot := outerTrace }
      if hasScope then leaveScope
      return status
    match connected with
    | .error .error =>
      modify fun env => { env with status := 2 }
      if special then throw .error
      leave 2
    | .error r => throw r
    | .ok () =>
      let saved := (((← get).redirected.headD []).lookup 2).bind id
      modify fun env => { env with traceSlot := saved.getD outerTrace }
      let mut texts := []
      for w in settings do
        let text ← expandSetting (outputOf fuel) w
        texts := texts ++ [text]
        let (name, value) := Builtins.cutSetting text
        if hasScope then keepForLater name
        setVariable name (value.getD []) (hasScope || (isExec && 1 < args.length))
      if !settings.isEmpty || !fields.isEmpty then
        trace texts (if stripped.isSome then fields ++ args.drop words.length else args)
      let name := args.headD []
      if args.isEmpty then leave (← get).innerStatus
      else
        let env ← get
        let function? := if functions then env.functions.lookup name else none
        match inner, function? with
        | some b, _ =>
          match ← runBuiltin name (b.run args.tail) with
          | .ok status => leave status
          | .error .error =>
            if special then throw .error else leave (← get).status
          | .error r => throw r
        | none, some (_, body) => leave (← runFunction fuel flags body args.tail)
        | none, none =>
          let env ← get
          let path := path.getD (Execution.searchPath env)
          let located ← if name.contains '/' then pure (.ok name) else Execution.find name path
          match located with
          | .error e =>
            complain (name ++ ": ".toList ++ reason "not found" e)
            modify fun env => { env with status := 127 }
            leave 127
          | .ok _ =>
            if flags.last && !hasTraps env then Execution.execute args path
            else
              let p ← fork do
                becomeInner
                match ← attempt (Execution.execute (α := Unit) args path) with
                | .ok () => pure ()
                | .error _ => endProcess
              leave (← waitFor [p])

/-- Runs a function. -/
def runFunction : Nat → Flags → Option Node → List Raw → Shell Int
  | 0, _, _, _ => throw .ended
  | fuel + 1, flags, body, args => do
    let outer ← get
    set { outer with parameters := args, inFunction := true, loops := 0, optionPlace := 0 }
    let result ← attempt (run fuel { tested := flags.tested } body)
    modify fun env =>
      { env with parameters := outer.parameters, inFunction := outer.inFunction
                 loops := outer.loops, optionPlace := outer.optionPlace
                 skip := if env.skip == .function || env.skip == .script then .nothing
                   else env.skip }
    match result with
    | .ok status => return status
    | .error r => throw r

/-- Runs the lines of a script behind those that have run. -/
def runLines : Nat → Flags → Origin → Int → Shell Int
  | 0, _, _, _ => throw .ended
  | fuel + 1, flags, script, status => do
    match ← nextLine script (fuel + 1) with
    | (.ended, _) => return status
    | (.commands body isLast, script) =>
      let s ← run fuel { flags with last := flags.last && isLast } body
      let status := if body.isSome then s else status
      if (← get).skip != .nothing then return status
      runLines fuel flags script status

/-- Runs a text as a script. -/
def runText : Nat → Flags → Raw → Shell Int
  | 0, _, _ => throw .ended
  | fuel + 1, flags, text => runLines fuel flags { reader := { rest := text } } 0

/-- Runs its arguments as a script. -/
def evalCommand : Nat → Flags → List Raw → Shell Int
  | 0, _, _ => throw .ended
  | fuel + 1, flags, args => runText fuel { tested := flags.tested } (Raw.joined [' '] args)

/-- Runs the script in a file. -/
def sourceCommand : Nat → List Raw → Shell Int
  | 0, _ => throw .ended
  | fuel + 1, args => do
    match args with
    | [] => return 0
    | name :: _ =>
      let path ← if name.contains '/' then pure name
        else do
          let env ← get
          match ← Execution.locate name (Execution.directoriesOf (Execution.searchPath env))
              Errno.noEntry with
          | .ok path => pure path
          | .error _ => fail (name ++ ": not found".toList)
      let slot ← Redirecting.openPath path Kernel.Opening.reading Redirecting.failToOpen
      let kept ← ask (Kernel.keep slot Redirecting.copies)
      let _ ← ask (Kernel.close slot)
      let slot := kept.toOption.getD slot
      let env ← get
      let name := env.command
      set { env with command := some path }
      let result ← attempt
        (runLines fuel {} { reader := { rest := [], ended := false }, slot := some slot } 0)
      let _ ← ask (Kernel.close slot)
      modify fun env =>
        { env with command := name
                   skip := if env.skip == .function || env.skip == .script then .nothing
                     else env.skip }
      match result with
      | .ok status => return status
      | .error r => throw r

/-- Hands over to a program; without one only slots are connected. -/
def execCommand : Nat → List Raw → Shell Int
  | 0, _ => throw .ended
  | _ + 1, args => do
    let (_, args) ← Builtins.options [] args
    match args with
    | [] => return 0
    | args => do
      let env ← get
      let forgotten : List (Nat × Option Nat) := env.redirected.flatten
      for (_, copy) in forgotten do
        if let some copy := copy then
          let _ ← ask (Kernel.close copy)
      Execution.execute args (Execution.searchPath env)

/-- All builtins. -/
def builtinsWith : Nat → Flags → List Builtin
  | 0, _ => []
  | fuel + 1, flags =>
    let names := Builtins.table ++
      [{ name := "command", run := fun _ => return 0 },
        { name := "eval", isSpecial := true, run := fun _ => return 0 },
        { name := ".", isSpecial := true, run := fun _ => return 0 },
        { name := "exec", isSpecial := true, run := fun _ => return 0 },
        { name := "type", run := fun _ => return 0 }]
    Builtins.table ++
      [{ name := "command", run := commandCommand names },
        { name := "eval", isSpecial := true, run := evalCommand fuel flags },
        { name := ".", isSpecial := true, run := sourceCommand fuel },
        { name := "exec", isSpecial := true, run := execCommand fuel },
        { name := "type", run := fun args => do
            describeAll names false (Execution.searchPath (← get)) args }]

end

end Interpreter

end PipeShell.Machine.Script
