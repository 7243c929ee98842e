import PipeShell.Machine.Editing.Script
import PipeShell.Machine.Utility.FileWork
import PipeShell.Machine.Utility.Input
import PipeShell.Machine.Utility.Launching

/-!
# Running scripts for editing streams

Lines are taken from the files one after the other. A script goes through its commands for each and
then prints the pattern space, behind which comes what was appended. A last line that is not closed
is printed as it is; its end is made up for if anything follows.
-/

set_option autoImplicit false

namespace PipeShell.Machine.Editing

/-- What is printed behind the pattern space. -/
inductive Queued where
  | text (t : Raw)
  | file (path : Raw)

/-- Where a range of lines stands. -/
inductive RangeState where
  | outside
  /-- Within the range, which may end at a line that is known. -/
  | inside (stop : Option Nat)

/-- Where ranges stand in front of the first line. One from line zero has begun. -/
def Script.ranges (s : Script) : Array RangeState :=
  s.commands.map fun c =>
    match c.start with
    | some (.number 0) => .inside none
    | _ => .outside

/-- A file that is written to. -/
structure Target where
  path : Raw
  /-- Its slot; the standard output has none of its own. -/
  slot : Option Nat
  /-- What was not written out yet, last piece first. -/
  pieces : List Raw := []
  size : Nat := 0
  /-- Is the end of the last line missing? -/
  isOpen : Bool := false

/-- The file that is read. -/
structure Source where
  path : Raw
  input : Input

/-- How a script is run. -/
structure Manner where
  script : Script
  isSilent : Bool := false
  /-- Does each file stand for itself? -/
  isSeparate : Bool := false
  /-- Are files replaced by what is printed for them, and kept under what name? -/
  inPlace : Option Raw := none
  mark : Char := '\n'
  width : Nat := listWidth
  environment : List Setting := []
  /-- How many parts of the script were arguments. -/
  arguments : Nat := 0

/-- What is known while a script runs. -/
structure Editor where
  manner : Manner
  paths : List Raw
  source : Option Source := none
  /-- The number of the line. -/
  line : Nat := 0
  space : Raw := []
  /-- Was the line closed? -/
  isClosed : Bool := true
  held : Raw := []
  isHeldClosed : Bool := true
  queue : List Queued := []
  replaced : Bool := false
  lastSought : Option Sought := none
  ranges : Array RangeState := #[]
  /-- Is the end of the last line that was printed missing? -/
  isOpen : Bool := false
  /-- What was printed for a file that is replaced, last piece first. -/
  edited : List Raw := []
  targets : List Target := []
  readers : List (Raw × Option Input) := []
  /-- Was there a file that could not be read? -/
  isShort : Bool := false
  /-- Is the next file to be taken as the first one? -/
  startsAnew : Bool := false

/-- A step in running a script. -/
abbrev Edit := StateT Editor Act

namespace Edit

/-- Lets the utility act. -/
def act {α : Type} (a : Act α) : Edit α := liftM a

/-- Ends with a complaint. -/
def fail {α : Type} (text : Raw) : Edit α := act (Act.fail 4 text)

/-- Ends with a complaint and its reason. -/
def failOf {α : Type} (text : Raw) (e : Errno) : Edit α := act (Act.failOf 4 text e)

/-! ## Printing -/

/-- What could not be written, as a complaint tells it. -/
def refusedItems (n : Nat) (name : Raw) : Raw :=
  "couldn't write ".toList ++ Numeral.ofNat n ++ (if n = 1 then " item to " else " items to ").toList ++
    name

/-- Writes out what is left over for a target. -/
def flushTarget (t : Target) (complaint : Raw) : Edit Target := do
  match t.slot with
  | none => return t
  | some slot =>
    match ← act (Act.ask (Kernel.writeAll slot t.pieces.reverse.flatten)) with
    | .ok () => return { t with pieces := [], size := 0 }
    | .error e => failOf complaint e

/-- Prints bytes to the standard output, or for the file that is replaced. -/
def put (bs : Raw) : Edit Unit := do
  unless bs.isEmpty do
    let e ← get
    if e.manner.inPlace.isSome then set { e with edited := bs :: e.edited }
    else
      act (Act.emit bs)
      act (Act.demandHeard 4 (refusedItems bs.length "stdout".toList))

/-- Makes up for the missing end of the last line. -/
def closeLine : Edit Unit := do
  if (← get).isOpen then
    modify fun e => { e with isOpen := false }
    put [(← get).manner.mark]

/-- Prints bytes that end in the end of a line. -/
def putLine (bs : Raw) : Edit Unit := do
  closeLine
  put bs

/-- Prints a text as a line, which may be open. -/
def putText (text : Raw) (isClosed : Bool) : Edit Unit := do
  closeLine
  put text
  if isClosed then put [(← get).manner.mark] else modify fun e => { e with isOpen := true }

/-- Writes a text as a line to a file. -/
def putTo (path text : Raw) (isClosed : Bool) : Edit Unit := do
  let mark := (← get).manner.mark
  match (← get).targets.find? (·.path == path) with
  | none => return
  | some t =>
    let pieces := (if t.isOpen then [[mark]] else []) ++ [text] ++ (if isClosed then [[mark]] else [])
    let t ← match t.slot with
      | none => do
        for p in pieces do
          act (Act.emit p)
          act (Act.demandHeard 4 (refusedItems p.length "stdout".toList))
        pure t
      | some _ => do
        let size := t.size + (pieces.map List.length).foldl (· + ·) 0
        let t := { t with pieces := pieces.reverse ++ t.pieces, size }
        if size ≤ Act.block && path != "/dev/stderr".toList then pure t
        else flushTarget t (refusedItems text.length path)
    let t := { t with isOpen := !isClosed }
    modify fun e => { e with targets := e.targets.map fun u => if u.path == path then t else u }

/-- Reads the whole of a file, if it is there. -/
def contentOf (path : Raw) : Edit Raw := do
  let isInput := path == "/dev/stdin".toList
  match ← act (if isInput then return .ok 0 else Act.ask (Kernel.openFile path Kernel.Opening.reading)) with
  | .error _ => return []
  | .ok slot =>
    let (content, fault) ← act (Input.all { slot })
    unless isInput do
      let _ ← act (Act.ask (Kernel.close slot))
    match fault with
    | some e => failOf ("read error on ".toList ++ path) e
    | none => return content

/-- Prints what was appended. -/
def printQueue : Edit Unit := do
  let queue := (← get).queue
  modify fun e => { e with queue := [] }
  for q in queue do
    match q with
    | .text t => putLine t
    | .file path =>
      let content ← contentOf path
      unless content.isEmpty do putLine content

/-! ## Reading lines -/

/-- Writes a file anew with what was printed for it. Its old content may be kept under another
name. -/
def replaceFile (path : Raw) : Edit Unit := do
  let e ← get
  if let some suffix := e.manner.inPlace then
    set { e with edited := [], isOpen := false }
    let content := e.edited.reverse.flatten
    let directory := Utility.directoryPart path
    let fresh := Utility.inDirectory directory "sedXyZzYx".toList
    let mode ← match ← act (Utility.status path) with
      | .ok n => pure n.mode
      | .error _ => pure 0o644
    match ← act (Act.ask (Kernel.openFile fresh { writes := true, creates := some 0o600, fresh := true })) with
    | .error err => failOf ("couldn't open temporary file ".toList ++ fresh) err
    | .ok slot =>
      let _ ← act (Act.ask (Kernel.writeAll slot content))
      let _ ← act (Act.ask (Kernel.close slot))
      let _ ← act (Act.ask (Kernel.changeMode fresh mode))
      unless suffix.isEmpty do
        let name := Utility.lastName path
        let kept := if suffix.contains '*' then suffix.flatMap fun c => if c == '*' then name else [c]
          else name ++ suffix
        let kept := if kept.contains '/' then kept else Utility.inDirectory directory kept
        match ← act (Act.ask (Kernel.rename path kept)) with
        | .ok () => pure ()
        | .error err => failOf ("cannot rename ".toList ++ path) err
      match ← act (Act.ask (Kernel.rename fresh path)) with
      | .ok () => return
      | .error err => failOf ("cannot rename ".toList ++ fresh) err

/-- Puts away the file that is read. -/
def closeSource : Edit Unit := do
  if let some s := (← get).source then
    modify fun e => { e with source := none }
    unless s.path == ['-'] do
      let _ ← act (Act.ask (Kernel.close s.input.slot))
    replaceFile s.path

/-- Opens a file for reading, unless it cannot be. -/
def openSource (path : Raw) : Edit Unit := do
  let isInPlace := (← get).manner.inPlace.isSome
  if path == ['-'] && !isInPlace then
    modify fun e => { e with source := some { path, input := {} } }
  else
    match ← act (Act.ask (Kernel.openFile path Kernel.Opening.reading)) with
    | .error e =>
      act (Act.complainOf ("can't read ".toList ++ path) e)
      modify fun e => { e with isShort := true }
    | .ok slot =>
      if isInPlace then
        match ← act (Utility.status path) with
        | .ok { file := .regular _, .. } | .ok { file := .program _, .. } => pure ()
        | _ => fail ("couldn't edit ".toList ++ path ++ ": not a regular file".toList)
      modify fun e => { e with source := some { path, input := { slot } } }

/-- Fills the input of the file that is read, and tells whether there is anything in it. -/
def hasMore : Edit Bool := do
  match (← get).source with
  | none => return false
  | some s =>
    let input ← if s.input.buffer.isEmpty then act s.input.fill else pure s.input
    modify fun e => { e with source := some { s with input } }
    if let some err := input.fault then
      failOf ("read error on ".toList ++ (if s.path == ['-'] then "stdin".toList else s.path)) err
    return !input.buffer.isEmpty

/-- Goes on to the first of the remaining files that holds anything. -/
def skipEmpty : List Raw → Edit Bool
  | [] => return false
  | path :: more => do
    closeSource
    modify fun e => { e with paths := more, startsAnew := true }
    openSource path
    if ← hasMore then return true else skipEmpty more

/-- Is the line at hand the last one? -/
def isLast : Edit Bool := do
  if ← hasMore then return false
  let e ← get
  if e.manner.isSeparate then return true
  else return !(← skipEmpty e.paths)

/-- Takes the next line, in place of the pattern space or behind it. Tells whether there was one. -/
def takeLine (isAdded : Bool) : Edit Bool := do
  printQueue
  modify fun e => { e with replaced := false }
  let isThere ← if ← hasMore then pure true else skipEmpty (← get).paths
  match (← get).source with
  | none => return false
  | some s =>
    if !isThere then
      closeSource
      return false
    let (l, input) ← act (s.input.line (← get).manner.mark)
    match l with
    | none => return false
    | some l =>
      modify fun e =>
        let isFresh := e.startsAnew && e.manner.isSeparate
        { e with
          source := some { s with input }
          line := if isFresh then 1 else e.line + 1
          ranges := if isFresh then e.manner.script.ranges else e.ranges
          startsAnew := false
          space := if isAdded then e.space ++ e.manner.mark :: l.text else l.text
          isClosed := l.closed }
      return true

/-! ## Addresses -/

/-- What a regular expression looks for: what it says, or what was looked for last. -/
def wanted (s : Option Sought) : Edit Sought := do
  match s <|> (← get).lastSought with
  | some s =>
    modify fun e => { e with lastSought := some s }
    return s
  | none =>
    let n := (← get).manner.arguments
    act (Act.fail 1 ("-e expression #".toList ++ Numeral.ofNat n ++
      ", char 0: no previous regular expression".toList))

/-- What the pattern space is matched with. -/
def subjectFor (s : Sought) : Edit Subject := do
  let e ← get
  return s.pattern.subject e.space (s.byLine && e.manner.mark == '\n')

/-- Does an address choose the line? -/
def isChosenBy (a : Address) : Edit Bool := do
  let line := (← get).line
  match a with
  | .number n => return line == n
  | .every first step => return decide (first ≤ line) && (line - first) % step == 0
  | .last => isLast
  | .fits s =>
    let s ← wanted s
    return (s.pattern.search (← subjectFor s)).isSome
  | .later _ => return false
  | .multiple n => return n == 0 || line % n == 0

/-- The state of the range of a command. -/
def rangeOf (at' : Nat) : Edit (Option RangeState) := return (← get).ranges[at']?

/-- Notes the state of the range of a command. -/
def setRange (at' : Nat) (r : RangeState) : Edit Unit :=
  modify fun e => { e with ranges := e.ranges.set! at' r }

/-- Starts a range if its first address chooses the line. -/
def startRange (at' : Nat) (start stop : Address) : Edit Bool := do
  if !(← isChosenBy start) then return false
  let line := (← get).line
  match stop with
  | .number n => if line < n then setRange at' (.inside (some n))
  | .later n => if 0 < n then setRange at' (.inside (some (line + n)))
  | .multiple n =>
    if 0 < n then setRange at' (.inside (some ((line / n + 1) * n)))
  | _ => setRange at' (.inside none)
  return true

/-- Do the addresses of a command choose the line? -/
def isChosen (at' : Nat) (c : Command) : Edit Bool := do
  match c.start, c.stop with
  | none, _ => return true
  | some start, none => isChosenBy start
  | some start, some stop =>
    match ← rangeOf at' with
    | some (.inside (some n)) =>
      let line := (← get).line
      if n ≤ line then setRange at' .outside
      if line ≤ n then return true else startRange at' start stop
    | some (.inside none) =>
      if ← isChosenBy stop then setRange at' .outside
      return true
    | _ => startRange at' start stop

/-! ## Commands -/

/-- How a script goes on behind a command. -/
inductive Flow where
  | next
  | jump (index : Nat)
  /-- Prints the pattern space and takes the next line. -/
  | finish
  /-- Takes the next line. -/
  | discard
  /-- Starts again with what is left of the pattern space. -/
  | again
  | quit (code : Nat)

/-- The pattern space up to its first newline, and what follows that. -/
def firstLine : Edit (Raw × Option Raw) := do
  let e ← get
  return match Raw.cutAt e.manner.mark e.space with
    | some (front, rest) => (front, some rest)
    | none => (e.space, none)

/-- The next line of a file that is read line by line. -/
def nextOf (path : Raw) : Edit (Option InputLine) := do
  let reader ← match (← get).readers.lookup path with
    | some r => pure r
    | none =>
      let isInput := path == "/dev/stdin".toList
      let opened ← act (if isInput then return .ok 0
        else Act.ask (Kernel.openFile path Kernel.Opening.reading))
      pure (opened.toOption.map fun slot => ({ slot } : Input))
  match reader with
  | none => return none
  | some i =>
    let (l, i) ← act (i.line (← get).manner.mark)
    if let some e := i.fault then failOf ("read error on ".toList ++ path) e
    modify fun e => { e with readers := (path, some i) :: e.readers.filter (·.1 != path) }
    return l

/-- Lets a shell carry out a text, and gives what that prints, without the end of its last line. -/
def carryOut (text : Raw) : Edit Raw := do
  act Act.flush
  let e ← get
  let printed ← act (Act.ask (Act.capture text e.manner.environment))
  return if printed.getLast? == some e.manner.mark then printed.dropLast else printed

/-- Replaces matches in the pattern space. -/
def substitute (s : Substitution) : Edit Unit := do
  let sought ← wanted s.sought
  let t ← subjectFor sought
  let (space, isReplaced) := substituteFrom s sought.pattern t (t.size + 2) 0 none 0 []
  if isReplaced then
    let space ← if s.runs then carryOut space else pure space
    modify fun e => { e with space, replaced := true }
    let isClosed := (← get).isClosed
    if s.prints then putText space isClosed
    if let some path := s.target then putTo path space isClosed

/-- Carries out a command. -/
def perform (at' : Nat) (c : Command) : Edit Flow := do
  let e ← get
  let queue (q : Queued) : Edit Flow := do
    modify fun e => { e with queue := e.queue ++ [q] }
    return .next
  match c.action with
  | .nothing | .skip _ => return .next
  | .append text => if text.isEmpty then return .next else queue (.text text)
  | .insert text =>
    unless text.isEmpty do putLine text
    return .next
  | .change text =>
    match ← rangeOf at' with
    | some (.inside _) => return .discard
    | _ =>
      unless text.isEmpty do putLine text
      return .discard
  | .jump index => return .jump index
  | .jumpIfReplaced index =>
    modify fun e => { e with replaced := false }
    return if e.replaced then .jump index else .next
  | .jumpUnlessReplaced index =>
    modify fun e => { e with replaced := false }
    return if e.replaced then .next else .jump index
  | .delete => return .discard
  | .deleteFirst =>
    match ← firstLine with
    | (_, none) => return .discard
    | (_, some rest) =>
      set { e with space := rest }
      return .again
  | .getHold =>
    set { e with space := e.held, isClosed := e.isHeldClosed }
    return .next
  | .addHold =>
    set { e with space := e.space ++ e.manner.mark :: e.held, isClosed := e.isHeldClosed }
    return .next
  | .hold =>
    set { e with held := e.space, isHeldClosed := e.isClosed }
    return .next
  | .addToHold =>
    set { e with held := e.held ++ e.manner.mark :: e.space, isHeldClosed := e.isClosed }
    return .next
  | .exchange =>
    set { e with space := e.held, isClosed := e.isHeldClosed, held := e.space, isHeldClosed := e.isClosed }
    return .next
  | .list width =>
    putLine (listing (width.getD e.manner.width) e.space)
    return .next
  | .next =>
    if ← isLast then return .finish
    unless e.manner.isSilent do putText e.space e.isClosed
    if ← takeLine false then return .next else return .discard
  | .addNext =>
    if ← isLast then return .finish
    if ← takeLine true then return .next else return .finish
  | .print =>
    putText e.space e.isClosed
    return .next
  | .printFirst =>
    match ← firstLine with
    | (front, some _) => putText front true
    | (all, none) => putText all e.isClosed
    return .next
  | .printName =>
    putLine (((e.source.map Source.path).getD ['-']) ++ ['\n'])
    return .next
  | .printNumber =>
    putLine (Numeral.ofNat e.line ++ [e.manner.mark])
    return .next
  | .quit code =>
    unless e.manner.isSilent do putText e.space e.isClosed
    closeLine
    printQueue
    return .quit code
  | .quitSilently code => return .quit code
  | .read path => queue (.file path)
  | .readLine path =>
    match ← nextOf path with
    | some l => queue (.text (l.whole e.manner.mark))
    | none => return .next
  | .substitute s =>
    substitute s
    return .next
  | .write path =>
    putTo path e.space e.isClosed
    return .next
  | .writeFirst path =>
    match ← firstLine with
    | (front, some _) => putTo path front true
    | (all, none) => putTo path all e.isClosed
    return .next
  | .translate pairs =>
    set { e with space := e.space.map fun c => (pairs.lookup c).getD c }
    return .next
  | .clear =>
    set { e with space := [] }
    return .next
  | .run command =>
    if command.isEmpty then
      let space ← carryOut e.space
      set { e with space }
    else
      act Act.flush
      putLine (← act (Act.ask (Act.capture command e.manner.environment)))
    return .next

/-- Carries out the commands from one on, in so many steps. -/
def perform' : Nat → Nat → Edit Flow
  | 0, _ => return .quit 0
  | steps + 1, at' => do
    match (← get).manner.script.commands[at']? with
    | none => return .finish
    | some c =>
      let isMeant := (← isChosen at' c) != c.isInverted
      match c.action, isMeant with
      | .skip index, false => perform' steps index
      | _, false => perform' steps (at' + 1)
      | _, true =>
        match ← perform at' c with
        | .next => perform' steps (at' + 1)
        | .jump index => perform' steps index
        | flow => return flow

/-- Works on line after line, in so many steps, and gives the status. -/
def cycles : Nat → Bool → Edit Int
  | 0, _ => return 0
  | steps + 1, isAgain => do
    let isThere ← if isAgain then pure true else takeLine false
    if !isThere then return if (← get).isShort then 2 else 0
    match ← perform' Kernel.endlessly 0 with
    | .quit code =>
      if let some s := (← get).source then
        if s.path == ['-'] then act s.input.release
      closeSource
      return if code = 0 && (← get).isShort then 2 else code
    | .finish =>
      let e ← get
      unless e.manner.isSilent do putText e.space e.isClosed
      cycles steps false
    | .again => cycles steps true
    | _ => cycles steps false

/-- Opens the files that are written to. -/
def openTargets : List Raw → Edit Unit
  | [] => return
  | path :: more => do
    unless (← get).targets.any (·.path == path) do
      let slot ← if path == "/dev/stdout".toList then pure none
        else if path == "/dev/stderr".toList then pure (some 2)
        else match ← act (Act.ask (Kernel.openFile path (Kernel.Opening.writing .truncate))) with
          | .ok slot => pure (some slot)
          | .error e => failOf ("couldn't open file ".toList ++ path) e
      modify fun e => { e with targets := e.targets ++ [{ path, slot }] }
    openTargets more

/-- Runs a script and gives the status. -/
def run (targets : List Raw) : Edit Int := do
  openTargets targets
  modify fun e => { e with ranges := e.manner.script.ranges }
  let code ← cycles Kernel.endlessly false
  for t in (← get).targets do
    let _ ← flushTarget t "couldn't flush <unknown>".toList
  return code

end Edit

end PipeShell.Machine.Editing
