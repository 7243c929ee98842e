import PipeShell.Machine.Number
import PipeShell.Machine.Utility.Input
import PipeShell.Machine.Utility.Options

/-!
# Utilities that pass text on

`cat` and `tee` pass on what they read, piece by piece; `tac` turns the order of lines around, `rev`
the order of characters within them.
-/

set_option autoImplicit false

namespace PipeShell.Machine.Utility

open Act

/-! ## `cat` -/

/-- How `cat` shows what it reads. -/
structure Showing where
  /-- Are lines numbered, or those that are not empty? -/
  numbered : Bool := false
  onlyFilled : Bool := false
  squeezed : Bool := false
  visible : Bool := false
  ends : Bool := false
  tabs : Bool := false

/-- Does `cat` show all as it is? -/
def Showing.isPlain (s : Showing) : Bool :=
  !s.numbered && !s.squeezed && !s.visible && !s.ends && !s.tabs

/-- A byte in a form that can be seen. -/
def visibly (c : Char) : Raw :=
  let low (n : Nat) : Raw :=
    if n < 32 then ['^', Char.ofNat (n + 64)]
    else if n = 127 then "^?".toList else [Char.ofNat n]
  if 128 ≤ c.toNat then "M-".toList ++ low (c.toNat - 128) else low c.toNat

/-- A byte of a line as `cat` shows it. -/
def Showing.byte (s : Showing) (c : Char) : Raw :=
  if c == '\t' then (if s.tabs then "^I".toList else [c])
  else if s.visible then visibly c else [c]

/-- Where `cat` is in its output. -/
structure Shown where
  /-- The lines numbered so far. -/
  count : Nat := 0
  /-- The empty lines since the last one that is not empty. -/
  empty : Nat := 0
  /-- Does a line go on that another file has begun? -/
  isOpen : Bool := false

/-- The bytes of a line as `cat` shows them. Where only ends are shown, so is a carriage return
there. -/
def Showing.body (s : Showing) (l : InputLine) : Raw :=
  if s.ends && !s.visible && l.closed && l.text.getLast? == some '\r' then
    l.text.dropLast.flatMap s.byte ++ "^M".toList
  else l.text.flatMap s.byte

/-- A line as `cat` shows it, and where it is then. -/
def Showing.line (s : Showing) (at' : Shown) (l : InputLine) : Raw × Shown :=
  let isEmpty := l.text.isEmpty && l.closed && !at'.isOpen
  let passed := { at' with empty := at'.empty + 1 }
  if isEmpty && s.squeezed && decide (1 ≤ at'.empty) then ([], passed)
  else
    let isCounted := s.numbered && !at'.isOpen && !(isEmpty && s.onlyFilled)
    let count := if isCounted then at'.count + 1 else at'.count
    let front := if isCounted then Number.padded 6 count ++ ['\t'] else []
    let ending := if !l.closed then [] else if s.ends then ['$', '\n'] else ['\n']
    (front ++ s.body l ++ ending,
      { count, isOpen := !l.closed, empty := if isEmpty then at'.empty + 1 else 0 })

/-- Passes on an input as it is. -/
def pass (i : Input) : Act (Option Errno) := do
  let (_, i) ← Input.foldChunks (fun () piece => deliver 1 piece) Kernel.endlessly ()
    { i with block := Kernel.largeRead }
  return i.fault

/-- Is the output a file in which there is more to read behind the place of a slot? -/
def feedsItself (slot : Nat) : Act Bool := do
  match ← ask (Kernel.openFileOf slot), ← ask (Kernel.openFileOf 1) with
  | some { object := .node i, .. }, some { object := .node j, .. } =>
    if i != j then return false
    match ← ask (Kernel.place slot) with
    | .ok (at', size) => return decide (at' < size)
    | .error _ => return false
  | _, _ => return false

/-- The options of `cat`. -/
def catOptions : OptionTable where
  letters := "benstuvAET"
  long := [("number-nonblank", .nothing, "b"), ("number", .nothing, "n"),
    ("squeeze-blank", .nothing, "s"), ("show-nonprinting", .nothing, "v"),
    ("show-ends", .nothing, "E"), ("show-tabs", .nothing, "T"), ("show-all", .nothing, "A")]

/-- Passes on files one after the other. -/
def cat : Utility where
  main t := do
    let line ← options catOptions 1 t.args
    let has (keys : List String) : Bool := keys.any line.has
    let s : Showing :=
      { numbered := has ["b", "n"], onlyFilled := has ["b"], squeezed := has ["s"]
        visible := has ["v", "e", "t", "A"], ends := has ["E", "e", "A"]
        tabs := has ["T", "t", "A"] }
    if (← ask (Kernel.openFileOf 1)).isNone then
      failOf 1 "standard output".toList Errno.badDescriptor
    let mut at' : Shown := {}
    let mut status := 0
    for path in orInput line.operands do
      match ← openOperand path with
      | .error e =>
        complainOf (Quoting.apart path) e
        status := 1
      | .ok slot =>
        if ← feedsItself slot then
          complain (Quoting.apart path ++ ": input file is output file".toList)
          status := 1
        else
          let input : Input := { slot }
          let fault ← if s.isPlain then pass input
            else do
              let work (at' : Shown) (l : InputLine) : Act (Shown × Bool) := do
                let (shown, at') := s.line at' l
                emit shown
                demandHeard 1 "write error".toList
                return (at', true)
              let (there, i) ← input.foldLines '\n' work Kernel.endlessly at'
              at' := there
              flush
              demandHeard 1 "write error".toList
              pure i.fault
          if let some e := fault then
            complainOf (Quoting.apart path) e
            status := 1
        closeOperand path slot
    if (orInput line.operands).contains ['-'] then
      if let .error e ← ask (Kernel.close 0) then
        failOf 1 "closing standard input".toList e
    return status

/-! ## `tee` -/

/-- What `tee` writes to. -/
structure Branch where
  title : Raw
  slot : Nat

/-- Writes a piece to all branches, and gives those that took it. -/
def spread (piece : Raw) : List Branch → Act (List Branch)
  | [] => return []
  | b :: rest => do
    match ← ask (Kernel.writeAll b.slot piece) with
    | .ok () => return b :: (← spread piece rest)
    | .error e =>
      complainOf (Quoting.apart b.title) e
      spread piece rest

/-- The options of `tee`. -/
def teeOptions : OptionTable where
  letters := "aip"
  long := [("append", .nothing, "a"), ("ignore-interrupts", .nothing, "i"),
    ("output-error", .perhaps, "p")]

/-- Passes its input on to several files. -/
def tee : Utility where
  main t := do
    let line ← options teeOptions 1 t.args
    if line.has "p" then ask (Signal.dispose Signal.brokenPipe (some .ignored))
    let how := Kernel.Opening.writing (if line.has "a" then .append else .truncate)
    let mut branches : List Branch := [{ title := "standard output".toList, slot := 1 }]
    let mut status := 0
    for path in line.operands do
      match ← ask (Kernel.openFile path how) with
      | .ok slot => branches := branches ++ [{ title := path, slot }]
      | .error e =>
        complainOf (Quoting.apart path) e
        status := 1
    let work (branches : List Branch) (piece : Raw) : Act (List Branch) :=
      if branches.isEmpty then return [] else spread piece branches
    let (left, i) ← Input.foldChunks work Kernel.endlessly branches {}
    if left.length < branches.length then status := 1
    if let some e := i.fault then
      complainOf "read error".toList e
      status := 1
    return status

/-! ## `tac` -/

/-- A text cut behind each separator; the flag tells that it is cut in front of them instead. -/
def cutBySeparator (separator : Raw) (before : Bool) (text : Raw) : List Raw :=
  if separator.isEmpty then [text]
  else
    let rec go : Nat → Raw → Raw → List Raw
      | 0, done, rest => [done.reverse ++ rest]
      | _ + 1, done, [] => [done.reverse]
      | steps + 1, done, c :: rest =>
        if separator.isPrefixOf (c :: rest) then
          let after := (c :: rest).drop separator.length
          if before then done.reverse :: go steps separator.reverse after
          else (done.reverse ++ separator) :: go steps [] after
        else go steps (c :: done) rest
    (go (text.length + 1) [] text).filter fun part => !part.isEmpty

/-- The options of `tac`. -/
def tacOptions : OptionTable where
  letters := "brs:"
  long := [("before", .nothing, "b"), ("regex", .nothing, "r"), ("separator", .value, "s")]

/-- Can the end of a slot be sought? -/
def isSeekable (slot : Nat) : Act Bool := return (← ask (Kernel.place slot)).isOk

/-- Passes on files, each from its last line to its first. -/
def tac : Utility where
  main t := do
    let line ← options tacOptions 1 t.args
    let given := (line.value? "s").getD ['\n']
    let separator := if given.isEmpty then [Char.ofNat 0] else given
    let mut status := 0
    for path in orInput line.operands do
      match ← openOperand path with
      | .error e =>
        complainOf ("failed to open ".toList ++ Quoting.always path ++ " for reading".toList) e
        status := 1
      | .ok slot =>
        let isSought ← isSeekable slot
        let (text, fault) ← ({ slot } : Input).all
        match fault with
        | none => (cutBySeparator separator (line.has "b") text).reverse.forM emit
        | some e =>
          let e := if isSought && e = Errno.isDirectory then Errno.invalidArgument else e
          complainOf (Quoting.apart (titled path) ++ ": read error".toList) e
          status := 1
        closeOperand path slot
    if (orInput line.operands).contains ['-'] then
      if let .error e ← ask (Kernel.close 0) then failOf 1 ['-'] e
    return status

/-! ## `rev` -/

/-- Where `rev` is in its input. -/
structure Reversal where
  /-- The number of lines that were passed on. -/
  count : Nat := 0
  /-- What was read of a line that a zero byte cuts short; the next line goes on behind it. -/
  begun : Raw := []
  /-- Was there a byte that is no character? -/
  isBroken : Bool := false

/-- Passes on a line turned around. A line with a byte that is no character is the end. -/
def Reversal.line (r : Reversal) (l : InputLine) : Act (Reversal × Bool) := do
  if l.whole.any (fun c => 128 ≤ c.toNat) then return ({ r with isBroken := true }, false)
  let isCut := l.text.contains (Char.ofNat 0)
  let text := r.begun ++ l.text.takeWhile (· != Char.ofNat 0)
  if isCut then return ({ r with begun := text }, true)
  emit ({ l with text := text.reverse }.whole)
  return ({ r with begun := [], count := r.count + 1 }, true)

/-- Passes on files with each line turned around. -/
def rev : Utility where
  main t := do
    let line ← options {} 1 t.args
    let mut status := 0
    let inputs : List (Option Raw) :=
      if line.operands.isEmpty then [none] else line.operands.map some
    for path in inputs do
      let opened ← match path with
        | none => pure (.ok 0)
        | some path => ask (Kernel.openFile path Kernel.Opening.reading)
      match opened with
      | .error e =>
        complainOf ("cannot open ".toList ++ path.getD []) e
        status := 1
      | .ok slot =>
        let (r, i) ← ({ slot } : Input).foldLines '\n' (fun r l => r.line l) Kernel.endlessly
          ({} : Reversal)
        if !r.isBroken then emit r.begun.reverse
        if let some e := if r.isBroken then some Errno.badSequence else i.fault then
          complainOf (path.getD "stdin".toList ++ ": ".toList ++ Numeral.ofNat r.count) e
          status := 1
        if path.isSome then
          let _ ← ask (Kernel.close slot)
    return status

end PipeShell.Machine.Utility
