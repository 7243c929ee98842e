import PipeShell.Machine.Number
import PipeShell.Machine.Utility.Input
import PipeShell.Machine.Utility.Options

/-!
# The ends of files

`head` passes on the front of files and `tail` their end, counted in lines or in bytes. Each can be
told instead what to leave out at the other end. What was read too far is given back.
-/

set_option autoImplicit false

namespace PipeShell.Machine.Utility

open Act

/-- How much of a file is passed on. -/
structure Extent where
  count : Nat := 10
  inLines : Bool := true
  /-- Is it counted from the other end? -/
  isRest : Bool := false

/-- When names of files are shown. -/
inductive Titles where
  | ofSeveral
  | always
  | never
  deriving DecidableEq, Repr

/-- Are names shown for so many files? -/
def Titles.areShown (titles : Titles) (files : Nat) : Bool :=
  match titles with
  | ofSeveral => decide (1 < files)
  | always => true
  | never => false

/-- Reads a count of lines or bytes. -/
def readExtent (inLines isRest : Bool) (text : Raw) : Act Extent := do
  let what := (if inLines then "invalid number of lines: " else "invalid number of bytes: ").toList
  match Number.count? (Nat.pow 2 64) text with
  | .ok count => return { count, inLines, isRest }
  | .error .invalid => fail 1 (what ++ Quoting.word text)
  | .error .tooLarge => failOf 1 (what ++ Quoting.word text) 75

/-- Prints the name of a file, behind an empty line unless it is the first. -/
def printTitle (isFirst : Bool) (path : Raw) : Act Unit :=
  emit ((if isFirst then [] else ['\n']) ++ "==> ".toList ++ path ++ " <==\n".toList)

/-- Prints, and fails at once if that is refused. -/
def emitHeard (bs : Raw) : Act Unit := do
  emit bs
  demandHeard 1 "error writing 'standard output'".toList

/-- A text cut behind so many lines. -/
def cutLines (mark : Char) : Nat → Raw → Raw × Raw
  | 0, rest => ([], rest)
  | _ + 1, [] => ([], [])
  | n + 1, rest =>
    let line := rest.takeWhile (· != mark)
    let after := rest.drop line.length
    let (front, behind) := cutLines mark n after.tail
    (line ++ after.take 1 ++ front, behind)

/-- The number of lines of a text; the last one need not be closed. -/
def countLines (mark : Char) (text : Raw) : Nat :=
  text.count mark + (if text.isEmpty || text.getLast? == some mark then 0 else 1)

/-! ## `head` -/

/-- Passes on so many lines, in so many steps. -/
def headLines (mark : Char) : Nat → Nat → Input → Act Input
  | 0, _, i => return i
  | _ + 1, 0, i => do
    i.release
    return i
  | times + 1, n, i => do
    let i ← i.fill
    if i.ended then return i
    let (front, behind) := cutLines mark n i.buffer
    let passed := front.count mark
    emitHeard front
    let i := { i with buffer := behind }
    if passed = n then i.release; return i else headLines mark times (n - passed) i

/-- Passes on so many bytes, in so many steps. -/
def headBytes : Nat → Nat → Input → Act Input
  | 0, _, i | _ + 1, 0, i => return i
  | times + 1, n, i => do
    let i ← { i with block := min n i.block : Input }.fill
    if i.ended then return i
    emitHeard i.buffer
    headBytes times (n - i.buffer.length) { i with buffer := [] }

/-- Passes on all but so many lines or bytes at the end. -/
def headRest (mark : Char) (e : Extent) (i : Input) : Act Input := do
  let keep (text : Raw) (lines : Nat) : Raw × Raw :=
    if e.inLines then cutLines mark (lines - e.count) text
    else (text.take (text.length - e.count), text.drop (text.length - e.count))
  let work (pending piece : Raw) : Act Raw := do
    let all := pending ++ piece
    let (front, behind) := keep all (all.count mark)
    unless front.isEmpty do emitHeard front
    return behind
  let (pending, i) ← i.foldChunks work Kernel.endlessly []
  let (front, behind) :=
    if i.fault.isNone then keep pending (countLines mark pending) else ([], pending)
  emitHeard front
  { i with buffer := behind : Input }.release
  return i

/-- A count and letters directly behind the first dash, if a command line begins so. -/
def headShort? (args : List Raw) : Option (Raw × Raw × List Raw) :=
  match args with
  | ('-' :: c :: cs) :: rest =>
    if c.isDigit then
      let (digits, letters) := (c :: cs).span Char.isDigit
      some (digits, letters, rest)
    else none
  | _ => none

/-- What `head` is told. -/
structure HeadTask where
  extent : Extent := {}
  titles : Titles := .ofSeveral
  mark : Char := '\n'

/-- Reads the letters behind a count. -/
def readHeadLetters (digits letters : Raw) : Act HeadTask := do
  let mut task : HeadTask := {}
  let mut inLines := true
  let mut unit : Raw := []
  for c in letters do
    match c with
    | 'c' => inLines := false; unit := []
    | 'b' | 'k' | 'm' => inLines := false; unit := [c]
    | 'l' => inLines := true
    | 'q' => task := { task with titles := .never }
    | 'v' => task := { task with titles := .always }
    | 'z' => task := { task with mark := Char.ofNat 0 }
    | c =>
      complain ("invalid trailing option -- ".toList ++ [c])
      misuse 1
  return { task with extent := ← readExtent inLines false (digits ++ unit) }

/-- The options of `head`. -/
def headOptions : OptionTable where
  letters := "c:n:qvz0123456789"
  long := [("bytes", .value, "c"), ("lines", .value, "n"), ("quiet", .nothing, "q"),
    ("silent", .nothing, "q"), ("verbose", .nothing, "v"), ("zero-terminated", .nothing, "z")]

/-- Reads an option of `head`. -/
def readHeadOption (task : HeadTask) (o : Given) : Act HeadTask := do
  let isRest := o.value.head? == some '-'
  let text := if isRest then o.value.tail else o.value
  match o.key with
  | "c" => return { task with extent := ← readExtent false isRest text }
  | "n" => return { task with extent := ← readExtent true isRest text }
  | "q" => return { task with titles := .never }
  | "v" => return { task with titles := .always }
  | "z" => return { task with mark := Char.ofNat 0 }
  | digit =>
    complain ("invalid trailing option -- ".toList ++ digit.toList)
    misuse 1

/-- Closes the standard input if it was an operand. -/
def closeInput (paths : List Raw) : Act Unit := do
  if paths.contains ['-'] then
    if let .error e ← ask (Kernel.close 0) then failOf 1 ['-'] e

/-- Works on the files of `head` or `tail` one after the other. -/
def passEnds (titles : Titles) (paths : List Raw) (work : Input → Act Input) : Act Int := do
  let shown := titles.areShown paths.length
  let mut status := 0
  let mut isFirst := true
  for path in paths do
    match ← openOperand path with
    | .error e =>
      complainOf ("cannot open ".toList ++ Quoting.always path ++ " for reading".toList) e
      status := 1
    | .ok slot =>
      if shown then printTitle isFirst (titled path)
      isFirst := false
      let i ← work { slot, block := 8192 }
      if let some e := i.fault then
        complainOf ("error reading ".toList ++ Quoting.always (titled path)) e
        status := 1
      closeOperand path slot
  return status

/-- Passes on the front of files. -/
def head : Utility where
  main t := do
    let (task, args) ← match headShort? t.args with
      | some (digits, letters, rest) => do
        let task ← readHeadLetters digits letters
        pure (task, rest)
      | none => pure ({}, t.args)
    let line := headOptions.read args
    let task ← line.options.foldlM readHeadOption task
    let _ ← options headOptions 1 args
    let e := task.extent
    let paths := orInput line.operands
    let status ← passEnds task.titles paths fun i =>
      if e.isRest then headRest task.mark e i
      else if e.inLines then headLines task.mark Kernel.endlessly e.count i
      else headBytes Kernel.endlessly e.count i
    closeInput paths
    return status

/-! ## `tail` -/

/-- A text without so many lines or bytes in front. -/
def behindExtent (mark : Char) (e : Extent) (text : Raw) : Raw :=
  if e.inLines then (cutLines mark e.count text).2 else text.drop e.count

/-- Passes on all but so much in front, piece by piece. -/
def tailRest (mark : Char) (e : Extent) (i : Input) : Act Input := do
  let work (left : Nat) (piece : Raw) : Act Nat := do
    let passed := if e.inLines then piece.count mark else piece.length
    emitHeard (behindExtent mark { e with count := left } piece)
    return left - passed
  return (← i.foldChunks work Kernel.endlessly e.count).2

/-- Passes on the end. -/
def tailEnd (mark : Char) (e : Extent) (i : Input) : Act Input := do
  let work (kept : Raw) (piece : Raw) : Act Raw :=
    let all := if kept.isEmpty then piece else kept ++ piece
    let size := if e.inLines then countLines mark all else all.length
    return behindExtent mark { e with count := size - e.count } all
  let (kept, i) ← i.foldChunks work Kernel.endlessly []
  if i.fault.isNone then emitHeard kept
  return i

/-- What `tail` is told. -/
structure TailTask where
  extent : Extent := {}
  titles : Titles := .ofSeveral
  mark : Char := '\n'

/-- The short form of a command line: a sign, digits and letters, with one file at most. -/
def tailShort? (args : List Raw) : Option (Raw × Raw × List Raw) :=
  match args with
  | (sign :: text) :: rest =>
    let fits := match rest with
      | [] => true
      | [['-', '-']] | [['-', '-'], _] => true
      | [file] => !(file.head? == some '-' && 1 < file.length)
      | _ => false
    let (digits, letters) := text.span Char.isDigit
    let isCount := sign == '+' ||
      (sign == '-' && (text.head? == some 'c' && 1 < text.length ||
        text.head? != some 'c' && !text.isEmpty))
    let isKnown := ["", "b", "c", "l", "f", "bf", "cf", "lf"].any (·.toList == letters)
    if fits && isCount && isKnown then some (sign :: digits, letters, rest) else none
  | _ => none

/-- What the short form means. -/
def readTailShort (count letters : Raw) : Act TailTask := do
  let digits := count.tail
  let isBlocks := letters.head? == some 'b'
  let inLines := !isBlocks && letters.head? != some 'c'
  let value := Number.valueIn 10 digits * (if isBlocks then 512 else 1)
  if Nat.pow 2 64 ≤ value then failOf 1 ("invalid number: ".toList ++ Quoting.word (count ++ letters)) 34
  let count' := if digits.isEmpty then (if isBlocks then 5120 else 10) else value
  return { extent := { count := count', inLines, isRest := count.head? == some '+' } }

/-- The options of `tail`. -/
def tailOptions : OptionTable where
  letters := "c:n:fFqs:vz0123456789"
  long := [("bytes", .value, "c"), ("follow", .perhaps, "f"), ("lines", .value, "n"),
    ("max-unchanged-stats", .value, "max"), ("pid", .value, "pid"), ("quiet", .nothing, "q"),
    ("retry", .nothing, "retry"), ("silent", .nothing, "q"), ("sleep-interval", .value, "s"),
    ("verbose", .nothing, "v"), ("zero-terminated", .nothing, "z")]

/-- Reads an option of `tail`. -/
def readTailOption (task : TailTask) (o : Given) : Act TailTask := do
  let isRest := o.value.head? == some '+'
  let text := if o.value.head? == some '-' then o.value.tail else o.value
  match o.key with
  | "c" => return { task with extent := ← readExtent false isRest text }
  | "n" => return { task with extent := ← readExtent true isRest text }
  | "q" => return { task with titles := .never }
  | "v" => return { task with titles := .always }
  | "z" => return { task with mark := Char.ofNat 0 }
  | key =>
    match key.toList with
    | [c] =>
      if c.isDigit then fail 1 ("option used in invalid context -- ".toList ++ [c])
      else return task
    | _ => return task

/-- Passes on the end of files. -/
def tail : Utility where
  main t := do
    let (task, args) ← match tailShort? t.args with
      | some (count, letters, rest) => do
        let task ← readTailShort count letters
        pure (task, rest)
      | none => pure ({}, t.args)
    let line := tailOptions.read args
    let task ← line.options.foldlM readTailOption task
    let _ ← options tailOptions 1 args
    let e := if task.extent.isRest then { task.extent with count := task.extent.count - 1 }
      else task.extent
    let paths := orInput line.operands
    if e.count = 0 && !e.isRest then return 0
    if paths.contains ['-'] && !(← ask (Kernel.hasSlot 0)) then
      complainOf "cannot fstat 'standard input'".toList Errno.badDescriptor
      closeInput paths
    let status ← passEnds task.titles paths fun i =>
      if e.isRest then tailRest task.mark e i else tailEnd task.mark e i
    closeInput paths
    return status

end PipeShell.Machine.Utility
