import PipeShell.Machine.Utility.Counting
import PipeShell.Machine.Utility.SortKey

/-!
# Sorting

`sort` puts the lines of files in order, merges files that are in order, or looks whether they are.
All input is read before the output is opened for writing, so a file can be sorted in place.
-/

set_option autoImplicit false

namespace PipeShell.Machine.Utility

open Act

/-- The status of `sort` when it fails. -/
def sortFailure : Int := 2

/-- What `sort` is told. -/
structure SortTask where
  /-- What holds for keys that say nothing. -/
  usual : SortKey := {}
  keys : List SortKey := []
  /-- The letter of the check, if lines are only checked. -/
  check : Option Char := none
  merges : Bool := false
  output : Option Raw := none
  stable : Bool := false
  unique : Bool := false
  separator : Option Char := none
  mark : Char := '\n'
  /-- A file with the names of the files. -/
  list : Option Raw := none

/-- Fails with a reason. -/
def sortFail {α : Type} (what : String) (path : Raw) (e : Errno) : Act α :=
  failOf sortFailure (what.toList ++ ": ".toList ++ Quoting.apart path) e

/-- Reads a number of a field or a byte, and gives what follows it. -/
def readPlace (what : String) (text : Raw) : Act (Nat × Raw) := do
  match Number.front? 10 text with
  | some (n, rest) => if n < 0 then bad else return (n.toNat, rest)
  | none => bad
where
  /-- There is no number. -/
  bad : Act (Nat × Raw) := fail sortFailure
    (what.toList ++ ": invalid count at start of ".toList ++ Quoting.word text)

/-- Fails because of a key. -/
def badKey {α : Type} (text : Raw) (what : String) : Act α :=
  fail sortFailure (what.toList ++ ": invalid field specification ".toList ++ Quoting.word text)

/-- Reads a key. -/
def readKey (text : Raw) : Act SortKey := do
  let (field, rest) ← readPlace "invalid number at field start" text
  if field = 0 then badKey text "field number is zero"
  let (byte, rest) ← match rest with
    | '.' :: rest => do
      let (byte, rest) ← readPlace "invalid number after '.'" rest
      if byte = 0 then badKey text "character offset is zero"
      pure (byte - 1, rest)
    | rest => pure (0, rest)
  let key : SortKey :=
    { firstField := if field = 1 && byte = 0 then none else some (field - 1), firstByte := byte }
  let (key, rest) := key.withLetters true false rest
  let (key, rest) ← match rest with
    | ',' :: rest => do
      let (field, rest) ← readPlace "invalid number after ','" rest
      if field = 0 then badKey text "field number is zero"
      let (byte, rest) ← match rest with
        | '.' :: rest => readPlace "invalid number after '.'" rest
        | rest => pure (0, rest)
      let key := { key with lastField := some (field - 1), lastByte := byte }
      pure (key.withLetters false true rest)
    | rest => pure (key, rest)
  unless rest.isEmpty do badKey text "stray character in field spec"
  return key

/-- Fails because options do not go together. -/
def incompatible {α : Type} (letters : Raw) : Act α :=
  fail sortFailure ("options '-".toList ++ letters ++ "' are incompatible".toList)

/-- Notes that lines are only checked. -/
def SortTask.withCheck (t : SortTask) (letter : Char) : Act SortTask := do
  if (t.check.map (· != letter)).getD false then incompatible ['c', 'C']
  return { t with check := some letter }

/-- Notes the byte between fields. -/
def SortTask.withSeparator (t : SortTask) (text : Raw) : Act SortTask := do
  let c ← match text with
    | [] => fail sortFailure "empty tab".toList
    | [c] => pure c
    | ['\\', '0'] => pure (Char.ofNat 0)
    | text => fail sortFailure ("multi-character tab ".toList ++ Quoting.word text)
  if (t.separator.map (· != c)).getD false then fail sortFailure "incompatible tabs".toList
  return { t with separator := some c }

/-- The options of `sort`. -/
def sortOptions : OptionTable where
  letters := "bcCdfghik:mMno:rRsS:t:T:uVy::z"
  long := [("ignore-leading-blanks", .nothing, "b"), ("check", .perhaps, "check"),
    ("compress-program", .value, "ignored"), ("debug", .nothing, "ignored"),
    ("dictionary-order", .nothing, "d"), ("ignore-case", .nothing, "f"),
    ("files0-from", .value, "list"), ("general-numeric-sort", .nothing, "g"),
    ("ignore-nonprinting", .nothing, "i"), ("key", .value, "k"), ("merge", .nothing, "m"),
    ("month-sort", .nothing, "M"), ("numeric-sort", .nothing, "n"),
    ("human-numeric-sort", .nothing, "h"), ("version-sort", .nothing, "V"),
    ("random-sort", .nothing, "R"), ("random-source", .value, "ignored"), ("sort", .value, "sort"),
    ("output", .value, "o"), ("reverse", .nothing, "r"), ("stable", .nothing, "s"),
    ("batch-size", .value, "batch"), ("buffer-size", .value, "S"),
    ("field-separator", .value, "t"), ("temporary-directory", .value, "T"),
    ("unique", .nothing, "u"), ("zero-terminated", .nothing, "z"),
    ("parallel", .value, "parallel")]

/-- Reads an option of `sort`. -/
def readSortOption (t : SortTask) (o : Given) : Act SortTask := do
  let withLetter (c : Char) : SortTask :=
    { t with usual := (t.usual.withLetter? true true c).getD t.usual }
  match o.key with
  | "c" => t.withCheck 'c'
  | "C" => t.withCheck 'C'
  | "check" =>
    if !o.valued then return ← t.withCheck 'c'
    let k ← choose "--check" [["quiet", "silent"], ["diagnose-first"]] o.value
    t.withCheck (if k = 0 then 'C' else 'c')
  | "sort" =>
    let k ← choose "--sort"
      [["general-numeric"], ["human-numeric"], ["month"], ["numeric"], ["random"], ["version"]]
      o.value
    return withLetter (['g', 'h', 'M', 'n', 'R', 'V'].getD k 'n')
  | "k" => return { t with keys := t.keys ++ [← readKey o.value] }
  | "m" => return { t with merges := true }
  | "o" =>
    if (t.output.map (· != o.value)).getD false then
      fail sortFailure "multiple output files specified".toList
    return { t with output := some o.value }
  | "s" => return { t with stable := true }
  | "u" => return { t with unique := true }
  | "t" => t.withSeparator o.value
  | "z" => return { t with mark := Char.ofNat 0 }
  | "list" => return { t with list := some o.value }
  | "S" =>
    let isSize := match o.value.span Char.isDigit with
      | (_ :: _, []) | (_ :: _, ['%']) => true
      | (_ :: _, [c]) => "bkKmMGTPEZY".toList.contains c
      | _ => false
    unless isSize do fail sortFailure ("invalid -S argument ".toList ++ Quoting.word o.value)
    return t
  | "parallel" =>
    match Number.natural? o.value with
    | some 0 => fail sortFailure "number in parallel must be nonzero".toList
    | some _ => return t
    | none => fail sortFailure ("invalid --parallel argument ".toList ++ Quoting.word o.value)
  | "batch" =>
    match Number.natural? o.value with
    | none => fail sortFailure ("invalid --batch-size argument ".toList ++ Quoting.word o.value)
    | some n =>
      if n < 2 then
        complain ("invalid --batch-size argument ".toList ++ Quoting.word o.value)
        fail sortFailure "minimum --batch-size argument is '2'".toList
      return t
  | letter => return letter.toList.foldl (fun _ c => withLetter c) t

/-- The order of lines that a task means, if its keys are in order. -/
def SortTask.order (t : SortTask) : Act SortKey.Order := do
  let inherit (k : SortKey) : SortKey :=
    if k.isPlain && !k.reversed then
      { t.usual with firstField := k.firstField, firstByte := k.firstByte
                     lastField := k.lastField, lastByte := k.lastByte }
    else k
  let keys := if t.keys.isEmpty then (if t.usual.isPlain then [] else [t.usual])
    else t.keys.map inherit
  if let some letters := keys.findSome? SortKey.conflict? then incompatible letters
  return { keys, separator := t.separator, stable := t.stable, unique := t.unique
           reversed := t.usual.reversed }

/-- The lines of a file. -/
def sortedLines (t : SortTask) (path : Raw) : Act (List Raw) := do
  match ← openOperand path with
  | .error e => sortFail "open failed" path e
  | .ok slot =>
    if path == ['-'] && !(← ask (Kernel.hasSlot 0)) then
      sortFail "stat failed" path Errno.badDescriptor
    let (text, fault) ← ({ slot, block := Kernel.largeRead } : Input).all
    if let some e := fault then sortFail "read failed" path e
    closeOperand path slot
    if text.isEmpty then return []
    let parts := Raw.splitAt t.mark text
    return if parts.getLast? == some [] then parts.dropLast else parts

/-- Complains of the first line that is out of order. -/
def checkOrder (t : SortTask) (o : SortKey.Order) (path : Raw) :
    Nat → List SortKey.Keyed → Act Int
  | n, a :: b :: rest =>
    let order := o.compare a b
    if order == .gt || (t.unique && order == .eq) then do
      if t.check == some 'c' then
        flush
        writeError ((← get).name ++ ": ".toList ++ path ++ [':'] ++ Numeral.ofNat (n + 1) ++
          ": disorder: ".toList ++ b.line ++ [t.mark])
      return 1
    else checkOrder t o path (n + 1) (b :: rest)
  | _, _ => return 0

/-- Merges two rows of lines; of equal lines those of the first row come first. -/
def mergeRows (o : SortKey.Order) : Nat → List SortKey.Keyed → List SortKey.Keyed →
    List SortKey.Keyed → List SortKey.Keyed
  | _, done, [], bs => done.reverse ++ bs
  | _, done, as, [] => done.reverse ++ as
  | 0, done, as, bs => done.reverse ++ as ++ bs
  | steps + 1, done, a :: as, b :: bs =>
    if o.compare a b == .gt then mergeRows o steps (b :: done) (a :: as) bs
    else mergeRows o steps (a :: done) as (b :: bs)

/-- The first of equal lines in a row. -/
def firstOfEqual (o : SortKey.Order) (lines : List SortKey.Keyed) : List SortKey.Keyed :=
  (lines.foldl
    (fun done l =>
      match done with
      | last :: _ => if o.compare last l == .eq then done else l :: done
      | [] => [l]) []).reverse

/-- Prints lines; refused output makes `sort` fail at once. -/
def printSorted (t : SortTask) (title : Raw) (lines : List SortKey.Keyed) : Act Unit := do
  for l in lines do
    emit (l.line ++ [t.mark])
    if let some e := (← get).refusal then
      modify fun o => { o with pieces := [], size := 0 }
      sortFail "write failed" title e
  flush
  if let some e := (← get).refusal then sortFail "fflush failed" title e

/-- Connects the output to a file. -/
def redirectOutput (path : Raw) (how : Kernel.Opening) : Act Unit := do
  match ← ask (Kernel.openFile path how) with
  | .error e => sortFail "open failed" path e
  | .ok slot =>
    let _ ← ask (Kernel.share slot 1)
    unless slot = 1 do
      let _ ← ask (Kernel.close slot)

/-- Puts lines in order. -/
def sort : Utility where
  failure := sortFailure
  main t := do
    let task ← (sortOptions.read t.args).options.foldlM readSortOption {}
    let line ← options sortOptions sortFailure t.args
    let paths ← match task.list with
      | none => pure (orInput line.operands)
      | some list => do
        if let operand :: _ := line.operands then
          complain ("extra operand ".toList ++ Quoting.word operand)
          writeError "file operands cannot be combined with --files0-from\n".toList
          misuse sortFailure
        namesIn list
    let order ← task.order
    if let some letter := task.check then
      if let _ :: extra :: _ := paths then
        fail sortFailure ("extra operand ".toList ++ Quoting.always extra ++
          " not allowed with -".toList ++ [letter])
      if task.output.isSome then incompatible [letter, 'o']
      let path := paths.headD ['-']
      let lines ← sortedLines task path
      return ← checkOrder task order path 1 (lines.map order.keyed)
    for path in paths do
      unless path == ['-'] do
        match ← ask (Kernel.status path true) with
        | .error e => sortFail "cannot read" path e
        | .ok n => unless n.allows .toRead do sortFail "cannot read" path Errno.accessDenied
    if let some output := task.output then
      redirectOutput output { writes := true, creates := some 0o666 }
    let rows ← paths.mapM fun path => do return (← sortedLines task path).map order.keyed
    if let some output := task.output then
      redirectOutput output (Kernel.Opening.writing .truncate)
    let lines :=
      if task.merges then rows.foldl (fun as bs => mergeRows order (as.length + bs.length) [] as bs) []
      else rows.flatten.mergeSort fun a b => order.compare a b != .gt
    let lines := if task.unique then firstOfEqual order lines else lines
    printSorted task (task.output.getD "standard output".toList) lines
    return 0

end PipeShell.Machine.Utility
