import PipeShell.Machine.Number
import PipeShell.Machine.Utility.Ends

/-!
# Counting

`wc` counts lines, words and bytes of files. A word is a row of bytes without blanks in which there
is something to see. All counts have the width that the size of all files needs.
-/

set_option autoImplicit false

namespace PipeShell.Machine.Utility

open Act

/-- What is counted. -/
structure Counts where
  lines : Nat := 0
  words : Nat := 0
  bytes : Nat := 0
  longest : Nat := 0

/-- The counts of two texts together. -/
def Counts.add (a b : Counts) : Counts :=
  { lines := a.lines + b.lines, words := a.words + b.words, bytes := a.bytes + b.bytes
    longest := max a.longest b.longest }

/-- Counting on the way through a text: the column of the line, and whether a word is open. -/
structure Tally where
  counts : Counts := {}
  column : Nat := 0
  inWord : Bool := false

/-- Counts a word that ends. -/
def Tally.endWord (t : Tally) : Tally :=
  if t.inWord then
    { t with inWord := false, counts := { t.counts with words := t.counts.words + 1 } }
  else t

/-- Notes the length of a line that ends. -/
def Tally.endLine (t : Tally) : Tally :=
  { t with column := 0, counts := { t.counts with longest := max t.counts.longest t.column } }

/-- Counts a byte. -/
def Tally.step (t : Tally) (c : Char) : Tally :=
  let t := { t with counts := { t.counts with bytes := t.counts.bytes + 1 } }
  if c == '\n' then
    let t := t.endLine.endWord
    { t with counts := { t.counts with lines := t.counts.lines + 1 } }
  else if c == '\r' || c.toNat = 12 then t.endLine.endWord
  else if c == '\t' then { t with column := t.column / 8 * 8 + 8 }.endWord
  else if c == ' ' then { t with column := t.column + 1 }.endWord
  else if c.toNat = 11 then t.endWord
  else if Quoting.isPrintable c then { t with column := t.column + 1, inWord := true }
  else t

/-- The counts of what was gone through. -/
def Tally.total (t : Tally) : Counts := t.endLine.endWord.counts

/-- The options of `wc`. -/
def wcOptions : OptionTable where
  letters := "clLmw"
  long := [("bytes", .nothing, "c"), ("chars", .nothing, "m"), ("lines", .nothing, "l"),
    ("words", .nothing, "w"), ("files0-from", .value, "files"),
    ("max-line-length", .nothing, "L")]

/-- What is shown. -/
structure CountChoice where
  lines : Bool
  words : Bool
  chars : Bool
  bytes : Bool
  longest : Bool

/-- The choice that options mean. -/
def CountChoice.of (line : CommandLine) : CountChoice :=
  let isAny := ["l", "w", "m", "c", "L"].any line.has
  { lines := !isAny || line.has "l", words := !isAny || line.has "w", chars := line.has "m"
    bytes := !isAny || line.has "c", longest := line.has "L" }

/-- The counts that are shown, in order. -/
def CountChoice.shown (choice : CountChoice) (c : Counts) : List Nat :=
  (if choice.lines then [c.lines] else []) ++ (if choice.words then [c.words] else []) ++
    (if choice.chars then [c.bytes] else []) ++ (if choice.bytes then [c.bytes] else []) ++
    (if choice.longest then [c.longest] else [])

/-- A line of counts. -/
def countLine (width : Nat) (numbers : List Nat) (title : Option Raw) : Raw :=
  let shownTitle (path : Raw) : Raw :=
    ' ' :: (if path.contains '\n' then Quoting.whereNeeded path else path)
  Raw.joined [' '] (numbers.map (Number.padded width)) ++ (title.map shownTitle).getD []

/-- The size of a regular file that is to be counted, if it is one; nothing if there is no file. -/
def sizeOf (path : Option Raw) : Act (Option (Option Nat)) := do
  let node ← match path with
    | none | some ['-'] => do
      match ← ask (Kernel.openFileOf 0) with
      | none => return none
      | some { object := .node i, .. } => pure ((← ask Kernel.files).node? i)
      | some { object := .terminal _, .. } => do
        match ← ask (Kernel.place 0) with
        | .ok (_, size) => return some (some size)
        | .error _ => pure none
      | some _ => pure none
    | some path => do
      match ← ask (Kernel.status path true) with
      | .ok n => pure (some n)
      | .error _ => return none
  match node with
  | some { file := .regular content, .. } => return some (some content.length)
  | _ => return some none

/-- The width of the counts of files. -/
def countWidth (paths : List (Option Raw)) (shown : Nat) : Act Nat := do
  if paths.length = 1 && shown = 1 then return 1
  let sizes ← paths.mapM sizeOf
  let known := sizes.filterMap id
  let total := (known.filterMap id).foldl (· + ·) 0
  let least := if known.any Option.isNone then 7 else 1
  return max least (Numeral.ofNat total).length

/-- The number of bytes that are left of a regular file. They need not be read unless they could fill
whole blocks. -/
def bytesLeft? (slot : Nat) : Act (Option Nat) := do
  match ← ask (Kernel.place slot) with
  | .ok (at', size) => return if size % 4096 = 0 then none else some (size - at')
  | .error _ => return none

/-- Counts an input. -/
def countInput (onlyBytes : Bool) (i : Input) : Act (Counts × Option Errno) := do
  let known ← if onlyBytes then bytesLeft? i.slot else pure none
  match known with
  | some bytes => return ({ bytes }, none)
  | none =>
    let (t, i) ← i.foldChunks (fun (t : Tally) piece => return piece.foldl Tally.step t)
      Kernel.endlessly {}
    return (t.total, i.fault)

/-- The files named in a file, with a zero byte behind each. -/
def namesIn (path : Raw) : Act (List Raw) := do
  match ← openOperand path with
  | .error e => failOf 1 ("cannot open ".toList ++ Quoting.always path ++ " for reading".toList) e
  | .ok slot =>
    let (text, _) ← ({ slot } : Input).all
    closeOperand path slot
    let parts := Raw.splitAt (Char.ofNat 0) text
    return if parts.getLast? == some [] then parts.dropLast else parts

/-- Counts what is in files. -/
def wc : Utility where
  byLine := true
  main t := do
    let line ← options wcOptions 1 t.args
    let choice := CountChoice.of line
    let paths ← match line.value? "files" with
      | none => pure (if line.operands.isEmpty then [none] else line.operands.map some)
      | some list => do
        if let operand :: _ := line.operands then
          complain ("extra operand ".toList ++ Quoting.word operand)
          writeError "file operands cannot be combined with --files0-from\n".toList
          misuse 1
        pure ((← namesIn list).map some)
    let width ← countWidth paths (choice.shown {}).length
    let onlyBytes := choice.bytes && !choice.chars && !choice.lines && !choice.words &&
      !choice.longest
    let mut total : Counts := {}
    let mut status := 0
    for path in paths do
      let opened ← match path with
        | none => pure (.ok 0)
        | some [] => do
          complain "invalid zero-length file name".toList
          status := 1
          continue
        | some path => openOperand path
      match opened with
      | .error e =>
        complainOf (Quoting.apart (path.getD [])) e
        status := 1
      | .ok slot =>
        let (counts, fault) ← countInput onlyBytes { slot, block := 16384 }
        if let some e := fault then
          complainOf (Quoting.apart (path.getD "standard input".toList)) e
          status := 1
        emitLine (countLine width (choice.shown counts) path)
        total := total.add counts
        if let some path := path then closeOperand path slot
    if 1 < paths.length then
      emitLine (countLine width (choice.shown total) (some "total".toList))
    if paths.any fun path => path.isNone || path == some ['-'] then
      if let .error e ← ask (Kernel.close 0) then failOf 1 ['-'] e
    return status

end PipeShell.Machine.Utility
