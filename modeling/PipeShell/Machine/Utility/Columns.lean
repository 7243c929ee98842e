import PipeShell.Machine.Number
import PipeShell.Machine.Utility.Ends

/-!
# Columns

`cut` shows chosen columns of lines: bytes, or fields between delimiters. A choice is a list of
numbers and ranges; ranges that overlap are one range.
-/

set_option autoImplicit false

namespace PipeShell.Machine.Utility

open Act

/-! ## Ranges -/

/-- Columns from one to another; without an end, all that follow. -/
structure Columns where
  first : Nat
  last : Option Nat

/-- Is a column in a range? -/
def Columns.has (r : Columns) (column : Nat) : Bool :=
  decide (r.first ≤ column) && (match r.last with
    | some last => decide (column ≤ last)
    | none => true)

/-- Ranges in order, with those that overlap put together. -/
def mergeColumns (rs : List Columns) : List Columns :=
  let add (done : List Columns) (r : Columns) : List Columns :=
    match done with
    | [] => [r]
    | d :: rest =>
      if d.has r.first then
        let last := match d.last, r.last with
          | some a, some b => some (max a b)
          | _, _ => none
        { d with last } :: rest
      else r :: done
  ((rs.mergeSort fun a b => a.first ≤ b.first).foldl add []).reverse

/-- The columns between the ranges. -/
def complementColumns (rs : List Columns) : List Columns :=
  let rec go (from' : Nat) : List Columns → List Columns
    | [] => [{ first := from', last := none }]
    | r :: rest =>
      let gap := if from' < r.first then [{ first := from', last := some (r.first - 1) }] else []
      match r.last with
      | some last => gap ++ go (last + 1) rest
      | none => gap
  go 1 rs

/-- What has been read of a list of columns. -/
structure ColumnDraft where
  value : Nat := 0
  start : Nat := 1
  hasLeft : Bool := false
  hasRight : Bool := false
  isRange : Bool := false
  /-- The digits being read, and what follows them, as they stood at their front. -/
  digits : Option Raw := none
  done : List Columns := []

/-- Why a list of columns cannot be read. -/
inductive ColumnFault where
  | zero
  | range
  | decreasing
  | noEnd
  | tooLarge (digits : Raw)
  | invalid (rest : Raw)

/-- The wording of a fault. -/
def ColumnFault.message (inFields : Bool) : ColumnFault → Raw
  | zero => ((if inFields then "fields" else "byte/character positions") ++
      " are numbered from 1").toList
  | range => ("invalid " ++ (if inFields then "field" else "byte or character") ++ " range").toList
  | decreasing => "invalid decreasing range".toList
  | noEnd => "invalid range with no endpoint: -".toList
  | tooLarge digits => ((if inFields then "field number " else "byte/character offset ")).toList ++
      Quoting.word digits ++ " is too large".toList
  | invalid rest => ("invalid " ++
      (if inFields then "field value " else "byte/character position ")).toList ++ Quoting.word rest

/-- Ends a part of a list. -/
def ColumnDraft.close (d : ColumnDraft) : Except ColumnFault ColumnDraft :=
  if d.isRange then
    if !d.hasLeft && !d.hasRight then .error .noEnd
    else if !d.hasRight then .ok { done := { first := d.start, last := none } :: d.done }
    else if d.value < d.start then .error .decreasing
    else .ok { done := { first := d.start, last := some d.value } :: d.done }
  else if d.value = 0 then .error .zero
  else .ok { done := { first := d.value, last := some d.value } :: d.done }

/-- Reads a list of columns. -/
def readColumns (d : ColumnDraft) : Raw → Except ColumnFault (List Columns)
  | [] => return (← d.close).done.reverse
  | c :: rest =>
    if c == '-' then
      if d.isRange then .error .range
      else if d.hasLeft && d.value = 0 then .error .zero
      else
        let start := if d.hasLeft then d.value else 1
        readColumns { d with isRange := true, start, value := 0, digits := none } rest
    else if c == ',' || c == ' ' || c == '\t' then do readColumns (← d.close) rest
    else if c.isDigit then
      let value := d.value * 10 + (c.toNat - '0'.toNat)
      let digits := d.digits.getD (c :: rest)
      if Nat.pow 2 64 - 1 ≤ value then .error (.tooLarge (digits.takeWhile Char.isDigit))
      else if d.isRange then readColumns { d with value, digits := some digits, hasRight := true } rest
      else readColumns { d with value, digits := some digits, hasLeft := true } rest
    else .error (.invalid (c :: rest))

/-! ## `cut` -/

/-- The options of `cut`. -/
def cutOptions : OptionTable where
  letters := "b:c:d:f:nsz"
  long := [("bytes", .value, "b"), ("characters", .value, "c"), ("fields", .value, "f"),
    ("delimiter", .value, "d"), ("only-delimited", .nothing, "s"),
    ("output-delimiter", .value, "output"), ("complement", .nothing, "complement"),
    ("zero-terminated", .nothing, "z")]

/-- The chosen bytes of a line; between ranges stands a separator. -/
def cutBytes (ranges : List Columns) (separator : Raw) (line : Raw) : Raw :=
  let part (r : Columns) : Option Raw :=
    if line.length < r.first then none
    else
      let behind := line.drop (r.first - 1)
      some (match r.last with
        | some last => behind.take (last + 1 - r.first)
        | none => behind)
  Raw.joined separator (ranges.filterMap part)

/-- The chosen fields of a line, unless it has no delimiter. -/
def cutFields (ranges : List Columns) (delimiter : Char) (separator : Raw) (line : Raw) :
    Option Raw :=
  if !line.contains delimiter then none
  else
    let fields := (Raw.splitAt delimiter line).zipIdx 1
    some (Raw.joined separator
      ((fields.filter fun f => ranges.any (·.has f.2)).map Prod.fst))

/-- Complains of a command line and ends. -/
def misused {α : Type} (code : Int) (text : String) : Act α := do
  complain text.toList
  misuse code

/-- Passes on chosen columns of lines. -/
def cut : Utility where
  main t := do
    let isList (o : Given) : Bool := ["b", "c", "f"].contains o.key
    let read := cutOptions.read t.args
    let mut lists := 0
    for o in read.options do
      if isList o then
        lists := lists + 1
        if 1 < lists then misused 1 "only one list may be specified"
      if o.key == "d" && 1 < o.value.length then
        misused 1 "the delimiter must be a single character"
    let line ← options cutOptions 1 t.args
    match line.options.find? isList with
    | none => misused 1 "you must specify a list of bytes, characters, or fields"
    | some list => do
      let inFields := list.key == "f"
      if line.has "d" && !inFields then
        misused 1 "an input delimiter may be specified only when operating on fields"
      if line.has "s" && !inFields then
        misused 1 "suppressing non-delimited lines makes sense\n\tonly when operating on fields"
      let ranges ← match readColumns {} list.value with
        | .ok rs => pure (mergeColumns rs)
        | .error f => do
          complain (f.message inFields)
          misuse 1
      let ranges := if line.has "complement" then complementColumns ranges else ranges
      let delimiter := match line.value? "d" with
        | none => '\t'
        | some text => text.headD (Char.ofNat 0)
      let separator := (line.value? "output").getD (if inFields then [delimiter] else [])
      let mark := if line.has "z" then Char.ofNat 0 else '\n'
      let mut status := 0
      for path in orInput line.operands do
        match ← openOperand path with
        | .error e =>
          complainOf (Quoting.apart path) e
          status := 1
        | .ok slot =>
          let work (_ : Unit) (l : InputLine) : Act (Unit × Bool) := do
            if inFields then
              match cutFields ranges delimiter separator l.text with
              | some text => emit (text ++ [mark])
              | none => unless line.has "s" do emit (l.text ++ [mark])
            else emit (cutBytes ranges separator l.text ++ [mark])
            return ((), true)
          let (_, i) ← ({ slot } : Input).foldLines mark work Kernel.endlessly ()
          if let some e := i.fault then
            complainOf (Quoting.apart path) e
            status := 1
          closeOperand path slot
      if (orInput line.operands).contains ['-'] then
        if let .error e ← ask (Kernel.close 0) then failOf 1 ['-'] e
      return status

/-! ## `uniq` -/

/-- How groups of equal lines are told apart. -/
inductive Grouping where
  | never
  | before
  | between
  | behind
  | around
  deriving DecidableEq, Repr

/-- What `uniq` is told. -/
structure UniqueTask where
  skippedFields : Nat := 0
  skippedBytes : Nat := 0
  compared : Option Nat := none
  folded : Bool := false
  counted : Bool := false
  /-- Which lines are shown: those that come once, the first of those that come again, and all
  others. -/
  showsOnce : Bool := true
  showsFirst : Bool := true
  showsLater : Bool := false
  /-- What stands between groups of lines that come again. -/
  repeats : Grouping := .never
  /-- What stands between groups of all lines. -/
  groups : Grouping := .never
  /-- Were fields to be skipped given by digits alone? -/
  byDigits : Bool := false
  mark : Char := '\n'

/-- The part of a line by which it is compared. -/
def UniqueTask.key (t : UniqueTask) (line : Raw) : Raw :=
  let isGap (c : Char) : Bool := c == ' ' || c == '\t' || c == '\n'
  let skipField (rest : Raw) : Raw := (rest.dropWhile isGap).dropWhile fun c => !isGap c
  let rec skip : Nat → Raw → Raw
    | 0, rest => rest
    | _ + 1, [] => []
    | n + 1, rest => skip n (skipField rest)
  let rest := (skip t.skippedFields line).drop t.skippedBytes
  let rest := match t.compared with
    | some n => rest.take n
    | none => rest
  if t.folded then rest.map Char.toUpper else rest

/-- Reads a count of something that is skipped or compared. -/
def readSkip (what : String) (text : Raw) : Act Nat := do
  match Number.front? 10 text with
  | some (n, []) => if 0 ≤ n && !text.contains '-' then return n.toNat else bad
  | _ => bad
where
  /-- The text is no count. -/
  bad : Act Nat := fail 1 (text ++ ": invalid number of ".toList ++ what.toList)

/-- The options of `uniq`. -/
def uniqOptions : OptionTable where
  letters := "0123456789Dcdf:is:uw:z"
  long := [("count", .nothing, "c"), ("repeated", .nothing, "d"), ("all-repeated", .perhaps, "D"),
    ("group", .perhaps, "group"), ("ignore-case", .nothing, "i"), ("unique", .nothing, "u"),
    ("skip-fields", .value, "f"), ("skip-chars", .value, "s"), ("check-chars", .value, "w"),
    ("zero-terminated", .nothing, "z")]

/-- Reads an option of `uniq`. -/
def readUniqueOption (t : UniqueTask) (o : Given) : Act UniqueTask := do
  match o.key with
  | "c" => return { t with counted := true }
  | "d" => return { t with showsOnce := false }
  | "D" =>
    let t := { t with showsOnce := false, showsLater := true }
    if !o.valued then return { t with repeats := .never }
    let k ← choose "--all-repeated" [["none"], ["prepend"], ["separate"]] o.value
    return { t with repeats := [Grouping.never, .before, .between].getD k .never }
  | "group" =>
    if !o.valued then return { t with groups := .between }
    let k ← choose "--group" [["prepend"], ["append"], ["separate"], ["both"]] o.value
    return { t with groups := [Grouping.before, .behind, .between, .around].getD k .never }
  | "f" => return { t with skippedFields := ← readSkip "fields to skip" o.value, byDigits := false }
  | "i" => return { t with folded := true }
  | "s" => return { t with skippedBytes := ← readSkip "bytes to skip" o.value }
  | "u" => return { t with showsFirst := false }
  | "w" => return { t with compared := some (← readSkip "bytes to compare" o.value) }
  | "z" => return { t with mark := Char.ofNat 0 }
  | digit =>
    let d := Number.valueIn 10 digit.toList
    return { t with skippedFields := (if t.byDigits then t.skippedFields * 10 else 0) + d
                    byDigits := true }

/-- Shows a line of a group; `later` is the number of equal lines before it, and `more` tells that
another one follows. -/
def UniqueTask.show (t : UniqueTask) (line : Raw) (more : Bool) (later : Nat) : Act Unit := do
  let shows := if later = 0 then t.showsOnce else if more then t.showsLater else t.showsFirst
  if shows then
    emit ((if t.counted then Number.padded 7 (later + 1) ++ [' '] else []) ++ line ++ [t.mark])

/-- Where `uniq` is: the line before, how many equal ones came before that, and whether a group of
repeated lines has been shown. -/
structure UniquePlace where
  previous : Option (Raw × Raw) := none
  later : Nat := 0
  hasGroup : Bool := false

/-- Takes the next line where every group is shown by its first line. -/
def UniqueTask.takeGrouped (t : UniqueTask) (p : UniquePlace) (line : Raw) : Act UniquePlace := do
  let key := t.key line
  let isNew := (p.previous.map fun q => q.2 != key).getD true
  let parts := t.groups == .before || t.groups == .around ||
    (p.hasGroup && (t.groups == .behind || t.groups == .between))
  if isNew && t.groups != .never && parts then emit [t.mark]
  if isNew || t.groups != .never then
    emit (line ++ [t.mark])
    return { p with previous := some (line, key), hasGroup := true }
  else return p

/-- Takes the next line where lines are counted or chosen. -/
def UniqueTask.takeCounted (t : UniqueTask) (p : UniquePlace) (line : Raw) : Act UniquePlace := do
  let key := t.key line
  match p.previous with
  | none => return { p with previous := some (line, key) }
  | some (before, old) =>
    let isSame := old == key
    let later := if isSame then p.later + 1 else p.later
    let mut hasGroup := p.hasGroup
    if t.repeats != .never then
      if !isSame then
        if later ≠ 0 then hasGroup := true
      else if later = 1 && (t.repeats == .before || (t.repeats == .between && p.hasGroup)) then
        emit [t.mark]
    if !isSame || t.showsLater then
      t.show before isSame later
      return { previous := some (line, key), later := if isSame then later else 0, hasGroup }
    else return { p with later, hasGroup }

/-- Passes on lines, equal ones in a row only once. -/
def uniq : Utility where
  main t := do
    let task ← (uniqOptions.read t.args).options.foldlM readUniqueOption {}
    let line ← options uniqOptions 1 t.args
    let skips (o : Raw) : Option Nat :=
      match o with
      | '+' :: digits => Number.natural? digits
      | _ => none
    let task := (line.operands.filterMap skips).foldl
      (fun t n => { t with skippedBytes := n }) task
    let files := line.operands.filter fun o => (skips o).isNone
    if let extra :: _ := files.drop 2 then extraOperand extra
    if task.groups != .never && ["c", "d", "D", "u"].any line.has then
      misused 1 "--group is mutually exclusive with -c/-d/-D/-u"
    if task.counted && task.showsLater then
      misused 1 "printing all duplicated lines and repeat counts is meaningless"
    let source := files.headD ['-']
    match ← openOperand source with
    | .error e => failOf 1 (Quoting.apart source) e
    | .ok slot => do
      if let [_, target] := files then
        unless target == ['-'] do
          match ← ask (Kernel.openFile target (Kernel.Opening.writing .truncate)) with
          | .error e => failOf 1 (Quoting.apart target) e
          | .ok slot =>
            let _ ← ask (Kernel.share slot 1)
            let _ ← ask (Kernel.close slot)
      let isPlain := task.showsOnce && task.showsFirst && !task.counted
      let work (p : UniquePlace) (l : InputLine) : Act (UniquePlace × Bool) := do
        let p ← if isPlain then task.takeGrouped p l.text else task.takeCounted p l.text
        return (p, true)
      let (p, i) ← ({ slot } : Input).foldLines task.mark work Kernel.endlessly {}
      if i.fault.isSome then fail 1 ("error reading ".toList ++ Quoting.always source)
      match p.previous with
      | none => return 0
      | some (last, _) =>
        if isPlain then
          if task.groups == .behind || task.groups == .around then emit [task.mark]
        else task.show last false p.later
        return 0

end PipeShell.Machine.Utility
