import PipeShell.Machine.CharClass
import PipeShell.Machine.Utility.Columns

/-!
# Translating bytes

`tr` replaces bytes by others, deletes them, or leaves one of a row of equal ones. Sets of bytes are
written as the bytes in order, with ranges, classes and repetitions. A class of letters in one case
can be turned into that of the other case.
-/

set_option autoImplicit false

namespace PipeShell.Machine.Utility

open Act

/-- The bytes of the class with a name. -/
def classBytes? (name : Raw) : Option (List Char) :=
  (CharClass.find? name).map fun test => CharClass.bytes.filter test

/-! ## Sets as they are written -/

/-- A byte of a written set, and whether it was escaped. -/
structure Written where
  char : Char
  escaped : Bool := false

/-- A part of a set. -/
inductive SetPart where
  | byte (c : Char)
  | range (first last : Char)
  | named (name : Raw)
  | equivalents (c : Char)
  /-- A byte again and again; without a count, as often as it takes. -/
  | repeated (c : Char) (count : Option Nat)

/-- The bytes of a part, with the count for one that has none. -/
def SetPart.bytes (rest : Nat) : SetPart → List Char
  | byte c | equivalents c => [c]
  | range first last =>
    (List.range (last.toNat + 1 - first.toNat)).map fun k => Char.ofNat (first.toNat + k)
  | named name => (classBytes? name).getD []
  | repeated c count => List.replicate (count.getD rest) c

/-- Is a part a class of letters in one case? -/
def SetPart.isCase : SetPart → Bool
  | named name => name == "upper".toList || name == "lower".toList
  | _ => false

/-- Escapes by letters. -/
def setEscapes : List (Char × Nat) :=
  [('\\', 92), ('a', 7), ('b', 8), ('f', 12), ('n', 10), ('r', 13), ('t', 9), ('v', 11)]

/-- Carries out escapes, and gives the warnings they call for. -/
def unescapeSet : Nat → Raw → List Written × List Raw
  | 0, _ => ([], [])
  | _ + 1, [] => ([], [])
  | _ + 1, ['\\'] =>
    ([{ char := '\\' }],
      ["warning: an unescaped backslash at end of string is not portable".toList])
  | steps + 1, '\\' :: c :: rest =>
    let go (c : Char) (rest : Raw) (warnings : List Raw) : List Written × List Raw :=
      let (more, others) := unescapeSet steps rest
      ({ char := c, escaped := true } :: more, warnings ++ others)
    let octal := ((c :: rest).take 3).takeWhile (Number.isDigitIn 8)
    if octal.isEmpty then
      match setEscapes.lookup c with
      | some n => go (Char.ofNat n) rest []
      | none => go c rest []
    else
      let value := Number.valueIn 8 octal
      if value < 256 then go (Char.ofNat value) ((c :: rest).drop octal.length) []
      else
        let short := octal.take 2
        let last := octal.drop 2
        go (Char.ofNat (Number.valueIn 8 short)) ((c :: rest).drop 2)
          ["warning: the ambiguous octal escape \\".toList ++ octal ++
            " is being\n\tinterpreted as the 2-byte sequence \\0".toList ++ short ++
            ", ".toList ++ last]
  | steps + 1, c :: rest =>
    let (more, warnings) := unescapeSet steps rest
    ({ char := c } :: more, warnings)

/-- Is the first byte of a rest a given one, not escaped? -/
def beginsWith (c : Char) (ws : List Written) : Bool :=
  match ws with
  | w :: _ => w.char == c && !w.escaped
  | [] => false

/-- A byte as messages show it. -/
def shownByte (c : Char) : Raw :=
  match (setEscapes.filter (·.1 != '\\')).find? (·.2 == c.toNat) with
  | some (letter, _) => ['\\', letter]
  | none =>
    if c == '\\' then "\\\\".toList
    else if Quoting.isPrintable c then [c]
    else '\\' :: Quoting.octal c

/-- The bytes up to a mark with a closing bracket behind it, and what follows. -/
def upToClosing (mark : Char) : List Written → Option (List Written × List Written)
  | w :: v :: rest =>
    if w.char == mark && !w.escaped && v.char == ']' && !v.escaped then some ([], rest)
    else (upToClosing mark (v :: rest)).map fun r => (w :: r.1, r.2)
  | _ => none

/-- Do a star, digits and a bracket follow? -/
def starFollows (ws : List Written) : Bool :=
  beginsWith '*' ws &&
    beginsWith ']' ((ws.drop 1).dropWhile fun w => w.char.isDigit && !w.escaped)

/-- A repetition behind an opening bracket: nothing if there is none. -/
def repetition? (ws : List Written) :
    Except Raw (Option (Char × Option Nat × List Written)) :=
  match ws with
  | c :: star :: rest =>
    if star.char == '*' && !star.escaped then
      let digits := rest.takeWhile fun w => !w.escaped && w.char != ']'
      let behind := rest.drop digits.length
      if beginsWith ']' behind then
        let text := digits.map Written.char
        if text.isEmpty then .ok (some (c.char, none, behind.drop 1))
        else
          let base := if text.head? == some '0' then 8 else 10
          if text.all (Number.isDigitIn base) then
            let n := Number.valueIn base text
            .ok (some (c.char, if n = 0 then none else some n, behind.drop 1))
          else .error ("invalid repeat count ".toList ++ Quoting.word (text.flatMap shownByte) ++
            " in [c*n] construct".toList)
      else .ok none
    else .ok none
  | _ => .ok none

/-- A class or a class of equivalents behind an opening bracket: nothing if there is none. -/
def bracketed? (ws : List Written) : Except Raw (Option (SetPart × List Written)) := do
  let isClass := beginsWith ':' ws
  if !isClass && !beginsWith '=' ws then return none
  match upToClosing (if isClass then ':' else '=') (ws.drop 1) with
  | none => return none
  | some (inner, rest) =>
    let text := inner.map Written.char
    if isClass then
      if text.isEmpty then .error "missing character class name '[::]'".toList
      else if (classBytes? text).isSome then return some (.named text, rest)
      else if starFollows (ws.drop 1) then return none
      else .error ("invalid character class ".toList ++ Quoting.word (text.flatMap shownByte))
    else match text with
      | [] => .error "missing equivalence class character '[==]'".toList
      | [c] => return some (.equivalents c, rest)
      | text =>
        if starFollows (ws.drop 1) then return none
        else .error (text.flatMap shownByte ++
          ": equivalence class operand must be a single character".toList)

/-- The parts of a written set, read in so many steps. -/
def setParts : Nat → List Written → Except Raw (List SetPart)
  | 0, _ => .ok []
  | steps + 1, ws => do
    match ws with
    | [] => return []
    | [w] => return [.byte w.char]
    | [w, v] => return [.byte w.char, .byte v.char]
    | w :: rest =>
      let plain : Except Raw (List SetPart) := do
        match rest with
        | dash :: last :: behind =>
          if dash.char == '-' && !dash.escaped then
            if last.char < w.char then
              .error ("range-endpoints of '".toList ++ shownByte w.char ++ ['-'] ++
                shownByte last.char ++ "' are in reverse collating sequence order".toList)
            else return .range w.char last.char :: (← setParts steps behind)
          else return .byte w.char :: (← setParts steps rest)
        | _ => return .byte w.char :: (← setParts steps rest)
      if w.char == '[' && !w.escaped then
        match ← bracketed? rest with
        | some (part, behind) => return part :: (← setParts steps behind)
        | none =>
          match ← repetition? rest with
          | some (c, count, behind) => return .repeated c count :: (← setParts steps behind)
          | none => plain
      else plain

/-! ## Translations -/

/-- The number of bytes of parts, with nothing for a repetition without a count. -/
def sizeOfParts (ps : List SetPart) : Nat := ((ps.map (SetPart.bytes 0)).map List.length).foldl (· + ·) 0

/-- The number of repetitions without a count. -/
def openRepeats (ps : List SetPart) : Nat :=
  (ps.filter fun p => match p with
    | .repeated _ none => true
    | _ => false).length

/-- The byte by which a set is made longer, if there is one. -/
def extension? (ps : List SetPart) : Option Char :=
  match ps.getLast? with
  | some (.byte c) | some (.equivalents c) | some (.range _ c) | some (.repeated c _) => some c
  | _ => none

/-- A byte with where it comes from: the case whose class begins there. -/
structure SetByte where
  char : Char
  /-- The class of letters it is in. -/
  case : Option Raw := none
  /-- Does a part begin with it? -/
  isFirst : Bool := true

/-- The bytes of parts with where they come from. -/
def setBytes (rest : Nat) (ps : List SetPart) : List SetByte :=
  ps.flatMap fun p =>
    let case := match p with
      | .named name => if p.isCase then some name else none
      | _ => none
    match p.bytes rest with
    | [] => []
    | c :: cs => { char := c, case } :: cs.map fun c => { char := c, case, isFirst := false }

/-- Without the rest of the part that a byte begins. -/
def skipPart (bs : List SetByte) : List SetByte := bs.dropWhile fun b => !b.isFirst

/-- Pairs of bytes and what they become, with classes of letters side by side; nothing if a class in
the second set is not beside one in the first. -/
def pairs? : Nat → List SetByte → List SetByte → Option (List (Char × Char))
  | 0, _, _ => some []
  | _ + 1, [], _ | _ + 1, _, [] => some []
  | steps + 1, a :: as, b :: bs =>
    match b.case with
    | none => (pairs? steps as bs).map ((a.char, b.char) :: ·)
    | some target =>
      match a.case with
      | none => none
      | some source =>
        if !a.isFirst then none
        else
          let turned : List (Char × Char) :=
            if source == target then []
            else if source == "lower".toList then
              (CharClass.bytes.filter Char.isLower).map fun c => (c, c.toUpper)
            else (CharClass.bytes.filter Char.isUpper).map fun c => (c, c.toLower)
          (pairs? steps (skipPart as) (skipPart bs)).map (turned ++ ·)

/-- The number of pairs that two sets call for, where a class of letters counts as one. -/
def foldedSize (bs : List SetByte) (isPaired : Bool) : Nat :=
  (bs.filter fun b => !isPaired || b.case.isNone || b.isFirst).length

/-- A table of what each byte becomes. -/
def tableOf (pairs : List (Char × Char)) : Array Char :=
  pairs.foldl (fun table p => table.set! p.1.toNat p.2) CharClass.bytes.toArray

/-- A table of the bytes of a set. -/
def membersOf (bytes : List Char) : Array Bool :=
  bytes.foldl (fun table c => table.set! c.toNat true) (Array.replicate 256 false)

/-- What `tr` is told, apart from its sets. -/
structure TranslationTask where
  complemented : Bool
  deletes : Bool
  squeezes : Bool
  truncates : Bool

/-- What is done with every byte: deleted, replaced, and squeezed. -/
structure Translation where
  deleted : Array Bool := Array.replicate 256 false
  replaced : Array Char := CharClass.bytes.toArray
  squeezed : Array Bool := Array.replicate 256 false

/-- The bytes of a set, or all others. -/
def chosenBytes (complemented : Bool) (ps : List SetPart) : List Char :=
  let bytes := ps.flatMap (SetPart.bytes 0)
  if complemented then
    let members := membersOf bytes
    CharClass.bytes.filter fun c => !members[c.toNat]!
  else bytes

/-- The translation by two sets, or the fault in it. -/
def translation? (task : TranslationTask) (first second : List SetPart) :
    Except String Translation := do
  if openRepeats second > 1 then
    .error "only one [c*] repeat construct may appear in string2"
  let hasEquivalents := second.any fun p => match p with
    | .equivalents _ => true
    | _ => false
  if hasEquivalents then
    .error "[=c=] expressions may not appear in string2 when translating"
  let isForeign (p : SetPart) : Bool := match p with
    | .named _ => !p.isCase
    | _ => false
  if second.any isForeign then
    .error ("when translating, the only character classes that may appear in\n" ++
      "string2 are 'upper' and 'lower'")
  let sources : List SetByte :=
    if task.complemented then (chosenBytes true first).map fun c => { char := c }
    else setBytes 0 first
  let rest := if openRepeats second = 1 then sources.length - sizeOfParts second else 0
  let targets := setBytes rest second
  let isPaired := !task.complemented && second.any SetPart.isCase
  if isPaired && (pairs? (sources.length + 1) sources targets).isNone then
    .error "misaligned [:upper:] and/or [:lower:] construct"
  let missing := foldedSize sources isPaired - foldedSize targets isPaired
  let targets ← if missing = 0 || task.truncates then pure targets
    else if targets.isEmpty then
      .error "when not truncating set1, string2 must be non-empty"
    else match extension? second with
      | none => .error ("when translating with string1 longer than string2,\n" ++
          "the latter string must not end with a character class")
      | some c => pure (targets ++ (List.replicate missing c).map fun c => { char := c })
  let hasClass := first.any fun p => match p with
    | .named _ => true
    | _ => false
  let isUniform := match targets with
    | [] => true
    | t :: ts => ts.all fun u => u.char == t.char
  if task.complemented && hasClass && !(targets.length = sources.length && isUniform) then
    .error ("when translating with complemented character classes,\n" ++
      "string2 must map all characters in the domain to one")
  let pairs := (pairs? (sources.length + 1) sources targets).getD []
  return { replaced := tableOf pairs
           squeezed := if task.squeezes then membersOf (targets.map SetByte.char)
             else Array.replicate 256 false }

/-- The translation that a task and sets mean, or the fault in it. -/
def TranslationTask.read (task : TranslationTask) (sets : List (List SetPart)) :
    Except String Translation := do
  let first := sets.headD []
  if openRepeats first > 0 then .error "the [c*] repeat construct may not appear in string1"
  match sets with
  | [_, second] =>
    if task.deletes then
      if openRepeats second > 1 then
        .error "only one [c*] repeat construct may appear in string2"
      if openRepeats second > 0 then
        .error "the [c*] construct may appear in string2 only when translating"
      return { deleted := membersOf (chosenBytes task.complemented first)
               squeezed := membersOf (chosenBytes false second) }
    else translation? task first second
  | _ =>
    let chosen := membersOf (chosenBytes task.complemented first)
    if task.deletes then return { deleted := chosen } else return { squeezed := chosen }

/-- Sends bytes through a translation, with the byte that was passed on last. The bytes come last one
first. -/
def Translation.pass (t : Translation) (last : Option Char) (piece : Raw) : Raw × Option Char :=
  piece.foldl
    (fun state c =>
      if t.deleted[c.toNat]! then state
      else
        let c := t.replaced[c.toNat]!
        if state.2 == some c && t.squeezed[c.toNat]! then state else (c :: state.1, some c))
    ([], last)

/-- The options of `tr`. -/
def trOptions : OptionTable where
  letters := "AcCdst"
  strict := true
  long := [("complement", .nothing, "c"), ("delete", .nothing, "d"),
    ("squeeze-repeats", .nothing, "s"), ("truncate-set1", .nothing, "t")]

/-- Looks whether there are as many sets as a task needs. -/
def TranslationTask.demandSets (task : TranslationTask) (sets : List Raw) : Act Unit := do
  let least := if task.deletes = task.squeezes then 2 else 1
  let most := if task.deletes && !task.squeezes then 1 else 2
  if sets.length < least then
    match sets.getLast? with
    | none => missingOperand
    | some last => do
      complain ("missing operand after ".toList ++ Quoting.word last)
      let why := if task.squeezes
        then "Two strings must be given when both deleting and squeezing repeats.\n"
        else "Two strings must be given when translating.\n"
      writeError why.toList
      misuse 1
  if let extra :: _ := sets.drop most then
    complain ("extra operand ".toList ++ Quoting.word extra)
    if sets.length = 2 then
      writeError "Only one string may be given when deleting without squeezing repeats.\n".toList
    misuse 1

/-- Translates its input. -/
def tr : Utility where
  main t := do
    let line ← options trOptions 1 t.args
    let task : TranslationTask :=
      { complemented := line.has "c" || line.has "C", deletes := line.has "d"
        squeezes := line.has "s", truncates := line.has "t" }
    task.demandSets line.operands
    let mut sets := []
    for text in line.operands do
      let (ws, warnings) := unescapeSet (text.length + 1) text
      warnings.forM complain
      match setParts (ws.length + 1) ws with
      | .ok parts => sets := sets ++ [parts]
      | .error fault => fail 1 fault
    match task.read sets with
    | .error fault => fail 1 fault.toList
    | .ok translation => do
      let work (last : Option Char) (piece : Raw) : Act (Option Char) := do
        let (passed, last) := translation.pass last piece
        emit passed.reverse
        demandHeard 1 "write error".toList
        return last
      let (_, i) ← Input.foldChunks work Kernel.endlessly none { block := 8192 }
      if let some e := i.fault then failOf 1 "read error".toList e
      return 0

end PipeShell.Machine.Utility
