import PipeShell.Machine.Script.Pattern
import PipeShell.Machine.Utility.FileWork
import PipeShell.Machine.Utility.LineMatch

/-!
# Looking for lines

`grep` prints the lines of files in which it finds a match, or those in which it finds none, with
lines around them, or tells only how many there are or in which files. Of a file that holds a null
byte it tells only that something was found.
-/

set_option autoImplicit false

namespace PipeShell.Machine.Utility

open Act

/-! ## What is looked for and how it is shown -/

/-- How a file with null bytes is taken. -/
inductive BinaryRule where
  | told
  | asText
  | skipped
  deriving DecidableEq, Repr

/-- What is done with directories. -/
inductive FolderRule where
  | read
  | skipped
  | searched
  deriving DecidableEq, Repr

/-- Which files are listed instead of their lines. -/
inductive Listed where
  | none
  | matching
  | others
  deriving DecidableEq, Repr

/-- A rule by which files are left out: a pattern for names, and whether it tells what is kept. -/
structure NameRule where
  pattern : Raw
  keeps : Bool := false

/-- What `grep` is told. -/
structure SearchTask where
  matcher : LineMatcher := { patterns := [] }
  inverted : Bool := false
  listed : Listed := .none
  counted : Bool := false
  /-- Does the first match end everything? -/
  isSilent : Bool := false
  /-- Does the first match end the search of a file? -/
  stopsEarly : Bool := false
  most : Option Nat := none
  before : Option Nat := none
  after : Option Nat := none
  separator : Option Raw := some ['-', '-']
  numbered : Bool := false
  located : Bool := false
  onlyMatches : Bool := false
  aligned : Bool := false
  coloured : Bool := false
  showsNames : Bool := false
  nullNames : Bool := false
  hidesFaults : Bool := false
  label : Raw := "(standard input)".toList
  mark : Char := '\n'
  binary : BinaryRule := .told
  folders : FolderRule := .read
  follows : Bool := false
  rules : List NameRule := []
  folderRules : List NameRule := []

/-- Is nothing printed but names and counts? -/
def SearchTask.isQuiet (c : SearchTask) : Bool := c.counted || c.stopsEarly

/-- What is known across files. -/
structure SearchState where
  /-- Has a line been printed? -/
  printed : Bool := false
  /-- Has something gone wrong? -/
  trouble : Bool := false
  /-- Was a line found? -/
  found : Bool := false
  /-- Are names shown? -/
  showsNames : Bool := false

/-- A line with its number and where it starts. -/
structure PlacedLine where
  number : Nat
  offset : Nat
  text : Raw

/-- How far a file was searched. -/
structure Searched where
  lines : Nat := 0
  offset : Nat := 0
  /-- Lines that were not printed, last one first, as many as may be needed. -/
  recent : List PlacedLine := []
  /-- The number of the line that was printed last. -/
  shown : Option Nat := none
  /-- How many lines behind the last match are still to be printed. -/
  pending : Nat := 0
  selected : Nat := 0
  /-- Where the last selected line ends. -/
  stop : Nat := 0
  /-- How many lines were selected when the first null byte was met. -/
  firstNull : Option Nat := none
  printed : Bool := false
  /-- How wide numbers are. -/
  width : Nat := 0

/-! ## Showing lines -/

/-- Prints in a colour. -/
def tinted (c : SearchTask) (colour : String) (bs : Raw) : Raw :=
  if c.coloured then
    "\x1b[".toList ++ colour.toList ++ "m\x1b[K".toList ++ bs ++ "\x1b[m\x1b[K".toList
  else bs

/-- What stands in front of a line or a match. -/
def lineHead (c : SearchTask) (showsNames : Bool) (name : Raw) (width : Nat) (separator : Char)
    (number offset : Nat) (isFilled : Bool) : Raw :=
  let separator := tinted c "36" [separator]
  let place (n : Nat) : Raw := tinted c "32" (Number.padded width n) ++ separator
  (if showsNames then
    tinted c "35" name ++ (if c.nullNames then [Char.ofNat 0] else separator) else []) ++
  (if c.numbered then place number else []) ++
  (if c.located then place offset else []) ++
  (if c.aligned && (showsNames || c.numbered || c.located) && isFilled then ['\t'] else [])

/-- A line with its matches coloured. -/
def colouredLine (c : SearchTask) (line : Raw) : Raw :=
  let (shown, rest) := (c.matcher.all line).foldl (fun (shown, at') (start, stop) =>
    (shown ++ (line.take start).drop at' ++ tinted c "01;31" ((line.take stop).drop start), stop))
    ([], 0)
  shown ++ line.drop rest

/-- Prints a line, or the matches in it. -/
def showLine (c : SearchTask) (showsNames : Bool) (name : Raw) (width : Nat) (isSelected : Bool)
    (l : PlacedLine) : Act Unit := do
  let separator := if isSelected then ':' else '-'
  let mayMatch := isSelected != c.inverted
  if c.onlyMatches then
    if mayMatch then
      for (start, stop) in c.matcher.all l.text do
        emit (lineHead c showsNames name width (if c.inverted then '-' else ':') l.number
            (l.offset + start) true ++
          tinted c "01;31" ((l.text.take stop).drop start) ++ [c.mark])
  else
    let body := if c.coloured && mayMatch then colouredLine c l.text else l.text
    emit (lineHead c showsNames name width separator l.number l.offset (!l.text.isEmpty) ++ body ++
      [c.mark])
  demandHeard 2 "write error".toList

/-- Goes on to the next line of a file. Tells whether the search goes on. -/
def takeLine (c : SearchTask) (showsNames : Bool) (name : Raw) (s : Searched) (text : Raw) :
    Act (Searched × Bool) := do
  let l : PlacedLine := { number := s.lines + 1, offset := s.offset, text }
  let s := { s with lines := s.lines + 1, offset := s.offset + text.length + 1 }
  let isQuiet := c.isQuiet || (s.firstNull.isSome && !c.counted)
  let isLeft (s : Searched) : Bool := c.most.all fun most => decide (s.selected < most)
  if isLeft s && c.matcher.fits text != c.inverted then
    let mut s := s
    unless isQuiet do
      let context := (s.recent.take (c.before.getD 0)).reverse
      let first := ((context.head?).getD l).number
      if (c.before.isSome || c.after.isSome) && s.printed && s.shown != some (first - 1) then
        if let some separator := c.separator then
          emit (tinted c "36" separator ++ ['\n'])
      for r in context do showLine c showsNames name s.width false r
      showLine c showsNames name s.width true l
    s := { s with printed := true, shown := some l.number, recent := []
                  pending := if isQuiet then 0 else c.after.getD 0
                  selected := s.selected + 1, stop := s.offset }
    if c.isSilent then exit 0
    let isTold := c.stopsEarly ||
      (!c.counted && s.firstNull.any fun before => decide (before < s.selected))
    return (s, !isTold && (isLeft s || s.pending != 0))
  else if s.pending != 0 then
    showLine c showsNames name s.width false l
    let s := { s with pending := s.pending - 1, shown := some l.number, recent := [] }
    return (s, isLeft s || s.pending != 0)
  else
    return ({ s with recent := (l :: s.recent).take (c.before.getD 0) }, true)

/-- Goes through the lines of a piece, in so many steps; what stands behind the last mark is left
over. -/
def takePiece (c : SearchTask) (showsNames : Bool) (name : Raw) :
    Nat → Raw → Searched → Act (Searched × Raw × Bool)
  | 0, rest, s => return (s, rest, true)
  | times + 1, rest, s => do
    let (line, behind) := rest.span (· != c.mark)
    match behind with
    | [] => return (s, rest, true)
    | _ :: behind =>
      let (s, goesOn) ← takeLine c showsNames name s line
      if goesOn then takePiece c showsNames name times behind s else return (s, behind, false)

/-- Searches an input, in so many steps, behind the beginning of a line. -/
def searchInput (c : SearchTask) (showsNames : Bool) (name : Raw) :
    Nat → Raw → Searched → Input → Act (Searched × Input)
  | 0, _, s, i => return (s, i)
  | times + 1, residue, s, i => do
    let (piece, i) ← i.chunk
    if piece.isEmpty then
      if residue.isEmpty || i.fault.isSome then return (s, i)
      let (s, _) ← takeLine c showsNames name s residue
      return (s, i)
    let null := Char.ofNat 0
    let isBinary := s.firstNull.isNone && c.mark != null && c.binary != .asText && piece.contains null
    if isBinary && c.binary == .skipped then return ({ s with selected := 0 }, i)
    let s := if isBinary then { s with firstNull := some s.selected } else s
    let piece := if s.firstNull.isSome then piece.map fun b => if b == null then c.mark else b
      else piece
    let (s, residue, goesOn) ← takePiece c showsNames name (piece.length + 1) (residue ++ piece) s
    if goesOn then searchInput c showsNames name times residue s i
    else return (s, { i with buffer := residue })

/-! ## Searching files -/

/-- Complains of a file, unless such complaints are hidden. -/
def searchFault (c : SearchTask) (name : Raw) (e : Errno) (state : SearchState) : Act SearchState := do
  unless c.hidesFaults do complainOf name e
  return { state with trouble := true }

/-- Are a slot and the standard output the same regular file? -/
def isOutput (slot : Nat) : Act Bool := do
  match ← ask (Kernel.openFileOf slot), ← ask (Kernel.openFileOf 1) with
  | some { object := .node i, .. }, some { object := .node j, .. } =>
    if i != j then return false
    match (← ask Kernel.files).file? i with
    | some (.regular _) => return true
    | _ => return false
  | _, _ => return false

/-- How wide numbers are for a file: as wide as its size, and as a large number if it has none. -/
def numberWidth (slot : Nat) : Act Nat := do
  match ← ask (Kernel.place slot) with
  | .ok (_, size) => return (Numeral.ofNat size).length
  | .error _ => return 19

/-- Searches an open file. -/
def searchSlot (c : SearchTask) (name : Raw) (slot : Nat) (state : SearchState) : Act SearchState := do
  let showsNames := state.showsNames
  if (!c.isQuiet && c.listed == .none && c.most.all fun most => decide (1 < most)) && (← isOutput slot)
  then
    unless c.hidesFaults do complain (name ++ ": input file is also the output".toList)
    return { state with trouble := true }
  let width ← if c.aligned then numberWidth slot else pure 0
  let start : Searched := { printed := state.printed, width }
  let (s, i) ← searchInput c showsNames name Kernel.endlessly [] start { slot, block := 98304 }
  let mut state := { state with printed := s.printed }
  if let some e := i.fault then state ← searchFault c name e state
  if !c.isQuiet && s.firstNull.any (fun before => decide (before < s.selected)) then
    complain (name ++ ": binary file matches".toList)
  if c.counted then
    let front := if showsNames then
        tinted c "35" name ++ (if c.nullNames then [Char.ofNat 0] else tinted c "36" [':'])
      else []
    emit (front ++ Numeral.ofNat s.selected ++ ['\n'])
  let isListed := match c.listed with
    | .none => false
    | .matching => s.selected != 0
    | .others => s.selected == 0
  if isListed then emit (tinted c "35" name ++ [if c.nullNames then Char.ofNat 0 else '\n'])
  if slot = 0 && c.most.any (fun most => decide (most ≤ s.selected)) then
    if let .ok _ ← ask (Kernel.place slot) then
      ask (Kernel.stepBack slot (s.offset - s.stop + i.buffer.length))
  return { state with found := state.found || s.selected != 0 }

/-- Does a name fit a pattern for names? A name on the command line fits with any of its ends. -/
def fitsRule (pattern name : Raw) (isAnchored : Bool) : Bool :=
  let p : Script.Pattern := pattern.map fun c => (c, false)
  p.fits name || (!isAnchored && (suffixes name).any p.fits)
where
  /-- What stands behind the slashes of a name. -/
  suffixes : Raw → List Raw
    | [] => []
    | c :: rest => if c == '/' then rest :: suffixes rest else suffixes rest

/-- Is a file left out by rules? The last rule that fits decides; without one, a file is left out if
the first rule tells what is kept. -/
def isLeftOut (rules : List NameRule) (name : Raw) (isAnchored : Bool) : Bool :=
  match rules.reverse.find? fun r => fitsRule r.pattern name isAnchored with
  | some r => !r.keeps
  | none => (rules.head?).any NameRule.keeps

/-- Searches a file, and what a directory holds, to a depth. -/
def searchPath (c : SearchTask) : Nat → Raw → Raw → Bool → SearchState → Act SearchState
  | 0, _, _, _, state => return state
  | depth + 1, path, shown, isOperand, state => do
    match ← linkStatus path, ← status path with
    | .error e, _ => searchFault c shown e state
    | .ok _, .error e =>
      if isOperand || c.follows then searchFault c shown e state else return state
    | .ok link, .ok node =>
      let isLink := match link.file with | .link _ => true | _ => false
      if isLink && !isOperand && !c.follows then return state
      let name := if isOperand then path else lastName path
      let rules := if isFolder node then c.folderRules else c.rules
      if isLeftOut rules name (!isOperand) then return state
      let isDevice := match node.file with | .device _ => true | _ => false
      if isDevice && c.folders == .searched && !isOperand then return state
      if isFolder node && c.folders == .skipped then return state
      if isFolder node && c.folders == .searched then
        match ← namesWithin path with
        | .error e => searchFault c shown e state
        | .ok names =>
          names.foldlM (fun state n =>
            let inner := inDirectory path n
            let innerShown := if shown.isEmpty then n else inDirectory shown n
            searchPath c depth inner innerShown false state) state
      else
        match ← ask (Kernel.openFile path Kernel.Opening.reading) with
        | .error e => searchFault c shown e state
        | .ok slot =>
          let state ← searchSlot c shown slot state
          let _ ← ask (Kernel.close slot)
          return state

/-- Searches an operand. -/
def searchOperand (c : SearchTask) (names : Option Bool) (path : Raw) (state : SearchState) :
    Act SearchState := do
  let isAlone := !state.showsNames
  let state ← if names.isSome || !isAlone then pure state
    else
      let isFolder ← leadsToFolder path
      pure { state with showsNames := isFolder && c.folders == .searched }
  if path == ['-'] then
    if (← ask (Kernel.openFileOf 0)).isNone then searchFault c c.label Errno.badDescriptor state
    else searchSlot c c.label 0 state
  else searchPath c 64 path path true state

/-! ## The command line -/

/-- The options of `grep`. -/
def grepOptions : OptionTable where
  letters := "0123456789A:B:C:D:EFGHILPTUVX:abcd:e:f:hiLlm:noqRrsuvwxyZz"
  long := [("basic-regexp", .nothing, "G"), ("extended-regexp", .nothing, "E"),
    ("fixed-regexp", .nothing, "F"), ("fixed-strings", .nothing, "F"),
    ("perl-regexp", .nothing, "P"), ("after-context", .value, "A"),
    ("before-context", .value, "B"), ("binary-files", .value, "binary"),
    ("binary", .nothing, "U"), ("byte-offset", .nothing, "b"), ("context", .value, "C"),
    ("color", .perhaps, "color"), ("colour", .perhaps, "color"), ("count", .nothing, "c"),
    ("devices", .value, "D"), ("directories", .value, "d"), ("exclude", .value, "exclude"),
    ("exclude-from", .value, "exclude-from"), ("exclude-dir", .value, "exclude-dir"),
    ("file", .value, "f"), ("files-with-matches", .nothing, "l"),
    ("files-without-match", .nothing, "L"), ("group-separator", .value, "separator"),
    ("include", .value, "include"), ("ignore-case", .nothing, "i"),
    ("no-ignore-case", .nothing, "case"), ("initial-tab", .nothing, "T"),
    ("label", .value, "label"), ("line-buffered", .nothing, "line"),
    ("line-number", .nothing, "n"), ("line-regexp", .nothing, "x"), ("max-count", .value, "m"),
    ("no-filename", .nothing, "h"), ("no-group-separator", .nothing, "unseparated"),
    ("no-messages", .nothing, "s"), ("null", .nothing, "Z"), ("null-data", .nothing, "z"),
    ("only-matching", .nothing, "o"), ("quiet", .nothing, "q"), ("recursive", .nothing, "r"),
    ("dereference-recursive", .nothing, "R"), ("regexp", .value, "e"),
    ("invert-match", .nothing, "v"), ("silent", .nothing, "q"), ("text", .nothing, "a"),
    ("unix-byte-offsets", .nothing, "u"), ("with-filename", .nothing, "H"),
    ("word-regexp", .nothing, "w")]

/-- A line of a pattern list, and the file and line it was read from. -/
structure PatternLine where
  text : Raw
  origin : Option (Raw × Nat) := none

/-- What is gathered from the options of `grep`. -/
structure GrepTask where
  search : SearchTask := {}
  /-- The notation of the patterns. -/
  notation' : Option Char := none
  anyCase : Bool := false
  words : Bool := false
  wholeLines : Bool := false
  /-- The patterns, once any are given. -/
  patterns : Option (List PatternLine) := none
  names : Option Bool := none
  digits : Raw := []
  wasDigit : Bool := false
  context : Option Nat := none
  /-- Is the usage asked for? -/
  isLost : Bool := false

/-- Tells how `grep` is used. -/
def grepUsage : Act Unit := do
  writeError "Usage: grep [OPTION]... PATTERNS [FILE]...\n".toList
  hint

/-- A number of lines around matches. -/
def contextLength (text : Raw) : Act Nat := do
  match Number.whole? text with
  | some (.ofNat n) => return n
  | _ => fail 2 (text ++ ": invalid context length argument".toList)

/-- The patterns in a file. -/
def patternsOf (path : Raw) : Act (List PatternLine) := do
  match ← openOperand path with
  | .error e => failOf 2 path e
  | .ok slot =>
    let (content, fault) ← Input.all { slot }
    closeOperand path slot
    if let some e := fault then failOf 2 path e
    return (Raw.lines content).zipIdx.map fun (text, k) => { text, origin := some (path, k + 1) }

/-- Takes one option into account. -/
def readGrepOption (g : GrepTask) (o : Given) : Act GrepTask := do
  let c := g.search
  let set (c : SearchTask) : Act GrepTask := return { g with search := c }
  match o.key with
  | "A" => set { c with after := some (← contextLength o.value) }
  | "B" => set { c with before := some (← contextLength o.value) }
  | "C" => return { g with context := some (← contextLength o.value) }
  | "D" =>
    unless o.value == "read".toList || o.value == "skip".toList do
      fail 2 "unknown devices method".toList
    return g
  | "E" | "F" | "G" | "P" =>
    let sign := (o.key.toList.head?).getD 'G'
    if g.notation'.any (· != sign) then fail 2 "conflicting matchers specified".toList
    return { g with notation' := some sign }
  | "X" =>
    match [("grep", 'G'), ("egrep", 'E'), ("fgrep", 'F'), ("awk", 'E'), ("gawk", 'E'),
        ("posixawk", 'E'), ("perl", 'P')].find? fun e => e.1.toList == o.value with
    | some (_, sign) => return { g with notation' := some sign }
    | none => fail 2 ("invalid matcher ".toList ++ o.value)
  | "H" => return { g with names := some true }
  | "h" => return { g with names := some false }
  | "I" => set { c with binary := .skipped }
  | "a" => set { c with binary := .asText }
  | "binary" =>
    if o.value == "binary".toList then set { c with binary := .told }
    else if o.value == "text".toList then set { c with binary := .asText }
    else if o.value == "without-match".toList then set { c with binary := .skipped }
    else fail 2 "unknown binary-files type".toList
  | "T" => set { c with aligned := true }
  | "u" =>
    complain "warning: --unix-byte-offsets (-u) is obsolete".toList
    return g
  | "b" => set { c with located := true }
  | "c" => set { c with counted := true }
  | "d" =>
    if o.value.isEmpty then set c
    else match ["read", "recurse", "skip"].findIdx? fun w => o.value.isPrefixOf w.toList with
    | some 0 => set { c with folders := .read }
    | some 1 => set { c with folders := .searched }
    | some _ => set { c with folders := .skipped }
    | none =>
      complain ("invalid argument ".toList ++ Quoting.word o.value ++ " for '--directories'".toList)
      writeError "Valid arguments are:\n  - 'read'\n  - 'recurse'\n  - 'skip'\n".toList
      grepUsage
      exit 1
  | "e" =>
    let lines := (Raw.splitAt '\n' o.value).map fun text => ({ text } : PatternLine)
    return { g with patterns := some (g.patterns.getD [] ++ lines) }
  | "f" => return { g with patterns := some (g.patterns.getD [] ++ (← patternsOf o.value)) }
  | "i" | "y" => return { g with anyCase := true }
  | "case" => return { g with anyCase := false }
  | "L" => set { c with listed := .others }
  | "l" => set { c with listed := .matching }
  | "m" =>
    match Number.whole? o.value with
    | some (.ofNat n) => set { c with most := some n }
    | some _ => set { c with most := none }
    | none => fail 2 "invalid max count".toList
  | "n" => set { c with numbered := true }
  | "o" => set { c with onlyMatches := true }
  | "q" => set { c with isSilent := true }
  | "R" => set { c with folders := .searched, follows := true }
  | "r" => set { c with folders := .searched, follows := false }
  | "s" => set { c with hidesFaults := true }
  | "v" => set { c with inverted := true }
  | "w" => return { g with words := true }
  | "x" => return { g with wholeLines := true }
  | "Z" => set { c with nullNames := true }
  | "z" => set { c with mark := Char.ofNat 0 }
  | "color" =>
    if !o.valued then return g
    else if ["always", "yes", "force"].any (·.toList == o.value) then
      set { c with coloured := true }
    else if ["never", "no", "none", "auto", "tty", "if-tty"].any (·.toList == o.value) then
      set { c with coloured := false }
    else return { g with isLost := true }
  | "exclude" => set { c with rules := c.rules ++ [{ pattern := o.value }] }
  | "include" => set { c with rules := c.rules ++ [{ pattern := o.value, keeps := true }] }
  | "exclude-dir" =>
    let pattern := if (withoutSlashes o.value) == ['/'] then o.value else withoutSlashes o.value
    set { c with folderRules := c.folderRules ++ [{ pattern }] }
  | "exclude-from" =>
    let lines := (← patternsOf o.value).filter fun l => !l.text.isEmpty && l.text.head? != some '#'
    set { c with rules := c.rules ++ lines.map fun l => { pattern := l.text } }
  | "separator" => set { c with separator := some o.value }
  | "unseparated" => set { c with separator := none }
  | "label" => set { c with label := o.value }
  | _ => return g

/-- Takes one option into account; digits make up a number of lines around matches. -/
def readGrepArgument (g : GrepTask) (o : Given) : Act GrepTask := do
  match o.key.toList with
  | [c] =>
    if c.isDigit then
      let digits := if g.wasDigit && !o.leads then g.digits ++ [c] else [c]
      return { g with digits, wasDigit := true }
    else readGrepOption { g with wasDigit := false } o
  | _ => readGrepOption { g with wasDigit := false } o

/-- Reads the patterns, complaining of all that cannot be read. -/
def readPatterns (g : GrepTask) (lines : List PatternLine) : Act (List Pattern) := do
  let sign := g.notation'.getD 'G'
  if sign == 'F' then return lines.map fun l => Pattern.ofText g.anyCase l.text
  let n : Notation := { isExtended := sign == 'E' || sign == 'P', anyCase := g.anyCase }
  let mut read : List Pattern := []
  let mut isFaulty := false
  for l in lines do
    match Pattern.read n l.text with
    | .ok p => read := p :: read
    | .error f =>
      let place := match l.origin with
        | some (path, number) => path ++ ':' :: Numeral.ofNat number ++ ": ".toList
        | none => []
      complain (place ++ f.message.toList)
      isFaulty := true
  if isFaulty then exit 2
  let patterns := read.reverse
  for p in patterns do
    for w in p.warnings do complain ("warning: ".toList ++ w)
    if p.isConfusing then fail 2 "character class syntax is [[:space:]], not [:space:]".toList
  return patterns

/-- Looks for lines. -/
def grep : Utility where
  failure := 2
  main t := do
    let line := grepOptions.read t.args
    let mut g : GrepTask := {}
    for o in line.options do g ← readGrepArgument g o
    if let some f := line.fault then
      writeError ((← get).name ++ ": ".toList ++ f.message ++ ['\n'])
      grepUsage
      exit 2
    unless g.digits.isEmpty do g := { g with context := some (← contextLength g.digits) }
    if g.isLost then
      grepUsage
      exit 2
    let (lines, paths) ← match g.patterns, line.operands with
      | some lines, paths => pure (lines, paths)
      | none, text :: paths => pure ((Raw.splitAt '\n' text).map fun text => ({ text } : PatternLine), paths)
      | none, [] => do
        grepUsage
        exit 2
    let c := g.search
    let isNull ← goesNowhere
    let listed := if c.isSilent || isNull then Listed.none else c.listed
    let stopsEarly := c.isSilent || isNull || listed != .none
    let extension := if lines.isEmpty then Extension.anything
      else if g.wholeLines then .line else if g.words then .words else .anything
    let c := { c with
      listed, stopsEarly
      counted := c.counted && !stopsEarly
      before := if c.onlyMatches then none else (c.before <|> g.context)
      after := if c.onlyMatches then none else (c.after <|> g.context) }
    let matchesAll := extension == .anything && lines.map PatternLine.text == [[]]
    let isVain := c.most == some 0 || (lines.isEmpty && !c.inverted) || (matchesAll && c.inverted)
    if isVain && c.listed != .others then return 1
    let patterns ← readPatterns g lines
    let c := { c with matcher := { patterns, extension } }
    let isHere := paths.isEmpty && c.folders == .searched
    let showsNames := g.names.getD (decide (1 < paths.length) || isHere)
    let mut state : SearchState := { showsNames }
    if isHere then state ← searchPath c 64 ['.'] [] true state
    else
      for path in orInput paths do state ← searchOperand c g.names path state
    return if state.trouble then 2 else if state.found then 0 else 1
where
  /-- Is the standard output the place where everything is lost? -/
  goesNowhere : Act Bool := do
    match ← ask (Kernel.openFileOf 1) with
    | some { object := .node i, .. } =>
      match (← ask Kernel.files).file? i with
      | some (.device .null) => return true
      | _ => return false
    | _ => return false

/-- Looks for lines with patterns in a notation of its own. -/
def grepWith (option : String) : Utility where
  failure := 2
  main t := do
    modify fun o => { o with name := "grep".toList }
    grep.main { t with args := option.toList :: t.args }

end PipeShell.Machine.Utility
