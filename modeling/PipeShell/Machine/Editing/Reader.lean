import PipeShell.Machine.Editing.Script
import PipeShell.Machine.Escape
import PipeShell.Machine.Versions

/-!
# Reading scripts for editing streams

A script comes in parts, from arguments or from files. A fault is told with the place where it was
noticed: the part and the number of characters read of it, or the line of the file.
-/

set_option autoImplicit false

namespace PipeShell.Machine.Editing.Reader

/-- Where a part of a script comes from. -/
inductive Origin where
  | argument (number : Nat)
  | file (path : Raw)

/-- Why a script cannot be read, and the status that this leads to. -/
structure Fault where
  text : Raw
  status : Int := 1

/-- A place in a part of a script. -/
structure Place where
  origin : Origin
  /-- The number of characters that were read. -/
  count : Nat := 0
  line : Nat := 1

/-- A place as a complaint tells it. -/
def Place.title (p : Place) : Raw :=
  match p.origin with
  | .argument n =>
    "-e expression #".toList ++ Numeral.ofNat n ++ ", char ".toList ++ Numeral.ofNat p.count
  | .file path => "file ".toList ++ path ++ " line ".toList ++ Numeral.ofNat p.line

/-- How commands refer to a label. -/
inductive JumpKind where
  | always
  | replaced
  | unreplaced

/-- What has been read of a script. -/
structure Draft where
  commands : Array Command := #[]
  /-- The blocks that are open, last one first, and where they were opened. -/
  blocks : List (Nat × Place) := []
  labels : List (Raw × Nat) := []
  /-- The commands that jump to a label, last one first. -/
  jumps : List (Nat × JumpKind × Raw) := []
  /-- Does the text of the last command go on in the next part? -/
  isPending : Bool := false
  isSilent : Bool := false
  /-- The files that are written to. -/
  targets : List Raw := []
  /-- The number of parts that were arguments. -/
  arguments : Nat := 0
  /-- Has a part been read? -/
  isBegun : Bool := false

/-- How far a part has been read. -/
structure State where
  draft : Draft
  rest : Raw
  place : Place
  isExtended : Bool := false
  /-- Are commands refused that touch other files? -/
  isConfined : Bool := false
  /-- Are only those forms understood that every stream editor has? -/
  isPlain : Bool := false

/-- A step in reading a script. -/
abbrev Reading := StateT State (Except Fault)

/-- Refuses a script. -/
def refuse {α : Type} (why : Raw) : Reading α := do
  throw { text := (← get).place.title ++ ": ".toList ++ why }

/-- Refuses a script for a reason in words. -/
def fail {α : Type} (why : String) : Reading α := refuse why.toList

/-- Refuses a command with a letter. -/
def refuseLetter {α : Type} (letter : Char) : Reading α :=
  refuse ("unknown command: `".toList ++ [letter, '\''])

/-! ## Characters -/

/-- Reads a character. -/
def read : Reading (Option Char) := do
  let s ← get
  match s.rest with
  | [] => return none
  | c :: rest =>
    let line := if c == '\n' then s.place.line + 1 else s.place.line
    set { s with rest, place := { s.place with count := s.place.count + 1, line } }
    return some c

/-- Gives back the character that was read. -/
def giveBack (c : Option Char) : Reading Unit := do
  if let some c := c then
    modify fun s =>
      let line := if c == '\n' then s.place.line - 1 else s.place.line
      { s with rest := c :: s.rest, place := { s.place with count := s.place.count - 1, line } }

/-- Reads characters as long as a test holds of them. -/
def readWhile (test : Char → Bool) : Reading Raw := do
  let s ← get
  let (front, rest) := s.rest.span test
  let line := s.place.line + front.count '\n'
  set { s with rest, place := { s.place with count := s.place.count + front.length, line } }
  return front

/-- Reads the first character behind blanks. -/
def readFilled : Reading (Option Char) := do
  let _ ← readWhile CharClass.isBlank
  read

/-- Reads a number that may begin with a character. -/
def readNumber (first : Option Char) : Reading Nat := do
  giveBack first
  return Number.valueIn 10 (← readWhile Char.isDigit)

/-- Reads the end of a command. -/
def readEnd : Reading Unit := do
  match ← readFilled with
  | none | some '\n' | some ';' => return
  | some c =>
    if c == '\x7d' || c == '#' then giveBack (some c) else fail "extra characters after command"

/-- Reads a label. -/
def readLabel : Reading Raw := do
  let _ ← readWhile CharClass.isBlank
  readWhile fun c => !Number.isSpace c && c != ';' && c != '\x7d'

/-- Reads the rest of a line as the name of a file. -/
def readPath : Reading Raw := do
  let _ ← readWhile CharClass.isBlank
  let path ← readWhile (· != '\n')
  let _ ← read
  if path.isEmpty then fail "missing filename in r/R/w/W commands" else return path

/-! ## Texts between delimiters -/

/-- The part of a bracket expression up to its closing bracket, and what follows from there. Signs
in inner brackets do not close it. -/
def bracketFrom : Nat → Option Char → Raw → Raw × Raw
  | _, _, [] => ([], [])
  | state, sign, c :: rest =>
    let goOn (state : Nat) (sign : Option Char) : Raw × Raw :=
      let (inside, behind) := bracketFrom state sign rest
      (c :: inside, behind)
    let settled := state / 2 * 2
    match c with
    | '\n' => ([], c :: rest)
    | '.' | ':' | '=' =>
      if state = 1 then goOn 2 (some c)
      else if state = 2 && sign == some c then goOn 3 sign
      else goOn settled sign
    | '[' => goOn (if state = 0 then 1 else state) sign
    | ']' => if state = 0 || state = 1 then ([], c :: rest) else goOn (if state = 3 then 0 else settled) sign
    | _ => goOn settled sign

/-- What stands in a bracket expression in front of its closing bracket, and what follows. -/
def bracketBody (r : Raw) : Raw × Raw :=
  let (first, rest) := match r with
    | '^' :: ']' :: rest => (['^', ']'], rest)
    | '^' :: rest => (['^'], rest)
    | ']' :: rest => ([']'], rest)
    | _ => ([], r)
  let (inside, behind) := bracketFrom 0 none rest
  (first ++ inside, behind)

/-- Reads up to a delimiter. A delimiter with a backslash in front is part of the text; in a regular
expression so is one in brackets. -/
def readDelimited (delimiter : Option Char) (isRegex : Bool) : Nat → Raw → Reading (Option Raw)
  | 0, _ => return none
  | steps + 1, shown => do
    let next (c : Char) (shown : Raw) : Reading (Option Raw) :=
      readDelimited delimiter isRegex steps (c :: shown)
    match ← read with
    | none => return none
    | some '\n' =>
      giveBack (some '\n')
      return none
    | some c =>
      if some c == delimiter then return some shown.reverse
      else if c == '\\' then
        match ← read with
        | none => return none
        | some d =>
          if d == 'n' && isRegex then next '\n' shown
          else if d == '\n' || (some d == delimiter && (isRegex || d != '&')) then next d shown
          else next d ('\\' :: shown)
      else if c == '[' && isRegex then
        let (inside, _) := bracketBody (← get).rest
        let left := (← get).rest.length - inside.length
        let _ ← inside.mapM fun _ => read
        if left = 0 then return none
        else match ← read with
          | some ']' => next ']' (inside.reverse ++ '[' :: shown)
          | other =>
            giveBack other
            return none
      else next c shown

/-- Reads up to a delimiter. -/
def delimited (delimiter : Option Char) (isRegex : Bool) : Reading (Option Raw) := do
  readDelimited delimiter isRegex ((← get).rest.length + 1) []

/-! ## Escapes -/

/-- The character that a number with a mark for its base stands for, and what follows it. Without
digits the mark stands for itself. -/
def numbered (mark : Char) (base most : Nat) (r : Raw) : Char × Raw :=
  let ds := Escape.digits base most r
  if ds.isEmpty then (mark, r) else (Escape.byte (Number.valueIn base ds), r.drop ds.length)

/-- The character that an escape stands for wherever it is written, and what follows it. -/
def escape? (r : Raw) : Option (Char × Raw) :=
  match r with
  | 'a' :: rest => some (Char.ofNat 7, rest)
  | 'f' :: rest => some (Char.ofNat 12, rest)
  | 'n' :: rest => some ('\n', rest)
  | 'r' :: rest => some ('\r', rest)
  | 't' :: rest => some ('\t', rest)
  | 'v' :: rest => some (Char.ofNat 11, rest)
  | 'c' :: c :: rest => some (Char.ofNat (c.toUpper.toNat ^^^ 64), rest)
  | 'd' :: rest => some (numbered 'd' 10 3 rest)
  | 'o' :: rest => some (numbered 'o' 8 3 rest)
  | 'x' :: rest => some (numbered 'x' 16 2 rest)
  | _ => none

/-- A text with its escapes carried out, in so many steps; a backslash in front of anything else is
dropped. -/
def plainFrom : Nat → Raw → Raw
  | 0, r => r
  | _, [] => []
  | steps + 1, '\\' :: rest =>
    match escape? rest, rest with
    | some (c, after), _ => c :: plainFrom steps after
    | none, c :: after => c :: plainFrom steps after
    | none, [] => []
  | steps + 1, c :: rest => c :: plainFrom steps rest

/-- A text with its escapes carried out. -/
def plain (r : Raw) : Raw := plainFrom (r.length + 1) r

/-- A regular expression with its escapes carried out, in so many steps, other than those that
regular expressions have. -/
def expressionFrom : Nat → Raw → Raw
  | 0, r => r
  | _, [] => []
  | steps + 1, '\\' :: rest =>
    match escape? rest, rest with
    | some (c, after), _ => c :: expressionFrom steps after
    | none, c :: after => '\\' :: c :: expressionFrom steps after
    | none, [] => ['\\']
  | steps + 1, c :: rest => c :: expressionFrom steps rest

/-- The pieces of a replacement, in so many steps. A piece has the lettering that held where it
ended; a lettering of its first letter holds for one piece. -/
def piecesFrom : Nat → Raw → Raw → Lettering → Option Casing → List Piece
  | 0, _, _, _, _ => []
  | _ + 1, [], text, now, _ => if text.isEmpty then [] else [{ text := text.reverse, lettering := now }]
  | steps + 1, c :: rest, text, now, all =>
    let piece (group : Option Nat) : Piece := { text := text.reverse, group, lettering := now }
    let settled : Lettering := { all }
    let plainly (c : Char) (rest : Raw) : List Piece := piecesFrom steps rest (c :: text) now all
    match c, rest with
    | '&', _ => piece (some 0) :: piecesFrom steps rest [] settled all
    | '\\', d :: after =>
      let shaped (l : Lettering) (all : Option Casing) : List Piece :=
        piece none :: piecesFrom steps after [] l all
      match d with
      | 'U' => shaped { all := some .upper } (some .upper)
      | 'L' => shaped { all := some .lower } (some .lower)
      | 'E' => shaped {} none
      | 'u' => shaped { settled with first := some .upper } all
      | 'l' => shaped { settled with first := some .lower } all
      | d =>
        if d.isDigit then
          piece (some (d.toNat - '0'.toNat)) :: piecesFrom steps after [] settled all
        else match escape? rest with
          | some (e, after) => plainly e after
          | none => if d == 'c' then plainly '\\' after else plainly d after
    | c, _ => plainly c rest

/-- The pieces of a replacement. -/
def pieces (r : Raw) : List Piece := piecesFrom (r.length + 1) r [] {} none

/-! ## Addresses -/

/-- What a text between delimiters looks for. -/
def sought (text : Raw) (anyCase byLine : Bool) : Reading (Option Sought) := do
  if text.isEmpty then
    if anyCase || byLine then fail "cannot specify modifiers on empty regexp" else return none
  let n : Notation := { isExtended := (← get).isExtended, isStrict := true, anyCase }
  match Pattern.read n (expressionFrom (text.length + 1) text) with
  | .error f => fail f.message
  | .ok pattern =>
    if pattern.isConfusing then
      throw { text := "character class syntax is [[:space:]], not [:space:]".toList, status := 4 }
    return some { pattern, byLine }

/-- Reads the signs behind a regular expression of an address, in so many steps. -/
def readAddressSigns : Nat → Bool → Bool → Reading (Bool × Bool)
  | 0, anyCase, byLine => return (anyCase, byLine)
  | steps + 1, anyCase, byLine => do
    if (← get).isPlain then return (anyCase, byLine)
    match ← readFilled with
    | some 'I' => readAddressSigns steps true byLine
    | some 'M' => readAddressSigns steps anyCase true
    | c =>
      giveBack c
      return (anyCase, byLine)

/-- Reads an address that begins with a character, if it begins one. -/
def readAddress (first : Option Char) : Reading (Option Address) := do
  let isPlain := (← get).isPlain
  match first with
  | some '$' => return some .last
  | some c =>
    if c == '+' && !isPlain then return some (.later (← readNumber (← readFilled)))
    else if c == '~' && !isPlain then return some (.multiple (← readNumber (← readFilled)))
    else if c == '/' || c == '\\' then
      let delimiter ← if c == '\\' then read else pure (some c)
      match ← delimited delimiter true with
      | none => fail "unterminated address regex"
      | some text =>
        let (anyCase, byLine) ← readAddressSigns ((← get).rest.length + 1) false false
        return some (.fits (← sought text anyCase byLine))
    else if c.isDigit then
      let n ← readNumber (some c)
      let c ← readFilled
      if c == some '~' && !isPlain then
        let step ← readNumber (← readFilled)
        return some (if step = 0 then .number n else .every n step)
      else
        giveBack c
        return some (.number n)
    else return none
  | none => return none

/-- Reads the addresses of a command, and the character behind them. -/
def readAddresses (first : Option Char) : Reading (Option Address × Option Address × Option Char) := do
  match ← readAddress first with
  | none => return (none, none, first)
  | some start =>
    match start with
    | .later _ | .multiple _ => fail "invalid usage of +N or ~N as first address"
    | _ => pure ()
    let c ← readFilled
    let (stop, c) ← if c == some ',' then
        match ← readAddress (← readFilled) with
        | none => fail "unexpected `,'"
        | some stop => pure (some stop, ← readFilled)
      else pure (none, c)
    let isPlain := (← get).isPlain
    match start, stop with
    | .number 0, some (.fits _) => if isPlain then fail "invalid usage of line address 0"
    | .number 0, _ => fail "invalid usage of line address 0"
    | _, _ => pure ()
    return (some start, stop, c)

/-! ## Commands -/

/-- Reads the text of a command up to the end of a line that is not escaped, in so many steps, and
whether it goes on behind the end of the part. -/
def readTextFrom : Nat → Raw → Reading (Raw × Bool)
  | 0, shown => return (shown.reverse, false)
  | steps + 1, shown => do
    match ← read with
    | none | some '\n' => return (('\n' :: shown).reverse, false)
    | some '\\' =>
      match ← read with
      | none => return (('\n' :: shown).reverse, true)
      | some c => readTextFrom steps (c :: '\\' :: shown)
    | some c => readTextFrom steps (c :: shown)

/-- Reads the text of a command up to the end of a line that is not escaped. -/
def readText : Reading Raw := do
  let (text, isPending) ← readTextFrom ((← get).rest.length + 1) []
  modify fun s => { s with draft := { s.draft with isPending } }
  return plain text

/-- Reads the text behind the letter of a command. -/
def readCommandText : Reading Raw := do
  match ← readFilled with
  | none => fail "expected \\ after `a', `c' or `i'"
  | some '\\' =>
    match ← read with
    | none =>
      modify fun s => { s with draft := { s.draft with isPending := true } }
      return []
    | some '\n' => readText
    | c =>
      giveBack c
      readText
  | c =>
    if (← get).isPlain then fail "expected \\ after `a', `c' or `i'"
    giveBack c
    readText

/-- Notes a file that is written to. -/
def noteTarget (path : Raw) : Reading Raw := do
  modify fun s => { s with draft := { s.draft with targets := s.draft.targets ++ [path] } }
  return path

/-- What stands behind a substitution. -/
structure Flags where
  anyCase : Bool := false
  byLine : Bool := false
  isGlobal : Bool := false
  prints : Bool := false
  runs : Bool := false
  first : Option Nat := none
  target : Option Raw := none

/-- Reads what stands behind a substitution, in so many steps. -/
def readFlags : Nat → Flags → Reading Flags
  | 0, f => return f
  | steps + 1, f => do
    let c ← read
    if (← get).isPlain && c.any "iImMe".toList.contains then fail "unknown option to `s'"
    match c with
    | none | some '\n' | some ';' => return f
    | some 'i' | some 'I' => readFlags steps { f with anyCase := true }
    | some 'm' | some 'M' => readFlags steps { f with byLine := true }
    | some 'e' => readFlags steps { f with runs := true }
    | some 'p' =>
      if f.prints then fail "multiple `p' options to `s' command"
      readFlags steps { f with prints := true }
    | some 'g' =>
      if f.isGlobal then fail "multiple `g' options to `s' command"
      readFlags steps { f with isGlobal := true }
    | some 'w' => return { f with target := some (← noteTarget (← readPath)) }
    | some c =>
      if c.isDigit then
        if f.first.isSome then fail "multiple number options to `s' command"
        match ← readNumber (some c) with
        | 0 => fail "number option to `s' command may not be zero"
        | n => readFlags steps { f with first := some n }
      else if c == '\x7d' || c == '#' then
        giveBack (some c)
        return f
      else if CharClass.isBlank c then readFlags steps f
      else fail "unknown option to `s'"

/-- Refuses commands that touch other files where a script is confined. -/
def demandFreedom : Reading Unit := do
  if (← get).isConfined then fail "e/r/w commands disabled in sandbox mode"

/-- Reads a substitution. -/
def readSubstitution : Reading Action := do
  let delimiter ← read
  let some text ← delimited delimiter true | fail "unterminated `s' command"
  let some into ← delimited delimiter false | fail "unterminated `s' command"
  let flags ← readFlags ((← get).rest.length + 1) {}
  let sought ← sought text flags.anyCase flags.byLine
  let pieces := pieces into
  let groups := (sought.map fun s => s.pattern.groups).getD 9
  match (pieces.filterMap Piece.group).max? with
  | some n =>
    if groups < n then
      refuse ("invalid reference \\".toList ++ Numeral.ofNat n ++ " on `s' command's RHS".toList)
  | none => pure ()
  if flags.runs then demandFreedom
  return .substitute
    { sought, pieces, isGlobal := flags.isGlobal, first := flags.first.getD 1
      prints := flags.prints, runs := flags.runs, target := flags.target }

/-- Reads which characters are written for which. -/
def readTranslation : Reading Action := do
  let delimiter ← read
  let some from' ← delimited delimiter false | fail "unterminated `y' command"
  let some into ← delimited delimiter false | fail "unterminated `y' command"
  let from' := plain from'
  let into := plain into
  if from'.length != into.length then fail "strings for `y' command are different lengths"
  readEnd
  return .translate (from'.zip into)

/-- Reads a number behind the letter of a command, if there is one, and its end. -/
def readArgument : Reading (Option Nat) := do
  let c ← readFilled
  let n ← if c.any Char.isDigit then (readNumber c).map some
    else do
      giveBack c
      pure none
  readEnd
  return n

/-- Notes a command that jumps to a label, or to the end. -/
def readJump (kind : JumpKind) : Reading Action := do
  let label ← readLabel
  modify fun s =>
    { s with draft := { s.draft with jumps := (s.draft.commands.size, kind, label) :: s.draft.jumps } }
  return .nothing

/-- A command that needs nothing behind its letter. -/
def simple (action : Action) : Reading Action := do
  readEnd
  return action

/-- Reads what a command does, from its letter on. -/
def readAction (letter : Char) (isRange : Bool) : Reading Action := do
  match letter with
  | 'a' => return .append (← readCommandText)
  | 'i' => return .insert (← readCommandText)
  | 'c' => return .change (← readCommandText)
  | 'b' => readJump .always
  | 't' => readJump .replaced
  | 'T' => readJump .unreplaced
  | 'q' | 'Q' =>
    if isRange then fail "command only uses one address"
    let code := (← readArgument).getD 0
    return if letter == 'q' then .quit code else .quitSilently code
  | 'l' =>
    if (← get).isPlain then simple (.list none) else return .list (← readArgument)
  | '=' => simple .printNumber
  | 'd' => simple .delete
  | 'D' => simple .deleteFirst
  | 'F' => simple .printName
  | 'g' => simple .getHold
  | 'G' => simple .addHold
  | 'h' => simple .hold
  | 'H' => simple .addToHold
  | 'n' => simple .next
  | 'N' => simple .addNext
  | 'p' => simple .print
  | 'P' => simple .printFirst
  | 'x' => simple .exchange
  | 'z' => simple .clear
  | 'r' =>
    demandFreedom
    return .read (← readPath)
  | 'R' =>
    demandFreedom
    return .readLine (← readPath)
  | 'w' =>
    demandFreedom
    return .write (← noteTarget (← readPath))
  | 'W' =>
    demandFreedom
    return .writeFirst (← noteTarget (← readPath))
  | 'e' =>
    demandFreedom
    let _ ← readWhile CharClass.isBlank
    return .run (← readWhile (· != '\n'))
  | 's' => readSubstitution
  | 'y' => readTranslation
  | c => refuseLetter c

/-- Adds a command. -/
def add (c : Command) : Reading Unit := do
  modify fun s => { s with draft := { s.draft with commands := s.draft.commands.push c } }

/-- The version of scripts that is understood. -/
def version : Raw := "4.9".toList

/-- Reads a comment. One that holds only an `n` at the front of the first part makes the script
silent. -/
def readComment : Reading Unit := do
  let s ← get
  let isFront := s.place.count == 1 && !s.draft.isBegun
  let line ← readWhile (· != '\n')
  let _ ← read
  if isFront && line == ['n'] then
    modify fun s => { s with draft := { s.draft with isSilent := true } }

/-- Reads a command that begins with a character. -/
def readCommand (first : Char) : Reading Unit := do
  let (start, stop, c) ← readAddresses (some first)
  let isInverted := c == some '!'
  let c ← if isInverted then readFilled else pure c
  if isInverted && c == some '!' then fail "multiple `!'s"
  let command : Command := { start, stop, isInverted }
  if let some letter := c then
    if (← get).isPlain && "eFQRTvWz".contains letter then refuseLetter letter
  match c with
  | none => fail "missing command"
  | some '#' =>
    if start.isSome then fail "comments don't accept any addresses"
    readComment
  | some ':' =>
    if start.isSome then fail ": doesn't want any addresses"
    let label ← readLabel
    if label.isEmpty then fail "\":\" lacks a label"
    modify fun s =>
      { s with draft := { s.draft with labels := s.draft.labels ++ [(label, s.draft.commands.size)] } }
  | some 'v' =>
    let wanted ← readLabel
    if Versions.comparePlain wanted version == .gt then fail "expected newer version of sed"
  | some '\x7b' =>
    modify fun s =>
      { s with draft := { s.draft with
          blocks := (s.draft.commands.size, { s.place with count := 0 }) :: s.draft.blocks } }
    add command
  | some '\x7d' =>
    match (← get).draft.blocks with
    | [] => fail "unexpected `\x7d'"
    | (opened, _) :: blocks =>
      if start.isSome then fail "`\x7d' doesn't want any addresses"
      readEnd
      modify fun s =>
        let commands := s.draft.commands.modify opened fun c =>
          { c with action := .skip s.draft.commands.size }
        { s with draft := { s.draft with commands, blocks } }
  | some letter =>
    let action ← readAction letter stop.isSome
    add { command with action }

/-- Reads commands to the end of a part, in so many steps. -/
def readCommands : Nat → Reading Unit
  | 0 => return
  | steps + 1 => do
    let _ ← readWhile fun c => c == ';' || Number.isSpace c
    match ← read with
    | none => return
    | some c =>
      readCommand c
      readCommands steps

/-- Adds to the text of a command. -/
def Action.withMore (more : Raw) : Action → Action
  | .append text => .append (text ++ more)
  | .insert text => .insert (text ++ more)
  | .change text => .change (text ++ more)
  | a => a

/-- Reads a part of a script. -/
def readPart : Reading Unit := do
  if (← get).draft.isPending then
    let more ← readText
    modify fun s =>
      let commands := s.draft.commands.modify (s.draft.commands.size - 1) fun c =>
        { c with action := Action.withMore more c.action }
      { s with draft := { s.draft with commands } }
  readCommands ((← get).rest.length + 1)
  modify fun s => { s with draft := { s.draft with isBegun := true } }

end Reader

/-- A script with a part more. -/
def Reader.Draft.withPart (d : Reader.Draft) (isExtended isConfined isPlain : Bool)
    (origin : Reader.Origin) (text : Raw) : Except Reader.Fault Reader.Draft :=
  let start : Reader.State :=
    { draft := d, rest := text, place := { origin }, isExtended, isConfined, isPlain }
  match Reader.readPart.run start with
  | .error f => .error f
  | .ok ((), s) => .ok s.draft

/-- The script that was read, once every block is closed and every label is found. -/
def Reader.Draft.finish (d : Reader.Draft) : Except Reader.Fault Script := do
  match d.blocks.head? with
  | some (_, place) => throw { text := place.title ++ ": unmatched `\x7b'".toList }
  | none => pure ()
  let resolve (commands : Array Command) (jump : Nat × Reader.JumpKind × Raw) :
      Except Reader.Fault (Array Command) :=
    let (at', kind, label) := jump
    let target := if label.isEmpty then some d.commands.size else d.labels.lookup label
    match target with
    | none =>
      .error { text := "can't find label for jump to `".toList ++ label ++ ['\''], status := 4 }
    | some index =>
      let action := match kind with
        | .always => Action.jump index
        | .replaced => .jumpIfReplaced index
        | .unreplaced => .jumpUnlessReplaced index
      .ok (commands.modify at' fun c => { c with action })
  let commands ← d.jumps.foldlM resolve d.commands
  return { commands, isSilent := d.isSilent }

end PipeShell.Machine.Editing
