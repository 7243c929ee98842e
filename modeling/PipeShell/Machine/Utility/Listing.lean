import PipeShell.Machine.Script.Pattern
import PipeShell.Machine.Utility.FileWork
import PipeShell.Machine.Versions

/-!
# Listing directories

`ls` shows the files among its operands first and then, directory by directory, what is in the
others. Names are put in order, and written one to a line, in columns, with commas, or with what is
known of each file.
-/

set_option autoImplicit false

namespace PipeShell.Machine.Utility

open Act

/-- How a list of files is laid out. -/
inductive ListLayout where
  | lines
  | down
  | across
  | commas
  | long
  deriving DecidableEq, Repr

/-- The order of a list of files. -/
inductive ListOrder where
  | name
  | unsorted
  | size
  | suffix
  | version
  | width
  deriving DecidableEq, Repr

/-- Which marks stand behind names. -/
inductive Marking where
  | never
  | directories
  | kinds
  /-- With programs. -/
  | all
  deriving DecidableEq, Repr

/-- How names are written. -/
inductive NameStyle where
  | literal
  | whereNeeded
  | always
  | whereNeededEscaped
  | alwaysEscaped
  | doubled
  | escaped
  | worded
  deriving DecidableEq, Repr

/-- What `ls` is told. -/
structure ListTask where
  layout : ListLayout := .lines
  order : ListOrder := .name
  reversed : Bool := false
  directoriesFirst : Bool := false
  /-- Are names with a point in front shown, and the two that every directory has? -/
  hidden : Bool := false
  points : Bool := false
  /-- Names that are left out; those of the second kind only where hidden names are. -/
  omitted : List Raw := []
  omittedIfHidden : List Raw := []
  marking : Marking := .never
  style : NameStyle := .literal
  conceals : Bool := false
  plainDirectories : Bool := false
  recursive : Bool := false
  followsAll : Bool := false
  followsOperands : Bool := false
  followsToDirectories : Bool := true
  sizes : Bool := false
  numbers : Bool := false
  showsOwner : Bool := true
  showsGroup : Bool := true
  numeric : Bool := false
  width : Nat := 80
  tab : Nat := 8
  ending : Char := '\n'

/-- A file in a list. -/
structure Listing where
  name : Raw
  node : Node
  /-- The number of the node and of its names. -/
  inode : Nat := 0
  names : Nat := 1
  /-- What it leads to if it is a link. -/
  target : Option Node := none
  isOperand : Bool := false

/-! ## Names -/

/-- The room that a text takes; bytes that cannot be printed take none. -/
def roomOf (text : Raw) : Nat := text.countP Quoting.isPrintable

/-- A name with escapes of the kind that programs are written with. -/
def escapedName (quote : Option Char) (name : Raw) : Raw :=
  name.flatMap fun c =>
    if c == '\\' then "\\\\".toList
    else if quote == some c then ['\\', c]
    else if quote.isNone && c == ' ' then "\\ ".toList
    else if Quoting.isPrintable c then [c] else Quoting.escape c

/-- A name without control bytes. -/
def concealed (name : Raw) : Raw := name.map fun c => if Quoting.isPrintable c then c else '?'

/-- A name between single quotes, with quotes in it put between others. -/
def singlyQuoted (name : Raw) : Raw :=
  '\'' :: name.flatMap (fun c => if c == '\'' then "'\\''".toList else [c]) ++ ['\'']

/-- A name as it is written. -/
def ListTask.written (t : ListTask) (name : Raw) : Raw :=
  let shown := if t.conceals then concealed name else name
  match t.style with
  | .literal => shown
  | .whereNeeded =>
    if Quoting.needsQuotes (name.map fun c => if Quoting.isPrintable c then c else 'x') then
      singlyQuoted shown
    else shown
  | .always => singlyQuoted shown
  | .whereNeededEscaped => Quoting.whereNeeded name
  | .alwaysEscaped => Quoting.always name
  | .doubled => '"' :: escapedName (some '"') name ++ ['"']
  | .escaped => escapedName none name
  | .worded => Quoting.word name

/-- The mark behind the name of a file. -/
def Marking.of (m : Marking) (n : Node) : Raw :=
  let isRunnable := n.mode &&& 0o111 ≠ 0
  match m, n.file with
  | .never, _ => []
  | _, .directory _ _ => ['/']
  | .kinds, .link _ | .all, .link _ => ['@']
  | .all, .regular _ | .all, .program _ => if isRunnable then ['*'] else []
  | _, _ => []

/-- The size of a file. -/
def sizeOfNode (n : Node) : Nat :=
  match n.file with
  | .regular content => content.length
  | .directory _ _ => 4096
  | .link target => target.length
  | _ => 0

/-- The blocks that a file takes up. -/
def blocksOf (n : Node) : Nat :=
  match n.file with
  | .regular content => (content.length + 4095) / 4096 * 4
  | .directory _ _ => 4
  | _ => 0

/-! ## Order -/

/-- The suffix of a name, from its last point on. -/
def suffixOf (name : Raw) : Raw :=
  if name.contains '.' then '.' :: (name.reverse.takeWhile (· != '.')).reverse else []

/-- The order of two files in a list. -/
def ListTask.compare (t : ListTask) (a b : Listing) : Ordering :=
  let byName := Raw.compare a.name b.name
  let kind := match t.order with
    | .size => Ord.compare (sizeOfNode b.node) (sizeOfNode a.node)
    | .suffix => Raw.compare (suffixOf a.name) (suffixOf b.name)
    | .version => Versions.compareNames a.name b.name
    | .width => Ord.compare (roomOf (t.written a.name)) (roomOf (t.written b.name))
    | _ => .eq
  let plain := kind.then byName
  let leads (l : Listing) : Bool := isFolder l.node || (l.target.map isFolder).getD false
  let first := if t.directoriesFirst then
      (match leads a, leads b with
        | true, false => Ordering.lt
        | false, true => .gt
        | _, _ => .eq)
    else .eq
  first.then (if t.reversed then plain.swap else plain)

/-- Files in order. -/
def ListTask.sorted (t : ListTask) (ls : List Listing) : List Listing :=
  if t.order == .unsorted then (if t.reversed then ls.reverse else ls)
  else ls.mergeSort fun a b => t.compare a b != .gt

/-! ## Layouts -/

/-- Blanks and tabs from one column to another, in so many steps. -/
def indentation (tab : Nat) : Nat → Nat → Nat → Raw
  | 0, _, _ => []
  | steps + 1, from', goal =>
    if goal ≤ from' then []
    else if tab ≠ 0 && (from' + 1) / tab < goal / tab then
      '\t' :: indentation tab steps (from' + tab - from' % tab) goal
    else ' ' :: indentation tab steps (from' + 1) goal

/-- The widths of columns for so many columns. -/
def columnWidths (down : Bool) (columns : Nat) (lengths : List Nat) : List Nat :=
  let rows := (lengths.length + columns - 1) / columns
  let columnOf (k : Nat) : Nat := if down then k / rows else k % columns
  (List.range columns).map fun c =>
    (lengths.zipIdx.filter fun l => columnOf l.2 == c).foldl
      (fun w l => max w (l.1 + if c + 1 = columns then 0 else 2)) 3

/-- The most columns in which texts of some lengths fit a width. -/
def bestColumns (down : Bool) (width : Nat) (lengths : List Nat) : Nat :=
  let most := max 1 (min lengths.length (width / 3))
  let fits (columns : Nat) : Bool :=
    decide ((columnWidths down columns lengths).foldl (· + ·) 0 < width)
  (((List.range most).map (· + 1)).filter fits).getLast?.getD 1

/-- Texts in columns. -/
def inColumns (t : ListTask) (down : Bool) (texts : List Raw) : Raw :=
  let lengths := texts.map roomOf
  let columns := bestColumns down t.width lengths
  let widths := columnWidths down columns lengths
  let rows := (texts.length + columns - 1) / columns
  let row (r : Nat) : List (Raw × Nat) :=
    (List.range columns).filterMap fun c =>
      (texts[if down then c * rows + r else r * columns + c]?).map fun text =>
        (text, (widths.take c).foldl (· + ·) 0)
  let line (cells : List (Raw × Nat)) : Raw :=
    (cells.foldl
      (fun (state : Raw × Nat) cell =>
        let gap := indentation t.tab (cell.2 + 1) state.2 cell.2
        (state.1 ++ gap ++ cell.1, cell.2 + roomOf cell.1)) ([], 0)).1
  (List.range rows).flatMap fun r => line (row r) ++ [t.ending]

/-- Texts with commas between them. -/
def withCommas (t : ListTask) (texts : List Raw) : Raw :=
  let step (state : Raw × Nat) (text : Raw) : Raw × Nat :=
    if state.1.isEmpty then (text, roomOf text)
    else if t.width = 0 || state.2 + roomOf text + 2 < t.width then
      (state.1 ++ ", ".toList ++ text, state.2 + 2 + roomOf text)
    else (state.1 ++ [',', t.ending] ++ text, roomOf text)
  (texts.foldl step ([], 0)).1 ++ [t.ending]

/-- The letter for the kind of a file. -/
def kindLetter (n : Node) : Char :=
  match n.file with
  | .directory _ _ => 'd'
  | .link _ => 'l'
  | .device _ => 'c'
  | _ => '-'

/-- Text brought to a width with blanks in front. -/
def rightAligned (width : Nat) (r : Raw) : Raw := List.replicate (width - r.length) ' ' ++ r

/-- What is known of files, one to a line. -/
def longLines (t : ListTask) (ls : List Listing) : List Raw :=
  let owner (n : Node) : Raw := (if n.foreign then (if t.numeric then "0" else "root")
    else (if t.numeric then "1000" else "user")).toList
  let widest (f : Listing → Raw) : Nat := (ls.map fun l => (f l).length).foldl max 0
  let count (l : Listing) : Raw := Numeral.ofNat l.names
  let size (l : Listing) : Raw := Numeral.ofNat (sizeOfNode l.node)
  ls.map fun l =>
    let target := match l.node.file with
      | .link text => " -> ".toList ++ t.written text ++
          (l.target.map t.marking.of).getD []
      | _ => t.marking.of l.node
    (if t.numbers then Numeral.ofNat l.inode ++ [' '] else []) ++
      (if t.sizes then Number.padded 0 (blocksOf l.node) ++ [' '] else []) ++
      kindLetter l.node :: Mode.letters l.node.mode ++ ' ' :: rightAligned (widest count) (count l) ++
      (if t.showsOwner then ' ' :: owner l.node else []) ++
      (if t.showsGroup then ' ' :: owner l.node else []) ++
      ' ' :: rightAligned (widest size) (size l) ++ " Jan  1  1970 ".toList ++
      t.written l.name ++ target

/-- The text of a file in a short list. -/
def shortText (t : ListTask) (numberWidth sizeWidth : Nat) (l : Listing) : Raw :=
  (if t.numbers then Number.padded numberWidth l.inode ++ [' '] else []) ++
    (if t.sizes then Number.padded sizeWidth (blocksOf l.node) ++ [' '] else []) ++
    t.written l.name ++ t.marking.of l.node

/-- A list of files as it is written. -/
def ListTask.shown (t : ListTask) (ls : List Listing) : Raw :=
  let widest (f : Listing → Nat) : Nat :=
    (ls.map fun l => (Numeral.ofNat (f l)).length).foldl max 0
  let align := t.layout != .commas
  let numberWidth := if align then widest (·.inode) else 0
  let sizeWidth := if align then widest (blocksOf ·.node) else 0
  let texts := ls.map (shortText t numberWidth sizeWidth)
  let ended (lines : List Raw) : Raw := lines.flatMap (· ++ [t.ending])
  if ls.isEmpty then []
  else match t.layout with
    | .lines => ended texts
    | .long => ended (longLines t ls)
    | .commas => withCommas t texts
    | .down => if t.width = 0 then Raw.joined "  ".toList texts ++ [t.ending] else inColumns t true texts
    | .across => if t.width = 0 then Raw.joined "  ".toList texts ++ [t.ending] else inColumns t false texts

/-! ## Looking -/

/-- Does a name fit a pattern? A point in front is fitted only by a point. -/
def fitsName (pattern name : Raw) : Bool :=
  let isHidden := name.head? == some '.' && pattern.head? != some '.'
  let rec marked : Raw → Script.Pattern
    | '\\' :: c :: rest => (c, true) :: marked rest
    | c :: rest => (c, false) :: marked rest
    | [] => []
  !isHidden && Script.Pattern.fits (marked pattern) name

/-- Is a name shown? -/
def ListTask.shows (t : ListTask) (name : Raw) : Bool :=
  let isPoint := name == ['.'] || name == ['.', '.']
  (t.hidden || name.head? != some '.') && (t.points || !isPoint) &&
    !(t.omitted.any (fitsName · name)) &&
    (t.hidden || !(t.omittedIfHidden.any (fitsName · name)))

/-- The file behind a path as a list shows it. -/
def ListTask.look (t : ListTask) (isOperand : Bool) (name path : Raw) :
    Act (Except Errno Listing) := do
  let files ← ask Kernel.files
  let directory ← ask Kernel.directory
  let at' (follow : Bool) : Except Errno (Inode × Node) := do
    let i ← files.find directory path follow
    match files.nodeFor? directory i with
    | some n => return (i, n)
    | none => .error Errno.noEntry
  let followed := at' true
  let result := if t.followsAll || (isOperand && t.followsOperands) then followed
    else if isOperand && t.followsToDirectories then
      match followed with
      | .ok (i, n) => if isFolder n then .ok (i, n) else at' false
      | .error e => if e = Errno.noEntry then at' false else .error e
    else at' false
  return result.map fun (i, n) =>
    { name, node := n, inode := i, names := files.nameCount i, isOperand
      target := match n.file, followed with
        | .link _, .ok (_, m) => some m
        | _, _ => none }

/-- Complains, and gives the status. -/
def listFault (isOperand : Bool) (text : Raw) (e : Errno) : Act Int := do
  complainOf text e
  return if isOperand then 2 else 1

/-- The greater of two statuses. -/
def worse (a b : Int) : Int := if a < b then b else a

/-- Shows what is in directories, and in those in them to a depth. Blank lines stand between
directories that are titled. -/
def ListTask.showDirectories (t : ListTask) (titled : Bool) :
    Nat → Bool → List (Raw × Bool) → Act Int
  | 0, _, _ | _ + 1, _, [] => return 0
  | steps + 1, isFirst, (path, isOperand) :: rest => do
    match ← namesWithin path with
    | .error e =>
      let code ← listFault isOperand ("cannot open directory ".toList ++ Quoting.always path) e
      return worse code (← t.showDirectories titled steps isFirst rest)
    | .ok names =>
      if titled then
        emit ((if isFirst then [] else ['\n']) ++
          (if path.contains ':' && t.style == .whereNeededEscaped then Quoting.apart path
            else t.written path) ++ ":\n".toList)
      let mut found := []
      let mut code : Int := 0
      for name in ['.'] :: ['.', '.'] :: names do
        if t.shows name then
          match ← t.look false name (inDirectory path name) with
          | .ok l => found := l :: found
          | .error e =>
            if t.layout == .long then
              code ← listFault false ("cannot access ".toList ++ Quoting.always (inDirectory path name)) e
      let listed := t.sorted found.reverse
      if t.layout == .long || t.sizes then
        let blocks := (listed.map fun l => blocksOf l.node).foldl (· + ·) 0
        emit ("total ".toList ++ Numeral.ofNat blocks ++ [t.ending])
      emit (t.shown listed)
      let inner := if t.recursive then
          (listed.filter fun l => isFolder l.node && l.name != ['.'] && l.name != ['.', '.']).map
            fun l => (inDirectory path l.name, false)
        else []
      return worse code (← t.showDirectories titled steps false (inner ++ rest))

/-! ## The command -/

/-- The options of `ls`. -/
def lsOptions : OptionTable where
  letters := "abcdfghiklmnopqrstuvw:xABCDFGHI:LNQRST:UXZ1"
  long := [("all", .nothing, "a"), ("escape", .nothing, "b"), ("directory", .nothing, "d"),
    ("dired", .nothing, "D"), ("full-time", .nothing, "l"), ("group-directories-first", .nothing, "first"),
    ("human-readable", .nothing, "h"), ("inode", .nothing, "i"), ("kibibytes", .nothing, "k"),
    ("numeric-uid-gid", .nothing, "n"), ("no-group", .nothing, "G"),
    ("hide-control-chars", .nothing, "q"), ("reverse", .nothing, "r"), ("size", .nothing, "s"),
    ("width", .value, "w"), ("almost-all", .nothing, "A"), ("ignore-backups", .nothing, "B"),
    ("classify", .perhaps, "classify"), ("file-type", .nothing, "file-type"),
    ("si", .nothing, "h"), ("dereference-command-line", .nothing, "H"),
    ("dereference-command-line-symlink-to-dir", .nothing, "to-dir"), ("hide", .value, "hide"),
    ("ignore", .value, "I"), ("indicator-style", .value, "indicator"),
    ("dereference", .nothing, "L"), ("literal", .nothing, "N"), ("quote-name", .nothing, "Q"),
    ("quoting-style", .value, "quoting"), ("recursive", .nothing, "R"), ("format", .value, "format"),
    ("show-control-chars", .nothing, "show"), ("sort", .value, "sort"), ("tabsize", .value, "T"),
    ("time", .value, "time"), ("time-style", .value, "time-style"), ("color", .perhaps, "color"),
    ("hyperlink", .perhaps, "hyperlink"), ("block-size", .value, "block"), ("context", .nothing, "Z"),
    ("author", .nothing, "author"), ("zero", .nothing, "zero")]

/-- Reads an option of `ls`. -/
def readListOption (t : ListTask) (o : Given) : Act ListTask := do
  match o.key with
  | "a" => return { t with hidden := true, points := true }
  | "A" => return { t with hidden := true, points := false }
  | "b" => return { t with style := .escaped }
  | "B" => return { t with omitted := t.omitted ++ ["*~".toList, ".*~".toList] }
  | "C" => return { t with layout := .down }
  | "d" => return { t with plainDirectories := true }
  | "f" => return { t with order := .unsorted, hidden := true, points := true
                           layout := if t.layout == .long then .lines else t.layout }
  | "F" => return { t with marking := .all }
  | "classify" =>
    let k ← if o.valued then
        choose "--classify" [["always", "yes", "force"], ["never", "no", "none"],
          ["auto", "tty", "if-tty"]] o.value
      else pure 0
    return if k = 0 then { t with marking := .all } else t
  | "file-type" => return { t with marking := .kinds }
  | "first" => return { t with directoriesFirst := true }
  | "g" => return { t with layout := .long, showsOwner := false }
  | "G" => return { t with showsGroup := false }
  | "H" => return { t with followsOperands := true, followsAll := false }
  | "hide" => return { t with omittedIfHidden := t.omittedIfHidden ++ [o.value] }
  | "i" => return { t with numbers := true }
  | "I" => return { t with omitted := t.omitted ++ [o.value] }
  | "indicator" =>
    let k ← choose "--indicator-style" [["none"], ["slash"], ["file-type"], ["classify"]] o.value
    return { t with marking := [Marking.never, .directories, .kinds, .all].getD k .never }
  | "l" => return { t with layout := .long }
  | "L" => return { t with followsAll := true }
  | "m" => return { t with layout := .commas }
  | "n" => return { t with layout := .long, numeric := true }
  | "N" => return { t with style := .literal }
  | "o" => return { t with layout := .long, showsGroup := false }
  | "p" => return { t with marking := .directories }
  | "q" => return { t with conceals := true }
  | "Q" => return { t with style := .doubled }
  | "quoting" =>
    let k ← choose "--quoting-style" [["literal"], ["shell"], ["shell-always"], ["shell-escape"],
      ["shell-escape-always"], ["c"], ["c-maybe"], ["escape"], ["locale"], ["clocale"]] o.value
    return { t with style := [NameStyle.literal, .whereNeeded, .always, .whereNeededEscaped,
      .alwaysEscaped, .doubled, .doubled, .escaped, .worded, .doubled].getD k .literal }
  | "r" => return { t with reversed := true }
  | "R" => return { t with recursive := true }
  | "s" => return { t with sizes := true }
  | "S" => return { t with order := .size }
  | "show" => return { t with conceals := false }
  | "sort" =>
    let k ← choose "--sort" [["none"], ["time"], ["size"], ["extension"], ["version"], ["width"]]
      o.value
    return { t with order :=
      [ListOrder.unsorted, .name, .size, .suffix, .version, .width].getD k .name }
  | "t" => return { t with order := .name }
  | "T" =>
    match Number.natural? o.value with
    | some n => return { t with tab := n }
    | none => fail 2 ("invalid tab size: ".toList ++ Quoting.word o.value)
  | "U" => return { t with order := .unsorted }
  | "v" => return { t with order := .version }
  | "w" =>
    match Number.natural? o.value with
    | some n => return { t with width := n }
    | none => fail 2 ("invalid line width: ".toList ++ Quoting.word o.value)
  | "x" => return { t with layout := .across }
  | "X" => return { t with order := .suffix }
  | "1" => return if t.layout == .long then t else { t with layout := .lines }
  | "color" =>
    if o.valued then
      let _ ← choose "--color" [["always", "yes", "force"], ["never", "no", "none"],
        ["auto", "tty", "if-tty"]] o.value
    return t
  | "format" =>
    let k ← choose "--format" [["verbose", "long"], ["commas"], ["horizontal", "across"],
      ["vertical"], ["single-column"]] o.value
    return { t with layout := [ListLayout.long, .commas, .across, .down, .lines].getD k .lines }
  | "time" =>
    let _ ← choose "--time" [["atime", "access", "use"], ["ctime", "status"],
      ["mtime", "modification"], ["birth", "creation"]] o.value
    return t
  | "zero" => return { t with ending := Char.ofNat 0, style := .literal
                              layout := if t.layout == .long then .long else .lines }
  | _ => return t

/-- Lists files and what is in directories. -/
def ls : Utility where
  failure := 2
  main task := do
    let t ← (lsOptions.read task.args).options.foldlM readListOption {}
    let line ← options lsOptions 2 task.args
    let followsLinks := !t.plainDirectories && t.marking != .all && t.layout != .long
    let t := { t with followsToDirectories := followsLinks || line.has "to-dir" }
    let operands := if line.operands.isEmpty then [['.']] else line.operands
    let mut code : Int := 0
    let mut found := []
    for path in operands do
      match ← t.look true path path with
      | .ok l => found := l :: found
      | .error e =>
        code := worse code (← listFault true ("cannot access ".toList ++ Quoting.always path) e)
    let listed := t.sorted found.reverse
    let isInside (l : Listing) : Bool := isFolder l.node && !t.plainDirectories
    let files := listed.filter fun l => !isInside l
    let directories := (listed.filter isInside).map fun l => (l.name, true)
    emit (t.shown files)
    unless files.isEmpty || directories.isEmpty do emit ['\n']
    let titled := t.recursive || !(files.isEmpty && operands.length ≤ 1)
    return worse code (← t.showDirectories titled Kernel.endlessly true directories)

end PipeShell.Machine.Utility
