import PipeShell.Machine.Utility.Transfer

/-!
# Links

`ln` gives files more names or makes symbolic links, `link` gives one name, and `readlink` and
`realpath` tell where links lead.
-/

set_option autoImplicit false

namespace PipeShell.Machine.Utility

open Act

/-! ## `ln` -/

/-- What `ln` is told. -/
structure LinkTask where
  soft : Bool := false
  force : Bool := false
  asks : Bool := false
  verbose : Bool := false
  /-- Are links to files followed? -/
  logical : Bool := false
  /-- Is a link to a directory in the place of the target left as it is? -/
  keepsTarget : Bool := false
  relative : Bool := false
  directories : Bool := false
  keeping : Keeping := .never
  suffix : Raw := ['~']

/-- The way from a directory to a place, both given by their absolute names. -/
def wayFrom (directory place : List Raw) : Raw :=
  let rec go : List Raw → List Raw → List Raw
    | a :: as, b :: bs =>
      if a == b then go as bs else ((a :: as).map fun _ => ['.', '.']) ++ (b :: bs)
    | as, bs => (as.map fun _ => ['.', '.']) ++ bs
  let names := go directory place
  if names.isEmpty then ['.'] else Raw.joined ['/'] names

/-- The absolute path of a place where all but the last name must be there. -/
def placeOf (path : Raw) : Act (Except Errno Raw) := do
  let files ← ask Kernel.files
  let directory ← ask Kernel.directory
  match files.canonicalize directory path with
  | .ok p => return .ok p
  | .error e =>
    match files.resolve directory path .followed with
    | .ok (.absent d name _) =>
      match files.pathOf d with
      | some front => return .ok (Path.join front name)
      | none => return .error e
    | .ok (.node _ _) => return .error Errno.notDirectory
    | .error e => return .error e

/-- The names that lead to a place without links, from names that do so and names that go on from
there. Nothing needs to be there; so many links are followed. -/
def supposed (files : FileSystem) (links : Nat) (known : List Raw) (names : List Raw) : List Raw :=
  match names with
  | [] => known
  | name :: rest =>
    if name = ['.'] then supposed files links known rest
    else if name = ['.', '.'] then supposed files links known.dropLast rest
    else
      let longer := known ++ [name]
      let found := (files.find FileSystem.root (FileSystem.absolute longer) false).toOption
      match found.bind files.file? with
      | some (.link target) =>
        match links with
        | 0 => supposed files 0 longer rest
        | links + 1 =>
          supposed files links (if Path.isAbsolute target then [] else known)
            (FileSystem.names target ++ rest)
      | _ => supposed files links longer rest
termination_by (links, names.length)

/-- The absolute path of a place of which nothing needs to be there. -/
def supposedPlace (path : Raw) : Act Raw := do
  let files ← ask Kernel.files
  let directory ← ask Kernel.directory
  let here := (files.pathOf directory).getD []
  let start := if Path.isAbsolute path then [] else FileSystem.names here
  return FileSystem.absolute (supposed files FileSystem.maxLinks start (FileSystem.names path))

/-- The text of a link at a target that leads to a source from there. -/
def relativeText (source target : Raw) : Act Raw := do
  let place ← supposedPlace source
  let holder ← supposedPlace (directoryPart target)
  return wayFrom (FileSystem.names holder) (FileSystem.names place)

/-- Complains that a link cannot be made. -/
def LinkTask.complainOf (t : LinkTask) (source target : Raw) (e : Errno) : Act Unit :=
  let front := if t.soft then "failed to create symbolic link " else "failed to create hard link "
  let mark := if t.soft then " -> ".toList ++ Quoting.always source
    else " => ".toList ++ Quoting.always source
  let showsSource := if t.soft then source.isEmpty || e = Errno.nameTooLong
    else e ≠ Errno.alreadyExists && e ≠ Errno.noSpace
  Act.complainOf (front.toList ++ Quoting.always target ++ (if showsSource then mark else [])) e

/-- Do two paths to one file mean the same name of it? -/
def isOneName (source target : Raw) : Act Bool := do
  match ← nodeAt target false with
  | none => return false
  | some i =>
    if (← ask Kernel.files).nameCount i = 1 then return true
    let from' ← nodeAt (directoryPart source) true
    let goal ← nodeAt (directoryPart target) true
    return lastName source == lastName target && from' == goal

/-- Makes a link in place of what is there, if that may be replaced. -/
def LinkTask.make (t : LinkTask) (source target : Raw) (past : Past) : Act (Bool × Past) := do
  let mut sourceNode : Option Node := none
  if !t.soft then
    match ← ask (Kernel.status source t.logical) with
    | .error e => return ← refusedOf ("failed to access ".toList ++ Quoting.always source) e
    | .ok n =>
      sourceNode := some n
      if isFolder n && !t.directories then
        return ← refused (Quoting.apart source ++ ": hard link not allowed for directory".toList)
  let text ← if t.soft && t.relative then relativeText source target else pure source
  let make : Act (Except Errno Unit) :=
    if t.soft then makeLink text target else addName source target t.logical
  match ← make with
  | .ok () => told text none
  | .error e => do
    if e ≠ Errno.alreadyExists || !(t.force || t.asks || t.keeping != .never) then
      t.complainOf text target e
      return (false, {})
    match ← linkStatus target with
    | .error e =>
      t.complainOf text target e
      return (false, {})
    | .ok there => do
      if isFolder there then
        return ← refused (Quoting.apart target ++ ": cannot overwrite directory".toList)
      if past.targets.contains target then return ← refused (justMade source target)
      let isSame := (← nodeAt source (t.soft || t.logical)) == (← nodeAt target false)
      let isLost := isSame && (if t.soft then t.force && t.keeping == .never
        else t.force || t.keeping != .never)
      if isLost then
        if ← isOneName source target then return ← refused (sameFile source target)
      if t.asks then
        unless ← confirm ("replace ".toList ++ Quoting.always target) do return (true, {})
      let mut kept := none
      if t.keeping != .never then
        let name ← keptName t.keeping t.suffix target
        match ← ask (Kernel.rename target name) with
        | .ok () => kept := some name
        | .error e => return ← refusedOf ("cannot backup ".toList ++ Quoting.always target) e
      else if isSame && !t.soft then return ← told text none
      else
        match ← ask (Kernel.unlink target) with
        | .ok () => pure ()
        | .error e =>
          t.complainOf text target e
          return (false, {})
      match ← make with
      | .ok () => told text kept
      | .error e =>
        t.complainOf text target e
        return (false, {})
where
  /-- Tells of a link that was made. -/
  told (text : Raw) (kept : Option Raw) : Act (Bool × Past) := do
    if t.verbose then
      let front := match kept with
        | some name => Quoting.always name ++ " ~ ".toList
        | none => []
      emitLine (front ++ Quoting.always target ++ (if t.soft then " -> " else " => ").toList ++
        Quoting.always text)
    return (true, { targets := [target] })

/-- The options of `ln`. -/
def lnOptions : OptionTable where
  letters := "bdfinrst:vFLPS:T"
  long := [("backup", .perhaps, "b"), ("directory", .nothing, "d"),
    ("no-dereference", .nothing, "n"), ("no-target-directory", .nothing, "T"),
    ("force", .nothing, "f"), ("interactive", .nothing, "i"), ("suffix", .value, "S"),
    ("target-directory", .value, "t"), ("logical", .nothing, "L"), ("physical", .nothing, "P"),
    ("relative", .nothing, "r"), ("symbolic", .nothing, "s"), ("verbose", .nothing, "v")]

/-- Makes links. -/
def ln : Utility where
  main task := do
    let line ← options lnOptions 1 task.args
    if 1 < (line.values "t").length then fail 1 "multiple target directories specified".toList
    let t : LinkTask :=
      { soft := line.has "s", force := line.last? ["f", "i"] == some "f"
        asks := line.last? ["f", "i"] == some "i", verbose := line.has "v"
        logical := line.last? ["L", "P"] == some "L", keepsTarget := line.has "n"
        relative := line.has "r", directories := line.has "d" || line.has "F"
        keeping := ← readKeeping line, suffix := (line.value? "S").getD ['~'] }
    if line.operands.isEmpty then
      complain "missing file operand".toList
      misuse 1
    if t.relative && !t.soft then fail 1 "cannot do --relative without --symbolic".toList
    if line.has "T" then
      if line.has "t" then
        fail 1 "cannot combine --target-directory and --no-target-directory".toList
      match line.operands with
      | [source, target] => return ← Transfer.each [(source, target)] t.make
      | [source] => do
        complain ("missing destination file operand after ".toList ++ Quoting.always source)
        misuse 1
      | _ => do
        complain ("extra operand ".toList ++ Quoting.always ((line.operands[2]?).getD []))
        misuse 1
    let inside (directory : Raw) (sources : List Raw) : Act Int :=
      Transfer.each (sources.map fun s => (s, inDirectory directory (lastName s))) t.make
    match line.value? "t", line.operands with
    | some directory, sources => do
      match ← status directory with
      | .error e => failOf 1 ("failed to access ".toList ++ Quoting.always directory) e
      | .ok n =>
        unless isFolder n do
          fail 1 ("target ".toList ++ Quoting.always directory ++ " is not a directory".toList)
        inside directory sources
    | none, [source] => inside ['.'] [source]
    | none, operands => do
      let target := (operands.getLast?).getD []
      let sources := operands.dropLast
      let isKept ← if t.keepsTarget then isLinkAt target else pure false
      if (← leadsToFolder target) && !isKept then inside target sources
      else
        if 1 < sources.length then demandDirectory "target " target
        Transfer.each (sources.map fun s => (s, target)) t.make

/-- Gives a file one more name. -/
def link : Utility where
  main t := do
    let line ← options {} 1 t.args
    match line.operands with
    | [] => missingOperand
    | [source] => do
      complain ("missing operand after ".toList ++ Quoting.word source)
      misuse 1
    | [source, target] => do
      match ← addName source target false with
      | .ok () => return 0
      | .error e => failOf 1 ("cannot create link ".toList ++ Quoting.always target ++
          " to ".toList ++ Quoting.always source) e
    | _ :: _ :: extra :: _ => extraOperand extra

/-! ## Where links lead -/

/-- How much of a path must be there. -/
inductive Demand where
  | all
  | allButLast
  | nothing
  deriving DecidableEq, Repr

/-- The absolute path without links that a path leads to. -/
def resolved (demand : Demand) (path : Raw) : Act (Except Errno Raw) := do
  match demand with
  | .all =>
    let files ← ask Kernel.files
    let directory ← ask Kernel.directory
    return files.canonicalize directory path
  | .allButLast => placeOf path
  | .nothing => if path.isEmpty then return .error Errno.noEntry else return .ok (← supposedPlace path)

/-- The options of `readlink`. -/
def readlinkOptions : OptionTable where
  letters := "efmnqsvz"
  long := [("canonicalize", .nothing, "f"), ("canonicalize-existing", .nothing, "e"),
    ("canonicalize-missing", .nothing, "m"), ("no-newline", .nothing, "n"),
    ("quiet", .nothing, "q"), ("silent", .nothing, "q"), ("verbose", .nothing, "v"),
    ("zero", .nothing, "z")]

/-- The demand that options mean, the last of them. -/
def demandOf (line : CommandLine) (usual : Option Demand) : Option Demand :=
  match line.last? ["e", "f", "m"] with
  | some "e" => some .all
  | some "f" => some .allButLast
  | some _ => some .nothing
  | none => usual

/-- Shows where links lead. -/
def readlink : Utility where
  main t := do
    let line ← options readlinkOptions 1 t.args
    if line.operands.isEmpty then missingOperand
    let several := 1 < line.operands.length
    if several && line.has "n" then
      complain "ignoring --no-newline with multiple arguments".toList
    let ending : Raw := if line.has "n" && !several then []
      else if line.has "z" then [Char.ofNat 0] else ['\n']
    let mut code := 0
    for path in line.operands do
      let result ← match demandOf line none with
        | some demand => resolved demand path
        | none => do
          match ← linkStatus path with
          | .ok { file := .link text, .. } => pure (.ok text)
          | .ok _ => pure (.error Errno.invalidArgument)
          | .error e => pure (.error e)
      match result with
      | .ok text => emit (text ++ ending)
      | .error e =>
        if line.has "v" then complainOf (Quoting.apart path) e
        code := 1
    return code

/-- The options of `realpath`. -/
def realpathOptions : OptionTable where
  letters := "eLmPqsz"
  long := [("canonicalize-existing", .nothing, "e"), ("canonicalize-missing", .nothing, "m"),
    ("relative-to", .value, "to"), ("relative-base", .value, "base"), ("quiet", .nothing, "q"),
    ("strip", .nothing, "s"), ("no-symlinks", .nothing, "s"), ("zero", .nothing, "z"),
    ("logical", .nothing, "L"), ("physical", .nothing, "P")]

/-- The absolute path with its points carried out but no links followed. -/
def plainPlace (path : Raw) : Act (Except Errno Raw) := do
  if path.isEmpty then return .error Errno.noEntry
  let here := (← ask Kernel.currentPath).toOption.getD []
  let step (known : List Raw) (name : Raw) : List Raw :=
    if name == ['.'] then known
    else if name == ['.', '.'] then known.dropLast else known ++ [name]
  let start := if Path.isAbsolute path then [] else FileSystem.names here
  let place := FileSystem.absolute ((FileSystem.names path).foldl step start)
  match ← status path with
  | .error e =>
    if path.getLast? == some '/' && e = Errno.notDirectory then return .error e else return .ok place
  | .ok _ => return .ok place

/-- Shows absolute paths without links. -/
def realpath : Utility where
  main t := do
    let line ← options realpathOptions 1 t.args
    if line.operands.isEmpty then missingOperand
    let demand := (demandOf line (some .allButLast)).getD .allButLast
    let resolve (path : Raw) : Act (Except Errno Raw) :=
      if line.has "s" then plainPlace path else resolved demand path
    let base ← match line.value? "to" with
      | none => pure none
      | some path => do
        match ← resolve path with
        | .ok p => pure (some p)
        | .error e => failOf 1 (Quoting.apart path) e
    let mut code := 0
    for path in line.operands do
      match ← resolve path with
      | .ok p =>
        let shown := match base with
          | some b => wayFrom (FileSystem.names b) (FileSystem.names p)
          | none => p
        emit (shown ++ (if line.has "z" then [Char.ofNat 0] else ['\n']))
      | .error e =>
        unless line.has "q" do
          complainOf (if path.isEmpty then "''".toList else Quoting.apart path) e
        code := 1
    return code

end PipeShell.Machine.Utility
