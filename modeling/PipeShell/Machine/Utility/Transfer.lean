import PipeShell.Machine.Utility.FileWork

/-!
# Moving and copying files

`mv` gives files other names and `cp` makes copies of them. Several files go to a directory, each
under its last name. Nothing is put in the place of a directory unless it is a directory, and no
directory goes to a place within itself.
-/

set_option autoImplicit false

namespace PipeShell.Machine.Utility

open Act

/-! ## What both share -/

/-- What becomes of a file that would be replaced. -/
inductive Replacing where
  | allowed
  | asked
  | skipped
  deriving DecidableEq, Repr

/-- What `mv` and `cp` are told. -/
structure Transfer where
  replacing : Replacing := .allowed
  verbose : Bool := false
  keeping : Keeping := .never
  suffix : Raw := ['~']
  /-- The directory that all files go to, if it is given by an option. -/
  directory : Option Raw := none
  /-- Is the last operand never a directory to put files in? -/
  isExact : Bool := false
  /-- Are slashes at the end of sources cut off? -/
  strips : Bool := false
  /-- For copies: is the way on to directories taken, are links followed, and what else. -/
  recursive : Bool := false
  follows : Bool := true
  followsOperands : Bool := true
  force : Bool := false
  removes : Bool := false
  linksHard : Bool := false
  linksSoft : Bool := false
  keepsMode : Bool := false
  withParents : Bool := false

/-- Quoted names with an arrow between them. -/
def arrow (source target : Raw) : Raw :=
  Quoting.always source ++ " -> ".toList ++ Quoting.always target

/-- The remark on a file that was kept. -/
def keptRemark (kept : Option Raw) : Raw :=
  match kept with
  | some name => " (backup: ".toList ++ Quoting.always name ++ ")".toList
  | none => []

/-- Looks at the operands: the sources, and a target if it is given among them. -/
def Transfer.split (t : Transfer) (operands : List Raw) : Act (List Raw × Option Raw) := do
  let least := if t.directory.isSome then 1 else 2
  if operands.length < least then
    match operands with
    | [] => complain "missing file operand".toList
    | first :: _ =>
      complain ("missing destination file operand after ".toList ++ Quoting.always first)
    misuse 1
  if t.isExact then
    if t.directory.isSome then
      fail 1 "cannot combine --target-directory (-t) and --no-target-directory (-T)".toList
    if let extra :: _ := operands.drop 2 then
      complain ("extra operand ".toList ++ Quoting.always extra)
      misuse 1
  if t.directory.isSome then return (operands, none)
  else return (operands.dropLast, operands.getLast?)

/-- Demands that an operand is a directory. -/
def demandDirectory (what : String) (path : Raw) : Act Unit := do
  match ← status path with
  | .error e => failOf 1 (what.toList ++ Quoting.always path) e
  | .ok n =>
    unless isFolder n do failOf 1 (what.toList ++ Quoting.always path) Errno.notDirectory

/-- What has been done: the targets that were made, and the operands that were looked at. -/
structure Past where
  targets : List Raw := []
  sources : List Raw := []

/-- What has been done at two times. -/
def Past.add (a b : Past) : Past :=
  { targets := a.targets ++ b.targets, sources := a.sources ++ b.sources }

/-- Works on all sources, and tells the status. The work is told a source, its target, and what was
done before; it tells whether it has succeeded, and what it has done. -/
def Transfer.each (sources : List (Raw × Raw)) (work : Raw → Raw → Past → Act (Bool × Past)) :
    Act Int := do
  let mut past : Past := {}
  let mut code := 0
  for (source, target) in sources do
    let (succeeded, more) ← work source target past
    past := more.add past
    unless succeeded do code := 1
  return code

/-- Complains and goes on without having made anything. -/
def refused (text : Raw) : Act (Bool × Past) := do
  complain text
  return (false, {})

/-- Complains with a reason and goes on without having made anything. -/
def refusedOf (text : Raw) (e : Errno) : Act (Bool × Past) := do
  complainOf text e
  return (false, {})

/-- Puts a file aside that is replaced, and gives the name that it is kept under. -/
def Transfer.setAside (t : Transfer) (target : Raw) : Act (Except Errno (Option Raw)) := do
  if t.keeping == .never then return .ok none
  let kept ← keptName t.keeping t.suffix target
  match ← ask (Kernel.rename target kept) with
  | .ok () => return .ok (some kept)
  | .error e => return .error e

/-- What is wrong with putting one file in the place of another, if anything is. -/
def mismatch (source target : Raw) (n there : Node) : Option Raw :=
  if isFolder n && !isFolder there then
    some ("cannot overwrite non-directory ".toList ++ Quoting.always target ++
      " with directory ".toList ++ Quoting.always source)
  else if !isFolder n && isFolder there then
    some ("cannot overwrite directory ".toList ++ Quoting.always target ++
      " with non-directory".toList)
  else none

/-- The complaint that two paths lead to one file. -/
def sameFile (source target : Raw) : Raw :=
  Quoting.always source ++ " and ".toList ++ Quoting.always target ++ " are the same file".toList

/-- The complaint that a file would be lost that was made just before. -/
def justMade (source target : Raw) : Raw :=
  "will not overwrite just-created ".toList ++ Quoting.always target ++ " with ".toList ++
    Quoting.always source

/-! ## `mv` -/

/-- The question whether a file may be replaced. -/
def replaceQuestion (target : Raw) (there : Node) : Raw :=
  let isLink := match there.file with
    | .link _ => true
    | _ => false
  if there.allows .toWrite || isLink then "overwrite ".toList ++ Quoting.always target
  else "replace ".toList ++ Quoting.always target ++ ", overriding mode ".toList ++
    Mode.octal there.mode ++ " (".toList ++ Mode.letters there.mode ++ ")".toList

/-- Failures for which only the target is to blame. -/
def blamesTarget (e : Errno) : Bool :=
  [Errno.alreadyExists, Errno.isDirectory, Errno.noSpace, Errno.notEmpty, Errno.textBusy].contains e

/-- Moves a file to a target. -/
def Transfer.move (t : Transfer) (source target : Raw) (past : Past) :
    Act (Bool × Past) := do
  match ← linkStatus source with
  | .error e => refusedOf ("cannot stat ".toList ++ Quoting.always source) e
  | .ok n => do
    let mut kept := none
    match ← linkStatus target with
    | .error e =>
      if e ≠ Errno.noEntry then
        return ← refusedOf ("cannot stat ".toList ++ Quoting.always target) e
    | .ok there =>
      if t.replacing != .skipped && (← nodeAt source false) == (← nodeAt target false) &&
          !(isFolder n && (← isBelow source target)) then
        return ← refused (sameFile source target)
      if t.replacing == .skipped then return (true, {})
      if t.replacing == .asked then
        unless ← confirm (replaceQuestion target there) do return (true, {})
      if let some fault := mismatch source target n there then return ← refused fault
      if past.targets.contains target && !isFolder there then
        return ← refused (justMade source target)
      match ← t.setAside target with
      | .ok name => kept := name
      | .error e => return ← refusedOf ("cannot backup ".toList ++ Quoting.always target) e
    match ← ask (Kernel.rename source target) with
    | .ok () =>
      if t.verbose then
        emitLine ("renamed ".toList ++ arrow source target ++ keptRemark kept)
      return (true, { targets := [target] })
    | .error e =>
      if e = Errno.invalidArgument then
        refused ("cannot move ".toList ++ Quoting.always source ++
          " to a subdirectory of itself, ".toList ++ Quoting.always target)
      else if blamesTarget e then
        refusedOf ("cannot overwrite ".toList ++ Quoting.always target) e
      else refusedOf ("cannot move ".toList ++ Quoting.always source ++ " to ".toList ++
        Quoting.always target) e
where
  /-- Is a target written as a place below the source? -/
  isBelow (source target : Raw) : Act Bool :=
    return (withoutSlashes source ++ ['/']).isPrefixOf target

/-- The options of `mv`. -/
def mvOptions : OptionTable where
  letters := "bfint:uvS:TZ"
  long := [("backup", .perhaps, "b"), ("context", .perhaps, "Z"), ("force", .nothing, "f"),
    ("interactive", .nothing, "i"), ("no-clobber", .nothing, "n"),
    ("no-target-directory", .nothing, "T"), ("strip-trailing-slashes", .nothing, "strip"),
    ("suffix", .value, "S"), ("target-directory", .value, "t"), ("update", .nothing, "u"),
    ("verbose", .nothing, "v")]

/-- What the options about replacing mean. -/
def replacingOf (line : CommandLine) : Replacing :=
  match line.last? ["f", "i", "n"] with
  | some "i" => .asked
  | some "n" => .skipped
  | _ => .allowed

/-- Gives files other names. -/
def mv : Utility where
  main task := do
    let line ← options mvOptions 1 task.args
    if 1 < (line.values "t").length then fail 1 "multiple target directories specified".toList
    let t : Transfer :=
      { replacing := replacingOf line, verbose := line.has "v", keeping := ← readKeeping line
        suffix := (line.value? "S").getD ['~'], directory := line.value? "t"
        isExact := line.has "T", strips := line.has "strip" }
    let agree : Act Unit := do
      if t.replacing == .skipped && t.keeping != .never then
        misused 1 "options --backup and --no-clobber are mutually exclusive"
    let (sources, last) ← t.split line.operands
    let sources := if t.strips then sources.map withoutSlashes else sources
    match t.directory, last with
    | some directory, _ =>
      demandDirectory "target directory " directory
      agree
      Transfer.each (sources.map fun s => (s, targetIn directory s)) t.move
    | none, none => return 0
    | none, some target =>
      let isQuick ← match sources with
        | [source] => do
          match ← renameFresh source target with
          | .ok () =>
            if t.verbose then emitLine ("renamed ".toList ++ arrow source target)
            pure true
          | .error _ => pure false
        | _ => pure false
      let isDirectory ← if isQuick || t.isExact then pure false else leadsToFolder target
      if 1 < sources.length then demandDirectory "target " target
      agree
      if isQuick then return 0
      if isDirectory then
        Transfer.each (sources.map fun s => (s, targetIn target s)) t.move
      else
        Transfer.each (sources.map fun s => (s, target)) t.move

/-! ## `cp` -/

/-- The path from a directory that is not absolute and is not the current one has no link to it. -/
def canLinkSoft (source target : Raw) : Bool :=
  Path.isAbsolute source || directoryPart target == ['.']

/-- Copies the content of a file to a slot. -/
def copyContent (slot target : Nat) (title : Raw) (source : Raw) : Act Bool := do
  let (text, fault) ← ({ slot } : Input).all
  match fault with
  | some e =>
    complainOf ("error reading ".toList ++ Quoting.always source) e
    return false
  | none =>
    match ← ask (Kernel.writeAll target text) with
    | .ok () => return true
    | .error e =>
      complainOf ("error writing ".toList ++ Quoting.always title) e
      return false

/-- Opens the target of a copy. The reason of a failure is missing if it was told already. -/
def Transfer.openTarget (t : Transfer) (target : Raw) (mode : Nat) (isNew : Bool) :
    Act (Except (Option Errno) Nat) := do
  let fresh : Kernel.Opening := { writes := true, creates := some mode, fresh := true }
  let result ← if isNew then ask (Kernel.openFile target fresh)
    else ask (Kernel.openFile target { writes := true, empties := true })
  match result with
  | .ok slot => return .ok slot
  | .error e =>
    if isNew || !t.force then return .error (some e)
    match ← ask (Kernel.unlink target) with
    | .error e =>
      complainOf ("cannot remove ".toList ++ Quoting.always target) e
      return .error none
    | .ok () =>
      if t.verbose then emitLine ("removed ".toList ++ Quoting.always target)
      return (← ask (Kernel.openFile target fresh)).mapError some

/-- Complains that the target of a copy cannot be made. -/
def complainOfTarget (target : Raw) (isNew : Bool) (e : Errno) : Act Unit := do
  let isLink ← isLinkAt target
  if isNew && e = Errno.alreadyExists && isLink then
    complain ("not writing through dangling symlink ".toList ++ Quoting.always target)
  else
    let isClosed := target.getLast? == some '/'
    let e := if e = Errno.isDirectory && isClosed then Errno.notDirectory else e
    complainOf ("cannot create regular file ".toList ++ Quoting.always target) e

/-- Copies a regular file. -/
def Transfer.copyRegular (t : Transfer) (source target : Raw) (n : Node) (isNew : Bool) :
    Act Bool := do
  match ← ask (Kernel.openFile source Kernel.Opening.reading) with
  | .error e =>
    complainOf ("cannot open ".toList ++ Quoting.always source ++ " for reading".toList) e
    return false
  | .ok slot => do
    let opened ← t.openTarget target (n.mode &&& 0o777) isNew
    let mut succeeded := false
    match opened with
    | .error none => pure ()
    | .error (some e) => complainOfTarget target isNew e
    | .ok out =>
      succeeded ← copyContent slot out target source
      let _ ← ask (Kernel.close out)
      if t.keepsMode then
        let _ ← ask (Kernel.changeMode target n.mode)
    let _ ← ask (Kernel.close slot)
    return succeeded

/-- Copies a file or a tree of files to a target, to a depth. The number is that of the first
directory that was made. -/
def Transfer.copy (t : Transfer) (several : Bool) (top : Raw × Raw) :
    Nat → Bool → Option Inode → Raw → Raw → Past → Act (Bool × Past)
  | 0, _, _, _, _, _ => return (true, {})
  | depth + 1, isOperand, first, source, target, past => do
    let follow := t.follows || (isOperand && t.followsOperands)
    match ← ask (Kernel.status source follow) with
    | .error e => refusedOf ("cannot stat ".toList ++ Quoting.always source) e
    | .ok n => do
      if isFolder n && !t.recursive then
        return ← refused ("-r not specified; omitting directory ".toList ++ Quoting.always source)
      if isOperand && several && past.sources.contains source then
        complain ("warning: source ".toList ++
          (if isFolder n then "directory " else "file ").toList ++ Quoting.always source ++
          " specified more than once".toList)
        return (true, {})
      let seen : Past := if isOperand && several then { sources := [source] } else {}
      let made : Past := { seen with targets := [target] }
      let isRegular := match n.file with
        | .regular _ | .program _ => true
        | .device _ => !t.recursive
        | _ => false
      let takesLink := !isRegular || t.linksHard || t.linksSoft || t.keeping != .never || t.removes
      let there ← ask (Kernel.status target (!takesLink))
      let mut isNew := false
      let mut kept := none
      match there with
      | .error e =>
        if e = Errno.noEntry then isNew := true
        else return ← refusedOf ("cannot stat ".toList ++ Quoting.always target) e
      | .ok there =>
        if !(isFolder n) && (← nodeAt source follow) == (← nodeAt target follow) &&
            !(t.replacing == .skipped) && !t.removes && !(t.linksHard && t.force) then
          return ← refused (sameFile source target)
        if t.replacing == .skipped && !isFolder n then return (true, seen)
        if t.replacing == .asked && !isFolder n then
          let question := if there.allows .toWrite then "overwrite ".toList ++ Quoting.always target
            else (if t.force || t.removes then "replace " else "unwritable ").toList ++
              Quoting.always target ++
              (if t.force || t.removes then ", overriding mode ".toList else " (mode ".toList) ++
              Mode.octal there.mode ++
              (if t.force || t.removes then " (".toList else ", ".toList) ++
              Mode.letters there.mode ++
              (if t.force || t.removes then ")".toList else "); try anyway".toList)
          unless ← confirm question do return (true, seen)
        if let some fault := mismatch source target n there then return ← refused fault
        if past.targets.contains target && !isFolder there && several then
          return ← refused (justMade source target)
        if !isFolder n then
          match ← t.setAside target with
          | .ok name => kept := name
          | .error e => return ← refusedOf ("cannot backup ".toList ++ Quoting.always target) e
          if kept.isSome then isNew := true
          else if t.removes || (!isRegular && !t.follows) ||
              ((t.linksHard || t.linksSoft) && t.force) then
            match ← ask (Kernel.unlink target) with
            | .ok () => isNew := true
            | .error e => return ← refusedOf ("cannot remove ".toList ++ Quoting.always target) e
      if t.verbose && !isFolder n then emitLine (arrow source target ++ keptRemark kept)
      match n.file with
      | .directory _ _ => do
        let mode := n.mode &&& 0o7777
        let mut first := first
        if isNew then
          match ← ask (Kernel.makeDirectory target (mode ||| 0o700)) with
          | .error e =>
            return ← refusedOf ("cannot create directory ".toList ++ Quoting.always target) e
          | .ok () => pure ()
          if first.isNone then first := ← nodeAt target true
          if t.verbose then emitLine (arrow source target)
        let mut succeeded := true
        let mut done := made
        match ← namesWithin source with
        | .error e =>
          complainOf ("cannot access ".toList ++ Quoting.always source) e
          succeeded := false
        | .ok names =>
          for name in names do
            let inner := inDirectory source name
            if (← nodeAt inner false) == first && first.isSome then
              complain ("cannot copy a directory, ".toList ++ Quoting.always top.1 ++
                ", into itself, ".toList ++ Quoting.always top.2)
              succeeded := false
              break
            let (fine, more) ← t.copy several top depth false first inner
              (inDirectory target name) (done.add past)
            done := more.add done
            unless fine do succeeded := false
        if isNew then
          let mask ← ask Kernel.mask
          let _ ← ask (Kernel.changeMode target
            (if t.keepsMode then mode else mode &&& (0o7777 ^^^ mask)))
        return (succeeded, done)
      | file => do
        if t.linksSoft then
          if !canLinkSoft source target then
            return ← refused (Quoting.apart target ++
              ": can make relative symbolic links only in current directory".toList)
          match ← makeLink source target with
          | .ok () => return (true, made)
          | .error e => return ← refusedOf ("cannot create symbolic link ".toList ++
              Quoting.always target ++ " to ".toList ++ Quoting.always source) e
        if t.linksHard then
          match ← addName source target follow with
          | .ok () => return (true, made)
          | .error e => return ← refusedOf ("cannot create hard link ".toList ++
              Quoting.always target ++ " to ".toList ++ Quoting.always source) e
        match file with
        | .link text =>
          match ← makeLink text target with
          | .ok () => return (true, made)
          | .error e =>
            refusedOf ("cannot create symbolic link ".toList ++ Quoting.always target) e
        | _ =>
          let fine ← t.copyRegular source target n isNew
          return (fine, if fine then made else seen)

/-- The options of `cp`. -/
def cpOptions : OptionTable where
  letters := "abdfHilLnprst:uvxPRS:TZ"
  long := [("archive", .nothing, "a"), ("attributes-only", .nothing, "attributes"),
    ("backup", .perhaps, "b"), ("copy-contents", .nothing, "contents"),
    ("dereference", .nothing, "L"), ("force", .nothing, "f"), ("interactive", .nothing, "i"),
    ("link", .nothing, "l"), ("no-clobber", .nothing, "n"), ("no-dereference", .nothing, "P"),
    ("no-preserve", .value, "no-preserve"), ("no-target-directory", .nothing, "T"),
    ("one-file-system", .nothing, "x"), ("parents", .nothing, "parents"),
    ("path", .nothing, "parents"), ("preserve", .perhaps, "p"), ("recursive", .nothing, "R"),
    ("remove-destination", .nothing, "remove"), ("sparse", .value, "sparse"),
    ("reflink", .perhaps, "reflink"), ("strip-trailing-slashes", .nothing, "strip"),
    ("suffix", .value, "S"), ("symbolic-link", .nothing, "s"), ("target-directory", .value, "t"),
    ("update", .nothing, "u"), ("verbose", .nothing, "v")]

/-- Makes the directories on the way to a source below a target directory. -/
def makeParents (t : Transfer) (directory : Raw) : List Raw → Raw → Act Bool
  | [], _ => return true
  | name :: rest, front => do
    let path := inDirectory front name
    let target := inDirectory directory path
    match ← status target with
    | .ok _ => makeParents t directory rest path
    | .error _ =>
      match ← ask (Kernel.makeDirectory target 0o777) with
      | .ok () =>
        if t.verbose then emitLine (path ++ " -> ".toList ++ target)
        makeParents t directory rest path
      | .error e =>
        complainOf ("cannot make directory ".toList ++ Quoting.always target) e
        return false

/-- Makes copies of files. -/
def cp : Utility where
  main task := do
    let line ← options cpOptions 1 task.args
    if let some value := line.value? "sparse" then
      let _ ← choose "--sparse" [["never"], ["auto"], ["always"]] value
    if 1 < (line.values "t").length then fail 1 "multiple target directories specified".toList
    let recursive := ["a", "r", "R"].any line.has
    let links := line.last? ["a", "d", "H", "L", "P"]
    let follows := match links with
      | some "L" => true
      | some _ => false
      | none => !recursive || line.has "l"
    let t : Transfer :=
      { replacing := if line.has "n" && line.last? ["i", "n"] == some "n" then .skipped
          else if line.has "i" then .asked else .allowed
        verbose := line.has "v", keeping := ← readKeeping line
        suffix := (line.value? "S").getD ['~'], directory := line.value? "t"
        isExact := line.has "T", strips := line.has "strip", recursive, follows
        followsOperands := follows || links == some "H"
        force := line.has "f", removes := line.has "remove", linksHard := line.has "l"
        linksSoft := line.has "s", keepsMode := ["a", "p"].any line.has
        withParents := line.has "parents" }
    if t.linksHard && t.linksSoft then misused 1 "cannot make both hard and symbolic links"
    if t.replacing == .skipped && t.keeping != .never then
      misused 1 "options --backup and --no-clobber are mutually exclusive"
    let (sources, last) ← t.split line.operands
    let sources := if t.strips then sources.map withoutSlashes else sources
    let go (several : Bool) (pairs : List (Raw × Raw)) : Act Int :=
      Transfer.each pairs fun source target past => do
        let isFine ← if t.withParents then
            match t.directory.orElse fun _ => last with
            | some directory =>
              makeParents t directory ((Raw.splitAt '/' (withoutSlashes source)).dropLast.filter
                fun name => !name.isEmpty) []
            | none => pure true
          else pure true
        if isFine then t.copy several (source, target) Kernel.endlessly true none source target past
        else return (false, {})
    let inside (directory source : Raw) : Raw :=
      if t.withParents then inDirectory directory (withoutSlashes source)
      else targetIn directory source
    match t.directory, last with
    | some directory, _ =>
      demandDirectory "target directory " directory
      go (1 < sources.length) (sources.map fun s => (s, inside directory s))
    | none, none => return 0
    | none, some target =>
      let isDirectory ← if t.isExact then pure false else leadsToFolder target
      if isDirectory then
        go (1 < sources.length) (sources.map fun s => (s, inside target s))
      else
        if 1 < sources.length then demandDirectory "target " target
        if t.withParents then misused 1 "with --parents, the destination must be a directory"
        go false (sources.map fun s => (s, target))

end PipeShell.Machine.Utility
