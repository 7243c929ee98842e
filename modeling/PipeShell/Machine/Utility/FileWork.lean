import PipeShell.Machine.Mode
import PipeShell.Machine.Number
import PipeShell.Machine.Utility.Columns
import PipeShell.Machine.Utility.PathName

/-!
# Working on files

What utilities share that make, move and remove files: the last name of a path, the entries of a
directory, questions to the user, and names for what is kept of files that are replaced.
-/

set_option autoImplicit false

namespace PipeShell.Machine.Utility

open Act

/-! ## Files -/

/-- What is behind a path, links at the end taken as they are. -/
def linkStatus (path : Raw) : Act (Except Errno Node) := ask (Kernel.status path false)

/-- What is behind a path. -/
def status (path : Raw) : Act (Except Errno Node) := ask (Kernel.status path true)

/-- Is a file a directory? -/
def isFolder (n : Node) : Bool :=
  match n.file with
  | .directory _ _ => true
  | _ => false

/-- Is there a directory behind a path? -/
def leadsToFolder (path : Raw) : Act Bool := do
  match ← status path with
  | .ok n => return isFolder n
  | .error _ => return false

/-- Is there a symbolic link at a path? -/
def isLinkAt (path : Raw) : Act Bool := do
  match ← linkStatus path with
  | .ok { file := .link _, .. } => return true
  | _ => return false

/-- The names in a directory that may be read. -/
def namesWithin (path : Raw) : Act (Except Errno (List Raw)) := do
  match ← status path with
  | .error e => return .error e
  | .ok n =>
    match n.file with
    | .directory _ entries =>
      return if n.allows .toRead then .ok (entries.map Prod.fst) else .error Errno.accessDenied
    | _ => return .error Errno.notDirectory

/-- What a file is called. -/
def kindOf (n : Node) : Raw :=
  (match n.file with
    | .directory _ _ => "directory"
    | .regular [] => "regular empty file"
    | .regular _ | .program _ => "regular file"
    | .link _ | .ownDirectory => "symbolic link"
    | .device _ => "character special file").toList

/-- The node behind a path, links at the end followed or not. -/
def nodeAt (path : Raw) (follow : Bool) : Act (Option Inode) := do
  match ← ask (Kernel.find path follow) with
  | .ok i => return some i
  | .error _ => return none

/-- Makes a symbolic link. -/
def makeLink (target path : Raw) : Act (Except Errno Unit) :=
  ask (Kernel.change fun fs d => fs.makeLink d target path)

/-- Gives a file one more name. -/
def addName (source path : Raw) (follow : Bool) : Act (Except Errno Unit) :=
  ask (Kernel.change fun fs d => fs.addName d source path follow)

/-- Gives a file a new name, which must not be there. -/
def renameFresh (source path : Raw) : Act (Except Errno Unit) :=
  ask (Kernel.change fun fs d => do
    match fs.resolve d path .kept with
    | .ok (.node _ _) =>
      let _ ← fs.holder d source
      match lastNameOf source, lastNameOf path with
      | true, true =>
        let _ ← fs.find d source false
        .error Errno.alreadyExists
      | _, _ => .error Errno.busy
    | _ => fs.rename d source path)
where
  /-- Does a path end in a name of its own? -/
  lastNameOf (path : Raw) : Bool :=
    match FileSystem.lastStep path with
    | .name _ => true
    | _ => false

/-! ## Questions -/

/-- Reads an answer byte by byte, and tells whether it means yes. -/
def readAnswer : Nat → Option Char → Act Bool
  | 0, first => return first == some 'y' || first == some 'Y'
  | steps + 1, first => do
    match ← ask (Kernel.read 0 1) with
    | .ok [c] =>
      if c == '\n' then return first == some 'y' || first == some 'Y'
      else readAnswer steps (first.orElse fun _ => some c)
    | _ => return first == some 'y' || first == some 'Y'

/-- Asks the user a question. -/
def confirm (question : Raw) : Act Bool := do
  flush
  writeError ((← get).name ++ ": ".toList ++ question ++ "? ".toList)
  readAnswer Kernel.endlessly none

/-! ## Files that are replaced -/

/-- How a file that is replaced is kept. -/
inductive Keeping where
  | never
  | simple
  | numbered
  /-- Numbered if there are numbered ones. -/
  | existing
  deriving DecidableEq, Repr

/-- The names for ways of keeping. -/
def keepings : List (List String) :=
  [["none", "off"], ["simple", "never"], ["existing", "nil"], ["numbered", "t"]]

/-- The way of keeping that options mean. -/
def readKeeping (line : CommandLine) : Act Keeping := do
  match (line.options.filter fun o => o.key == "b").getLast? with
  | none => return if line.has "S" then .existing else .never
  | some o =>
    if !o.valued then return .existing
    let k ← choose' o.value
    return [Keeping.never, .simple, .existing, .numbered].getD k .existing
where
  /-- The place of a way among all. -/
  choose' (value : Raw) : Act Nat := do
    match keepings.findIdx? (·.any (·.toList == value)) with
    | some k => return k
    | none =>
      match keepings.zipIdx.filter fun c => c.1.any fun name => value.isPrefixOf name.toList with
      | [(_, k)] => return k
      | meant =>
        let fault := if meant.isEmpty then "invalid" else "ambiguous"
        complain (fault.toList ++ " argument ".toList ++ Quoting.word value ++
          " for 'backup type'".toList)
        writeError ("Valid arguments are:\n".toList ++ keepings.flatMap fun names =>
          "  - ".toList ++ Raw.joined ", ".toList (names.map fun n => '\'' :: n.toList ++ ['\'']) ++
            ['\n'])
        misuse 1

/-- The number of a name that was kept by number. -/
def keptNumber? (name kept : Raw) : Option Nat :=
  let front := name ++ ".~".toList
  if front.isPrefixOf kept && kept.getLast? == some '~' then
    Number.natural? ((kept.drop front.length).dropLast)
  else none

/-- The name under which a file that is replaced is kept. -/
def keptName (keeping : Keeping) (suffix path : Raw) : Act Raw := do
  let name := lastName path
  let others := (← namesWithin (directoryPart path)).toOption.getD []
  let numbers := others.filterMap (keptNumber? name)
  let numbered := path ++ ".~".toList ++ Numeral.ofNat ((numbers.foldl max 0) + 1) ++ ['~']
  match keeping with
  | .numbered => return numbered
  | .existing => return if numbers.isEmpty then path ++ suffix else numbered
  | _ => return path ++ suffix

end PipeShell.Machine.Utility
