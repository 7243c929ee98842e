import PipeShell.Machine.FileSystem

/-!
# Changes of the file system

Making, opening, removing and renaming files. A change in a directory needs the permission to write
and to search it; a directory that was removed takes nothing. The last name of a path that is to be
removed or renamed is taken as it stands, so links there are not followed.
-/

set_option autoImplicit false

namespace PipeShell.Machine.FileSystem

/-- Was a directory removed? -/
def isRemoved (fs : FileSystem) (i : Inode) : Bool :=
  match fs.file? i with
  | some (.directory parent _) => i != root && (fs.nameIn parent i).isNone
  | _ => false

/-- May the user add and remove names in a directory? -/
def mayChange (fs : FileSystem) (directory : Inode) : Bool :=
  fs.allows directory .toWrite && fs.allows directory .toExecute

/-- Refuses a change in a directory that the user may not change. -/
def demandChange (fs : FileSystem) (directory : Inode) : Except Errno Unit :=
  if fs.mayChange directory then .ok () else .error Errno.accessDenied

/-- The place for a new file: a directory and a name it does not have. Only a directory may be given
a name that a slash follows. -/
def vacancy (fs : FileSystem) (directory : Inode) (path : Raw) (forDirectory : Bool) :
    Except Errno (Inode × Raw) := do
  match ← fs.resolve directory path .keptAlways with
  | .node _ _ => .error Errno.alreadyExists
  | .absent d name closed =>
    if closed && !forDirectory || fs.isRemoved d then .error Errno.noEntry
    else
      fs.demandChange d
      return (d, name)

/-- Makes a directory. -/
def makeDirectory (fs : FileSystem) (directory : Inode) (path : Raw) (mode : Nat) :
    Except Errno FileSystem := do
  let (d, name) ← fs.vacancy directory path true
  return (fs.create d name { file := .directory d [], mode }).2

/-- Makes a symbolic link. -/
def makeLink (fs : FileSystem) (directory : Inode) (target path : Raw) :
    Except Errno FileSystem := do
  if target.isEmpty then .error Errno.noEntry
  else
    let (d, name) ← fs.vacancy directory path false
    return (fs.create d name { file := .link target, mode := 0o777 }).2

/-- Gives a file one more name. -/
def addName (fs : FileSystem) (directory : Inode) (source path : Raw) (follow : Bool) :
    Except Errno FileSystem := do
  let i ← fs.find directory source follow
  let (d, name) ← fs.vacancy directory path false
  match fs.file? i with
  | some (.directory _ _) => .error Errno.notPermitted
  | some (.device _) => .error Errno.otherDevice
  | _ => return fs.bind d name i

/-- The kind of the last step of a path. -/
inductive LastStep where
  | root
  | here
  | up
  | name (step : Step)

/-- The last step of a path. -/
def lastStep (path : Raw) : LastStep :=
  match (steps path).getLast? with
  | none => .root
  | some step =>
    if step.name = ['.'] then .here else if step.name = ['.', '.'] then .up else .name step

/-- The directory in which the last name of a path is looked for. -/
def holder (fs : FileSystem) (directory : Inode) (path : Raw) : Except Errno Inode := do
  if path.isEmpty then .error Errno.noEntry
  else if pathBound ≤ path.length then .error Errno.nameTooLong
  else
    let place ← fs.walk (some directory) .followed maxLinks (start directory path) false
      (steps path).dropLast
    let d ← place.existing fs
    if !fs.isDirectory d then .error Errno.notDirectory
    else if !fs.allows d .toExecute then .error Errno.accessDenied
    else return d

/-- The node with a name in a directory. -/
def entryIn (fs : FileSystem) (directory : Inode) (name : Raw) : Except Errno Inode :=
  if maxName < name.length then .error Errno.nameTooLong
  else match ((fs.entries? directory).getD []).lookup name with
    | some i => .ok i
    | none => .error Errno.noEntry

/-- Removes a name that is not a directory's. -/
def unlink (fs : FileSystem) (directory : Inode) (path : Raw) : Except Errno FileSystem := do
  let d ← fs.holder directory path
  match lastStep path with
  | .name step =>
    let i ← fs.entryIn d step.name
    if step.closed then
      .error (if fs.isDirectory i then Errno.isDirectory else Errno.notDirectory)
    else
      fs.demandChange d
      if fs.isDirectory i then .error Errno.isDirectory else return fs.unbind d step.name
  | _ => .error Errno.isDirectory

/-- Removes an empty directory. -/
def removeDirectory (fs : FileSystem) (directory : Inode) (path : Raw) :
    Except Errno FileSystem := do
  let d ← fs.holder directory path
  match lastStep path with
  | .root => .error Errno.busy
  | .here => .error Errno.invalidArgument
  | .up => .error Errno.notEmpty
  | .name step =>
    let i ← fs.entryIn d step.name
    fs.demandChange d
    match fs.entries? i with
    | none => .error Errno.notDirectory
    | some [] => return fs.unbind d step.name
    | some _ => .error Errno.notEmpty

/-- Is one directory inside another, or the same? The path up is followed in so many steps. -/
def isWithin (fs : FileSystem) (outer : Inode) : Nat → Inode → Bool
  | 0, _ => false
  | steps + 1, i =>
    if i = outer then true
    else if i = root then false
    else match fs.file? i with
      | some (.directory parent _) => fs.isWithin outer steps parent
      | _ => false

/-- A file under its new name, and no longer under the old one. -/
def moved (fs : FileSystem) (i d : Inode) (name : Raw) (heir : Inode) (newName : Raw) : FileSystem :=
  let fs := ((fs.unbind d name).unbind heir newName).bind heir newName i
  match fs.file? i with
  | some (.directory _ entries) => fs.setFile i (.directory heir entries)
  | _ => fs

/-- Gives a file another name, in place of what had that name. -/
def rename (fs : FileSystem) (directory : Inode) (source target : Raw) :
    Except Errno FileSystem := do
  let d ← fs.holder directory source
  let heir ← fs.holder directory target
  match lastStep source, lastStep target with
  | .name old, .name new =>
    let i ← fs.entryIn d old.name
    let whole := fs.isDirectory i
    if (old.closed || new.closed) && !whole then .error Errno.notDirectory
    else if whole && fs.isWithin i fs.nodes.size heir then .error Errno.invalidArgument
    else if maxName < new.name.length then .error Errno.nameTooLong
    else if fs.isRemoved heir then .error Errno.noEntry
    else match fs.entryIn heir new.name with
      | .error _ =>
        fs.demandChange d
        fs.demandChange heir
        return fs.moved i d old.name heir new.name
      | .ok there =>
        if there = i then return fs
        else if fs.isWithin there fs.nodes.size d then .error Errno.notEmpty
        else
          fs.demandChange d
          fs.demandChange heir
          match whole, fs.entries? there with
          | true, none => .error Errno.notDirectory
          | false, some _ => .error Errno.isDirectory
          | true, some (_ :: _) => .error Errno.notEmpty
          | _, _ => return fs.moved i d old.name heir new.name
  | _, _ => .error Errno.busy

/-- The node to write to behind a path, made with a mode if it is missing. A path whose last step a
slash follows is refused. With `fresh`, so is one that is there, be it a link that leads nowhere. -/
def openOrCreate (fs : FileSystem) (directory : Inode) (path : Raw) (mode : Nat) (fresh : Bool) :
    Except Errno (Inode × FileSystem) := do
  match ← fs.resolve directory path (if fresh then .keptAlways else .followed) with
  | .node _ true => .error Errno.isDirectory
  | .absent _ _ true => .error Errno.isDirectory
  | .node i false =>
    if fresh then .error Errno.alreadyExists
    else if fs.isDirectory i then .error Errno.isDirectory
    else if fs.allows i .toWrite then return (i, fs)
    else .error Errno.accessDenied
  | .absent d name false =>
    if fs.isRemoved d then .error Errno.noEntry
    else
      fs.demandChange d
      return fs.create d name { file := .regular [], mode }

/-- Replaces the content of a regular file. -/
def setContent (fs : FileSystem) (i : Inode) (content : Raw) : FileSystem :=
  match fs.file? i with
  | some (.regular _) => fs.setFile i (.regular content)
  | _ => fs

/-- The number of names that a node has. -/
def nameCount (fs : FileSystem) (i : Inode) : Nat :=
  (fs.nodes.toList.map fun n =>
    match n.file with
    | .directory _ entries => (entries.filter (·.2 == i)).length
    | _ => 0).foldl (· + ·) 0

/-- A file below a directory: the names that lead to it, and what it is. -/
abbrev Listed := List Raw × Node

/-- Everything below a directory, to a depth. -/
def below (fs : FileSystem) : Nat → Inode → List Raw → List Listed
  | 0, _, _ => []
  | depth + 1, i, front =>
    ((fs.entries? i).getD []).flatMap fun e =>
      let path := front ++ [e.1]
      match fs.node? e.2 with
      | none => []
      | some n => (path, n) :: fs.below depth e.2 path

end PipeShell.Machine.FileSystem
