import PipeShell.Machine.Kernel.Descriptors
import PipeShell.Machine.Lookup

/-!
# Files and processes as a process asks for them

Questions about the files and changes of them, seen from the process's own directory; waiting for a
child, letting time pass, and handing over to another program.
-/

set_option autoImplicit false

namespace PipeShell.Machine.Kernel

/-! ## Files -/

/-- The files as they are. -/
def files : Job FileSystem := Job.act fun _ s => (s.files, s)

/-- The process's own directory. -/
def directory : Job Inode := Job.act fun p s => (s.directoryOf p, s)

/-- The path of the process's own directory. -/
def currentPath : Job (Except Errno Raw) :=
  Job.act fun p s =>
    match s.files.pathOf (s.directoryOf p) with
    | some path => (.ok path, s)
    | none => (.error Errno.noEntry, s)

/-- The node behind a path. -/
def find (path : Raw) (follow : Bool) : Job (Except Errno Inode) :=
  Job.act fun p s => (s.files.find (s.directoryOf p) path follow, s)

/-- What the file behind a path is. -/
def status (path : Raw) (follow : Bool) : Job (Except Errno Node) :=
  Job.act fun p s =>
    (do
      let i ← s.files.find (s.directoryOf p) path follow
      match s.files.nodeFor? (s.directoryOf p) i with
      | some n => return n
      | none => .error Errno.noEntry, s)

/-- Does the user have a permission on the file behind a path? -/
def allows (path : Raw) (permission : Permission) : Job Bool :=
  Job.act fun p s =>
    (match s.files.find (s.directoryOf p) path true with
      | .ok i => s.files.allows i permission
      | .error _ => false, s)

/-- Changes the files, seen from the process's own directory. -/
def change (f : FileSystem → Inode → Except Errno FileSystem) : Job (Except Errno Unit) :=
  Job.act fun p s =>
    match f s.files (s.directoryOf p) with
    | .error e => (.error e, s)
    | .ok files => (.ok (), { s with files })

/-- Makes a directory. -/
def makeDirectory (path : Raw) (mode : Nat) : Job (Except Errno Unit) :=
  Job.act fun p s =>
    match s.files.makeDirectory (s.directoryOf p) path (s.newMode p mode) with
    | .error e => (.error e, s)
    | .ok files => (.ok (), { s with files })

/-- Removes a name that is not a directory's. -/
def unlink (path : Raw) : Job (Except Errno Unit) := change fun fs d => fs.unlink d path

/-- Removes an empty directory. -/
def removeDirectory (path : Raw) : Job (Except Errno Unit) :=
  change fun fs d => fs.removeDirectory d path

/-- Gives a file another name. -/
def rename (source target : Raw) : Job (Except Errno Unit) :=
  change fun fs d => fs.rename d source target

/-- Changes the permissions on a file. -/
def changeMode (path : Raw) (mode : Nat) : Job (Except Errno Unit) :=
  change fun fs d => do
    let i ← fs.find d path true
    if ((fs.node? i).map Node.foreign).getD true then .error Errno.notPermitted
    else return fs.setMode i mode

/-- Moves the process to another directory. -/
def changeDirectory (path : Raw) : Job (Except Errno Unit) :=
  Job.act fun p s =>
    match enter s.files (s.directoryOf p) path with
    | .error e => (.error e, s)
    | .ok i => (.ok (), s.modifyEntry p fun e => { e with directory := i })
where
  /-- The directory behind a path, which the user must be allowed to search. -/
  enter (fs : FileSystem) (from' : Inode) (path : Raw) : Except Errno Inode := do
    let i ← fs.find from' path true
    if !fs.isDirectory i then .error Errno.notDirectory
    else if !fs.allows i .toExecute then .error Errno.accessDenied
    else return i

/-- Sets the permissions that new files do not get, and gives those of before. -/
def setMask (mask : Nat) : Job Nat :=
  Job.act fun p s =>
    (((s.entry? p).map Entry.mask).getD 0, s.modifyEntry p fun e => { e with mask })

/-- The permissions that new files do not get. -/
def mask : Job Nat := Job.act fun p s => (((s.entry? p).map Entry.mask).getD 0, s)

/-! ## Processes -/

/-- The number of the process. -/
def self : Job ProcessId := Job.act fun p s => (p, s)

/-- The number of the process that started it. -/
def parent : Job ProcessId := Job.act fun p s => (((s.entry? p).map Entry.parent).getD 0, s)

/-- Waits until another process has ended, and tells how. -/
def await (child : ProcessId) : Job Exit :=
  Job.ask fun _ s =>
    match s.entry? child with
    | none => .done .unknown s
    | some e =>
      match e.exit with
      | none => .wait none
      | some how => .done how s

/-- Lets a number of milliseconds pass. -/
def sleep (duration : Nat) : Job Unit := do
  let wake ← Job.act fun _ s => (s.time + duration, s)
  Job.ask fun _ s => if wake ≤ s.time then .done () s else .wait (some wake)

/-- Waits for a caught signal or the end of another process, whichever comes first. -/
def awaitOrSignal (child : ProcessId) : Job (Option Exit) :=
  Job.ask fun p s =>
    match s.entry? child, s.entry? p with
    | some { exit := some how, .. }, _ => .done (some how) s
    | none, _ => .done (some .unknown) s
    | _, some { pending := _ :: _, .. } => .done none s
    | _, _ => .wait none

/-- Hands over to the program behind a path, called with a task. Gives the reason if that cannot
be. -/
def execute (path : Raw) (task : Task) : Job Errno := do
  let found ← Job.act fun p s =>
    (Lookup.image s.files s.isBeingWritten (s.directoryOf p) path task, s)
  match found with
  | .error e => return e
  | .ok (name, task) => Job.become name task

end PipeShell.Machine.Kernel
