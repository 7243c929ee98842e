import PipeShell.Machine.Kernel.State

/-!
# Finding programs

A name with a slash is the path of a program; any other name is looked for in the directories where
programs are kept, in order. A file can be run when it is a program of the machine, or executable
and headed by the path of an interpreter, which is then run with the file as an argument; an
executable file without such a head is in no known format. A file that somebody is writing to cannot
be run. Of several faults on the way, a refusal outlasts a file that is missing.
-/

set_option autoImplicit false

namespace PipeShell.Machine.Lookup

/-- Where programs are kept. -/
def searchPath : List String := ["/usr/bin", "/bin"]

/-- The number of bytes of a file that are looked at. -/
def headSize : Nat := 256

/-- A byte between the parts of a head. -/
def isGap (c : Char) : Bool := c == ' ' || c == '\t'

/-- A byte that ends the path of an interpreter. -/
def endsPath (c : Char) : Bool := isGap c || c == Char.ofNat 0

/-- The line behind the two first bytes of a head, trimmed at its end. Without a newline in reach
the path of the interpreter must have ended. -/
def headLine (head : Raw) : Except Errno Raw :=
  let padded := head ++ List.replicate (headSize - head.length) (Char.ofNat 0)
  let body := padded.drop 2
  match Raw.cutAt '\n' body with
  | some (line, _) => .ok (line.reverse.dropWhile isGap).reverse
  | none =>
    let rest := body.dropWhile isGap
    if rest.isEmpty || !rest.any endsPath then .error Errno.badFormat
    else .ok body

/-- The interpreter that a head names, and the argument it names for it. -/
def interpreter (head : Raw) : Except Errno (Raw × Option Raw) := do
  let line ← headLine head
  let rest := line.dropWhile isGap
  if rest.isEmpty then .error Errno.badFormat
  else
    let path := rest.takeWhile fun c => !endsPath c
    let behind := rest.drop path.length
    let arg := if behind.head? == some (Char.ofNat 0) then []
      else (behind.dropWhile isGap).takeWhile (· != Char.ofNat 0)
    return (path, if arg.isEmpty then none else some arg)

/-- The most interpreters that are interpreted in turn. -/
def maxInterpreters : Nat := 5

/-- The program behind the path of a file to be run, and what it is called with. -/
def imageWithin (fs : FileSystem) (isBeingWritten : Inode → Bool) (directory : Inode) :
    Nat → Raw → Task → Except Errno (String × Task)
  | depth, path, task => do
    let i ← if path.isEmpty then pure directory else fs.find directory path true
    match fs.file? i with
    | some (.program name) => return (name, task)
    | some (.regular content) =>
      if !fs.allows i .toExecute then .error Errno.accessDenied
      else if isBeingWritten i then .error Errno.textBusy
      else if "#!".toList.isPrefixOf content then
        let (inner, arg) ← interpreter (content.take headSize)
        let task := { task with name := inner, args := arg.toList ++ path :: task.args }
        match depth with
        | 0 =>
          let _ ← fs.find directory inner true
          .error Errno.tooManyLinks
        | depth + 1 => imageWithin fs isBeingWritten directory depth inner task
      else .error Errno.badFormat
    | _ => .error Errno.accessDenied

/-- The program behind the path of a file to be run, and what it is called with. -/
def image (fs : FileSystem) (isBeingWritten : Inode → Bool) (directory : Inode) (path : Raw)
    (task : Task) : Except Errno (String × Task) :=
  if path.isEmpty then .error Errno.noEntry
  else imageWithin fs isBeingWritten directory maxInterpreters path task

/-- Looks for a program in directories, given the refusal met so far. -/
def search (fs : FileSystem) (isBeingWritten : Inode → Bool) (directory : Inode) (task : Task)
    (refusal : Option Errno) : List Raw → Except Errno (String × Task)
  | [] => .error (refusal.getD Errno.noEntry)
  | d :: rest =>
    match image fs isBeingWritten directory (Path.join d task.name) task with
    | .ok found => .ok found
    | .error e =>
      if e = Errno.noEntry ∨ e = Errno.notDirectory then
        search fs isBeingWritten directory task refusal rest
      else if e = Errno.accessDenied then
        search fs isBeingWritten directory task (some e) rest
      else .error e

/-- The program that the name of a task stands for. -/
def find (fs : FileSystem) (isBeingWritten : Inode → Bool) (directory : Inode) (path : List Raw)
    (task : Task) : Except Errno (String × Task) :=
  if task.name.isEmpty then .error Errno.noEntry
  else if task.name.contains '/' then image fs isBeingWritten directory task.name task
  else search fs isBeingWritten directory task none path

end PipeShell.Machine.Lookup
