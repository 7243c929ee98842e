import PipeShell.Machine.Setup
import PipeShell.Machine.Kernel.Scheduler

/-!
# The machine as the system of a shell

A process that is started waits until the shell waits for one of the processes; then all of them run
to their ends. So every file is opened, and every fault of a stage reported, before the first
process does anything. The shell goes on at the time at which its process has ended. What others
write to the terminal later than that is held back until the shell has waited for as long; what they
do to files is seen at once.
-/

set_option autoImplicit false

namespace PipeShell.Machine

/-- The most bytes of one argument, the byte that ends it included. -/
def argumentBound : Nat := 131072

/-- The environment of the processes that a shell starts. -/
def usualEnvironment : List Setting :=
  [("PATH".toList, "/usr/bin:/bin".toList), ("LC_ALL".toList, "C".toList)]

/-- Does a text hold a NUL? -/
def hasNul (t : Text) : Bool := t.contains (Char.ofNat 0)

/-- A question about a path, which must not hold a NUL. -/
def withPath {α : Type} (path : Text) (ask : Raw → Except Errno α) : Except Failure α :=
  if hasNul path then .error .nulInPath else (ask (Raw.ofText path)).mapError .system

namespace State

/-- The path of the machine's own directory. -/
def currentDirectory (s : State) : Except Failure Text :=
  match s.files.pathOf s.directory with
  | some path => .ok (Raw.toText path)
  | none => .error (.system Errno.noEntry)

/-- Finds a directory by its path. -/
def findDirectory (s : State) (path : Raw) : Except Errno Inode := do
  let i ← s.files.find s.directory path true
  if s.files.isDirectory i then return i else .error Errno.notDirectory

/-- Finds a directory that a process may work in. -/
def findWorkplace (s : State) (path : Raw) : Except Errno Inode := do
  let i ← s.findDirectory path
  if s.files.allows i .toExecute then return i else .error Errno.accessDenied

/-- Moves the machine's own directory. -/
def changeDirectory (path : Text) (s : State) : Except Failure Unit × State :=
  match withPath path s.findWorkplace with
  | .ok i => (.ok (), { s with directory := i })
  | .error f => (.error f, s)

/-- Is there a directory behind a path? -/
def isDirectory (path : Text) (s : State) : Bool :=
  !hasNul path && (s.findDirectory (Raw.ofText path)).isOk

/-- A handle for an open file. -/
def newHandle (id : Nat) (s : State) : Handle × State :=
  (s.nextHandle, { s with handles := (s.nextHandle, id) :: s.handles
                          nextHandle := s.nextHandle + 1 })

/-- The shell's own ends of the terminal by their slots. -/
def ownEnd (slot : Nat) : Option OpenFile :=
  match slot with
  | 0 => some { object := .terminal .input, readable := true }
  | 1 => some { object := .terminal .output, writable := true }
  | 2 => some { object := .terminal .error, writable := true }
  | _ => none

/-- Opens a file and gives it a handle. -/
def openHandle (path : Text) (how : Kernel.Opening) (s : State) : Except Failure Handle × State :=
  if hasNul path then (.error .nulInPath, s)
  else
    let result := do
      let (i, s) ← Kernel.nodeToOpen s.directory (Raw.ofText path) how (· &&& 0o7755) s
      Kernel.openNode how ownEnd i s
    match result with
    | .error e => (.error (.system e), s)
    | .ok (id, s) => let (h, s) := newHandle id s; (.ok h, s)

/-- Makes a pipe. -/
def makePipe (s : State) : Except Failure Pipe × State :=
  let pipe := s.pipes.size
  let s := { s with pipes := s.pipes.push [] }
  let (r, s) := s.addOpenFile { object := .pipeReader pipe, readable := true }
  let (w, s) := s.addOpenFile { object := .pipeWriter pipe, writable := true }
  let (reader, s) := newHandle r s
  let (writer, s) := newHandle w s
  (.ok { reader, writer }, s)

/-- Gives up a handle. -/
def close (h : Handle) (s : State) : State :=
  { s with handles := s.handles.filter (·.1 != h) }

/-- The open file for an end of the terminal. -/
def terminalFile (slot : Nat) (s : State) : Option (Nat × State) :=
  (ownEnd slot).map s.addOpenFile

/-- The open file that a process reads from. -/
def inletFile (inlet : Inlet) (s : State) : Option (Nat × State) :=
  match inlet with
  | .terminal => terminalFile 0 s
  | .file h | .pipe h => (s.handles.lookup h).map fun id => (id, s)

/-- The open file that a process writes to. -/
def outletFile (outlet : Outlet) (s : State) : Option (Nat × State) :=
  match outlet with
  | .terminal => terminalFile 1 s
  | .file h | .pipe h => (s.handles.lookup h).map fun id => (id, s)

/-- The process that a plan asks for. -/
def plannedEntry (plan : Launch) (directory : Inode) (s : State) : Except Errno (Entry × State) :=
  match inletFile plan.input s with
  | none => .error Errno.badDescriptor
  | some (input, s) =>
    match outletFile plan.output s with
    | none => .error Errno.badDescriptor
    | some (output, s) =>
      match terminalFile 2 s with
      | none => .error Errno.badDescriptor
      | some (error, s) =>
        let slots : List Slot := [{ number := 0, openFile := input },
          { number := 1, openFile := output }, { number := 2, openFile := error }]
        .ok ({ slots, directory }, s)

/-- Prepares and adds a process. -/
def launch (plan : Launch) (s : State) : Except Errno (Process × State) := do
  let directory ← s.findWorkplace (Raw.ofText plan.directory)
  if plan.args.any fun a => decide (argumentBound ≤ Utf8.length a + 1) then
    .error Errno.listTooLong
  else
    let task : Task := { name := Raw.ofText plan.program, args := plan.args.map Raw.ofText
                         environment := usualEnvironment }
    let path := Lookup.searchPath.map String.toList
    let (program, task) ← Lookup.find s.files s.isBeingWritten directory path task
    let (entry, s) ← plannedEntry plan directory s
    let (process, s) := s.addEntry entry
    return (process, { s with launched := s.launched ++ [{ process, program, task }] })

/-- Starts a process. -/
def start (plan : Launch) (s : State) : Except Failure Process × State :=
  if hasNul plan.program || plan.args.any hasNul || hasNul plan.directory then
    (.error .nulInArgument, s)
  else match s.launch plan with
    | .error e => (.error (.system e), s)
    | .ok (p, s) => (.ok p, s)

/-- What was written, one thing after the other, with neighbours for one channel joined. -/
def joined (written : List Writing) : List (Channel × Bytes) :=
  written.foldr (fun w rest =>
    match rest with
    | (channel, bs) :: more =>
      if channel = w.channel then (channel, w.bytes ++ bs) :: more else (w.channel, w.bytes) :: rest
    | [] => [(w.channel, w.bytes)]) []

/-- Tells what was written up to a point of time. What was written later is held back. -/
def tell (time : Nat) (s : State) : List (Channel × Bytes) × State :=
  let (due, later) := s.written.partition fun w => decide (w.time ≤ time)
  (joined (due.reverse.mergeSort fun a b => decide (a.time ≤ b.time)), { s with written := later })

/-- Runs all processes that have not run, and tells how one ended. -/
def await (p : Process) (terminal : Terminal) (s : State) : Except Failure Exit × Conduct × State :=
  let bare (sink : Sink) : Sink := { sink with taken := [] }
  let terminal := { terminal with output := bare terminal.output, error := terminal.error.map bare }
  let since := s.time
  let s := Scheduler.runLaunched Programs.load { s with terminal, taken := 0, used := [] }
  let (result, time) : Except Failure Exit × Nat :=
    match s.entry? p with
    | some { exit := some how, ended, .. } => (.ok how, max since ended)
    | _ => (.error (.system Errno.noChild), since)
  let (wrote, s) := s.tell time
  (result, { taken := s.taken, wrote }, { s with terminal := {}, taken := 0, used := [], time })

/-- Waits until nothing is held back any more. -/
def linger (_ : Terminal) (s : State) : Conduct × State :=
  let time := s.written.foldl (fun latest w => max latest w.time) s.time
  let (wrote, s) := s.tell time
  ({ wrote }, { s with time })

end State

/-- The machine as the system of a shell. -/
def host : Host State where
  currentDirectory := State.currentDirectory
  changeDirectory := State.changeDirectory
  canonicalize path s := (withPath path (s.files.canonicalize s.directory)).map Raw.toText
  isDirectory := State.isDirectory
  openInput path s := s.openHandle path Kernel.Opening.reading
  openOutput path mode s := s.openHandle path (Kernel.Opening.writing mode)
  makePipe := State.makePipe
  close := State.close
  attach _ s := (.ok (), s)
  start := State.start
  await := State.await
  linger := State.linger

end PipeShell.Machine
