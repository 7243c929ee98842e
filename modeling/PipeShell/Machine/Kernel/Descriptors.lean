import PipeShell.Machine.Kernel.Signals

/-!
# Open files of a process

Opening, reading, writing, seeking, sharing and closing. A read may deliver less than was asked for,
and nothing at the end. Whoever reads from an empty pipe waits as long as it has a writer; whoever
writes to a full one waits as long as it has a reader, and is killed if it has none.
-/

set_option autoImplicit false

namespace PipeShell.Machine.Kernel

/-- The number of bytes that a pipe holds. -/
def pipeCapacity : Nat := 65536

/-- The most bytes that are written to a pipe in one piece. -/
def pipeAtom : Nat := 4096

/-- The failure of a terminal as a code. -/
def codeOf (f : Failure) : Errno := f.code?.getD 5

/-! ## Reading -/

/-- The next bytes of a source, at most `limit`. Interruptions are passed over. -/
def receive (limit : Nat) : Source → Except Errno Bytes × Source
  | [] => (.ok [], [])
  | .fault .interrupted :: rest => receive limit rest
  | .fault f :: rest => (.error (codeOf (.stream f)), rest)
  | .piece bs :: rest =>
    if bs.length ≤ limit then (.ok bs, rest)
    else (.ok (bs.take limit), .piece (bs.drop limit) :: rest)

/-- Reads from the terminal. -/
def readTerminal (limit : Nat) (s : State) : Except Errno Raw × State :=
  let (result, input) := receive limit s.terminal.input
  let got := result.toOption.getD []
  (result.map Raw.ofBytes,
    { s with terminal := { s.terminal with input }
             used := if s.terminal.seekable then s.used ++ got else []
             taken := s.taken + got.length })

/-- Reads from a node at the place of an open file. -/
def readNode (id : Nat) (f : OpenFile) (i : Inode) (limit : Nat) (s : State) :
    Except Errno Raw × State :=
  match s.files.file? i with
  | some (.regular content) =>
    let bs := (content.drop f.offset).take limit
    (.ok bs, { s with opened := s.opened.set! id { f with offset := f.offset + bs.length } })
  | some (.directory _ _) => (.error Errno.isDirectory, s)
  | some (.device .zero) | some (.device .full) =>
    (.ok (List.replicate (min limit pipeCapacity) (Char.ofNat 0)), s)
  | _ => (.ok [], s)

/-- Reads at most `limit` bytes. -/
def read (slot limit : Nat) : Job (Except Errno Raw) :=
  Job.ask fun p s =>
    match s.slot? p slot with
    | none => .done (.error Errno.badDescriptor) s
    | some id =>
      match s.opened[id]? with
      | none => .done (.error Errno.badDescriptor) s
      | some f =>
        if !f.readable then .done (.error Errno.badDescriptor) s
        else match f.object with
          | .terminal .input => let (r, s) := readTerminal limit s; .done r s
          | .terminal _ => .done (.error Errno.badDescriptor) s
          | .node i => let (r, s) := readNode id f i limit s; .done r s
          | .pipeWriter _ => .done (.error Errno.badDescriptor) s
          | .pipeReader pipe =>
            let content := (s.pipes[pipe]?).getD []
            if content.isEmpty then
              if s.isHeld fun g => g.object == .pipeWriter pipe then .wait none
              else .done (.ok []) s
            else
              .done (.ok (content.take limit))
                { s with pipes := s.pipes.set! pipe (content.drop limit) }

/-- The bytes taken at a time by those who want them all. -/
def largeRead : Nat := 131072

/-- Reads until nothing more comes, at most so many times. The pieces come last one first. -/
def readPieces (slot : Nat) : Nat → List Raw → Job (Except Errno (List Raw))
  | 0, pieces => return .ok pieces
  | times + 1, pieces => do
    match ← read slot largeRead with
    | .error e => return .error e
    | .ok [] => return .ok pieces
    | .ok more => readPieces slot times (more :: pieces)

/-- The most reads in a row by which all is read that a program can hold. -/
def endlessly : Nat := Nat.pow 2 40

/-- Reads all there is. -/
def readAll (slot : Nat) : Job (Except Errno Raw) := do
  return (← readPieces slot endlessly []).map fun pieces => pieces.reverse.flatten

/-! ## Writing -/

/-- The content of a file after bytes are written at a place in it. -/
def overwrite (content : Raw) (offset : Nat) (bs : Raw) : Raw :=
  content.take offset ++ List.replicate (offset - content.length) (Char.ofNat 0) ++ bs ++
    content.drop (offset + bs.length)

/-- Writes to a channel of the terminal. -/
def writeTerminal (channel : Channel) (bs : Raw) (s : State) : Except Errno Nat × State :=
  let bytes := Raw.toBytes bs
  let (result, sink) := (s.terminal.sink channel).deliver bytes
  ((result.mapError codeOf).map fun _ => bs.length,
    { s with terminal := s.terminal.withSink channel { sink with taken := [] }
             written := { time := s.time, channel, bytes } :: s.written })

/-- Writes to a node at the place of an open file. -/
def writeNode (id : Nat) (f : OpenFile) (i : Inode) (bs : Raw) (s : State) :
    Except Errno Nat × State :=
  match s.files.file? i with
  | some (.regular content) =>
    let offset := if f.appends then content.length else f.offset
    (.ok bs.length,
      { s with files := s.files.setContent i (overwrite content offset bs)
               opened := s.opened.set! id { f with offset := offset + bs.length } })
  | some (.device .full) => (.error Errno.noSpace, s)
  | _ => (.ok bs.length, s)

/-- What becomes of a process that writes where nobody reads. -/
def refuseWriter (p : ProcessId) (s : State) : Progress (Except Errno Nat) :=
  match (s.entry? p).bind fun e => e.dispositions.lookup Signal.brokenPipe with
  | none => .died (.signal Signal.brokenPipe)
  | some _ => .done (.error Errno.brokenPipe) (Signal.send s p Signal.brokenPipe)

/-- Writes bytes, or the first of them, and tells how many. -/
def write (slot : Nat) (bs : Raw) : Job (Except Errno Nat) :=
  Job.ask fun p s =>
    match s.slot? p slot with
    | none => .done (.error Errno.badDescriptor) s
    | some id =>
      match s.opened[id]? with
      | none => .done (.error Errno.badDescriptor) s
      | some f =>
        if !f.writable then .done (.error Errno.badDescriptor) s
        else match f.object with
          | .terminal .output => finish p (writeTerminal .output bs s)
          | .terminal .error => finish p (writeTerminal .error bs s)
          | .terminal .input => .done (.error Errno.badDescriptor) s
          | .node i => finish p (writeNode id f i bs s)
          | .pipeReader _ => .done (.error Errno.badDescriptor) s
          | .pipeWriter pipe =>
            let content := (s.pipes[pipe]?).getD []
            let room := pipeCapacity - content.length
            if !s.isHeld fun g => g.object == .pipeReader pipe then refuseWriter p s
            else if room = 0 || (decide (bs.length ≤ pipeAtom) && decide (room < bs.length)) then
              .wait none
            else
              let part := bs.take room
              .done (.ok part.length) { s with pipes := s.pipes.set! pipe (content ++ part) }
where
  /-- A terminal that nobody looks at is like a pipe without a reader. -/
  finish (p : ProcessId) (r : Except Errno Nat × State) : Progress (Except Errno Nat) :=
    match r.1 with
    | .error e => if e = Errno.brokenPipe then refuseWriter p r.2 else .done r.1 r.2
    | _ => .done r.1 r.2

/-- Writes bytes in at most so many pieces. -/
def writePieces (slot : Nat) : Nat → Raw → Job (Except Errno Unit)
  | 0, _ => return .ok ()
  | times + 1, bs => do
    if bs.isEmpty then return .ok ()
    match ← write slot bs with
    | .error e => return .error e
    | .ok n => writePieces slot times (bs.drop n)

/-- Writes all bytes. -/
def writeAll (slot : Nat) (bs : Raw) : Job (Except Errno Unit) :=
  writePieces slot (bs.length + 1) bs

/-! ## Seeking -/

/-- Moves the place in the input of the terminal. -/
def seekTerminal (offset : Nat) (s : State) : State :=
  let all := s.used ++ s.terminal.input.bytes
  let offset := min offset all.length
  { s with terminal := { s.terminal with input := Source.ofBytes (all.drop offset) }
           used := all.take offset
           taken := offset }

/-- The place in an open file, and the place of its end. -/
def extentOf (f : OpenFile) (s : State) : Except Errno (Nat × Nat) :=
  match f.object with
  | .terminal .input =>
    if s.terminal.seekable then .ok (s.used.length, s.used.length + s.terminal.input.bytes.length)
    else .error Errno.notSeekable
  | .terminal _ => .error Errno.notSeekable
  | .node i =>
    match s.files.file? i with
    | some (.regular content) => .ok (f.offset, content.length)
    | _ => .ok (0, 0)
  | _ => .error Errno.notSeekable

/-- The place in an open file, and the place of its end. -/
def place (slot : Nat) : Job (Except Errno (Nat × Nat)) :=
  Job.act fun p s =>
    match s.openFile? p slot with
    | none => (.error Errno.badDescriptor, s)
    | some f => (extentOf f s, s)

/-- Goes to a place in an open file. -/
def seek (slot offset : Nat) : Job (Except Errno Unit) :=
  Job.act fun p s =>
    match s.slot? p slot, s.openFile? p slot with
    | some id, some f =>
      match extentOf f s with
      | .error e => (.error e, s)
      | .ok _ =>
        match f.object with
        | .terminal _ => (.ok (), seekTerminal offset s)
        | _ => (.ok (), { s with opened := s.opened.set! id { f with offset := offset } })
    | _, _ => (.error Errno.badDescriptor, s)

/-- Gives back the last bytes read, if the open file can step back. -/
def stepBack (slot count : Nat) : Job Unit := do
  match ← place slot with
  | .ok (at', _) => let _ ← seek slot (at' - count)
  | .error _ => return

/-! ## Slots -/

/-- The first number from `least` on that a process has no slot with. -/
def freeSlot (slots : List Slot) (least : Nat) : Nat :=
  ((List.range (slots.length + 1)).map (· + least)).find?
    (fun n => !slots.any (·.number == n)) |>.getD least

/-- Puts an open file in a slot, in place of what is there. -/
def install (p : ProcessId) (slot : Slot) (s : State) : State :=
  s.modifyEntry p fun e =>
    { e with slots := slot :: e.slots.filter (·.number != slot.number) }

/-- Puts an open file in the first free slot from `least` on. -/
def place' (p : ProcessId) (least id : Nat) (isPrivate : Bool) (s : State) : Nat × State :=
  let slots := ((s.entry? p).map Entry.slots).getD []
  let number := freeSlot slots least
  (number, install p { number, openFile := id, isPrivate } s)

/-- Gives up a slot. -/
def close (slot : Nat) : Job (Except Errno Unit) :=
  Job.act fun p s =>
    if (s.slot? p slot).isNone then (.error Errno.badDescriptor, s)
    else (.ok (), s.modifyEntry p fun e =>
      { e with slots := e.slots.filter (·.number != slot) })

/-- Lets a slot share the open file of another. -/
def share (source slot : Nat) : Job (Except Errno Unit) :=
  Job.act fun p s =>
    match s.slot? p source with
    | none => (.error Errno.badDescriptor, s)
    | some id =>
      if source = slot then (.ok (), s)
      else (.ok (), install p { number := slot, openFile := id } s)

/-- Lets a free slot from `least` on share the open file of another; programs that take over do not
get it. -/
def keep (source least : Nat) : Job (Except Errno Nat) :=
  Job.act fun p s =>
    match s.slot? p source with
    | none => (.error Errno.badDescriptor, s)
    | some id => let (n, s) := place' p least id true s; (.ok n, s)

/-- Does the process have a slot? -/
def hasSlot (slot : Nat) : Job Bool := Job.act fun p s => ((s.slot? p slot).isSome, s)

/-- Makes a pipe, and gives the slots of its reading and its writing end. -/
def makePipe : Job (Nat × Nat) :=
  Job.act fun p s =>
    let pipe := s.pipes.size
    let s := { s with pipes := s.pipes.push [] }
    let (r, s) := s.addOpenFile { object := .pipeReader pipe, readable := true }
    let (w, s) := s.addOpenFile { object := .pipeWriter pipe, writable := true }
    let (reader, s) := place' p 0 r false s
    let (writer, s) := place' p 0 w false s
    ((reader, writer), s)

/-! ## Opening -/

/-- How a file is opened. -/
structure Opening where
  reads : Bool := false
  writes : Bool := false
  appends : Bool := false
  /-- Made, with these permissions, if it is missing. -/
  creates : Option Nat := none
  /-- Refused if it is there. -/
  fresh : Bool := false
  empties : Bool := false

/-- Opening for reading. -/
def Opening.reading : Opening := { reads := true }

/-- Opening for writing from the start or at the end. -/
def Opening.writing (mode : WriteMode) : Opening :=
  { writes := true, creates := some 0o666, appends := mode == .append, empties := mode == .truncate }

/-- Finds the node to open, made if need be. -/
def nodeToOpen (directory : Inode) (path : Raw) (how : Opening) (newMode : Nat → Nat) (s : State) :
    Except Errno (Inode × State) := do
  match how.creates with
  | some mode =>
    let (i, files) ← s.files.openOrCreate directory path (newMode mode) how.fresh
    return (i, { s with files })
  | none =>
    let i ← s.files.find directory path true
    if how.writes && s.files.isDirectory i then .error Errno.isDirectory
    else if how.reads && !s.files.allows i .toRead then .error Errno.accessDenied
    else if how.writes && !s.files.allows i .toWrite then .error Errno.accessDenied
    else return (i, s)

/-- Opens a node. A node that stands for an open file of the process opens what that is open on. -/
def openNode (how : Opening) (own : Nat → Option OpenFile) (i : Inode) (s : State) :
    Except Errno (Nat × State) :=
  let fresh (object : Object) : OpenFile :=
    { object, readable := how.reads, writable := how.writes, appends := how.appends }
  let opened (i : Inode) : Nat × State :=
    let s := if how.empties then { s with files := s.files.setContent i [] } else s
    s.addOpenFile (fresh (.node i))
  match s.files.file? i with
  | some (.device .console) => .error Errno.noDevice
  | some (.device (.own slot)) =>
    match own slot with
    | none => .error Errno.noEntry
    | some f =>
      match f.object with
      | .node i => .ok (opened i)
      | object => .ok (s.addOpenFile (fresh object))
  | _ => .ok (opened i)

/-- Opens a file and gives its slot. -/
def openFile (path : Raw) (how : Opening) : Job (Except Errno Nat) :=
  Job.act fun p s =>
    let result := do
      let (i, s) ← nodeToOpen (s.directoryOf p) path how (s.newMode p) s
      openNode how (s.openFile? p) i s
    match result with
    | .error e => (.error e, s)
    | .ok (id, s) => let (n, s) := place' p 0 id false s; (.ok n, s)

/-- What is behind a slot. -/
def openFileOf (slot : Nat) : Job (Option OpenFile) := Job.act fun p s => (s.openFile? p slot, s)

end PipeShell.Machine.Kernel
