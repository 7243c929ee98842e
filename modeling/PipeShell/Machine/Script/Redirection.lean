import PipeShell.Machine.Script.Expansion

/-!
# Redirections of an interpreter

The targets of redirections are expanded first; then one slot after the other is connected. What was
in a slot is kept, so that it can be put back when the command has ended.
-/

set_option autoImplicit false

namespace PipeShell.Machine.Script

/-- What a slot is connected to. -/
inductive Source where
  | path (path : Raw)
  /-- Another slot, or nothing. -/
  | slot (slot : Option Nat)
  | text (text : Raw)

/-- A redirection whose target is expanded. -/
structure Resolved where
  slot : Nat
  connection : Connection
  source : Source

namespace Redirecting

open Shell

/-- The slot that a text names; a dash names none. -/
def slotNamed (text : Raw) : Shell (Option Nat) :=
  match text with
  | ['-'] => return none
  | [c] => if c.isDigit then return some (c.toNat - '0'.toNat) else bad
  | _ => bad
where
  /-- The text names no slot. -/
  bad : Shell (Option Nat) := do
    modify fun env => { env with command := none }
    fail "Syntax error: Bad fd number".toList

/-- Expands the target of a redirection. -/
def resolve (put : Option Node → Shell Raw) (r : Redirection) : Shell Resolved := do
  match r with
  | .mk slot connection target =>
    match connection with
    | .document id =>
      let w := ((← get).documents.lookup id).getD []
      return { slot, connection, source := .text (← expandDocument put w) }
    | .sharing =>
      return { slot, connection, source := .slot (← slotNamed (← expandText put target)) }
    | _ => return { slot, connection, source := .path (← expandText put target) }

/-- Fails because a file cannot be opened. -/
def failToOpen {α : Type} (path : Raw) (e : Errno) : Shell α :=
  fail ("cannot open ".toList ++ path ++ ": ".toList ++ reason "No such file" e)

/-- Fails because a file cannot be made. -/
def failToMake {α : Type} (path : Raw) (e : Errno) : Shell α :=
  fail ("cannot create ".toList ++ path ++ ": ".toList ++ reason "Directory nonexistent" e)

/-- Opens a file in a new slot. -/
def openPath (path : Raw) (how : Kernel.Opening)
    (failing : Raw → Errno → Shell Nat) : Shell Nat := do
  match ← ask (Kernel.openFile path how) with
  | .ok slot => return slot
  | .error e => failing path e

/-- Opens a file for writing, protected if it is there. -/
def openProtected (path : Raw) : Shell Nat := do
  match ← ask (Kernel.status path true) with
  | .error _ => openPath path { writes := true, creates := some 0o666, fresh := true } failToMake
  | .ok { file := .regular _, .. } => failToMake path Errno.alreadyExists
  | .ok _ => openPath path { writes := true } failToMake

/-- A pipe that holds a text. -/
def openText (text : Raw) : Shell Nat := do
  let (reader, writer) ← ask Kernel.makePipe
  if text.length ≤ Kernel.pipeAtom then
    let _ ← ask (Kernel.writeAll writer text)
  else
    let _ ← ask (Job.fork do
      let _ ← Kernel.close reader
      let _ ← Kernel.writeAll writer text)
  let _ ← ask (Kernel.close writer)
  return reader

/-- Opens what a slot is to be connected to; nothing if it is itself. The flag tells that the slot
is a new one. -/
def openSource (r : Resolved) : Shell (Option (Option Nat × Bool)) := do
  match r.source with
  | .slot other => return if other == some r.slot then none else some (other, false)
  | .text text => return some (some (← openText text), true)
  | .path path =>
    let slot ← match r.connection with
      | .output =>
        if ← isOn 'C' then openProtected path
        else openPath path (Kernel.Opening.writing .truncate) failToMake
      | .replacing => openPath path (Kernel.Opening.writing .truncate) failToMake
      | .appending => openPath path (Kernel.Opening.writing .append) failToMake
      | .both => openPath path { reads := true, writes := true, creates := some 0o666 } failToMake
      | _ => openPath path Kernel.Opening.reading failToOpen
    return some (some slot, true)

/-- The least slot for copies. -/
def copies : Nat := 10

/-- Notes what is in a slot, unless that was noted before. -/
def remember (slot : Nat) (isNew : Bool) : Shell Unit := do
  match (← get).redirected with
  | [] => return
  | saved :: outer =>
    if saved.any (·.1 == slot) then return
    let copy ← if isNew then pure none
      else do
        match ← ask (Kernel.keep slot copies) with
        | .error _ => pure none
        | .ok copy => do
          let _ ← ask (Kernel.close slot)
          pure (some copy)
    modify fun env => { env with redirected := ((slot, copy) :: saved) :: outer }

/-- Connects a slot. -/
def connect (keeps : Bool) (r : Resolved) : Shell Unit := do
  match ← openSource r with
  | none => return
  | some (source, isNew) =>
    if keeps then remember r.slot (source == some r.slot)
    match source with
    | none =>
      let _ ← ask (Kernel.close r.slot)
    | some other =>
      if other = r.slot then return
      let result ← ask (Kernel.share other r.slot)
      if isNew then
        let _ ← ask (Kernel.close other)
      match result with
      | .ok () => return
      | .error e =>
        fail (Numeral.ofNat other ++ ": ".toList ++ Errno.text e)

/-- Connects slots for good. -/
def connectAll (rs : List Resolved) : Shell Unit := rs.forM (connect false)

/-- Starts to note what is in slots. -/
def enter : Shell Unit := modify fun env => { env with redirected := [] :: env.redirected }

/-- Connects slots and notes what was in them. -/
def connectNoted (rs : List Resolved) : Shell Unit := rs.forM (connect true)

/-- Puts back what was in slots, or forgets it. -/
def leave (forgets : Bool) : Shell Unit := do
  match (← get).redirected with
  | [] => return
  | saved :: outer =>
    modify fun env => { env with redirected := outer }
    for (slot, copy) in saved do
      match copy with
      | none =>
        unless forgets do
          let _ ← ask (Kernel.close slot)
      | some copy =>
        unless forgets do
          let _ ← ask (Kernel.share copy slot)
        let _ ← ask (Kernel.close copy)

/-- Leaves until so many commands are at work. -/
def leaveTo (depth : Nat) : Nat → Shell Unit
  | 0 => return
  | steps + 1 => do
    if depth < (← get).redirected.length then
      leave false
      leaveTo depth steps

end Redirecting

end PipeShell.Machine.Script
