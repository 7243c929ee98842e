import PipeShell.Machine.Kernel.Calls
import PipeShell.Machine.Quoting

/-!
# What utilities print

A utility collects what it prints and writes it out in blocks, or line by line, and what is left at
its end. A complaint, with the utility's name in front, is written at once, behind what was
collected. A utility whose output was refused complains of that at its end and fails.
-/

set_option autoImplicit false

namespace PipeShell.Machine

/-- What a utility has printed and not yet written out. -/
structure Output where
  /-- What stands in front of complaints. -/
  name : Raw := []
  /-- The slot it is written to. -/
  slot : Nat := 1
  /-- The pieces that were collected, last one first, and their length. -/
  pieces : List Raw := []
  size : Nat := 0
  /-- Is every line written out? -/
  byLine : Bool := false
  /-- Why something was refused. -/
  refusal : Option Errno := none
  /-- Was a complaint refused? -/
  unheard : Bool := false
  /-- The status of a utility whose output is refused. -/
  failure : Int := 1

/-- A part of a utility. -/
abbrev Act := StateT Output Job

namespace Act

/-- The number of bytes that are collected. -/
def block : Nat := 4096

/-- Asks the kernel. -/
def ask {α : Type} (job : Job α) : Act α := liftM job

/-- Writes bytes out at once. -/
def writeOut (bs : Raw) : Act Unit := do
  unless bs.isEmpty do
    match ← ask (Kernel.writeAll (← get).slot bs) with
    | .ok () => return
    | .error e => modify fun o => { o with refusal := some e }

/-- The bytes that were collected. -/
def collected (o : Output) : Raw := o.pieces.reverse.flatten

/-- Writes out all that was collected. -/
def flush : Act Unit := do
  let o ← get
  set { o with pieces := [], size := 0 }
  writeOut (collected o)

/-- Writes out a first part of what was collected. -/
def flushFirst (n : Nat) : Act Unit := do
  let o ← get
  let all := collected o
  set { o with pieces := [all.drop n], size := o.size - n }
  writeOut (all.take n)

/-- The length of the part of some bytes that ends in the last newline. -/
def throughLastLine (bs : Raw) : Nat := (bs.reverse.dropWhile (· != '\n')).length

/-- Prints bytes. -/
def emit (bs : Raw) : Act Unit := do
  let n := bs.length
  modify fun o => { o with pieces := bs :: o.pieces, size := o.size + n }
  let o ← get
  if o.byLine then
    if bs.contains '\n' then flushFirst (o.size - n + throughLastLine bs)
  else if block < o.size then flushFirst (o.size / block * block)

/-- Prints a line. -/
def emitLine (line : Raw) : Act Unit := emit (line ++ ['\n'])

/-- Writes to the slot for errors. -/
def writeError (bs : Raw) : Act Unit := do
  match ← ask (Kernel.writeAll 2 bs) with
  | .ok () => return
  | .error _ => modify fun o => { o with unheard := true }

/-- Complains, with the utility's name in front, behind all that it has printed. -/
def complain (text : Raw) : Act Unit := do
  flush
  writeError ((← get).name ++ ": ".toList ++ text ++ ['\n'])

/-- A complaint with the reason behind it. -/
def complainOf (text : Raw) (e : Errno) : Act Unit :=
  complain (text ++ ": ".toList ++ Errno.text e)

/-- Ends the utility. Output that is refused now or was refused before makes it fail; nothing is
said of output that nobody could have taken when there is none. -/
def exit {α : Type} (code : Int) : Act α := do
  let o ← get
  let result ← if o.size = 0 then ask (Kernel.close o.slot)
    else do
      let result ← ask (Kernel.writeAll o.slot (collected o))
      let _ ← ask (Kernel.close o.slot)
      pure result
  set { o with pieces := [], size := 0 }
  let fault := match result with
    | .error e =>
      if o.refusal.isSome || decide (0 < o.size) || e != Errno.badDescriptor then some (some e) else none
    | .ok () => if o.refusal.isSome then some none else none
  match fault with
  | none => ask (Job.exitWith (if o.unheard then o.failure else code))
  | some none =>
    complain "write error".toList
    ask (Job.exitWith o.failure)
  | some (some e) =>
    complainOf "write error".toList e
    ask (Job.exitWith o.failure)

/-- Complains and ends. -/
def fail {α : Type} (code : Int) (text : Raw) : Act α := do
  complain text
  exit code

/-- Complains with a reason and ends. -/
def failOf {α : Type} (code : Int) (text : Raw) (e : Errno) : Act α := do
  complainOf text e
  exit code

/-- Fails at once if output was refused. What was collected is lost. -/
def demandHeard (code : Int) (text : Raw) : Act Unit := do
  if let some e := (← get).refusal then
    modify fun o => { o with pieces := [], size := 0, refusal := none }
    failOf code text e

/-- Writes out at once and past what was collected, or fails. -/
def deliver (code : Int) (bs : Raw) : Act Unit := do
  match ← ask (Kernel.writeAll (← get).slot bs) with
  | .ok () => return
  | .error e => failOf code "write error".toList e

/-- The hint where to read more. -/
def hint : Act Unit := do
  writeError ("Try '".toList ++ (← get).name ++ " --help' for more information.\n".toList)

/-- Ends after a command line that makes no sense. -/
def misuse {α : Type} (code : Int) : Act α := do
  hint
  exit code

end Act

/-- A program that comes with the machine. -/
structure Utility where
  /-- Its status when its output is refused. -/
  failure : Int := 1
  byLine : Bool := false
  main : Task → Act Int

namespace Utility

/-- A utility as a program. -/
def program (u : Utility) (task : Task) : Program :=
  let output : Output := { name := task.name, failure := u.failure, byLine := u.byLine }
  Job.toProgram do
    let (code, _) ← StateT.run (do Act.exit (α := Int) (← u.main task)) output
    return code

end Utility

end PipeShell.Machine
