import PipeShell.Machine.Utility.Output

/-!
# What utilities read

Operands of many utilities are files to read; a dash stands for the standard input. An input is read
in blocks, and from the blocks lines are taken, so no more is read than is needed. What was read too
far can be given back where the file can be read again.
-/

set_option autoImplicit false

namespace PipeShell.Machine

/-- An input that is read by pieces. -/
structure Input where
  slot : Nat := 0
  /-- What has been read and not yet taken. -/
  buffer : Raw := []
  /-- Has the end been met? -/
  ended : Bool := false
  /-- Why reading has stopped. -/
  fault : Option Errno := none
  /-- The number of bytes that are read at a time. -/
  block : Nat := 4096

/-- A line without its end, and whether the end was there. -/
structure InputLine where
  text : Raw
  closed : Bool := true

/-- The line with its end. -/
def InputLine.whole (l : InputLine) (mark : Char := '\n') : Raw :=
  if l.closed then l.text ++ [mark] else l.text

namespace Input

/-- Reads once; at the end nothing is added. -/
def fill (i : Input) : Act Input := do
  if i.ended then return i
  match ← Act.ask (Kernel.read i.slot i.block) with
  | .error e => return { i with ended := true, fault := some e }
  | .ok [] => return { i with ended := true }
  | .ok more => return { i with buffer := if i.buffer.isEmpty then more else i.buffer ++ more }

/-- Takes what is at hand, or else what comes next. -/
def chunk (i : Input) : Act (Raw × Input) := do
  let i ← if i.buffer.isEmpty then i.fill else pure i
  return (i.buffer, { i with buffer := [] })

/-- Takes a line whose front has been read already, piece by piece. -/
def lineBehind (mark : Char) : Nat → List Raw → Input → Act (Option InputLine × Input)
  | 0, _, i => return (none, i)
  | times + 1, front, i => do
    let (piece, rest) := i.buffer.span (· != mark)
    match rest with
    | _ :: rest =>
      let text := if front.isEmpty then piece else (piece :: front).reverse.flatten
      return (some { text }, { i with buffer := rest })
    | [] =>
      let front := if piece.isEmpty then front else piece :: front
      let i ← ({ i with buffer := [] } : Input).fill
      if i.ended then
        if front.isEmpty then return (none, i)
        else return (some { text := front.reverse.flatten, closed := false }, i)
      else lineBehind mark times front i

/-- Takes the next line. -/
def line (i : Input) (mark : Char := '\n') : Act (Option InputLine × Input) :=
  lineBehind mark Kernel.endlessly [] i

/-- Works on line after line, in so many steps, as long as the work goes on. -/
def foldLines {σ : Type} (mark : Char) (work : σ → InputLine → Act (σ × Bool)) :
    Nat → σ → Input → Act (σ × Input)
  | 0, state, i => return (state, i)
  | times + 1, state, i => do
    match ← i.line mark with
    | (none, i) => return (state, i)
    | (some l, i) =>
      let (state, goesOn) ← work state l
      if goesOn then foldLines mark work times state i else return (state, i)

/-- Works on piece after piece, in so many steps. -/
def foldChunks {σ : Type} (work : σ → Raw → Act σ) : Nat → σ → Input → Act (σ × Input)
  | 0, state, i => return (state, i)
  | times + 1, state, i => do
    let (piece, i) ← i.chunk
    if piece.isEmpty then return (state, i)
    else foldChunks work times (← work state piece) i

/-- Gives back what has been read and not taken. -/
def release (i : Input) : Act Unit := do
  unless i.buffer.isEmpty do Act.ask (Kernel.stepBack i.slot i.buffer.length)

/-- Everything that is still to come, and why reading has stopped. -/
def all (i : Input) : Act (Raw × Option Errno) := do
  let (pieces, i) ← foldChunks (fun pieces piece => return piece :: pieces) Kernel.endlessly [] i
  return (pieces.reverse.flatten, i.fault)

end Input

namespace Act

/-- The operands, or the standard input where there are none. -/
def orInput (operands : List Raw) : List Raw := if operands.isEmpty then [['-']] else operands

/-- Opens an operand for reading. -/
def openOperand (path : Raw) : Act (Except Errno Nat) :=
  if path == ['-'] then return .ok 0 else ask (Kernel.openFile path Kernel.Opening.reading)

/-- Closes an operand. -/
def closeOperand (path : Raw) (slot : Nat) : Act Unit := do
  unless path == ['-'] do
    let _ ← ask (Kernel.close slot)

/-- The name of an operand in messages. -/
def titled (path : Raw) : Raw := if path == ['-'] then "standard input".toList else path

end Act

end PipeShell.Machine
