import PipeShell.Interpreter
import PipeShell.Stream.Lines

/-!
# The local shell

A shell that prompts for a line, carries it out and prompts again, until `exit` or the end of its
input. Rejections go to the terminal's error channel. Lines and prompts are those of the terminal,
or have a source and a sink of their own. The shell's status is that of the last pipeline.
-/

set_option autoImplicit false

namespace PipeShell.LocalShell

/-- What a local shell shows when it is ready for a line. -/
def prompt : String := "dsh4> "

/-- Where lines come from and prompts go to. -/
structure Dialogue where
  /-- Bytes read and not yet used. -/
  held : Bytes := []
  /-- The source and the sink, if they are not the terminal's. -/
  own : Option (Source × Sink) := none

/-- The reader of lines. -/
def Dialogue.lines (d : Dialogue) (t : Terminal) : Lines :=
  { held := d.held, source := (d.own.map Prod.fst).getD t.input }

/-- What is left to read. -/
def Dialogue.size (d : Dialogue) (t : Terminal) : Nat := (d.lines t).size

/-- Dialogue and terminal after reading. -/
def Dialogue.withLines (d : Dialogue) (t : Terminal) (r : Lines) : Dialogue × Terminal :=
  match d.own with
  | some (_, sink) => ({ held := r.held, own := some (r.source, sink) }, t)
  | none => ({ d with held := r.held }, { t with input := r.source })

/-- Shows a text. -/
def Dialogue.display (d : Dialogue) (t : Terminal) (text : Text) :
    Except Failure Unit × Dialogue × Terminal :=
  match d.own with
  | some (source, sink) =>
    let (result, sink) := sink.send [Utf8.encode text]
    (result, { d with own := some (source, sink) }, t)
  | none =>
    let (result, output) := t.output.send [Utf8.encode text]
    (result, d, { t with output })

/-- A local shell at work. -/
structure State (σ : Type) where
  shell : Shell σ
  dialogue : Dialogue

variable {σ : Type} (host : Host σ)

namespace State

/-- What is left to read. -/
def size (s : State σ) : Nat := s.dialogue.size s.shell.terminal

/-- Shows a text. -/
def display (text : Text) (s : State σ) : Except Failure Unit × State σ :=
  let (result, dialogue, terminal) := s.dialogue.display s.shell.terminal text
  (result, { shell := { s.shell with terminal }, dialogue })

/-- Reads a line. -/
def readLine (s : State σ) : Except Failure (Option Text) × State σ :=
  let (result, lines) := (s.dialogue.lines s.shell.terminal).next
  let (dialogue, terminal) := s.dialogue.withLines s.shell.terminal lines
  (result, { shell := { s.shell with terminal }, dialogue })

end State

/-- Reports why a line was not carried out. A report that cannot be written is lost. -/
def report (rejection : Rejection) (s : Shell σ) : Shell σ :=
  match host.attach .error s.world.system with
  | (.error _, system) => s.withSystem system
  | (.ok (), system) =>
    { s.withSystem system with terminal := s.terminal.report .error rejection.message }

/-- Carries out a line. True when the shell is to end. -/
def carryOut (i : Interpreter) (line : Text) (s : Shell σ) : Except Failure Bool × Shell σ :=
  match i.execute host line s with
  | (.error f, s) => (.error f, s)
  | (.ok (.rejected r), s) => (.ok false, report host r s)
  | (.ok (.builtin (.control .exitSession)), s) => (.ok true, s)
  | (.ok _, s) => (.ok false, s)

/-- Prompts, and reads and carries out a line. True when the shell is to end. -/
def step (i : Interpreter) (s : State σ) : Except Failure Bool × State σ :=
  match s.display prompt.toList with
  | (.error f, s) => (.error f, s)
  | (.ok (), s) =>
    match s.readLine with
    | (.error f, s) => (.error f, s)
    | (.ok none, s) => let (result, s) := s.display ['\n']; (result.map fun _ => true, s)
    | (.ok (some line), s) =>
      let (result, shell) := carryOut host i line s.shell
      (result, { s with shell })

/-! ## What is used up -/

theorem display_size (text : Text) (s : State σ) : (s.display text).2.size = s.size := by
  rcases s with ⟨shell, held, _ | ⟨source, sink⟩⟩ <;> rfl

theorem readLine_size {s : State σ} {line : Text} (h : s.readLine.1 = .ok (some line)) :
    s.readLine.2.size < s.size := by
  have hlt := Lines.next_size h
  rcases s with ⟨shell, held, _ | ⟨source, sink⟩⟩ <;> exact hlt

theorem report_unread (r : Rejection) (s : Shell σ) : (report host r s).unread = s.unread := by
  unfold report
  split <;> simp [Shell.unread, Shell.withSystem]

theorem carryOut_unread (i : Interpreter) (line : Text) (s : Shell σ) :
    (carryOut host i line s).2.unread ≤ s.unread := by
  have h := i.execute_unread host line s
  unfold carryOut
  split <;> rename_i hr <;> rw [hr] at h
  · exact h
  · rw [report_unread]; exact h
  · exact h
  · exact h

theorem size_le_of_unread {s : State σ} {shell : Shell σ} (h : shell.unread ≤ s.shell.unread) :
    ({ s with shell } : State σ).size ≤ s.size := by
  rcases s with ⟨old, held, _ | ⟨source, sink⟩⟩
  · exact Nat.add_le_add_left h _
  · exact Nat.le_refl _

theorem step_size {i : Interpreter} {s : State σ} (h : (step host i s).1 = .ok false) :
    (step host i s).2.size < s.size := by
  have hd := display_size prompt.toList s
  unfold step at h ⊢
  split at h
  · simp at h
  · rename_i s₁ hs₁
    rw [hs₁] at hd
    simp only
    split at h
    · simp at h
    · rename_i s₂ hs₂
      cases hr : (s₂.display ['\n']).1 <;> simp [hr, Except.map] at h
    · rename_i line s₂ hs₂
      have hlt := readLine_size (show _ = Except.ok (some line) from congrArg Prod.fst hs₂)
      rw [hs₂] at hlt
      simp only
      exact Nat.lt_of_le_of_lt (size_le_of_unread (carryOut_unread host i line s₂.shell))
        (Nat.lt_of_lt_of_eq hlt hd)

/-- Runs to the end, and gives the status of the last pipeline. -/
def run (i : Interpreter) (s : State σ) : Except Failure Status × State σ :=
  match _h : step host i s with
  | (.error f, s) => (.error f, s)
  | (.ok true, s) => (.ok s.shell.lastStatus, s)
  | (.ok false, s) => run i s
termination_by s.size
decreasing_by
  have hlt := step_size host (show _ = Except.ok false from congrArg Prod.fst _h)
  rw [_h] at hlt
  exact hlt

/-- A step that ends the shell is the last one. -/
theorem run_of_over {i : Interpreter} {s s' : State σ} (h : step host i s = (.ok true, s')) :
    run host i s = (.ok s'.shell.lastStatus, s') := by
  rw [run]
  split <;> rename_i hs <;> rw [h] at hs <;> cases hs
  rfl

/-- After a step that does not, the shell goes on. -/
theorem run_of_on {i : Interpreter} {s s' : State σ} (h : step host i s = (.ok false, s')) :
    run host i s = run host i s' := by
  rw [run.eq_def host i s]
  split <;> rename_i hs <;> rw [h] at hs <;> cases hs
  rfl

/-- A step that fails is the last one, too. -/
theorem run_of_failed {i : Interpreter} {s s' : State σ} {f : Failure}
    (h : step host i s = (.error f, s')) : run host i s = (.error f, s') := by
  rw [run]
  split <;> rename_i hs <;> rw [h] at hs <;> cases hs
  rfl

end PipeShell.LocalShell
