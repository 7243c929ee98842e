import PipeShell.Client
import PipeShell.Session
import PipeShell.Stream.Lines

/-!
# The remote shell

A shell that prompts for a line, has a server carry it out, shows the response and prompts again,
until its input ends or the line was a control word. Standing in for a server, a session can be the
far end of the connection: it answers what it has received whole.
-/

set_option autoImplicit false

namespace PipeShell.RemoteShell

/-- What a remote shell shows when it is ready for a line. -/
def prompt : String := "rdsh> "

/-- Why a remote shell ended early. -/
inductive Fault where
  /-- Its own input or output failed. -/
  | stream (failure : Failure)
  /-- The server could not be asked, or did not answer. -/
  | client (error : ClientError)
  deriving DecidableEq, Repr

/-- The wording of a fault. -/
def Fault.message : Fault → Text
  | stream f => f.message
  | client e => e.message

/-- A remote shell at work. -/
structure State (τ : Type) where
  client : Client τ
  lines : Lines
  out : Sink := {}

variable {τ : Type} (peer : Peer τ)

/-- Has the server carry out a line. True when the line was a control word. -/
def carryOut (line : Text) (s : State τ) : Except Fault Bool × State τ :=
  match s.client.execute peer line s.out with
  | (.error e, client, out) => (.error (.client e), { s with client, out })
  | (.ok (), client, out) =>
    (.ok (ControlAction.ofWord? line).isSome, { s with client, out })

/-- Prompts, and reads and sends a line. True when the shell is to end. -/
def step (s : State τ) : Except Fault Bool × State τ :=
  match s.out.send [Utf8.encode prompt.toList] with
  | (.error f, out) => (.error (.stream f), { s with out })
  | (.ok (), out) =>
    match s.lines.next with
    | (.error f, lines) => (.error (.stream f), { s with out, lines })
    | (.ok none, lines) =>
      match out.deliver [Lines.newline] with
      | (.error f, out) => (.error (.stream f), { s with out, lines })
      | (.ok (), out) => (.ok true, { s with out, lines })
    | (.ok (some line), lines) => carryOut peer line { s with out, lines }

theorem carryOut_lines (line : Text) (s : State τ) : (carryOut peer line s).2.lines = s.lines := by
  unfold carryOut
  split <;> rfl

theorem step_size {s : State τ} (h : (step peer s).1 = .ok false) :
    (step peer s).2.lines.size < s.lines.size := by
  unfold step at h ⊢
  split at h
  · simp at h
  · rename_i out hout
    split at h
    · simp at h
    · split at h <;> simp at h
    · rename_i line lines hl
      have hlt := Lines.next_size (show _ = Except.ok (some line) from congrArg Prod.fst hl)
      rw [hl] at hlt
      simp only [carryOut_lines]
      exact hlt

/-- Runs to the end. -/
def run (s : State τ) : Except Fault Unit × State τ :=
  match _h : step peer s with
  | (.error f, s) => (.error f, s)
  | (.ok true, s) => (.ok (), s)
  | (.ok false, s) => run s
termination_by s.lines.size
decreasing_by
  have hlt := step_size peer (show _ = Except.ok false from congrArg Prod.fst _h)
  rw [_h] at hlt
  exact hlt

end PipeShell.RemoteShell
