import PipeShell.Builtin.Dispatch
import PipeShell.Command.Parser
import PipeShell.Pipeline.Run

/-!
# Interpreting a line

The way every line goes, whoever sent it: it is read, tried as a built-in, and else run as a
pipeline. A line that is not carried out is rejected with a reason that the caller reports. Only one
thing is a failure of the shell itself: that it could not send what a built-in had to say.

Proves: a line never gives the terminal more input than it had (`execute_unread`).
-/

set_option autoImplicit false

namespace PipeShell

/-- Why a line was not carried out. -/
inductive Rejection where
  | parse (error : ParseError)
  | builtin (error : BuiltinError)
  /-- Pipes or streams could not be had. -/
  | resource (failure : Failure)
  deriving DecidableEq, Repr

namespace Rejection

/-- The wording of a rejection. -/
def message : Rejection → Text
  | parse e => e.message
  | builtin e => e.message
  | resource f => "error: cannot run command: ".toList ++ f.message

/-- Is the rejection no error but a warning? -/
def isWarning : Rejection → Bool
  | parse e => e.isWarning
  | _ => false

end Rejection

/-- What came of a line. -/
inductive LineResult where
  | rejected (rejection : Rejection)
  | builtin (dispatch : Dispatch)
  | pipeline (outcome : Outcome)
  deriving DecidableEq, Repr

/-- The limits and the built-ins by which lines are carried out. -/
structure Interpreter where
  limits : Limits := {}
  offered : BuiltinSet := BuiltinSet.atTerminal

namespace Interpreter

variable {σ : Type} (host : Host σ)

/-- Runs a pipeline that is no built-in. -/
def runPipeline (pipeline : Pipeline) (s : Shell σ) : LineResult × Shell σ :=
  match Pipeline.run host pipeline s with
  | (.ok outcome, s) => (.pipeline outcome, s)
  | (.error f, s) => (.rejected (.resource f), s)

/-- Tries a pipeline as a built-in that answers on the terminal. -/
def tryBuiltin (i : Interpreter) (pipeline : Pipeline) (s : Shell σ) :
    Except BuiltinError Dispatch × Shell σ :=
  let (result, context, world, output) :=
    dispatch host i.offered pipeline s.context s.world s.terminal.output
  (result, { context, world, terminal := { s.terminal with output } })

/-- Carries out a pipeline, as a built-in if it is one. -/
def perform (i : Interpreter) (pipeline : Pipeline) (s : Shell σ) :
    Except Failure LineResult × Shell σ :=
  match host.attach .output s.world.system with
  | (.error f, system) => (.ok (.rejected (.resource f)), s.withSystem system)
  | (.ok (), system) =>
    match i.tryBuiltin host pipeline (s.withSystem system) with
    | (.error (.output f), s) => (.error f, s)
    | (.error .redirection, s) => (.ok (.rejected (.builtin .redirection)), s)
    | (.ok .notBuiltin, s) => let (result, s) := runPipeline host pipeline s; (.ok result, s)
    | (.ok done, s) => (.ok (.builtin done), s)

/-- Carries out a line. -/
def execute (i : Interpreter) (line : Text) (s : Shell σ) : Except Failure LineResult × Shell σ :=
  match Pipeline.parse i.limits line with
  | .error e => (.ok (.rejected (.parse e)), s)
  | .ok pipeline => i.perform host pipeline s

theorem runPipeline_unread (pipeline : Pipeline) (s : Shell σ) :
    (runPipeline host pipeline s).2.unread ≤ s.unread := by
  have h := Pipeline.run_unread host pipeline s
  unfold runPipeline
  split <;> rename_i hr <;> simpa [hr] using h

theorem tryBuiltin_unread (i : Interpreter) (pipeline : Pipeline) (s : Shell σ) :
    (i.tryBuiltin host pipeline s).2.unread = s.unread := rfl

theorem perform_unread (i : Interpreter) (pipeline : Pipeline) (s : Shell σ) :
    (i.perform host pipeline s).2.unread ≤ s.unread := by
  unfold perform
  split
  · exact Nat.le_refl _
  · rename_i system _
    have h := Nat.le_of_eq (tryBuiltin_unread host i pipeline (s.withSystem system))
    split <;> rename_i hr <;> rw [hr] at h
    · exact h
    · exact h
    · exact Nat.le_trans (runPipeline_unread host _ _) h
    · exact h

theorem execute_unread (i : Interpreter) (line : Text) (s : Shell σ) :
    (i.execute host line s).2.unread ≤ s.unread := by
  unfold execute
  split
  · exact Nat.le_refl _
  · exact perform_unread host i _ s

end Interpreter

end PipeShell
