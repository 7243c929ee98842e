import Mathlib.Algebra.Order.Group.Multiset
import PipeShell.Proofs.Recording

/-!
# Handles that the shell holds

The record of a run tells which handles the shell holds at each moment: those it opened and has not
given up (`heldAfter`). The account is strict: there is none if a handle is closed or handed to a
program while the shell does not hold it.

Main statements: the set-up of a stage gives up the pipe ends on its sides and all that it opened
itself, and nothing else, whatever comes of it (`Attempt.Made.held`); so the set-up of all stages of
a pipeline gives up all ends of its pipes (`Pipeline.held_of_arrange`).
-/

set_option autoImplicit false

namespace PipeShell

variable {directory : Text} {command : Command}

/-! ## Handles held -/

/-- The pipe end that a process reads from. -/
def Inlet.pipes : Inlet → List Handle
  | .pipe h => [h]
  | _ => []

/-- The pipe end that a process writes to. -/
def Outlet.pipes : Outlet → List Handle
  | .pipe h => [h]
  | _ => []

/-- The pipe ends that a process is given. -/
def Launch.pipes (plan : Launch) : List Handle := plan.input.pipes ++ plan.output.pipes

/-- The handles that a process is given. -/
def Launch.handles (plan : Launch) : List Handle := plan.input.handles ++ plan.output.handles

/-- What the shell holds after a call, if it may make the call with what it holds. -/
def SystemCall.account (held : Multiset Handle) : SystemCall → Option (Multiset Handle)
  | .openInput _ (.ok h) => some (h ::ₘ held)
  | .openOutput _ _ (.ok h) => some (h ::ₘ held)
  | .makePipe (.ok p) => some (↑p.ends + held)
  | .close h => if h ∈ held then some (held.erase h) else none
  | .start plan _ => if ↑plan.handles ≤ held then some held else none
  | _ => some held

/-- What the shell holds after calls. -/
def heldAfter : List SystemCall → Multiset Handle → Option (Multiset Handle)
  | [], held => some held
  | call :: rest, held => (call.account held).bind (heldAfter rest)

theorem heldAfter_append (calls more : List SystemCall) (held : Multiset Handle) :
    heldAfter (calls ++ more) held = (heldAfter calls held).bind (heldAfter more) := by
  induction calls generalizing held with
  | nil => rfl
  | cons call rest ih =>
    simp only [List.cons_append, heldAfter, Option.bind_assoc]
    congr 1
    funext held'
    exact ih held'

/-- Accounts follow each other. -/
theorem heldAfter_trans {calls more : List SystemCall} {held held' held'' : Multiset Handle}
    (h : heldAfter calls held = some held') (h' : heldAfter more held' = some held'') :
    heldAfter (calls ++ more) held = some held'' := by
  rw [heldAfter_append, h, Option.bind_some, h']

theorem heldAfter_close (handles : List Handle) (held : Multiset Handle) :
    heldAfter (handles.map .close) (↑handles + held) = some held := by
  induction handles with
  | nil => rw [Multiset.coe_nil, zero_add]; rfl
  | cons h rest ih =>
    rw [← Multiset.cons_coe, Multiset.cons_add]
    simp only [List.map_cons, heldAfter, SystemCall.account, Multiset.mem_cons_self, if_true,
      Multiset.erase_cons_head, Option.bind_some, ih]

theorem heldAfter_makePipe (pipes : List Pipe) (held : Multiset Handle) :
    heldAfter (pipes.map fun p => .makePipe (.ok p)) held =
      some (↑(pipes.flatMap Pipe.ends) + held) := by
  induction pipes generalizing held with
  | nil => rw [List.flatMap_nil, Multiset.coe_nil, zero_add]; rfl
  | cons p rest ih =>
    simp only [List.map_cons, heldAfter, SystemCall.account, Option.bind_some, ih,
      List.flatMap_cons, ← Multiset.coe_add, Option.some.injEq]
    rw [add_left_comm, add_assoc]

theorem SetUpResult.report_held (result : SetUpResult) (held : Multiset Handle) :
    heldAfter result.report held = some held := by
  cases result <;> rfl

namespace Command

/-- The shell has what a program reads from instead of the pipe end before it. -/
theorem InletCalls.held {upstream : Option Handle} {made : List SystemCall} {input : Inlet}
    (h : InletCalls directory command upstream made (.ok input)) (held : Multiset Handle) :
    heldAfter made (↑upstream.toList + held) = some (↑input.handles + held) := by
  cases h with
  | @file path h hi =>
    have hclose := heldAfter_close upstream.toList (h ::ₘ held)
    rw [Multiset.add_cons] at hclose
    exact hclose
  | pipe hi hu => rw [hu]; rfl
  | terminal hi hu => rw [hu]; rfl

theorem InletCalls.held_of_error {upstream : Option Handle} {made : List SystemCall}
    {fault : StageFault} (h : InletCalls directory command upstream made (.error fault))
    (held : Multiset Handle) : heldAfter made (↑upstream.toList + held) = some held := by
  cases h with
  | refused hi => exact heldAfter_close upstream.toList held
  | detached hi hu => rw [hu]; exact congrArg some (zero_add held)

/-- The shell has what a program writes to instead of the pipe end behind it. -/
theorem OutletCalls.held {downstream : Option Handle} {made : List SystemCall} {output : Outlet}
    (h : OutletCalls directory command downstream made (.ok output)) (held : Multiset Handle) :
    heldAfter made (↑downstream.toList + held) = some (↑output.handles + held) := by
  cases h with
  | @file file h ho =>
    have hclose := heldAfter_close downstream.toList (h ::ₘ held)
    rw [Multiset.add_cons] at hclose
    exact hclose
  | pipe ho hd => rw [hd]; rfl
  | terminal ho hd => rw [hd]; rfl

theorem OutletCalls.held_of_error {downstream : Option Handle} {made : List SystemCall}
    {fault : StageFault} (h : OutletCalls directory command downstream made (.error fault))
    (held : Multiset Handle) : heldAfter made (↑downstream.toList + held) = some held := by
  cases h with
  | refused ho => exact heldAfter_close downstream.toList held
  | detached ho hd => rw [hd]; exact congrArg some (zero_add held)

/-- A program may be given the two sides that the shell has for it, which are given up then. -/
theorem LaunchCalls.held {input : Inlet} {output : Outlet} {made : List SystemCall}
    {result : Except StageFault Process}
    (h : LaunchCalls directory command input output made result) (held : Multiset Handle) :
    heldAfter made (↑output.handles + (↑input.handles + held)) = some held := by
  have hsides : (↑output.handles + (↑input.handles + held) : Multiset Handle) =
      ↑(input.handles ++ output.handles) + held := by
    rw [← Multiset.coe_add]
    ac_rfl
  have hplan : ↑(command.plan directory input output).handles ≤
      ↑(input.handles ++ output.handles) + held := Multiset.le_add_right _ _
  have hclose := heldAfter_close (input.handles ++ output.handles) held
  rw [hsides]
  cases h with
  | detached =>
    have hclose := heldAfter_close (output.handles ++ input.handles) held
    rw [← Multiset.coe_add, add_comm (output.handles : Multiset Handle), Multiset.coe_add] at hclose
    exact hclose
  | refused =>
    simpa only [heldAfter, SystemCall.account, if_pos hplan, Option.bind_some] using hclose
  | started =>
    simpa only [heldAfter, SystemCall.account, if_pos hplan, Option.bind_some] using hclose

/-- A set-up gives up the pipe ends on the sides of its stage, and all that was opened for it. -/
theorem SetUpCalls.held {ends : StageEnds} {made : List SystemCall}
    {result : Except StageFault Process} (h : SetUpCalls directory command ends made result)
    (held : Multiset Handle) : heldAfter made (↑ends.handles + held) = some held := by
  rw [StageEnds.handles, ← Multiset.coe_add, add_assoc]
  cases h with
  | noInlet hin => exact heldAfter_trans (hin.held_of_error _) (heldAfter_close _ _)
  | @noOutlet front middle input _ hin hout =>
    refine heldAfter_trans (hin.held _) (heldAfter_trans ?_ (heldAfter_close _ _))
    rw [add_left_comm]
    exact hout.held_of_error _
  | @launched front middle last input output _ hin hout hlast =>
    refine heldAfter_trans (hin.held _) (heldAfter_trans ?_ (hlast.held held))
    rw [add_left_comm]
    exact hout.held _

end Command

/-- **A stage gives up its ends.** Its set-up leaves the shell with what it held before, less the
pipe ends on the sides of the stage. -/
theorem Attempt.Made.held {a : Attempt} (hmade : a.Made directory) (held : Multiset Handle) :
    heldAfter a.log (↑a.ends.handles + held) = some held :=
  heldAfter_trans (Command.SetUpCalls.held hmade held) (a.result.report_held held)

namespace Pipeline

/-- Together, the ends on the sides of the stages are the ends of the pipes between them. -/
theorem held_of_arrange {commands : Pipeline} {attempts : List Attempt}
    {upstream : Option Handle} {pipes : List Pipe}
    (hends : attempts.map (fun a => (a.command, a.ends)) = arrange commands upstream pipes)
    (hmade : ∀ a ∈ attempts, a.Made directory) (hlen : pipes.length + 1 = commands.length)
    (held : Multiset Handle) :
    heldAfter (attempts.flatMap Attempt.log)
      (↑upstream.toList + ↑(pipes.flatMap Pipe.ends) + held) = some held := by
  induction commands generalizing attempts upstream pipes with
  | nil => cases hlen
  | cons command rest ih =>
    rw [arrange, List.map_eq_cons_iff] at hends
    obtain ⟨a, attempts, rfl, ha, hends⟩ := hends
    obtain ⟨-, ha⟩ := Prod.mk.inj ha
    obtain ⟨hfirst, hrest⟩ := List.forall_mem_cons.1 hmade
    rw [List.flatMap_cons]
    cases pipes with
    | nil =>
      obtain rfl : rest = [] := List.eq_nil_of_length_eq_zero (Nat.succ.inj hlen).symm
      obtain rfl : attempts = [] := List.map_eq_nil_iff.1 hends
      -- the last stage has no pipe behind it
      have h := hfirst.held held
      simp only [ha, StageEnds.handles, List.head?_nil, Option.map_none, Option.toList_none,
        List.append_nil] at h
      simpa using h
    | cons p pipes =>
      have hlen' : pipes.length + 1 = rest.length := Nat.succ.inj hlen
      refine heldAfter_trans ?_ (ih hends hrest hlen')
      have h := hfirst.held (↑[p.reader] + ↑(pipes.flatMap Pipe.ends) + held)
      -- the first stage has the end before it and the writer; the reader is for the others
      have hsplit : (↑upstream.toList + ↑((p :: pipes).flatMap Pipe.ends) + held :
          Multiset Handle) =
            ↑a.ends.handles + (↑[p.reader] + ↑(pipes.flatMap Pipe.ends) + held) := by
        calc (↑upstream.toList + ↑((p :: pipes).flatMap Pipe.ends) + held : Multiset Handle)
            = ↑upstream.toList + ((↑[p.reader] + ↑[p.writer]) +
                ↑(pipes.flatMap Pipe.ends)) + held := rfl
          _ = (↑upstream.toList + ↑[p.writer]) +
                (↑[p.reader] + ↑(pipes.flatMap Pipe.ends) + held) := by ac_rfl
          _ = ↑a.ends.handles + (↑[p.reader] + ↑(pipes.flatMap Pipe.ends) + held) := by
            rw [ha]; rfl
      rw [hsplit]
      exact h

end Pipeline

end PipeShell
