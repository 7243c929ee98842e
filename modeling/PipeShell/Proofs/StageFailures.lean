import PipeShell.Proofs.Recording
import PipeShell.Proofs.TerminalUse

/-!
# Stages that fail

Whether a stage starts is decided by one call: the first that is refused, or else the start of its
program. Before it stand only calls that were granted, and pipe ends are given up that files stand
in for; behind it only handles are given up. A file for input that cannot be opened decides before
the file for output is asked for, so that file is neither made nor cut (`Command.RefusedBy.input`).

The deciding call and, if the program was started, how the process ended give the status of the
stage (`Attempt.Settles`). Nothing here refers to another stage, nor to whether a report was
written: a stage that fails leaves its neighbours their turn, and a report that is lost is lost.

Main statement: if its pipes can be made, a run attempts every stage once, in order, and waits for
those that run; each settles as told; the statuses of the stages, in order, make the status of the
pipeline, which is remembered (`Pipeline.run_settles`).
-/

set_option autoImplicit false

namespace PipeShell

variable {σ : Type} {directory : Text} {command : Command}

/-! ## The deciding call -/

/-- A call by which a stage is prepared: one that was granted, or that gives up a pipe end that a
file stands in for. -/
inductive Command.Prepares (directory : Text) (command : Command) (ends : StageEnds) :
    SystemCall → Prop
  | input {path : Text} {h : Handle} (hi : command.input = some path) :
    Command.Prepares directory command ends (.openInput (Path.join directory path) (.ok h))
  | output {file : OutputFile} {h : Handle} (ho : command.output = some file) :
    Command.Prepares directory command ends
      (.openOutput (Path.join directory file.path) file.mode (.ok h))
  | terminal {side : TerminalEnd} : Command.Prepares directory command ends (.attach side (.ok ()))
  | upstream {path : Text} {h : Handle} (hi : command.input = some path)
    (hu : ends.upstream = some h) : Command.Prepares directory command ends (.close h)
  | downstream {file : OutputFile} {h : Handle} (ho : command.output = some file)
    (hd : ends.downstream = some h) : Command.Prepares directory command ends (.close h)

/-- The call that refuses a stage after the given ones, the fault it is and the status it means. -/
inductive Command.RefusedBy (directory : Text) (command : Command) :
    List SystemCall → SystemCall → StageFault → Status → Prop
  | input {path : Text} {f : Failure} (hi : command.input = some path) :
    Command.RefusedBy directory command []
      (.openInput (Path.join directory path) (.error f)) (.redirect path f) 1
  | output {before : List SystemCall} {file : OutputFile} {f : Failure}
    (ho : command.output = some file) :
    Command.RefusedBy directory command before
      (.openOutput (Path.join directory file.path) file.mode (.error f)) (.redirect file.path f) 1
  | streams {before : List SystemCall} {side : TerminalEnd} {f : Failure} :
    Command.RefusedBy directory command before (.attach side (.error f)) (.streams f) 1
  | start {before : List SystemCall} {input : Inlet} {output : Outlet} {f : Failure} :
    Command.RefusedBy directory command before
      (.start (command.plan directory input output) (.error f)) (.start command.name f)
      (f.code?.getD 1)

/-- The status of a process that was waited for. -/
inductive ExitsWith : Except Failure Exit → Status → Prop
  | code {c : Status} : ExitsWith (.ok (.code c)) c
  | signal {n : Nat} : ExitsWith (.ok (.signal n)) (128 + n)
  | unknown : ExitsWith (.ok .unknown) 1
  | lost {f : Failure} : ExitsWith (.error f) 1

/-- A fault is reported by one message, unless the error channel cannot be had. -/
inductive StageFault.Reported (fault : StageFault) : List SystemCall → List Text → Prop
  | sent : StageFault.Reported fault [.attach .error (.ok ())] [fault.message]
  | lost {f : Failure} : StageFault.Reported fault [.attach .error (.error f)] []

/-- What a stage comes to. -/
inductive Attempt.Settles (directory : Text) (a : Attempt) : Ending → Prop
  | refused {before : List SystemCall} {deciding : SystemCall} {closed : List Handle}
    {fault : StageFault} {status : Status}
    (hcalls : a.calls = before ++ deciding :: closed.map .close)
    (hbefore : ∀ call ∈ before, a.command.Prepares directory a.ends call)
    (hrefused : a.command.RefusedBy directory before deciding fault status)
    (hreported : fault.Reported a.result.report a.result.messages) :
    Attempt.Settles directory a ⟨[], status⟩
  | ran {before : List SystemCall} {input : Inlet} {output : Outlet} {p : Process}
    {closed : List Handle} {answer : Except Failure Exit} {conduct : Conduct} {status : Status}
    (hcalls : a.calls = before ++
      .start (a.command.plan directory input output) (.ok p) :: closed.map .close)
    (hbefore : ∀ call ∈ before, a.command.Prepares directory a.ends call)
    (hsilent : a.result.report = [] ∧ a.result.messages = [])
    (hexits : ExitsWith answer status) :
    Attempt.Settles directory a ⟨[.await p answer conduct], status⟩

namespace Command

variable {ends : StageEnds}

theorem InletCalls.prepares {made : List SystemCall} {input : Inlet}
    (h : InletCalls directory command ends.upstream made (.ok input)) :
    ∀ call ∈ made, command.Prepares directory ends call := by
  intro call hcall
  cases h with
  | file hi =>
    rcases List.mem_cons.1 hcall with rfl | hcall
    · exact .input hi
    · obtain ⟨h, hh, rfl⟩ := List.mem_map.1 hcall
      exact .upstream hi (Option.mem_toList.1 hh)
  | pipe hi hu => cases hcall
  | terminal hi hu => obtain rfl := List.mem_singleton.1 hcall; exact .terminal

theorem OutletCalls.prepares {made : List SystemCall} {output : Outlet}
    (h : OutletCalls directory command ends.downstream made (.ok output)) :
    ∀ call ∈ made, command.Prepares directory ends call := by
  intro call hcall
  cases h with
  | file ho =>
    rcases List.mem_cons.1 hcall with rfl | hcall
    · exact .output ho
    · obtain ⟨h, hh, rfl⟩ := List.mem_map.1 hcall
      exact .downstream ho (Option.mem_toList.1 hh)
  | pipe ho hd => cases hcall
  | terminal ho hd => obtain rfl := List.mem_singleton.1 hcall; exact .terminal

/-- A stage that was not started was refused by one call. -/
theorem SetUpCalls.refused {made : List SystemCall} {fault : StageFault}
    (h : SetUpCalls directory command ends made (.error fault)) :
    ∃ (before : List SystemCall) (deciding : SystemCall) (closed : List Handle),
      made = before ++ deciding :: closed.map .close ∧
      (∀ call ∈ before, command.Prepares directory ends call) ∧
      command.RefusedBy directory before deciding fault fault.status := by
  cases h with
  | noInlet hin =>
    cases hin with
    | refused hi =>
      refine ⟨[], _, ends.upstream.toList ++ ends.downstream.toList, ?_, List.forall_mem_nil _,
        .input hi⟩
      rw [List.map_append]
      rfl
    | detached hi hu => exact ⟨[], _, ends.downstream.toList, rfl, List.forall_mem_nil _, .streams⟩
  | @noOutlet front middle input _ hin hout =>
    cases hout with
    | refused ho =>
      refine ⟨front, _, ends.downstream.toList ++ input.handles, ?_, hin.prepares, .output ho⟩
      rw [List.map_append]
      rfl
    | detached ho hd => exact ⟨front, _, input.handles, rfl, hin.prepares, .streams⟩
  | @launched front middle last input output _ hin hout hlast =>
    -- both sides are there, so only the error channel or the start itself can be refused
    have hprepares : ∀ call ∈ front ++ middle, command.Prepares directory ends call :=
      List.forall_mem_append.2 ⟨hin.prepares, hout.prepares⟩
    cases hlast with
    | detached =>
      exact ⟨front ++ middle, _, output.handles ++ input.handles,
        (List.append_assoc _ _ _).symm, hprepares, .streams⟩
    | @refused f =>
      refine ⟨front ++ middle ++ [.attach .error (.ok ())],
        .start (command.plan directory input output) (.error f), input.handles ++ output.handles,
        ?_, ?_, .start⟩
      · simp only [List.append_assoc, List.cons_append, List.nil_append]
      · exact List.forall_mem_append.2 ⟨hprepares, List.forall_mem_singleton.2 .terminal⟩

/-- A stage that was started had all it asked for. -/
theorem SetUpCalls.granted {made : List SystemCall} {p : Process}
    (h : SetUpCalls directory command ends made (.ok p)) :
    ∃ (before : List SystemCall) (input : Inlet) (output : Outlet) (closed : List Handle),
      made = before ++ .start (command.plan directory input output) (.ok p) ::
        closed.map .close ∧
      ∀ call ∈ before, command.Prepares directory ends call := by
  cases h with
  | @launched front middle last input output _ hin hout hlast =>
    cases hlast with
    | started =>
      refine ⟨front ++ middle ++ [.attach .error (.ok ())], input, output,
        input.handles ++ output.handles, ?_, ?_⟩
      · simp only [List.append_assoc, List.cons_append, List.nil_append]
      · exact List.forall_mem_append.2 ⟨List.forall_mem_append.2 ⟨hin.prepares, hout.prepares⟩,
          List.forall_mem_singleton.2 .terminal⟩

end Command

theorem Pipeline.statusOf_exits (answer : Except Failure Exit) :
    ExitsWith answer (Pipeline.statusOf answer) := by
  rcases answer with f | ⟨c | n⟩
  · exact .lost
  · exact .code
  · exact .signal
  · exact .unknown

theorem SetUpResult.failed_reported (fault : StageFault) (channel : Except Failure Unit) :
    fault.Reported (SetUpResult.failed fault channel).report
      (SetUpResult.failed fault channel).messages := by
  rcases channel with f | ⟨⟩
  · exact .lost
  · exact .sent

/-- **One stage.** An attempt and what came of waiting for it settle the stage. -/
theorem Attempt.Made.settles {a : Attempt} {e : Ending} (hmade : a.Made directory)
    (hends : a.Ends e) : a.Settles directory e := by
  have hcalls : a.command.SetUpCalls directory a.ends a.calls a.result.started := hmade
  cases hends with
  | @failed fault channel hr =>
    rw [hr] at hcalls
    obtain ⟨before, deciding, closed, hcalls, hbefore, hrefused⟩ := hcalls.refused
    refine .refused hcalls hbefore hrefused ?_
    rw [hr]
    exact SetUpResult.failed_reported fault channel
  | @waited p answer conduct hr =>
    rw [hr] at hcalls
    obtain ⟨before, input, output, closed, hcalls, hbefore⟩ := hcalls.granted
    refine .ran hcalls hbefore ?_ (Pipeline.statusOf_exits answer)
    rw [hr]
    exact ⟨rfl, rfl⟩

/-! ## All stages -/

namespace Pipeline

variable {host : Host σ} {pipeline : Pipeline} {pipes : List Pipe} {system : σ} {s : Shell σ}

/-- The shutdown status wins wherever it stands; else the last status counts. -/
theorem combine_spec {codes : List Status} (hne : codes ≠ []) :
    (shutdownStatus ∈ codes → Outcome.combine codes = shutdownStatus) ∧
    (shutdownStatus ∉ codes → codes.getLast? = some (Outcome.combine codes)) := by
  refine ⟨fun h => if_pos h, fun h => ?_⟩
  rw [Outcome.combine, if_neg h, List.getLast?_eq_some_getLast hne, Option.getD_some]

theorem lastStatus_setStatus (s : Shell σ) (status : Status) :
    (s.setStatus status).lastStatus = status := by
  unfold Shell.setStatus Shell.lastStatus Context.setStatus Context.lastStatus
  cases hs : s.context.scope <;> simp [hs]

/-- **Failures stay local.** A run whose pipes can be made attempts each stage once, in order,
whatever came of those before, and its attempts are the same whatever can be written to the
terminal; then it waits once for each process, in order. Each stage settles by what was asked for
itself. The run does not fail: it gives the status of each stage, in order, and their combined
status, which is remembered. On the terminal are the messages of the stages that were not started,
in order, and then what the processes did. -/
theorem run_settles (hne : pipeline ≠ [])
    (hpipes : makePipes host (pipeline.length - 1) [] s.world.system = (.ok pipes, system)) :
    ∃ attempts : List Attempt, attempts.map Attempt.command = pipeline ∧
      ∀ terminal, ∃ (endings : List Ending) (codes : List Status) (status : Status),
        List.Forall₂ (Attempt.Settles ((s.withSystem system).directory host)) attempts endings ∧
        codes = endings.map Ending.status ∧ codes.length = pipeline.length ∧
        (shutdownStatus ∈ codes → status = shutdownStatus) ∧
        (shutdownStatus ∉ codes → codes.getLast? = some status) ∧
        calls host pipeline { s with terminal } =
          (pipes.map fun p => .makePipe (.ok p)) ++
            attempts.flatMap (fun a => a.calls ++ a.result.report) ++
            endings.flatMap Ending.calls ∧
        (run host pipeline { s with terminal }).1 = .ok ⟨status, codes⟩ ∧
        (run host pipeline { s with terminal }).2.lastStatus = status ∧
        (run host pipeline { s with terminal }).2.terminal =
          (terminal.told (attempts.flatMap fun a => a.result.messages)).used
            (endings.flatMap Ending.calls) := by
  obtain ⟨-, attempts, hends, hmade, hruns⟩ := run_record host s hne hpipes
  have hcommands : attempts.map Attempt.command = pipeline := commands_of_arrange hends
  refine ⟨attempts, hcommands, fun terminal => ?_⟩
  obtain ⟨endings, system', hendings, hrun, -, hcalls⟩ := hruns terminal
  have hlength : (endings.map Ending.status).length = pipeline.length := by
    rw [List.length_map, ← hendings.length_eq, ← hcommands, List.length_map]
  have hcodes : endings.map Ending.status ≠ [] :=
    List.ne_nil_of_length_pos (hlength ▸ List.length_pos_of_ne_nil hne)
  obtain ⟨hshutdown, hlast⟩ := combine_spec hcodes
  -- stage by stage: no attempt or ending depends on another
  have hsettles := ((List.forall₂_and_left _ _).2 ⟨hmade, hendings⟩).imp
    fun _ _ h => Attempt.Made.settles h.1 h.2
  rw [hrun]
  exact ⟨endings, _, _, hsettles, rfl, hlength, hshutdown, hlast, hcalls, rfl,
    lastStatus_setStatus _ _, rfl⟩

end Pipeline

/-- A system that opens no file, does not know the program `b` and kills all others. -/
def Host.adverse : Host Unit :=
  { Host.plain with
    start := fun plan s =>
      if plan.program = ['b'] then (.error (.system Errno.noEntry), s) else (.ok 0, s)
    await := fun _ _ s => (.ok (.signal 9), {}, s) }

/-- Three stages, each of which fails in a way of its own on that system. -/
def Pipeline.adverse : Pipeline :=
  [{ name := ['a'], input := some ['f'] }, { name := ['b'] }, { name := ['c'] }]

/-- Its file refused, its program unknown, its process killed: each stage has its own status. -/
theorem Pipeline.run_settles_adverse :
    adverse ≠ [] ∧
    makePipes Host.adverse (adverse.length - 1) [] () = (.ok [⟨0, 1⟩, ⟨0, 1⟩], ()) ∧
    ∃ (attempts : List Attempt) (endings : List Ending), attempts.map Attempt.command = adverse ∧
      List.Forall₂ (Attempt.Settles ['/']) attempts endings ∧
      endings.map Ending.status = [1, 2, 137] := by
  have hne : adverse ≠ [] := by decide
  have hpipes : makePipes Host.adverse (adverse.length - 1) [] () =
      (.ok [⟨0, 1⟩, ⟨0, 1⟩], ()) := rfl
  let s : Shell Unit := ⟨{ directory := ['/'] }, ⟨(), 0⟩, {}⟩
  obtain ⟨attempts, hcommands, h⟩ := @run_settles Unit Host.adverse adverse _ () s hne hpipes
  obtain ⟨endings, codes, status, hsettles, hcodes, -, -, -, -, hrun, -⟩ := h {}
  have heval : (run Host.adverse adverse s).1 = .ok ⟨137, [1, 2, 137]⟩ := by decide
  refine ⟨hne, hpipes, attempts, endings, hcommands, hsettles, ?_⟩
  rw [← hcodes]
  exact (Outcome.mk.inj (Except.ok.inj (hrun.symm.trans heval))).2

end PipeShell
