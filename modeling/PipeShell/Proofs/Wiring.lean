import PipeShell.Proofs.HeldHandles
import PipeShell.Proofs.Slots

/-!
# Pipes between stages

A program reads from its file, else from the pipe before it, else from the terminal, and writes
likewise; and at most one program is started for a stage (`Attempt.Wired`). If no two pipe ends are
the same handle, no end is given to two programs (`StageEnds.at_alone`).

Main statement: for a run whose pipes can be made, every stage is wired so, the shell holds no
handle after the last stage has been set up, and with the pipe ends in slots the run is the same
(`Pipeline.run_wired`).
-/

set_option autoImplicit false

namespace PipeShell

variable {σ : Type} {directory : Text} {command : Command}

/-! ## What a program is given -/

/-- The start of a program. -/
def SystemCall.isStart : SystemCall → Bool
  | .start _ _ => true
  | _ => false

namespace Command

/-- A program reads from its file, opened in one of the calls; else from the pipe before it; else
from the terminal. -/
inductive ReadsFrom (directory : Text) (command : Command) (upstream : Option Handle)
    (calls : List SystemCall) : Inlet → Prop
  | file {path : Text} {h : Handle} (hi : command.input = some path)
    (ho : .openInput (Path.join directory path) (.ok h) ∈ calls) :
    ReadsFrom directory command upstream calls (.file h)
  | pipe {h : Handle} (hi : command.input = none) (hu : upstream = some h) :
    ReadsFrom directory command upstream calls (.pipe h)
  | terminal (hi : command.input = none) (hu : upstream = none) :
    ReadsFrom directory command upstream calls .terminal

/-- A program writes to its file, opened in one of the calls; else to the pipe behind it; else to
the terminal. -/
inductive WritesTo (directory : Text) (command : Command) (downstream : Option Handle)
    (calls : List SystemCall) : Outlet → Prop
  | file {file : OutputFile} {h : Handle} (hf : command.output = some file)
    (ho : .openOutput (Path.join directory file.path) file.mode (.ok h) ∈ calls) :
    WritesTo directory command downstream calls (.file h)
  | pipe {h : Handle} (hf : command.output = none) (hd : downstream = some h) :
    WritesTo directory command downstream calls (.pipe h)
  | terminal (hf : command.output = none) (hd : downstream = none) :
    WritesTo directory command downstream calls .terminal

theorem ReadsFrom.mono {upstream : Option Handle} {calls more : List SystemCall} {input : Inlet}
    (h : command.ReadsFrom directory upstream calls input) (hsub : calls ⊆ more) :
    command.ReadsFrom directory upstream more input := by
  cases h with
  | file hi ho => exact .file hi (hsub ho)
  | pipe hi hu => exact .pipe hi hu
  | terminal hi hu => exact .terminal hi hu

theorem WritesTo.mono {downstream : Option Handle} {calls more : List SystemCall} {output : Outlet}
    (h : command.WritesTo directory downstream calls output) (hsub : calls ⊆ more) :
    command.WritesTo directory downstream more output := by
  cases h with
  | file hf ho => exact .file hf (hsub ho)
  | pipe hf hd => exact .pipe hf hd
  | terminal hf hd => exact .terminal hf hd

theorem InletCalls.readsFrom {upstream : Option Handle} {made : List SystemCall} {input : Inlet}
    (h : InletCalls directory command upstream made (.ok input)) :
    command.ReadsFrom directory upstream made input := by
  cases h with
  | file hi => exact .file hi List.mem_cons_self
  | pipe hi hu => exact .pipe hi hu
  | terminal hi hu => exact .terminal hi hu

theorem OutletCalls.writesTo {downstream : Option Handle} {made : List SystemCall}
    {output : Outlet} (h : OutletCalls directory command downstream made (.ok output)) :
    command.WritesTo directory downstream made output := by
  cases h with
  | file ho => exact .file ho List.mem_cons_self
  | pipe ho hd => exact .pipe ho hd
  | terminal ho hd => exact .terminal ho hd

theorem starts_close (handles : List Handle) :
    (handles.map SystemCall.close).countP SystemCall.isStart = 0 :=
  List.countP_eq_zero.2 (by simp [SystemCall.isStart])

theorem InletCalls.starts {upstream : Option Handle} {made : List SystemCall}
    {result : Except StageFault Inlet} (h : InletCalls directory command upstream made result) :
    made.countP SystemCall.isStart = 0 := by
  cases h with
  | file hi => exact starts_close _
  | refused hi => exact starts_close _
  | _ => rfl

theorem OutletCalls.starts {downstream : Option Handle} {made : List SystemCall}
    {result : Except StageFault Outlet} (h : OutletCalls directory command downstream made result) :
    made.countP SystemCall.isStart = 0 := by
  cases h with
  | file ho => exact starts_close _
  | refused ho => exact starts_close _
  | _ => rfl

theorem LaunchCalls.starts {input : Inlet} {output : Outlet} {made : List SystemCall}
    {result : Except StageFault Process}
    (h : LaunchCalls directory command input output made result) :
    made.countP SystemCall.isStart ≤ 1 ∧ ∀ plan answer, .start plan answer ∈ made →
      plan = command.plan directory input output := by
  cases h with
  | detached =>
    refine ⟨?_, fun plan answer h => by simp at h⟩
    rw [List.countP_cons_of_neg (by exact Bool.false_ne_true), starts_close]
    exact Nat.zero_le 1
  | refused =>
    refine ⟨?_, fun plan answer h => by simp at h; exact h.1⟩
    rw [List.countP_cons_of_neg (by exact Bool.false_ne_true), List.countP_cons_of_pos rfl,
      starts_close]
  | started =>
    refine ⟨?_, fun plan answer h => by simp at h; exact h.1⟩
    rw [List.countP_cons_of_neg (by exact Bool.false_ne_true), List.countP_cons_of_pos rfl,
      starts_close]

/-- A stage starts at most one program, with the sides that were opened for it. -/
theorem SetUpCalls.wired {ends : StageEnds} {made : List SystemCall}
    {result : Except StageFault Process} (h : SetUpCalls directory command ends made result) :
    made.countP SystemCall.isStart ≤ 1 ∧ ∀ plan answer, .start plan answer ∈ made →
      command.ReadsFrom directory ends.upstream made plan.input ∧
      command.WritesTo directory ends.downstream made plan.output := by
  cases h with
  | @noInlet front fault hin =>
    have hnone : (front ++ ends.downstream.toList.map SystemCall.close).countP
        SystemCall.isStart = 0 := by
      rw [List.countP_append, hin.starts, starts_close]
    exact ⟨hnone ▸ Nat.zero_le 1, fun plan answer hmem =>
      absurd rfl (List.countP_eq_zero.1 hnone _ hmem)⟩
  | @noOutlet front middle input _ hin hout =>
    have hnone : (front ++ (middle ++ input.handles.map SystemCall.close)).countP
        SystemCall.isStart = 0 := by
      rw [List.countP_append, List.countP_append, hin.starts, hout.starts, starts_close]
    exact ⟨hnone ▸ Nat.zero_le 1, fun plan answer hmem =>
      absurd rfl (List.countP_eq_zero.1 hnone _ hmem)⟩
  | @launched front middle last input output _ hin hout hlast =>
    obtain ⟨honce, hplan⟩ := hlast.starts
    refine ⟨?_, fun plan answer hmem => ?_⟩
    · rw [List.countP_append, List.countP_append, hin.starts, hout.starts, Nat.zero_add,
        Nat.zero_add]
      exact honce
    · -- of all these calls only those of the launch can be a start
      have hlastmem : .start plan answer ∈ last := by
        have hfront := List.countP_eq_zero.1 hin.starts (.start plan answer)
        have hmiddle := List.countP_eq_zero.1 hout.starts (.start plan answer)
        rcases List.mem_append.1 hmem with hmem | hmem
        · exact absurd rfl (hfront hmem)
        · exact (List.mem_append.1 hmem).resolve_left fun hmem => absurd rfl (hmiddle hmem)
      rw [hplan plan answer hlastmem]
      refine ⟨hin.readsFrom.mono (List.subset_append_left _ _), hout.writesTo.mono ?_⟩
      exact fun call hcall => List.mem_append_right _ (List.mem_append_left _ hcall)

end Command

/-- How a stage is wired. -/
structure Attempt.Wired (directory : Text) (ends : StageEnds) (a : Attempt) : Prop where
  /-- At most one program is started. -/
  once : a.calls.countP SystemCall.isStart ≤ 1
  reads : ∀ {plan answer}, .start plan answer ∈ a.calls →
    a.command.ReadsFrom directory ends.upstream a.calls plan.input
  writes : ∀ {plan answer}, .start plan answer ∈ a.calls →
    a.command.WritesTo directory ends.downstream a.calls plan.output
  /-- Whatever came of it, the shell has given up the ends on its sides, used or not, and all that
  was opened for it; it gave up nothing else. -/
  givenUp : ∀ held, heldAfter a.log (↑ends.handles + held) = some held

theorem Attempt.Made.wired {a : Attempt} (hmade : a.Made directory) :
    a.Wired directory a.ends := by
  obtain ⟨honce, hsides⟩ := Command.SetUpCalls.wired hmade
  exact ⟨honce, fun h => (hsides _ _ h).1, fun h => (hsides _ _ h).2, hmade.held⟩

/-! ## The run -/

/-- A pipe end that a program reads from is that before its stage. -/
theorem Command.ReadsFrom.of_mem {upstream : Option Handle} {calls : List SystemCall}
    {input : Inlet} (h : command.ReadsFrom directory upstream calls input) {e : Handle}
    (he : e ∈ input.pipes) : upstream = some e ∧ input = .pipe e := by
  cases h with
  | file hi ho => cases he
  | pipe hi hu => obtain rfl := List.mem_singleton.1 he; exact ⟨hu, rfl⟩
  | terminal hi hu => cases he

/-- A pipe end that a program writes to is that behind its stage. -/
theorem Command.WritesTo.of_mem {downstream : Option Handle} {calls : List SystemCall}
    {output : Outlet} (h : command.WritesTo directory downstream calls output) {e : Handle}
    (he : e ∈ output.pipes) : downstream = some e ∧ output = .pipe e := by
  cases h with
  | file hf ho => cases he
  | pipe hf hd => obtain rfl := List.mem_singleton.1 he; exact ⟨hd, rfl⟩
  | terminal hf hd => cases he

/-- If no two ends are the same handle, a pipe end stands on the side of one stage only. -/
theorem StageEnds.at_alone {pipes : List Pipe}
    (hnodup : (pipes.map Pipe.reader ++ pipes.map Pipe.writer).Nodup) {k : Nat}
    (hk : k < pipes.length) (i : Nat) :
    ((StageEnds.at pipes i).upstream = some pipes[k].reader → i = k + 1) ∧
    (StageEnds.at pipes i).upstream ≠ some pipes[k].writer ∧
    ((StageEnds.at pipes i).downstream = some pipes[k].writer → i = k) ∧
    (StageEnds.at pipes i).downstream ≠ some pipes[k].reader := by
  obtain ⟨hreaders, hwriters, hapart⟩ := List.nodup_append.1 hnodup
  have hreader : ∀ {m h}, pipes[m]?.map Pipe.reader = some h →
      (pipes.map Pipe.reader)[m]? = some h := fun h => by rw [List.getElem?_map, h]
  have hwriter : ∀ {m h}, pipes[m]?.map Pipe.writer = some h →
      (pipes.map Pipe.writer)[m]? = some h := fun h => by rw [List.getElem?_map, h]
  have hkr : (pipes.map Pipe.reader)[k]? = some pipes[k].reader := by simp [hk]
  have hkw : (pipes.map Pipe.writer)[k]? = some pipes[k].writer := by simp [hk]
  refine ⟨fun h => ?_, fun h => ?_, fun h => ?_, fun h => ?_⟩
  · cases i with
    | zero => cases h
    | succ m =>
      have hm := (List.getElem?_inj (by simpa using hk) hreaders).1 (hkr.trans (hreader h).symm)
      rw [hm]
  · cases i with
    | zero => cases h
    | succ m =>
      exact hapart _ (List.mem_of_getElem? (hreader h)) _ (List.mem_of_getElem? hkw) rfl
  · exact ((List.getElem?_inj (by simpa using hk) hwriters).1 (hkw.trans (hwriter h).symm)).symm
  · exact hapart _ (List.mem_of_getElem? hkr) _ (List.mem_of_getElem? (hwriter h)) rfl

namespace Pipeline

variable {host : Host σ} {pipeline : Pipeline} {pipes : List Pipe} {system : σ} {s : Shell σ}

/-- **Every stage is wired, and no pipe end is left.** Take a run whose pipes can be made. With its
ends in slots it is the same run. In its record there is one attempt for each stage, in order, which
is wired to the ends on the sides of the stage and gives them up; when the last stage is set up the
shell holds no handle, and it starts no program after that. And if no two ends are the same handle,
the one program that can be given the writer of pipe `k` is that of stage `k`, and for the reader
that of stage `k + 1`. -/
theorem run_wired (hne : pipeline ≠ [])
    (hpipes : makePipes host (pipeline.length - 1) [] s.world.system = (.ok pipes, system)) :
    pipes.length = pipeline.length - 1 ∧
    runFromSlots host pipeline s = some (run host pipeline s) ∧
    run host.recording pipeline (s.recorded []) =
      ((run host pipeline s).1, (run host pipeline s).2.recorded (calls host pipeline s)) ∧
    ∃ attempts : List Attempt, attempts.map Attempt.command = pipeline ∧
      (∃ waits : List SystemCall, (∀ call ∈ waits, ∃ p answer conduct,
          call = .await p answer conduct) ∧
        calls host pipeline s =
          (pipes.map fun p => .makePipe (.ok p)) ++ attempts.flatMap Attempt.log ++ waits) ∧
      heldAfter ((pipes.map fun p => .makePipe (.ok p)) ++ attempts.flatMap Attempt.log) 0 =
        some 0 ∧
      (∀ i (hi : i < attempts.length),
        attempts[i].Wired ((s.withSystem system).directory host) (StageEnds.at pipes i)) ∧
      ((pipes.map Pipe.reader ++ pipes.map Pipe.writer).Nodup →
        ∀ k (hk : k < pipes.length) i (hi : i < attempts.length) plan answer,
          .start plan answer ∈ attempts[i].calls →
          (pipes[k].reader ∈ plan.pipes → i = k + 1 ∧ plan.input = .pipe pipes[k].reader) ∧
          (pipes[k].writer ∈ plan.pipes → i = k ∧ plan.output = .pipe pipes[k].writer)) := by
  obtain ⟨hlen, attempts, hends, hmade, hruns⟩ := run_record host s hne hpipes
  obtain ⟨endings, system', hendings, -, -, hcalls⟩ := hruns s.terminal
  have hcommands : attempts.map Attempt.command = pipeline := commands_of_arrange hends
  have hwired : ∀ i (hi : i < attempts.length),
      attempts[i].Wired ((s.withSystem system).directory host) (StageEnds.at pipes i) := by
    intro i hi
    rw [← ends_of_arrange hends hi]
    exact (hmade _ (List.getElem_mem hi)).wired
  have hheld : heldAfter (attempts.flatMap Attempt.log) (↑(pipes.flatMap Pipe.ends) + 0) =
      some 0 := by
    have hlen' : pipes.length + 1 = pipeline.length := by
      rw [hlen, Nat.sub_add_cancel (List.length_pos_of_ne_nil hne)]
    simpa using held_of_arrange hends hmade hlen' 0
  refine ⟨hlen, runFromSlots_eq host pipeline s, run_recording host pipeline s, attempts, hcommands,
    ⟨_, awaits_of_ends hendings, hcalls⟩, heldAfter_trans (heldAfter_makePipe pipes 0) hheld,
    hwired, ?_⟩
  -- a pipe end that a program is given stands on the side of its stage, and of no other
  intro hnodup k hk i hi plan answer hstart
  obtain ⟨hreader, hnoReader, hwriter, hnoWriter⟩ := StageEnds.at_alone hnodup hk i
  have hinput := (hwired i hi).reads hstart
  have houtput := (hwired i hi).writes hstart
  refine ⟨fun hmem => ?_, fun hmem => ?_⟩
  · rcases List.mem_append.1 hmem with hmem | hmem
    · exact ⟨hreader (hinput.of_mem hmem).1, (hinput.of_mem hmem).2⟩
    · exact absurd (houtput.of_mem hmem).1 hnoWriter
  · rcases List.mem_append.1 hmem with hmem | hmem
    · exact absurd (hinput.of_mem hmem).1 hnoReader
    · exact ⟨hwriter (houtput.of_mem hmem).1, (houtput.of_mem hmem).2⟩

end Pipeline

/-- A system that numbers its handles as it gives them out, and does not know the program `b`. -/
def Host.counting : Host Nat where
  currentDirectory _ := .ok ['/']
  changeDirectory _ n := (.error (.system Errno.noEntry), n)
  canonicalize _ _ := .error (.system Errno.noEntry)
  isDirectory _ _ := false
  openInput _ n := (.ok n, n + 1)
  openOutput _ _ n := (.ok n, n + 1)
  makePipe n := (.ok ⟨n, n + 1⟩, n + 2)
  close _ n := n
  attach _ n := (.ok (), n)
  start plan n := if plan.program = ['b'] then (.error (.system Errno.noEntry), n) else (.ok n, n)
  await _ _ n := (.ok (.code 0), {}, n)

/-- Three stages: the second is not started there, and the third does not read its pipe. -/
def Pipeline.broken : Pipeline :=
  [{ name := ['a'] }, { name := ['b'] }, { name := ['c'], input := some ['f'] }]

/-- The stages are wired, and only the first is given the first writer. -/
theorem Pipeline.run_wired_broken :
    broken ≠ [] ∧
    makePipes Host.counting (broken.length - 1) [] 0 = (.ok [⟨0, 1⟩, ⟨2, 3⟩], 4) ∧
    ∃ attempts : List Attempt, attempts.map Attempt.command = broken ∧
      (∀ i (hi : i < attempts.length),
        attempts[i].Wired ['/'] (StageEnds.at [⟨0, 1⟩, ⟨2, 3⟩] i)) ∧
      ∀ i (hi : i < attempts.length) plan answer, .start plan answer ∈ attempts[i].calls →
        1 ∈ plan.pipes → i = 0 ∧ plan.output = .pipe 1 := by
  have hne : broken ≠ [] := by decide
  have hpipes : makePipes Host.counting (broken.length - 1) [] 0 =
      (.ok [⟨0, 1⟩, ⟨2, 3⟩], 4) := rfl
  let s : Shell Nat := ⟨{ directory := ['/'] }, ⟨0, 0⟩, {}⟩
  obtain ⟨-, -, -, attempts, hcommands, -, -, hwired, halone⟩ :=
    @run_wired Nat Host.counting broken _ 4 s hne hpipes
  have hnodup : ([⟨0, 1⟩, ⟨2, 3⟩] : List Pipe).map Pipe.reader ++
      ([⟨0, 1⟩, ⟨2, 3⟩] : List Pipe).map Pipe.writer |>.Nodup := by decide
  refine ⟨hne, hpipes, attempts, hcommands, hwired, ?_⟩
  intro i hi plan answer hstart
  exact (halone hnodup 0 (by decide) i hi plan answer hstart).2

end PipeShell
