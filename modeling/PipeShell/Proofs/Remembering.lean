import PipeShell.Proofs.Asking
import PipeShell.Proofs.WellFormed

/-!
# What is remembered from line to line

Two values of a context of connection scope outlive a line. A line that ran as a pipeline leaves its
status behind (`LineResult.status?`), and a `cd` that was carried out leaves the directory it found
(`Interpreter.destination?`). What a line does to a context is no more than that
(`Interpreter.execute_context`): whatever else it was, the context is what it was before.

A run is a sequence of calls, each with a line and with the system and the terminal that the line
meets. Nothing is said of these, so between two calls they may change in any way. After a run the
context holds the latest status and the latest directory (`Interpreter.remember_eq`), and every
beginning of a run is a run, so this holds after each of its lines.

Main statement: with the built-ins of a terminal or those for clients, the status is that of the
latest line that ran as a pipeline, and the directory is that of the latest `cd` that succeeded; a
line that cannot be read and a single command with the name of a built-in leave the status as it is
(`Interpreter.remember_latest`).
-/

set_option autoImplicit false

namespace PipeShell

variable {σ : Type} {host : Host σ} {i : Interpreter}

/-! ## Latest values -/

/-- The latest of the values that some entries of a list have. -/
def latest? {α β : Type} (f : α → Option β) (entries : List α) : Option β :=
  (entries.filterMap f).getLast?

/-- An entry before others counts only if none of them has a value. -/
theorem latest?_cons {α β : Type} (f : α → Option β) (entry : α) (rest : List α) :
    latest? f (entry :: rest) = (latest? f rest).or (f entry) := by
  unfold latest?
  cases hf : f entry with
  | none => rw [List.filterMap_cons_none hf, Option.or_none]
  | some b =>
    rw [List.filterMap_cons_some hf, List.getLast?_cons]
    cases (rest.filterMap f).getLast? <;> rfl

namespace Context

/-- The context with a new directory and a new status, where there are such. -/
def note (c : Context) (directory : Option Text) (status : Option Status) : Context :=
  { c with directory := directory.getD c.directory, status := status.getD c.status }

theorem note_none (c : Context) : c.note none none = c := rfl

/-- What is noted later counts, and what was noted before stands in for it. -/
theorem note_note (c : Context) (d d' : Option Text) (s s' : Option Status) :
    (c.note d s).note d' s' = c.note (d'.or d) (s'.or s) := by
  unfold note
  cases d' <;> cases s' <;> rfl

theorem lastStatus_note {c : Context} (hc : c.scope = .connection) (directory : Option Text)
    (status : Option Status) (world : World σ) :
    (c.note directory status).lastStatus world = status.getD c.status := by
  simp only [lastStatus, note, hc]

theorem currentDirectory_note {c : Context} (hc : c.scope = .connection) (directory : Option Text)
    (status : Option Status) (world : World σ) :
    (c.note directory status).currentDirectory host world = directory.getD c.directory := by
  simp only [currentDirectory, note, hc]

/-- The directory that a change of directory ends in, if it succeeds. -/
def destination? (host : Host σ) (target : Text) (c : Context) (world : World σ) : Option Text :=
  match c.changeDirectory host target world with
  | (.ok (), c', _) => some c'.directory
  | (.error _, _, _) => none

/-- A change of directory changes the directory of the context, and only if it succeeds. -/
theorem changeDirectory_context (host : Host σ) (target : Text) (c : Context) (world : World σ) :
    (c.changeDirectory host target world).2.1 =
      c.note (c.destination? host target world) none := by
  obtain ⟨scope, directory, status⟩ := c
  unfold destination? changeDirectory
  cases scope with
  | connection =>
    dsimp only
    split
    · rfl
    · split <;> rfl
  | process =>
    dsimp only
    split
    · rfl
    · split <;> rfl

end Context

/-! ## Built-ins -/

theorem Builtin.eq_of_name {b b' : Builtin} (h : b.name.toList = b'.name.toList) : b = b' := by
  cases b <;> cases b' <;> first | rfl | exact absurd h (by decide)

/-- A built-in on offer is found under its name. -/
theorem BuiltinSet.find?_name {offered : BuiltinSet} {b : Builtin} (h : b ∈ offered) :
    offered.find? b.name.toList = some b := by
  have hsome : (offered.find? b.name.toList).isSome = true :=
    List.find?_isSome.2 ⟨b, h, beq_self_eq_true _⟩
  obtain ⟨b', hb'⟩ := Option.isSome_iff_exists.1 hsome
  rw [hb', Builtin.eq_of_name (BuiltinSet.name_of_find? hb')]

namespace Pipeline

/-- Where a `cd` that stands alone, has no redirects and has an argument is to lead. -/
def target? : Pipeline → Option Text
  | [command] =>
    if command.name = Builtin.cd.name.toList ∧ command.hasRedirects = false then
      command.args.head?
    else none
  | _ => none

/-- The directory that a pipeline leaves behind: it leads there, the shell can have the output of
its terminal, and the change of directory succeeds. -/
def destination? (host : Host σ) (pipeline : Pipeline) (s : Shell σ) : Option Text :=
  match host.attach .output s.world.system with
  | (.error _, _) => none
  | (.ok (), system) =>
    pipeline.target?.bind fun target =>
      s.context.destination? host target (s.withSystem system).world

end Pipeline

/-- A built-in changes no more of the context than the directory, and that only if it is `cd`. -/
theorem Builtin.act_context (b : Builtin) (args : List Text) (c : Context) (world : World σ) :
    (b.act host args c world).context =
      c.note (if b = .cd then args.head?.bind fun target => c.destination? host target world
        else none) none := by
  cases b with
  | cd =>
    cases args with
    | nil => rfl
    | cons target rest =>
      have hc := Context.changeDirectory_context host target c world
      rw [if_pos rfl]
      change (changeDirectory host (target :: rest) c world).context = _
      unfold changeDirectory
      dsimp only
      split <;> rename_i hr <;> rw [hr] at hc <;> exact hc
  | dragon => rfl
  | exit => rfl
  | rc => rfl
  | stopServer => rfl

theorem Builtin.act_ne_notBuiltin (b : Builtin) (args : List Text) (c : Context)
    (world : World σ) : (b.act host args c world).dispatch ≠ .notBuiltin := by
  cases b with
  | cd =>
    unfold act changeDirectory
    dsimp only
    split
    · exact fun h => nomatch h
    · split <;> exact fun h => nomatch h
  | dragon => exact fun h => nomatch h
  | exit => exact fun h => nomatch h
  | rc => exact fun h => nomatch h
  | stopServer => exact fun h => nomatch h

/-- A single command with the name of a built-in on offer is tried as that built-in. -/
theorem dispatch_ne_notBuiltin (host : Host σ) {offered : BuiltinSet} {b : Builtin}
    (hb : b ∈ offered) {command : Command} (hname : command.name = b.name.toList) (c : Context)
    (world : World σ) (out : Sink) : (dispatch host offered [command] c world out).1 ≠ .ok .notBuiltin := by
  have hfind : offered.find? command.name = some b := by
    rw [hname, BuiltinSet.find?_name hb]
  intro h
  unfold dispatch Pipeline.single? at h
  dsimp only at h
  rw [hfind] at h
  dsimp only at h
  split at h
  · cases h
  · split at h
    · cases h
    · exact b.act_ne_notBuiltin _ _ _ (Except.ok.inj h)

/-- A built-in without redirects is carried out before its answer is sent. -/
theorem dispatch_builtin {offered : BuiltinSet} {command : Command} {b : Builtin}
    (hb : offered.find? command.name = some b) (hredirects : ¬ command.hasRedirects = true)
    (c : Context) (world : World σ) (out : Sink) :
    (dispatch host offered [command] c world out).2.1 =
      (b.act host command.args c world).context := by
  unfold dispatch Pipeline.single?
  dsimp only
  rw [hb]
  dsimp only
  rw [if_neg hredirects]
  split <;> rfl

/-- Trying a pipeline as a built-in changes the directory if it is a `cd` that succeeds, also where
the answer could not be sent. -/
theorem dispatch_context {offered : BuiltinSet} (hcd : .cd ∈ offered) (pipeline : Pipeline)
    (c : Context) (world : World σ) (out : Sink) :
    (dispatch host offered pipeline c world out).2.1 =
      c.note (pipeline.target?.bind fun target => c.destination? host target world) none := by
  rcases pipeline with _ | ⟨command, _ | ⟨second, rest⟩⟩
  · rfl
  · cases hb : offered.find? command.name with
    | none =>
      -- then the name is not that of `cd`, which is on offer
      have hname : command.name ≠ Builtin.cd.name.toList := by
        intro h
        rw [h, BuiltinSet.find?_name hcd] at hb
        cases hb
      simp [dispatch, Pipeline.single?, hb, Pipeline.target?, hname, Context.note_none]
    | some b =>
      have hname : b.name.toList = command.name := BuiltinSet.name_of_find? hb
      by_cases hredirects : command.hasRedirects = true
      · simp [dispatch, Pipeline.single?, hb, hredirects, Pipeline.target?, Context.note_none]
      · rw [dispatch_builtin hb hredirects, b.act_context, Pipeline.target?, ← hname]
        by_cases hcdb : b = .cd
        · simp [hcdb, hredirects]
        · have hne : b.name.toList ≠ Builtin.cd.name.toList := fun h => hcdb (Builtin.eq_of_name h)
          simp [hcdb, hne]
  · rfl

/-- Tried as no built-in, a pipeline is no `cd` that stands alone. -/
theorem Pipeline.target?_of_notBuiltin {offered : BuiltinSet} (hcd : .cd ∈ offered)
    {pipeline : Pipeline} {c : Context} {world : World σ} {out : Sink}
    (h : (dispatch host offered pipeline c world out).1 = .ok .notBuiltin) :
    pipeline.target? = none := by
  unfold target?
  split
  · rename_i command
    have hname : command.name ≠ Builtin.cd.name.toList := fun hname =>
      dispatch_ne_notBuiltin host hcd hname c world out h
    rw [if_neg fun hboth => hname hboth.1]
  · rfl

/-! ## Pipelines -/

namespace Pipeline

theorem reportFault_context (fault : StageFault) (s : Shell σ) :
    (reportFault host fault s).context = s.context := by
  unfold reportFault
  split <;> rfl

theorem setUpStage_context (directory : Text) (command : Command) (ends : StageEnds)
    (s : Shell σ) : (setUpStage host directory command ends s).2.context = s.context := by
  unfold setUpStage
  split
  · rfl
  · exact reportFault_context _ _

theorem setUpStages_context (directory : Text) (commands : Pipeline) (upstream : Option Handle)
    (pipes : List Pipe) (s : Shell σ) :
    (setUpStages host directory commands upstream pipes s).2.context = s.context := by
  induction commands generalizing upstream pipes s with
  | nil => rfl
  | cons command rest ih =>
    simp only [setUpStages]
    rw [ih, setUpStage_context]

theorem awaitStages_context (stages : List Stage) (s : Shell σ) :
    (awaitStages host stages s).2.context = s.context := by
  induction stages generalizing s with
  | nil => rfl
  | cons stage rest ih =>
    have hstage : (awaitStage host stage s).2.context = s.context := by
      cases stage <;> rfl
    exact (ih _).trans hstage

/-- In a context of connection scope a pipeline leaves its status behind, unless it could not be
run. -/
theorem run_context (host : Host σ) {pipeline : Pipeline} (hne : pipeline ≠ []) {s : Shell σ}
    (hs : s.context.scope = .connection) :
    (run host pipeline s).2.context =
      s.context.note none ((run host pipeline s).1.toOption.map Outcome.status) := by
  obtain ⟨command, rest, rfl⟩ := List.exists_cons_of_ne_nil hne
  have hset : ∀ (s' : Shell σ) (status : Status), s'.context = s.context →
      (s'.setStatus status).context = s.context.note none (some status) := by
    intro s' status h
    simp only [Shell.setStatus, Context.setStatus, Context.note, h, hs, Option.getD_none,
      Option.getD_some]
  unfold run
  dsimp only
  split
  · rfl
  · apply hset
    rw [awaitStages_context, setUpStages_context]
    rfl

end Pipeline

/-! ## One line -/

/-- The status that the result of a line leaves behind: it ran as a pipeline and came to it. -/
def LineResult.status? : LineResult → Option Status
  | .pipeline outcome => some outcome.status
  | _ => none

namespace Interpreter

theorem runPipeline_context {pipeline : Pipeline} (hne : pipeline ≠ []) {s : Shell σ}
    (hs : s.context.scope = .connection) :
    (runPipeline host pipeline s).2.context =
      s.context.note none (runPipeline host pipeline s).1.status? := by
  have hrun := Pipeline.run_context host hne hs
  unfold runPipeline
  split <;> rename_i hr <;> rw [hr] at hrun <;> exact hrun

/-- **What carrying out a pipeline does to the context.** -/
theorem perform_context (hcd : .cd ∈ i.offered) {pipeline : Pipeline} (hne : pipeline ≠ [])
    {s : Shell σ} (hs : s.context.scope = .connection) :
    (i.perform host pipeline s).2.context = s.context.note (pipeline.destination? host s)
      ((i.perform host pipeline s).1.toOption.bind LineResult.status?) := by
  unfold perform Pipeline.destination?
  rcases host.attach .output s.world.system with ⟨⟨f⟩ | ⟨⟩, system⟩
  · rfl
  · dsimp only
    have hd : (i.tryBuiltin host pipeline (s.withSystem system)).2.context = s.context.note
        (pipeline.target?.bind fun target =>
          s.context.destination? host target (s.withSystem system).world) none :=
      dispatch_context hcd pipeline s.context (s.withSystem system).world s.terminal.output
    split <;> rename_i hr <;> rw [hr] at hd
    · exact hd
    · exact hd
    · rename_i s'
      have htarget : pipeline.target? = none :=
        Pipeline.target?_of_notBuiltin hcd (congrArg Prod.fst hr)
      rw [htarget] at hd ⊢
      have hs' : s'.context = s.context := hd
      rw [← hs'] at hs ⊢
      exact runPipeline_context hne hs
    · rename_i done s' hdone
      exact hd

end Interpreter

/-- A line, and the shell as the line meets it. -/
structure Meeting (σ : Type) where
  line : Text
  shell : Shell σ

namespace Interpreter

/-- The status that a line leaves behind, if it runs as a pipeline. -/
def status? (host : Host σ) (i : Interpreter) (m : Meeting σ) : Option Status :=
  (i.execute host m.line m.shell).1.toOption.bind LineResult.status?

/-- The directory that a line leaves behind, if it is a `cd` that succeeds. -/
def destination? (host : Host σ) (i : Interpreter) (m : Meeting σ) : Option Text :=
  (Pipeline.parse i.limits m.line).toOption.bind fun pipeline => pipeline.destination? host m.shell

/-- **What a line does to the context.** -/
theorem execute_context (hcd : .cd ∈ i.offered) {m : Meeting σ}
    (hs : m.shell.context.scope = .connection) :
    (i.execute host m.line m.shell).2.context =
      m.shell.context.note (i.destination? host m) (i.status? host m) := by
  unfold status? destination? execute
  cases hparse : Pipeline.parse i.limits m.line with
  | error e => rfl
  | ok pipeline => exact perform_context hcd (Pipeline.ne_nil_of_parse hparse) hs

/-- The line cannot be read, or it is one command that is called like a built-in on offer, whatever
its arguments and its redirects. -/
def IsOwn (i : Interpreter) (line : Text) : Prop :=
  (∃ e, Pipeline.parse i.limits line = .error e) ∨
    ∃ command, ∃ b ∈ i.offered,
      Pipeline.parse i.limits line = .ok [command] ∧ command.name = b.name.toList

/-- A line that the shell deals with itself does not run as a pipeline. -/
theorem status?_of_isOwn {m : Meeting σ} (h : i.IsOwn m.line) : i.status? host m = none := by
  unfold status? execute
  rcases h with ⟨e, hparse⟩ | ⟨command, b, hb, hparse, hname⟩
  · rw [hparse]
    rfl
  · rw [hparse]
    dsimp only
    unfold perform
    split
    · rfl
    · rename_i system _
      split
      · rfl
      · rfl
      · rename_i hr
        have hne := dispatch_ne_notBuiltin host hb hname m.shell.context
          (m.shell.withSystem system).world m.shell.terminal.output
        exact absurd (congrArg Prod.fst hr) hne
      · rfl

end Interpreter

/-! ## Runs -/

/-- A line that is to be carried out, with the system and the terminal that it is going to meet. -/
structure Call (σ : Type) where
  line : Text
  world : World σ
  terminal : Terminal

/-- The call in a context. -/
def Call.within (call : Call σ) (c : Context) : Meeting σ where
  line := call.line
  shell := { context := c, world := call.world, terminal := call.terminal }

namespace Interpreter

/-- The context after a call. -/
def afterCall (host : Host σ) (i : Interpreter) (c : Context) (call : Call σ) : Context :=
  (i.execute host call.line (call.within c).shell).2.context

/-- The context after calls in a row. -/
def remember (host : Host σ) (i : Interpreter) (c : Context) (calls : List (Call σ)) : Context :=
  calls.foldl (i.afterCall host) c

/-- Calls in a row, each in the context that those before it have left. -/
def meetings (host : Host σ) (i : Interpreter) (c : Context) :
    List (Call σ) → List (Meeting σ)
  | [] => []
  | call :: rest => call.within c :: i.meetings host (i.afterCall host c call) rest

theorem remember_cons (c : Context) (call : Call σ) (rest : List (Call σ)) :
    i.remember host c (call :: rest) = i.remember host (i.afterCall host c call) rest := rfl

theorem remember_concat (c : Context) (calls : List (Call σ)) (call : Call σ) :
    i.remember host c (calls ++ [call]) = i.afterCall host (i.remember host c calls) call := by
  rw [remember, List.foldl_append]
  rfl

theorem afterCall_eq (host : Host σ) (hcd : .cd ∈ i.offered) {c : Context}
    (hc : c.scope = .connection) (call : Call σ) :
    i.afterCall host c call =
      c.note (i.destination? host (call.within c)) (i.status? host (call.within c)) := by
  have hm : (call.within c).shell.context.scope = .connection := hc
  exact execute_context hcd hm

/-- **What is remembered of a run** is the latest directory and the latest status. -/
theorem remember_eq (host : Host σ) (hcd : .cd ∈ i.offered) {c : Context}
    (hc : c.scope = .connection) (calls : List (Call σ)) :
    i.remember host c calls = c.note (latest? (i.destination? host) (i.meetings host c calls))
      (latest? (i.status? host) (i.meetings host c calls)) := by
  induction calls generalizing c with
  | nil => rfl
  | cons call rest ih =>
    have hafter := afterCall_eq host hcd hc call
    have hscope : (i.afterCall host c call).scope = .connection := by
      rw [hafter]
      exact hc
    -- what the rest leaves behind counts before what this call does
    have hrest := ih hscope
    rw [← remember_cons] at hrest
    rw [hrest, meetings, latest?_cons, latest?_cons, ← Context.note_note, ← hafter]

/-- **What a shell remembers.** Whatever the system and the terminal answer, the status is that of
the latest line that ran as a pipeline, and the directory is that of the latest `cd` that succeeded.
One more line leaves the status as it is if it does not run as a pipeline, so also if it cannot be
read or is one command with the name of a built-in. It leaves the directory as it is unless it is a
`cd` that succeeds. -/
theorem remember_latest (host : Host σ)
    (hi : i.offered = .atTerminal ∨ i.offered = .forClients) {c : Context}
    (hc : c.scope = .connection) (calls : List (Call σ)) (world : World σ) :
    (i.remember host c calls).lastStatus world =
        (latest? (i.status? host) (i.meetings host c calls)).getD c.status ∧
      (i.remember host c calls).currentDirectory host world =
        (latest? (i.destination? host) (i.meetings host c calls)).getD c.directory ∧
      ∀ call : Call σ,
        (i.IsOwn call.line ∨ i.status? host (call.within (i.remember host c calls)) = none →
          (i.remember host c (calls ++ [call])).lastStatus world =
            (i.remember host c calls).lastStatus world) ∧
        (i.destination? host (call.within (i.remember host c calls)) = none →
          (i.remember host c (calls ++ [call])).currentDirectory host world =
            (i.remember host c calls).currentDirectory host world) := by
  have hcd : .cd ∈ i.offered := by
    rcases hi with hi | hi <;> rw [hi] <;> decide
  have hcalls := remember_eq host hcd hc calls
  have hscope : (i.remember host c calls).scope = .connection := by
    rw [hcalls]
    exact hc
  refine ⟨?_, ?_, fun call => ⟨fun hown => ?_, fun hnone => ?_⟩⟩
  · rw [hcalls, Context.lastStatus_note hc]
  · rw [hcalls, Context.currentDirectory_note hc]
  · have hnone : i.status? host (call.within (i.remember host c calls)) = none := by
      rcases hown with hown | hnone
      · have hline : i.IsOwn (call.within (i.remember host c calls)).line := hown
        exact status?_of_isOwn hline
      · exact hnone
    rw [remember_concat, afterCall_eq host hcd hscope, hnone, Context.lastStatus_note hscope]
    exact (Context.lastStatus_note hscope none none world).symm
  · rw [remember_concat, afterCall_eq host hcd hscope, hnone, Context.currentDirectory_note hscope]
    exact (Context.currentDirectory_note hscope none none world).symm

end Interpreter

/-- A system on which every path leads to a directory, and on which the status of a program is the
length of its name. -/
def Host.roomy : Host Unit :=
  { Host.plain with
    canonicalize := fun path _ => .ok path
    isDirectory := fun _ _ => true
    start := fun plan system => (.ok plan.program.length, system)
    await := fun process _ system => (.ok (.code process), {}, system) }

/-- Calls with the given lines, on a system without a state. -/
def Call.ofLines (lines : List String) : List (Call Unit) :=
  lines.map fun line => { line := line.toList, world := ⟨(), 0⟩, terminal := {} }

/-- A run with two changes of directory and two pipelines, and with other lines after them. -/
def stroll : List (Call Unit) :=
  Call.ofLines ["cd /a", "ab", "rc", "cd b", "cd c > d", "cd", "abc | abcd", "exit"]

theorem Interpreter.remember_stroll :
    (remember Host.roomy {} (.inDirectory ['/']) stroll).lastStatus ⟨(), 0⟩ = 4 ∧
      (remember Host.roomy {} (.inDirectory ['/']) stroll).currentDirectory Host.roomy ⟨(), 0⟩ =
        "/a/b".toList := by
  obtain ⟨hstatus, hdirectory, -⟩ := remember_latest Host.roomy (i := {}) (.inl rfl)
    (c := .inDirectory ['/']) rfl stroll ⟨(), 0⟩
  constructor
  · rw [hstatus]
    decide +kernel
  · rw [hdirectory]
    decide +kernel

/-- A shell whose latest pipeline came to 7. -/
def sevenLeft : Shell Unit where
  context := { directory := ['/'], status := 7 }
  world := ⟨(), 0⟩
  terminal := {}

/-- The name of a built-in does not make a line a built-in. In a longer pipeline it is the name of a
program, and so is that of a built-in that is not on offer. Both lines leave a status behind. -/
theorem Interpreter.execute_outsiders :
    Pipeline.parse {} "rc | true".toList =
        .ok [{ name := Builtin.rc.name.toList }, { name := "true".toList }] ∧
      .rc ∈ BuiltinSet.atTerminal ∧
      (Interpreter.execute Host.plain {} "rc | true".toList sevenLeft).2.lastStatus ≠
        sevenLeft.lastStatus ∧
      Pipeline.parse {} "stop-server".toList =
        .ok [{ name := Builtin.stopServer.name.toList }] ∧
      (Interpreter.execute Host.plain {} "stop-server".toList sevenLeft).2.lastStatus ≠
        sevenLeft.lastStatus := by
  refine ⟨Pipeline.parse_eq_ok_of_toOption ?_, ?_, ?_, Pipeline.parse_eq_ok_of_toOption ?_, ?_⟩ <;>
    decide +kernel

end PipeShell
