import PipeShell.Interpreter
import PipeShell.Proofs.Twins

/-!
# A line replayed

On a system that follows rules, a line comes to the same in two runs that start from equal files,
however the two systems differ otherwise (`Interpreter.execute_twins`). The two runs are walked
through side by side. What two shells have in common is `Shell.Twins`: their systems are twins,
their contexts are equal and of connection scope, and their terminals are related in a way that is
kept when both are treated alike (`Terminal.Parallel`).

Along the way it is seen that a line never moves the system's own directory, nor writes the status
that contexts of process scope share.
-/

set_option autoImplicit false

namespace PipeShell

/-! ## Shells side by side -/

/-- A relation between terminals that is kept when both are treated alike. What is said is taken on
both or on neither. -/
structure Terminal.Parallel (R : Terminal → Terminal → Prop) : Prop where
  say : ∀ {t u : Terminal}, R t u → ∀ text,
    (t.output.send [Utf8.encode text]).1 = (u.output.send [Utf8.encode text]).1 ∧
      R { t with output := (t.output.send [Utf8.encode text]).2 }
        { u with output := (u.output.send [Utf8.encode text]).2 }
  report : ∀ {t u : Terminal}, R t u → ∀ text, R (t.report .error text) (u.report .error text)
  undergo : ∀ {t u : Terminal}, R t u → ∀ wrote, R (t.undergo { wrote }) (u.undergo { wrote })

theorem Terminal.parallel_eq : Parallel Eq where
  say := by
    rintro t _ rfl text
    exact ⟨rfl, rfl⟩
  report := by
    rintro t _ rfl text
    rfl
  undergo := by
    rintro t _ rfl wrote
    rfl

variable {σ φ : Type} {host : Host σ} {rules : Rules φ} {look : Look σ φ}
  {R : Terminal → Terminal → Prop} {w w' : World σ} {q : List Runner}

/-- Two shells with equal contexts of connection scope, the systems of which are twins and the
terminals of which are related. Neither process has moved since the worlds `w` and `w'`, and the
status that contexts of process scope share is the same as then. -/
structure Shell.Twins (host : Host σ) (look : Look σ φ) (R : Terminal → Terminal → Prop)
    (w w' : World σ) (q : List Runner) (s s' : Shell σ) : Prop where
  system : look.Twins host (host.currentDirectory w.system) (host.currentDirectory w'.system) q
    s.world.system s'.world.system
  status_left : s.world.sharedStatus = w.sharedStatus
  status_right : s'.world.sharedStatus = w'.sharedStatus
  context_eq : s.context = s'.context
  scope_eq : s.context.scope = .connection
  terminal : R s.terminal s'.terminal

namespace Shell.Twins

variable {s s' : Shell σ}

/-- Operations on the systems. -/
theorem withSystem (h : Shell.Twins host look R w w' q s s') {r : List Runner} {t t' : σ}
    (ht : look.Twins host (host.currentDirectory w.system) (host.currentDirectory w'.system) r
      t t') : Shell.Twins host look R w w' r (s.withSystem t) (s'.withSystem t') :=
  ⟨ht, h.status_left, h.status_right, h.context_eq, h.scope_eq, h.terminal⟩

/-- Something done to the terminals. -/
theorem withTerminal (h : Shell.Twins host look R w w' q s s') {t t' : Terminal} (ht : R t t') :
    Shell.Twins host look R w w' q { s with terminal := t } { s' with terminal := t' } :=
  ⟨h.system, h.status_left, h.status_right, h.context_eq, h.scope_eq, ht⟩

/-- Contexts of connection scope look for their directory nowhere else. -/
theorem directory_eq (h : Shell.Twins host look R w w' q s s') :
    s.directory host = s'.directory host := by
  unfold Shell.directory Context.currentDirectory
  rw [← h.context_eq, h.scope_eq]

theorem setStatus (h : Shell.Twins host look R w w' q s s') (status : Status) :
    Shell.Twins host look R w w' q (s.setStatus status) (s'.setStatus status) := by
  unfold Shell.setStatus Context.setStatus
  rw [← h.context_eq, h.scope_eq]
  exact ⟨h.system, h.status_left, h.status_right, rfl, rfl, h.terminal⟩

end Shell.Twins

/-! ## Pipelines -/

namespace Pipeline

variable {s s' : Shell σ} (ho : host.Obeys rules look) (hR : Terminal.Parallel R)

/-- The stages that run in two systems, in the order of the programs, and those that do not. -/
inductive Lined : List Stage → List Stage → List Runner → Prop
  | nil : Lined [] [] []
  | finished (status : Status) {a b : List Stage} {r : List Runner} (h : Lined a b r) :
      Lined (.finished status :: a) (.finished status :: b) r
  | running (runner : Runner) {a b : List Stage} {r : List Runner} (h : Lined a b r) :
      Lined (.running runner.left :: a) (.running runner.right :: b) (runner :: r)

include ho

theorem closePipes_keeps (pipes : List Pipe) (s : σ) :
    look.Keeps host s (closePipes host pipes s) := by
  induction pipes generalizing s with
  | nil => exact Look.Keeps.refl s
  | cons pipe rest ih =>
    have hpipe : look.Keeps host s (host.close pipe.writer (host.close pipe.reader s)) :=
      (ho.close_keeps _ _).trans (ho.close_keeps _ _)
    exact hpipe.trans (ih _)

/-- Pipes are made in both systems or in neither. -/
theorem makePipes_twins {d d' : Except Failure Text} {s s' : σ}
    (h : look.Twins host d d' q s s') (n : Nat) (made made' : List Pipe)
    (hmade : made.length = made'.length) :
    Both (look.Twins host d d' q)
      (fun pipes pipes' t t' => pipes.length = pipes'.length ∧ look.Twins host d d' q t t')
      (makePipes host n made s) (makePipes host n made' s') := by
  induction n generalizing made made' s s' with
  | zero => exact .ok ⟨hmade, h⟩
  | succ n ih =>
    unfold makePipes
    have hpipe := h.makePipe ho
    generalize host.makePipe s = x at hpipe ⊢
    generalize host.makePipe s' = x' at hpipe ⊢
    cases hpipe with
    | error hk => exact .error (hk.keeps (closePipes_keeps ho _ _) (closePipes_keeps ho _ _))
    | ok hk =>
      apply ih hk
      simp only [List.length_append, List.length_singleton, hmade]

include hR

theorem reportFault_twins (h : Shell.Twins host look R w w' q s s') (fault : StageFault) :
    Shell.Twins host look R w w' q (reportFault host fault s) (reportFault host fault s') := by
  unfold reportFault
  have hattach := h.system.attach ho .error
  generalize host.attach .error s.world.system = x at hattach ⊢
  generalize host.attach .error s'.world.system = x' at hattach ⊢
  cases hattach with
  | error hk => exact h.withSystem hk
  | ok hk => exact (h.withSystem hk.1).withTerminal (hR.report h.terminal _)

theorem setUpStage_twins (h : Shell.Twins host look R w w' q s s') (directory : Text)
    (command : Command) (ends ends' : StageEnds)
    (hup : ends.upstream.isSome = ends'.upstream.isSome)
    (hdown : ends.downstream.isSome = ends'.downstream.isSome) :
    ∃ r, (∀ {a b : List Stage} {r' : List Runner}, Lined a b r' →
        Lined ((setUpStage host directory command ends s).1 :: a)
          ((setUpStage host directory command ends' s').1 :: b) (r ++ r')) ∧
      Shell.Twins host look R w w' (q ++ r) (setUpStage host directory command ends s).2
        (setUpStage host directory command ends' s').2 := by
  unfold setUpStage
  have hsetUp := Command.setUp_twins command directory ho h.system hup hdown
  generalize command.setUp host directory ends s.world.system = x at hsetUp ⊢
  generalize command.setUp host directory ends' s'.world.system = x' at hsetUp ⊢
  cases hsetUp with
  | @error e t t' hk =>
    -- the stage counts as finished, and no program was added
    refine ⟨[], fun hl => .finished _ hl, ?_⟩
    rw [List.append_nil]
    exact reportFault_twins ho hR (h.withSystem hk) e
  | @ok p p' t t' hk =>
    obtain ⟨task, hk⟩ := hk
    exact ⟨[⟨p, p', task⟩], fun hl => .running ⟨p, p', task⟩ hl, h.withSystem hk⟩

/-- The same stages are set up, and the programs that run are those of the stages that run. -/
theorem setUpStages_twins (h : Shell.Twins host look R w w' q s s') (directory : Text)
    (commands : Pipeline) (up up' : Option Handle) (hup : up.isSome = up'.isSome)
    {pipes pipes' : List Pipe} (hpipes : pipes.length = pipes'.length) :
    ∃ r, Lined (setUpStages host directory commands up pipes s).1
        (setUpStages host directory commands up' pipes' s').1 r ∧
      Shell.Twins host look R w w' (q ++ r) (setUpStages host directory commands up pipes s).2
        (setUpStages host directory commands up' pipes' s').2 := by
  induction commands generalizing up up' pipes pipes' q s s' with
  | nil =>
    refine ⟨[], .nil, ?_⟩
    rw [List.append_nil]
    exact h
  | cons command rest ih =>
    -- both have a pipe behind the stage, or neither has
    have hhead : ∀ f : Pipe → Handle,
        (pipes.head?.map f).isSome = (pipes'.head?.map f).isSome := by
      intro f
      cases pipes with
      | nil => cases pipes' with
        | nil => rfl
        | cons pipe' pipes' => cases hpipes
      | cons pipe pipes => cases pipes' with
        | nil => cases hpipes
        | cons pipe' pipes' => rfl
    have htail : pipes.tail.length = pipes'.tail.length := by
      rw [List.length_tail, List.length_tail, hpipes]
    obtain ⟨r, hstage, hshell⟩ := setUpStage_twins ho hR h directory command
      ⟨up, pipes.head?.map Pipe.writer⟩ ⟨up', pipes'.head?.map Pipe.writer⟩ hup (hhead Pipe.writer)
    obtain ⟨r', hstages, hshells⟩ := ih hshell _ _ (hhead Pipe.reader) htail
    refine ⟨r ++ r', hstage hstages, ?_⟩
    rw [← List.append_assoc]
    exact hshells

/-- The programs that run are waited for in the order in which they were started, and end alike. -/
theorem awaitStages_twins {stages stages' : List Stage} (hl : Lined stages stages' q)
    (h : Shell.Twins host look R w w' q s s') :
    (awaitStages host stages s).1 = (awaitStages host stages' s').1 ∧
      Shell.Twins host look R w w' [] (awaitStages host stages s).2
        (awaitStages host stages' s').2 := by
  induction hl generalizing s s' with
  | nil => exact ⟨rfl, h⟩
  | finished status hl ih =>
    obtain ⟨hstatuses, hshells⟩ := ih h
    exact ⟨congrArg (status :: ·) hstatuses, hshells⟩
  | @running runner a b r hl ih =>
    obtain ⟨hexit, hconduct, hafter⟩ := ho.await_eq runner.left s.terminal s.world.system
      runner.task _ h.system.running_left
    obtain ⟨hexit', hconduct', hafter'⟩ := ho.await_eq runner.right s'.terminal s'.world.system
      runner.task _ h.system.running_right
    rw [← h.system.files_eq] at hexit' hconduct' hafter'
    have hterminal : R
        (s.terminal.undergo (host.await runner.left s.terminal s.world.system).2.1)
        (s'.terminal.undergo (host.await runner.right s'.terminal s'.world.system).2.1) := by
      rw [hconduct, hconduct']
      exact hR.undergo h.terminal _
    have hstage := (h.withSystem (h.system.after hafter hafter' rfl rfl rfl)).withTerminal hterminal
    obtain ⟨hstatuses, hshells⟩ := ih hstage
    refine ⟨?_, hshells⟩
    simp only [awaitStages, awaitStage, hexit, hexit', List.cons.injEq, true_and]
    exact hstatuses

/-- **Pipelines.** A pipeline comes to the same in both, and nothing is left running. -/
theorem run_twins (h : Shell.Twins host look R w w' [] s s') (pipeline : Pipeline) :
    (run host pipeline s).1 = (run host pipeline s').1 ∧
      Shell.Twins host look R w w' [] (run host pipeline s).2 (run host pipeline s').2 := by
  unfold run
  cases pipeline with
  | nil => exact ⟨rfl, h⟩
  | cons command rest =>
    dsimp only
    have hpipes := makePipes_twins ho h.system rest.length [] [] rfl
    generalize makePipes host rest.length [] s.world.system = x at hpipes ⊢
    generalize makePipes host rest.length [] s'.world.system = x' at hpipes ⊢
    cases hpipes with
    | error hk => exact ⟨rfl, h.withSystem hk⟩
    | @ok pipes pipes' t t' hk =>
      obtain ⟨hlength, hk⟩ := hk
      have hsystem := h.withSystem hk
      have hdirectory := hsystem.directory_eq
      dsimp only
      rw [← hdirectory]
      obtain ⟨r, hlined, hstages⟩ := setUpStages_twins ho hR hsystem
        ((s.withSystem t).directory host) (command :: rest) none none rfl hlength
      rw [List.nil_append] at hstages
      obtain ⟨hstatuses, hshells⟩ := awaitStages_twins ho hR hlined hstages
      rw [hstatuses]
      exact ⟨rfl, hshells.setStatus _⟩

end Pipeline

/-! ## Built-ins -/

/-- A change of directory in a context of connection scope comes to the same, and touches nothing
but the context. -/
theorem Context.changeDirectory_twins (ho : host.Obeys rules look) {c : Context}
    (hc : c.scope = .connection) {v v' : World σ}
    (hfiles : look.files v.system = look.files v'.system) (target : Text) :
    ∃ result c', c.changeDirectory host target v = (result, c', v) ∧
      c.changeDirectory host target v' = (result, c', v') ∧ c'.scope = .connection := by
  have hresolve : c.resolve host v target = c.resolve host v' target := by
    unfold Context.resolve Context.currentDirectory
    rw [hc]
  unfold Context.changeDirectory
  dsimp only
  rw [hc]
  dsimp only
  rw [ho.canonicalize_eq, ho.canonicalize_eq, hresolve, hfiles]
  cases rules.canonicalize (c.resolve host v' target) (look.files v'.system) with
  | error f => exact ⟨.error f, c, rfl, rfl, hc⟩
  | ok directory =>
    dsimp only
    rw [ho.isDirectory_eq, ho.isDirectory_eq, hfiles]
    cases rules.isDirectory directory (look.files v'.system) with
    | true => exact ⟨.ok (), _, rfl, rfl, rfl⟩
    | false => exact ⟨.error .notDirectory, c, rfl, rfl, hc⟩

theorem Builtin.act_twins (ho : host.Obeys rules look) (b : Builtin) (args : List Text)
    {c : Context} (hc : c.scope = .connection) {v v' : World σ}
    (hfiles : look.files v.system = look.files v'.system) :
    ∃ dispatch text c', b.act host args c v = ⟨dispatch, text, c', v⟩ ∧
      b.act host args c v' = ⟨dispatch, text, c', v'⟩ ∧ c'.scope = .connection := by
  cases b with
  | cd =>
    cases args with
    | nil => exact ⟨_, _, c, rfl, rfl, hc⟩
    | cons target rest =>
      obtain ⟨result, c', hl, hr, hscope⟩ := c.changeDirectory_twins ho hc hfiles target
      simp only [act, changeDirectory, hl, hr]
      cases result with
      | ok u => exact ⟨_, _, c', rfl, rfl, hscope⟩
      | error f => exact ⟨_, _, c', rfl, rfl, hscope⟩
  | rc =>
    have hstatus : c.lastStatus v = c.lastStatus v' := by
      unfold Context.lastStatus
      rw [hc]
    exact ⟨_, _, c, rfl, by simp only [act, hstatus], hc⟩
  | _ => exact ⟨_, _, c, rfl, rfl, hc⟩

namespace Interpreter

variable {s s' : Shell σ} {i i' : Interpreter} (ho : host.Obeys rules look)
  (hR : Terminal.Parallel R)
include ho hR

/-- A pipeline is tried as a built-in with the same outcome, if the same is on offer under its
name. -/
theorem tryBuiltin_twins (h : Shell.Twins host look R w w' q s s') {pipeline : Pipeline}
    (hoffered : ∀ command, pipeline = [command] →
      i.offered.find? command.name = i'.offered.find? command.name) :
    (i.tryBuiltin host pipeline s).1 = (i'.tryBuiltin host pipeline s').1 ∧
      Shell.Twins host look R w w' q (i.tryBuiltin host pipeline s).2
        (i'.tryBuiltin host pipeline s').2 := by
  unfold tryBuiltin dispatch
  cases hsingle : Pipeline.single? pipeline with
  | none => exact ⟨rfl, h⟩
  | some command =>
    dsimp only
    rw [← hoffered command (Pipeline.single?_eq_some.1 hsingle)]
    cases i.offered.find? command.name with
    | none => exact ⟨rfl, h⟩
    | some b =>
      dsimp only
      by_cases hredirects : command.hasRedirects = true
      · rw [if_pos hredirects, if_pos hredirects]
        exact ⟨rfl, h⟩
      · rw [if_neg hredirects, if_neg hredirects, ← h.context_eq]
        obtain ⟨d, text, c, hl, hr, hscope⟩ :=
          b.act_twins ho command.args h.scope_eq h.system.files_eq
        obtain ⟨hsent, hterminal⟩ := hR.say h.terminal text
        rw [hl, hr]
        dsimp only
        -- the answer is taken on both terminals or on neither
        generalize s.terminal.output.send _ = x at hsent hterminal ⊢
        generalize s'.terminal.output.send _ = x' at hsent hterminal ⊢
        obtain ⟨result, out⟩ := x
        obtain ⟨result', out'⟩ := x'
        obtain rfl : result = result' := hsent
        cases result with
        | error f => exact ⟨rfl, h.system, h.status_left, h.status_right, rfl, hscope, hterminal⟩
        | ok u => exact ⟨rfl, h.system, h.status_left, h.status_right, rfl, hscope, hterminal⟩

theorem runPipeline_twins (h : Shell.Twins host look R w w' [] s s') (pipeline : Pipeline) :
    (runPipeline host pipeline s).1 = (runPipeline host pipeline s').1 ∧
      Shell.Twins host look R w w' [] (runPipeline host pipeline s).2
        (runPipeline host pipeline s').2 := by
  obtain ⟨hresult, hshells⟩ := Pipeline.run_twins ho hR h pipeline
  unfold runPipeline
  generalize Pipeline.run host pipeline s = x at hresult hshells ⊢
  generalize Pipeline.run host pipeline s' = x' at hresult hshells ⊢
  obtain ⟨result, t⟩ := x
  obtain ⟨result', t'⟩ := x'
  obtain rfl : result = result' := hresult
  cases result with
  | ok outcome => exact ⟨rfl, hshells⟩
  | error f => exact ⟨rfl, hshells⟩

theorem perform_twins (h : Shell.Twins host look R w w' [] s s') {pipeline : Pipeline}
    (hoffered : ∀ command, pipeline = [command] →
      i.offered.find? command.name = i'.offered.find? command.name) :
    (i.perform host pipeline s).1 = (i'.perform host pipeline s').1 ∧
      Shell.Twins host look R w w' [] (i.perform host pipeline s).2
        (i'.perform host pipeline s').2 := by
  unfold perform
  have hattach := h.system.attach ho .output
  generalize host.attach .output s.world.system = x at hattach ⊢
  generalize host.attach .output s'.world.system = x' at hattach ⊢
  cases hattach with
  | error hk => exact ⟨rfl, h.withSystem hk⟩
  | @ok _ _ t t' hk =>
    obtain ⟨hresult, hshells⟩ := tryBuiltin_twins ho hR (h.withSystem hk.1) hoffered
    dsimp only
    generalize i.tryBuiltin host pipeline (s.withSystem t) = y at hresult hshells ⊢
    generalize i'.tryBuiltin host pipeline (s'.withSystem t') = y' at hresult hshells ⊢
    obtain ⟨result, u⟩ := y
    obtain ⟨result', u'⟩ := y'
    obtain rfl : result = result' := hresult
    rcases result with (_ | f) | (_ | _ | action)
    · exact ⟨rfl, hshells⟩
    · exact ⟨rfl, hshells⟩
    · -- no built-in, and the pipeline runs
      obtain ⟨hrun, hshells⟩ := runPipeline_twins ho hR hshells pipeline
      exact ⟨congrArg Except.ok hrun, hshells⟩
    · exact ⟨rfl, hshells⟩
    · exact ⟨rfl, hshells⟩

/-- **Lines.** A line comes to the same in both shells, if their limits are equal and the same is on
offer under its name. Afterwards no program runs. -/
theorem execute_twins (h : Shell.Twins host look R w w' [] s s') (hlimits : i.limits = i'.limits)
    {line : Text} (hoffered : ∀ command, Pipeline.parse i.limits line = .ok [command] →
      i.offered.find? command.name = i'.offered.find? command.name) :
    (i.execute host line s).1 = (i'.execute host line s').1 ∧
      Shell.Twins host look R w w' [] (i.execute host line s).2 (i'.execute host line s').2 := by
  unfold execute
  rw [← hlimits]
  cases hparse : Pipeline.parse i.limits line with
  | error e => exact ⟨rfl, h⟩
  | ok pipeline =>
    refine perform_twins ho hR h fun command hcommand => hoffered command ?_
    rw [hparse, hcommand]

end Interpreter

end PipeShell
