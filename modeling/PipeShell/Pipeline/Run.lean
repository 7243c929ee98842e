import PipeShell.Pipeline.Stage

/-!
# Running a pipeline

All pipes are made first, one between each two neighbours. Then the stages are set up from first to
last; one that cannot be started is reported on the terminal's error channel and the others go on.
Then each process that runs is waited for, in the same order. The stages' statuses make the
pipeline's, which the context remembers. A pipeline without commands does nothing at all.

Proves: a pipeline never gives its terminal more input than it had (`run_unread`).
-/

set_option autoImplicit false

namespace PipeShell.Pipeline

variable {σ : Type} (host : Host σ)

/-- A stage after its set-up. -/
inductive Stage where
  | running (process : Process)
  | finished (status : Status)
  deriving DecidableEq, Repr

/-- Gives up pipes. -/
def closePipes (pipes : List Pipe) (system : σ) : σ :=
  pipes.foldl (fun system p => host.close p.writer (host.close p.reader system)) system

/-- Makes `n` pipes. If one cannot be made, those made before it are given up. -/
def makePipes (n : Nat) (made : List Pipe) (system : σ) : Except Failure (List Pipe) × σ :=
  match n with
  | 0 => (.ok made, system)
  | n + 1 =>
    match host.makePipe system with
    | (.error f, system) => (.error f, closePipes host made system)
    | (.ok p, system) => makePipes n (made ++ [p]) system

/-- Reports a fault on the error channel. A report that cannot be written is lost. -/
def reportFault (fault : StageFault) (s : Shell σ) : Shell σ :=
  match host.attach .error s.world.system with
  | (.error _, system) => s.withSystem system
  | (.ok (), system) =>
    { s.withSystem system with terminal := s.terminal.report .error fault.message }

/-- Sets up one stage. -/
def setUpStage (directory : Text) (command : Command) (ends : StageEnds) (s : Shell σ) :
    Stage × Shell σ :=
  match command.setUp host directory ends s.world.system with
  | (.ok p, system) => (.running p, s.withSystem system)
  | (.error e, system) => (.finished e.status, reportFault host e (s.withSystem system))

/-- Sets up stages, given the end that feeds the first of them and the pipes between them. -/
def setUpStages (directory : Text) :
    Pipeline → Option Handle → List Pipe → Shell σ → List Stage × Shell σ
  | [], _, _, s => ([], s)
  | command :: rest, upstream, pipes, s =>
    let ends := { upstream, downstream := pipes.head?.map Pipe.writer }
    let (stage, s) := setUpStage host directory command ends s
    let (stages, s) := setUpStages directory rest (pipes.head?.map Pipe.reader) pipes.tail s
    (stage :: stages, s)

/-- The status of a stage that was waited for. A process that cannot be waited for counts as
failed. -/
def statusOf : Except Failure Exit → Status
  | .ok e => e.status
  | .error _ => 1

/-- Waits for a stage. -/
def awaitStage (stage : Stage) (s : Shell σ) : Status × Shell σ :=
  match stage with
  | .finished status => (status, s)
  | .running p =>
    let (result, conduct, system) := host.await p s.terminal s.world.system
    (statusOf result, { s.withSystem system with terminal := s.terminal.undergo conduct })

/-- Waits for stages, first to last. -/
def awaitStages : List Stage → Shell σ → List Status × Shell σ
  | [], s => ([], s)
  | stage :: rest, s =>
    let (status, s) := awaitStage host stage s
    let (statuses, s) := awaitStages rest s
    (status :: statuses, s)

/-- Runs a pipeline. It fails only when a pipe cannot be made. -/
def run (pipeline : Pipeline) (s : Shell σ) : Except Failure Outcome × Shell σ :=
  match pipeline with
  | [] => (.ok {}, s)
  | _ :: rest =>
    match makePipes host rest.length [] s.world.system with
    | (.error f, system) => (.error f, s.withSystem system)
    | (.ok pipes, system) =>
      let s := s.withSystem system
      let (stages, s) := setUpStages host (s.directory host) pipeline none pipes s
      let (statuses, s) := awaitStages host stages s
      let outcome := Outcome.ofStages statuses
      (.ok outcome, s.setStatus outcome.status)

/-! ## Input left over -/

theorem reportFault_unread (fault : StageFault) (s : Shell σ) :
    (reportFault host fault s).unread = s.unread := by
  unfold reportFault
  split <;> simp [Shell.unread, Shell.withSystem]

theorem setUpStage_unread (directory : Text) (command : Command) (ends : StageEnds)
    (s : Shell σ) : (setUpStage host directory command ends s).2.unread = s.unread := by
  unfold setUpStage
  split
  · rfl
  · rw [reportFault_unread]; rfl

theorem setUpStages_unread (directory : Text) (commands : Pipeline) (upstream : Option Handle)
    (pipes : List Pipe) (s : Shell σ) :
    (setUpStages host directory commands upstream pipes s).2.unread = s.unread := by
  induction commands generalizing upstream pipes s with
  | nil => rfl
  | cons command rest ih => simp only [setUpStages]; rw [ih, setUpStage_unread]

theorem awaitStage_unread (stage : Stage) (s : Shell σ) :
    (awaitStage host stage s).2.unread ≤ s.unread := by
  unfold awaitStage
  split
  · exact Nat.le_refl _
  · exact Terminal.undergo_input_size _ _

theorem awaitStages_unread (stages : List Stage) (s : Shell σ) :
    (awaitStages host stages s).2.unread ≤ s.unread := by
  induction stages generalizing s with
  | nil => exact Nat.le_refl _
  | cons stage rest ih => exact Nat.le_trans (ih _) (awaitStage_unread host stage s)

theorem run_unread (pipeline : Pipeline) (s : Shell σ) :
    (run host pipeline s).2.unread ≤ s.unread := by
  unfold run
  split
  · exact Nat.le_refl _
  · split
    · exact Nat.le_refl _
    · simp only [Shell.setStatus_unread]
      refine Nat.le_trans (awaitStages_unread host _ _) ?_
      rw [setUpStages_unread]
      exact Nat.le_refl _

end PipeShell.Pipeline
