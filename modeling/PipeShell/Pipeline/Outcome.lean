/-!
# Outcome of a pipeline

Every stage of a pipeline has a status. The pipeline's own status is that of its last stage, unless
some stage asks for shutdown: then it is the shutdown status, wherever the stage stands.
-/

set_option autoImplicit false

namespace PipeShell

/-- The status of a stage or of a pipeline. -/
abbrev Status := Int

/-- The status that asks for shutdown. -/
def shutdownStatus : Status := 99

/-- What a pipeline came to. -/
structure Outcome where
  /-- The status of the pipeline. -/
  status : Status := 0
  /-- The status of each stage, first to last. -/
  stages : List Status := []
  deriving DecidableEq, Repr

namespace Outcome

/-- The status that stage statuses add up to. -/
def combine (stages : List Status) : Status :=
  if shutdownStatus ∈ stages then shutdownStatus else stages.getLast?.getD 0

/-- The outcome with the given stage statuses. -/
def ofStages (stages : List Status) : Outcome := ⟨combine stages, stages⟩

/-- Did the pipeline succeed? -/
def succeeded (o : Outcome) : Bool := o.status == 0

/-- Does the pipeline ask for shutdown? -/
def asksForShutdown (o : Outcome) : Bool := o.status == shutdownStatus

end Outcome

end PipeShell
