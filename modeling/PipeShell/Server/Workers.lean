import PipeShell.Server.Serial

/-!
# Serving each client by a worker of its own

Workers share the system and nothing else. Which of them acts next is not theirs to decide: a turn
lets one of them take and answer one request. A worker whose client asks to stop the server ends
all of them at once.
-/

set_option autoImplicit false

namespace PipeShell.Workers

/-- A worker: its session without the system, and how it ended, if it did. -/
structure Worker where
  context : Context
  connection : Terminal
  pending : Bytes := []
  ending : Option SessionEnd := none

/-- What happens at a server with workers. -/
inductive Event where
  /-- A client connects. -/
  | connection (terminal : Terminal)
  /-- A worker's turn has come. -/
  | turn (worker : Nat)

/-- The system and the workers, in the order in which their clients connected. -/
structure State (σ : Type) where
  world : World σ
  workers : List Worker := []

variable {σ : Type} (host : Host σ)

/-- A worker as a session of the system. -/
def Worker.session (w : Worker) (world : World σ) : Session σ :=
  { shell := { context := w.context, world, terminal := w.connection }, pending := w.pending }

/-- A session as a worker. -/
def Worker.ofSession (ending : Option SessionEnd) (s : Session σ) : Worker :=
  { context := s.shell.context, connection := s.shell.terminal, pending := s.pending, ending }

/-- A worker for a new connection. -/
def Worker.start (scope : Scope) (connection : Terminal) (world : World σ) : Worker :=
  Worker.ofSession none (Session.start host scope connection world)

/-- One turn of a worker that has not ended. -/
def Worker.act (i : Interpreter) (w : Worker) (world : World σ) : Worker × World σ :=
  match w.ending with
  | some _ => (w, world)
  | none =>
    let (ending, session) := (w.session world).step host i
    (Worker.ofSession ending session, session.shell.world)

/-- What one event does. -/
def step (c : ServerConfig) (event : Event) (s : State σ) : State σ :=
  match event with
  | .connection terminal =>
    { s with workers := s.workers ++ [Worker.start host c.scope terminal s.world] }
  | .turn k =>
    match s.workers[k]? with
    | none => s
    | some w =>
      let (w, world) := w.act host c.interpreter s.world
      { world, workers := s.workers.set k w }

/-- Did a worker's client ask to stop the server? -/
def State.isStopped (s : State σ) : Bool := s.workers.any (·.ending == some .stopServer)

/-- Runs a server with workers while things happen, until it is stopped. -/
def run (c : ServerConfig) (events : List Event) (s : State σ) : State σ :=
  events.foldl (fun s event => if s.isStopped then s else step host c event s) s

end PipeShell.Workers
