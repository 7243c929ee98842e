import PipeShell.Machine.Kernel.Signals

/-!
# Running processes

Processes take turns, in the order of their numbers. A turn lasts until the process has to wait, has
ended or has used its share of steps. When all wait, time passes up to the point for which one of
them waits; when none waits for a point of time, nothing can happen any more and they are killed. So
are processes that have not ended after all the rounds there are.
-/

set_option autoImplicit false

namespace PipeShell.Machine.Scheduler

/-- A process and the program it is running. -/
structure Running : Type 1 where
  process : ProcessId
  program : Program

/-- What is left after a turn. -/
structure Turn : Type 1 where
  state : State
  /-- The process, unless it has ended, and those it has split off. -/
  running : List Running
  /-- Has anything happened? -/
  moved : Bool
  /-- The point of time for which the process waits. -/
  wake : Option Nat := none

/-- The signal by which a process is told of the end of one it has split off. -/
def childEnded : Nat := 17

/-- Ends a process and tells the one that has started it. -/
def finish (s : State) (p : ProcessId) (how : Exit) : State :=
  let s := s.finish p how
  match s.entry? p with
  | some e => if s.isAlive e.parent then Signal.send s e.parent childEnded else s
  | none => s

/-- The process that another one splits off. -/
def offspring (parent : ProcessId) (e : Entry) : Entry := { e with parent, pending := [] }

/-- A process that another program takes over: private slots are given up, and signals that were
caught are caught no more. -/
def takenOver (e : Entry) : Entry :=
  { e with
    slots := e.slots.filter fun slot => !slot.isPrivate
    dispositions := e.dispositions.filter fun d => d.2 == .ignored }

/-- A turn of at most so many steps. -/
def turn (load : String → Task → Program) (p : ProcessId) :
    Nat → Program → State → List Running → Bool → Turn
  | 0, program, s, born, _ => ⟨s, ⟨p, program⟩ :: born, true, none⟩
  | steps + 1, program, s, born, moved =>
    if !s.isAlive p then ⟨s, born, true, none⟩
    else match program with
      | .exit how => ⟨finish s p how, born, true, none⟩
      | .ask request next =>
        match request p s with
        | .done answer s => turn load p steps (next answer) s born true
        | .wait wake => ⟨s, ⟨p, .ask request next⟩ :: born, moved, wake⟩
        | .died how => ⟨finish s p how, born, true, none⟩
      | .fork child next =>
        let (c, s) := s.addEntry (offspring p ((s.entry? p).getD {}))
        turn load p steps (next c) s (born ++ [⟨c, child⟩]) true
      | .become name task =>
        turn load p steps (load name task) (s.modifyEntry p takenOver) born true

/-- The steps of a turn. -/
def share : Nat := 1000

/-- What is left after a round. -/
structure Round : Type 1 where
  state : State
  running : List Running := []
  moved : Bool := false
  wake : Option Nat := none

/-- The earlier of two points of time. -/
def earlier : Option Nat → Option Nat → Option Nat
  | some a, some b => some (min a b)
  | a, none => a
  | none, b => b

/-- A turn of each process. -/
def round (load : String → Task → Program) (running : List Running) (s : State) : Round :=
  running.foldl
    (fun r one =>
      let t := turn load one.process share one.program r.state [] false
      { state := t.state, running := r.running ++ t.running, moved := r.moved || t.moved
        wake := earlier r.wake t.wake })
    { state := s }

/-- Kills processes. -/
def killAll (running : List Running) (s : State) : State :=
  running.foldl (fun s one => s.finish one.process (.signal Signal.kill)) s

/-- Runs processes for at most so many rounds. -/
def run (load : String → Task → Program) : Nat → List Running → State → State
  | 0, running, s => killAll running s
  | rounds + 1, running, s =>
    if running.isEmpty then s
    else
      let r := round load running s
      if r.moved then run load rounds r.running r.state
      else match r.wake with
        | some wake => run load rounds r.running { r.state with time := max wake r.state.time }
        | none => killAll r.running r.state

/-- The most rounds. -/
def patience : Nat := Nat.pow 2 40

/-- Runs all processes that wait to be run. -/
def runLaunched (load : String → Task → Program) (s : State) : State :=
  run load patience (s.launched.map fun l => ⟨l.process, load l.program l.task⟩)
    { s with launched := [] }

end PipeShell.Machine.Scheduler
