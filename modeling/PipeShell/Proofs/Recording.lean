import Mathlib.Data.List.Forall2
import PipeShell.Pipeline.Run

/-!
# What a pipeline asks of the system

A system can be made to record: it does what it did, and writes down each call that opens, closes,
starts or waits, with the answer that was given (`Host.recording`). A run on the recording system
comes to the same as on the system itself (`Pipeline.run_recording`), so the record tells what the
run asked for, in order (`Pipeline.calls`).

The record of a stage's set-up has one of few shapes (`Command.SetUpCalls`): the input is opened,
then the output, then the errors are tied to the terminal, then the program is started, up to the
first that fails; then all that was opened for the stage is closed, and so are its pipe ends. An end
that a file stands in for is closed behind the call for the file. A stage that was not started is
reported, which asks for the error channel once (`SetUpResult.report`); a stage that runs is waited
for (`Attempt.Ends`).

Main statement: the record of a pipeline is that of its pipes, then that of one attempt after the
other at setting up its stages, then that of waiting for those that run (`Pipeline.run_record`).
Which attempts these are does not depend on the terminal.
-/

set_option autoImplicit false

namespace PipeShell

/-- A call of the shell to the system, with the answer. -/
inductive SystemCall where
  | changeDirectory (path : Text) (answer : Except Failure Unit)
  | openInput (path : Text) (answer : Except Failure Handle)
  | openOutput (path : Text) (mode : WriteMode) (answer : Except Failure Handle)
  | makePipe (answer : Except Failure Pipe)
  | close (h : Handle)
  | attach (side : TerminalEnd) (answer : Except Failure Unit)
  | start (plan : Launch) (answer : Except Failure Process)
  | await (process : Process) (answer : Except Failure Exit) (conduct : Conduct)

/-- A state of a system with the calls made so far. -/
structure Recorded (σ : Type) where
  system : σ
  calls : List SystemCall

variable {σ : Type}

/-- An answer of the system, beside the calls made so far. -/
def noted {α : Type} (calls : List SystemCall) (answer : α × σ) : α × Recorded σ :=
  (answer.1, ⟨answer.2, calls⟩)

namespace Host

/-- The system that records what is asked of it. -/
def recording (host : Host σ) : Host (Recorded σ) where
  currentDirectory r := host.currentDirectory r.system
  canonicalize path r := host.canonicalize path r.system
  isDirectory path r := host.isDirectory path r.system
  changeDirectory path r :=
    let answer := host.changeDirectory path r.system
    noted (r.calls ++ [.changeDirectory path answer.1]) answer
  openInput path r :=
    let answer := host.openInput path r.system
    noted (r.calls ++ [.openInput path answer.1]) answer
  openOutput path mode r :=
    let answer := host.openOutput path mode r.system
    noted (r.calls ++ [.openOutput path mode answer.1]) answer
  makePipe r :=
    let answer := host.makePipe r.system
    noted (r.calls ++ [.makePipe answer.1]) answer
  close h r := ⟨host.close h r.system, r.calls ++ [.close h]⟩
  attach side r :=
    let answer := host.attach side r.system
    noted (r.calls ++ [.attach side answer.1]) answer
  start plan r :=
    let answer := host.start plan r.system
    noted (r.calls ++ [.start plan answer.1]) answer
  await process terminal r :=
    let (answer, conduct, system) := host.await process terminal r.system
    (answer, conduct, ⟨system, r.calls ++ [.await process answer conduct]⟩)
  linger terminal r :=
    let (conduct, system) := host.linger terminal r.system
    (conduct, ⟨system, r.calls⟩)

variable (host : Host σ) (system : σ) (log : List SystemCall)

theorem recording_openInput (path : Text) :
    host.recording.openInput path ⟨system, log⟩ =
      noted (log ++ [.openInput path (host.openInput path system).1])
        (host.openInput path system) := rfl

theorem recording_openOutput (path : Text) (mode : WriteMode) :
    host.recording.openOutput path mode ⟨system, log⟩ =
      noted (log ++ [.openOutput path mode (host.openOutput path mode system).1])
        (host.openOutput path mode system) := rfl

theorem recording_makePipe :
    host.recording.makePipe ⟨system, log⟩ =
      noted (log ++ [.makePipe (host.makePipe system).1]) (host.makePipe system) := rfl

theorem recording_close (h : Handle) :
    host.recording.close h ⟨system, log⟩ = ⟨host.close h system, log ++ [.close h]⟩ := rfl

theorem recording_attach (side : TerminalEnd) :
    host.recording.attach side ⟨system, log⟩ =
      noted (log ++ [.attach side (host.attach side system).1]) (host.attach side system) := rfl

theorem recording_start (plan : Launch) :
    host.recording.start plan ⟨system, log⟩ =
      noted (log ++ [.start plan (host.start plan system).1]) (host.start plan system) := rfl

end Host

/-- A shell on the recording system, with the calls made so far. -/
def Shell.recorded (s : Shell σ) (calls : List SystemCall) : Shell (Recorded σ) where
  context := s.context
  world := { system := ⟨s.world.system, calls⟩, sharedStatus := s.world.sharedStatus }
  terminal := s.terminal

theorem Shell.recorded_system (s : Shell σ) (calls : List SystemCall) :
    (s.recorded calls).world.system = ⟨s.world.system, calls⟩ := rfl

theorem Shell.recorded_setStatus (s : Shell σ) (calls : List SystemCall) (status : Status) :
    (s.recorded calls).setStatus status = (s.setStatus status).recorded calls := by
  unfold Shell.setStatus Context.setStatus
  cases hs : s.context.scope <;> simp [Shell.recorded, hs]

/-! ## One stage -/

/-- The handle that a stage reads from, if it is not the terminal. -/
def Inlet.handles : Inlet → List Handle
  | .file h | .pipe h => [h]
  | .terminal => []

/-- The handle that a stage writes to, if it is not the terminal. -/
def Outlet.handles : Outlet → List Handle
  | .file h | .pipe h => [h]
  | .terminal => []

/-- The pipe ends on the sides of a stage. -/
def StageEnds.handles (ends : StageEnds) : List Handle :=
  ends.upstream.toList ++ ends.downstream.toList

/-- The two ends of a pipe. -/
def Pipe.ends (p : Pipe) : List Handle := [p.reader, p.writer]

namespace Command

/-- The calls by which a stage gets its input. -/
inductive InletCalls (directory : Text) (command : Command) (upstream : Option Handle) :
    List SystemCall → Except StageFault Inlet → Prop
  | file {path : Text} {h : Handle} (hi : command.input = some path) :
    InletCalls directory command upstream
      (.openInput (Path.join directory path) (.ok h) :: upstream.toList.map .close) (.ok (.file h))
  | refused {path : Text} {f : Failure} (hi : command.input = some path) :
    InletCalls directory command upstream
      (.openInput (Path.join directory path) (.error f) :: upstream.toList.map .close)
      (.error (.redirect path f))
  | pipe {h : Handle} (hi : command.input = none) (hu : upstream = some h) :
    InletCalls directory command upstream [] (.ok (.pipe h))
  | terminal (hi : command.input = none) (hu : upstream = none) :
    InletCalls directory command upstream [.attach .input (.ok ())] (.ok .terminal)
  | detached {f : Failure} (hi : command.input = none) (hu : upstream = none) :
    InletCalls directory command upstream [.attach .input (.error f)] (.error (.streams f))

/-- The calls by which a stage gets its output. -/
inductive OutletCalls (directory : Text) (command : Command) (downstream : Option Handle) :
    List SystemCall → Except StageFault Outlet → Prop
  | file {file : OutputFile} {h : Handle} (ho : command.output = some file) :
    OutletCalls directory command downstream
      (.openOutput (Path.join directory file.path) file.mode (.ok h) ::
        downstream.toList.map .close) (.ok (.file h))
  | refused {file : OutputFile} {f : Failure} (ho : command.output = some file) :
    OutletCalls directory command downstream
      (.openOutput (Path.join directory file.path) file.mode (.error f) ::
        downstream.toList.map .close) (.error (.redirect file.path f))
  | pipe {h : Handle} (ho : command.output = none) (hd : downstream = some h) :
    OutletCalls directory command downstream [] (.ok (.pipe h))
  | terminal (ho : command.output = none) (hd : downstream = none) :
    OutletCalls directory command downstream [.attach .output (.ok ())] (.ok .terminal)
  | detached {f : Failure} (ho : command.output = none) (hd : downstream = none) :
    OutletCalls directory command downstream [.attach .output (.error f)] (.error (.streams f))

/-- What a command is started with. -/
def plan (directory : Text) (command : Command) (input : Inlet) (output : Outlet) : Launch where
  program := command.name
  args := command.args
  directory := directory
  input := input
  output := output

/-- The calls by which a stage is started once it has its two sides, which are closed then. -/
inductive LaunchCalls (directory : Text) (command : Command) (input : Inlet) (output : Outlet) :
    List SystemCall → Except StageFault Process → Prop
  | detached {f : Failure} : LaunchCalls directory command input output
      (.attach .error (.error f) :: (output.handles ++ input.handles).map .close)
      (.error (.streams f))
  | refused {f : Failure} : LaunchCalls directory command input output
      (.attach .error (.ok ()) :: .start (command.plan directory input output) (.error f) ::
        (input.handles ++ output.handles).map .close)
      (.error (.start command.name f))
  | started {p : Process} : LaunchCalls directory command input output
      (.attach .error (.ok ()) :: .start (command.plan directory input output) (.ok p) ::
        (input.handles ++ output.handles).map .close)
      (.ok p)

/-- The calls by which a stage is set up. -/
inductive SetUpCalls (directory : Text) (command : Command) (ends : StageEnds) :
    List SystemCall → Except StageFault Process → Prop
  | noInlet {front : List SystemCall} {fault : StageFault}
    (hin : InletCalls directory command ends.upstream front (.error fault)) :
    SetUpCalls directory command ends (front ++ ends.downstream.toList.map .close) (.error fault)
  | noOutlet {front middle : List SystemCall} {input : Inlet} {fault : StageFault}
    (hin : InletCalls directory command ends.upstream front (.ok input))
    (hout : OutletCalls directory command ends.downstream middle (.error fault)) :
    SetUpCalls directory command ends (front ++ (middle ++ input.handles.map .close)) (.error fault)
  | launched {front middle last : List SystemCall} {input : Inlet} {output : Outlet}
    {result : Except StageFault Process}
    (hin : InletCalls directory command ends.upstream front (.ok input))
    (hout : OutletCalls directory command ends.downstream middle (.ok output))
    (hlast : LaunchCalls directory command input output last result) :
    SetUpCalls directory command ends (front ++ (middle ++ last)) result

variable (host : Host σ) (directory : Text) (command : Command) (system : σ)

theorem closeEnd_record (h : Option Handle) (log : List SystemCall) :
    closeEnd host.recording h ⟨system, log⟩ =
      ⟨closeEnd host h system, log ++ h.toList.map .close⟩ := by
  cases h with
  | none => simp [closeEnd]
  | some h => rfl

theorem closeInlet_record (input : Inlet) (log : List SystemCall) :
    closeInlet host.recording input ⟨system, log⟩ =
      ⟨closeInlet host input system, log ++ input.handles.map .close⟩ := by
  cases input with
  | file h => rfl
  | terminal => simp [closeInlet, Inlet.handles]
  | pipe h => rfl

theorem closeOutlet_record (output : Outlet) (log : List SystemCall) :
    closeOutlet host.recording output ⟨system, log⟩ =
      ⟨closeOutlet host output system, log ++ output.handles.map .close⟩ := by
  cases output with
  | file h => rfl
  | terminal => simp [closeOutlet, Outlet.handles]
  | pipe h => rfl

theorem openInlet_record (upstream : Option Handle) :
    ∃ made, InletCalls directory command upstream made
        (openInlet host directory command upstream system).1 ∧
      ∀ log, openInlet host.recording directory command upstream ⟨system, log⟩ =
        noted (log ++ made) (openInlet host directory command upstream system) := by
  unfold openInlet
  cases hi : command.input with
  | some path =>
    simp only [Host.recording_openInput]
    rcases host.openInput (Path.join directory path) system with ⟨f | h, system'⟩
    · exact ⟨_, .refused hi, fun log => by simp [noted, closeEnd_record]⟩
    · exact ⟨_, .file hi, fun log => by simp [noted, closeEnd_record]⟩
  | none =>
    cases hu : upstream with
    | some h => exact ⟨[], .pipe hi rfl, fun log => by simp [noted]⟩
    | none =>
      simp only [Host.recording_attach]
      rcases host.attach .input system with ⟨f | ⟨⟩, system'⟩
      · exact ⟨_, .detached hi rfl, fun _ => rfl⟩
      · exact ⟨_, .terminal hi rfl, fun _ => rfl⟩

theorem openOutlet_record (downstream : Option Handle) :
    ∃ made, OutletCalls directory command downstream made
        (openOutlet host directory command downstream system).1 ∧
      ∀ log, openOutlet host.recording directory command downstream ⟨system, log⟩ =
        noted (log ++ made) (openOutlet host directory command downstream system) := by
  unfold openOutlet
  cases ho : command.output with
  | some file =>
    simp only [Host.recording_openOutput]
    rcases host.openOutput (Path.join directory file.path) file.mode system with ⟨f | h, system'⟩
    · exact ⟨_, .refused ho, fun log => by simp [noted, closeEnd_record]⟩
    · exact ⟨_, .file ho, fun log => by simp [noted, closeEnd_record]⟩
  | none =>
    cases hd : downstream with
    | some h => exact ⟨[], .pipe ho rfl, fun log => by simp [noted]⟩
    | none =>
      simp only [Host.recording_attach]
      rcases host.attach .output system with ⟨f | ⟨⟩, system'⟩
      · exact ⟨_, .detached ho rfl, fun _ => rfl⟩
      · exact ⟨_, .terminal ho rfl, fun _ => rfl⟩

theorem launch_eq (input : Inlet) (output : Outlet) :
    launch host directory command input output system =
      match host.attach .error system with
      | (.error f, system) =>
        (.error (.streams f), closeInlet host input (closeOutlet host output system))
      | (.ok (), system) =>
        match host.start (command.plan directory input output) system with
        | (.error f, system) => (.error (.start command.name f),
            closeOutlet host output (closeInlet host input system))
        | (.ok p, system) => (.ok p, closeOutlet host output (closeInlet host input system)) := rfl

theorem launch_record (input : Inlet) (output : Outlet) :
    ∃ made, LaunchCalls directory command input output made
        (launch host directory command input output system).1 ∧
      ∀ log, launch host.recording directory command input output ⟨system, log⟩ =
        noted (log ++ made) (launch host directory command input output system) := by
  simp only [launch_eq, Host.recording_attach]
  rcases host.attach .error system with ⟨f | ⟨⟩, system⟩
  · refine ⟨_, .detached, fun log => ?_⟩
    simp [noted, closeInlet_record, closeOutlet_record]
  · simp only [noted, Host.recording_start]
    rcases host.start (command.plan directory input output) system with ⟨f | p, system⟩
    · refine ⟨_, .refused, fun log => ?_⟩
      simp [closeInlet_record, closeOutlet_record]
    · refine ⟨_, .started, fun log => ?_⟩
      simp [closeInlet_record, closeOutlet_record]

/-- **What a stage's set-up asks for.** -/
theorem setUp_record (ends : StageEnds) :
    ∃ made, SetUpCalls directory command ends made (setUp host directory command ends system).1 ∧
      ∀ log, setUp host.recording directory command ends ⟨system, log⟩ =
        noted (log ++ made) (setUp host directory command ends system) := by
  obtain ⟨front, hin, hfront⟩ := openInlet_record host directory command system ends.upstream
  simp only [setUp, hfront]
  generalize openInlet host directory command ends.upstream system = opened at hin ⊢
  rcases opened with ⟨fault | input, system⟩
  · refine ⟨_, .noInlet hin, fun log => ?_⟩
    simp only [noted, closeEnd_record, List.append_assoc]
  · obtain ⟨middle, hout, hmiddle⟩ :=
      openOutlet_record host directory command system ends.downstream
    simp only [noted, hmiddle]
    generalize openOutlet host directory command ends.downstream system = opened at hout ⊢
    rcases opened with ⟨fault | output, system⟩
    · refine ⟨_, .noOutlet hin hout, fun log => ?_⟩
      simp only [closeInlet_record, List.append_assoc]
    · obtain ⟨last, hlast, hlog⟩ := launch_record host directory command system input output
      refine ⟨_, .launched hin hout hlast, fun log => ?_⟩
      simp only [hlog, noted, List.append_assoc]

end Command

/-! ## Attempts at stages -/

/-- What came of the set-up of a stage. -/
inductive SetUpResult where
  | running (process : Process)
  /-- With the system's answer when the error channel was asked for, to report the fault. -/
  | failed (fault : StageFault) (channel : Except Failure Unit)

namespace SetUpResult

/-- What the set-up gave. -/
def started : SetUpResult → Except StageFault Process
  | running p => .ok p
  | failed fault _ => .error fault

/-- The stage after its set-up. -/
def stage : SetUpResult → Pipeline.Stage
  | running p => .running p
  | failed fault _ => .finished fault.status

/-- The calls by which a fault is reported. -/
def report : SetUpResult → List SystemCall
  | running _ => []
  | failed _ channel => [.attach .error channel]

/-- What is sent to the error channel. -/
def messages : SetUpResult → List Text
  | failed fault (.ok ()) => [fault.message]
  | _ => []

end SetUpResult

/-- An attempt at setting up a stage. -/
structure Attempt where
  command : Command
  ends : StageEnds
  /-- The calls of the set-up. -/
  calls : List SystemCall
  result : SetUpResult

namespace Attempt

/-- The calls are those of a stage's set-up. -/
def Made (directory : Text) (a : Attempt) : Prop :=
  a.command.SetUpCalls directory a.ends a.calls a.result.started

/-- The calls of an attempt, those of a report included. -/
def log (a : Attempt) : List SystemCall := a.calls ++ a.result.report

end Attempt

/-- What came of waiting for a stage. -/
structure Ending where
  calls : List SystemCall
  status : Status

/-- A process that runs is waited for once; other stages are not. -/
inductive Attempt.Ends : Attempt → Ending → Prop
  | failed {a : Attempt} {fault : StageFault} {channel : Except Failure Unit}
    (hr : a.result = .failed fault channel) : Attempt.Ends a ⟨[], fault.status⟩
  | waited {a : Attempt} {p : Process} {answer : Except Failure Exit} {conduct : Conduct}
    (hr : a.result = .running p) :
    Attempt.Ends a ⟨[.await p answer conduct], Pipeline.statusOf answer⟩

namespace Terminal

/-- The terminal after messages on its error channel. -/
def told (t : Terminal) (messages : List Text) : Terminal :=
  messages.foldl (fun t message => t.report .error message) t

/-- The terminal after what programs did that were waited for. -/
def used (t : Terminal) (calls : List SystemCall) : Terminal :=
  calls.foldl (fun t call => match call with
    | .await _ _ conduct => t.undergo conduct
    | _ => t) t

theorem told_append (t : Terminal) (messages more : List Text) :
    t.told (messages ++ more) = (t.told messages).told more := List.foldl_append

theorem used_append (t : Terminal) (calls more : List SystemCall) :
    t.used (calls ++ more) = (t.used calls).used more := List.foldl_append

end Terminal

/-- The shell with its system and its terminal moved on. -/
def Shell.movedOn (s : Shell σ) (system : σ) (terminal : Terminal) : Shell σ :=
  { s.withSystem system with terminal }

namespace Pipeline

variable (host : Host σ)

/-- The pipe ends on the sides of each stage, given the end that feeds the first of them and the
pipes between them. -/
def arrange : Pipeline → Option Handle → List Pipe → List (Command × StageEnds)
  | [], _, _ => []
  | command :: rest, upstream, pipes =>
    (command, ⟨upstream, pipes.head?.map Pipe.writer⟩) ::
      arrange rest (pipes.head?.map Pipe.reader) pipes.tail

theorem arrange_commands (commands : Pipeline) (upstream : Option Handle) (pipes : List Pipe) :
    (arrange commands upstream pipes).map Prod.fst = commands := by
  induction commands generalizing upstream pipes with
  | nil => rfl
  | cons command rest ih => rw [arrange, List.map_cons, ih]

theorem commands_of_arrange {commands : Pipeline} {upstream : Option Handle} {pipes : List Pipe}
    {attempts : List Attempt}
    (h : attempts.map (fun a => (a.command, a.ends)) = arrange commands upstream pipes) :
    attempts.map Attempt.command = commands := by
  rw [← arrange_commands commands upstream pipes, ← h, List.map_map]
  rfl

theorem closePipes_record (pipes : List Pipe) (system : σ) (log : List SystemCall) :
    closePipes host.recording pipes ⟨system, log⟩ =
      ⟨closePipes host pipes system, log ++ (pipes.flatMap Pipe.ends).map .close⟩ := by
  induction pipes generalizing system log with
  | nil => simp [closePipes]
  | cons p rest ih =>
    simp only [closePipes, List.foldl_cons, Host.recording_close] at ih ⊢
    rw [ih, List.flatMap_cons, List.append_assoc, List.append_assoc]
    rfl

/-- Pipes that were all made are in the record one by one. -/
theorem makePipes_record (n : Nat) (made : List Pipe) (system : σ) :
    ∃ calls : List SystemCall,
      (∀ log, makePipes host.recording n made ⟨system, log⟩ =
        noted (log ++ calls) (makePipes host n made system)) ∧
      ∀ {pipes system'}, makePipes host n made system = (.ok pipes, system') →
        ∃ new, pipes = made ++ new ∧ new.length = n ∧
          calls = new.map fun p => .makePipe (.ok p) := by
  induction n generalizing made system with
  | zero =>
    refine ⟨[], fun log => by simp [makePipes, noted], fun h => ?_⟩
    cases h
    exact ⟨[], (List.append_nil _).symm, rfl, rfl⟩
  | succ n ih =>
    simp only [makePipes, Host.recording_makePipe]
    rcases host.makePipe system with ⟨f | p, system₁⟩
    · -- the pipes made so far are given up
      refine ⟨.makePipe (.error f) :: (made.flatMap Pipe.ends).map .close, fun log => ?_,
        fun h => nomatch h⟩
      simp only [noted, closePipes_record, List.append_assoc, List.singleton_append]
    · obtain ⟨calls, hlog, hpipes⟩ := ih (made ++ [p]) system₁
      refine ⟨.makePipe (.ok p) :: calls, fun log => ?_, fun h => ?_⟩
      · simp only [noted] at hlog ⊢
        rw [hlog, List.append_assoc, List.singleton_append]
      · obtain ⟨new, rfl, hlen, rfl⟩ := hpipes h
        exact ⟨p :: new, List.append_assoc _ _ _, congrArg Nat.succ hlen, rfl⟩

/-- A report asks for the error channel once, whatever the answer, and what it does to the system
does not depend on the terminal. -/
theorem reportFault_record (fault : StageFault) (system : σ) :
    ∃ (channel : Except Failure Unit) (system' : σ),
      ∀ (s : Shell σ) (log : List SystemCall), s.world.system = system →
        let result := SetUpResult.failed fault channel
        let after := s.movedOn system' (s.terminal.told result.messages)
        reportFault host fault s = after ∧
          reportFault host.recording fault (s.recorded log) =
            after.recorded (log ++ result.report) := by
  refine ⟨(host.attach .error system).1, (host.attach .error system).2, ?_⟩
  rintro s log rfl
  simp only [reportFault, Shell.recorded, Host.recording_attach, noted]
  rcases host.attach .error s.world.system with ⟨f | ⟨⟩, system'⟩ <;> exact ⟨rfl, rfl⟩

/-- **One stage.** What its set-up and a report of its fault ask for, and what they do to the
system, does not depend on the terminal. -/
theorem setUpStage_record (directory : Text) (command : Command) (ends : StageEnds) (system : σ) :
    ∃ (a : Attempt) (system' : σ), (a.command, a.ends) = (command, ends) ∧ a.Made directory ∧
      ∀ (s : Shell σ) (log : List SystemCall), s.world.system = system →
        let after := s.movedOn system' (s.terminal.told a.result.messages)
        setUpStage host directory command ends s = (a.result.stage, after) ∧
          setUpStage host.recording directory command ends (s.recorded log) =
            (a.result.stage, after.recorded (log ++ a.log)) := by
  obtain ⟨calls, hmade, hlog⟩ := Command.setUp_record host directory command system ends
  rcases hs : command.setUp host directory ends system with ⟨fault | p, system₁⟩ <;>
    rw [hs] at hmade hlog
  · obtain ⟨channel, system', hreport⟩ := reportFault_record host fault system₁
    refine ⟨⟨command, ends, calls, .failed fault channel⟩, system', rfl, hmade, ?_⟩
    rintro s log rfl
    obtain ⟨hplain, hrecorded⟩ := hreport (s.withSystem system₁) (log ++ calls) rfl
    rw [Attempt.log, ← List.append_assoc]
    exact ⟨by rw [setUpStage, hs]; exact congrArg _ hplain,
      by rw [setUpStage, Shell.recorded_system, hlog]; exact congrArg _ hrecorded⟩
  · refine ⟨⟨command, ends, calls, .running p⟩, system₁, rfl, hmade, ?_⟩
    rintro s log rfl
    rw [Attempt.log, ← List.append_assoc, SetUpResult.report, List.append_nil]
    exact ⟨by rw [setUpStage, hs]; rfl, by rw [setUpStage, Shell.recorded_system, hlog]; rfl⟩

/-- **All stages.** There is one attempt for each stage, in order, whatever came of those before;
and these attempts do not depend on the terminal. -/
theorem setUpStages_record (directory : Text) (commands : Pipeline) (upstream : Option Handle)
    (pipes : List Pipe) (system : σ) :
    ∃ (attempts : List Attempt) (system' : σ),
      attempts.map (fun a => (a.command, a.ends)) = arrange commands upstream pipes ∧
      (∀ a ∈ attempts, a.Made directory) ∧
      ∀ (s : Shell σ) (log : List SystemCall), s.world.system = system →
        let after := s.movedOn system'
          (s.terminal.told (attempts.flatMap fun a => a.result.messages))
        setUpStages host directory commands upstream pipes s =
            (attempts.map fun a => a.result.stage, after) ∧
          setUpStages host.recording directory commands upstream pipes (s.recorded log) =
            (attempts.map fun a => a.result.stage,
              after.recorded (log ++ attempts.flatMap Attempt.log)) := by
  -- the attempts are chosen for a state of the system, before any terminal is known; the state
  -- after the first stage is the one that the others start from
  induction commands generalizing upstream pipes system with
  | nil =>
    refine ⟨[], system, rfl, fun a ha => absurd ha List.not_mem_nil, ?_⟩
    rintro s log rfl
    rw [List.flatMap_nil, List.flatMap_nil, List.append_nil]
    exact ⟨rfl, rfl⟩
  | cons command rest ih =>
    obtain ⟨a, system₁, hends, hmade, hstage⟩ := setUpStage_record host directory command
      ⟨upstream, pipes.head?.map Pipe.writer⟩ system
    obtain ⟨attempts, system', hends', hmade', hstages⟩ :=
      ih (pipes.head?.map Pipe.reader) pipes.tail system₁
    refine ⟨a :: attempts, system', by rw [List.map_cons, hends, hends', arrange],
      List.forall_mem_cons.2 ⟨hmade, hmade'⟩, ?_⟩
    intro s log hs
    obtain ⟨hplain, hrecorded⟩ := hstage s log hs
    obtain ⟨hplain', hrecorded'⟩ := hstages
      (s.movedOn system₁ (s.terminal.told a.result.messages)) (log ++ a.log) rfl
    simp only [setUpStages, hplain, hrecorded, hplain', hrecorded', List.map_cons,
      List.flatMap_cons, Terminal.told_append, List.append_assoc]
    exact ⟨rfl, rfl⟩

theorem awaitStage_record (a : Attempt) (s : Shell σ) (log : List SystemCall) :
    ∃ (e : Ending) (system' : σ), a.Ends e ∧
      let after := s.movedOn system' (s.terminal.used e.calls)
      awaitStage host a.result.stage s = (e.status, after) ∧
        awaitStage host.recording a.result.stage (s.recorded log) =
          (e.status, after.recorded (log ++ e.calls)) := by
  cases hr : a.result with
  | running p =>
    refine ⟨⟨[.await p (host.await p s.terminal s.world.system).1
      (host.await p s.terminal s.world.system).2.1], _⟩,
      (host.await p s.terminal s.world.system).2.2, .waited hr, rfl, rfl⟩
  | failed fault channel =>
    refine ⟨⟨[], fault.status⟩, s.world.system, .failed hr, rfl, ?_⟩
    rw [List.append_nil]
    rfl

theorem awaitStages_record (attempts : List Attempt) (s : Shell σ) (log : List SystemCall) :
    ∃ (endings : List Ending) (system' : σ), List.Forall₂ Attempt.Ends attempts endings ∧
      let after := s.movedOn system' (s.terminal.used (endings.flatMap Ending.calls))
      awaitStages host (attempts.map fun a => a.result.stage) s =
          (endings.map Ending.status, after) ∧
        awaitStages host.recording (attempts.map fun a => a.result.stage) (s.recorded log) =
          (endings.map Ending.status, after.recorded (log ++ endings.flatMap Ending.calls)) := by
  induction attempts generalizing s log with
  | nil =>
    refine ⟨[], s.world.system, .nil, rfl, ?_⟩
    rw [List.flatMap_nil, List.append_nil]
    rfl
  | cons a rest ih =>
    obtain ⟨e, system₁, he, hplain, hrecorded⟩ := awaitStage_record host a s log
    obtain ⟨endings, system', hendings, hplain', hrecorded'⟩ :=
      ih (s.movedOn system₁ (s.terminal.used e.calls)) (log ++ e.calls)
    refine ⟨e :: endings, system', .cons he hendings, ?_⟩
    simp only [awaitStages, List.map_cons, hplain, hrecorded, hplain', hrecorded',
      List.flatMap_cons, Terminal.used_append, List.append_assoc]
    exact ⟨rfl, rfl⟩

/-- A run whose pipes could be made, from its two passes over the stages. -/
theorem run_of_passes {pipeline : Pipeline} {pipes : List Pipe} {system : σ}
    {s s₁ s₂ : Shell σ} {stages : List Stage} {statuses : List Status} (hne : pipeline ≠ [])
    (hpipes : makePipes host (pipeline.length - 1) [] s.world.system = (.ok pipes, system))
    (hstages : setUpStages host ((s.withSystem system).directory host) pipeline none pipes
      (s.withSystem system) = (stages, s₁))
    (hstatuses : awaitStages host stages s₁ = (statuses, s₂)) :
    run host pipeline s =
      (.ok (Outcome.ofStages statuses), s₂.setStatus (Outcome.combine statuses)) := by
  cases pipeline with
  | nil => exact absurd rfl hne
  | cons command rest =>
    rw [List.length_cons, Nat.add_sub_cancel] at hpipes
    simp only [run, hpipes, hstages, hstatuses]
    rfl

/-- After the set-up the shell only waits. -/
theorem awaits_of_ends {attempts : List Attempt} {endings : List Ending}
    (h : List.Forall₂ Attempt.Ends attempts endings) :
    ∀ call ∈ endings.flatMap Ending.calls, ∃ p answer conduct, call = .await p answer conduct := by
  induction h with
  | nil => exact List.forall_mem_nil _
  | cons he _ ih =>
    rw [List.flatMap_cons]
    refine List.forall_mem_append.2 ⟨?_, ih⟩
    cases he with
    | failed hr => exact List.forall_mem_nil _
    | waited hr => exact List.forall_mem_singleton.2 ⟨_, _, _, rfl⟩

/-- What a run of a pipeline asks of the system, in order. -/
def calls (pipeline : Pipeline) (s : Shell σ) : List SystemCall :=
  (run host.recording pipeline (s.recorded [])).2.world.system.calls

/-- **The record of a run.** After the pipes were made there is one attempt for each stage, then
those that run are waited for. The attempts are the same whatever the terminal is. -/
theorem run_record {pipeline : Pipeline} {pipes : List Pipe} {system : σ} (s : Shell σ)
    (hne : pipeline ≠ [])
    (hpipes : makePipes host (pipeline.length - 1) [] s.world.system = (.ok pipes, system)) :
    pipes.length = pipeline.length - 1 ∧ ∃ attempts : List Attempt,
      attempts.map (fun a => (a.command, a.ends)) = arrange pipeline none pipes ∧
      (∀ a ∈ attempts, a.Made ((s.withSystem system).directory host)) ∧
      ∀ terminal, ∃ (endings : List Ending) (system' : σ),
        List.Forall₂ Attempt.Ends attempts endings ∧
        run host pipeline { s with terminal } =
          (.ok (Outcome.ofStages (endings.map Ending.status)),
            (s.movedOn system' ((terminal.told (attempts.flatMap fun a => a.result.messages)).used
              (endings.flatMap Ending.calls))).setStatus
                (Outcome.combine (endings.map Ending.status))) ∧
        run host.recording pipeline (({ s with terminal } : Shell σ).recorded []) =
          ((run host pipeline { s with terminal }).1,
            (run host pipeline { s with terminal }).2.recorded
              (calls host pipeline { s with terminal })) ∧
        calls host pipeline { s with terminal } =
          (pipes.map fun p => .makePipe (.ok p)) ++ attempts.flatMap Attempt.log ++
            endings.flatMap Ending.calls := by
  obtain ⟨made, hmake, hmade⟩ := makePipes_record host (pipeline.length - 1) [] s.world.system
  obtain ⟨new, hnew, hlen, rfl⟩ := hmade hpipes
  obtain rfl : pipes = new := hnew
  rw [hpipes] at hmake
  obtain ⟨attempts, system₁, hends, hmade, hstages⟩ := setUpStages_record host
    ((s.withSystem system).directory host) pipeline none pipes system
  refine ⟨hlen, attempts, hends, hmade, fun terminal => ?_⟩
  obtain ⟨hplain, hrecorded⟩ := hstages (s.movedOn system terminal)
    ([] ++ pipes.map fun p => .makePipe (.ok p)) rfl
  obtain ⟨endings, system', hendings, hplain', hrecorded'⟩ := awaitStages_record host attempts
    (s.movedOn system₁ (terminal.told (attempts.flatMap fun a => a.result.messages)))
    ([] ++ (pipes.map fun p => .makePipe (.ok p)) ++ attempts.flatMap Attempt.log)
  -- both runs go through the same two passes, and the recorded one keeps the record
  have hrun := run_of_passes host.recording (s := ({ s with terminal } : Shell σ).recorded [])
    hne (hmake []) hrecorded hrecorded'
  have hplainRun := run_of_passes host (s := ({ s with terminal } : Shell σ)) hne hpipes hplain
    hplain'
  rw [Shell.recorded_setStatus] at hrun
  refine ⟨endings, system', hendings, hplainRun, ?_, ?_⟩
  · rw [calls, hrun, hplainRun, Shell.recorded_system]
  · rw [calls, hrun, Shell.recorded_system, List.nil_append]

/-- **Recording changes nothing.** A run on the recording system comes to the same, and the record
is added. -/
theorem run_recording (pipeline : Pipeline) (s : Shell σ) :
    run host.recording pipeline (s.recorded []) =
      ((run host pipeline s).1, (run host pipeline s).2.recorded (calls host pipeline s)) := by
  cases pipeline with
  | nil => rfl
  | cons command rest =>
    rcases hpipes : makePipes host rest.length [] s.world.system with ⟨f | pipes, system⟩
    · obtain ⟨made, hmake, -⟩ := makePipes_record host rest.length [] s.world.system
      rw [hpipes] at hmake
      simp only [calls, run, hpipes, Shell.recorded_system, hmake, noted]
      rfl
    · obtain ⟨-, attempts, -, -, hruns⟩ :=
        run_record host s (List.cons_ne_nil command rest) hpipes
      obtain ⟨endings, system', -, -, hrecorded, -⟩ := hruns s.terminal
      exact hrecorded

end Pipeline

end PipeShell
