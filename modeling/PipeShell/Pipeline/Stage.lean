import PipeShell.System.Context

/-!
# Setting up a stage

A stage reads from its file if it names one, else from the pipe before it, else from the terminal;
it writes likewise. Its input is opened first, then its output, then its errors are tied to the
terminal, then its program is started; the first of these that fails is the stage's fault. A pipe
end that a file stands in for is given up as soon as the file was asked for. Whatever came of it,
the shell afterwards holds neither the stage's files nor the pipe ends on its sides.
-/

set_option autoImplicit false

namespace PipeShell

/-- Why a stage was not started. -/
inductive StageFault where
  /-- A file could not be opened. -/
  | redirect (path : Text) (failure : Failure)
  /-- The program could not be started. -/
  | start (program : Text) (failure : Failure)
  /-- An end of the terminal could not be had. -/
  | streams (failure : Failure)
  deriving DecidableEq, Repr

namespace StageFault

/-- The wording of a program's failure to start. -/
def startMessage (f : Failure) : Text :=
  match f.code? with
  | none => f.message
  | some code =>
    if code = Errno.noEntry then "command not found".toList
    else if code = Errno.accessDenied then "permission denied".toList
    else Errno.startText code

/-- The wording of a fault. -/
def message : StageFault → Text
  | redirect path f => "rdsh: ".toList ++ path ++ ": ".toList ++ f.message
  | start program f => "rdsh: ".toList ++ program ++ ": ".toList ++ startMessage f
  | streams f => "rdsh: cannot bind standard streams: ".toList ++ f.message

/-- The status of the stage: the system's code if its program could not be started for one. -/
def status : StageFault → Status
  | start _ f => f.code?.getD 1
  | _ => 1

end StageFault

/-- The pipe ends on the two sides of a stage, where it has pipes. -/
structure StageEnds where
  /-- The end that reads from the stage before. -/
  upstream : Option Handle
  /-- The end that writes to the stage behind. -/
  downstream : Option Handle
  deriving DecidableEq, Repr

namespace Command

variable {σ : Type} (host : Host σ)

/-- Gives up a pipe end, where there is one. -/
def closeEnd (h : Option Handle) (system : σ) : σ :=
  match h with
  | some h => host.close h system
  | none => system

/-- Opens what a stage reads from. If that is a file, the pipe end is given up. -/
def openInlet (directory : Text) (command : Command) (upstream : Option Handle) (system : σ) :
    Except StageFault Inlet × σ :=
  match command.input, upstream with
  | some path, _ =>
    match host.openInput (Path.join directory path) system with
    | (.error f, system) => (.error (.redirect path f), closeEnd host upstream system)
    | (.ok h, system) => (.ok (.file h), closeEnd host upstream system)
  | none, some h => (.ok (.pipe h), system)
  | none, none =>
    match host.attach .input system with
    | (.error f, system) => (.error (.streams f), system)
    | (.ok (), system) => (.ok .terminal, system)

/-- Opens what a stage writes to. If that is a file, the pipe end is given up. -/
def openOutlet (directory : Text) (command : Command) (downstream : Option Handle) (system : σ) :
    Except StageFault Outlet × σ :=
  match command.output, downstream with
  | some file, _ =>
    match host.openOutput (Path.join directory file.path) file.mode system with
    | (.error f, system) => (.error (.redirect file.path f), closeEnd host downstream system)
    | (.ok h, system) => (.ok (.file h), closeEnd host downstream system)
  | none, some h => (.ok (.pipe h), system)
  | none, none =>
    match host.attach .output system with
    | (.error f, system) => (.error (.streams f), system)
    | (.ok (), system) => (.ok .terminal, system)

/-- Gives up what a stage reads from. -/
def closeInlet (input : Inlet) (system : σ) : σ :=
  match input with
  | .file h | .pipe h => host.close h system
  | .terminal => system

/-- Gives up what a stage writes to. -/
def closeOutlet (output : Outlet) (system : σ) : σ :=
  match output with
  | .file h | .pipe h => host.close h system
  | .terminal => system

/-- Ties a stage's errors to the terminal and starts its program. Then its two sides are given up,
the last that was opened first if the program was not even asked for. -/
def launch (directory : Text) (command : Command) (input : Inlet) (output : Outlet) (system : σ) :
    Except StageFault Process × σ :=
  match host.attach .error system with
  | (.error f, system) =>
    (.error (.streams f), closeInlet host input (closeOutlet host output system))
  | (.ok (), system) =>
    let plan := { program := command.name, args := command.args, directory, input, output }
    match host.start plan system with
    | (.error f, system) =>
      (.error (.start command.name f), closeOutlet host output (closeInlet host input system))
    | (.ok p, system) => (.ok p, closeOutlet host output (closeInlet host input system))

/-- Sets up a stage: opens its two sides and starts its program. Files opened for it and the pipe
ends on its sides are given up. -/
def setUp (directory : Text) (command : Command) (ends : StageEnds) (system : σ) :
    Except StageFault Process × σ :=
  match openInlet host directory command ends.upstream system with
  | (.error e, system) => (.error e, closeEnd host ends.downstream system)
  | (.ok input, system) =>
    match openOutlet host directory command ends.downstream system with
    | (.error e, system) => (.error e, closeInlet host input system)
    | (.ok output, system) => launch host directory command input output system

end Command

end PipeShell
