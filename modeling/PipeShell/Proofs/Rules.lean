import PipeShell.System.Context

/-!
# Programs that depend on files alone

What a line comes to depends on the system, and a system may answer differently each time. Here a
system is described that does not: it follows rules (`Host.Obeys`). Whether an operation succeeds,
and what a program does, is told by its arguments, its directory and the files. Programs leave the
input of the terminal alone. The numbers of handles and of processes may be any; where a system
keeps its files, its open files and its processes is seen only through a look at its state (`Look`).

Any rules can be followed (`Rules.host_obeys`).
-/

set_option autoImplicit false

namespace PipeShell

/-- Where the output of a program goes. -/
inductive Destination where
  | terminal
  | pipe
  | file (path : Text) (mode : WriteMode)
  deriving DecidableEq

/-- All that a program that was started depends on, the files apart. -/
structure Task where
  program : Text
  args : List Text
  directory : Text
  output : Destination

/-- What the operations of a system come to and what programs do, told from files `φ` alone. -/
structure Rules (φ : Type) where
  canonicalize : Text → φ → Except Failure Text
  isDirectory : Text → φ → Bool
  openInput : Text → φ → Except Failure Unit
  openOutput : Text → WriteMode → φ → Except Failure Unit × φ
  makePipe : φ → Except Failure Unit
  attach : TerminalEnd → φ → Except Failure Unit
  start : Task → φ → Except Failure Unit × φ
  /-- How a program that was started ends, and what it has written. -/
  finish : Task → φ → Except Failure Exit × List (Channel × Bytes) × φ

/-- What is to be seen of a system's state. -/
structure Look (σ φ : Type) where
  files : σ → φ
  /-- The file that a handle for writing was last opened for, also when it was given up. -/
  opened : σ → Handle → Destination
  /-- The programs that were started and not waited for, in the order in which they were started. -/
  running : σ → List (Process × Task)

namespace Look

variable {σ φ : Type} (host : Host σ) (look : Look σ φ)

/-- Where an outlet leads. -/
def destination (system : σ) : Outlet → Destination
  | .terminal => .terminal
  | .pipe _ => .pipe
  | .file h => look.opened system h

/-- The task of a launch. -/
def task (plan : Launch) (system : σ) : Task where
  program := plan.program
  args := plan.args
  directory := plan.directory
  output := look.destination system plan.output

/-- After an operation there are the given files and programs, and the system has not moved. -/
structure After (s s' : σ) (files : φ) (running : List (Process × Task)) : Prop where
  files_eq : look.files s' = files
  running_eq : look.running s' = running
  directory_eq : host.currentDirectory s' = host.currentDirectory s

/-- An operation has left files, programs and the system's own directory as they were. -/
def Keeps (s s' : σ) : Prop := look.After host s s' (look.files s) (look.running s)

end Look

/-- A system that follows rules: what its operations come to is told by the rules from the files
that are there. -/
structure Host.Obeys {σ φ : Type} (host : Host σ) (rules : Rules φ) (look : Look σ φ) : Prop where
  canonicalize_eq : ∀ p s, host.canonicalize p s = rules.canonicalize p (look.files s)
  isDirectory_eq : ∀ p s, host.isDirectory p s = rules.isDirectory p (look.files s)
  openInput_eq : ∀ p s,
    (host.openInput p s).1.map (fun _ => ()) = rules.openInput p (look.files s)
  openInput_keeps : ∀ p s, look.Keeps host s (host.openInput p s).2
  openOutput_eq : ∀ p mode s,
    (host.openOutput p mode s).1.map (fun _ => ()) = (rules.openOutput p mode (look.files s)).1
  openOutput_after : ∀ p mode s, look.After host s (host.openOutput p mode s).2
    (rules.openOutput p mode (look.files s)).2 (look.running s)
  openOutput_opened : ∀ p mode s h, (host.openOutput p mode s).1 = .ok h →
    look.opened (host.openOutput p mode s).2 h = .file p mode
  makePipe_eq : ∀ s, (host.makePipe s).1.map (fun _ => ()) = rules.makePipe (look.files s)
  makePipe_keeps : ∀ s, look.Keeps host s (host.makePipe s).2
  close_keeps : ∀ h s, look.Keeps host s (host.close h s)
  close_opened : ∀ h s, look.opened (host.close h s) = look.opened s
  attach_eq : ∀ e s, (host.attach e s).1 = rules.attach e (look.files s)
  attach_keeps : ∀ e s, look.Keeps host s (host.attach e s).2
  attach_opened : ∀ e s, look.opened (host.attach e s).2 = look.opened s
  start_eq : ∀ plan s, (host.start plan s).1.map (fun _ => ()) =
    (rules.start (look.task plan s) (look.files s)).1
  /-- A program that was started runs behind those that run already. -/
  start_after : ∀ plan s, look.After host s (host.start plan s).2
    (rules.start (look.task plan s) (look.files s)).2
    (look.running s ++ ((host.start plan s).1.toOption.map fun p => (p, look.task plan s)).toList)
  /-- The program that runs for the longest time, waited for. -/
  await_eq : ∀ p t s task rest, look.running s = (p, task) :: rest →
    (host.await p t s).1 = (rules.finish task (look.files s)).1 ∧
      (host.await p t s).2.1 = { wrote := (rules.finish task (look.files s)).2.1 } ∧
      look.After host s (host.await p t s).2.2 (rules.finish task (look.files s)).2.2 rest

/-! ## A system for any rules -/

namespace Rules

variable {φ : Type} (rules : Rules φ)

/-- The state of a system that does what the rules say and nothing else. Handles and processes have
the numbers that come next; none is used again. -/
structure State (φ : Type) where
  files : φ
  directory : Text
  /-- What is behind each handle that was ever given out. -/
  opened : List Destination := []
  running : List (Process × Task) := []
  /-- How many processes were started. -/
  started : Nat := 0

/-- What is to be seen of such a state. -/
def look : Look (State φ) φ where
  files s := s.files
  opened s h := s.opened[h]?.getD .terminal
  running s := s.running

/-- A system that does what the rules say. -/
def host : Host (State φ) where
  currentDirectory s := .ok s.directory
  changeDirectory p s :=
    match rules.canonicalize p s.files with
    | .error f => (.error f, s)
    | .ok directory =>
      if rules.isDirectory directory s.files then (.ok (), { s with directory })
      else (.error (.system Errno.noEntry), s)
  canonicalize p s := rules.canonicalize p s.files
  isDirectory p s := rules.isDirectory p s.files
  openInput p s :=
    ((rules.openInput p s.files).map fun _ => s.opened.length,
      { s with opened := s.opened ++ [.terminal] })
  openOutput p mode s :=
    let (result, files) := rules.openOutput p mode s.files
    (result.map fun _ => s.opened.length, { s with files, opened := s.opened ++ [.file p mode] })
  makePipe s :=
    ((rules.makePipe s.files).map fun _ => ⟨s.opened.length, s.opened.length + 1⟩,
      { s with opened := s.opened ++ [.pipe, .pipe] })
  close _ s := s
  attach e s := (rules.attach e s.files, s)
  start plan s :=
    let task := look.task plan s
    match rules.start task s.files with
    | (.error f, files) => (.error f, { s with files })
    | (.ok (), files) =>
      (.ok s.started,
        { s with files, running := s.running ++ [(s.started, task)], started := s.started + 1 })
  await _ _ s :=
    match s.running with
    | [] => (.error (.system Errno.noEntry), {}, s)
    | (_, task) :: running =>
      let (result, wrote, files) := rules.finish task s.files
      (result, { wrote }, { s with files, running })

/-- Whatever value a result gets, without it the result is what it was. -/
theorem map_map_unit {α : Type} (x : Except Failure Unit) (a : α) :
    (x.map fun _ => a).map (fun _ => ()) = x := by
  cases x <;> rfl

/-- **Any rules can be followed.** -/
theorem host_obeys : rules.host.Obeys rules look where
  canonicalize_eq _ _ := rfl
  isDirectory_eq _ _ := rfl
  openInput_eq _ _ := map_map_unit _ _
  openInput_keeps _ _ := ⟨rfl, rfl, rfl⟩
  openOutput_eq _ _ _ := map_map_unit _ _
  openOutput_after _ _ _ := ⟨rfl, rfl, rfl⟩
  openOutput_opened p mode s h ho := by
    have hh : h = s.opened.length := by
      change Except.map _ (rules.openOutput p mode s.files).1 = .ok h at ho
      cases hr : (rules.openOutput p mode s.files).1 with
      | error f =>
        rw [hr] at ho
        cases ho
      | ok u =>
        rw [hr] at ho
        exact (Except.ok.inj ho).symm
    rw [hh]
    change ((s.opened ++ [.file p mode])[s.opened.length]?).getD .terminal = .file p mode
    rw [List.getElem?_append_right (Nat.le_refl _), Nat.sub_self]
    rfl
  makePipe_eq _ := map_map_unit _ _
  makePipe_keeps _ := ⟨rfl, rfl, rfl⟩
  close_keeps _ s := ⟨rfl, rfl, rfl⟩
  close_opened _ _ := rfl
  attach_eq _ _ := rfl
  attach_keeps _ s := ⟨rfl, rfl, rfl⟩
  attach_opened _ _ := rfl
  start_eq plan s := by
    unfold host
    dsimp only
    change _ = (rules.start (look.task plan s) s.files).1
    rcases rules.start (look.task plan s) s.files with ⟨f | _, files⟩ <;> rfl
  start_after plan s := by
    unfold host
    dsimp only
    change look.After _ s _ (rules.start (look.task plan s) s.files).2 _
    rcases rules.start (look.task plan s) s.files with ⟨f | _, files⟩
    · exact ⟨rfl, (List.append_nil _).symm, rfl⟩
    · exact ⟨rfl, rfl, rfl⟩
  await_eq p t s task rest hrunning := by
    change s.running = (p, task) :: rest at hrunning
    unfold host
    dsimp only
    rw [hrunning]
    exact ⟨rfl, rfl, rfl, rfl, rfl⟩

/-- Rules for a system on which every path leads to a directory, no file can be opened, and every
program writes the same line and ends with the length of its name. -/
def plain : Rules Unit where
  canonicalize p _ := .ok p
  isDirectory _ _ := true
  openInput _ _ := .error (.system Errno.noEntry)
  openOutput _ _ _ := (.error (.system Errno.noEntry), ())
  makePipe _ := .ok ()
  attach _ _ := .ok ()
  start _ _ := (.ok (), ())
  finish task _ := (.ok (.code task.program.length), [(.output, [104, 105, 10])], ())

/-- The root directory of that system, where nothing runs. -/
def atRoot : World (State Unit) where
  system := { files := (), directory := ['/'] }

end Rules

end PipeShell
