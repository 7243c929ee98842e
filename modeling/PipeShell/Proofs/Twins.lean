import PipeShell.Pipeline.Stage
import PipeShell.Proofs.Rules

/-!
# Systems side by side

Two systems that follow the same rules and have equal files cannot be told apart by what they are
asked, whatever numbers they give to handles and processes. They are twins (`Look.Twins`) if the
same programs run in both, in the same order. This file says that each operation, and the set-up of
a stage, has the same result in twins and leaves them twins, so also if it fails.

Each of two systems has a directory of its own. No operation looked at here moves it.
-/

set_option autoImplicit false

namespace PipeShell

/-! ## One operation -/

/-- Two runs both fail with one error, or both succeed. -/
inductive Both {ε α σ : Type} (E : σ → σ → Prop) (V : α → α → σ → σ → Prop) :
    Except ε α × σ → Except ε α × σ → Prop
  | error {e : ε} {s s' : σ} (h : E s s') : Both E V (.error e, s) (.error e, s')
  | ok {a a' : α} {s s' : σ} (h : V a a' s s') : Both E V (.ok a, s) (.ok a', s')

/-- Results that are one up to the values both fail or both succeed. -/
theorem Both.of_map_eq {ε α σ : Type} {E : σ → σ → Prop} {V : α → α → σ → σ → Prop}
    {x x' : Except ε α × σ} {r : Except ε Unit} (h : x.1.map (fun _ => ()) = r)
    (h' : x'.1.map (fun _ => ()) = r) (hE : E x.2 x'.2)
    (hV : ∀ a a', x.1 = .ok a → x'.1 = .ok a' → V a a' x.2 x'.2) : Both E V x x' := by
  obtain ⟨e | a, s⟩ := x
  · obtain ⟨e' | a', s'⟩ := x'
    · have hee : e = e' := Except.error.inj (h.trans h'.symm)
      rw [hee]
      exact .error hE
    · cases h.trans h'.symm
  · obtain ⟨e' | a', s'⟩ := x'
    · cases h.trans h'.symm
    · exact .ok (hV a a' rfl rfl)

/-- A program that runs in both of two systems, with its number in each. -/
structure Runner where
  left : Process
  right : Process
  task : Task

namespace Look

variable {σ φ : Type} {host : Host σ} {rules : Rules φ} {look : Look σ φ}
  {d d' : Except Failure Text} {q : List Runner} {s s' t t' : σ}

/-- Two systems with equal files in which the same programs run. Each has its own directory, which
stays the same. -/
structure Twins (host : Host σ) (look : Look σ φ) (d d' : Except Failure Text) (q : List Runner)
    (s s' : σ) : Prop where
  files_eq : look.files s = look.files s'
  running_left : look.running s = q.map fun r => (r.left, r.task)
  running_right : look.running s' = q.map fun r => (r.right, r.task)
  directory_left : host.currentDirectory s = d
  directory_right : host.currentDirectory s' = d'

theorem Keeps.refl (s : σ) : look.Keeps host s s := ⟨rfl, rfl, rfl⟩

theorem Keeps.trans {s t u : σ} (h : look.Keeps host s t) (h' : look.Keeps host t u) :
    look.Keeps host s u where
  files_eq := h'.files_eq.trans h.files_eq
  running_eq := h'.running_eq.trans h.running_eq
  directory_eq := h'.directory_eq.trans h.directory_eq

/-- What one operation does in both systems leaves them twins. -/
theorem Twins.after (h : look.Twins host d d' q s s') {files files' : φ} {r : List Runner}
    {running running' : List (Process × Task)} (hl : look.After host s t files running)
    (hr : look.After host s' t' files' running') (hfiles : files = files')
    (hrunning : running = r.map fun r => (r.left, r.task))
    (hrunning' : running' = r.map fun r => (r.right, r.task)) : look.Twins host d d' r t t' where
  files_eq := by rw [hl.files_eq, hr.files_eq, hfiles]
  running_left := by rw [hl.running_eq, hrunning]
  running_right := by rw [hr.running_eq, hrunning']
  directory_left := by rw [hl.directory_eq, h.directory_left]
  directory_right := by rw [hr.directory_eq, h.directory_right]

theorem Twins.keeps (h : look.Twins host d d' q s s') (hl : look.Keeps host s t)
    (hr : look.Keeps host s' t') : look.Twins host d d' q t t' :=
  h.after hl hr h.files_eq h.running_left h.running_right

variable (ho : host.Obeys rules look) (h : look.Twins host d d' q s s')
include ho h

theorem Twins.openInput (p : Text) :
    Both (look.Twins host d d' q) (fun _ _ => look.Twins host d d' q)
      (host.openInput p s) (host.openInput p s') := by
  have hk := h.keeps (ho.openInput_keeps p s) (ho.openInput_keeps p s')
  refine .of_map_eq (ho.openInput_eq p s) ?_ hk fun _ _ _ _ => hk
  rw [ho.openInput_eq, h.files_eq]

theorem Twins.openOutput (p : Text) (mode : WriteMode) :
    Both (look.Twins host d d' q)
      (fun a a' t t' => look.Twins host d d' q t t' ∧ look.opened t a = look.opened t' a')
      (host.openOutput p mode s) (host.openOutput p mode s') := by
  have hk := h.after (ho.openOutput_after p mode s) (ho.openOutput_after p mode s')
    (by rw [h.files_eq]) h.running_left h.running_right
  refine .of_map_eq (ho.openOutput_eq p mode s) ?_ hk fun a a' ha ha' => ⟨hk, ?_⟩
  · rw [ho.openOutput_eq, h.files_eq]
  · rw [ho.openOutput_opened p mode s a ha, ho.openOutput_opened p mode s' a' ha']

theorem Twins.makePipe :
    Both (look.Twins host d d' q) (fun _ _ => look.Twins host d d' q)
      (host.makePipe s) (host.makePipe s') := by
  have hk := h.keeps (ho.makePipe_keeps s) (ho.makePipe_keeps s')
  refine .of_map_eq (ho.makePipe_eq s) ?_ hk fun _ _ _ _ => hk
  rw [ho.makePipe_eq, h.files_eq]

/-- An end of the terminal is to be had in both systems or in neither, and open files stay what they
are. -/
theorem Twins.attach (e : TerminalEnd) :
    Both (fun t t' => look.Twins host d d' q t t')
      (fun _ _ t t' => look.Twins host d d' q t t' ∧ look.opened t = look.opened s ∧
        look.opened t' = look.opened s')
      (host.attach e s) (host.attach e s') := by
  have hk := h.keeps (ho.attach_keeps e s) (ho.attach_keeps e s')
  refine .of_map_eq rfl ?_ hk fun _ _ _ _ => ⟨hk, ho.attach_opened e s, ho.attach_opened e s'⟩
  rw [ho.attach_eq, ho.attach_eq, h.files_eq]

/-- A program is started in both systems or in neither, and then runs behind the others. -/
theorem Twins.start {plan plan' : Launch} (hplan : look.task plan s = look.task plan' s') :
    Both (look.Twins host d d' q)
      (fun p p' => look.Twins host d d' (q ++ [⟨p, p', look.task plan s⟩]))
      (host.start plan s) (host.start plan' s') := by
  have hl := ho.start_after plan s
  have hr := ho.start_after plan' s'
  have hfiles : (rules.start (look.task plan s) (look.files s)).2 =
      (rules.start (look.task plan' s') (look.files s')).2 := by
    rw [hplan, h.files_eq]
  have hresult : (host.start plan' s').1.map (fun _ => ()) =
      (host.start plan s).1.map (fun _ => ()) := by
    rw [ho.start_eq, ho.start_eq, hplan, h.files_eq]
  cases hstart : host.start plan s with
  | mk x t =>
    cases hstart' : host.start plan' s' with
    | mk x' t' =>
      rw [hstart] at hl hresult
      rw [hstart'] at hr hresult
      cases x with
      | error f =>
        cases x' with
        | ok p' => cases hresult
        | error f' =>
          obtain rfl : f' = f := Except.error.inj hresult
          refine .error (h.after hl hr hfiles ?_ ?_)
          · rw [h.running_left]
            exact List.append_nil _
          · rw [h.running_right]
            exact List.append_nil _
      | ok p =>
        cases x' with
        | error f' => cases hresult
        | ok p' =>
          refine .ok (h.after hl hr hfiles ?_ ?_)
          · rw [h.running_left, List.map_append]
            rfl
          · rw [h.running_right, List.map_append, hplan]
            rfl

end Look

/-! ## Stages -/

namespace Command

open Look (Twins Keeps)

variable {σ φ : Type} {host : Host σ} {rules : Rules φ} {look : Look σ φ}
  {d d' : Except Failure Text} {q : List Runner} {s s' : σ} (command : Command) (directory : Text)
  (ho : host.Obeys rules look)
include ho

theorem closeEnd_keeps (h : Option Handle) (s : σ) : look.Keeps host s (closeEnd host h s) := by
  cases h with
  | some h => exact ho.close_keeps h s
  | none => exact Keeps.refl s

/-- What a handle was opened for stays the same when a pipe end is given up. -/
theorem destination_closeEnd (h : Option Handle) (s : σ) (output : Outlet) :
    look.destination (closeEnd host h s) output = look.destination s output := by
  cases output with
  | file file =>
    cases h with
    | some h => exact congrFun (ho.close_opened h s) file
    | none => rfl
  | _ => rfl

theorem closeInlet_keeps (input : Inlet) (s : σ) : look.Keeps host s (closeInlet host input s) := by
  cases input with
  | file h => exact ho.close_keeps h s
  | pipe h => exact ho.close_keeps h s
  | terminal => exact Keeps.refl s

theorem closeOutlet_keeps (output : Outlet) (s : σ) :
    look.Keeps host s (closeOutlet host output s) := by
  cases output with
  | file h => exact ho.close_keeps h s
  | pipe h => exact ho.close_keeps h s
  | terminal => exact Keeps.refl s

theorem openInlet_twins (h : look.Twins host d d' q s s') {up up' : Option Handle}
    (hup : up.isSome = up'.isSome) :
    Both (look.Twins host d d' q) (fun _ _ => look.Twins host d d' q)
      (openInlet host directory command up s) (openInlet host directory command up' s') := by
  unfold openInlet
  cases command.input with
  | some path =>
    have hopen := h.openInput ho (Path.join directory path)
    dsimp only
    generalize host.openInput _ s = x at hopen ⊢
    generalize host.openInput _ s' = x' at hopen ⊢
    cases hopen with
    | error hk => exact .error (hk.keeps (closeEnd_keeps ho _ _) (closeEnd_keeps ho _ _))
    | ok hk => exact .ok (hk.keeps (closeEnd_keeps ho _ _) (closeEnd_keeps ho _ _))
  | none =>
    cases up with
    | some end₁ =>
      cases up' with
      | none => cases hup
      | some end₂ => exact .ok h
    | none =>
      cases up' with
      | some end₂ => cases hup
      | none =>
        have hattach := h.attach ho .input
        dsimp only
        generalize host.attach .input s = x at hattach ⊢
        generalize host.attach .input s' = x' at hattach ⊢
        cases hattach with
        | error hk => exact .error hk
        | ok hk => exact .ok hk.1

theorem openOutlet_twins (h : look.Twins host d d' q s s') {down down' : Option Handle}
    (hdown : down.isSome = down'.isSome) :
    Both (look.Twins host d d' q)
      (fun o o' t t' => look.Twins host d d' q t t' ∧ look.destination t o = look.destination t' o')
      (openOutlet host directory command down s) (openOutlet host directory command down' s') := by
  unfold openOutlet
  cases command.output with
  | some file =>
    have hopen := h.openOutput ho (Path.join directory file.path) file.mode
    dsimp only
    generalize host.openOutput _ _ s = x at hopen ⊢
    generalize host.openOutput _ _ s' = x' at hopen ⊢
    cases hopen with
    | error hk => exact .error (hk.keeps (closeEnd_keeps ho _ _) (closeEnd_keeps ho _ _))
    | ok hk =>
      refine .ok ⟨hk.1.keeps (closeEnd_keeps ho _ _) (closeEnd_keeps ho _ _), ?_⟩
      rw [destination_closeEnd ho, destination_closeEnd ho]
      exact hk.2
  | none =>
    cases down with
    | some end₁ =>
      cases down' with
      | none => cases hdown
      | some end₂ => exact .ok ⟨h, rfl⟩
    | none =>
      cases down' with
      | some end₂ => cases hdown
      | none =>
        have hattach := h.attach ho .output
        dsimp only
        generalize host.attach .output s = x at hattach ⊢
        generalize host.attach .output s' = x' at hattach ⊢
        cases hattach with
        | error hk => exact .error hk
        | ok hk => exact .ok ⟨hk.1, rfl⟩

theorem launch_twins (h : look.Twins host d d' q s s') (input input' : Inlet)
    {output output' : Outlet} (hout : look.destination s output = look.destination s' output') :
    Both (look.Twins host d d' q)
      (fun p p' t t' => ∃ task, look.Twins host d d' (q ++ [⟨p, p', task⟩]) t t')
      (launch host directory command input output s)
      (launch host directory command input' output' s') := by
  unfold launch
  have hattach := h.attach ho .error
  generalize host.attach .error s = x at hattach ⊢
  generalize host.attach .error s' = x' at hattach ⊢
  cases hattach with
  | error hk =>
    exact .error (hk.keeps ((closeOutlet_keeps ho _ _).trans (closeInlet_keeps ho _ _))
      ((closeOutlet_keeps ho _ _).trans (closeInlet_keeps ho _ _)))
  | @ok _ _ t t' hk =>
    obtain ⟨hk, hopened, hopened'⟩ := hk
    -- the errors are tied to the terminal after the output was opened
    have hdestination : look.destination t output = look.destination t' output' := by
      have hl : look.destination t output = look.destination s output := by
        cases output with
        | file h => exact congrFun hopened h
        | _ => rfl
      have hr : look.destination t' output' = look.destination s' output' := by
        cases output' with
        | file h => exact congrFun hopened' h
        | _ => rfl
      rw [hl, hr, hout]
    have hplan : look.task ⟨command.name, command.args, directory, input, output⟩ t =
        look.task ⟨command.name, command.args, directory, input', output'⟩ t' := by
      simp only [Look.task, hdestination]
    have hstart := hk.start ho hplan
    dsimp only
    generalize host.start _ t = x at hstart ⊢
    generalize host.start _ t' = x' at hstart ⊢
    -- the two sides are given up again, whatever came of it
    have hclose : ∀ (v : σ) (input : Inlet) (output : Outlet),
        look.Keeps host v (closeOutlet host output (closeInlet host input v)) :=
      fun _ _ _ => (closeInlet_keeps ho _ _).trans (closeOutlet_keeps ho _ _)
    cases hstart with
    | error hk => exact .error (hk.keeps (hclose _ _ _) (hclose _ _ _))
    | ok hk => exact .ok ⟨_, hk.keeps (hclose _ _ _) (hclose _ _ _)⟩

/-- A stage is set up in both systems or in neither. -/
theorem setUp_twins (h : look.Twins host d d' q s s') {ends ends' : StageEnds}
    (hup : ends.upstream.isSome = ends'.upstream.isSome)
    (hdown : ends.downstream.isSome = ends'.downstream.isSome) :
    Both (look.Twins host d d' q)
      (fun p p' t t' => ∃ task, look.Twins host d d' (q ++ [⟨p, p', task⟩]) t t')
      (setUp host directory command ends s) (setUp host directory command ends' s') := by
  unfold setUp
  have hin := openInlet_twins command directory ho h hup
  generalize openInlet host directory command ends.upstream s = x at hin ⊢
  generalize openInlet host directory command ends'.upstream s' = x' at hin ⊢
  cases hin with
  | error hk => exact .error (hk.keeps (closeEnd_keeps ho _ _) (closeEnd_keeps ho _ _))
  | @ok input input' t t' hk =>
    have hout := openOutlet_twins command directory ho hk hdown
    dsimp only
    generalize openOutlet host directory command ends.downstream t = y at hout ⊢
    generalize openOutlet host directory command ends'.downstream t' = y' at hout ⊢
    cases hout with
    | error hk => exact .error (hk.keeps (closeInlet_keeps ho _ _) (closeInlet_keeps ho _ _))
    | ok hk => exact launch_twins command directory ho hk.1 input input' hk.2

end Command

end PipeShell
