import Mathlib
import PipeShell.Machine.Host
import PipeShell.Proofs.Remembering

/-!
# A change of directory that fails

What a failed change of directory leaves behind, whatever the system answers. A context of
connection scope asks the system about a path and changes nothing but itself, and that only at the
end. A context of process scope moves the whole process first and then asks where it is. If it is
refused the move, it stays where it is (`Host.StaysOnRefusal`). But if it has moved and cannot be
told where it is, then it strays (`Context.Strays`): the change has failed, and the process is in
another directory all the same. The model machine stays on a refusal
(`Machine.host_staysOnRefusal`), and on it a process strays into a directory that was removed.

Main statement: a failed change leaves the context, the last status, and unless the process strays
also the directory in force and that of the process; `cd` then answers with one line
(`Context.changeDirectory_fails`).
-/

set_option autoImplicit false

namespace PipeShell

variable {σ : Type} {host : Host σ}

/-- A process that is refused a move stays where it is. -/
def Host.StaysOnRefusal (host : Host σ) : Prop :=
  ∀ path system f, (host.changeDirectory path system).1 = .error f →
    host.currentDirectory (host.changeDirectory path system).2 = host.currentDirectory system

namespace Context

/-- The system after the process has been moved to a target. -/
def moved (host : Host σ) (target : Text) (c : Context) (world : World σ) :
    Except Failure Unit × σ :=
  host.changeDirectory (c.resolve host world target) world.system

/-- The process moves, and cannot be told where it is then. -/
structure Strays (host : Host σ) (target : Text) (c : Context) (world : World σ) (f : Failure) :
    Prop where
  scope_eq : c.scope = .process
  moves : (c.moved host target world).1 = .ok ()
  lost : host.currentDirectory (c.moved host target world).2 = .error f

variable {target : Text} {c c' : Context} {world world' : World σ} {f : Failure}

/-- A change in a context of connection scope that fails has done nothing. -/
theorem eq_of_fails_connection (hc : c.scope = .connection)
    (h : c.changeDirectory host target world = (.error f, c', world')) :
    c' = c ∧ world' = world := by
  unfold changeDirectory at h
  rw [hc] at h
  dsimp only at h
  split at h
  · cases h
    exact ⟨rfl, rfl⟩
  · split at h
    · cases h
    · cases h
      exact ⟨rfl, rfl⟩

/-- A change in a context of process scope that fails has left the context, and the system is the
one after the move: the move was refused, or the process strays. -/
theorem eq_of_fails_process (hc : c.scope = .process)
    (h : c.changeDirectory host target world = (.error f, c', world')) :
    c' = c ∧ world' = { world with system := (c.moved host target world).2 } ∧
      ((c.moved host target world).1 = .error f ∨ c.Strays host target world f) := by
  unfold changeDirectory at h
  rw [hc] at h
  dsimp only at h
  split at h
  · -- the move is refused
    rename_i f' system hmove
    have hmoved : c.moved host target world = (.error f', system) := hmove
    cases h
    rw [hmoved]
    exact ⟨rfl, rfl, .inl rfl⟩
  · rename_i system hmove
    have hmoved : c.moved host target world = (.ok (), system) := hmove
    split at h
    · rename_i f' hlost
      cases h
      refine ⟨rfl, by rw [hmoved], .inr ⟨hc, by rw [hmoved], by rw [hmoved]; exact hlost⟩⟩
    · cases h

/-- The last status is a matter of the context and of the status that contexts share. -/
theorem lastStatus_eq_of_shared (c : Context) {world world' : World σ}
    (h : world'.sharedStatus = world.sharedStatus) : c.lastStatus world' = c.lastStatus world := by
  unfold lastStatus
  rw [h]

/-- The directory in force is a matter of the context and of the directory of the process. -/
theorem currentDirectory_eq_of_system (c : Context) {world world' : World σ}
    (h : host.currentDirectory world'.system = host.currentDirectory world.system) :
    c.currentDirectory host world' = c.currentDirectory host world := by
  unfold currentDirectory
  rw [h]

end Context

/-- A `cd` to a target that fails answers with one line, and is carried out if the line is taken. -/
theorem dispatch_failed_cd {offered : BuiltinSet} (hcd : .cd ∈ offered) {target : Text}
    {c c' : Context} {world world' : World σ} {f : Failure}
    (h : c.changeDirectory host target world = (.error f, c', world')) (others : List Text)
    (out : Sink) :
    dispatch host offered [{ name := Builtin.cd.name.toList, args := target :: others }] c world
        out =
      match out.send
        [Utf8.encode ("cd: ".toList ++ target ++ ": ".toList ++ f.message ++ ['\n'])] with
      | (.ok (), out) => (.ok .executed, c', world', out)
      | (.error g, out) => (.error (.output g), c', world', out) := by
  unfold dispatch Pipeline.single?
  dsimp only
  rw [BuiltinSet.find?_name hcd]
  dsimp only
  rw [if_neg (by simp [Command.hasRedirects]), Builtin.act, Builtin.changeDirectory, h]
  dsimp only
  split <;> rename_i hsend <;> rw [hsend]

/-- **A failed change of directory.** The context and the last status are what they were. So are the
directory in force and that of the process, unless the process has moved and cannot be told where it
is; then it stays where it has moved to, and the directory in force is the one last known. A `cd`
answers with one line on the failure and nothing else. -/
theorem Context.changeDirectory_fails (hstays : host.StaysOnRefusal) {offered : BuiltinSet}
    (hcd : .cd ∈ offered) {target : Text} {c c' : Context} {world world' : World σ} {f : Failure}
    (h : c.changeDirectory host target world = (.error f, c', world')) :
    c' = c ∧ c'.lastStatus world' = c.lastStatus world ∧
      (¬ c.Strays host target world f →
        host.currentDirectory world'.system = host.currentDirectory world.system ∧
          c'.currentDirectory host world' = c.currentDirectory host world) ∧
      (c.Strays host target world f →
        world'.system = (c.moved host target world).2 ∧
          c'.currentDirectory host world' = c.directory) ∧
      ∀ (others : List Text) (out : Sink),
        dispatch host offered [{ name := Builtin.cd.name.toList, args := target :: others }] c
            world out =
          match out.send
            [Utf8.encode ("cd: ".toList ++ target ++ ": ".toList ++ f.message ++ ['\n'])] with
          | (.ok (), out) => (.ok .executed, c, world', out)
          | (.error g, out) => (.error (.output g), c, world', out) := by
  have hcommand := dispatch_failed_cd hcd h
  cases hc : c.scope with
  | connection =>
    obtain ⟨rfl, rfl⟩ := eq_of_fails_connection hc h
    refine ⟨rfl, rfl, fun _ => ⟨rfl, rfl⟩, fun hstrays => ?_, hcommand⟩
    rw [hstrays.scope_eq] at hc
    cases hc
  | process =>
    obtain ⟨rfl, rfl, hmove⟩ := eq_of_fails_process hc h
    refine ⟨rfl, lastStatus_eq_of_shared _ rfl, fun hnot => ?_, fun hstrays => ⟨rfl, ?_⟩, hcommand⟩
    · have hrefused := hmove.resolve_right hnot
      have hsame := hstays _ _ _ hrefused
      exact ⟨hsame, currentDirectory_eq_of_system _ hsame⟩
    · unfold currentDirectory
      rw [hc]
      dsimp only
      rw [hstrays.lost]
      rfl

/-! ## The model machine -/

namespace Machine

theorem host_staysOnRefusal : Machine.host.StaysOnRefusal := by
  intro path system f h
  change (State.changeDirectory path system).1 = .error f at h
  change State.currentDirectory (State.changeDirectory path system).2 = _
  unfold State.changeDirectory at h ⊢
  split
  · rename_i hfound
    rw [hfound] at h
    cases h
  · rfl

/-- A machine that works in a directory that was removed, and whose parent was removed too. The one
name below its root is that of the link to its own directory. -/
def forsaken : State where
  files := { nodes := #[
    { file := .directory 0 [("here".toList, 3)], mode := 0o755 },
    { file := .directory 0 [], mode := 0o755 },
    { file := .directory 1 [], mode := 0o755 },
    { file := .ownDirectory, mode := 0o777 }] }
  directory := 2

end Machine

/-- The context of a process that has come there before. -/
def Context.forsaken : Context where
  scope := .process
  directory := "/a/b".toList

/-- The link leads out of a removed directory into its removed parent. The process moves there,
cannot be told where it is, and the change has failed. -/
theorem Context.changeDirectory_fails_forsaken :
    Machine.host.StaysOnRefusal ∧ .cd ∈ BuiltinSet.atTerminal ∧
      ∃ c' world', Context.forsaken.changeDirectory Machine.host "/here/..".toList
          ⟨Machine.forsaken, 0⟩ = (.error (.system Errno.noEntry), c', world') ∧
        c' = Context.forsaken ∧
        Context.forsaken.Strays Machine.host "/here/..".toList ⟨Machine.forsaken, 0⟩
          (.system Errno.noEntry) ∧
        c'.currentDirectory Machine.host world' = "/a/b".toList ∧
        world'.system.directory ≠ Machine.forsaken.directory := by
  have hcd : .cd ∈ BuiltinSet.atTerminal := by decide
  have hmoves : (Context.forsaken.moved Machine.host "/here/..".toList ⟨Machine.forsaken, 0⟩).1 =
      .ok () := by cbv
  have hstrays : Context.forsaken.Strays Machine.host "/here/..".toList ⟨Machine.forsaken, 0⟩
      (.system Errno.noEntry) := ⟨rfl, hmoves, by cbv⟩
  obtain ⟨result, c', world', hresult⟩ : ∃ result c' world', Context.forsaken.changeDirectory
      Machine.host "/here/..".toList ⟨Machine.forsaken, 0⟩ = (result, c', world') := ⟨_, _, _, rfl⟩
  have hfails : (Context.forsaken.changeDirectory Machine.host "/here/..".toList
      ⟨Machine.forsaken, 0⟩).1 = .error (.system Errno.noEntry) := by cbv
  rw [hresult] at hfails
  dsimp only at hfails
  subst hfails
  obtain ⟨hc, -, -, hlost, -⟩ := changeDirectory_fails Machine.host_staysOnRefusal hcd hresult
  obtain ⟨hsystem, hdirectory⟩ := hlost hstrays
  have hplace : (Context.forsaken.moved Machine.host "/here/..".toList
      ⟨Machine.forsaken, 0⟩).2.directory = 1 := by cbv
  refine ⟨Machine.host_staysOnRefusal, hcd, c', world', hresult, hc, hstrays, hdirectory, ?_⟩
  rw [hsystem, hplace]
  decide

end PipeShell
