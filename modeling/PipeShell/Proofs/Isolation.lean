import PipeShell.Proofs.Replay
import PipeShell.Proofs.SerialService
import PipeShell.Server.Workers

/-!
# Connections do not see each other

A server of connection scope serves any number of sessions, and each of them takes its turns between
the turns of the others. Each could as well be the only one. Suppose the files are the same before
and after every turn, and the system follows rules. Take all events of one session and leave out the
others (`Workers.own`); a server to which only these happen comes to the same worker, at every point
of the run: the same bytes on the connection, sent and still to be read, the same directory and the
same last status, and the same end (`Workers.run_own`). Meanwhile the process does not move and its
shared status is not written.

The step of one session is looked at first, in two runs side by side (`Session.step_twins`). Then
the run of the whole server is compared with the run in which the session is alone
(`Workers.Alone`): an event of another session changes nothing that the session depends on, and an
event of the session itself comes to the same in both.
-/

set_option autoImplicit false

namespace PipeShell

variable {σ φ : Type} {host : Host σ} {rules : Rules φ} {look : Look σ φ} {w w' : World σ}
  {i : Interpreter}

/-! ## One session, twice -/

namespace Session

/-- Two sessions with the same connection, in equal contexts, on systems that are twins. -/
structure Twins (host : Host σ) (look : Look σ φ) (w w' : World σ) (s s' : Session σ) : Prop where
  shell : Shell.Twins host look Eq w w' [] s.shell s'.shell
  pending_eq : s.pending = s'.pending

theorem send_twins {s s' : Shell σ} (h : Shell.Twins host look Eq w w' [] s s')
    (act : Sink → Except Failure Unit × Sink) :
    (send act s).1 = (send act s').1 ∧
      Shell.Twins host look Eq w w' [] (send act s).2 (send act s').2 := by
  unfold send
  rw [← h.terminal]
  exact ⟨rfl, h.withTerminal rfl⟩

theorem finish_twins {s s' : Shell σ} (h : Shell.Twins host look Eq w w' [] s s')
    (action : ControlAction) :
    (finish action s).1 = (finish action s').1 ∧
      Shell.Twins host look Eq w w' [] (finish action s).2 (finish action s').2 := by
  obtain ⟨hsent, hshells⟩ := send_twins h (Wire.sendResponse action.farewell.toList)
  unfold finish
  generalize send _ s = x at hsent hshells ⊢
  generalize send _ s' = x' at hsent hshells ⊢
  obtain ⟨result, t⟩ := x
  obtain ⟨result', t'⟩ := x'
  obtain rfl : result = result' := hsent
  cases result with
  | error f => exact ⟨rfl, hshells⟩
  | ok u => exact ⟨rfl, hshells⟩

/-- However a response is closed, it is closed alike. -/
theorem close_twins {s s' : Shell σ} (h : Shell.Twins host look Eq w w' [] s s')
    (result : LineResult) :
    (close result s).1 = (close result s').1 ∧
      Shell.Twins host look Eq w w' [] (close result s).2 (close result s').2 := by
  -- all but the farewells only send
  have hgoOn : ∀ act : Sink → Except Failure Unit × Sink,
      (goOn (send act s)).1 = (goOn (send act s')).1 ∧
        Shell.Twins host look Eq w w' [] (goOn (send act s)).2 (goOn (send act s')).2 := by
    intro act
    obtain ⟨hsent, hshells⟩ := send_twins h act
    exact ⟨congrArg (Except.map _) hsent, hshells⟩
  cases result with
  | rejected r => exact hgoOn _
  | pipeline outcome => exact hgoOn _
  | builtin d =>
    cases d with
    | control action => exact finish_twins h action
    | executed => exact hgoOn _
    | notBuiltin => exact hgoOn _

theorem answerLine_twins (ho : host.Obeys rules look) {s s' : Shell σ}
    (h : Shell.Twins host look Eq w w' [] s s') (line : Text) :
    (answerLine host i line s).1 = (answerLine host i line s').1 ∧
      Shell.Twins host look Eq w w' [] (answerLine host i line s).2
        (answerLine host i line s').2 := by
  obtain ⟨hresult, hshells⟩ :=
    Interpreter.execute_twins ho Terminal.parallel_eq h (i := i) rfl fun _ _ => rfl
  unfold answerLine
  generalize i.execute host line s = x at hresult hshells ⊢
  generalize i.execute host line s' = x' at hresult hshells ⊢
  obtain ⟨result, t⟩ := x
  obtain ⟨result', t'⟩ := x'
  obtain rfl : result = result' := hresult
  cases result with
  | error f => exact ⟨rfl, hshells⟩
  | ok result => exact close_twins hshells result

theorem answer_twins (ho : host.Obeys rules look) {s s' : Shell σ}
    (h : Shell.Twins host look Eq w w' [] s s') (request : Text) :
    (answer host i request s).1 = (answer host i request s').1 ∧
      Shell.Twins host look Eq w w' [] (answer host i request s).2
        (answer host i request s').2 := by
  unfold answer
  dsimp only
  cases ControlAction.ofWord? (Wire.stripNewline request) with
  | some action => exact finish_twins h action
  | none => exact answerLine_twins ho h _

theorem Twins.withInbox {s s' : Session σ} (h : Twins host look w w' s s') (box : Wire.Inbox) :
    Twins host look w w' (s.withInbox box) (s'.withInbox box) where
  shell := by
    apply h.shell.withTerminal
    rw [h.shell.terminal]
  pending_eq := rfl

/-- **One step.** A session takes the same request and answers it alike. -/
theorem step_twins (ho : host.Obeys rules look) {s s' : Session σ}
    (h : Twins host look w w' s s') :
    (s.step host i).1 = (s'.step host i).1 ∧
      Twins host look w w' (s.step host i).2 (s'.step host i).2 := by
  have hinbox : s.inbox = s'.inbox := by
    rw [inbox, inbox, h.pending_eq, h.shell.terminal]
  unfold step
  rw [← hinbox]
  rcases Wire.Inbox.next i.limits.requestLength s.inbox with ⟨(max | fault) | _ | request, box⟩
  · -- too much has arrived: the client is told and that is all
    have hbox := h.withInbox box
    obtain ⟨-, hshells⟩ := send_twins hbox.shell
      (Wire.sendResponse ((Wire.RequestError.tooLarge max).message ++ ['\n']))
    exact ⟨rfl, hshells, rfl⟩
  · exact ⟨rfl, h.withInbox box⟩
  · exact ⟨rfl, h.withInbox box⟩
  · have hbox := h.withInbox box
    obtain ⟨hresult, hshells⟩ := answer_twins (i := i) ho hbox.shell request
    dsimp only
    generalize answer host i request (s.withInbox box).shell = x at hresult hshells ⊢
    generalize answer host i request (s'.withInbox box).shell = x' at hresult hshells ⊢
    obtain ⟨result, t⟩ := x
    obtain ⟨result', t'⟩ := x'
    obtain rfl : result = result' := hresult
    cases result with
    | error f => exact ⟨rfl, hshells, rfl⟩
    | ok ending => exact ⟨rfl, hshells, rfl⟩

/-- **A whole session.** It ends alike, with the same on the connection. -/
theorem run_twins (ho : host.Obeys rules look) {s s' : Session σ}
    (h : Twins host look w w' s s') :
    (s.run host i).1 = (s'.run host i).1 ∧
      Twins host look w w' (s.run host i).2 (s'.run host i).2 := by
  fun_induction Session.run host i s generalizing s' with
  | case1 s ending t hstep =>
    obtain ⟨hending, ht⟩ := step_twins (i := i) ho h
    rw [hstep] at hending ht
    have hover : s'.step host i = (some ending, (s'.step host i).2) := Prod.ext hending.symm rfl
    rw [run_of_over host hover]
    exact ⟨rfl, ht⟩
  | case2 s t hstep ih =>
    obtain ⟨hending, ht⟩ := step_twins (i := i) ho h
    rw [hstep] at hending ht
    have hon : s'.step host i = (none, (s'.step host i).2) := Prod.ext hending.symm rfl
    rw [run_of_on host hon]
    exact ih ht

end Session

/-! ## Between turns -/

/-- No program runs, and nothing that a process has as a whole is other than in the world `w`: it
has not moved, and its shared status is the same. -/
structure World.Still (host : Host σ) (look : Look σ φ) (w v : World σ) : Prop where
  running_eq : look.running v.system = []
  directory_eq : host.currentDirectory v.system = host.currentDirectory w.system
  status_eq : v.sharedStatus = w.sharedStatus

/-- Two shells side by side are two shells in processes that are still. -/
theorem Shell.Twins.still {R : Terminal → Terminal → Prop} {s s' : Shell σ}
    (h : Shell.Twins host look R w w' [] s s') :
    World.Still host look w s.world ∧ World.Still host look w' s'.world :=
  ⟨⟨h.system.running_left, h.system.directory_left, h.status_left⟩,
    ⟨h.system.running_right, h.system.directory_right, h.status_right⟩⟩

/-- A context of connection scope, and the same terminal, in two processes that are still and have
equal files. -/
theorem Shell.twins_of_still {v v' : World σ} (hv : World.Still host look w v)
    (hv' : World.Still host look w' v') (hfiles : look.files v.system = look.files v'.system)
    {c : Context} (hc : c.scope = .connection) (t : Terminal) :
    Shell.Twins host look Eq w w' [] ⟨c, v, t⟩ ⟨c, v', t⟩ where
  system := ⟨hfiles, hv.running_eq, hv'.running_eq, hv.directory_eq, hv'.directory_eq⟩
  status_left := hv.status_eq
  status_right := hv'.status_eq
  context_eq := rfl
  scope_eq := hc
  terminal := rfl

/-- A context starts alike in processes that have not moved. -/
theorem Context.start_eq {v v' : World σ} (hv : World.Still host look w v)
    (hv' : World.Still host look w v') (scope : Scope) :
    Context.start host scope v = Context.start host scope v' := by
  unfold Context.start
  rw [hv.directory_eq, hv'.directory_eq]

/-! ## One session and all others -/

namespace Workers

/-- The events of one session, as they would come to a server that has no other: its connection and
its turns. The number is that of the sessions there are before. -/
def own (k : Nat) : Nat → List Event → List Event
  | _, [] => []
  | n, .connection t :: rest =>
    if n = k then .connection t :: own k (n + 1) rest else own k (n + 1) rest
  | n, .turn j :: rest => if j = k then .turn 0 :: own k n rest else own k n rest

variable {c : ServerConfig} {world : World σ} {k : Nat} {s alone : State σ}

/-- A server with many sessions, and a server that serves the one of them with number `k` alone. -/
structure Alone (host : Host σ) (look : Look σ φ) (world : World σ) (k : Nat) (s alone : State σ) :
    Prop where
  still : World.Still host look world s.world
  still_alone : World.Still host look world alone.world
  files_eq : look.files s.world.system = look.files alone.world.system
  scope_eq : ∀ w ∈ s.workers, w.context.scope = .connection
  workers_eq : alone.workers = s.workers[k]?.toList

/-- A turn of one worker comes to the same in two processes that are still and have equal files. -/
theorem act_twins (ho : host.Obeys rules look) {w : Worker} (hw : w.context.scope = .connection)
    {v v' : World σ} (hv : World.Still host look world v) (hv' : World.Still host look world v')
    (hfiles : look.files v.system = look.files v'.system) :
    (w.act host i v).1 = (w.act host i v').1 ∧ (w.act host i v).1.context.scope = .connection ∧
      World.Still host look world (w.act host i v).2 ∧
      World.Still host look world (w.act host i v').2 ∧
      look.files (w.act host i v).2.system = look.files (w.act host i v').2.system := by
  unfold Worker.act
  cases w.ending with
  | some ending => exact ⟨rfl, hw, hv, hv', hfiles⟩
  | none =>
    have hsession : Session.Twins host look world world (w.session v) (w.session v') :=
      ⟨Shell.twins_of_still hv hv' hfiles hw w.connection, rfl⟩
    obtain ⟨hending, hstep⟩ := Session.step_twins (i := i) ho hsession
    dsimp only
    generalize (w.session v).step host i = x at hending hstep ⊢
    generalize (w.session v').step host i = x' at hending hstep ⊢
    obtain ⟨ending, t⟩ := x
    obtain ⟨ending', t'⟩ := x'
    obtain rfl : ending = ending' := hending
    obtain ⟨hstill, hstill'⟩ := hstep.shell.still
    refine ⟨?_, hstep.shell.scope_eq, hstill, hstill', hstep.shell.system.files_eq⟩
    -- what a worker keeps of its session is what the two sessions have in common
    unfold Worker.ofSession
    rw [hstep.shell.context_eq, hstep.shell.terminal, hstep.pending_eq]

/-- A server that is not stopped does not stop a session that is served alone. -/
theorem Alone.isStopped_eq_false (h : Alone host look world k s alone)
    (hs : s.isStopped = false) : alone.isStopped = false := by
  unfold State.isStopped at hs ⊢
  rw [List.any_eq_false] at hs ⊢
  intro w hw
  rw [h.workers_eq, Option.mem_toList] at hw
  exact hs w (List.mem_of_getElem? hw)

/-- Another client connects. -/
theorem Alone.connection_other (h : Alone host look world k s alone)
    (hscope : c.scope = .connection) (hk : s.workers.length ≠ k) (t : Terminal) :
    Alone host look world k (step host c (.connection t) s) alone where
  still := h.still
  still_alone := h.still_alone
  files_eq := h.files_eq
  scope_eq := by
    intro w hw
    rcases List.mem_append.1 hw with hw | hw
    · exact h.scope_eq w hw
    · rw [List.mem_singleton.1 hw]
      exact hscope
  workers_eq := by
    rw [h.workers_eq]
    unfold step
    dsimp only
    by_cases hlt : k < s.workers.length
    · rw [List.getElem?_append_left hlt]
    · -- there is no such worker, before and after
      rw [List.getElem?_eq_none_iff.2 (Nat.not_lt.1 hlt), List.getElem?_eq_none_iff.2 ?_]
      rw [List.length_append, List.length_singleton]
      omega

/-- The client connects, whose session is looked at. -/
theorem Alone.connection_own (h : Alone host look world k s alone)
    (hscope : c.scope = .connection) (hk : s.workers.length = k) (t : Terminal) :
    Alone host look world k (step host c (.connection t) s)
      (step host c (.connection t) alone) where
  still := h.still
  still_alone := h.still_alone
  files_eq := h.files_eq
  scope_eq := by
    intro w hw
    rcases List.mem_append.1 hw with hw | hw
    · exact h.scope_eq w hw
    · rw [List.mem_singleton.1 hw]
      exact hscope
  workers_eq := by
    have hnone : s.workers[k]? = none :=
      List.getElem?_eq_none_iff.2 (Nat.le_of_eq hk)
    have halone : alone.workers = [] := by
      rw [h.workers_eq, hnone]
      rfl
    have hcontext : Context.start host c.scope s.world = Context.start host c.scope alone.world :=
      Context.start_eq h.still h.still_alone c.scope
    unfold step
    dsimp only
    rw [halone, List.getElem?_append_right (Nat.le_of_eq hk), hk, Nat.sub_self]
    unfold Worker.start Session.start
    rw [hcontext]
    rfl

theorem step_turn_none {j : Nat} (hj : s.workers[j]? = none) : step host c (.turn j) s = s := by
  unfold step
  dsimp only
  rw [hj]

theorem step_turn_some {j : Nat} {w : Worker} (hj : s.workers[j]? = some w) :
    step host c (.turn j) s =
      { world := (w.act host c.interpreter s.world).2
        workers := s.workers.set j (w.act host c.interpreter s.world).1 } := by
  unfold step
  dsimp only
  rw [hj]

/-- A worker's turn leaves scopes and the process as they are. -/
theorem Alone.turn_still (ho : host.Obeys rules look) (h : Alone host look world k s alone)
    (j : Nat) : World.Still host look world (step host c (.turn j) s).world ∧
      ∀ w ∈ (step host c (.turn j) s).workers, w.context.scope = .connection := by
  cases hj : s.workers[j]? with
  | none =>
    rw [step_turn_none hj]
    exact ⟨h.still, h.scope_eq⟩
  | some w =>
    have hw : w.context.scope = .connection := h.scope_eq w (List.mem_of_getElem? hj)
    obtain ⟨-, hscope, hstill, -⟩ := act_twins (i := c.interpreter) ho hw h.still h.still rfl
    rw [step_turn_some hj]
    refine ⟨hstill, fun w' hw' => ?_⟩
    rcases List.mem_or_eq_of_mem_set hw' with hw' | rfl
    · exact h.scope_eq w' hw'
    · exact hscope

/-- Another worker has its turn, which leaves the files as they were. -/
theorem Alone.turn_other (ho : host.Obeys rules look) (h : Alone host look world k s alone)
    {j : Nat} (hj : j ≠ k) (hfiles : look.files (step host c (.turn j) s).world.system =
      look.files s.world.system) : Alone host look world k (step host c (.turn j) s) alone where
  still := (h.turn_still ho j).1
  still_alone := h.still_alone
  files_eq := hfiles.trans h.files_eq
  scope_eq := (h.turn_still ho j).2
  workers_eq := by
    rw [h.workers_eq]
    cases hw : s.workers[j]? with
    | none => rw [step_turn_none hw]
    | some w =>
      rw [step_turn_some hw]
      dsimp only
      rw [List.getElem?_set_ne hj]

/-- The worker has its turn, whose session is looked at. -/
theorem Alone.turn_own (ho : host.Obeys rules look) (h : Alone host look world k s alone) :
    Alone host look world k (step host c (.turn k) s) (step host c (.turn 0) alone) := by
  have hworkers := h.workers_eq
  cases hk : s.workers[k]? with
  | none =>
    -- the client has not connected yet, here and there
    rw [hk] at hworkers
    have hnone : alone.workers[0]? = none := by
      rw [hworkers]
      rfl
    rw [step_turn_none hk, step_turn_none hnone]
    exact h
  | some w =>
    rw [hk] at hworkers
    have hsome : alone.workers[0]? = some w := by
      rw [hworkers]
      rfl
    have hw : w.context.scope = .connection := h.scope_eq w (List.mem_of_getElem? hk)
    have hlt : k < s.workers.length := (List.getElem?_eq_some_iff.1 hk).1
    obtain ⟨hstill, hscope⟩ := h.turn_still (c := c) ho k
    obtain ⟨hworker, -, -, hstill', hfiles⟩ :=
      act_twins (i := c.interpreter) ho hw h.still h.still_alone h.files_eq
    rw [step_turn_some hk] at hstill hscope ⊢
    rw [step_turn_some hsome]
    refine ⟨hstill, hstill', hfiles, hscope, ?_⟩
    dsimp only
    rw [List.getElem?_set_self hlt, ← hworker, hworkers]
    rfl

/-! ## Runs -/

theorem run_cons (event : Event) (events : List Event) (s : State σ) :
    run host c (event :: events) s =
      run host c events (if s.isStopped then s else step host c event s) := rfl

theorem run_of_isStopped (hs : s.isStopped = true) (events : List Event) :
    run host c events s = s := by
  induction events with
  | nil => rfl
  | cons event events ih => rw [run_cons, if_pos hs, ih]

/-- A server deals with events up to the one by which it is stopped. -/
theorem exists_dealt (host : Host σ) (c : ServerConfig) (events : List Event) (s : State σ) :
    ∃ done, done <+: events ∧ (done = events ∨ (run host c done s).isStopped = true) ∧
      run host c events s = run host c done s ∧
      ∀ front, front <+: done → front ≠ done → (run host c front s).isStopped = false := by
  induction events generalizing s with
  | nil =>
    refine ⟨[], List.prefix_refl _, Or.inl rfl, rfl, fun front hfront hne => ?_⟩
    exact absurd (List.prefix_nil.1 hfront) hne
  | cons event events ih =>
    cases hs : s.isStopped with
    | true =>
      refine ⟨[], List.nil_prefix, Or.inr hs, ?_, fun front hfront hne => ?_⟩
      · rw [run_of_isStopped hs, run_of_isStopped hs]
      · exact absurd (List.prefix_nil.1 hfront) hne
    | false =>
      obtain ⟨done, hdone, hend, hrun, hfronts⟩ := ih (step host c event s)
      have hcons : ∀ rest, run host c (event :: rest) s =
          run host c rest (step host c event s) := by
        intro rest
        rw [run_cons, hs]
        rfl
      refine ⟨event :: done, (List.prefix_cons_inj event).2 hdone, ?_, ?_, ?_⟩
      · rcases hend with rfl | hend
        · exact Or.inl rfl
        · rw [hcons]
          exact Or.inr hend
      · rw [hcons, hcons, hrun]
      · intro front hfront hne
        cases front with
        | nil => exact hs
        | cons event' front =>
          obtain ⟨rfl, hrest⟩ := List.cons_prefix_cons.1 hfront
          rw [hcons]
          apply hfronts front hrest
          intro heq
          exact hne (congrArg _ heq)

/-- As long as a server is not stopped, each of its sessions is as if it was served alone. -/
theorem run_alone (ho : host.Obeys rules look) (hscope : c.scope = .connection)
    (events : List Event) (h : Alone host look world k s alone)
    (hgoes : ∀ front, front <+: events → front ≠ events →
      (run host c front s).isStopped = false)
    (hfiles : ∀ front, front <+: events →
      look.files (run host c front s).world.system = look.files s.world.system) :
    Alone host look world k (run host c events s)
      (run host c (own k s.workers.length events) alone) := by
  induction events generalizing s alone with
  | nil => exact h
  | cons event events ih =>
    have hs : s.isStopped = false := hgoes [] List.nil_prefix nofun
    have halone : alone.isStopped = false := h.isStopped_eq_false hs
    have hcons : ∀ rest, run host c (event :: rest) s =
        run host c rest (step host c event s) := by
      intro rest
      rw [run_cons, hs]
      rfl
    have hcons' : ∀ event rest, run host c (event :: rest) alone =
        run host c rest (step host c event alone) := by
      intro event rest
      rw [run_cons, halone]
      rfl
    -- the step keeps the files, and what comes behind it is part of the same run
    have hstep : look.files (step host c event s).world.system = look.files s.world.system := by
      have hfirst := hfiles [event] ((List.prefix_cons_inj event).2 List.nil_prefix)
      rw [hcons] at hfirst
      exact hfirst
    have hgoes' : ∀ front, front <+: events → front ≠ events →
        (run host c front (step host c event s)).isStopped = false := by
      intro front hfront hne
      rw [← hcons]
      apply hgoes _ ((List.prefix_cons_inj event).2 hfront)
      intro heq
      exact hne (List.cons.inj heq).2
    have hfiles' : ∀ front, front <+: events →
        look.files (run host c front (step host c event s)).world.system =
          look.files (step host c event s).world.system := by
      intro front hfront
      rw [← hcons, hstep]
      exact hfiles _ ((List.prefix_cons_inj event).2 hfront)
    rw [hcons]
    cases event with
    | connection t =>
      have hlength : (step host c (.connection t) s).workers.length = s.workers.length + 1 := by
        unfold step
        dsimp only
        rw [List.length_append, List.length_singleton]
      unfold own
      by_cases hk : s.workers.length = k
      · rw [if_pos hk, hcons', ← hlength]
        exact ih (h.connection_own hscope hk t) hgoes' hfiles'
      · rw [if_neg hk, ← hlength]
        exact ih (h.connection_other hscope hk t) hgoes' hfiles'
    | turn j =>
      have hlength : (step host c (.turn j) s).workers.length = s.workers.length := by
        cases hw : s.workers[j]? with
        | none => rw [step_turn_none hw]
        | some w =>
          rw [step_turn_some hw]
          exact List.length_set
      unfold own
      by_cases hj : j = k
      · subst hj
        rw [if_pos rfl, hcons', ← hlength]
        exact ih (h.turn_own ho) hgoes' hfiles'
      · rw [if_neg hj, ← hlength]
        exact ih (h.turn_other ho hj hstep) hgoes' hfiles'

end Workers

/-! ## One session after the other -/

namespace SerialServer

variable {c : ServerConfig} {world v : World σ}

/-- A session in a process that is still is the session in the world from which it is. -/
theorem session_still (ho : host.Obeys rules look) (hscope : c.scope = .connection)
    (hworld : World.Still host look world world) (hv : World.Still host look world v)
    (hfiles : look.files v.system = look.files world.system) (t : Terminal) :
    (session host c t v).1 = (session host c t world).1 ∧
      (session host c t v).2.shell.terminal = (session host c t world).2.shell.terminal ∧
      World.Still host look world (session host c t v).2.shell.world := by
  have hstart : Session.Twins host look world world (Session.start host c.scope t v)
      (Session.start host c.scope t world) := by
    have hcontext : Context.start host c.scope v = Context.start host c.scope world :=
      Context.start_eq hv hworld c.scope
    unfold Session.start
    rw [hcontext]
    exact ⟨Shell.twins_of_still hv hworld hfiles hscope t, rfl⟩
  obtain ⟨hending, hrun⟩ := Session.run_twins (i := c.interpreter) ho hstart
  exact ⟨hending, hrun.shell.terminal, hrun.shell.still.1⟩

/-- Sessions that are served one after the other are what each is by itself, if the files are the
same between them. -/
theorem serveEach_still (ho : host.Obeys rules look) (hscope : c.scope = .connection)
    (hworld : World.Still host look world world) (connections : List Terminal)
    (hv : World.Still host look world v)
    (hfiles : ∀ front, front <+: connections →
      look.files (serveEach host c front v).2.system = look.files world.system) :
    (serveEach host c connections v).1 =
        connections.flatMap (fun t => (serveEach host c [t] world).1) ∧
      World.Still host look world (serveEach host c connections v).2 := by
  induction connections generalizing v with
  | nil => exact ⟨rfl, hv⟩
  | cons t rest ih =>
    obtain ⟨hending, hterminal, hstill⟩ :=
      session_still ho hscope hworld hv (hfiles [] List.nil_prefix) t
    have hrest : ∀ front, front <+: rest →
        look.files (serveEach host c front (session host c t v).2.shell.world).2.system =
          look.files world.system := by
      intro front hfront
      exact hfiles (t :: front) ((List.prefix_cons_inj t).2 hfront)
    obtain ⟨hserved, hlast⟩ := ih hstill hrest
    refine ⟨?_, hlast⟩
    have hcons : (serveEach host c (t :: rest) v).1 =
        ⟨(session host c t v).1, (session host c t v).2.shell.terminal⟩ ::
          (serveEach host c rest (session host c t v).2.shell.world).1 := rfl
    rw [hcons, hending, hterminal, hserved, List.flatMap_cons]
    rfl

end SerialServer

namespace Workers

variable {c : ServerConfig}

/-- **Connections do not see each other.** Let a server have connection scope, on a system that
follows rules and whose files are the same after each event. As far as the server deals with events,
which is to the end or to the event by which it is stopped, each session is as if it was the only
one: at each point of the run its worker is the worker of a server to which only its own events
happen. The process has not moved, and its shared status was not written.

The same is true of a server without workers. The sessions that it serves one after the other are
what each of them is by itself. -/
theorem run_own (ho : host.Obeys rules look) (hscope : c.scope = .connection) (world : World σ)
    (hidle : look.running world.system = []) (events : List Event)
    (hfiles : ∀ front, front <+: events →
      look.files (run host c front { world }).world.system = look.files world.system) :
    (∃ done, done <+: events ∧
      (done = events ∨ (run host c done { world }).isStopped = true) ∧
      run host c events { world } = run host c done { world } ∧
      ∀ front, front <+: done →
        host.currentDirectory (run host c front { world }).world.system =
            host.currentDirectory world.system ∧
          (run host c front { world }).world.sharedStatus = world.sharedStatus ∧
          ∀ k, (run host c front { world }).workers[k]? =
            (run host c (own k 0 front) { world }).workers[0]?) ∧
    ∀ connections, (∀ front, front <+: connections →
        look.files (SerialServer.serveEach host c front world).2.system =
          look.files world.system) →
      (SerialServer.serveEach host c connections world).1 =
          connections.flatMap (fun t => (SerialServer.serveEach host c [t] world).1) ∧
        host.currentDirectory (SerialServer.serveEach host c connections world).2.system =
          host.currentDirectory world.system ∧
        (SerialServer.serveEach host c connections world).2.sharedStatus =
          world.sharedStatus := by
  have hworld : World.Still host look world world := ⟨hidle, rfl, rfl⟩
  constructor
  · obtain ⟨done, hdone, hend, hrun, hgoes⟩ := exists_dealt host c events { world }
    refine ⟨done, hdone, hend, hrun, fun front hfront => ?_⟩
    have halone : ∀ k, Alone host look world k (run host c front { world })
        (run host c (own k 0 front) { world }) := by
      intro k
      have hstart : Alone host look world k { world } { world } :=
        ⟨hworld, hworld, rfl, List.forall_mem_nil _, rfl⟩
      apply run_alone ho hscope front hstart
      · intro first hfirst hne
        apply hgoes first (hfirst.trans hfront)
        -- a proper first part of a first part is not the whole
        rintro rfl
        exact hne (hfirst.eq_of_length (Nat.le_antisymm hfirst.length_le hfront.length_le))
      · intro first hfirst
        exact hfiles first (hfirst.trans (hfront.trans hdone))
    refine ⟨(halone 0).still.directory_eq, (halone 0).still.status_eq, fun k => ?_⟩
    rw [(halone k).workers_eq]
    cases (run host c front { world }).workers[k]? with
    | none => rfl
    | some w => rfl
  · intro connections hconnections
    obtain ⟨hserved, hstill⟩ :=
      SerialServer.serveEach_still ho hscope hworld connections hworld hconnections
    exact ⟨hserved, hstill.directory_eq, hstill.status_eq⟩

/-- A client that has sent lines. -/
def client (lines : List String) : Terminal where
  input := lines.map fun line => .piece (Utf8.encode line.toList ++ [Wire.terminator])

/-- Two clients, whose lines are answered by turns. -/
def byTurns : List Event :=
  [.connection (client ["cd /a", "ls"]), .turn 0, .connection (client ["rc", "abc", "rc"]), .turn 1,
    .turn 1, .turn 0, .turn 1]

/-- Neither sees the directory or the status of the other. -/
theorem run_byTurns :
    Rules.plain.host.Obeys Rules.plain Rules.look ∧
      (∀ k, (run Rules.plain.host {} byTurns { world := Rules.atRoot }).workers[k]? =
        (run Rules.plain.host {} (own k 0 byTurns) { world := Rules.atRoot }).workers[0]?) ∧
      (run Rules.plain.host {} byTurns { world := Rules.atRoot }).workers.map Worker.context =
        [{ directory := "/a".toList, status := 2 }, { directory := "/".toList, status := 3 }] := by
  have ho : Rules.plain.host.Obeys Rules.plain Rules.look := Rules.plain.host_obeys
  refine ⟨ho, ?_, by decide +kernel⟩
  obtain ⟨⟨done, -, hend, hrun, hown⟩, -⟩ :=
    run_own (c := {}) ho rfl Rules.atRoot rfl byTurns fun _ _ => rfl
  rcases hend with rfl | hstopped
  · exact (hown byTurns (List.prefix_refl _)).2.2
  · rw [← hrun] at hstopped
    have hgoes : (run Rules.plain.host {} byTurns { world := Rules.atRoot }).isStopped = false := by
      decide +kernel
    rw [hgoes] at hstopped
    cases hstopped

end Workers

end PipeShell
