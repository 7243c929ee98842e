import PipeShell.Proofs.TerminalUse
import PipeShell.Server.Serial

/-!
# What ends a server that serves one client at a time

Such a server goes through what happens to it, event by event, and looks at its stop signal before
each of them. This file says where it stops (`SerialServer.Ends`): it waits behind the last event;
or the signal is up before the first; or a holder has raised it, and then nothing behind the raise
is looked at; or a session has ended with a request to stop the server; or an attempt to accept has
failed. Nothing else ends it. A session that ends in any other way does not, whatever its client
sent, and an attempt that brings nothing or is interrupted leaves no trace at all.

Up to there the sessions are those of the accepted connections one after the other, each in the
system that the one before it has left (`serveEach`).

A signal that is raised while a session goes on, or while an attempt to accept is under way, counts
from the next look at it; in the order of events it stands behind that connection or attempt.

Main statement: `SerialServer.run_ends`. For the signal itself see `StopSignals.Later`: once one
holder has raised it, every holder that shares it sees it at any later time.
-/

set_option autoImplicit false

namespace PipeShell

/-! ## Stop signals -/

namespace StopSignals

variable {s t : StopSignals} {a b k : Nat}

/-- Two holders share a flag. -/
def Shares (s : StopSignals) (a b : Nat) : Prop :=
  ∃ flag, s.holders[a]? = some flag ∧ s.holders[b]? = some flag

/-- The signals as they may be at a later time. -/
inductive Later (s : StopSignals) : StopSignals → Prop
  | now : Later s s
  | create {t : StopSignals} (h : Later s t) : Later s t.create
  | share {t : StopSignals} (h : Later s t) (k : Nat) : Later s (t.share k)
  | request {t : StopSignals} (h : Later s t) (k : Nat) : Later s (t.request k)

/-- Every holder's flag was made. -/
def Sound (s : StopSignals) : Prop := ∀ flag ∈ s.holders, flag < s.flags.length

theorem shouldStop_iff :
    s.shouldStop k = true ↔ ∃ flag, s.holders[k]? = some flag ∧ s.flags[flag]? = some true := by
  unfold shouldStop
  cases hk : s.holders[k]? with
  | none => simp
  | some flag =>
    cases hf : s.flags[flag]? with
    | none => simp [hf]
    | some up => simp [hf]

/-- Holders that share a flag see the same. -/
theorem Shares.shouldStop_eq (h : s.Shares a b) : s.shouldStop a = s.shouldStop b := by
  obtain ⟨flag, ha, hb⟩ := h
  rw [shouldStop, shouldStop, ha, hb]

@[simp] theorem request_holders (s : StopSignals) (k : Nat) :
    (s.request k).holders = s.holders := by
  unfold request
  split <;> rfl

/-- A copy shares the flag of the holder it was made from. -/
theorem share_shares (hk : k < s.holders.length) : (s.share k).Shares k s.holders.length := by
  have hflag : s.holders[k]? = some s.holders[k] := List.getElem?_eq_getElem hk
  refine ⟨s.holders[k], ?_, ?_⟩
  · simp only [share, hflag]
    rw [List.getElem?_append_left hk, hflag]
  · simp only [share, hflag]
    rw [List.getElem?_append_right (Nat.le_refl _), Nat.sub_self]
    rfl

/-- A flag is set where it was made, and no other flag is. -/
theorem getElem?_request_flags (hs : s.Sound) (flag : Nat) :
    (s.request k).flags[flag]? = some true ↔
      s.flags[flag]? = some true ∨ s.holders[k]? = some flag := by
  unfold request
  cases hk : s.holders[k]? with
  | none => simp
  | some raised =>
    have hmade : raised < s.flags.length := hs raised (List.mem_of_getElem? hk)
    simp only [List.getElem?_set, hmade, if_true, Option.some.injEq]
    by_cases h : raised = flag
    · simp only [h, if_true, or_true]
    · simp only [h, if_false, or_false]

/-- A raised signal is seen by those that saw it before and by those that share it. -/
theorem shouldStop_request (hs : s.Sound) :
    (s.request k).shouldStop b = true ↔ s.shouldStop b = true ∨ s.Shares k b := by
  rw [shouldStop_iff, shouldStop_iff, request_holders]
  constructor
  · rintro ⟨flag, hb, hflag⟩
    rcases (getElem?_request_flags hs flag).1 hflag with hflag | hk
    · exact Or.inl ⟨flag, hb, hflag⟩
    · exact Or.inr ⟨flag, hk, hb⟩
  · rintro (⟨flag, hb, hflag⟩ | ⟨flag, hk, hb⟩)
    · exact ⟨flag, hb, (getElem?_request_flags hs flag).2 (Or.inl hflag)⟩
    · exact ⟨flag, hb, (getElem?_request_flags hs flag).2 (Or.inr hk)⟩

namespace Sound

theorem empty : Sound {} := List.forall_mem_nil _

theorem create (hs : s.Sound) : s.create.Sound := by
  intro flag hflag
  rw [StopSignals.create, List.length_append, List.length_singleton]
  rcases List.mem_append.1 hflag with h | h
  · exact Nat.lt_succ_of_lt (hs flag h)
  · rw [List.mem_singleton.1 h]
    exact Nat.lt_succ_self _

theorem share (hs : s.Sound) (k : Nat) : (s.share k).Sound := by
  unfold StopSignals.share
  cases hk : s.holders[k]? with
  | none => exact hs
  | some shared =>
    intro flag hflag
    rcases List.mem_append.1 hflag with h | h
    · exact hs flag h
    · rw [List.mem_singleton.1 h]
      exact hs shared (List.mem_of_getElem? hk)

theorem request (hs : s.Sound) (k : Nat) : (s.request k).Sound := by
  intro flag hflag
  rw [request_holders] at hflag
  unfold StopSignals.request
  cases s.holders[k]? with
  | none => exact hs flag hflag
  | some raised =>
    rw [List.length_set]
    exact hs flag hflag

theorem later (hs : s.Sound) (h : s.Later t) : t.Sound := by
  induction h with
  | now => exact hs
  | create _ ih => exact ih.create
  | share _ k ih => exact ih.share k
  | request _ k ih => exact ih.request k

end Sound

/-- What a list holds it holds where more is put behind it. -/
theorem getElem?_append_some {α : Type} {l l' : List α} {k : Nat} {x : α} (h : l[k]? = some x) :
    (l ++ l')[k]? = some x := by
  rw [List.getElem?_append_left (List.getElem?_eq_some_iff.1 h).1, h]

/-- A holder that sees the signal sees it ever after. -/
theorem Later.shouldStop (h : s.Later t) (hs : s.Sound) (hb : s.shouldStop b = true) :
    t.shouldStop b = true := by
  induction h with
  | now => exact hb
  | create _ ih =>
    -- a flag and a holder are added behind those that are there
    obtain ⟨flag, hholder, hflag⟩ := shouldStop_iff.1 ih
    refine shouldStop_iff.2 ⟨flag, ?_, ?_⟩
    · exact getElem?_append_some hholder
    · exact getElem?_append_some hflag
  | @share t _ k ih =>
    obtain ⟨flag, hholder, hflag⟩ := shouldStop_iff.1 ih
    unfold StopSignals.share
    cases t.holders[k]? with
    | none => exact ih
    | some shared =>
      exact shouldStop_iff.2 ⟨flag, getElem?_append_some hholder, hflag⟩
  | request h k ih => exact (shouldStop_request (hs.later h)).2 (Or.inl ih)

/-- **Once raised.** When a holder has raised the signal, every holder that shares it sees it at any
later time, also one that was made afterwards. -/
theorem Later.shouldStop_of_request (hs : s.Sound) (ha : a < s.holders.length)
    (h : (s.request a).Later t) (hab : t.Shares a b) : t.shouldStop b = true := by
  have hself : s.Shares a a :=
    ⟨s.holders[a], List.getElem?_eq_getElem ha, List.getElem?_eq_getElem ha⟩
  have hnow : (s.request a).shouldStop a = true := (shouldStop_request hs).2 (Or.inr hself)
  rw [← hab.shouldStop_eq]
  exact h.shouldStop (hs.request a) hnow

end StopSignals

namespace SerialServer

variable {σ : Type} {host : Host σ} {c : ServerConfig}

/-! ## Sessions one after the other -/

/-- The connection that an event brings. -/
def Event.connection? : Event → Option Terminal
  | .connection t => some t
  | _ => none

/-- Is the event an attempt to accept after which there is only another attempt? -/
def Event.isIdle : Event → Bool
  | .nothing => true
  | .interrupted => true
  | _ => false

/-- The connections that events bring, in order. -/
def connections (events : List Event) : List Terminal := events.filterMap Event.connection?

/-- The session of a connection, served to its end. -/
def session (host : Host σ) (c : ServerConfig) (t : Terminal) (world : World σ) :
    SessionEnd × Session σ :=
  (Session.start host c.scope t world).run host c.interpreter

/-- Serves connections one after the other, each to its end before the next one is looked at. -/
def serveEach (host : Host σ) (c : ServerConfig) :
    List Terminal → World σ → List Served × World σ
  | [], world => ([], world)
  | t :: rest, world =>
    let (ending, session) := session host c t world
    let (served, world) := serveEach host c rest session.shell.world
    (⟨ending, session.shell.terminal⟩ :: served, world)

/-- What a server is after an event that does not end it. -/
def deal (host : Host σ) (c : ServerConfig) (s : State σ) : Event → State σ
  | .connection t => (serve host c t s).2
  | .stopRequest k => { s with signals := s.signals.request k }
  | _ => s

/-- The stop signal of the server is up after the events: it was before, or one of its holders has
raised it. -/
def Raised (s : State σ) (events : List Event) : Prop :=
  s.signals.shouldStop s.holder = true ∨
    ∃ k, .stopRequest k ∈ events ∧ s.signals.Shares k s.holder

/-- The server goes on behind the events. -/
structure GoesOn (host : Host σ) (c : ServerConfig) (s : State σ) (events : List Event) : Prop where
  /-- Nobody has raised the stop signal. -/
  down : ¬ Raised s events
  /-- No attempt to accept has failed. -/
  accepted : ∀ f, .failed f ∉ events
  /-- No session has ended with a request to stop the server. -/
  served : ∀ v ∈ (serveEach host c (connections events) s.world).1, v.ending ≠ .stopServer

/-- Where a server stops and what becomes of it, given the events it has dealt with and the events
behind them. -/
inductive Ends (host : Host σ) (c : ServerConfig) (s : State σ) :
    List Event → List Event → Fate → Prop
  /-- It has dealt with everything and waits. -/
  | waiting {done : List Event} (h : GoesOn host c s done) : Ends host c s done [] .waiting
  /-- The stop signal was up from the start. -/
  | before {rest : List Event} (h : s.signals.shouldStop s.holder = true) :
      Ends host c s [] rest .stopped
  /-- A holder has raised the stop signal. -/
  | raised {front rest : List Event} {k : Nat} (h : GoesOn host c s front)
      (hk : s.signals.Shares k s.holder) : Ends host c s (front ++ [.stopRequest k]) rest .stopped
  /-- The session of the connection accepted last has ended with a request to stop the server. -/
  | asked {front rest : List Event} {t : Terminal} (h : GoesOn host c s front)
      (ht : (session host c t (serveEach host c (connections front) s.world).2).1 = .stopServer) :
      Ends host c s (front ++ [.connection t]) rest .stopped
  /-- An attempt to accept has failed. -/
  | failed {done rest : List Event} {f : Failure} (h : GoesOn host c s done) :
      Ends host c s done (.failed f :: rest) (.failed f)

/-! ## One event -/

variable {s : State σ} {event : Event} {events : List Event}

theorem deal_signals_holders (s : State σ) (event : Event) :
    (deal host c s event).signals.holders = s.signals.holders := by
  cases event with
  | stopRequest k => exact StopSignals.request_holders _ _
  | _ => rfl

/-- An event does not change who shares a flag. -/
theorem deal_shares (s : State σ) (event : Event) {a b : Nat} :
    (deal host c s event).signals.Shares a b ↔ s.signals.Shares a b := by
  rw [StopSignals.Shares, deal_signals_holders]
  exact Iff.rfl

theorem deal_sound (hs : s.signals.Sound) (event : Event) :
    (deal host c s event).signals.Sound := by
  cases event with
  | stopRequest k => exact hs.request k
  | _ => exact hs

/-- The sessions behind an event start in the system that it has left. -/
theorem serveEach_cons_world (s : State σ) (event : Event) (events : List Event) :
    (serveEach host c (connections (event :: events)) s.world).2 =
      (serveEach host c (connections events) (deal host c s event).world).2 := by
  cases event <;> rfl

/-- The event neither ends the server nor fails: it is no failed attempt, and no session ends with
a request to stop the server. -/
def Passes (host : Host σ) (c : ServerConfig) (s : State σ) (event : Event) : Prop :=
  (∀ f, event ≠ .failed f) ∧
    ∀ t, event = .connection t → (session host c t s.world).1 ≠ .stopServer

theorem passes_of_isIdle (h : event.isIdle = true) : Passes host c s event := by
  constructor
  · rintro f rfl
    cases h
  · rintro t rfl
    cases h

theorem passes_connection {t : Terminal} (h : (session host c t s.world).1 ≠ .stopServer) :
    Passes host c s (.connection t) := by
  constructor
  · intro f hf
    cases hf
  · intro u hu
    cases hu
    exact h

theorem passes_stopRequest (k : Nat) : Passes host c s (.stopRequest k) := by
  constructor
  · intro f h
    cases h
  · intro t h
    cases h

/-- Where the signal is up, nothing more is looked at. -/
theorem run_of_up (hup : s.signals.shouldStop s.holder = true) (events : List Event) :
    run host c events s = (.stopped, s) := by
  rw [run.eq_def]
  dsimp only
  rw [if_pos hup]

/-- While the signal is down, a server that has dealt with an event that passes looks again. -/
theorem run_cons_of_passes (hdown : ¬ s.signals.shouldStop s.holder = true)
    (h : Passes host c s event) (rest : List Event) :
    run host c (event :: rest) s = run host c rest (deal host c s event) := by
  rw [run.eq_def]
  dsimp only
  rw [if_neg hdown]
  cases event with
  | connection t =>
    have hend : (serve host c t s).1 ≠ .stopServer := h.2 t rfl
    unfold deal
    dsimp only
    rcases hserve : serve host c t s with ⟨ending, s'⟩
    rw [hserve] at hend
    cases ending with
    | stopServer => exact absurd rfl hend
    | _ => rfl
  | failed f => exact absurd rfl (h.1 f)
  | _ => rfl

theorem run_failed (hdown : ¬ s.signals.shouldStop s.holder = true) (f : Failure)
    (rest : List Event) : run host c (.failed f :: rest) s = (.failed f, s) := by
  rw [run.eq_def]
  dsimp only
  rw [if_neg hdown]

/-- While the signal is down, a session that ends with a request to stop the server is the last. -/
theorem run_asked (hdown : ¬ s.signals.shouldStop s.holder = true) {t : Terminal}
    (ht : (session host c t s.world).1 = .stopServer) (rest : List Event) :
    run host c (.connection t :: rest) s = (.stopped, deal host c s (.connection t)) := by
  have hserve : serve host c t s = (.stopServer, (serve host c t s).2) := Prod.ext ht rfl
  rw [run.eq_def]
  dsimp only
  rw [if_neg hdown, hserve]
  rfl

/-! ## What comes before goes on -/

/-- The signal is up after an event exactly if it was before or the event raised it. -/
theorem raised_cons (hs : s.signals.Sound) (event : Event) (events : List Event) :
    Raised s (event :: events) ↔ Raised (deal host c s event) events := by
  have hholder : (deal host c s event).holder = s.holder := by
    cases event <;> rfl
  unfold Raised
  rw [hholder]
  simp only [List.mem_cons, deal_shares]
  cases event with
  | stopRequest k =>
    have hup : (deal host c s (.stopRequest k)).signals.shouldStop s.holder = true ↔
        s.signals.shouldStop s.holder = true ∨ s.signals.Shares k s.holder :=
      StopSignals.shouldStop_request hs
    rw [hup]
    constructor
    · rintro (h | ⟨j, h | h, hj⟩)
      · exact Or.inl (Or.inl h)
      · cases h
        exact Or.inl (Or.inr hj)
      · exact Or.inr ⟨j, h, hj⟩
    · rintro ((h | h) | ⟨j, h, hj⟩)
      · exact Or.inl h
      · exact Or.inr ⟨k, Or.inl rfl, h⟩
      · exact Or.inr ⟨j, Or.inr h, hj⟩
  | _ =>
    simp only [reduceCtorEq, false_or]
    exact Iff.rfl

/-- While the signal is down, a server goes on from the start. -/
theorem goesOn_nil (hdown : ¬ s.signals.shouldStop s.holder = true) : GoesOn host c s [] where
  down := by
    rintro (hup | ⟨k, hk, -⟩)
    · exact hdown hup
    · cases hk
  accepted := fun _ => List.not_mem_nil
  served := List.forall_mem_nil _

theorem serveEach_cons_connection (t : Terminal) (events : List Event) (s : State σ) :
    (serveEach host c (connections (.connection t :: events)) s.world).1 =
      ⟨(session host c t s.world).1, (session host c t s.world).2.shell.terminal⟩ ::
        (serveEach host c (connections events) (deal host c s (.connection t)).world).1 := rfl

/-- An event that passes comes before what goes on. -/
theorem GoesOn.cons (hs : s.signals.Sound) (h : Passes host c s event)
    (hrest : GoesOn host c (deal host c s event) events) :
    GoesOn host c s (event :: events) where
  down := fun hup => hrest.down ((raised_cons hs event events).1 hup)
  accepted := by
    intro f hf
    rcases List.mem_cons.1 hf with hf | hf
    · exact h.1 f hf.symm
    · exact hrest.accepted f hf
  served := by
    cases event with
    | connection t =>
      rw [serveEach_cons_connection]
      exact List.forall_mem_cons.2 ⟨h.2 t rfl, hrest.served⟩
    | _ => exact hrest.served

/-- What goes on starts with an event that passes, and goes on behind it. -/
theorem GoesOn.of_cons (hs : s.signals.Sound) (h : GoesOn host c s (event :: events)) :
    Passes host c s event ∧ GoesOn host c (deal host c s event) events := by
  refine ⟨⟨?_, ?_⟩, ⟨?_, ?_, ?_⟩⟩
  · rintro f rfl
    exact h.accepted f List.mem_cons_self
  · rintro t rfl
    have hserved := h.served
    rw [serveEach_cons_connection] at hserved
    exact (List.forall_mem_cons.1 hserved).1
  · exact fun hup => h.down ((raised_cons hs event events).2 hup)
  · exact fun f hf => h.accepted f (List.mem_cons_of_mem _ hf)
  · have hserved := h.served
    cases event with
    | connection t =>
      rw [serveEach_cons_connection] at hserved
      exact (List.forall_mem_cons.1 hserved).2
    | _ => exact hserved

/-- An event that passes comes before whatever ends the server. -/
theorem Ends.cons (hs : s.signals.Sound) (hdown : ¬ s.signals.shouldStop s.holder = true)
    (h : Passes host c s event) {done rest : List Event} {fate : Fate}
    (hrest : Ends host c (deal host c s event) done rest fate) :
    Ends host c s (event :: done) rest fate := by
  have hholder : (deal host c s event).holder = s.holder := by
    cases event <;> rfl
  cases hrest with
  | waiting hgo => exact .waiting (hgo.cons hs h)
  | before hup =>
    -- the signal was down before the event, so the event has raised it
    cases event with
    | stopRequest k =>
      rcases (StopSignals.shouldStop_request hs).1 hup with hup | hk
      · exact absurd hup hdown
      · have hfront : GoesOn host c s [] := goesOn_nil hdown
        exact .raised hfront hk
    | _ => exact absurd hup hdown
  | raised hgo hk =>
    rw [deal_shares, hholder] at hk
    exact Ends.raised (hgo.cons hs h) hk
  | asked hgo ht =>
    have hfront := hgo.cons hs h
    rw [← serveEach_cons_world] at ht
    exact .asked hfront ht
  | failed hgo => exact .failed (hgo.cons hs h)

/-! ## Runs -/

/-- The sessions of a server that has dealt with events are those of their connections in order. -/
theorem foldl_deal (host : Host σ) (c : ServerConfig) (events : List Event) (s : State σ) :
    (events.foldl (deal host c) s).served =
        s.served ++ (serveEach host c (connections events) s.world).1 ∧
      (events.foldl (deal host c) s).world =
        (serveEach host c (connections events) s.world).2 := by
  induction events generalizing s with
  | nil => exact ⟨(List.append_nil _).symm, rfl⟩
  | cons event events ih =>
    obtain ⟨hserved, hworld⟩ := ih (deal host c s event)
    rw [List.foldl_cons, hserved, hworld, serveEach_cons_world]
    refine ⟨?_, rfl⟩
    cases event with
    | connection t => exact List.append_assoc _ _ _
    | _ => rfl

/-- Where a server goes on, it deals with what is behind. -/
theorem run_append (hs : s.signals.Sound) {front : List Event} (h : GoesOn host c s front)
    (rest : List Event) :
    run host c (front ++ rest) s = run host c rest (front.foldl (deal host c) s) := by
  induction front generalizing s with
  | nil => rfl
  | cons event front ih =>
    have hdown : ¬ s.signals.shouldStop s.holder = true := fun hup => h.down (Or.inl hup)
    obtain ⟨hpass, hfront⟩ := h.of_cons hs
    rw [List.cons_append, run_cons_of_passes hdown hpass, List.foldl_cons]
    exact ih (deal_sound hs event) hfront

/-- A run stops in one of the ways to stop, and has dealt with what is in front of it. -/
theorem run_ends_deal (host : Host σ) (c : ServerConfig) (hs : s.signals.Sound)
    (events : List Event) :
    ∃ done rest fate, events = done ++ rest ∧
      run host c events s = (fate, done.foldl (deal host c) s) ∧
      Ends host c s done rest fate := by
  induction events generalizing s with
  | nil =>
    by_cases hup : s.signals.shouldStop s.holder = true
    · exact ⟨[], [], .stopped, rfl, run_of_up hup [], .before hup⟩
    · refine ⟨[], [], .waiting, rfl, ?_, .waiting (goesOn_nil hup)⟩
      rw [run.eq_def]
      dsimp only
      rw [if_neg hup, List.foldl_nil]
  | cons event events ih =>
    by_cases hup : s.signals.shouldStop s.holder = true
    · exact ⟨[], event :: events, .stopped, rfl, run_of_up hup _, .before hup⟩
    have hpass : Passes host c s event →
        ∃ done rest fate, event :: events = done ++ rest ∧
          run host c (event :: events) s = (fate, done.foldl (deal host c) s) ∧
          Ends host c s done rest fate := by
      intro hp
      have hsound : (deal host c s event).signals.Sound := deal_sound hs event
      obtain ⟨done, rest, fate, rfl, hrun, hends⟩ := ih hsound
      refine ⟨event :: done, rest, fate, rfl, ?_, hends.cons hs hup hp⟩
      rw [run_cons_of_passes hup hp, hrun, List.foldl_cons]
    cases event with
    | connection t =>
      by_cases hend : (session host c t s.world).1 = .stopServer
      · have hfront : GoesOn host c s [] := goesOn_nil hup
        exact ⟨[.connection t], events, .stopped, rfl, run_asked hup hend events,
          .asked hfront hend⟩
      · exact hpass (passes_connection hend)
    | nothing => exact hpass (passes_of_isIdle rfl)
    | interrupted => exact hpass (passes_of_isIdle rfl)
    | failed f =>
      exact ⟨[], .failed f :: events, .failed f, rfl, run_failed hup f events,
        .failed (goesOn_nil hup)⟩
    | stopRequest k => exact hpass (passes_stopRequest k)

/-- An attempt that brings nothing leaves no trace, wherever it stands. -/
theorem run_filter_isIdle (events : List Event) (s : State σ) :
    run host c (events.filter fun event => !event.isIdle) s = run host c events s := by
  induction events generalizing s with
  | nil => rfl
  | cons event events ih =>
    by_cases hup : s.signals.shouldStop s.holder = true
    · rw [run_of_up hup, run_of_up hup]
    cases hidle : event.isIdle with
    | true =>
      have hdeal : deal host c s event = s := by
        cases event with
        | nothing => rfl
        | interrupted => rfl
        | _ => cases hidle
      rw [List.filter_cons_of_neg (by rw [hidle]; decide), ih,
        run_cons_of_passes hup (passes_of_isIdle hidle), hdeal]
    | false =>
      rw [List.filter_cons_of_pos (by rw [hidle]; decide)]
      by_cases hp : Passes host c s event
      · rw [run_cons_of_passes hup hp, run_cons_of_passes hup hp, ih]
      · -- what ends the server ends it before the events behind
        cases event with
        | connection t =>
          have hend : (session host c t s.world).1 = .stopServer :=
            Decidable.byContradiction fun hend => hp (passes_connection hend)
          rw [run_asked hup hend, run_asked hup hend]
        | failed f => rw [run_failed hup, run_failed hup]
        | stopRequest k => exact absurd (passes_stopRequest k) hp
        | _ => cases hidle

/-- **What ends a server.** Whatever happens, the run stops in one of the ways to stop. The sessions
are those of the connections in front of there, one after the other and in the order in which they
were accepted; what stands behind is not looked at. Where none of these ways is met, the server does
go on, however its sessions have ended and whatever their clients have sent. Attempts that bring
nothing or are interrupted can be left out. And a stop signal that one holder has raised is seen at
any later time by all that share it. -/
theorem run_ends (host : Host σ) (c : ServerConfig) (events : List Event) {s : State σ}
    (hs : StopSignals.Later {} s.signals) :
    (∃ done rest fate s', events = done ++ rest ∧ run host c events s = (fate, s') ∧
      Ends host c s done rest fate ∧
      s'.served = s.served ++ (serveEach host c (connections done) s.world).1 ∧
      s'.world = (serveEach host c (connections done) s.world).2) ∧
    (∀ front, GoesOn host c s front → ∃ s', (∀ rest,
        run host c (front ++ rest) s = run host c rest s') ∧
      s'.served = s.served ++ (serveEach host c (connections front) s.world).1 ∧
      s'.world = (serveEach host c (connections front) s.world).2) ∧
    run host c (events.filter fun event => !event.isIdle) s = run host c events s ∧
    ∀ signals, StopSignals.Later {} signals →
      (∀ k < signals.holders.length, (signals.share k).Shares k signals.holders.length) ∧
      ∀ a < signals.holders.length, ∀ later, (signals.request a).Later later →
        ∀ b, later.Shares a b → later.shouldStop b = true := by
  have hsound : s.signals.Sound := StopSignals.Sound.empty.later hs
  refine ⟨?_, fun front hgo => ?_, run_filter_isIdle events s, fun signals hsignals => ⟨?_, ?_⟩⟩
  · obtain ⟨done, rest, fate, hsplit, hrun, hends⟩ :=
      run_ends_deal host c hsound events
    obtain ⟨hserved, hworld⟩ := foldl_deal host c done s
    exact ⟨done, rest, fate, _, hsplit, hrun, hends, hserved, hworld⟩
  · obtain ⟨hserved, hworld⟩ := foldl_deal host c front s
    exact ⟨_, run_append hsound hgo, hserved, hworld⟩
  · intro k hk
    exact StopSignals.share_shares hk
  · intro a ha later hlater b hb
    exact StopSignals.Later.shouldStop_of_request (StopSignals.Sound.empty.later hsignals) ha
      hlater hb

/-- A client that sends nothing has left. -/
theorem session_of_silence (host : Host σ) (c : ServerConfig) (hc : 0 < c.limits.requestLength)
    (world : World σ) : (session host c {} world).1 = .disconnected := by
  have hnext : Wire.Inbox.next c.limits.requestLength {} = (.ok none, {}) := by
    rw [Wire.Inbox.next]
    simp only [Bytes.cutAt, List.length_nil, Nat.not_le.2 hc, if_false]
    rfl
  have hstep : (Session.start host c.scope {} world).step host c.interpreter =
      (some .disconnected, (Session.start host c.scope {} world).withInbox {}) := by
    have hbox : (Session.start host c.scope {} world).inbox = {} := rfl
    have hmax : c.interpreter.limits.requestLength = c.limits.requestLength := rfl
    rw [Session.step, hbox, hmax, hnext]
  unfold session
  rw [Session.run_of_over host hstep]

/-- A server whose stop signal has a copy. -/
def watched : State Unit where
  world := ⟨(), 0⟩
  signals := (StopSignals.create {}).share 0

/-- A client that leaves at once; then the copy is used to raise the signal; then another client. -/
def lateClient : List Event := [.nothing, .connection {}, .stopRequest 1, .connection {}]

/-- The server goes on behind the first client, and does not serve the second. -/
theorem run_lateClient :
    StopSignals.Later {} watched.signals ∧
      ∃ s', run Host.plain {} lateClient watched = (.stopped, s') ∧ s'.served.length = 1 := by
  have hs : StopSignals.Later {} watched.signals := .share (.create .now) 0
  refine ⟨hs, ?_⟩
  obtain ⟨⟨done, rest, fate, s', hsplit, hrun, hends, hserved, -⟩, -⟩ :=
    run_ends Host.plain {} lateClient hs
  have hshares : watched.signals.Shares 1 watched.holder := ⟨0, rfl, rfl⟩
  have hup : ∀ {front : List Event}, .stopRequest 1 ∈ front →
      ¬ GoesOn Host.plain {} watched front :=
    fun hmem hgo => hgo.down (Or.inr ⟨1, hmem, hshares⟩)
  -- of all places where the run could stop, one is left
  cases hends with
  | waiting hgo =>
    rw [List.append_nil] at hsplit
    exact absurd hgo (hup (by rw [← hsplit]; simp [lateClient]))
  | before h => exact absurd h (by decide)
  | @raised front _ k hgo hk =>
    rcases front with _ | ⟨_, _ | ⟨_, _ | ⟨_, _ | ⟨_, front⟩⟩⟩⟩ <;> simp [lateClient] at hsplit
    obtain ⟨rfl, rfl, -, -⟩ := hsplit
    exact ⟨s', hrun, by rw [hserved]; rfl⟩
  | @asked front _ t hgo ht =>
    rcases front with _ | ⟨_, _ | ⟨_, _ | ⟨_, _ | ⟨_, front⟩⟩⟩⟩ <;> simp [lateClient] at hsplit
    · obtain ⟨-, rfl, -⟩ := hsplit
      rw [session_of_silence _ _ (by decide)] at ht
      cases ht
    · exact absurd hgo (hup (by simp [hsplit.2.2.1]))
  | failed hgo =>
    rcases done with _ | ⟨_, _ | ⟨_, _ | ⟨_, _ | ⟨_, done⟩⟩⟩⟩ <;> simp [lateClient] at hsplit

end SerialServer

end PipeShell
