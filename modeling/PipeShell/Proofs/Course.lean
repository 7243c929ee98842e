import PipeShell.Proofs.Exchanges
import PipeShell.Proofs.Requests

/-!
# The course of a session

A session takes turns: each takes the next request off the inbox that the turn before has left, and
makes one exchange of it (`Session.Turn`). A course is a row of turns of which only the last may ask
for the end, and the reason why no further turn is taken (`Session.Course`, `Session.Closing`).
Every session on a connection that takes what is sent has a course, and what it sent is the
responses of the course's exchanges, with a notice behind them if a request was refused
(`Session.run_course`).

The final session of a course is the one that its last turn left. So what stands in the inbox behind
that turn is neither read nor carried out nor answered. If no program reads the connection, the
requests of a course are what the reader gives when it is called again and again
(`Session.Course.calls_eq`).
-/

set_option autoImplicit false

namespace PipeShell.Session

variable {σ : Type} {host : Host σ} {i : Interpreter}

/-- A session takes the next request off its inbox and answers it. -/
def Turn (host : Host σ) (i : Interpreter) (s : Session σ) (e : Exchange) (s' : Session σ) : Prop :=
  ∃ box, Wire.Inbox.next i.limits.requestLength s.inbox = (.ok (some e.request), box) ∧
    e.Takes host i (s.withInbox box).shell s'.shell ∧ s'.pending = box.pending

/-- Why a session takes no further turn. -/
inductive Closing where
  | left
  | broken (fault : StreamFault)
  | refused (max : Nat)
  | asked (action : ControlAction)
  deriving DecidableEq, Repr

namespace Closing

/-- The end that a session comes to. -/
def ending : Closing → SessionEnd
  | left => .disconnected
  | broken _ => .failed
  | refused _ => .failed
  | asked action => action.sessionEnd

/-- What is sent at the end that belongs to no exchange: the error line of a refusal, and its
sentinel. -/
def notice : Closing → Bytes
  | refused max =>
    Utf8.encode ((Wire.RequestError.tooLarge max).message ++ ['\n']) ++ [Wire.sentinel]
  | _ => []

/-- How many notices are sent. -/
def notices : Closing → Nat
  | refused _ => 1
  | _ => 0

end Closing

/-- The exchanges of a session in order, why it ends, and the session at its end. -/
inductive Course (host : Host σ) (i : Interpreter) :
    Session σ → List Exchange → Closing → Session σ → Prop
  | left {s : Session σ} {box : Wire.Inbox}
      (h : Wire.Inbox.next i.limits.requestLength s.inbox = (.ok none, box)) :
      Course host i s [] .left (s.withInbox box)
  | broken {s : Session σ} {box : Wire.Inbox} {fault : StreamFault}
      (h : Wire.Inbox.next i.limits.requestLength s.inbox = (.error (.receive fault), box)) :
      Course host i s [] (.broken fault) (s.withInbox box)
  | refused {s : Session σ} {box : Wire.Inbox} {max : Nat} {sink : Sink}
      (h : Wire.Inbox.next i.limits.requestLength s.inbox = (.error (.tooLarge max), box))
      (hsink : sink.taken = s.shell.terminal.output.taken ++ (Closing.refused max).notice) :
      Course host i s [] (.refused max)
        { s.withInbox box with
          shell := { (s.withInbox box).shell with
            terminal := { (s.withInbox box).shell.terminal with output := sink } } }
  | asked {s s' : Session σ} {e : Exchange} {action : ControlAction}
      (turn : Turn host i s e s') (h : e.result.action? = some action) :
      Course host i s [e] (.asked action) s'
  | goOn {s s' s'' : Session σ} {e : Exchange} {log : List Exchange} {closing : Closing}
      (turn : Turn host i s e s') (h : e.result.action? = none)
      (rest : Course host i s' log closing s'') : Course host i s (e :: log) closing s''

/-! ## One step -/

/-- A step that gets a request is a turn. -/
theorem step_of_request (host : Host σ) (i : Interpreter) {s : Session σ} {box : Wire.Inbox}
    {request : Text} (hs : s.shell.terminal.Connected)
    (hnext : Wire.Inbox.next i.limits.requestLength s.inbox = (.ok (some request), box)) :
    ∃ e s', s.step host i = (e.ending?, s') ∧ Turn host i s e s' ∧ e.request = request := by
  obtain ⟨e, shell, rfl, htakes, ha⟩ :=
    answer_connected host i request (s := (s.withInbox box).shell) ⟨hs.error_eq, hs.output_open⟩
  refine ⟨e, { s.withInbox box with shell }, ?_, ⟨box, hnext, htakes, rfl⟩, rfl⟩
  simp only [step, hnext, ha]

/-- **One step** is the end of a course or a turn. -/
theorem step_connected (host : Host σ) (i : Interpreter) (s : Session σ)
    (hs : s.shell.terminal.Connected) :
    (∃ closing s', s.step host i = (some closing.ending, s') ∧ Course host i s [] closing s') ∨
    ∃ e s', s.step host i = (e.ending?, s') ∧ Turn host i s e s' := by
  cases hnext : Wire.Inbox.next i.limits.requestLength s.inbox with
  | mk result box =>
    rcases result with (⟨max⟩ | ⟨fault⟩) | _ | request
    · -- a refusal is the one end that is told
      have hbox : (s.withInbox box).shell.terminal.Connected := ⟨hs.error_eq, hs.output_open⟩
      obtain ⟨sink, hsend, -, hsink⟩ := send_connected hbox
        [Utf8.encode ((Wire.RequestError.tooLarge max).message ++ ['\n']), [Wire.sentinel]]
      change send (Wire.sendResponse _) _ = _ at hsend
      refine Or.inl ⟨.refused max, _, ?_, .refused hnext (?_ : sink.taken = _)⟩
      · simp only [step, hnext, hsend]
        rfl
      · rw [hsink, List.flatten_cons, List.flatten_cons, List.flatten_nil, List.append_nil]
        rfl
    · refine Or.inl ⟨.broken fault, _, ?_, .broken hnext⟩
      simp only [step, hnext]
      rfl
    · refine Or.inl ⟨.left, _, ?_, .left hnext⟩
      simp only [step, hnext]
      rfl
    · obtain ⟨e, s', hstep, turn, -⟩ := step_of_request host i hs hnext
      exact Or.inr ⟨e, s', hstep, turn⟩

theorem Turn.taken_eq {s s' : Session σ} {e : Exchange} (h : Turn host i s e s') :
    s'.shell.terminal.output.taken = s.shell.terminal.output.taken ++ e.response := by
  obtain ⟨box, -, htakes, -⟩ := h
  exact htakes.taken_eq

theorem Turn.connected {s s' : Session σ} {e : Exchange} (h : Turn host i s e s') :
    s'.shell.terminal.Connected := by
  obtain ⟨box, -, htakes, -⟩ := h
  exact htakes.connected

theorem Turn.sentinel_not_mem {s s' : Session σ} {e : Exchange} (h : Turn host i s e s')
    (hs : s.shell.terminal.Connected) (hw : host.Writes (· ≠ Wire.sentinel))
    (hr : Wire.sentinelChar ∉ e.request) : Wire.sentinel ∉ e.body := by
  obtain ⟨box, -, htakes, -⟩ := h
  exact htakes.sentinel_not_mem ⟨hs.error_eq, hs.output_open⟩ hw hr

/-! ## The sentinels of a course -/

/-- A notice has one sentinel, since its error line is plain. -/
theorem Closing.count_notice (closing : Closing) :
    closing.notice.count Wire.sentinel = closing.notices := by
  cases closing with
  | refused max =>
    have hplain : Text.Over (· ≠ Wire.sentinelChar)
        ((Wire.RequestError.tooLarge max).message ++ ['\n']) :=
      Text.over_append.2 ⟨Wire.RequestError.message_over Wire.ample_of_sentinel (.tooLarge max),
        Text.over_newline Wire.ample_of_sentinel⟩
    rw [notice, List.count_append, List.count_eq_zero.2 (Wire.sentinel_not_mem_encode hplain),
      List.count_singleton_self]
    rfl
  | left => rfl
  | broken fault => rfl
  | asked action => rfl

/-- Clean bodies leave one sentinel for each exchange. -/
theorem count_responses {log : List Exchange} (h : ∀ e ∈ log, Wire.sentinel ∉ e.body) :
    (log.flatMap Exchange.response).count Wire.sentinel = log.length := by
  induction log with
  | nil => rfl
  | cons e log ih =>
    obtain ⟨he, hlog⟩ := List.forall_mem_cons.1 h
    rw [List.flatMap_cons, List.count_append, Exchange.count_response he, ih hlog, List.length_cons,
      Nat.add_comm]

/-! ## What courses keep -/

/-- A turn leaves the inbox that its request left, if no program reads the connection. -/
theorem Turn.inbox_eq {s s' : Session σ} {e : Exchange} (h : Turn host i s e s')
    (hq : host.LeavesInput) :
    Wire.Inbox.next i.limits.requestLength s.inbox = (.ok (some e.request), s'.inbox) := by
  obtain ⟨box, hnext, htakes, hp⟩ := h
  have hin : s'.shell.terminal.input = box.source := htakes.input_eq hq
  rw [hnext, inbox, hin, hp]

namespace Course

/-- What was sent is the responses in order and then the notice. -/
theorem taken_eq {s s' : Session σ} {log : List Exchange} {closing : Closing}
    (h : Course host i s log closing s') : s'.shell.terminal.output.taken =
      s.shell.terminal.output.taken ++ (log.flatMap Exchange.response ++ closing.notice) := by
  induction h with
  | left h => exact (List.append_nil _).symm
  | broken h => exact (List.append_nil _).symm
  | refused h hsink => exact hsink
  | asked turn h =>
    rw [turn.taken_eq, List.flatMap_singleton]
    exact congrArg _ (List.append_nil _).symm
  | goOn turn h rest ih =>
    rw [ih, turn.taken_eq, List.flatMap_cons, List.append_assoc, List.append_assoc]

/-- No body has a sentinel, if no request has one and no program writes one. -/
theorem sentinel_not_mem {s s' : Session σ} {log : List Exchange} {closing : Closing}
    (h : Course host i s log closing s') (hs : s.shell.terminal.Connected)
    (hw : host.Writes (· ≠ Wire.sentinel)) (hr : ∀ e ∈ log, Wire.sentinelChar ∉ e.request) :
    ∀ e ∈ log, Wire.sentinel ∉ e.body := by
  induction h with
  | left h => exact List.forall_mem_nil _
  | broken h => exact List.forall_mem_nil _
  | refused h hsink => exact List.forall_mem_nil _
  | asked turn h =>
    have he := turn.sentinel_not_mem hs hw (hr _ (List.mem_singleton_self _))
    exact List.forall_mem_cons.2 ⟨he, List.forall_mem_nil _⟩
  | goOn turn h rest ih =>
    obtain ⟨he, hlog⟩ := List.forall_mem_cons.1 hr
    exact List.forall_mem_cons.2 ⟨turn.sentinel_not_mem hs hw he, ih turn.connected hlog⟩

/-- If no program reads the connection, the requests of a course are the next ones that the reader
gives. -/
theorem calls_eq {s s' : Session σ} {log : List Exchange} {closing : Closing}
    (h : Course host i s log closing s') (hq : host.LeavesInput) :
    (Wire.Inbox.calls i.limits.requestLength log.length s.inbox).1 =
      log.map fun e => .ok (some e.request) := by
  induction h with
  | left h => rfl
  | broken h => rfl
  | refused h hsink => rfl
  | asked turn h =>
    obtain ⟨box, hnext, -, -⟩ := turn
    simp only [List.length_singleton, Wire.Inbox.calls, hnext, List.map_cons, List.map_nil]
  | goOn turn h rest ih =>
    have hbox := turn.inbox_eq hq
    simp only [List.length_cons, Wire.Inbox.calls, hbox, ih, List.map_cons]

end Course

/-! ## The whole session -/

/-- The loop takes turns until a course is complete. -/
theorem exists_course (host : Host σ) (i : Interpreter) (s : Session σ)
    (hs : s.shell.terminal.Connected) :
    ∃ log closing s', s.run host i = (closing.ending, s') ∧ Course host i s log closing s' := by
  fun_induction Session.run host i s with
  | case1 s ending s₁ hstep =>
    -- the last step: an end without a request, or a turn that asked for the end
    rcases step_connected host i s hs with ⟨closing, s', hs', hc⟩ | ⟨e, s', hs', turn⟩
    · obtain ⟨he, rfl⟩ := Prod.mk.inj (hstep.symm.trans hs')
      cases he
      exact ⟨[], closing, _, rfl, hc⟩
    · obtain ⟨he, rfl⟩ := Prod.mk.inj (hstep.symm.trans hs')
      obtain ⟨action, ha, rfl⟩ := Option.map_eq_some_iff.1 he.symm
      exact ⟨[e], .asked action, _, rfl, .asked turn ha⟩
  | case2 s s₁ hstep ih =>
    -- a step that does not end the session is a turn that did not ask for it
    rcases step_connected host i s hs with ⟨closing, s', hs', hc⟩ | ⟨e, s', hs', turn⟩
    · obtain ⟨he, -⟩ := Prod.mk.inj (hstep.symm.trans hs')
      cases he
    · obtain ⟨he, rfl⟩ := Prod.mk.inj (hstep.symm.trans hs')
      obtain ⟨log, closing, s'', hrun, hc⟩ := ih turn.connected
      exact ⟨e :: log, closing, s'', hrun, .goOn turn (Option.map_eq_none_iff.1 he.symm) hc⟩

/-- **Every session has a course.** On a connection that takes what is sent, a session takes turns
in the order in which the requests come off its inbox and ends as its course does; what it sent is
the responses, each with its own sentinel at its end, and the notice of a refusal. If no request has
a sentinel and no program writes one, there are no other sentinels in what was sent. -/
theorem run_course (host : Host σ) (i : Interpreter) (s : Session σ)
    (hs : s.shell.terminal.Connected) :
    ∃ log closing s', s.run host i = (closing.ending, s') ∧ Course host i s log closing s' ∧
      s'.shell.terminal.output.taken = s.shell.terminal.output.taken ++
        (log.flatMap Exchange.response ++ closing.notice) ∧
      (host.Writes (· ≠ Wire.sentinel) → (∀ e ∈ log, Wire.sentinelChar ∉ e.request) →
        (log.flatMap Exchange.response ++ closing.notice).count Wire.sentinel =
          log.length + closing.notices) := by
  obtain ⟨log, closing, s', hrun, hc⟩ := exists_course host i s hs
  refine ⟨log, closing, s', hrun, hc, hc.taken_eq, fun hw hr => ?_⟩
  rw [List.count_append, count_responses (hc.sentinel_not_mem hs hw hr), closing.count_notice]

/-- A session that has received a control word and more behind it. -/
def quitting : Session Unit where
  shell := { context := Context.inDirectory ['/'], world := ⟨(), 0⟩, terminal := {} }
  pending := Utf8.encode exitWord.toList ++ Wire.terminator :: [114, 99, 0]

/-- What stands behind a control word is not answered. -/
theorem run_quitting :
    quitting.shell.terminal.Connected ∧ ∃ s', quitting.run Host.plain {} = (.exitSession, s') ∧
      s'.shell.terminal.output.taken.count Wire.sentinel = 1 := by
  have hs : quitting.shell.terminal.Connected := ⟨rfl, rfl, rfl⟩
  refine ⟨hs, ?_⟩
  obtain ⟨log, closing, s', hrun, hc, ht, hcount⟩ := run_course Host.plain {} quitting hs
  have hbox : quitting.inbox.Carries
      (Utf8.encode exitWord.toList ++ Wire.terminator :: [114, 99, 0]) :=
    ⟨List.append_nil _, by decide, rfl⟩
  have hfit : (Utf8.encode exitWord.toList).length < 65536 := by decide
  obtain ⟨after, hnext, -⟩ := Wire.Inbox.next_of_encoded hbox (by decide) hfit
  -- the first turn is about the word, and asks for the end
  have hfirst : ∀ {e s₁}, Turn Host.plain {} quitting e s₁ →
      e.request = exitWord.toList ∧ e.result.action? = some .exitSession := by
    intro e s₁ ⟨box, h, ⟨_, _, hout, _⟩, _⟩
    rw [hnext] at h
    have hreq : e.request = exitWord.toList := by
      injection h with h _
      injection h with h
      exact (Option.some.inj h).symm
    exact ⟨hreq, hout.action?_of_word (by rw [hreq]; decide)⟩
  cases hc with
  | left h => rw [hnext] at h; cases h
  | broken h => rw [hnext] at h; cases h
  | refused h hsink => rw [hnext] at h; cases h
  | asked turn h =>
    obtain ⟨hreq, ha⟩ := hfirst turn
    obtain rfl := Option.some.inj (ha.symm.trans h)
    refine ⟨s', hrun, ?_⟩
    rw [ht, List.count_append, hcount Host.plain_writes ?_]
    · rfl
    · intro e he
      rw [List.mem_singleton.1 he, hreq]
      decide
  | goOn turn h rest =>
    rw [(hfirst turn).2] at h
    cases h

end PipeShell.Session
