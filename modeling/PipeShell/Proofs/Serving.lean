import PipeShell.Conversation
import PipeShell.Proofs.Course
import PipeShell.Proofs.Responses

/-!
# A session at the far end of a connection

A client sends frames, and a session answers the lines in them. The frames may arrive in any
portions: what counts is that the inbox carries their bytes (`Wire.Inbox.Carries`). The session then
takes one turn for each line until a turn asks for the end (`Session.catchUp_frames`). A single line
is answered without assumptions on programs (`Session.catchUp_frame`); in a row of lines none may
read the connection, or it would take the lines behind it.

While a session waits, processes that programs have left behind may write to its connection. They
are told of by the bytes they write (`Host.LingersOver`, `Host.LeavesNoWriter`).

`Peer.Serves` says what a client can rely on, whoever carries the bytes. When the session is over
that is little: what is sent may be refused, and reading may fail. It holds of a session whose bytes
arrive at once (`FarSession.peer_serves`) and of one behind a route that divides the bytes of both
directions in any way (`Route.peer_serves`).
-/

set_option autoImplicit false

namespace PipeShell

variable {σ : Type} {host : Host σ} {i : Interpreter}

/-! ## Frames -/

namespace Wire

/-- A line as it is sent. -/
def frame (line : Text) : Bytes := Utf8.encode line ++ [terminator]

/-- The line can be sent as one request of at most `max` bytes. -/
structure Fits (max : Nat) (line : Text) : Prop where
  no_terminator : '\x00' ∉ line
  length_lt : (Utf8.encode line).length < max

instance (max : Nat) (line : Text) : Decidable (Fits max line) :=
  decidable_of_iff ('\x00' ∉ line ∧ (Utf8.encode line).length < max)
    ⟨fun h => ⟨h.1, h.2⟩, fun h => ⟨h.1, h.2⟩⟩

/-- The first of the frames that an inbox carries is the next request. -/
theorem Inbox.next_of_frame {max : Nat} {box : Inbox} {line : Text} {rest : Bytes}
    (h : box.Carries (frame line ++ rest)) (hf : Fits max line) :
    ∃ after, box.next max = (.ok (some line), after) ∧ after.Carries rest := by
  rw [frame, List.append_assoc, List.singleton_append] at h
  exact next_of_encoded h hf.no_terminator hf.length_lt

end Wire

/-! ## Input that is used up -/

/-- Nothing can be skipped of a source without bytes. -/
theorem Source.Divides.skip {s : Source} (h : s.Divides []) (n : Nat) :
    (Source.skip n s).Divides [] := by
  fun_induction Source.skip n s with
  | case1 s => exact h
  | case2 n => exact h
  | case3 n f rest ih =>
    obtain ⟨-, hfill, hfaults⟩ := cons_cases h.filled h.faults_eq
    exact ih ⟨h.bytes_eq, hfill, hfaults⟩
  | case4 n bs rest hle ih =>
    obtain ⟨-, hfill, hfaults⟩ := cons_cases h.filled h.faults_eq
    exact ih ⟨(List.append_eq_nil_iff.1 h.bytes_eq).2, hfill, hfaults⟩
  | case5 n bs rest hle =>
    rw [(List.append_eq_nil_iff.1 h.bytes_eq).1] at hle
    exact absurd (Nat.zero_le _) hle

/-- An exchange leaves nothing of an input in which nothing is left. -/
theorem Exchange.Takes.input_divides {e : Exchange} {s s' : Shell σ} (h : e.Takes host i s s')
    (hs : s.terminal.input.Divides []) : s'.terminal.input.Divides [] := by
  have hR : Terminal.Allows host (fun _ => True)
      fun t u => t.input.Divides [] → u.input.Divides [] :=
    { ample := fun _ _ => trivial
      refl := fun _ => id
      trans := fun h₁ h₂ => h₂ ∘ h₁
      say := fun _ _ _ => id
      report := fun t text _ ht => by rwa [t.report_input]
      undergo := fun t process system ht => by
        rw [Terminal.undergo_input]
        exact ht.skip _ }
  obtain ⟨carried, -, hc, -, -, rfl, -⟩ := h
  generalize e.result = result at hc
  cases hc with
  | word hword => exact hs
  | line hword he =>
    have hline : Text.Over (fun _ => True) (Wire.stripNewline e.request) := fun _ _ => trivial
    have hin := i.execute_allows hR hline s hs
    rwa [he] at hin

namespace Session

/-! ## Answering frames -/

/-- A session that has received a frame is ready, and one that has received nothing is not. -/
theorem isReady_of_frame {s : Session σ} {line : Text} {rest : Bytes}
    (h : s.inbox.Carries (Wire.frame line ++ rest)) : s.isReady i = true := by
  have harrived : s.pending ++ s.shell.terminal.input.bytes = Wire.frame line ++ rest :=
    h.unreturned_eq
  have hmem : Wire.terminator ∈ Wire.frame line ++ rest :=
    List.mem_append_left _ (List.mem_append_right _ (List.mem_singleton_self _))
  cases hc : Bytes.cutAt Wire.terminator (Wire.frame line ++ rest) with
  | none => exact absurd hmem (Bytes.cutAt_eq_none_iff.1 hc)
  | some parts => simp only [isReady, harrived, hc, Option.isSome_some, Bool.true_or]

theorem isReady_of_nil {s : Session σ} (h : s.inbox.Carries [])
    (hpos : 0 < i.limits.requestLength) : s.isReady i = false := by
  have harrived : s.pending ++ s.shell.terminal.input.bytes = [] := h.unreturned_eq
  have hlt : ¬ i.limits.requestLength ≤ 0 := by omega
  simp only [isReady, harrived, Bytes.cutAt, Option.isSome_none, List.length_nil, hlt, decide_false,
    Bool.or_self]

/-- The turn that the first frame brings about. -/
theorem step_of_frame {s : Session σ} {line : Text} {rest : Bytes} (host : Host σ)
    (hs : s.shell.terminal.Connected) (h : s.inbox.Carries (Wire.frame line ++ rest))
    (hf : Wire.Fits i.limits.requestLength line) :
    ∃ e s' box, s.step host i = (e.ending?, s') ∧ Turn host i s e s' ∧ e.request = line ∧
      Wire.Inbox.next i.limits.requestLength s.inbox = (.ok (some line), box) ∧
      box.Carries rest := by
  obtain ⟨box, hnext, hbox⟩ := Wire.Inbox.next_of_frame h hf
  obtain ⟨e, s', hstep, turn, hreq⟩ := step_of_request host i hs hnext
  exact ⟨e, s', box, hstep, turn, hreq, hnext, hbox⟩

/-- After the turn on the last frame nothing is left. -/
theorem Turn.carries_nil {s s' : Session σ} {e : Exchange} {request : Text} {box : Wire.Inbox}
    (h : Turn host i s e s')
    (hnext : Wire.Inbox.next i.limits.requestLength s.inbox = (.ok (some request), box))
    (hbox : box.Carries []) : s'.inbox.Carries [] := by
  obtain ⟨box', hnext', htakes, hp⟩ := h
  obtain ⟨-, rfl⟩ := Prod.mk.inj (hnext'.symm.trans hnext)
  obtain ⟨hpend, hsrc⟩ := List.append_eq_nil_iff.1 hbox.unreturned_eq
  obtain ⟨hb, hfill, hfaults⟩ :=
    htakes.input_divides (s := (s.withInbox box').shell) ⟨hsrc, hbox.filled, hbox.faults_eq⟩
  refine ⟨?_, hfill, hfaults⟩
  rw [Wire.Inbox.unreturned, inbox, hp, hpend, hb, List.append_nil]

end Session

/-! ## Processes that were left behind -/

/-- Processes that were left behind write only bytes of the class. -/
def Host.LingersOver (host : Host σ) (q : UInt8 → Prop) : Prop :=
  ∀ t system, ∀ w ∈ (host.linger t system).1.wrote, ∀ b ∈ w.2, q b

/-- No program leaves a process behind that writes to the terminal. -/
def Host.LeavesNoWriter (host : Host σ) : Prop := host.LingersOver fun _ => False

theorem Host.lingersOver_true (host : Host σ) : host.LingersOver fun _ => True :=
  fun _ _ _ _ _ _ => trivial

namespace FarSession

variable {q : UInt8 → Prop} {far : FarSession σ}

/-- The connection of a far end. -/
def connection (far : FarSession σ) : Terminal := far.session.shell.terminal

@[simp] theorem linger_ending (host : Host σ) (far : FarSession σ) :
    (far.linger host).ending = far.ending := rfl

/-- What is written while a session waits is added to what was sent. -/
theorem linger_adds (hl : host.LingersOver q) (far : FarSession σ) :
    Terminal.Adds q far.connection (far.linger host).connection := fun hc =>
  Terminal.adds_writes _ (hl _ _) { far.connection with input := far.connection.input.skip _ }
    ⟨hc.error_eq, hc.output_open⟩

theorem linger_connected (hc : far.connection.Connected) : (far.linger host).connection.Connected :=
  (linger_adds host.lingersOver_true far hc).1

/-- What was sent stays the first part of what is sent, and the rest is what such processes write.
-/
theorem exists_late (host : Host σ) (hc : far.connection.Connected) :
    ∃ late, (far.linger host).sent = far.sent ++ late ∧
      ∀ q, host.LingersOver q → ∀ b ∈ late, q b := by
  obtain ⟨-, late, hlate, -⟩ := linger_adds host.lingersOver_true far hc
  refine ⟨late, hlate, fun q hl => ?_⟩
  obtain ⟨-, bs, hbs, hq⟩ := linger_adds hl far hc
  obtain rfl := List.append_cancel_left (hlate.symm.trans hbs)
  exact hq

/-- Without such processes nothing is sent while a session waits. -/
theorem sent_linger (hl : host.LeavesNoWriter) (hc : far.connection.Connected) :
    (far.linger host).sent = far.sent := by
  obtain ⟨late, hsent, hlate⟩ := exists_late host hc
  obtain rfl := List.eq_nil_iff_forall_not_mem.2 (hlate _ hl)
  exact hsent.trans (List.append_nil _)

theorem goOn_of_catchUp {s s' : Session σ} {box : Wire.Inbox} {ending : Option SessionEnd}
    (h : (s.withInbox box).catchUp host i = (ending, s')) :
    goOn host i box ⟨s, none⟩ = linger host ⟨s', ending⟩ := by
  simp only [goOn, h]

theorem goOn_over {e : SessionEnd} (h : far.ending = some e) (box : Wire.Inbox) :
    far.goOn host i box = far.linger host := by
  simp only [goOn, h]

end FarSession

/-! ## Conversations seen from the far end -/

/-- A far end takes turns until a turn has ended the session. In between bytes arrive, and processes
that were left behind do what they do. -/
inductive FarSession.Talks (host : Host σ) (i : Interpreter) :
    FarSession σ → List Exchange → FarSession σ → Prop
  | rest (far : FarSession σ) : Talks host i far [] far
  | arrival {s : Session σ} {box : Wire.Inbox} {bs : Bytes} {log : List Exchange}
      {far' : FarSession σ} (h : box.unreturned = s.inbox.unreturned ++ bs)
      (more : Talks host i ⟨s.withInbox box, none⟩ log far') : Talks host i ⟨s, none⟩ log far'
  | turn {s s' : Session σ} {e : Exchange} {log : List Exchange} {far' : FarSession σ}
      (h : Session.Turn host i s e s') (more : Talks host i ⟨s', e.ending?⟩ log far') :
      Talks host i ⟨s, none⟩ (e :: log) far'
  | linger {far far' : FarSession σ} {log : List Exchange}
      (more : Talks host i (far.linger host) log far') : Talks host i far log far'

namespace FarSession.Talks

variable {far far' far'' : FarSession σ} {log more : List Exchange}

theorem append (h : Talks host i far log far') (h' : Talks host i far' more far'') :
    Talks host i far (log ++ more) far'' := by
  induction h with
  | rest far => exact h'
  | arrival hb _ ih => exact .arrival hb (ih h')
  | turn turn _ ih => exact .turn turn (ih h')
  | linger _ ih => exact .linger (ih h')

/-- What a far end has sent is the responses in order, if nobody else writes. -/
theorem sent_eq (h : Talks host i far log far') (hl : host.LeavesNoWriter)
    (hs : far.connection.Connected) : far'.sent = far.sent ++ log.flatMap Exchange.response := by
  induction h with
  | rest far => exact (List.append_nil _).symm
  | arrival hb _ ih => exact ih ⟨hs.error_eq, hs.output_open⟩
  | turn turn _ ih =>
    have htaken := turn.taken_eq
    rw [ih turn.connected, FarSession.sent, htaken, List.flatMap_cons, ← List.append_assoc]
    rfl
  | linger _ ih => rw [ih (linger_connected hs), sent_linger hl hs]

theorem connected (h : Talks host i far log far') (hs : far.connection.Connected) :
    far'.connection.Connected := by
  induction h with
  | rest far => exact hs
  | arrival hb _ ih => exact ih ⟨hs.error_eq, hs.output_open⟩
  | turn turn _ ih => exact ih turn.connected
  | linger _ ih => exact ih (linger_connected hs)

/-- No body has a sentinel, if no request has one and no program writes one. -/
theorem sentinel_not_mem (h : Talks host i far log far') (hs : far.connection.Connected)
    (hw : host.Writes (· ≠ Wire.sentinel)) (hr : ∀ e ∈ log, Wire.sentinelChar ∉ e.request) :
    ∀ e ∈ log, Wire.sentinel ∉ e.body := by
  induction h with
  | rest far => exact List.forall_mem_nil _
  | arrival hb _ ih => exact ih ⟨hs.error_eq, hs.output_open⟩ hr
  | turn turn _ ih =>
    obtain ⟨he, hlog⟩ := List.forall_mem_cons.1 hr
    exact List.forall_mem_cons.2 ⟨turn.sentinel_not_mem hs hw he, ih turn.connected hlog⟩
  | linger _ ih => exact ih (linger_connected hs) hr

/-- Every exchange is a request that was carried out on a connection. -/
theorem carriesOut (h : Talks host i far log far') (hs : far.connection.Connected) :
    ∀ e ∈ log, ∃ s s',
      Session.CarriesOut host i e.request s e.result s' ∧ s.terminal.Connected := by
  induction h with
  | rest far => exact List.forall_mem_nil _
  | arrival hb _ ih => exact ih ⟨hs.error_eq, hs.output_open⟩
  | turn turn _ ih =>
    have hlog := ih turn.connected
    obtain ⟨_, _, ⟨carried, _, hc, _⟩, _⟩ := turn
    exact List.forall_mem_cons.2 ⟨⟨_, carried, hc, hs.error_eq, hs.output_open⟩, hlog⟩
  | linger _ ih => exact ih (linger_connected hs)

/-- A session that is over talks no more, and stays over. -/
theorem stays_over {e : SessionEnd} (h : Talks host i far log far') (hfar : far.ending = some e) :
    log = [] ∧ far'.ending = some e := by
  induction h with
  | rest far => exact ⟨rfl, hfar⟩
  | arrival hb _ => cases hfar
  | turn turn _ => cases hfar
  | linger _ ih => exact ih hfar

/-- A session that was on is over exactly if the last exchange has ended it. -/
theorem ending_eq (h : Talks host i far log far') (hfar : far.ending = none) :
    far'.ending = log.getLast?.bind Exchange.ending? := by
  induction h with
  | rest far => exact hfar
  | arrival hb _ ih => exact ih rfl
  | @turn s s' first log far' turn more ih =>
    cases hend : first.ending? with
    | none =>
      rw [ih hend, List.getLast?_cons]
      cases log.getLast? with
      | none => exact hend.symm
      | some last => rfl
    | some e =>
      obtain ⟨rfl, hover⟩ := more.stays_over hend
      rw [hover]
      exact hend.symm
  | linger _ ih => exact ih hfar

/-- A session that was on and is over ended with the last exchange. -/
theorem exists_last {e : SessionEnd} (h : Talks host i far log far') (hfar : far.ending = none)
    (hfar' : far'.ending = some e) :
    ∃ front last, log = front ++ [last] ∧ last.ending? = some e := by
  rw [h.ending_eq hfar] at hfar'
  obtain ⟨last, hlast, hend⟩ := Option.bind_eq_some_iff.1 hfar'
  obtain ⟨front, rfl⟩ := List.getLast?_eq_some_iff.1 hlast
  exact ⟨front, last, rfl, hend⟩

end FarSession.Talks

namespace Session

/-- A session that waits: nothing has arrived that it has not answered. -/
structure Idle (s : Session σ) : Prop where
  connected : s.shell.terminal.Connected
  carries : s.inbox.Carries []

/-- A session that waits goes on to do so whatever was left behind. -/
theorem Idle.linger {s : Session σ} (h : s.Idle) (ending : Option SessionEnd) :
    (FarSession.linger host ⟨s, ending⟩).session.Idle where
  connected :=
    have hc : (FarSession.mk s ending).connection.Connected := h.connected
    FarSession.linger_connected hc
  carries := by
    obtain ⟨hpend, hsrc⟩ := List.append_eq_nil_iff.1 h.carries.unreturned_eq
    have hinput : (FarSession.linger host ⟨s, ending⟩).connection.input.Divides [] := by
      rw [FarSession.connection, FarSession.linger, Terminal.undergo_input]
      exact Source.Divides.skip ⟨hsrc, h.carries.filled, h.carries.faults_eq⟩ _
    refine ⟨?_, hinput.filled, hinput.faults_eq⟩
    change s.pending ++ (FarSession.linger host ⟨s, ending⟩).connection.input.bytes = []
    change s.pending = [] at hpend
    rw [hpend, hinput.bytes_eq, List.append_nil]

/-- **One frame.** A session answers a line that has arrived, and then waits or is over. -/
theorem catchUp_frame (host : Host σ) {s : Session σ} {line : Text}
    (hs : s.shell.terminal.Connected) (h : s.inbox.Carries (Wire.frame line))
    (hf : Wire.Fits i.limits.requestLength line) :
    ∃ e s', s.catchUp host i = (e.ending?, s') ∧ Turn host i s e s' ∧ e.request = line ∧
      s'.Idle := by
  rw [← List.append_nil (Wire.frame line)] at h
  obtain ⟨e, s', box, hstep, turn, hreq, hnext, hbox⟩ := step_of_frame host hs h hf
  have hnil := turn.carries_nil hnext hbox
  have hpos : 0 < i.limits.requestLength := by have := hf.length_lt; omega
  refine ⟨e, s', ?_, turn, hreq, turn.connected, hnil⟩
  rw [catchUp, if_pos (isReady_of_frame h)]
  split <;> rename_i he <;> rw [hstep] at he <;> obtain ⟨hend, rfl⟩ := Prod.mk.inj he
  · rw [hend]
  · rw [hend, catchUp, if_neg (by rw [isReady_of_nil hnil hpos]; exact Bool.false_ne_true)]

/-- **Frames in a row.** A session answers the lines that have arrived in order, up to the first
that ends it, if no program reads the connection. -/
theorem catchUp_frames (hq : host.LeavesInput) (hpos : 0 < i.limits.requestLength)
    {lines : List Text} {s : Session σ} (hs : s.shell.terminal.Connected)
    (h : s.inbox.Carries (lines.flatMap Wire.frame))
    (hf : ∀ line ∈ lines, Wire.Fits i.limits.requestLength line) :
    ∃ log unanswered ending s', s.catchUp host i = (ending, s') ∧
      FarSession.Talks host i ⟨s, none⟩ log ⟨s', ending⟩ ∧
      lines = log.map Exchange.request ++ unanswered ∧
      (ending = none → unanswered = [] ∧ s'.Idle) := by
  -- the inbox carries the frames of the lines that are left
  induction lines generalizing s with
  | nil =>
    refine ⟨[], [], none, s, ?_, .rest _, rfl, fun _ => ⟨rfl, hs, h⟩⟩
    rw [catchUp, if_neg (by rw [isReady_of_nil h hpos]; exact Bool.false_ne_true)]
  | cons line lines ih =>
    obtain ⟨hline, hlines⟩ := List.forall_mem_cons.1 hf
    rw [List.flatMap_cons] at h
    obtain ⟨e, s₁, box, hstep, turn, hreq, hnext, hbox⟩ := step_of_frame host hs h hline
    -- no program has taken anything of the frames behind the line
    have hinbox : s₁.inbox = box := by
      have := turn.inbox_eq hq
      rw [hnext] at this
      exact (Prod.mk.inj this).2.symm
    rw [catchUp, if_pos (isReady_of_frame h)]
    split <;> rename_i he <;> rw [hstep] at he <;> obtain ⟨hend, rfl⟩ := Prod.mk.inj he
    · refine ⟨[e], lines, _, s₁, rfl, .turn turn ?_, ?_,
        fun hn => absurd hn (Option.some_ne_none _)⟩
      · rw [hend]
        exact .rest _
      · rw [List.map_singleton, hreq, List.singleton_append]
    · obtain ⟨log, unanswered, ending, s', hcatch, talks, rfl, hidle⟩ :=
        ih turn.connected (hinbox ▸ hbox) hlines
      refine ⟨e :: log, unanswered, ending, s', hcatch, .turn turn ?_, ?_, hidle⟩
      · rw [hend]
        exact talks
      · rw [List.map_cons, hreq, List.cons_append]

end Session

/-! ## What carries the bytes -/

/-- A session serves at the far end, and whatever carries the bytes delivers all of them, in any
portions and in both directions. When the session is over, what is sent may be refused for any
reason, and nothing arrives any more but what processes write that were left behind. From then on
reading may fail, or find the end. -/
structure Peer.Serves (host : Host σ) (i : Interpreter) (peer : Peer (FarSession σ)) : Prop where
  cutOff_eq : ∀ s : Session σ, peer.cutOff ⟨s, none⟩ = none
  serving : ∀ (s : Session σ) (bs : Bytes), s.Idle →
    ∃ (box : Wire.Inbox) (source broken : Source) (far' : FarSession σ),
      box.Carries bs ∧ far' = FarSession.goOn host i box ⟨s, none⟩ ∧
      peer.receive bs ⟨s, none⟩ = (source ++ broken, far') ∧
      source.Divides (far'.sent.drop s.shell.terminal.output.taken.length) ∧
      broken.bytes = [] ∧ (far'.ending = none → broken = [])
  ended : ∀ (far : FarSession σ) (e : SessionEnd) (bs : Bytes), far.ending = some e →
    ∃ source, peer.receive bs far = (source, far.linger host) ∧
      source.bytes = (far.linger host).sent.drop far.sent.length

theorem Source.ofBytes_divides (bs : Bytes) : (Source.ofBytes bs).Divides bs := by
  obtain ⟨hb, hfill, hfaults⟩ := Source.unread_facts (s := []) (by decide) bs
  exact ⟨hb.trans (List.append_nil _), hfill, hfaults⟩

/-- A session to which every sending arrives at once. -/
theorem FarSession.peer_serves (host : Host σ) (i : Interpreter) :
    (FarSession.peer host i).Serves host i where
  cutOff_eq _ := rfl
  serving s bs hs := by
    obtain ⟨hpend, hsrc⟩ := List.append_eq_nil_iff.1 hs.carries.unreturned_eq
    refine ⟨⟨s.pending ++ bs, s.shell.terminal.input⟩, _, [], _,
      ⟨?_, hs.carries.filled, hs.carries.faults_eq⟩, rfl, ?_, Source.ofBytes_divides _, rfl,
      fun _ => rfl⟩
    · change s.pending = [] at hpend
      change Source.bytes s.shell.terminal.input = [] at hsrc
      rw [Wire.Inbox.unreturned, hpend, hsrc, List.nil_append, List.append_nil]
    · rw [List.append_nil]
      rfl
  ended far e bs hover :=
    ⟨_, by simp only [peer, receive, goOn_over hover], (Source.ofBytes_divides _).bytes_eq⟩

/-- How a connection carries bytes, there and back: in which portions, which may depend on how many
bytes the session has sent before, and what becomes of it when the session is over. -/
structure Route where
  there : Nat → Bytes → Source
  back : Nat → Bytes → Source
  there_divides : ∀ n bs, (there n bs).Divides bs
  back_divides : ∀ n bs, (back n bs).Divides bs
  /-- How many bytes are let through to a session that is over, and why no more are. -/
  cutOff : Option (Nat × Failure) := none
  /-- What reading meets behind the last byte of a session that is over. -/
  broken : Source := []
  broken_bytes : broken.bytes = [] := by rfl

namespace Route

variable (host : Host σ) (i : Interpreter) (route : Route)

/-- A session behind a route takes bytes, and sends the responses to all requests that have arrived
whole. -/
def receive (bs : Bytes) (far : FarSession σ) : Source × FarSession σ :=
  let after := far.goOn host i
    { pending := far.session.pending
      source := far.session.shell.terminal.input ++ route.there far.sent.length bs }
  (route.back far.sent.length (after.sent.drop far.sent.length) ++
    (if after.ending.isSome then route.broken else []), after)

/-- A session behind a route, as the far end of a client's connection. -/
def peer : Peer (FarSession σ) where
  receive := receive host i route
  cutOff far := far.ending.bind fun _ => route.cutOff

theorem peer_serves : (peer host i route).Serves host i where
  cutOff_eq _ := rfl
  serving s bs hs := by
    obtain ⟨hpend, hsrc⟩ := List.append_eq_nil_iff.1 hs.carries.unreturned_eq
    have harrive : (s.shell.terminal.input ++
        route.there s.shell.terminal.output.taken.length bs).Divides bs :=
      Source.Divides.append ⟨hsrc, hs.carries.filled, hs.carries.faults_eq⟩
        (route.there_divides _ bs)
    refine ⟨⟨s.pending, _⟩, _, _, _, ⟨?_, harrive.filled, harrive.faults_eq⟩, rfl, rfl,
      route.back_divides _ _, ?_, fun hon => ?_⟩
    · change s.pending = [] at hpend
      rw [Wire.Inbox.unreturned, hpend, List.nil_append, harrive.bytes_eq]
    · split
      · exact route.broken_bytes
      · rfl
    · exact if_neg fun hover => absurd hon (Option.isSome_iff_ne_none.1 hover)
  ended far e bs hover := by
    refine ⟨route.back far.sent.length ((far.linger host).sent.drop far.sent.length) ++
      (if (far.linger host).ending.isSome then route.broken else []), ?_, ?_⟩
    · simp only [peer, receive, FarSession.goOn_over hover]
    rw [Source.bytes_append, (route.back_divides _ _).bytes_eq]
    split
    · rw [route.broken_bytes, List.append_nil]
    · exact List.append_nil _

/-- The bytes one by one, each behind an interrupted read. -/
def bytewise : Bytes → Source
  | [] => []
  | b :: bs => .fault .interrupted :: .piece [b] :: bytewise bs

theorem bytewise_divides (bs : Bytes) : (bytewise bs).Divides bs := by
  induction bs with
  | nil => exact ⟨rfl, by decide, rfl⟩
  | cons b bs ih =>
    have hb : (Arrival.piece [b]) ≠ .piece [] := fun h => nomatch h
    have hf : (Arrival.fault .interrupted) ≠ .piece [] := fun h => nomatch h
    refine ⟨?_, Source.filled_cons.2 ⟨hf, Source.filled_cons.2 ⟨hb, ih.filled⟩⟩, ih.faults_eq⟩
    simp only [bytewise, Source.bytes, ih.bytes_eq, List.singleton_append]

/-- A route on which bytes arrive one by one in both directions. -/
def ofBytewise : Route where
  there _ := bytewise
  back _ := bytewise
  there_divides _ := bytewise_divides
  back_divides _ := bytewise_divides

end Route

end PipeShell
