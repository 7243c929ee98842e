import PipeShell.Proofs.Asking
import PipeShell.Proofs.Conversation
import PipeShell.Shell.Remote

/-!
# Where a remote shell and its session part

A remote shell stops behind a line that is a control word. Its session ends on a line that asks for
the end, in whatever spelling. Over the lines of a script the two therefore go on together until the
script ends, until a control word stops both, or until a line that is no control word ends the
session alone (`RemoteShell.Parting`). In the last case the shell sends its next line to a session
that is over. It fails to send it or to get a response, in whatever way the connection has it,
unless a response is left over, which takes programs or lines with sentinels
(`RemoteShell.Orphaned`).

Main statement: every run over a script of lines that fit into a request parts in one of these ways
(`RemoteShell.run_parts`). Nothing is assumed about programs, or about what becomes of a connection
whose session is over. A script on which the shell is left alone is `run_abandoned`.
-/

set_option autoImplicit false

namespace PipeShell

variable {σ : Type} {host : Host σ} {i : Interpreter} {peer : Peer (FarSession σ)}

/-! ## Scripts -/

/-- The lines that a reader hands out before it comes to its end. -/
inductive Lines.Yields : Lines → List Text → Prop
  | done {r r' : Lines} (h : r.next = (.ok none, r')) : Yields r []
  | line {r r' : Lines} {line : Text} {lines : List Text} (h : r.next = (.ok (some line), r'))
      (more : Yields r' lines) : Yields r (line :: lines)

/-- A reader that holds lines with their newlines hands out the lines. -/
theorem Lines.yields_of_held {lines : List Text}
    (h : ∀ line ∈ lines, '\n' ∉ line ∧ (Utf8.encode line).getLast? ≠ some 13) :
    Yields ⟨lines.flatMap fun line => Utf8.encode line ++ [newline], []⟩ lines := by
  induction lines with
  | nil => exact .done (by rw [next]; rfl)
  | cons line lines ih =>
    obtain ⟨⟨hn, hr⟩, hlines⟩ := List.forall_mem_cons.1 h
    have hnl : newline ∉ Utf8.encode line := by
      rw [Utf8.mem_encode_iff (by decide)]
      exact hn
    refine .line ?_ (ih hlines)
    rw [next, List.flatMap_cons, List.append_assoc, List.singleton_append, Bytes.cutAt_append hnl]
    simp only [unterminated, if_neg hr, decode, Utf8.decode?_encode]

/-! ## One line -/

/-- No sentinel reaches a client but those that close the responses: no program writes one, nor a
process that was left behind, and no line of the script has one. -/
structure Clean (host : Host σ) (script : List Text) : Prop where
  writes : host.Writes (· ≠ Wire.sentinel)
  lingers : host.LingersOver (· ≠ Wire.sentinel)
  lines : ∀ line ∈ script, Wire.sentinelChar ∉ line

namespace Client

/-- Between lines: where things are clean no response is left over, and if the session is on, lines
are taken and it waits. Bytes may be left over. -/
structure Owed (clean : Prop) (c : Client (FarSession σ)) : Prop where
  sentinel_not_mem : clean → Wire.sentinel ∉ c.incoming.bytes
  connected : c.peer.connection.Connected
  outgoing_open : c.peer.ending = none → c.outgoing.Open
  incoming_divides : c.peer.ending = none → c.incoming.Divides c.incoming.bytes
  idle : c.peer.ending = none → c.peer.session.Idle

theorem Ready.owed {c : Client (FarSession σ)} (h : c.Ready) (clean : Prop) : c.Owed clean where
  sentinel_not_mem _ := by
    rw [h.incoming_divides.bytes_eq]
    exact List.not_mem_nil
  connected := h.idle.connected
  outgoing_open _ := h.outgoing_open
  incoming_divides _ := ⟨rfl, h.incoming_divides.filled, h.incoming_divides.faults_eq⟩
  idle _ := h.idle

/-- A session that is on answers a line. What arrives is the response, and behind it what processes
write that were left behind. -/
theorem request_on (hp : peer.Serves host i) {line : Text}
    (hf : Wire.Fits i.limits.requestLength line) {clean : Prop} {c : Client (FarSession σ)}
    (hc : c.Owed clean) (hon : c.peer.ending = none) :
    ∃ e late source broken c', c.request peer line = (.ok (), c') ∧ e.request = line ∧
      FarSession.Talks host i c.peer [e] c'.peer ∧ c'.peer.ending = e.ending? ∧
      c'.incoming = c.incoming ++ source ++ broken ∧ source.Divides (e.response ++ late) ∧
      (∀ q, host.LingersOver q → ∀ b ∈ late, q b) ∧ broken.bytes = [] ∧ c'.outgoing.Open ∧
      (c'.peer.ending = none → broken = [] ∧ c'.peer.session.Idle) := by
  obtain ⟨outgoing, hsend, hout, htaken⟩ := sendRequest_open (hc.outgoing_open hon) line
  obtain ⟨incoming, outgoing₀, ⟨s, ending₀⟩⟩ := c
  obtain rfl : ending₀ = none := hon
  have hidle : s.Idle := hc.idle rfl
  obtain ⟨box, source, broken, far', hbox, hfar, hreceive, hsource, hnone, hbroken⟩ :=
    hp.serving s (Wire.frame line) hidle
  have hcon : (s.withInbox box).shell.terminal.Connected :=
    ⟨hidle.connected.error_eq, hidle.connected.output_open⟩
  obtain ⟨e, s', hcatch, turn, hreq, hafter⟩ := Session.catchUp_frame host hcon hbox hf
  rw [FarSession.goOn_of_catchUp hcatch] at hfar
  have hconnected : (FarSession.mk s' e.ending?).connection.Connected := turn.connected
  obtain ⟨late, hlate, hlingers⟩ := FarSession.exists_late host hconnected
  have hsent : outgoing.taken.drop outgoing₀.taken.length = Wire.frame line := by
    rw [htaken]
    exact List.drop_left
  have hback : far'.sent.drop s.shell.terminal.output.taken.length = e.response ++ late := by
    have hresponse : s'.shell.terminal.output.taken =
        s.shell.terminal.output.taken ++ e.response := turn.taken_eq
    rw [hfar, hlate, FarSession.sent, hresponse, List.append_assoc]
    exact List.drop_left
  have harrived : box.unreturned = s.inbox.unreturned ++ Wire.frame line := by
    rw [hbox.unreturned_eq, hidle.carries.unreturned_eq, List.nil_append]
  refine ⟨e, late, source, broken, ⟨incoming ++ (source ++ broken), outgoing, far'⟩, ?_, hreq,
    .arrival harrived (.turn turn ?_), by rw [hfar]; rfl, (List.append_assoc _ _ _).symm,
    hback ▸ hsource, hlingers, hnone, hout, fun hn => ⟨hbroken hn, hfar ▸ hafter.linger _⟩⟩
  · simp only [request, outlet, hp.cutOff_eq, hsend, hsent, hreceive]
  · rw [hfar]
    exact .linger (.rest _)

/-- Of what has arrived one response is read. -/
theorem execute_on (hp : peer.Serves host i) {script : List Text} {line : Text}
    (hmem : line ∈ script) (hf : Wire.Fits i.limits.requestLength line)
    {c : Client (FarSession σ)} (hc : c.Owed (Clean host script)) (hon : c.peer.ending = none)
    {out : Sink} (ho : out.Open) :
    ∃ e c' out', c.execute peer line out = (.ok (), c', out') ∧ e.request = line ∧
      FarSession.Talks host i c.peer [e] c'.peer ∧ c'.peer.ending = e.ending? ∧
      c'.Owed (Clean host script) ∧ out'.Open := by
  obtain ⟨e, late, source, broken, c₁, hreq, hline, talks, hend, hin, hsource, hlate, hnone, hout,
    hafter⟩ := request_on hp hf hc hon
  have harrived := (hc.incoming_divides hon).append hsource
  -- the sentinel that closes the response is there to be read, and perhaps others in front of it
  have hmany : Wire.sentinel ∈ c.incoming.bytes ++ (e.response ++ late) :=
    List.mem_append_right _ (List.mem_append_left _ (List.mem_append_right _
      (List.mem_singleton_self _)))
  obtain ⟨text, rest, hall, htext⟩ := List.eq_append_cons_of_mem hmany
  obtain ⟨after, out', hread, hafter', hout', -⟩ := Wire.readResponse_of_divided
    harrived.filled harrived.faults_eq (harrived.bytes_eq.trans hall) htext ho
  have hread' := Wire.readResponse_append hread broken
  rw [← hin] at hread'
  have hbytes : (after ++ broken).bytes = rest := by
    rw [Source.bytes_append, hafter'.bytes_eq, hnone, List.append_nil]
  refine ⟨e, { c₁ with incoming := after ++ broken }, out', ?_, hline, talks, hend, ?_, hout'⟩
  · simp only [execute, hreq, response, hread']
  refine ⟨fun hclean => ?_, talks.connected hc.connected, fun _ => hout, fun hn => ?_,
    fun hn => (hafter hn).2⟩
  · -- where things are clean there is one sentinel, and what processes have written is left over
    rw [hbytes]
    have hbody : Wire.sentinel ∉ e.body := by
      refine talks.sentinel_not_mem hc.connected hclean.writes ?_ e (List.mem_singleton_self e)
      rintro e' he'
      rw [List.mem_singleton.1 he', hline]
      exact hclean.lines line hmem
    have hfront : Wire.sentinel ∉ c.incoming.bytes ++ e.body := fun hm =>
      (List.mem_append.1 hm).elim (hc.sentinel_not_mem hclean) hbody
    have hsplit : c.incoming.bytes ++ (e.response ++ late) =
        c.incoming.bytes ++ e.body ++ Wire.sentinel :: late := by
      simp only [Exchange.response, List.append_assoc, List.singleton_append]
    have hcut := Bytes.cutAt_append hfront late
    rw [← hsplit, hall, Bytes.cutAt_append htext] at hcut
    obtain ⟨-, rfl⟩ := Prod.mk.inj (Option.some.inj hcut)
    exact fun hm => hlate _ hclean.lingers _ hm rfl
  · obtain ⟨rfl, -⟩ := hafter hn
    rw [hbytes, List.append_nil]
    exact hafter'

/-- A client whose session is over may fail in any way. It reads a response only if one is left
over. -/
theorem execute_over (hp : peer.Serves host i) {script : List Text} (line : Text)
    {c : Client (FarSession σ)} (hc : c.Owed (Clean host script)) {e : SessionEnd}
    (hover : c.peer.ending = some e) {out : Sink} (ho : out.Open) :
    ∃ result c' out', c.execute peer line out = (result, c', out') ∧
      c'.peer = c.peer.linger host ∧ c'.Owed (Clean host script) ∧ out'.Open ∧
      (result = .ok () → ¬ Clean host script) := by
  obtain ⟨incoming, outgoing₀, far⟩ := c
  have hnot : (far.linger host).ending ≠ none := by
    rw [FarSession.linger_ending]
    exact fun hn => Option.some_ne_none e (hover.symm.trans hn)
  obtain ⟨sent, outgoing, hsend⟩ : ∃ sent outgoing,
      Wire.sendRequest line (outlet peer ⟨incoming, outgoing₀, far⟩) = (sent, outgoing) :=
    ⟨_, _, rfl⟩
  obtain ⟨source, hreceive, hsource⟩ :=
    hp.ended far e (outgoing.taken.drop outgoing₀.taken.length) hover
  obtain ⟨late, hlate, hlingers⟩ := FarSession.exists_late host hc.connected
  rw [hlate, List.drop_left] at hsource
  have hclean : Clean host script → Wire.sentinel ∉ (incoming ++ source).bytes := by
    intro hclean hm
    rw [Source.bytes_append, hsource] at hm
    exact (List.mem_append.1 hm).elim (hc.sentinel_not_mem hclean)
      fun hm => hlingers _ hclean.lingers _ hm rfl
  have hconnected : (far.linger host).connection.Connected :=
    FarSession.linger_connected hc.connected
  have hreq : request peer line ⟨incoming, outgoing₀, far⟩ =
      (sent, ⟨incoming ++ source, outgoing, far.linger host⟩) := by
    simp only [request, hsend, hreceive]
  have howed : ∀ rest : Source, (Clean host script → Wire.sentinel ∉ rest.bytes) →
      (⟨rest, outgoing, far.linger host⟩ : Client (FarSession σ)).Owed (Clean host script) :=
    fun rest hrest => ⟨hrest, hconnected, fun hn => absurd hn hnot, fun hn => absurd hn hnot,
      fun hn => absurd hn hnot⟩
  have hfailed : ∀ f : ClientError,
      (.error f : Except ClientError Unit) = .ok () → ¬ Clean host script := by
    intro f h
    cases h
  cases sent with
  | error f =>
    exact ⟨.error (.send f), ⟨incoming ++ source, outgoing, far.linger host⟩, out,
      by simp only [execute, hreq], rfl, howed _ hclean, ho, hfailed _⟩
  | ok _ =>
    obtain ⟨read, rest, out', front, hread, hout', hbytes, hreached⟩ :=
      Wire.readResponse_open (incoming ++ source) ho
    have hrest : Clean host script → Wire.sentinel ∉ rest.bytes := by
      intro hcl hm
      exact hclean hcl (hbytes ▸ List.mem_append_right _ hm)
    rcases read with f | _ | _
    · exact ⟨.error (.receive f), ⟨rest, outgoing, far.linger host⟩, out',
        by simp only [execute, hreq, response, hread], rfl, howed rest hrest, hout',
        hfailed _⟩
    · exact ⟨.error .closed, ⟨rest, outgoing, far.linger host⟩, out',
        by simp only [execute, hreq, response, hread], rfl, howed rest hrest, hout',
        hfailed _⟩
    · exact ⟨.ok (), ⟨rest, outgoing, far.linger host⟩, out',
        by simp only [execute, hreq, response, hread], rfl, howed rest hrest, hout',
        fun _ hcl => hclean hcl (hreached rfl)⟩

end Client

namespace RemoteShell

/-! ## One prompt -/

/-- Where a line is read, it is carried out. -/
theorem step_of_line (peer : Peer (FarSession σ)) {s : State (FarSession σ)} (ho : s.out.Open)
    {line : Text} {lines : Lines} (h : s.lines.next = (.ok (some line), lines)) :
    ∃ out, out.Open ∧ step peer s = carryOut peer line { s with out, lines } := by
  obtain ⟨out, hsend, hout, -⟩ := Sink.send_open ho [Utf8.encode prompt.toList]
  refine ⟨out, hout, ?_⟩
  simp only [step, hsend, h]

/-- Where the script ends, the shell stops. -/
theorem run_of_end (peer : Peer (FarSession σ)) {s : State (FarSession σ)} (ho : s.out.Open)
    {lines : Lines} (h : s.lines.next = (.ok none, lines)) :
    ∃ s', run peer s = (.ok (), s') ∧ s'.client = s.client := by
  obtain ⟨out, hsend, hout, -⟩ := Sink.send_open ho [Utf8.encode prompt.toList]
  obtain ⟨out', hnl, -, -⟩ := Sink.deliver_open hout [Lines.newline]
  have hstep : step peer s = (.ok true, { s with out := out', lines }) := by
    simp only [step, hsend, h, hnl]
  refine ⟨{ s with out := out', lines }, ?_, rfl⟩
  rw [run]
  split <;> rename_i hs <;> rw [hstep] at hs <;> cases hs
  rfl

/-- Where a line is read, the shell stops if it was not answered or was a control word, and else
goes on. -/
theorem run_of_line (peer : Peer (FarSession σ)) {s : State (FarSession σ)} (ho : s.out.Open)
    {line : Text} {lines : Lines} (h : s.lines.next = (.ok (some line), lines)) :
    ∃ out, out.Open ∧ run peer s =
      match s.client.execute peer line out with
      | (.error e, client, out) => (.error (.client e), { client, lines, out })
      | (.ok (), client, out) =>
        if (ControlAction.ofWord? line).isSome then (.ok (), { client, lines, out })
        else run peer { client, lines, out } := by
  obtain ⟨out, hout, hstep⟩ := step_of_line peer ho h
  refine ⟨out, hout, ?_⟩
  rw [run]
  rcases hexec : s.client.execute peer line out with ⟨e | _, client, out'⟩
  · have hs' : step peer s = (.error (.client e), { client, lines, out := out' }) := by
      simp only [hstep, carryOut, hexec]
    split <;> rename_i hs <;> rw [hs'] at hs <;> cases hs
    rfl
  · have hs' : step peer s =
        (.ok (ControlAction.ofWord? line).isSome, { client, lines, out := out' }) := by
      simp only [hstep, carryOut, hexec]
    dsimp only
    split <;> rename_i hs <;> rw [hs'] at hs <;> obtain ⟨hw, rfl⟩ := Prod.mk.inj hs
    · cases hw
    · rw [if_pos (Except.ok.inj hw)]
    · rw [if_neg (by rw [Except.ok.inj hw]; exact Bool.false_ne_true)]

/-! ## The whole script -/

/-- What a shell comes to whose session is over. Its next line is not sent, or not answered. Only
where responses may be left over can it get one of them, behind which a control word stops it as
usual. -/
inductive Orphaned (stray : Prop) : List Text → Except Fault Unit → Prop
  /-- The script ends. -/
  | atEnd : Orphaned stray [] (.ok ())
  | refused {line : Text} {lines : List Text} (e : ClientError) :
    Orphaned stray (line :: lines) (.error (.client e))
  | stop {line : Text} {lines : List Text} (h : stray)
    (hw : (ControlAction.ofWord? line).isSome = true) : Orphaned stray (line :: lines) (.ok ())
  | goOn {line : Text} {lines : List Text} {result : Except Fault Unit} (h : stray)
    (hw : ControlAction.ofWord? line = none) (rest : Orphaned stray lines result) :
    Orphaned stray (line :: lines) result

/-- The result of a shell whose session is over. -/
theorem run_orphaned (hp : peer.Serves host i) {script lines : List Text}
    {s : State (FarSession σ)} (hy : s.lines.Yields lines) (ho : s.out.Open)
    (hc : s.client.Owed (Clean host script)) {e : SessionEnd}
    (hover : s.client.peer.ending = some e) :
    ∃ result s', run peer s = (result, s') ∧ Orphaned (¬ Clean host script) lines result ∧
      FarSession.Talks host i s.client.peer [] s'.client.peer := by
  induction lines generalizing s with
  | nil =>
    cases hy with
    | done h =>
      obtain ⟨s', hrun, hclient⟩ := run_of_end peer ho h
      exact ⟨_, s', hrun, .atEnd, hclient ▸ .rest _⟩
  | cons line lines ih =>
    cases hy with
    | line h more =>
      obtain ⟨out, hout, hrun⟩ := run_of_line peer ho h
      obtain ⟨result, c, out', hexec, hpeer, hc', hout', hstray⟩ :=
        Client.execute_over hp line hc hover hout
      have talks : FarSession.Talks host i s.client.peer [] c.peer := hpeer ▸ .linger (.rest _)
      rw [hexec] at hrun
      cases result with
      | error e => exact ⟨_, _, hrun, .refused e, talks⟩
      | ok _ =>
        have hunclean := hstray rfl
        dsimp only at hrun
        cases hw : ControlAction.ofWord? line with
        | some action =>
          rw [hw, Option.isSome_some, if_pos rfl] at hrun
          exact ⟨_, _, hrun, .stop hunclean (by rw [hw]; rfl), talks⟩
        | none =>
          rw [hw, Option.isSome_none, if_neg Bool.false_ne_true] at hrun
          obtain ⟨result, s', hs', horphaned, talks'⟩ :=
            ih (s := ⟨c, _, out'⟩) more hout' hc' (hpeer ▸ hover)
          exact ⟨result, s', hrun.trans hs', .goOn hunclean hw horphaned, talks.append talks'⟩

/-- How a shell and its session part, over the exchanges, the lines that no exchange is about, the
shell's result and its reader at the end. -/
inductive Parting (host : Host σ) (i : Interpreter) (stray : Prop) :
    List Exchange → List Text → Except Fault Unit → Lines → Prop
  /-- The script ends. -/
  | atEnd {reader : Lines} : Parting host i stray [] [] (.ok ()) reader
  /-- Both go on. If the session can have its output, the line is not one that is read as asking for
  the end. -/
  | goOn {e : Exchange} {log : List Exchange} {unread : List Text} {result : Except Fault Unit}
      {reader : Lines} (hw : ControlAction.ofWord? e.request = none)
      (ha : e.result.action? = none)
      (hno : host.Attaches → ∀ action, ¬ i.Asks (Wire.stripNewline e.request) action)
      (rest : Parting host i stray log unread result reader) :
      Parting host i stray (e :: log) unread result reader
  /-- Both stop, and the shell has read no further line. -/
  | together {e : Exchange} {action : ControlAction} {unread : List Text} {reader : Lines}
      (hw : ControlAction.ofWord? e.request = some action) (ha : e.result.action? = some action)
      (hr : reader.Yields unread) : Parting host i stray [e] unread (.ok ()) reader
  /-- The session ends on a line that is read as a command for it, and the shell goes on. -/
  | alone {e : Exchange} {action : ControlAction} {unread : List Text}
      {result : Except Fault Unit} {reader : Lines}
      (hw : ControlAction.ofWord? e.request = none) (ha : e.result.action? = some action)
      (hasks : i.Asks (Wire.stripNewline e.request) action)
      (after : Orphaned stray unread result) : Parting host i stray [e] unread result reader

/-- The run over the lines of a script that are left. -/
theorem run_owed (hp : peer.Serves host i) {script lines : List Text}
    (hscript : ∀ line ∈ lines, line ∈ script) {s : State (FarSession σ)}
    (hy : s.lines.Yields lines) (ho : s.out.Open) (hc : s.client.Owed (Clean host script))
    (hon : s.client.peer.ending = none)
    (hf : ∀ line ∈ lines, Wire.Fits i.limits.requestLength line) :
    ∃ log unread result s', run peer s = (result, s') ∧
      lines = log.map Exchange.request ++ unread ∧
      FarSession.Talks host i s.client.peer log s'.client.peer ∧
      Parting host i (¬ Clean host script) log unread result s'.lines := by
  induction lines generalizing s with
  | nil =>
    cases hy with
    | done h =>
      obtain ⟨s', hrun, hclient⟩ := run_of_end peer ho h
      exact ⟨[], [], _, s', hrun, rfl, hclient ▸ .rest _, .atEnd⟩
  | cons line lines ih =>
    obtain ⟨hline, hlines⟩ := List.forall_mem_cons.1 hf
    obtain ⟨hmem, hscript'⟩ := List.forall_mem_cons.1 hscript
    cases hy with
    | line h more =>
      obtain ⟨out, hout, hrun⟩ := run_of_line peer ho h
      obtain ⟨e, c, out', hexec, rfl, talks, hend, hc', hout'⟩ :=
        Client.execute_on hp hmem hline hc hon hout
      rw [hexec] at hrun
      dsimp only at hrun
      obtain ⟨s₀, s₁, hcarries, hcon⟩ :=
        talks.carriesOut hc.connected e (List.mem_singleton_self e)
      cases ha : e.result.action? with
      | none =>
        have hw : ControlAction.ofWord? e.request = none := hcarries.ofWord?_eq_none ha
        have hno : host.Attaches → ∀ action, ¬ i.Asks (Wire.stripNewline e.request) action := by
          intro hattach action hasks
          rw [hcarries.action?_of_asks hw hasks hattach hcon.output_open] at ha
          cases ha
        rw [hw, Option.isSome_none, if_neg Bool.false_ne_true] at hrun
        have hon' : c.peer.ending = none := by rw [hend, Exchange.ending?, ha]; rfl
        obtain ⟨log, unread, result, s', hrun', rfl, talks', parting⟩ :=
          ih hscript' (s := ⟨c, _, out'⟩) more hout' hc' hon' hlines
        exact ⟨e :: log, unread, result, s', hrun.trans hrun', rfl, talks.append talks',
          .goOn hw ha hno parting⟩
      | some action =>
        -- the session is over; whether the shell is depends on the word alone
        have hover : c.peer.ending = some action.sessionEnd := by
          rw [hend, Exchange.ending?, ha]
          rfl
        cases hw : ControlAction.ofWord? e.request with
        | some action' =>
          have ha' := hcarries.action?_of_word ((ControlAction.ofWord?_stripNewline _).trans hw)
          obtain rfl := Option.some.inj (ha'.symm.trans ha)
          rw [hw, Option.isSome_some, if_pos rfl] at hrun
          exact ⟨[e], lines, _, _, hrun, rfl, talks, .together hw ha more⟩
        | none =>
          rw [hw, Option.isSome_none, if_neg Bool.false_ne_true] at hrun
          obtain hword | hasks := hcarries.asks ha
          · rw [hw] at hword
            cases hword
          · obtain ⟨result, s', hrun', horphaned, talks'⟩ :=
              run_orphaned hp (i := i) (s := ⟨c, _, out'⟩) more hout' hc' hover
            exact ⟨[e], lines, result, s', hrun.trans hrun', rfl, talks.append talks',
              .alone hw ha hasks horphaned⟩

/-- **How a remote shell and its session part.** A script of lines that fit into a request is run
against a session. The lines are answered in order, and shell and session go on together, up to the
end of the script or the first line that asks for the end of the session. On that line both stop if
it is a control word. If it is no control word, it is read as a command for the end; the session has
ended and the shell has not, so that it fails on its next line, unless programs or lines with
sentinels have left it a response. -/
theorem run_parts (hp : peer.Serves host i) {lines : List Text} {s : State (FarSession σ)}
    (hy : s.lines.Yields lines) (ho : s.out.Open) (hc : s.client.Ready)
    (hon : s.client.peer.ending = none)
    (hf : ∀ line ∈ lines, Wire.Fits i.limits.requestLength line) :
    ∃ log unread result s', run peer s = (result, s') ∧
      lines = log.map Exchange.request ++ unread ∧
      FarSession.Talks host i s.client.peer log s'.client.peer ∧
      Parting host i (¬ Clean host lines) log unread result s'.lines :=
  run_owed hp (fun _ => id) hy ho (hc.owed _) hon hf

/-! ## A shell that is left alone -/

/-- What a server with nothing set in its environment carries out for its clients. -/
def serving : Interpreter where
  limits := Limits.ofEnvironment []
  offered := BuiltinSet.forClients

/-- A script that asks for the end with an argument. -/
def farewell : List Text := ["exit now".toList, "rc".toList]

/-- A remote shell at the start of the script. -/
def leaving : State (FarSession Unit) where
  client := Client.fresh ()
  lines := ⟨farewell.flatMap fun line => Utf8.encode line ++ [Lines.newline], []⟩

theorem parse_farewell : Pipeline.parse serving.limits "exit now".toList =
    .ok [ControlAction.exitSession.command ["now".toList]] := by
  have hseg : Pipeline.segments "exit now".toList = ["exit now".toList] := by decide
  have hscan : Token.scan "exit now".toList = [.word "exit".toList, .word "now".toList] := by
    simp +decide [Token.scan, Token.next]
  have hcommand : Command.parse serving.limits "exit now".toList =
      .ok (ControlAction.exitSession.command ["now".toList]) := by
    rw [Command.parse, hscan]
    rfl
  have hfew : ¬ serving.limits.commands < 1 := by decide
  rw [Pipeline.parse, hseg]
  simp only [List.length_singleton, if_neg hfew, List.mapM_cons, hcommand, List.mapM_nil]
  rfl

theorem ofWord?_farewell : ControlAction.ofWord? "exit now".toList = none := by decide

/-- Every session of the server ends on the first line. -/
theorem action?_farewell {s s' : Shell Unit} {result : LineResult} (ho : s.terminal.output.Open)
    (h : Session.CarriesOut Host.plain serving "exit now".toList s result s') :
    result.action? = some .exitSession := by
  have hstrip : Wire.stripNewline "exit now".toList = "exit now".toList := by decide
  refine h.action?_of_asks ofWord?_farewell ?_ (fun _ => rfl) ho
  rw [hstrip]
  exact ⟨rfl, _, parse_farewell⟩

/-- The session ends on the first line of the script, and the shell fails on the second, which meets
a broken pipe. -/
theorem run_abandoned :
    (leaving.lines.Yields farewell ∧ leaving.out.Open ∧ leaving.client.Ready ∧
      ∀ line ∈ farewell, Wire.Fits serving.limits.requestLength line) ∧
    ∃ e s', run (FarSession.peer Host.plain serving) leaving = (.error (.client e), s') ∧
      s'.client.peer.ending = some .exitSession ∧ e = .send (.system Errno.brokenPipe) := by
  have hy : leaving.lines.Yields farewell := Lines.yields_of_held (by decide)
  have hc : leaving.client.Ready := Client.fresh_ready ()
  have hf : ∀ line ∈ farewell, Wire.Fits serving.limits.requestLength line := by decide
  refine ⟨⟨hy, Sink.open_empty, hc, hf⟩, ?_⟩
  obtain ⟨log, unread, result, s', hrun, hlines, talks, parting⟩ :=
    run_parts (FarSession.peer_serves Host.plain serving) hy Sink.open_empty hc rfl hf
  -- the first exchange is about the first line, and asks for the end
  have hfirst : ∀ e rest, log = e :: rest →
      e.request = "exit now".toList ∧ rest.map Exchange.request ++ unread = ["rc".toList] ∧
        e.result.action? = some .exitSession := by
    rintro e rest rfl
    obtain ⟨hreq, hrest⟩ := List.cons.inj hlines
    obtain ⟨s₀, s₁, hc, hcon⟩ := talks.carriesOut hc.idle.connected e List.mem_cons_self
    rw [← hreq] at hc
    exact ⟨hreq.symm, hrest.symm, action?_farewell hcon.output_open hc⟩
  cases parting with
  | atEnd => cases hlines
  | goOn hw ha hno rest =>
    rw [(hfirst _ _ rfl).2.2] at ha
    cases ha
  | together hw ha hr =>
    rw [(hfirst _ _ rfl).1, ofWord?_farewell] at hw
    cases hw
  | @alone e _ _ _ _ hw ha hasks after =>
    obtain ⟨hreq, rfl, ha'⟩ := hfirst _ _ rfl
    have hclean : Clean Host.plain farewell :=
      ⟨Host.plain_writes, fun _ _ => List.forall_mem_nil _, by decide⟩
    have hover : s'.client.peer.ending = some .exitSession := by
      rw [talks.ending_eq rfl, List.getLast?_singleton, Option.bind_some, Exchange.ending?, ha']
      rfl
    have hsend : (match (run (FarSession.peer Host.plain serving) leaving).1 with
        | .error f => some f
        | .ok _ => none) = some (.client (.send (.system Errno.brokenPipe))) := by decide +kernel
    cases after with
    | refused fault =>
      rw [hrun] at hsend
      exact ⟨fault, s', hrun, hover, (Fault.client.inj (Option.some.inj hsend))⟩
    | stop hstray hw => exact absurd hclean hstray
    | goOn hstray hw rest => exact absurd hclean hstray

end RemoteShell

end PipeShell
