import PipeShell.Proofs.Serving

/-!
# Every response reaches its request

A client may send several lines before it reads a response. A round is some lines sent one behind
the other and as many responses read after them (`Client.round`); a conversation is a row of rounds
(`Client.converse`). One round is sending all at once, rounds of one line are requests each sent
after the response before it (`Client.round_singleton`).

Main statement: in any conversation with a session, however the bytes of both directions are
divided, the responses read are those of the session's exchanges on these lines, in order, and
nothing is left over (`converse_answers`). A line goes without a response only if the session has
ended on an earlier one.
-/

set_option autoImplicit false

namespace PipeShell

/-- Sends requests one behind the other, up to the first that fails. -/
def Wire.sendRequests : List Text → Sink → Except Failure Unit × Sink
  | [], out => (.ok (), out)
  | line :: lines, out =>
    match sendRequest line out with
    | (.error f, out) => (.error f, out)
    | (.ok (), out) => sendRequests lines out

namespace Client

variable {τ : Type} (peer : Peer τ)

/-- Sends lines. What was sent of them reaches the far end together. -/
def requests (lines : List Text) (c : Client τ) : Except Failure Unit × Client τ :=
  let (result, outgoing) := Wire.sendRequests lines (c.outlet peer)
  let (arriving, state) := peer.receive (outgoing.taken.drop c.outgoing.taken.length) c.peer
  (result, { incoming := c.incoming ++ arriving, outgoing, peer := state })

/-- Reads one response. -/
def reply (c : Client τ) : Except ClientError Bytes × Client τ :=
  match c.response {} with
  | (.ok (), c, out) => (.ok out.taken, c)
  | (.error e, c, _) => (.error e, c)

/-- Reads responses one after the other. -/
def replies : Nat → Client τ → List (Except ClientError Bytes) × Client τ
  | 0, c => ([], c)
  | n + 1, c =>
    let (first, c) := c.reply
    let (more, c) := replies n c
    (first :: more, c)

/-- Sends lines, and then reads as many responses. -/
def round (lines : List Text) (c : Client τ) : List (Except ClientError Bytes) × Client τ :=
  match c.requests peer lines with
  | (.error f, c) => (lines.map fun _ => .error (.send f), c)
  | (.ok (), c) => c.replies lines.length

/-- Goes through rounds one after the other. -/
def converse : List (List Text) → Client τ → List (Except ClientError Bytes) × Client τ
  | [], c => ([], c)
  | lines :: rounds, c =>
    let (first, c) := c.round peer lines
    let (more, c) := converse rounds c
    (first ++ more, c)

/-- A round of one line is a request with its response. -/
theorem round_singleton (line : Text) (c : Client τ) :
    c.round peer [line] =
      match c.execute peer line {} with
      | (.ok (), c, out) => ([.ok out.taken], c)
      | (.error e, c, _) => ([.error e], c) := by
  have hsend : c.requests peer [line] = c.request peer line := by
    unfold requests request
    cases h : Wire.sendRequest line (c.outlet peer) with
    | mk result out => cases result <;> simp only [Wire.sendRequests, h]
  unfold round execute
  rw [hsend]
  cases c.request peer line with
  | mk result c =>
    cases result with
    | error f => rfl
    | ok _ =>
      simp only [List.length_singleton, replies, reply]
      rcases c.response {} with ⟨_ | _, _, _⟩ <;> rfl

/-! ## Reading responses -/

/-- A client reads the responses that have arrived, and goes on with what follows them. -/
theorem replies_of_divided {log : List Exchange} (hclean : ∀ e ∈ log, Wire.sentinel ∉ e.body)
    {c : Client τ} {front broken : Source} (hin : c.incoming = front ++ broken)
    (hfront : front.Divides (log.flatMap Exchange.response)) (n : Nat) :
    ∃ rest : Source, rest.Divides [] ∧ c.replies (log.length + n) =
      (log.map (fun e => .ok e.body) ++ (replies n { c with incoming := rest ++ broken }).1,
        (replies n { c with incoming := rest ++ broken }).2) := by
  induction log generalizing c front with
  | nil =>
    refine ⟨front, hfront, ?_⟩
    rw [List.length_nil, Nat.zero_add, ← hin]
    rfl
  | cons e log ih =>
    obtain ⟨he, hlog⟩ := List.forall_mem_cons.1 hclean
    have hbytes : front.bytes = e.body ++ Wire.sentinel :: log.flatMap Exchange.response := by
      rw [hfront.bytes_eq, List.flatMap_cons, Exchange.response, List.append_assoc,
        List.singleton_append]
    obtain ⟨front', out, hread, hfront', -, hout⟩ :=
      Wire.readResponse_of_divided hfront.filled hfront.faults_eq hbytes he Sink.open_empty
    have hread' := Wire.readResponse_append hread broken
    rw [← hin] at hread'
    obtain ⟨rest, hrest, hmore⟩ :=
      ih hlog (c := { c with incoming := front' ++ broken }) rfl hfront'
    refine ⟨rest, hrest, ?_⟩
    rw [List.length_cons, Nat.add_right_comm]
    simp only [replies, reply, response, hread', hmore, hout]
    rfl

/-- Where no byte is left, every further reading fails. -/
theorem replies_of_nothing (n : Nat) {c : Client τ} (hin : c.incoming.bytes = []) :
    ∃ (errors : List ClientError) (rest : Source), errors.length = n ∧ rest.bytes = [] ∧
      c.replies n = (errors.map .error, { c with incoming := rest }) := by
  induction n generalizing c with
  | zero => exact ⟨[], c.incoming, rfl, hin, rfl⟩
  | succ n ih =>
    obtain ⟨result, rest, out, front, hread, -, hbytes, hreached⟩ :=
      Wire.readResponse_open c.incoming Sink.open_empty
    rw [hin] at hbytes hreached
    obtain ⟨-, hrest⟩ := List.append_eq_nil_iff.1 hbytes.symm
    obtain ⟨errors, rest', hlength, hrest', hmore⟩ := ih (c := { c with incoming := rest }) hrest
    -- what is read is no response
    obtain ⟨e, hreply⟩ : ∃ e, c.reply = (.error e, { c with incoming := rest }) := by
      rcases result with f | _ | _
      · exact ⟨.receive f, by simp only [reply, response, hread]⟩
      · exact ⟨.closed, by simp only [reply, response, hread]⟩
      · exact absurd (hreached rfl) List.not_mem_nil
    refine ⟨e :: errors, rest', congrArg (· + 1) hlength, hrest', ?_⟩
    simp only [replies, hreply, hmore]
    rfl

/-! ## Sending lines -/

theorem sendRequest_open {out : Sink} (ho : out.Open) (line : Text) :
    ∃ out', Wire.sendRequest line out = (.ok (), out') ∧ out'.Open ∧
      out'.taken = out.taken ++ Wire.frame line := by
  obtain ⟨out', hsend, ho', ht⟩ := Sink.send_open ho [Utf8.encode line, [Wire.terminator]]
  exact ⟨out', hsend, ho', by simpa [Wire.frame] using ht⟩

/-- What is sent on an open sink is the frames of the lines. -/
theorem sendRequests_open {out : Sink} (ho : out.Open) (lines : List Text) :
    ∃ out', Wire.sendRequests lines out = (.ok (), out') ∧ out'.Open ∧
      out'.taken = out.taken ++ lines.flatMap Wire.frame := by
  induction lines generalizing out with
  | nil => exact ⟨out, rfl, ho, (List.append_nil _).symm⟩
  | cons line lines ih =>
    obtain ⟨out₁, hsend, ho₁, ht₁⟩ := sendRequest_open ho line
    obtain ⟨out₂, hmore, ho₂, ht₂⟩ := ih ho₁
    refine ⟨out₂, ?_, ho₂, ?_⟩
    · rw [Wire.sendRequests, hsend]
      exact hmore
    · rw [ht₂, ht₁, List.flatMap_cons, List.append_assoc]

/-! ## Rounds -/

variable {σ : Type} {host : Host σ} {i : Interpreter} {peer : Peer (FarSession σ)}

/-- What is sent is taken, nothing is left to be read, and the session waits. -/
structure Ready (c : Client (FarSession σ)) : Prop where
  outgoing_open : c.outgoing.Open
  incoming_divides : c.incoming.Divides []
  idle : c.peer.session.Idle

/-- Between rounds: no byte is left to be read, and if the session is on, both are ready. -/
structure Settled (c : Client (FarSession σ)) : Prop where
  incoming_bytes : c.incoming.bytes = []
  connected : c.peer.connection.Connected
  ready : c.peer.ending = none → c.Ready

theorem Ready.settled {c : Client (FarSession σ)} (h : c.Ready) : c.Settled where
  incoming_bytes := h.incoming_divides.bytes_eq
  connected := h.idle.connected
  ready _ := h

/-- Lines that are sent while the session is on are answered in order, up to the first that ends it;
the responses are on their way, and none of their bodies has a sentinel. -/
theorem requests_serving (hp : peer.Serves host i) (hq : host.LeavesInput)
    (hw : host.Writes (· ≠ Wire.sentinel)) (hl : host.LeavesNoWriter) {lines : List Text}
    (hne : lines ≠ []) (hf : ∀ line ∈ lines, Wire.Fits i.limits.requestLength line)
    (hclean : ∀ line ∈ lines, Wire.sentinelChar ∉ line) {c : Client (FarSession σ)}
    (hc : c.Ready) (hon : c.peer.ending = none) :
    ∃ log unanswered front broken c', c.requests peer lines = (.ok (), c') ∧
      lines = log.map Exchange.request ++ unanswered ∧
      FarSession.Talks host i c.peer log c'.peer ∧ c'.incoming = front ++ broken ∧
      front.Divides (log.flatMap Exchange.response) ∧ broken.bytes = [] ∧
      (∀ e ∈ log, Wire.sentinel ∉ e.body) ∧ c'.outgoing.Open ∧
      (c'.peer.ending = none → unanswered = [] ∧ broken = [] ∧ c'.peer.session.Idle) := by
  obtain ⟨outgoing, hsend, hout, htaken⟩ := sendRequests_open hc.outgoing_open lines
  obtain ⟨incoming, outgoing₀, ⟨s, ending₀⟩⟩ := c
  obtain rfl : ending₀ = none := hon
  have hidle : s.Idle := hc.idle
  obtain ⟨line, hline⟩ := List.exists_mem_of_ne_nil lines hne
  have hpos : 0 < i.limits.requestLength := by have := (hf line hline).length_lt; omega
  obtain ⟨box, source, broken, far', hbox, hfar, hreceive, hsource, hnone, hbroken⟩ :=
    hp.serving s (lines.flatMap Wire.frame) hidle
  have hcon : (s.withInbox box).shell.terminal.Connected :=
    ⟨hidle.connected.error_eq, hidle.connected.output_open⟩
  obtain ⟨log, unanswered, ending, s', hcatch, talks, rfl, hafter⟩ :=
    Session.catchUp_frames hq hpos hcon hbox hf
  rw [FarSession.goOn_of_catchUp hcatch] at hfar
  -- nobody writes while the session waits for the next line
  have talks' : FarSession.Talks host i ⟨s.withInbox box, none⟩ log far' := by
    have hmore := talks.append (.linger (.rest _))
    rwa [List.append_nil, ← hfar] at hmore
  have hsent : outgoing.taken.drop outgoing₀.taken.length =
      (log.map Exchange.request ++ unanswered).flatMap Wire.frame := by
    rw [htaken]
    exact List.drop_left
  have hback : far'.sent.drop s.shell.terminal.output.taken.length =
      log.flatMap Exchange.response := by
    rw [talks'.sent_eq hl hcon]
    exact List.drop_left
  have harrived : box.unreturned = s.inbox.unreturned ++
      (log.map Exchange.request ++ unanswered).flatMap Wire.frame := by
    rw [hbox.unreturned_eq, hidle.carries.unreturned_eq, List.nil_append]
  rw [hback] at hsource
  refine ⟨log, unanswered, incoming ++ source, broken,
    ⟨incoming ++ (source ++ broken), outgoing, far'⟩, ?_, rfl, .arrival harrived talks', ?_,
    hc.incoming_divides.append hsource, hnone, talks.sentinel_not_mem hcon hw ?_, hout, ?_⟩
  · simp only [requests, outlet, hp.cutOff_eq, hsend, hsent, hreceive]
  · rw [List.append_assoc]
  · exact fun e he => hclean _ (List.mem_append_left _ (List.mem_map_of_mem he))
  · intro hn
    obtain ⟨hall, hidle'⟩ := hafter (by rw [← hn, hfar]; rfl)
    exact ⟨hall, hbroken hn, hfar ▸ hidle'.linger ending⟩

/-- Lines that are sent when the session is over reach nobody. -/
theorem requests_over (hp : peer.Serves host i) (hl : host.LeavesNoWriter) (lines : List Text)
    {c : Client (FarSession σ)} (hc : c.Settled) {e : SessionEnd}
    (hover : c.peer.ending = some e) :
    ∃ result c', c.requests peer lines = (result, c') ∧ c'.peer = c.peer.linger host ∧
      c'.Settled := by
  obtain ⟨incoming, outgoing₀, far⟩ := c
  obtain ⟨result, outgoing, hsend⟩ : ∃ result outgoing,
      Wire.sendRequests lines (outlet peer ⟨incoming, outgoing₀, far⟩) = (result, outgoing) :=
    ⟨_, _, rfl⟩
  obtain ⟨source, hreceive, hsource⟩ :=
    hp.ended far e (outgoing.taken.drop outgoing₀.taken.length) hover
  rw [FarSession.sent_linger hl hc.connected, List.drop_length] at hsource
  refine ⟨result, ⟨incoming ++ source, outgoing, far.linger host⟩, ?_, rfl, ?_, ?_,
    fun hn => ?_⟩
  · simp only [requests, hsend, hreceive]
  · rw [Source.bytes_append, hsource, List.append_nil]
    exact hc.incoming_bytes
  · exact FarSession.linger_connected hc.connected
  · exact absurd (hover.symm.trans hn) (Option.some_ne_none e)

/-- **One round.** The responses read are those of the exchanges that the lines have brought about,
and lines that a session did not take any more go without one. -/
theorem round_answers (hp : peer.Serves host i) (hq : host.LeavesInput)
    (hw : host.Writes (· ≠ Wire.sentinel)) (hl : host.LeavesNoWriter) {lines : List Text}
    (hne : lines ≠ []) (hf : ∀ line ∈ lines, Wire.Fits i.limits.requestLength line)
    (hclean : ∀ line ∈ lines, Wire.sentinelChar ∉ line) {c : Client (FarSession σ)}
    (hc : c.Settled) :
    ∃ (log : List Exchange) (errors : List ClientError) (unanswered : List Text)
        (c' : Client (FarSession σ)),
      c.round peer lines = (log.map (fun e => .ok e.body) ++ errors.map .error, c') ∧
      errors.length = unanswered.length ∧ lines = log.map Exchange.request ++ unanswered ∧
      FarSession.Talks host i c.peer log c'.peer ∧
      (c'.peer.ending = none → unanswered = []) ∧ c'.Settled := by
  cases hend : c.peer.ending with
  | some ended =>
    obtain ⟨result, c₁, hreq, hpeer, hc₁⟩ := requests_over hp hl lines hc hend
    have talks : FarSession.Talks host i c.peer [] c₁.peer := hpeer ▸ .linger (.rest _)
    have hnot : c₁.peer.ending ≠ none := by
      rw [hpeer, FarSession.linger_ending, hend]
      exact Option.some_ne_none _
    cases result with
    | error f =>
      refine ⟨[], lines.map fun _ => .send f, lines, c₁, ?_, List.length_map _, rfl, talks,
        fun hn => absurd hn hnot, hc₁⟩
      simp only [round, hreq, List.map_nil, List.nil_append, List.map_map]
      rfl
    | ok _ =>
      obtain ⟨errors, rest, hlength, hrest, hreplies⟩ :=
        replies_of_nothing lines.length hc₁.incoming_bytes
      refine ⟨[], errors, lines, { c₁ with incoming := rest }, ?_, hlength, rfl, talks,
        fun hn => absurd hn hnot, ⟨hrest, hc₁.connected, fun hn => absurd hn hnot⟩⟩
      simp only [round, hreq, hreplies, List.map_nil, List.nil_append]
  | none =>
    obtain ⟨log, unanswered, front, broken, c₁, hreq, rfl, talks, hin, hfront, hnone, hbodies,
      hout, hafter⟩ := requests_serving hp hq hw hl hne hf hclean (hc.ready hend) hend
    obtain ⟨rest, hrest, hreplies⟩ :=
      replies_of_divided hbodies hin hfront unanswered.length
    have hnothing : (rest ++ broken).bytes = [] := by
      rw [Source.bytes_append, hrest.bytes_eq, hnone, List.append_nil]
    obtain ⟨errors, rest', hlength, hrest', hmore⟩ :=
      replies_of_nothing unanswered.length (c := { c₁ with incoming := rest ++ broken }) hnothing
    rw [hmore] at hreplies
    refine ⟨log, errors, unanswered, { c₁ with incoming := rest' }, ?_, hlength, rfl, talks,
      fun hn => (hafter hn).1, hrest', talks.connected hc.connected, fun hn => ?_⟩
    · simp only [round, hreq, List.length_append, List.length_map, hreplies]
    · -- every line was answered, and nothing was read behind the last response
      obtain ⟨rfl, rfl, hidle⟩ := hafter hn
      have hin' : rest ++ [] = rest' := congrArg (fun r => r.2.incoming) hmore
      rw [List.append_nil] at hin'
      exact ⟨hout, hin' ▸ hrest, hidle⟩

/-! ## Conversations -/

/-- The rounds of a conversation, put together. -/
theorem converse_settled (hp : peer.Serves host i) (hq : host.LeavesInput)
    (hw : host.Writes (· ≠ Wire.sentinel)) (hl : host.LeavesNoWriter) {rounds : List (List Text)}
    (hne : [] ∉ rounds) (hf : ∀ line ∈ rounds.flatten, Wire.Fits i.limits.requestLength line)
    (hclean : ∀ line ∈ rounds.flatten, Wire.sentinelChar ∉ line) {c : Client (FarSession σ)}
    (hc : c.Settled) :
    ∃ (log : List Exchange) (errors : List ClientError) (unanswered : List Text)
        (c' : Client (FarSession σ)),
      c.converse peer rounds = (log.map (fun e => .ok e.body) ++ errors.map .error, c') ∧
      errors.length = unanswered.length ∧
      rounds.flatten = log.map Exchange.request ++ unanswered ∧
      FarSession.Talks host i c.peer log c'.peer ∧
      (c'.peer.ending = none → unanswered = []) ∧ c'.Settled := by
  induction rounds generalizing c with
  | nil => exact ⟨[], [], [], c, rfl, rfl, rfl, .rest _, fun _ => rfl, hc⟩
  | cons lines rounds ih =>
    rw [List.mem_cons, not_or] at hne
    rw [List.flatten_cons] at hf hclean
    obtain ⟨hf₁, hf₂⟩ := List.forall_mem_append.1 hf
    obtain ⟨hclean₁, hclean₂⟩ := List.forall_mem_append.1 hclean
    obtain ⟨log, errors, unanswered, c₁, hround, hlength, rfl, talks, hall, hc₁⟩ :=
      round_answers hp hq hw hl (Ne.symm hne.1) hf₁ hclean₁ hc
    obtain ⟨log', errors', unanswered', c', hmore, hlength', hrest, talks', hall', hc'⟩ :=
      ih hne.2 hf₂ hclean₂ hc₁
    cases hend : c₁.peer.ending with
    | none =>
      -- the round was answered in full, and the rest goes on behind it
      obtain rfl := hall hend
      obtain rfl := List.length_eq_zero_iff.1 hlength
      refine ⟨log ++ log', errors', unanswered', c', ?_, hlength', ?_, talks.append talks', hall',
        hc'⟩
      · rw [converse, hround]
        simp only [hmore, List.map_nil, List.append_nil, List.map_append, List.append_assoc]
      · rw [List.flatten_cons, hrest, List.append_nil, List.map_append, List.append_assoc]
    | some ended =>
      -- the session is over, so that the later rounds have no exchanges
      obtain ⟨rfl, hover⟩ := talks'.stays_over hend
      refine ⟨log, errors ++ errors', unanswered ++ unanswered', c', ?_, ?_, ?_, ?_, ?_, hc'⟩
      · rw [converse, hround]
        simp only [hmore, List.map_nil, List.nil_append, List.map_append, List.append_assoc]
      · rw [List.length_append, List.length_append, hlength, hlength']
      · rw [List.flatten_cons, hrest, List.map_nil, List.nil_append, List.append_assoc]
      · have hboth := talks.append talks'
        rwa [List.append_nil] at hboth
      · rw [hover]
        exact fun hn => absurd hn (Option.some_ne_none _)

/-- **Every response reaches its request.** Lines that fit into a request and hold no sentinel are
sent to a session in rounds, over a route that divides the bytes of both directions in any way. The
`k`-th response read is then exactly the body of the session's exchange on the `k`-th line, and in
the end no byte is left over. Lines go without a response only behind one that has ended the
session; whether sending them fails, reading, or the stream has ended is up to the route. Assumed is
that no program reads the connection, writes a sentinel, or leaves a process behind that writes. -/
theorem converse_answers (host : Host σ) (i : Interpreter) (route : Route)
    (hq : host.LeavesInput) (hw : host.Writes (· ≠ Wire.sentinel)) (hl : host.LeavesNoWriter)
    {rounds : List (List Text)} (hne : [] ∉ rounds)
    (hf : ∀ line ∈ rounds.flatten, Wire.Fits i.limits.requestLength line)
    (hclean : ∀ line ∈ rounds.flatten, Wire.sentinelChar ∉ line) {c : Client (FarSession σ)}
    (hc : c.Ready) (hon : c.peer.ending = none) :
    ∃ (log : List Exchange) (errors : List ClientError) (unanswered : List Text)
        (c' : Client (FarSession σ)),
      c.converse (route.peer host i) rounds =
        (log.map (fun e => .ok e.body) ++ errors.map .error, c') ∧
      errors.length = unanswered.length ∧
      rounds.flatten = log.map Exchange.request ++ unanswered ∧
      FarSession.Talks host i c.peer log c'.peer ∧
      (unanswered ≠ [] → ∃ front last, log = front ++ [last] ∧ last.ending?.isSome) ∧
      c'.incoming.bytes = [] := by
  obtain ⟨log, errors, unanswered, c', hconv, hlength, hlines, talks, hall, hc'⟩ :=
    converse_settled (route.peer_serves host i) hq hw hl hne hf hclean hc.settled
  refine ⟨log, errors, unanswered, c', hconv, hlength, hlines, talks, fun hun => ?_,
    hc'.incoming_bytes⟩
  obtain ⟨ended, hend⟩ := Option.ne_none_iff_exists'.1 (mt hall hun)
  obtain ⟨front, last, hlog, hlast⟩ := talks.exists_last hon hend
  exact ⟨front, last, hlog, by rw [hlast]; rfl⟩

/-- A client of a new session on a system in the given state. -/
def fresh (system : σ) : Client (FarSession σ) where
  peer := { session := {
    shell := { context := Context.inDirectory ['/'], world := ⟨system, 0⟩, terminal := {} } } }

theorem fresh_ready (system : σ) : (fresh system).Ready :=
  ⟨Sink.open_empty, ⟨rfl, List.not_mem_nil, rfl⟩, ⟨⟨rfl, rfl, rfl⟩, rfl, List.not_mem_nil, rfl⟩⟩

theorem plain_leavesNoWriter : Host.plain.LeavesNoWriter := fun _ _ => List.forall_mem_nil _

/-- A request by itself, then two at once, over a connection that delivers byte by byte. -/
theorem converse_bytewise :
    let rounds := [["rc".toList], ["ls -l | wc".toList, "exit".toList]]
    ([] ∉ rounds ∧ (∀ line ∈ rounds.flatten, Wire.Fits 65536 line) ∧
      ∀ line ∈ rounds.flatten, Wire.sentinelChar ∉ line) ∧
    ∃ (log : List Exchange) (errors : List ClientError) (unanswered : List Text)
        (c' : Client (FarSession Unit)),
      (fresh ()).converse (Route.ofBytewise.peer Host.plain {}) rounds =
        (log.map (fun e => .ok e.body) ++ errors.map .error, c') ∧
      errors.length = unanswered.length ∧
      rounds.flatten = log.map Exchange.request ++ unanswered ∧
      FarSession.Talks Host.plain {} (fresh ()).peer log c'.peer ∧
      (unanswered ≠ [] → ∃ front last, log = front ++ [last] ∧ last.ending?.isSome) ∧
      c'.incoming.bytes = [] :=
  ⟨⟨by decide, by decide, by decide⟩,
    converse_answers Host.plain {} Route.ofBytewise Host.plain_leavesInput Host.plain_writes
      plain_leavesNoWriter (by decide) (by decide) (by decide) (fresh_ready ()) rfl⟩

/-! ## Processes that go on writing -/

/-- What a process writes that was left behind. -/
def late : Bytes := Utf8.encode "late\n".toList

/-- A system on which a program ends at once and leaves a process behind, which writes a line while
the shell waits for its next. The state tells whether there is such a process. -/
def straggling : Host Bool where
  currentDirectory _ := .ok ['/']
  changeDirectory _ s := (.error (.system Errno.noEntry), s)
  canonicalize _ _ := .error (.system Errno.noEntry)
  isDirectory _ _ := false
  openInput _ s := (.error (.system Errno.noEntry), s)
  openOutput _ _ s := (.error (.system Errno.noEntry), s)
  makePipe s := (.ok ⟨0, 1⟩, s)
  close _ s := s
  attach _ s := (.ok (), s)
  start _ _ := (.ok 0, true)
  await _ _ s := (.ok (.code 0), {}, s)
  linger _ s := ({ wrote := if s then [(.output, late)] else [] }, false)

/-- A line whose program is waited for and leaves a process behind. -/
def delaying : Text := "sh -c \"(sleep 1; echo late) &\"".toList

/-- No program reads the connection or writes a sentinel, and yet the bytes of a process that was
left behind are left over, or are read as a part of the next response. -/
theorem converse_straggling :
    let lines := [delaying, "rc".toList]
    let peer := Route.ofBytewise.peer straggling {}
    let one := (fresh false).converse peer [[delaying]]
    let two := (fresh false).converse peer [[delaying], ["rc".toList]]
    (straggling.LeavesInput ∧ straggling.Writes (· ≠ Wire.sentinel) ∧ Wire.sentinel ∉ late ∧
      (∀ line ∈ lines, Wire.Fits 65536 line) ∧ (∀ line ∈ lines, Wire.sentinelChar ∉ line) ∧
      (fresh false).Ready) ∧
    one.1.map Except.toOption = [some []] ∧ one.2.incoming.bytes = late ∧
    two.1.map Except.toOption = [some [], some (late ++ Utf8.encode "0\n".toList)] :=
  ⟨⟨fun _ _ _ => rfl, fun _ _ _ => List.forall_mem_nil _, by decide, by decide, by decide,
    fresh_ready false⟩, by decide +kernel, by decide +kernel, by decide +kernel⟩

end Client

end PipeShell
