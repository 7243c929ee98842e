import PipeShell.Proofs.TerminalUse
import PipeShell.Session

/-!
# One request and its response

An exchange is a request, what came of it, and what carrying it out wrote to the connection
(`Exchange`). The response is what was written, then what closes a result of that kind, then one
sentinel (`Exchange.response`). There are three ways through a session that end a response, and
they all end it so: on a connection that takes what is sent, every request makes one exchange
(`Session.answer_connected`).

If the request holds no sentinel and the programs write none, then none is in front of the closing
one (`Exchange.Takes.sentinel_not_mem`): the shell's own texts are made of plain characters and of
characters of the request.
-/

set_option autoImplicit false

namespace PipeShell

variable {σ : Type} {host : Host σ} {i : Interpreter}

/-- What a session adds to what carrying out a request wrote, the sentinel left out. -/
def LineResult.closing : LineResult → Text
  | rejected r => r.message ++ ['\n']
  | builtin (.control action) => action.farewell.toList
  | builtin _ => []
  | pipeline _ => []

/-- The control action that a result asks for. -/
def LineResult.action? : LineResult → Option ControlAction
  | builtin (.control action) => some action
  | _ => none

/-- What comes of a request and the shell after it. A control word asks for its action and does
nothing else; any other request is carried out as a line. -/
inductive Session.CarriesOut (host : Host σ) (i : Interpreter) (request : Text) (s : Shell σ) :
    LineResult → Shell σ → Prop
  | word {action : ControlAction}
      (h : ControlAction.ofWord? (Wire.stripNewline request) = some action) :
      CarriesOut host i request s (.builtin (.control action)) s
  | line {result : LineResult} {s' : Shell σ}
      (h : ControlAction.ofWord? (Wire.stripNewline request) = none)
      (he : i.execute host (Wire.stripNewline request) s = (.ok result, s')) :
      CarriesOut host i request s result s'

/-- A request that was answered: what came of it, and what carrying it out wrote. -/
structure Exchange where
  request : Text
  result : LineResult
  output : Bytes

namespace Exchange

/-- The response without its sentinel. -/
def body (e : Exchange) : Bytes := e.output ++ Utf8.encode e.result.closing

/-- The response. -/
def response (e : Exchange) : Bytes := e.body ++ [Wire.sentinel]

/-- How the session ends with the exchange, if it does. -/
def ending? (e : Exchange) : Option SessionEnd := e.result.action?.map ControlAction.sessionEnd

/-- The exchange takes a shell to another: the request is carried out, which writes the output, and
then the response is closed, which touches nothing but the connection and leaves it usable. -/
def Takes (host : Host σ) (i : Interpreter) (e : Exchange) (s s' : Shell σ) : Prop :=
  ∃ (carried : Shell σ) (sink : Sink),
    Session.CarriesOut host i e.request s e.result carried ∧
    carried.terminal.output.taken = s.terminal.output.taken ++ e.output ∧
    sink.taken = s.terminal.output.taken ++ e.response ∧
    s' = { carried with terminal := { carried.terminal with output := sink } } ∧
    s'.terminal.Connected

/-- A shell has sent the response and nothing else. -/
theorem Takes.taken_eq {e : Exchange} {s s' : Shell σ} (h : e.Takes host i s s') :
    s'.terminal.output.taken = s.terminal.output.taken ++ e.response := by
  obtain ⟨_, _, _, _, hsink, rfl, _⟩ := h
  exact hsink

theorem Takes.connected {e : Exchange} {s s' : Shell σ} (h : e.Takes host i s s') :
    s'.terminal.Connected := by
  obtain ⟨_, _, _, _, _, _, hcon⟩ := h
  exact hcon

/-- A response whose body is clean has one sentinel. -/
theorem count_response {e : Exchange} (h : Wire.sentinel ∉ e.body) :
    e.response.count Wire.sentinel = 1 := by
  rw [response, List.count_append, List.count_eq_zero.2 h, List.count_singleton_self]

end Exchange

namespace Session

/-- A control word asks for its action. -/
theorem CarriesOut.action?_of_word {request : Text} {s s' : Shell σ} {result : LineResult}
    {action : ControlAction} (h : CarriesOut host i request s result s')
    (hw : ControlAction.ofWord? (Wire.stripNewline request) = some action) :
    result.action? = some action := by
  cases h with
  | word h =>
    rw [hw] at h
    exact h.symm
  | line h he =>
    rw [hw] at h
    cases h

/-! ## Closing a response -/

theorem send_connected {s : Shell σ} (hs : s.terminal.Connected) (parts : List Bytes) :
    ∃ sink, send (fun out => out.send parts) s =
        (.ok (), { s with terminal := { s.terminal with output := sink } }) ∧
      sink.Open ∧ sink.taken = s.terminal.output.taken ++ parts.flatten := by
  obtain ⟨sink, hsend, ho, ht⟩ := Sink.send_open hs.output_open parts
  exact ⟨sink, by rw [send, hsend], ho, ht⟩

theorem finish_connected (action : ControlAction) {s : Shell σ} (hs : s.terminal.Connected) :
    ∃ sink, finish action s =
        (.ok (some action.sessionEnd), { s with terminal := { s.terminal with output := sink } }) ∧
      sink.Open ∧ sink.taken = s.terminal.output.taken ++
        (Utf8.encode action.farewell.toList ++ [Wire.sentinel]) := by
  obtain ⟨sink, hsend, ho, ht⟩ :=
    send_connected hs [Utf8.encode action.farewell.toList, [Wire.sentinel]]
  refine ⟨sink, ?_, ho, by simpa using ht⟩
  change send (Wire.sendResponse action.farewell.toList) s = _ at hsend
  rw [finish, hsend]

/-- However a response is closed, it is closed with the text of its result and one sentinel. -/
theorem close_connected (result : LineResult) {s : Shell σ} (hs : s.terminal.Connected) :
    ∃ sink, close result s = (.ok (result.action?.map ControlAction.sessionEnd),
        { s with terminal := { s.terminal with output := sink } }) ∧
      sink.Open ∧ sink.taken = s.terminal.output.taken ++
        (Utf8.encode result.closing ++ [Wire.sentinel]) := by
  -- the results that are closed by a sentinel alone
  have hbare : ∃ sink, goOn (send Wire.sendSentinel s) =
        (.ok none, { s with terminal := { s.terminal with output := sink } }) ∧
      sink.Open ∧ sink.taken = s.terminal.output.taken ++ [Wire.sentinel] := by
    obtain ⟨sink, hsend, ho, ht⟩ := send_connected hs [[Wire.sentinel]]
    change send Wire.sendSentinel s = _ at hsend
    exact ⟨sink, by rw [hsend]; rfl, ho, ht⟩
  cases result with
  | rejected r =>
    obtain ⟨sink, hsend, ho, ht⟩ :=
      send_connected hs [Utf8.encode (r.message ++ ['\n']), [Wire.sentinel]]
    change send (Wire.sendResponse (r.message ++ ['\n'])) s = _ at hsend
    refine ⟨sink, ?_, ho, by simpa [LineResult.closing] using ht⟩
    rw [close, hsend]
    rfl
  | builtin dispatch =>
    cases dispatch with
    | notBuiltin => exact hbare
    | executed => exact hbare
    | control action => exact finish_connected action hs
  | pipeline outcome => exact hbare

/-! ## Carrying out a request -/

/-- On a connection every request is carried out, and what that wrote was added to what the
connection took. -/
theorem carriesOut_connected (host : Host σ) (i : Interpreter) (request : Text) {s : Shell σ}
    (hs : s.terminal.Connected) :
    ∃ result carried, CarriesOut host i request s result carried ∧ carried.terminal.Connected ∧
      (∃ output, carried.terminal.output.taken = s.terminal.output.taken ++ output) ∧
      answer host i request s = close result carried := by
  cases hword : ControlAction.ofWord? (Wire.stripNewline request) with
  | some action =>
    refine ⟨_, s, .word hword, hs, ⟨[], (List.append_nil _).symm⟩, ?_⟩
    simp only [answer, hword]
    rfl
  | none =>
    -- the sink is open, so that no built-in fails, and it stays open
    obtain ⟨result, hr⟩ : ∃ result, (i.execute host (Wire.stripNewline request) s).1 = .ok result :=
      i.execute_ok _ hs.output_open
    have hR : Terminal.Allows host (fun _ => True) (Terminal.Adds fun _ => True) :=
      Terminal.allows_adds (fun _ _ => trivial) (fun _ _ _ _ => trivial)
        (fun _ _ _ _ _ _ _ => trivial)
    have hline : Text.Over (fun _ => True) (Wire.stripNewline request) := fun _ _ => trivial
    obtain ⟨hc, output, ht, -⟩ := i.execute_allows hR hline s hs
    refine ⟨result, _, .line hword (Prod.ext hr rfl), hc, ⟨output, ht⟩, ?_⟩
    simp only [answer, hword, answerLine]
    split <;> rename_i he <;> rw [he] at hr <;> cases hr
    rw [he]

/-- **Every request makes one exchange.** On a connection that takes what is sent, a request is
answered with the response of an exchange, and the session is over if the exchange says so. -/
theorem answer_connected (host : Host σ) (i : Interpreter) (request : Text) {s : Shell σ}
    (hs : s.terminal.Connected) :
    ∃ (e : Exchange) (s' : Shell σ), e.request = request ∧ e.Takes host i s s' ∧
      answer host i request s = (.ok e.ending?, s') := by
  obtain ⟨result, carried, hc, hcon, ⟨output, hout⟩, ha⟩ := carriesOut_connected host i request hs
  obtain ⟨sink, hclose, ho, hsink⟩ := close_connected result hcon
  refine ⟨⟨request, result, output⟩, _, rfl,
    ⟨carried, sink, hc, hout, ?_, rfl, hcon.error_eq, ho⟩, ha.trans hclose⟩
  rw [hsink, hout]
  simp only [Exchange.response, Exchange.body, List.append_assoc]

end Session

/-- An exchange leaves the input as it is, if no program reads it. -/
theorem Exchange.Takes.input_eq {e : Exchange} {s s' : Shell σ} (h : e.Takes host i s s')
    (hq : host.LeavesInput) : s'.terminal.input = s.terminal.input := by
  obtain ⟨carried, -, hc, -, -, rfl, -⟩ := h
  generalize e.result = result at hc
  cases hc with
  | word hword => rfl
  | line hword he =>
    have hin := i.execute_input hq (Wire.stripNewline e.request) s
    rwa [he] at hin

/-! ## Sentinels -/

/-- The character that is encoded as the sentinel. -/
def Wire.sentinelChar : Char := Char.ofNat Wire.sentinel.toNat

theorem Wire.sentinel_mem_encode_iff (t : Text) :
    Wire.sentinel ∈ Utf8.encode t ↔ Wire.sentinelChar ∈ t :=
  Utf8.mem_encode_iff (by decide) t

theorem Wire.ample_of_sentinel : Text.Ample (· ≠ Wire.sentinelChar) := by
  intro c hc he
  rw [he] at hc
  exact absurd hc (by decide)

theorem Wire.sentinel_not_mem_encode {t : Text} (h : Text.Over (· ≠ Wire.sentinelChar) t) :
    Wire.sentinel ∉ Utf8.encode t := fun hm =>
  h _ ((Wire.sentinel_mem_encode_iff t).1 hm) rfl

theorem Wire.stripNewline_over {p : Char → Prop} {t : Text} (h : Text.Over p t) :
    Text.Over p (Wire.stripNewline t) := by
  have hdrop : ∀ (c : Char) {u : Text}, Text.Over p u →
      Text.Over p (Wire.stripNewline.dropLast c u) := by
    intro c u hu
    unfold Wire.stripNewline.dropLast
    split
    · exact fun d hd => hu d (List.dropLast_subset u hd)
    · exact hu
  exact hdrop _ (hdrop _ h)

/-- **A response holds its own sentinel only**, if the request holds none and no program writes
one. -/
theorem Exchange.Takes.sentinel_not_mem {e : Exchange} {s s' : Shell σ}
    (h : e.Takes host i s s') (hs : s.terminal.Connected) (hw : host.Writes (· ≠ Wire.sentinel))
    (hr : Wire.sentinelChar ∉ e.request) : Wire.sentinel ∉ e.body := by
  have hample := Wire.ample_of_sentinel
  have hline : Text.Over (· ≠ Wire.sentinelChar) (Wire.stripNewline e.request) :=
    Wire.stripNewline_over fun c hc he => hr (he ▸ hc)
  obtain ⟨carried, -, hc, hout, -⟩ := h
  rw [Exchange.body, List.mem_append, not_or]
  generalize hres : e.result = result at hc
  cases hc with
  | word hword =>
    -- nothing is carried out, so that nothing was written
    refine ⟨?_, Wire.sentinel_not_mem_encode (ControlAction.farewell_over hample _)⟩
    rw [List.self_eq_append_right.1 hout]
    exact List.not_mem_nil
  | line hword he =>
    constructor
    · -- what was written is made of the request's characters, plain ones and the programs' bytes
      have hpq : ∀ c, c ≠ Wire.sentinelChar → ∀ b ∈ String.utf8EncodeChar c, b ≠ Wire.sentinel :=
        fun c hc b hb hbe =>
          hc ((Utf8.mem_encodeChar_iff (by decide) c).1 (hbe ▸ hb : Wire.sentinel ∈ _))
      obtain ⟨-, bs, hbs, hclean⟩ :=
        i.execute_allows (Terminal.allows_adds hample hpq hw) hline s hs
      rw [he, hout, List.append_cancel_left_eq] at hbs
      rw [hbs]
      exact fun hm => hclean _ hm rfl
    · refine Wire.sentinel_not_mem_encode ?_
      cases result with
      | rejected r =>
        have hrej := i.execute_rejected_over hample hline (congrArg Prod.fst he)
        exact Text.over_append.2 ⟨hrej, Text.over_newline hample⟩
      | builtin dispatch =>
        cases dispatch with
        | control action => exact ControlAction.farewell_over hample action
        | _ => exact Text.over_nil
      | pipeline outcome => exact Text.over_nil

end PipeShell
