import PipeShell.Proofs.Conversation
import PipeShell.Proofs.Segments

/-!
# What a line makes at the far end

A line is sent with a terminator behind it and nothing else: a terminator inside it is not marked in
any way. So the bytes of a line are those of its parts between terminators, sent one behind the
other (`Wire.frame_eq_flatMap`), and the far end takes each part for a request of its own
(`Wire.requestsOf`). A line without terminators makes one request, the line itself; each terminator
inside a line makes one request more (`Wire.length_requestsOf`).

Main statement: however the bytes of lines arrive, the reader returns the parts of the lines in
order and then reports the end, and these are the lines themselves exactly if none of them holds a
terminator (`Wire.calls_of_sent`).
-/

set_option autoImplicit false

namespace PipeShell.Wire

/-- The requests that a line makes at the far end. -/
def requestsOf (line : Text) : List Text := line.splitOn '\x00'

/-! ## The parts of a line -/

/-- **A line is sent as its parts are.** The proof follows the line: a terminator ends the part in
front of it, and any other character is sent with the first part. -/
theorem frame_eq_flatMap (line : Text) : frame line = (requestsOf line).flatMap frame := by
  induction line with
  | nil => rfl
  | cons c rest ih =>
    have hframe : frame (c :: rest) = String.utf8EncodeChar c ++ frame rest := by
      rw [frame, frame, Utf8.encode, List.flatMap_cons, List.append_assoc]
      rfl
    unfold requestsOf at ih ⊢
    rw [List.splitOn_cons_eq_if_modifyHead, hframe, ih]
    by_cases hc : c = '\x00'
    · rw [if_pos (beq_iff_eq.2 hc), hc, List.flatMap_cons]
      rfl
    · rw [if_neg (mt beq_iff_eq.1 hc)]
      cases hparts : rest.splitOn '\x00' with
      | nil => exact absurd hparts (List.splitOn_ne_nil '\x00' rest)
      | cons part parts =>
        rw [List.modifyHead_cons, List.flatMap_cons, List.flatMap_cons, ← List.append_assoc]
        refine congrArg (· ++ parts.flatMap frame) ?_
        rw [frame, frame, Utf8.encode, Utf8.encode, List.flatMap_cons, List.append_assoc]

/-- The parts of a line that is short enough can be sent as they are. -/
theorem fits_of_mem_requestsOf {max : Nat} {line : Text} (h : (Utf8.encode line).length < max) :
    ∀ request ∈ requestsOf line, Fits max request := by
  intro request hrequest
  refine ⟨Text.not_mem_of_mem_splitOn request hrequest, ?_⟩
  -- a part takes no more bytes than the whole
  have hpart : List.Sublist (frame request) (frame line) := by
    rw [frame_eq_flatMap line, List.flatMap_def]
    exact List.sublist_flatten_of_mem (List.mem_map_of_mem hrequest)
  have hle := hpart.length_le
  rw [frame, frame, List.length_append, List.length_append] at hle
  omega

/-- Each terminator inside a line makes one request more. -/
theorem length_requestsOf (line : Text) : (requestsOf line).length = line.count '\x00' + 1 := by
  unfold requestsOf
  induction line with
  | nil => rfl
  | cons c rest ih =>
    rw [List.splitOn_cons_eq_if_modifyHead]
    by_cases hc : c = '\x00'
    · rw [if_pos (beq_iff_eq.2 hc), List.length_cons, ih, hc, List.count_cons_self]
    · rw [if_neg (mt beq_iff_eq.1 hc), List.length_modifyHead, ih, List.count_cons_of_ne hc]

/-- The requests that lines make are as many as the lines and their terminators. -/
theorem length_flatMap_requestsOf (lines : List Text) :
    (lines.flatMap requestsOf).length = lines.length + lines.flatten.count '\x00' := by
  induction lines with
  | nil => rfl
  | cons line lines ih =>
    rw [List.flatMap_cons, List.length_append, length_requestsOf, ih, List.length_cons,
      List.flatten_cons, List.count_append]
    omega

/-- The requests are the lines exactly if no line holds a terminator. -/
theorem flatMap_requestsOf_eq_iff {lines : List Text} :
    lines.flatMap requestsOf = lines ↔ ∀ line ∈ lines, '\x00' ∉ line := by
  induction lines with
  | nil => exact ⟨fun _ => List.forall_mem_nil _, fun _ => rfl⟩
  | cons line lines ih =>
    rw [List.flatMap_cons, List.forall_mem_cons, ← ih]
    constructor
    · -- a terminator would make more requests than there are lines
      intro h
      have hlength := congrArg List.length h
      rw [List.length_append, length_requestsOf, length_flatMap_requestsOf,
        List.length_cons] at hlength
      have hline : '\x00' ∉ line := List.count_eq_zero.1 (by omega)
      rw [requestsOf, List.splitOn_eq_singleton hline] at h
      exact ⟨hline, (List.cons.inj h).2⟩
    · rintro ⟨hline, hlines⟩
      rw [hlines, requestsOf, List.splitOn_eq_singleton hline]
      rfl

/-! ## Calls in a row -/

/-- Frames are read off in order, and the calls behind them see what is left. -/
theorem Inbox.calls_of_frames {max : Nat} {requests : List Text}
    (hf : ∀ request ∈ requests, Fits max request) {rest : Bytes} {box : Inbox}
    (h : box.Carries (requests.flatMap frame ++ rest)) :
    ∃ after, after.Carries rest ∧ ∀ n, Inbox.calls max (requests.length + n) box =
      (requests.map (fun request => .ok (some request)) ++ (Inbox.calls max n after).1,
        (Inbox.calls max n after).2) := by
  induction requests generalizing box with
  | nil =>
    refine ⟨box, h, fun n => ?_⟩
    rw [List.length_nil, Nat.zero_add]
    rfl
  | cons request requests ih =>
    obtain ⟨hrequest, hrequests⟩ := List.forall_mem_cons.1 hf
    rw [List.flatMap_cons, List.append_assoc] at h
    obtain ⟨box', hnext, hbox'⟩ := next_of_frame h hrequest
    obtain ⟨after, hafter, hcalls⟩ := ih hrequests hbox'
    refine ⟨after, hafter, fun n => ?_⟩
    rw [List.length_cons, Nat.add_right_comm]
    simp only [calls, hnext, hcalls n, List.map_cons, List.cons_append]

/-- **The requests of lines.** Lines of less than `max` bytes are sent one behind the other, and
their bytes arrive in any portions and with any interruptions. The reader returns the parts of the
lines between terminators, in order, and then reports the end, unless `max` leaves no room for any
request. There is one request more for each terminator inside a line, so what is returned is the
lines exactly if there are no such terminators. -/
theorem calls_of_sent {max : Nat} {lines : List Text}
    (hm : ∀ line ∈ lines, (Utf8.encode line).length < max) {out : Sink} (ho : out.Open)
    {source : Source}
    (hs : source.Divides ((sendRequests lines out).2.taken.drop out.taken.length)) :
    let requests := lines.flatMap requestsOf
    (sendRequests lines out).1 = .ok () ∧
      (Inbox.calls max (requests.length + 1) { source }).1 =
        requests.map (fun request => .ok (some request)) ++
          [if 0 < max then .ok none else .error (.tooLarge max)] ∧
      requests.length = lines.length + lines.flatten.count '\x00' ∧
      (requests = lines ↔ ∀ line ∈ lines, '\x00' ∉ line) := by
  intro requests
  obtain ⟨out', hsend, -, htaken⟩ := Client.sendRequests_open ho lines
  -- what is sent is the frames of the requests
  have hframes : lines.flatMap frame = requests.flatMap frame := by
    have hline : frame = fun line => (requestsOf line).flatMap frame := funext frame_eq_flatMap
    rw [List.flatMap_assoc, ← hline]
  have hbox : Inbox.Carries (requests.flatMap frame ++ []) { source } := by
    rw [hsend, htaken, List.drop_left, hframes] at hs
    exact ⟨by rw [List.append_nil]; exact hs.bytes_eq, hs.filled, hs.faults_eq⟩
  have hfits : ∀ request ∈ requests, Fits max request := by
    intro request hrequest
    obtain ⟨line, hline, hrequest⟩ := List.mem_flatMap.1 hrequest
    exact fits_of_mem_requestsOf (hm line hline) request hrequest
  obtain ⟨after, hafter, hcalls⟩ := Inbox.calls_of_frames hfits hbox
  obtain ⟨after', hnext, -⟩ := Inbox.next_of_carries max hafter
  -- with nothing left, only a limit of nothing keeps the reader from reporting the end
  have hend : (verdict max []).1 = if 0 < max then .ok none else .error (.tooLarge max) := by
    by_cases hpos : 0 < max
    · have hnot : ¬ max ≤ 0 := by omega
      simp [verdict, hpos, hnot]
    · have hzero : max ≤ 0 := by omega
      simp [verdict, hpos, hzero]
  refine ⟨by rw [hsend], ?_, length_flatMap_requestsOf lines, flatMap_requestsOf_eq_iff⟩
  rw [hcalls 1, Inbox.calls, hnext, hend]
  rfl

/-- A line with a terminator inside it, and a line behind it. -/
def smuggling : List Text := ["rc x\x00y".toList, "rc".toList]

/-- The two lines make three requests. -/
theorem calls_of_smuggling :
    (∀ line ∈ smuggling, (Utf8.encode line).length < 8) ∧
      (Inbox.calls 8 4 { source := Route.bytewise (smuggling.flatMap frame) }).1 =
        [.ok (some "rc x".toList), .ok (some "y".toList), .ok (some "rc".toList), .ok none] ∧
      smuggling.flatMap requestsOf ≠ smuggling := by
  have hm : ∀ line ∈ smuggling, (Utf8.encode line).length < 8 := by decide
  obtain ⟨out', hsend, -, htaken⟩ := Client.sendRequests_open Sink.open_empty smuggling
  have hs : (Route.bytewise (smuggling.flatMap frame)).Divides
      ((sendRequests smuggling {}).2.taken.drop ({} : Sink).taken.length) := by
    rw [hsend, htaken, List.drop_left]
    exact Route.bytewise_divides _
  have hparts : smuggling.flatMap requestsOf = ["rc x".toList, "y".toList, "rc".toList] := by decide
  obtain ⟨-, hcalls, -, hiff⟩ := calls_of_sent hm Sink.open_empty hs
  rw [hparts] at hcalls
  refine ⟨hm, hcalls, fun h => ?_⟩
  exact hiff.1 h _ List.mem_cons_self (by decide)

end PipeShell.Wire
