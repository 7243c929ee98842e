import PipeShell.Proofs.Arrivals
import PipeShell.Proofs.Encoding
import PipeShell.Wire.Request

/-!
# Requests however they arrive

`Wire.Inbox.next` reads until it holds a terminator or too much. What it answers is a rule about
bytes, `Wire.verdict`: take the bytes not yet returned and their part in front of the first
terminator, and decide by the length of that part alone. The invariant is that the bytes held and
the bytes still to come are together the bytes not yet returned (`Inbox.unreturned`); every branch
of the loop keeps it, and the two tests of the limit agree because what is held never reaches
past a terminator without the reader seeing it.

Main statement: however often the reader is called, its answers are the verdicts on the bytes, and
the failures it reports in between are the faults of the source, each of them once
(`calls_eq_verdicts`). For requests that were sent whole, the verdicts are the lines that were sent
(`next_of_encoded`).
-/

set_option autoImplicit false

namespace PipeShell.Wire

/-- What the bytes not yet returned hold for the next call, and the bytes left after it. -/
def verdict (max : Nat) (bs : Bytes) : Except RequestError (Option Text) × Bytes :=
  let request := bs.takeWhile (· != terminator)
  if max ≤ request.length then (.error (.tooLarge max), bs)
  else if terminator ∈ bs then (.ok (some (Utf8.decodeLossy request)), bs.drop (request.length + 1))
  else if request = [] then (.ok none, [])
  else (.ok (some (Utf8.decodeLossy request)), [])

/-- The verdicts of `n` calls in a row, and the bytes left after them. -/
def verdicts (max : Nat) : Nat → Bytes → List (Except RequestError (Option Text)) × Bytes
  | 0, bs => ([], bs)
  | n + 1, bs =>
    let (first, rest) := verdict max bs
    let (more, rest) := verdicts max n rest
    (first :: more, rest)

/-- The fault that a result reports, if it reports one. -/
def faultOf? : Except RequestError (Option Text) → Option StreamFault
  | .error (.receive f) => some f
  | _ => none

namespace Inbox

/-- The bytes not yet returned: those held, then those still to come. -/
def unreturned (box : Inbox) : Bytes := box.pending ++ box.source.bytes

/-- The results of `n` calls in a row, and the inbox after them. -/
def calls (max : Nat) : Nat → Inbox → List (Except RequestError (Option Text)) × Inbox
  | 0, box => ([], box)
  | n + 1, box =>
    let (result, box) := box.next max
    let (results, box) := calls max n box
    (result :: results, box)

end Inbox

/-! ## One verdict -/

/-- A part in front of a terminator is returned, unless it is too long. -/
theorem verdict_of_terminated {request : Bytes} (max : Nat) (h : terminator ∉ request)
    (rest : Bytes) :
    verdict max (request ++ terminator :: rest) =
      if max ≤ request.length then (.error (.tooLarge max), request ++ terminator :: rest)
      else (.ok (some (Utf8.decodeLossy request)), rest) := by
  unfold verdict
  simp only [Bytes.takeWhile_append_mark h]
  split
  · rfl
  · rw [if_pos (List.mem_append_right _ List.mem_cons_self), ← List.drop_drop,
      List.drop_left, List.drop_one, List.tail_cons]

/-- Too many bytes without a terminator are too many whatever follows. -/
theorem verdict_of_tooMany {max : Nat} {held : Bytes} (h : terminator ∉ held)
    (hm : max ≤ held.length) (rest : Bytes) :
    verdict max (held ++ rest) = (.error (.tooLarge max), held ++ rest) := by
  unfold verdict
  dsimp only
  rw [Bytes.takeWhile_append_of_not_mem h, if_pos]
  rw [List.length_append]
  omega

/-- Bytes without a terminator at the end of the stream. -/
theorem verdict_of_unterminated {max : Nat} {held : Bytes} (h : terminator ∉ held)
    (hm : held.length < max) :
    verdict max held =
      if held = [] then (.ok none, []) else (.ok (some (Utf8.decodeLossy held)), []) := by
  unfold verdict
  dsimp only
  rw [Bytes.takeWhile_of_not_mem h, if_neg (by omega), if_neg h]

/-! ## One call -/

/-- What one call does: it reports the next fault and leaves the bytes as they are, or it gives
the verdict on the bytes and leaves what the verdict leaves. -/
def Inbox.Answers (max : Nat) (box : Inbox) (result : Except RequestError (Option Text))
    (after : Inbox) : Prop :=
  (∃ f, result = .error (.receive f) ∧ after.unreturned = box.unreturned ∧
      box.source.faults = f :: after.source.faults) ∨
    (faultOf? result = none ∧ (result, after.unreturned) = verdict max box.unreturned ∧
      after.source.faults = box.source.faults)

theorem faultOf?_verdict (max : Nat) (bs : Bytes) : faultOf? (verdict max bs).1 = none := by
  unfold verdict
  dsimp only
  split
  · rfl
  · split
    · rfl
    · split <;> rfl

theorem Inbox.answers_of_verdict {max : Nat} {box after : Inbox}
    {result : Except RequestError (Option Text)}
    (h : verdict max box.unreturned = (result, after.unreturned))
    (hf : after.source.faults = box.source.faults) : Inbox.Answers max box result after := by
  refine Or.inr ⟨?_, h.symm, hf⟩
  have := faultOf?_verdict max box.unreturned
  rwa [h] at this

/-- **One call.** The loop is followed branch by branch: an interrupted read and a read that
delivers bytes leave the bytes not yet returned as they are, and so the rest of the loop answers
for the call. -/
theorem Inbox.next_answers (max : Nat) (box : Inbox) (hs : box.source.Filled) :
    Inbox.Answers max box (box.next max).1 (box.next max).2 ∧
      (box.next max).2.source.Filled := by
  fun_induction Inbox.next max box with
  | case1 box request rest hc hm =>
    -- a terminator is held, but behind too many bytes
    obtain ⟨hp, hn⟩ := Bytes.cutAt_eq_some hc
    refine ⟨answers_of_verdict ?_ rfl, hs⟩
    rw [unreturned, hp, List.append_assoc, List.cons_append, verdict_of_terminated max hn,
      if_pos (by omega)]
  | case2 box request rest hc hm =>
    -- a whole request is held
    obtain ⟨hp, hn⟩ := Bytes.cutAt_eq_some hc
    refine ⟨answers_of_verdict ?_ rfl, hs⟩
    rw [unreturned, hp, List.append_assoc, List.cons_append, verdict_of_terminated max hn,
      if_neg (by omega)]
    rfl
  | case3 box hc hm =>
    -- too much is held already, whatever stands behind it
    have hn := Bytes.cutAt_eq_none_iff.1 hc
    exact ⟨answers_of_verdict (verdict_of_tooMany hn hm _) rfl, hs⟩
  | case4 box hc hm source hr ih =>
    -- an interrupted read is repeated
    obtain ⟨hb, hfill, hf⟩ := Source.read_error hs hr
    rw [if_pos rfl] at hf
    have hu : Inbox.unreturned { box with source } = box.unreturned := by
      simp only [unreturned, hb]
    obtain ⟨hans, hfill'⟩ := ih hfill
    refine ⟨?_, hfill'⟩
    unfold Inbox.Answers at hans ⊢
    rw [hu] at hans
    simpa only [hf] using hans
  | case5 box hc hm fault source hne hr =>
    -- any other fault is reported, and what is held stays
    obtain ⟨hb, hfill, hf⟩ := Source.read_error hs hr
    rw [if_neg hne] at hf
    refine ⟨Or.inl ⟨fault, rfl, ?_, hf⟩, hfill⟩
    simp only [unreturned, hb]
  | case6 box hc hm source hr he =>
    -- the end, with nothing held
    obtain ⟨hb, hfill, hf, hend⟩ := Source.read_ok (by decide) hs hr
    have hn := Bytes.cutAt_eq_none_iff.1 hc
    have hp : box.pending = [] := by simpa using he
    refine ⟨answers_of_verdict ?_ hf, hfill⟩
    have hsrc : source.bytes = [] := by
      have := hend rfl
      rw [hb] at this
      exact this
    rw [unreturned, hend rfl, List.append_nil, verdict_of_unterminated hn (by omega), if_pos hp]
    simp only [unreturned, hp, hsrc, List.append_nil]
  | case7 box hc hm source hr hne =>
    -- the end, with a request that nothing terminates
    obtain ⟨hb, hfill, hf, hend⟩ := Source.read_ok (by decide) hs hr
    have hn := Bytes.cutAt_eq_none_iff.1 hc
    have hp : box.pending ≠ [] := by simpa using hne
    refine ⟨answers_of_verdict ?_ hf, hfill⟩
    have hsrc : source.bytes = [] := by
      have := hend rfl
      rw [hb] at this
      exact this
    rw [unreturned, hend rfl, List.append_nil, verdict_of_unterminated hn (by omega), if_neg hp]
    simp only [unreturned, hsrc, List.append_nil]
  | case8 box hc hm b bs source hr ih =>
    -- bytes arrive: they change sides, and nothing is returned yet
    obtain ⟨hb, hfill, hf, -⟩ := Source.read_ok (by decide) hs hr
    have hu : Inbox.unreturned { pending := box.pending ++ b :: bs, source } = box.unreturned := by
      simp only [unreturned, hb, List.append_assoc]
    obtain ⟨hans, hfill'⟩ := ih hfill
    refine ⟨?_, hfill'⟩
    unfold Inbox.Answers at hans ⊢
    rw [hu] at hans
    simpa only [hf] using hans

/-! ## Calls in a row -/

/-- **Requests do not depend on how the bytes arrive.** Of the results of any number of calls, those
that report no fault are the verdicts on the bytes, in order, and the bytes not yet returned are
those that the verdicts leave. The faults reported and the faults still to come are together the
faults of the source, so that each is reported once and costs no byte. -/
theorem calls_eq_verdicts (max n : Nat) (box : Inbox) (hs : box.source.Filled) :
    let (results, after) := Inbox.calls max n box
    let answers := results.filter fun result => (faultOf? result).isNone
    (answers, after.unreturned) = verdicts max answers.length box.unreturned ∧
      results.filterMap faultOf? ++ after.source.faults = box.source.faults := by
  induction n generalizing box with
  | zero => exact ⟨rfl, rfl⟩
  | succ n ih =>
    -- a fault is left out and leaves the bytes; an answer is the first of the verdicts
    obtain ⟨hans, hfill⟩ := Inbox.next_answers max box hs
    obtain ⟨hv, hf⟩ := ih (box.next max).2 hfill
    rcases hans with ⟨f, hr, hu, hfs⟩ | ⟨hr, hu, hfs⟩
    · have hr' : faultOf? (box.next max).1 = some f := by rw [hr]; rfl
      simp only [Inbox.calls, List.filter_cons, List.filterMap_cons, hr', Option.isNone_some,
        Bool.false_eq_true, if_false]
      rw [hu] at hv
      exact ⟨hv, by rw [hfs, List.cons_append, hf]⟩
    · simp only [Inbox.calls, List.filter_cons, List.filterMap_cons, hr, Option.isNone_none,
        if_true, List.length_cons, verdicts, ← hu]
      exact ⟨by rw [← hv], by rw [← hfs, hf]⟩

/-- Two requests and the first byte of a third, in torn pieces with faults between them. -/
def torn : Inbox where
  source := [.piece [108, 115], .fault .timedOut, .piece [0, 114], .fault .interrupted,
    .piece [99, 0, 120]]

/-- The requests in torn pieces are read as they are. -/
theorem calls_torn :
    torn.source.Filled ∧
      let (results, after) := Inbox.calls 8 5 torn
      let answers := results.filter fun result => (faultOf? result).isNone
      (answers, after.unreturned) = verdicts 8 answers.length torn.unreturned ∧
        results.filterMap faultOf? ++ after.source.faults = torn.source.faults :=
  ⟨by decide, calls_eq_verdicts 8 5 torn (by decide)⟩

/-! ## Requests that were sent whole -/

/-- The inbox holds, or will receive, exactly the given bytes, in any portions and with any
interruptions. -/
structure Inbox.Carries (bs : Bytes) (box : Inbox) : Prop where
  unreturned_eq : box.unreturned = bs
  filled : box.source.Filled
  faults_eq : box.source.faults = []

/-- Without faults a call gives the verdict on the bytes. -/
theorem Inbox.next_of_carries (max : Nat) {box : Inbox} {bs : Bytes} (h : box.Carries bs) :
    ∃ after, box.next max = ((verdict max bs).1, after) ∧ after.Carries (verdict max bs).2 := by
  obtain ⟨hans, hfill⟩ := Inbox.next_answers max box h.filled
  rcases hans with ⟨f, -, -, hf⟩ | ⟨-, hv, hf⟩
  · rw [h.faults_eq] at hf
    cases hf
  · rw [h.unreturned_eq] at hv
    rw [← hv]
    exact ⟨(box.next max).2, rfl, rfl, hfill, hf.trans h.faults_eq⟩

/-- A line that was sent whole is the next request. -/
theorem Inbox.next_of_encoded {max : Nat} {box : Inbox} {line : Text} {rest : Bytes}
    (h : box.Carries (Utf8.encode line ++ terminator :: rest)) (hn : '\x00' ∉ line)
    (hm : (Utf8.encode line).length < max) :
    ∃ after, box.next max = (.ok (some line), after) ∧ after.Carries rest := by
  have ht : terminator ∉ Utf8.encode line := by
    rw [Utf8.mem_encode_iff (by decide)]
    exact hn
  obtain ⟨after, hnext, hafter⟩ := Inbox.next_of_carries max h
  rw [verdict_of_terminated max ht, if_neg (by omega)] at hnext hafter
  rw [Utf8.decodeLossy_encode] at hnext
  exact ⟨after, hnext, hafter⟩

end PipeShell.Wire
