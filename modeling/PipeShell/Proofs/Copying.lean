import PipeShell.Proofs.Responses

/-!
# Copying responses

A client copies a response piece by piece, and a read or a write may fail between any two pieces.
What a call of `Wire.readResponse` does is the same in all cases: it passes over whole pieces, which
the sink takes, and then comes to one of five ends (`Wire.Ends`, `Wire.readResponse_course`). So a
call leaves off in one of few places: behind a sentinel, behind a whole piece, or in front of a
piece that the sink did not take whole (`Wire.Reading.Careful`).

A sink that takes everything leaves the stream alone to decide. A call then writes the text in front
of the next sentinel, or what there is of it up to a failed read or to the end of the stream, and
has consumed exactly what it wrote and the sentinel it came to (`Wire.Reading.Cuts`).

Main statement: calls in a row cut a stream exactly. What they wrote, with one sentinel behind the
text of each call that came to one, is what they consumed of the stream; failed reads are reported
once each, interruptions never; and without failures the texts and results are told by the bytes
alone (`Wire.readings_cut`).
-/

set_option autoImplicit false

namespace PipeShell

/-! ## Sinks that may refuse -/

namespace Sink

/-- **A first part of what is delivered is taken**, all of it exactly if nothing fails. -/
theorem deliver_taken (s : Sink) (bs : Bytes) :
    ∃ front rest, bs = front ++ rest ∧ (s.deliver bs).2.taken = s.taken ++ front ∧
      ((s.deliver bs).1 = .ok () ↔ rest = []) := by
  fun_induction Sink.deliver s bs with
  | case1 s => exact ⟨[], [], rfl, (List.append_nil _).symm, by simp⟩
  | case2 s b rest f s' ho hi ih =>
    obtain ⟨front, behind, hall, htaken, hok⟩ := ih
    exact ⟨front, behind, hall, by rw [htaken, (offer_error ho).1], hok⟩
  | case3 s b rest f s' ho hi =>
    refine ⟨[], b :: rest, rfl, ?_, by simp⟩
    rw [(offer_error ho).1, List.append_nil]
  | case4 s b rest s' ho =>
    exact ⟨[], b :: rest, rfl, (offer_ok ho).2.1, by simp⟩
  | case5 s b rest n s' ho ih =>
    -- what the first offer left is delivered to what the sink has become
    obtain ⟨front, behind, hrest, htaken, hok⟩ := ih
    refine ⟨b :: rest.take n ++ front, behind, ?_, ?_, hok⟩
    · rw [List.append_assoc, ← hrest, List.cons_append, List.take_append_drop]
    · rw [htaken, (offer_ok ho).2.1, List.append_assoc, List.take_succ_cons]

theorem deliver_ok {s s' : Sink} {bs : Bytes} (h : s.deliver bs = (.ok (), s')) :
    s'.taken = s.taken ++ bs := by
  obtain ⟨front, rest, hbs, htaken, hok⟩ := s.deliver_taken bs
  rw [h] at htaken hok
  obtain rfl := hok.1 rfl
  rw [htaken, hbs, List.append_nil]

/-- Flushing leaves a sink as it is. -/
theorem eq_of_flush {s s' : Sink} {r : Except Failure Unit} (h : s.flush = (r, s')) : s' = s := by
  unfold flush at h
  split at h <;> cases h <;> rfl

end Sink

namespace Source

theorem bytes_unread (bs : Bytes) (s : Source) : (unread bs s).bytes = bs ++ s.bytes := by
  cases bs <;> rfl

theorem faults_unread (bs : Bytes) (s : Source) : (unread bs s).faults = s.faults := by
  cases bs <;> rfl

/-- The events from the one place to the other end with a read that gave no bytes, or there are no
more events. -/
def EndsBefore (s after : Source) : Prop :=
  ∃ used, s = used ++ after ∧ (after = [] ∨ used.getLast? = some (.piece []))

end Source

namespace Wire

/-! ## The course of a call -/

/-- How a call ends that has come to the rest of a source and has made of its sink what it is. -/
inductive Ends (rest : Source) (out : Sink) : Except Failure Bool → Source → Sink → Prop
  /-- The stream has ended. -/
  | closed {after : Source} (h : rest = .piece [] :: after ∨ rest = [] ∧ after = []) :
    Ends rest out (out.flush.1.map fun _ => false) after out
  /-- A read has failed. -/
  | failed {fault : StreamFault} {after : Source} (h : rest = .fault fault :: after)
    (hf : fault ≠ .interrupted) : Ends rest out (.error (.stream fault)) after out
  /-- The text in front of a sentinel was taken. -/
  | reached {text behind : Bytes} {after : Source} {sink : Sink}
    (h : rest = .piece (text ++ sentinel :: behind) :: after) (hs : sentinel ∉ text)
    (hd : out.deliver text = (.ok (), sink)) :
    Ends rest out (sink.flush.1.map fun _ => true) (Source.unread behind after) sink
  /-- The text in front of a sentinel, or a piece without one, was not taken whole. -/
  | refused {piece : Bytes} {after : Source} {f : Failure} {sink : Sink}
    (h : rest = .piece piece :: after)
    (hd : out.deliver (piece.takeWhile (· != sentinel)) = (.error f, sink)) :
    Ends rest out (.error f) rest sink
  /-- What was taken was not flushed. -/
  | unflushed {f : Failure} (h : out.flush.1 = .error f) : Ends rest out (.error f) rest out

/-- What a call does: it passes over whole pieces, which the sink takes, and comes to an end. -/
def Course (s : Source) (out : Sink) (result : Except Failure Bool) (after : Source)
    (sink : Sink) : Prop :=
  ∃ (used : Source) (text : Bytes) (rest : Source) (out' : Sink),
    s = used ++ rest ∧ used.Divides text ∧ sentinel ∉ text ∧ out'.taken = out.taken ++ text ∧
      (out.Open → out'.Open) ∧ Ends rest out' result after sink

section Course

variable {s after rest : Source} {out out' sink : Sink} {result : Except Failure Bool}

/-- A call may come to its end at once. -/
theorem Ends.course (h : Ends s out result after sink) : Course s out result after sink :=
  ⟨[], [], s, out, rfl, ⟨rfl, List.not_mem_nil, rfl⟩, List.not_mem_nil, (List.append_nil _).symm,
    id, h⟩

/-- More may be passed over in front of a course. -/
theorem Course.pass (used : Source) {text : Bytes} (h : Course rest out' result after sink)
    (hused : used.Divides text) (hs : sentinel ∉ text) (ht : out'.taken = out.taken ++ text)
    (ho : out.Open → out'.Open) : Course (used ++ rest) out result after sink := by
  obtain ⟨used', text', rest', out'', rfl, hused', hs', ht', ho', hends⟩ := h
  refine ⟨used ++ used', text ++ text', rest', out'', (List.append_assoc _ _ _).symm,
    hused.append hused', ?_, ?_, ho' ∘ ho, hends⟩
  · rw [List.mem_append, not_or]
    exact ⟨hs, hs'⟩
  · rw [ht', ht, List.append_assoc]

/-- A piece without a sentinel is passed over when the sink has taken it. -/
theorem Course.pass_piece {b : UInt8} {bs : Bytes} (h : Course rest out' result after sink)
    (hs : sentinel ∉ b :: bs) (hd : out.deliver (b :: bs) = (.ok (), out')) :
    Course (.piece (b :: bs) :: rest) out result after sink := by
  refine h.pass [.piece (b :: bs)] ⟨List.append_nil _, ?_, rfl⟩ hs
    (Sink.deliver_ok hd) ?_
  · exact fun hmem => nomatch List.mem_singleton.1 hmem
  · intro ho
    obtain ⟨out₁, hd₁, ho₁, -⟩ := Sink.deliver_open ho (b :: bs)
    rw [hd] at hd₁
    cases hd₁
    exact ho₁

end Course

theorem atEnd_eq (rest : Source) (out : Sink) :
    readResponse.atEnd rest out = (out.flush.1.map fun _ => false, rest, out) := by
  unfold readResponse.atEnd
  split <;> rename_i hflush <;> rw [hflush] <;> obtain rfl := Sink.eq_of_flush hflush <;> rfl

/-- What lies in front of the sentinel in a piece that is cut at it. -/
theorem cutAt_piece {piece text behind : Bytes}
    (h : Bytes.cutAt sentinel piece = some (text, behind)) :
    piece = text ++ sentinel :: behind ∧ sentinel ∉ text ∧
      piece.takeWhile (· != sentinel) = text := by
  obtain ⟨rfl, hs⟩ := Bytes.cutAt_eq_some h
  exact ⟨rfl, hs, Bytes.takeWhile_append_mark hs behind⟩

/-- A call ends at a sentinel with what the flush behind its text gives. -/
theorem Ends.of_flushed {piece text behind : Bytes} {rest : Source} {out sink sink' : Sink}
    {r : Except Failure Unit} (hc : Bytes.cutAt sentinel piece = some (text, behind))
    (hd : out.deliver text = (.ok (), sink)) (hflush : sink.flush = (r, sink')) :
    Ends (.piece piece :: rest) out (r.map fun _ => true) (Source.unread behind rest) sink' := by
  obtain ⟨hpiece, hs, -⟩ := cutAt_piece hc
  obtain rfl := Sink.eq_of_flush hflush
  have hends := Ends.reached (congrArg (Arrival.piece · :: rest) hpiece) hs hd
  rwa [hflush] at hends

/-- **The course of a call.** The proof follows the loop: two branches go on, after an interruption
and behind a piece that was taken and flushed, and each other branch is an end. -/
theorem readResponse_course (s : Source) (out : Sink) :
    Course s out (readResponse s out).1 (readResponse s out).2.1 (readResponse s out).2.2 := by
  fun_induction readResponse s out with
  | case1 out =>
    rw [atEnd_eq]
    exact (Ends.closed (Or.inr ⟨rfl, rfl⟩)).course
  | case2 rest out ih =>
    exact ih.pass [.fault .interrupted] ⟨rfl, by decide, rfl⟩ List.not_mem_nil
      (List.append_nil _).symm id
  | case3 fault rest out hf => exact (Ends.failed rfl hf).course
  | case4 rest out =>
    rw [atEnd_eq]
    exact (Ends.closed (Or.inl rfl)).course
  | case5 b bs rest out text behind hc f out' hd =>
    obtain ⟨-, -, hfront⟩ := cutAt_piece hc
    exact (Ends.refused rfl (by rw [hfront]; exact hd)).course
  | case6 b bs rest out text behind hc out' hd f out'' hflush =>
    exact (Ends.of_flushed hc hd hflush).course
  | case7 b bs rest out text behind hc out' hd out'' hflush =>
    exact (Ends.of_flushed hc hd hflush).course
  | case8 b bs rest out hc f out' hd =>
    have hfront := Bytes.takeWhile_of_not_mem (Bytes.cutAt_eq_none_iff.1 hc)
    exact (Ends.refused rfl (by rw [hfront]; exact hd)).course
  | case9 b bs rest out hc out' hd f out'' hflush =>
    have hends : Ends rest out' (.error f) rest out' := .unflushed (congrArg Prod.fst hflush)
    obtain rfl := Sink.eq_of_flush hflush
    exact hends.course.pass_piece (Bytes.cutAt_eq_none_iff.1 hc) hd
  | case10 b bs rest out hc out' hd out'' hflush ih =>
    obtain rfl := Sink.eq_of_flush hflush
    exact ih.pass_piece (Bytes.cutAt_eq_none_iff.1 hc) hd

/-! ## Where a call leaves off -/

/-- What stands behind a text that was read to the given result. -/
def closing : Except Failure Bool → Bytes
  | .ok true => [sentinel]
  | _ => []

/-- The failed read that a result reports, if it reports one. -/
def readFault? : Except Failure Bool → Option StreamFault
  | .error (.stream fault) => some fault
  | _ => none

section Ends

variable {rest after : Source} {out sink : Sink} {result : Except Failure Bool}

theorem bytes_closed (h : rest = .piece [] :: after ∨ rest = [] ∧ after = []) :
    rest.bytes = after.bytes := by
  rcases h with rfl | ⟨rfl, rfl⟩ <;> rfl

theorem bytes_reached {text behind : Bytes}
    (h : rest = .piece (text ++ sentinel :: behind) :: after) :
    rest.bytes = text ++ [sentinel] ++ (Source.unread behind after).bytes := by
  rw [h, Source.bytes, Source.bytes_unread]
  simp only [List.append_assoc, List.cons_append, List.nil_append]

/-- Whatever the sink does, the bytes consumed at the end are a text that was written, with its
sentinel or without. What else was written is not consumed. -/
theorem Ends.leaves (h : Ends rest out result after sink) :
    ∃ text tail more, rest.bytes = text ++ tail ++ after.bytes ∧
      sink.taken = out.taken ++ (text ++ more) ∧ (tail = [] ∨ tail = [sentinel]) := by
  cases h with
  | closed h => exact ⟨[], [], [], bytes_closed h, (List.append_nil _).symm, Or.inl rfl⟩
  | failed h hf => exact ⟨[], [], [], by rw [h]; rfl, (List.append_nil _).symm, Or.inl rfl⟩
  | reached h hs hd =>
    refine ⟨_, [sentinel], [], bytes_reached h, ?_, Or.inr rfl⟩
    rw [List.append_nil]
    exact Sink.deliver_ok hd
  | refused h hd =>
    rename_i piece after f
    obtain ⟨front, rest', -, htaken, -⟩ := out.deliver_taken (piece.takeWhile (· != sentinel))
    rw [hd] at htaken
    exact ⟨[], [], front, rfl, htaken, Or.inl rfl⟩
  | unflushed h => exact ⟨[], [], [], rfl, (List.append_nil _).symm, Or.inl rfl⟩

/-- A flush fails as what is made of its result does. -/
theorem flush_error {out : Sink} {b : Bool} {f : Failure}
    (h : (out.flush.1.map fun _ => b) = .error f) : out.flush.1 = .error f := by
  cases hflush : out.flush.1 with
  | error f' =>
    rw [hflush] at h
    cases h
    rfl
  | ok _ =>
    rw [hflush] at h
    cases h

/-- A call that fails could not read and leaves what it wrote, or could not write the next piece and
leaves it where it is, or could not flush what it wrote. -/
theorem Ends.fails (h : Ends rest out result after sink) {f : Failure} (hr : result = .error f) :
    (∃ fault, fault ≠ .interrupted ∧ f = .stream fault ∧ rest.bytes = after.bytes ∧
        sink.taken = out.taken) ∨
      (∃ piece behind, rest = after ∧ after = .piece piece :: behind ∧
        out.deliver (piece.takeWhile (· != sentinel)) = (.error f, sink)) ∨
      ∃ text tail, sink.flush.1 = .error f ∧ rest.bytes = text ++ tail ++ after.bytes ∧
        sink.taken = out.taken ++ text ∧ (tail = [] ∨ tail = [sentinel]) := by
  cases h with
  | closed h =>
    exact Or.inr (Or.inr ⟨[], [], flush_error hr, bytes_closed h, (List.append_nil _).symm,
      Or.inl rfl⟩)
  | failed h hf =>
    cases hr
    exact Or.inl ⟨_, hf, rfl, by rw [h]; rfl, rfl⟩
  | reached h hs hd =>
    exact Or.inr (Or.inr ⟨_, [sentinel], flush_error hr, bytes_reached h, Sink.deliver_ok hd,
      Or.inr rfl⟩)
  | refused h hd =>
    cases hr
    exact Or.inr (Or.inl ⟨_, _, rfl, h, hd⟩)
  | unflushed h =>
    cases hr
    exact Or.inr (Or.inr ⟨[], [], h, rfl, (List.append_nil _).symm, Or.inl rfl⟩)

/-- Where the sink takes everything, a call ends behind a sentinel, at the end of the stream, or
with a read that failed. -/
theorem Ends.leaves_open (ho : out.Open) (h : Ends rest out result after sink) :
    ∃ text, rest.bytes = text ++ closing result ++ after.bytes ∧ sink.taken = out.taken ++ text ∧
      sentinel ∉ text ∧ rest.faults = (readFault? result).toList ++ after.faults ∧
      (result = .ok false → rest.EndsBefore after) ∧
      ∀ f, result = .error f → ∃ fault, fault ≠ .interrupted ∧ f = .stream fault := by
  have hnothing : out.taken = out.taken ++ [] := (List.append_nil _).symm
  cases h with
  | closed h =>
    rw [Sink.flush_open ho]
    refine ⟨[], bytes_closed h, hnothing, List.not_mem_nil, ?_, fun _ => ?_, nofun⟩
    · rcases h with rfl | ⟨rfl, rfl⟩ <;> rfl
    · rcases h with rfl | ⟨rfl, rfl⟩
      · exact ⟨[.piece []], rfl, Or.inr rfl⟩
      · exact ⟨[], rfl, Or.inl rfl⟩
  | failed h hf =>
    rename_i fault
    refine ⟨[], by rw [h]; rfl, hnothing, List.not_mem_nil, ?_, nofun, ?_⟩
    · rw [h]
      cases fault <;> first | rfl | exact absurd rfl hf
    · intro f hr
      cases hr
      exact ⟨fault, hf, rfl⟩
  | reached h hs hd =>
    rename_i text behind after
    obtain ⟨sink', hd', ho', ht'⟩ := Sink.deliver_open ho text
    rw [hd] at hd'
    cases hd'
    rw [Sink.flush_open ho']
    refine ⟨text, bytes_reached h, ht', hs, ?_, nofun, nofun⟩
    rw [h, Source.faults_unread]
    rfl
  | refused h hd =>
    -- an open sink refuses nothing
    rename_i piece after f
    obtain ⟨sink', hd', -, -⟩ := Sink.deliver_open ho (piece.takeWhile (· != sentinel))
    rw [hd] at hd'
    cases hd'
  | unflushed h =>
    rw [Sink.flush_open ho] at h
    cases h

end Ends

/-! ## One call -/

/-- One call of `readResponse`: what it was given, what it answered and what it left. -/
structure Reading where
  before : Source
  out : Sink
  result : Except Failure Bool
  after : Source
  sink : Sink

/-- The call on a source and a sink. -/
def reading (s : Source) (out : Sink) : Reading where
  before := s
  out := out
  result := (readResponse s out).1
  after := (readResponse s out).2.1
  sink := (readResponse s out).2.2

namespace Reading

/-- What the call wrote. -/
def written (r : Reading) : Bytes := r.sink.taken.drop r.out.taken.length

/-- What the call consumed: the bytes of the source that are not among those left. -/
def consumed (r : Reading) : Bytes :=
  r.before.bytes.take (r.before.bytes.length - r.after.bytes.length)

/-- What the call wrote, with a sentinel behind it if the call came to one. -/
def framed (r : Reading) : Bytes := r.written ++ closing r.result

/-- The failed read that the call reports, if it reports one. -/
def fault? (r : Reading) : Option StreamFault := readFault? r.result

/-- Why a call fails, and where it leaves off. -/
inductive Fails (r : Reading) : Failure → Prop
  /-- A read failed. All that was consumed was written, and nothing else. -/
  | read {fault : StreamFault} (hf : fault ≠ .interrupted) (hw : r.written = r.consumed) :
    Fails r (.stream fault)
  /-- A piece was not written whole up to its sentinel. The events used up are those in front of it,
  it is the next event still, and what was consumed had been written before. -/
  | write {f : Failure} {used rest : Source} {piece : Bytes} {out : Sink}
    (hs : r.before = used ++ r.after) (ha : r.after = .piece piece :: rest)
    (ht : out.taken = r.out.taken ++ r.consumed)
    (hd : out.deliver (piece.takeWhile (· != sentinel)) = (.error f, r.sink)) : Fails r f
  /-- What was written was not flushed. -/
  | flush {f : Failure} (h : r.sink.flush.1 = .error f)
    (hw : r.consumed = r.written ∨ r.consumed = r.written ++ [sentinel]) : Fails r f

/-- What holds of a call whatever its sink does: the bytes left are the last of those there were, no
byte was consumed that was not written, a closing sentinel apart, and a failed call leaves off where
it should. -/
structure Careful (r : Reading) : Prop where
  bytes_eq : r.before.bytes = r.consumed ++ r.after.bytes
  written : ∃ text, text <+: r.written ∧ (r.consumed = text ∨ r.consumed = text ++ [sentinel])
  fails : ∀ f, r.result = .error f → r.Fails f

/-- What holds of a call whose sink takes everything: it wrote no sentinel, consumed what it wrote
and the sentinel it came to, and stopped short of one only at the end of the stream or where a read
failed. -/
structure Cuts (r : Reading) : Prop where
  clean : sentinel ∉ r.written
  consumed_eq : r.consumed = r.framed
  reached_iff : r.result = .ok true ↔ sentinel ∈ r.consumed
  ended : r.result = .ok false → r.before.EndsBefore r.after
  failed : ∀ f, r.result = .error f → ∃ fault, fault ≠ .interrupted ∧ f = .stream fault

/-- What was consumed are the bytes in front of those left. -/
theorem consumed_of {r : Reading} {front : Bytes} (h : r.before.bytes = front ++ r.after.bytes) :
    r.consumed = front := by
  rw [consumed, h, List.length_append, Nat.add_sub_cancel, List.take_left]

theorem written_of {r : Reading} {text : Bytes} (h : r.sink.taken = r.out.taken ++ text) :
    r.written = text := by
  rw [written, h, List.drop_left]

/-- A call that failed has failed to read, to write or to flush. -/
theorem fails_of_error (s : Source) (out : Sink) {f : Failure}
    (h : (reading s out).result = .error f) : (reading s out).Fails f := by
  obtain ⟨used, text, rest, out', hsplit, hused, -, ht, -, hends⟩ := readResponse_course s out
  have hbytes : s.bytes = text ++ rest.bytes := by
    rw [hsplit, Source.bytes_append, hused.bytes_eq]
  rcases hends.fails h with ⟨fault, hf, rfl, hrest, hsink⟩ | ⟨piece, behind, hafter, hpiece, hd⟩ |
    ⟨more, tail, hflush, hrest, htaken, htail⟩
  · have hconsumed : (reading s out).consumed = text := by
      apply consumed_of
      rw [reading, hbytes, hrest]
    have hwritten : (reading s out).written = text := by
      apply written_of
      rw [reading, hsink, ht]
    exact .read hf (hwritten.trans hconsumed.symm)
  · have hconsumed : (reading s out).consumed = text := by
      apply consumed_of
      rw [reading, hbytes, hafter]
    refine .write (hsplit.trans (congrArg (used ++ ·) hafter)) hpiece ?_ hd
    rw [hconsumed]
    exact ht
  · have hconsumed : (reading s out).consumed = text ++ more ++ tail := by
      apply consumed_of
      rw [reading, hbytes, hrest]
      simp only [List.append_assoc]
    have hwritten : (reading s out).written = text ++ more := by
      apply written_of
      rw [reading, htaken, ht, List.append_assoc]
    refine .flush hflush ?_
    rw [hconsumed, hwritten]
    rcases htail with rfl | rfl
    · exact Or.inl (List.append_nil _)
    · exact Or.inr rfl

/-- **Every call is careful.** -/
theorem careful (s : Source) (out : Sink) : (reading s out).Careful := by
  obtain ⟨used, text, rest, out', hsplit, hused, -, ht, -, hends⟩ := readResponse_course s out
  obtain ⟨text', tail, more, hrest, htaken, htail⟩ := hends.leaves
  have hbytes : s.bytes = text ++ rest.bytes := by
    rw [hsplit, Source.bytes_append, hused.bytes_eq]
  have hconsumed : (reading s out).consumed = text ++ text' ++ tail := by
    apply consumed_of
    rw [reading, hbytes, hrest]
    simp only [List.append_assoc]
  have hwritten : (reading s out).written = text ++ text' ++ more := by
    apply written_of
    rw [reading, htaken, ht]
    simp only [List.append_assoc]
  refine ⟨?_, ⟨text ++ text', ?_, ?_⟩, fun f hf => fails_of_error s out hf⟩
  · rw [hconsumed, reading, hbytes, hrest]
    simp only [List.append_assoc]
  · rw [hwritten]
    exact List.prefix_append _ _
  · rw [hconsumed]
    rcases htail with rfl | rfl
    · exact Or.inl (List.append_nil _)
    · exact Or.inr rfl

/-- **A call cuts the stream**, if its sink takes everything, and it uses up the failed read that it
reports and no other. -/
theorem cuts (s : Source) {out : Sink} (ho : out.Open) :
    (reading s out).Cuts ∧
      s.faults = (reading s out).fault?.toList ++ (reading s out).after.faults := by
  obtain ⟨used, text, rest, out', hsplit, hused, hs, ht, ho', hends⟩ := readResponse_course s out
  obtain ⟨text', hrest, htaken, hs', hfaults, hended, hfailed⟩ := hends.leaves_open (ho' ho)
  have hclean : sentinel ∉ text ++ text' := by
    rw [List.mem_append, not_or]
    exact ⟨hs, hs'⟩
  have hconsumed : (reading s out).consumed = text ++ text' ++ closing (reading s out).result := by
    apply consumed_of
    rw [reading, hsplit, Source.bytes_append, hused.bytes_eq, ← hsplit, hrest]
    simp only [List.append_assoc]
  have hwritten : (reading s out).written = text ++ text' := by
    apply written_of
    rw [reading, htaken, ht, List.append_assoc]
  refine ⟨⟨?_, ?_, ?_, fun hr => ?_, hfailed⟩, ?_⟩
  · rw [hwritten]
    exact hclean
  · rw [hconsumed, framed, hwritten]
  · rw [hconsumed, List.mem_append, or_iff_right hclean]
    -- only a call that came to a sentinel has one behind its text
    cases (reading s out).result with
    | error f => simp [closing]
    | ok reached => cases reached <;> simp [closing]
  · obtain ⟨used', hused', hlast⟩ := hended hr
    refine ⟨used ++ used', ?_, ?_⟩
    · rw [List.append_assoc]
      exact hsplit.trans (congrArg (used ++ ·) hused')
    · exact hlast.imp_right fun hlast => by rw [List.getLast?_append, hlast, Option.some_or]
  · rw [hsplit, Source.faults_append, hused.faults_eq, List.nil_append, ← hsplit]
    exact hfaults

end Reading

/-! ## Calls in a row -/

/-- Calls in a row, each with a sink of its own, and the source after them. -/
def readings : List Sink → Source → List Reading × Source
  | [], s => ([], s)
  | out :: outs, s =>
    let call := reading s out
    let (calls, last) := readings outs call.after
    (call :: calls, last)

/-- What `n` calls in a row make of bytes: each takes the text in front of the next sentinel and
tells whether there is one. -/
def responses : Nat → Bytes → List (Except Failure Bool × Bytes)
  | 0, _ => []
  | n + 1, bs =>
    (.ok (decide (sentinel ∈ bs)), bs.takeWhile (· != sentinel)) ::
      responses n ((bs.dropWhile (· != sentinel)).drop 1)

/-- Without failures a call tells what the bytes tell, and leaves what they leave. -/
theorem reading_of_divided {s : Source} {bs : Bytes} (hs : s.Divides bs) {out : Sink}
    (ho : out.Open) :
    (reading s out).result = .ok (decide (sentinel ∈ bs)) ∧
      (reading s out).written = bs.takeWhile (· != sentinel) ∧
      (reading s out).after.Divides ((bs.dropWhile (· != sentinel)).drop 1) := by
  cases hc : Bytes.cutAt sentinel bs with
  | some parts =>
    obtain ⟨text, rest⟩ := parts
    obtain ⟨rfl, hn⟩ := Bytes.cutAt_eq_some hc
    obtain ⟨s', out', hread, hs', -, ht⟩ :=
      readResponse_of_divided hs.filled hs.faults_eq hs.bytes_eq hn ho
    refine ⟨?_, ?_, ?_⟩
    · rw [reading, hread]
      simp
    · rw [Bytes.takeWhile_append_mark hn]
      apply Reading.written_of
      rw [reading, hread]
      exact ht
    · rw [Bytes.drop_dropWhile_append_mark hn, reading, hread]
      exact hs'
  | none =>
    have hn := Bytes.cutAt_eq_none_iff.1 hc
    obtain ⟨s', out', hread, hs', -, ht⟩ :=
      readResponse_of_unterminated hs.filled hs.faults_eq (by rw [hs.bytes_eq]; exact hn) ho
    refine ⟨?_, ?_, ?_⟩
    · rw [reading, hread]
      simp [hn]
    · rw [Bytes.takeWhile_of_not_mem hn, ← hs.bytes_eq]
      apply Reading.written_of
      rw [reading, hread]
      exact ht
    · rw [Bytes.dropWhile_of_not_mem hn, List.drop_nil, reading, hread]
      exact hs'

/-- **Responses are cut out of the stream exactly.** Whatever the sinks, each call is careful and
the calls consume the stream in order. If the sinks take everything, each call cuts the stream: what
the calls wrote, with one sentinel behind the text of each that came to one, are the bytes consumed,
and the failures reported are those of the source, once each and without interruptions. If nothing
but interruptions disturbs the reading, texts and results are told by the bytes alone. -/
theorem readings_cut (outs : List Sink) (s : Source) :
    let (calls, last) := readings outs s
    ((∀ call ∈ calls, call.Careful) ∧ s.bytes = calls.flatMap Reading.consumed ++ last.bytes) ∧
      ((∀ out ∈ outs, out.Open) →
        (∀ call ∈ calls, call.Cuts) ∧ s.bytes = calls.flatMap Reading.framed ++ last.bytes ∧
          s.faults = calls.filterMap Reading.fault? ++ last.faults ∧
          ∀ bs, s.Divides bs →
            calls.map (fun call => (call.result, call.written)) = responses outs.length bs) := by
  induction outs generalizing s with
  | nil =>
    exact ⟨⟨List.forall_mem_nil _, rfl⟩, fun _ => ⟨List.forall_mem_nil _, rfl, rfl, fun _ _ => rfl⟩⟩
  | cons out outs ih =>
    -- the first call leaves the source to the others
    obtain ⟨⟨hcareful, hbytes⟩, hopen⟩ := ih (reading s out).after
    have hfirst := Reading.careful s out
    refine ⟨⟨List.forall_mem_cons.2 ⟨hfirst, hcareful⟩, ?_⟩, fun ho => ?_⟩
    · rw [List.flatMap_cons, List.append_assoc, ← hbytes]
      exact hfirst.bytes_eq
    · obtain ⟨hout, houts⟩ := List.forall_mem_cons.1 ho
      obtain ⟨hcuts, hframed, hfaults, htold⟩ := hopen houts
      obtain ⟨hcut, hfault⟩ := Reading.cuts s hout
      refine ⟨List.forall_mem_cons.2 ⟨hcut, hcuts⟩, ?_, ?_, fun bs hs => ?_⟩
      · rw [List.flatMap_cons, List.append_assoc, ← hframed, ← hcut.consumed_eq]
        exact hfirst.bytes_eq
      · rw [hfault, hfaults]
        cases hr : (reading s out).fault? with
        | none =>
          rw [List.filterMap_cons_none hr]
          rfl
        | some fault =>
          rw [List.filterMap_cons_some hr]
          rfl
      · obtain ⟨hresult, hwritten, hafter⟩ := reading_of_divided hs hout
        rw [List.map_cons, htold _ hafter, hresult, hwritten]
        rfl

/-- Two responses in torn pieces, with an interruption and a failed read inside them. -/
def tornReplies : Source :=
  [.piece [111], .fault .interrupted, .piece [110, 4, 116], .fault .timedOut, .piece [119, 4]]

/-- Sinks for three calls. The first takes one byte at first. -/
def portioned : List Sink := [{ portions := [.bytes 1] }, {}, {}]

/-- Nothing of the responses is lost, and only the failed read is reported. -/
theorem readings_tornReplies :
    (∀ out ∈ portioned, out.Open) ∧
      let (calls, last) := readings portioned tornReplies
      (∀ call ∈ calls, call.Cuts) ∧
        [111, 110, 4, 116, 119, 4] = calls.flatMap Reading.framed ++ last.bytes ∧
        [.timedOut] = calls.filterMap Reading.fault? ++ last.faults := by
  have hopen : ∀ out ∈ portioned, out.Open := by
    intro out hout
    simp only [portioned, List.mem_cons, List.not_mem_nil, or_false] at hout
    rcases hout with rfl | rfl | rfl <;> exact ⟨rfl, rfl⟩
  obtain ⟨-, hcut⟩ := readings_cut portioned tornReplies
  obtain ⟨hcuts, hbytes, hfaults, -⟩ := hcut hopen
  exact ⟨hopen, hcuts, hbytes, hfaults⟩

end Wire

end PipeShell
