import PipeShell.Proofs.Arrivals
import PipeShell.Proofs.Encoding
import PipeShell.Wire.Request
import PipeShell.Wire.Response

/-!
# Responses, sent and read

An open sink takes every byte it is offered, in portions of any size and with any interruptions
(`Sink.Open`), and so does a sender over it (`Sink.send_open`). A client that reads a response whose
text holds no sentinel copies exactly that text and stops behind the sentinel, however the bytes
arrive (`readResponse_of_divided`); if the stream ends first, it copies what there is
(`readResponse_of_unterminated`).
-/

set_option autoImplicit false

namespace PipeShell

namespace Sink

/-- The sink takes every byte and flushes. It may take an offer in portions and interrupt it. -/
structure Open (s : Sink) : Prop where
  room_eq : s.room = none
  flush_eq : s.flushRefusal = none

/-- A sink without bounds. -/
theorem open_empty : Open {} := ⟨rfl, rfl⟩

theorem portion_le (s : Sink) (n : Nat) : s.portion n ≤ n := by
  unfold portion
  split
  · exact Nat.min_le_left _ _
  · exact Nat.le_refl _

theorem portion_pos (s : Sink) {n : Nat} (hn : 0 < n) : 0 < s.portion n := by
  unfold portion
  split
  · omega
  · exact hn

theorem share_le (s : Sink) (n : Nat) : s.share n ≤ n := by
  unfold share
  split
  · exact s.portion_le n
  · exact Nat.le_trans (Nat.min_le_left _ _) (s.portion_le n)

/-- An offer that was interrupted or refused takes nothing. -/
theorem offer_error {s s' : Sink} {bs : Bytes} {f : Failure} (h : s.offer bs = (.error f, s')) :
    s'.taken = s.taken ∧ s'.room = s.room ∧ s'.flushRefusal = s.flushRefusal := by
  unfold offer at h
  split at h
  · cases h
    exact ⟨rfl, rfl, rfl⟩
  · dsimp only at h
    split at h
    · split at h <;> cases h
      exact ⟨rfl, rfl, rfl⟩
    · cases h

/-- Of any other offer a first part is taken, which uses up room. -/
theorem offer_ok {s s' : Sink} {bs : Bytes} {n : Nat} (h : s.offer bs = (.ok n, s')) :
    n ≤ bs.length ∧ s'.taken = s.taken ++ bs.take n ∧ s'.room = s.room.map (· - n) ∧
      s'.refusal = s.refusal ∧ s'.flushRefusal = s.flushRefusal := by
  unfold offer at h
  split at h
  · cases h
  · dsimp only at h
    split at h
    · split at h <;> cases h
      refine ⟨Nat.zero_le _, (List.append_nil _).symm, ?_, rfl, rfl⟩
      cases s.room <;> rfl
    · cases h
      exact ⟨share_le s bs.length, rfl, rfl, rfl, rfl⟩

/-- An offer to an open sink is interrupted, or taken at least in part. -/
theorem offer_open {s : Sink} (hs : s.Open) (b : UInt8) (bs : Bytes) :
    (∃ f s', s.offer (b :: bs) = (.error f, s') ∧ f.isInterruption = true) ∨
      ∃ n s', s.offer (b :: bs) = (.ok (n + 1), s') := by
  unfold offer
  split
  · exact Or.inl ⟨_, _, rfl, rfl⟩
  · right
    have hshare : s.share (b :: bs).length ≠ 0 := by
      unfold share
      rw [hs.room_eq]
      exact Nat.ne_of_gt (s.portion_pos (Nat.succ_pos _))
    obtain ⟨n, hn⟩ := Nat.exists_eq_succ_of_ne_zero hshare
    dsimp only
    rw [if_neg hshare]
    exact ⟨n, _, Prod.ext (congrArg Except.ok hn) rfl⟩

theorem Open.of_offer_error {s s' : Sink} {bs : Bytes} {f : Failure} (hs : s.Open)
    (h : s.offer bs = (.error f, s')) : s'.Open := by
  obtain ⟨-, hroom, hflush⟩ := offer_error h
  exact ⟨hroom.trans hs.room_eq, hflush.trans hs.flush_eq⟩

theorem Open.of_offer_ok {s s' : Sink} {bs : Bytes} {n : Nat} (hs : s.Open)
    (h : s.offer bs = (.ok n, s')) : s'.Open := by
  obtain ⟨-, -, hroom, -, hflush⟩ := offer_ok h
  exact ⟨by rw [hroom, hs.room_eq, Option.map_none], hflush.trans hs.flush_eq⟩

/-- What is delivered to an open sink is taken whole. -/
theorem deliver_open {s : Sink} (hs : s.Open) (bs : Bytes) :
    ∃ s', s.deliver bs = (.ok (), s') ∧ s'.Open ∧ s'.taken = s.taken ++ bs := by
  fun_induction Sink.deliver s bs with
  | case1 s => exact ⟨s, rfl, hs, (List.append_nil _).symm⟩
  | case2 s b rest f s' ho hi ih =>
    -- after an interruption the same is offered again
    obtain ⟨s₂, hd, hs₂, ht₂⟩ := ih (hs.of_offer_error ho)
    exact ⟨s₂, hd, hs₂, by rw [ht₂, (offer_error ho).1]⟩
  | case3 s b rest f s' ho hi =>
    obtain ⟨g, t, hg, hgi⟩ | ⟨n, t, hn⟩ := offer_open hs b rest
    · cases ho.symm.trans hg
      exact absurd hgi hi
    · cases ho.symm.trans hn
  | case4 s b rest s' ho =>
    obtain ⟨g, t, hg, -⟩ | ⟨n, t, hn⟩ := offer_open hs b rest
    · cases ho.symm.trans hg
    · cases ho.symm.trans hn
  | case5 s b rest n s' ho ih =>
    -- the offer has taken at least one byte, and what is left is delivered to what the sink became
    obtain ⟨s₂, hd, hs₂, ht₂⟩ := ih (hs.of_offer_ok ho)
    refine ⟨s₂, hd, hs₂, ?_⟩
    rw [ht₂, (offer_ok ho).2.1, List.append_assoc, List.take_succ_cons, List.cons_append,
      List.take_append_drop]

theorem flush_open {s : Sink} (hs : s.Open) : s.flush = (.ok (), s) := by
  rw [flush, hs.flush_eq]

theorem deliverEach_open {s : Sink} (hs : s.Open) (parts : List Bytes) :
    ∃ s', s.deliverEach parts = (.ok (), s') ∧ s'.Open ∧ s'.taken = s.taken ++ parts.flatten := by
  induction parts generalizing s with
  | nil => exact ⟨s, rfl, hs, by simp⟩
  | cons bs more ih =>
    obtain ⟨s₁, hd, hs₁, ht₁⟩ := deliver_open hs bs
    obtain ⟨s₂, hm, hs₂, ht₂⟩ := ih hs₁
    refine ⟨s₂, by rw [deliverEach, hd]; exact hm, hs₂, ?_⟩
    rw [ht₂, ht₁, List.append_assoc, List.flatten_cons]

/-- What is sent on an open sink is taken whole. -/
theorem send_open {s : Sink} (hs : s.Open) (parts : List Bytes) :
    ∃ s', s.send parts = (.ok (), s') ∧ s'.Open ∧ s'.taken = s.taken ++ parts.flatten := by
  obtain ⟨s₁, hd, hs₁, ht₁⟩ := deliverEach_open hs parts
  exact ⟨s₁, by rw [send, hd]; exact flush_open hs₁, hs₁, ht₁⟩

end Sink

namespace Source

/-- What is put back of a piece is the first of what comes next. -/
theorem unread_facts {s : Source} (hs : s.Filled) (bs : Bytes) :
    (unread bs s).bytes = bs ++ s.bytes ∧ (unread bs s).Filled ∧
      (unread bs s).faults = s.faults := by
  cases bs with
  | nil => exact ⟨rfl, hs, rfl⟩
  | cons b bs => exact ⟨rfl, filled_cons.2 ⟨by simp, hs⟩, rfl⟩

/-- What a source begins with that has no faults and only pieces with bytes. -/
theorem cons_cases {a : Arrival} {s : Source} (hs : Filled (a :: s)) (hf : faults (a :: s) = []) :
    (a = .fault .interrupted ∨ ∃ b bs, a = .piece (b :: bs)) ∧ s.Filled ∧ s.faults = [] := by
  obtain ⟨hne, hs'⟩ := filled_cons.1 hs
  cases a with
  | piece bs =>
    cases bs with
    | nil => exact absurd rfl hne
    | cons b bs => exact ⟨Or.inr ⟨b, bs, rfl⟩, hs', hf⟩
  | fault f =>
    cases f with
    | interrupted => exact ⟨Or.inl rfl, hs', hf⟩
    | _ => cases hf

end Source

namespace Wire

/-- A client copies a response up to its sentinel and consumes nothing behind it. -/
theorem readResponse_of_divided {s : Source} {text rest : Bytes} (hs : s.Filled)
    (hf : s.faults = []) (he : s.bytes = text ++ sentinel :: rest) (ht : sentinel ∉ text)
    {out : Sink} (ho : out.Open) :
    ∃ s' out', readResponse s out = (.ok true, s', out') ∧ s'.Divides rest ∧ out'.Open ∧
      out'.taken = out.taken ++ text := by
  induction s generalizing text out with
  | nil => simp [Source.bytes] at he
  | cons a s ih =>
    obtain ⟨rfl | ⟨b, bs, rfl⟩, hs', hf'⟩ := Source.cons_cases hs hf
    · exact ih hs' hf' he ht ho
    · rw [Source.bytes] at he
      cases hc : Bytes.cutAt sentinel (b :: bs) with
      | some parts =>
        obtain ⟨front, behind⟩ := parts
        obtain ⟨hp, hn⟩ := Bytes.cutAt_eq_some hc
        -- both sides are cut at their first sentinel
        have hcut : (text, rest) = (front, behind ++ Source.bytes s) := by
          refine Option.some.inj ?_
          rw [← Bytes.cutAt_append ht, ← he, hp, List.append_assoc, List.cons_append,
            Bytes.cutAt_append hn]
        obtain ⟨rfl, rfl⟩ := Prod.mk.inj hcut
        obtain ⟨out', hd, ho', ht'⟩ := Sink.deliver_open ho text
        obtain ⟨hu, hfill, hfl⟩ := Source.unread_facts hs' behind
        refine ⟨_, out', ?_, ⟨hu, hfill, hfl.trans hf'⟩, ho', ht'⟩
        rw [readResponse, hc]
        simp only [hd, Sink.flush_open ho']
      | none =>
        have hn := Bytes.cutAt_eq_none_iff.1 hc
        -- the piece lies in front of the sentinel
        obtain ⟨more, rfl, he'⟩ : ∃ more, text = b :: bs ++ more ∧
            Source.bytes s = more ++ sentinel :: rest := by
          rcases List.append_eq_append_iff.1 he with ⟨more, h1, h2⟩ | ⟨more, h1, h2⟩
          · exact ⟨more, h1, h2⟩
          · cases more with
            | nil => exact ⟨[], by simpa using h1.symm, by simpa using h2.symm⟩
            | cons x xs =>
              obtain ⟨rfl, -⟩ := List.cons.inj h2
              exact absurd (h1 ▸ List.mem_append_right _ List.mem_cons_self) hn
        obtain ⟨out₁, hd, ho₁, ht₁⟩ := Sink.deliver_open ho (b :: bs)
        obtain ⟨s', out', hr, hdiv, ho', ht'⟩ :=
          ih hs' hf' he' (fun h => ht (List.mem_append_right _ h)) ho₁
        refine ⟨s', out', ?_, hdiv, ho', ?_⟩
        · rw [readResponse, hc]
          simp only [hd, Sink.flush_open ho₁, hr]
        · rw [ht', ht₁, List.append_assoc]

/-- A client whose stream ends before a sentinel copies what there is. -/
theorem readResponse_of_unterminated {s : Source} (hs : s.Filled) (hf : s.faults = [])
    (hn : sentinel ∉ s.bytes) {out : Sink} (ho : out.Open) :
    ∃ s' out', readResponse s out = (.ok false, s', out') ∧ s'.Divides [] ∧ out'.Open ∧
      out'.taken = out.taken ++ s.bytes := by
  induction s generalizing out with
  | nil =>
    refine ⟨[], out, ?_, ⟨rfl, hs, rfl⟩, ho, (List.append_nil _).symm⟩
    rw [readResponse, readResponse.atEnd, Sink.flush_open ho]
  | cons a s ih =>
    obtain ⟨rfl | ⟨b, bs, rfl⟩, hs', hf'⟩ := Source.cons_cases hs hf
    · exact ih hs' hf' hn ho
    · rw [Source.bytes, List.mem_append, not_or] at hn
      obtain ⟨out₁, hd, ho₁, ht₁⟩ := Sink.deliver_open ho (b :: bs)
      obtain ⟨s', out', hr, hdiv, ho', ht'⟩ := ih hs' hf' hn.2 ho₁
      refine ⟨s', out', ?_, hdiv, ho', ?_⟩
      · rw [readResponse, Bytes.cutAt_eq_none_iff.2 hn.1]
        simp only [hd, Sink.flush_open ho₁, hr]
      · rw [ht', ht₁, List.append_assoc, Source.bytes]

/-- A response that was read whole is read as well where more follows it. -/
theorem readResponse_append {s s' : Source} {out out' : Sink}
    (h : readResponse s out = (.ok true, s', out')) (t : Source) :
    readResponse (s ++ t) out = (.ok true, s' ++ t, out') := by
  have hend : ∀ rest sink, readResponse.atEnd rest sink ≠ (.ok true, s', out') := by
    intro rest sink
    unfold readResponse.atEnd
    split <;> exact fun h => nomatch h
  induction s generalizing out with
  | nil =>
    rw [readResponse] at h
    exact absurd h (hend _ _)
  | cons a s ih =>
    rw [List.cons_append]
    match a with
    | .fault fault =>
      cases fault with
      | interrupted =>
        rw [readResponse] at h ⊢
        exact ih h
      | _ => cases h
    | .piece [] =>
      rw [readResponse] at h
      exact absurd h (hend _ _)
    | .piece (b :: bs) =>
      rw [readResponse] at h ⊢
      -- what is done with the piece does not depend on what follows it
      cases hc : Bytes.cutAt sentinel (b :: bs) with
      | some parts =>
        rw [hc] at h
        dsimp only at h ⊢
        split at h
        · cases h
        · split at h <;> cases h
          cases parts.2 <;> rfl
      | none =>
        rw [hc] at h
        dsimp only at h ⊢
        split at h
        · cases h
        · split at h
          · cases h
          · exact ih h

theorem atEnd_open {out : Sink} (ho : out.Open) (rest : Source) :
    readResponse.atEnd rest out = (.ok false, rest, out) := by
  rw [readResponse.atEnd, Sink.flush_open ho]

/-- Whatever a source delivers, a call on an open sink leaves the last of its bytes, and comes to a
sentinel only if there is one. -/
theorem readResponse_open (s : Source) {out : Sink} (ho : out.Open) :
    ∃ result s' out' front, readResponse s out = (result, s', out') ∧ out'.Open ∧
      s.bytes = front ++ s'.bytes ∧ (result = .ok true → sentinel ∈ s.bytes) := by
  have hnot : (.ok false : Except Failure Bool) ≠ .ok true := fun h => nomatch h
  induction s generalizing out with
  | nil => exact ⟨_, [], out, [], atEnd_open ho [], ho, rfl, fun h => absurd h hnot⟩
  | cons a s ih =>
    match a with
    | .fault fault =>
      cases fault with
      | interrupted => exact ih ho
      | _ => exact ⟨_, s, out, [], rfl, ho, rfl, fun h => nomatch h⟩
    | .piece [] => exact ⟨_, s, out, [], atEnd_open ho s, ho, rfl, fun h => absurd h hnot⟩
    | .piece (b :: bs) =>
      cases hc : Bytes.cutAt sentinel (b :: bs) with
      | some parts =>
        obtain ⟨text, behind⟩ := parts
        obtain ⟨hp, -⟩ := Bytes.cutAt_eq_some hc
        obtain ⟨out', hd, ho', -⟩ := Sink.deliver_open ho text
        have hb : (Source.unread behind s).bytes = behind ++ Source.bytes s := by
          cases behind <;> rfl
        have hall : Source.bytes (.piece (b :: bs) :: s) =
            text ++ [sentinel] ++ (Source.unread behind s).bytes := by
          rw [Source.bytes, hp, hb]
          simp only [List.append_assoc, List.cons_append, List.nil_append]
        refine ⟨.ok true, _, out', text ++ [sentinel], ?_, ho', hall, fun _ => ?_⟩
        · rw [readResponse, hc]
          simp only [hd, Sink.flush_open ho']
        · rw [hall]
          exact List.mem_append_left _ (List.mem_append_right _ (List.mem_singleton_self _))
      | none =>
        obtain ⟨out₁, hd, ho₁, -⟩ := Sink.deliver_open ho (b :: bs)
        obtain ⟨result, s', out', front, hr, ho', hb, hm⟩ := ih ho₁
        refine ⟨result, s', out', b :: bs ++ front, ?_, ho', ?_, fun h => ?_⟩
        · rw [readResponse, hc]
          simp only [hd, Sink.flush_open ho₁, hr]
        · rw [Source.bytes, hb, List.append_assoc]
        · exact List.mem_append_right _ (hm h)

end Wire

end PipeShell
