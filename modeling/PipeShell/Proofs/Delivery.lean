import PipeShell.Proofs.Copying

/-!
# Frames on a sink that may refuse

A sink takes what it is offered in portions, up to the room it has. Whatever the portions and the
interruptions between them, it ends up with exactly the first part of the bytes for which there is
room (`Sink.fit`), and what it can take afterwards is told by the number of bytes alone
(`Sink.Offered`). So buffers delivered one after the other are delivered as one buffer is, up to the
first that does not fit (`Sink.deliverEach_offered`), and a flush follows only if all of them fit
(`Sink.send_offered`).

A frame is a text with one mark behind it. Sent to a sink, it arrives as a first part of itself. The
sender succeeds exactly if that is all of it and the flush succeeds, and otherwise fails for the
sink's own reason (`Wire.Framed`).

Main statement: requests, responses and bare sentinels are framed in this sense on every sink. The
mark arrives only behind the whole text, so whoever cuts what has arrived at the first mark gets the
text or nothing (`Wire.send_framed`).
-/

set_option autoImplicit false

namespace PipeShell

namespace Sink

/-- There is room for so many more bytes. -/
def HasRoom (s : Sink) (n : Nat) : Prop := ∀ room, s.room = some room → n ≤ room

instance (s : Sink) (n : Nat) : Decidable (s.HasRoom n) :=
  decidable_of_iff (∀ room ∈ s.room, n ≤ room) Iff.rfl

/-- The first part of the bytes for which there is room. -/
def fit (s : Sink) (bs : Bytes) : Bytes :=
  match s.room with
  | none => bs
  | some room => bs.take room

/-- Why a sink without room takes nothing. An interruption is no reason, for what was interrupted
is tried again. -/
def reason (s : Sink) : Failure :=
  match s.refusal with
  | some f => if f.isInterruption then .writeZero else f
  | none => .writeZero

/-- What a sink is after it was offered bytes: it has taken those for which it had room, has that
much room less, and fails for the same reasons as before. -/
structure Offered (s : Sink) (bs : Bytes) (s' : Sink) : Prop where
  taken_eq : s'.taken = s.taken ++ s.fit bs
  room_eq : s'.room = s.room.map (· - bs.length)
  reason_eq : s'.reason = s.reason
  flushRefusal_eq : s'.flushRefusal = s.flushRefusal

/-! ## Room -/

variable {s s' s'' : Sink} {bs cs : Bytes}

theorem hasRoom_zero (s : Sink) : s.HasRoom 0 := fun room _ => Nat.zero_le room

theorem fit_of_hasRoom (h : s.HasRoom bs.length) : s.fit bs = bs := by
  unfold fit
  cases hroom : s.room with
  | none => rfl
  | some room => exact List.take_of_length_le (h room hroom)

theorem not_hasRoom_iff {n : Nat} : ¬ s.HasRoom n ↔ ∃ room, s.room = some room ∧ room < n := by
  unfold HasRoom
  cases s.room with
  | none => simp
  | some room => simp

/-- Behind bytes for which there is no room, nothing fits. -/
theorem fit_append_of_not_hasRoom (h : ¬ s.HasRoom bs.length) (cs : Bytes) :
    s.fit (bs ++ cs) = s.fit bs := by
  obtain ⟨room, hroom, hlt⟩ := not_hasRoom_iff.1 h
  unfold fit
  rw [hroom]
  exact List.take_append_of_le_length (Nat.le_of_lt hlt)

theorem offered_nil (s : Sink) : s.Offered [] s where
  taken_eq := by
    unfold fit
    cases s.room <;> simp
  room_eq := by simp
  reason_eq := rfl
  flushRefusal_eq := rfl

/-- Bytes offered one after the other are offered as one row. -/
theorem Offered.append (h : s.Offered bs s') (h' : s'.Offered cs s'') :
    s.Offered (bs ++ cs) s'' where
  taken_eq := by
    rw [h'.taken_eq, h.taken_eq, List.append_assoc]
    unfold fit
    rw [h.room_eq]
    cases s.room with
    | none => rfl
    | some room => simp only [Option.map_some, List.take_append]
  room_eq := by
    rw [h'.room_eq, h.room_eq]
    cases s.room with
    | none => rfl
    | some room => simp only [Option.map_some, List.length_append, Nat.sub_sub]
  reason_eq := h'.reason_eq.trans h.reason_eq
  flushRefusal_eq := h'.flushRefusal_eq.trans h.flushRefusal_eq

/-- Bytes that do not fit leave the sink as it is with more bytes behind them. -/
theorem Offered.of_not_hasRoom (h : s.Offered bs s') (hroom : ¬ s.HasRoom bs.length)
    (cs : Bytes) : s.Offered (bs ++ cs) s' where
  taken_eq := by rw [h.taken_eq, fit_append_of_not_hasRoom hroom]
  room_eq := by
    obtain ⟨room, hr, hlt⟩ := not_hasRoom_iff.1 hroom
    have hzero : room - bs.length = 0 := by omega
    have hzero' : room - (bs ++ cs).length = 0 := by
      rw [List.length_append]
      omega
    rw [h.room_eq, hr, Option.map_some, Option.map_some, hzero, hzero']
  reason_eq := h.reason_eq
  flushRefusal_eq := h.flushRefusal_eq

/-- There is room for two buffers exactly if there is room for the one, and then for the other. -/
theorem Offered.hasRoom_append (h : s.Offered bs s') (cs : Bytes) :
    s.HasRoom (bs ++ cs).length ↔ s.HasRoom bs.length ∧ s'.HasRoom cs.length := by
  unfold HasRoom
  rw [h.room_eq, List.length_append]
  cases s.room with
  | none => simp
  | some room =>
    -- what is left of the room behind the first buffer is enough for the other
    simp only [Option.map_some, Option.some.injEq, forall_eq']
    omega

/-! ## Offers and deliveries -/

/-- Offered anything, a sink without room stays as it is. -/
theorem offered_of_full (h : ¬ s.HasRoom 1) (bs : Bytes) : s.Offered bs s where
  taken_eq := by
    obtain ⟨room, hroom, hlt⟩ := not_hasRoom_iff.1 h
    obtain rfl : room = 0 := by omega
    unfold fit
    rw [hroom]
    simp
  room_eq := by
    obtain ⟨room, hroom, hlt⟩ := not_hasRoom_iff.1 h
    obtain rfl : room = 0 := by omega
    rw [hroom, Option.map_some, Nat.zero_sub]
  reason_eq := rfl
  flushRefusal_eq := rfl

/-- Of some bytes at least one is taken if there is room for one. -/
theorem share_pos {n : Nat} (hn : 0 < n) (h : s.HasRoom 1) : 0 < s.share n := by
  unfold share
  split
  · exact s.portion_pos hn
  · rename_i room hroom
    exact Nat.lt_min.2 ⟨s.portion_pos hn, h room hroom⟩

theorem hasRoom_share (s : Sink) (n : Nat) : s.HasRoom (s.share n) := by
  intro room hroom
  unfold share
  rw [hroom]
  exact Nat.min_le_right _ _

/-- A sink that has no share of some bytes has no room. -/
theorem not_hasRoom_of_share {n : Nat} (hn : 0 < n) (h : s.share n = 0) : ¬ s.HasRoom 1 := by
  intro hroom
  have hpos := share_pos hn hroom
  omega

theorem share_of_offer {n : Nat} (h : s.offer bs = (.ok n, s')) : s.share bs.length = n := by
  unfold offer at h
  split at h
  · cases h
  · dsimp only at h
    split at h
    · rename_i hzero
      split at h <;> cases h
      exact hzero
    · exact Except.ok.inj (congrArg Prod.fst h)

/-- A sink that has interrupted an offer can take as much as before. -/
theorem offered_of_interrupted {f : Failure} (h : s.offer bs = (.error f, s'))
    (hf : f.isInterruption = true) : s.Offered [] s' := by
  obtain ⟨htaken, hroom, hflush⟩ := offer_error h
  have hnone := offered_nil s
  refine ⟨htaken.trans hnone.taken_eq, hroom.trans hnone.room_eq, ?_, hflush⟩
  unfold offer at h
  split at h
  · cases h
    rfl
  · dsimp only at h
    split at h
    · -- the interruption was all that the sink had to refuse with
      split at h <;> cases h
      rename_i hrefusal
      simp [reason, hrefusal, hf]
    · cases h

/-- A sink that refuses has no room, and refuses for its reason. -/
theorem offer_refused {b : UInt8} {f : Failure} (h : s.offer (b :: bs) = (.error f, s'))
    (hf : ¬ f.isInterruption = true) : ¬ s.HasRoom 1 ∧ s' = s ∧ f = s.reason := by
  unfold offer at h
  split at h
  · cases h
    exact absurd rfl hf
  · dsimp only at h
    split at h
    · rename_i hshare
      refine ⟨not_hasRoom_of_share (Nat.succ_pos bs.length) hshare, ?_⟩
      split at h <;> cases h
      rename_i hrefusal
      rw [if_neg hf, ← hrefusal]
      exact ⟨rfl, by simp [reason, hrefusal, hf]⟩
    · cases h

/-- A sink that takes nothing has no room, and no reason. -/
theorem offer_zero {b : UInt8} (h : s.offer (b :: bs) = (.ok 0, s')) :
    ¬ s.HasRoom 1 ∧ s' = s ∧ s.reason = .writeZero := by
  have hshare := share_of_offer h
  refine ⟨not_hasRoom_of_share (Nat.succ_pos bs.length) hshare, ?_⟩
  unfold offer at h
  split at h
  · cases h
  · dsimp only at h
    rw [if_pos hshare] at h
    split at h <;> cases h
    rename_i hrefusal
    exact ⟨rfl, by simp [reason, hrefusal]⟩

/-- A sink that takes the first of some bytes has room for them. -/
theorem offered_of_taken {n : Nat} (h : s.offer bs = (.ok n, s')) :
    s.HasRoom n ∧ n ≤ bs.length ∧ s.Offered (bs.take n) s' := by
  obtain ⟨hle, htaken, hroom, hrefusal, hflush⟩ := offer_ok h
  have hfits : s.HasRoom n := share_of_offer h ▸ hasRoom_share s bs.length
  have hlength : (bs.take n).length = n := List.length_take_of_le hle
  refine ⟨hfits, hle, ?_, ?_, ?_, hflush⟩
  · rw [htaken, fit_of_hasRoom (hlength.symm ▸ hfits)]
  · rw [hroom, hlength]
  · rw [reason, hrefusal, reason]

theorem not_hasRoom_cons (h : ¬ s.HasRoom 1) (b : UInt8) (bs : Bytes) :
    ¬ s.HasRoom (b :: bs).length := by
  intro hroom
  apply h
  intro room hr
  exact Nat.le_trans (Nat.le_add_left 1 bs.length) (hroom room hr)

/-- **What is delivered** arrives as far as there is room for it. The induction follows the offers;
the sink changes as fewer bytes are left or fewer interruptions, and keeps its reasons. -/
theorem deliver_offered (s : Sink) (bs : Bytes) :
    s.Offered bs (s.deliver bs).2 ∧
      (s.deliver bs).1 = if s.HasRoom bs.length then .ok () else .error s.reason := by
  fun_induction Sink.deliver s bs with
  | case1 s =>
    rw [List.length_nil, if_pos s.hasRoom_zero]
    exact ⟨offered_nil s, rfl⟩
  | case2 s b rest f s' ho hi ih =>
    -- the same bytes are offered again to a sink that can take as much
    have hs' := offered_of_interrupted ho hi
    obtain ⟨hall, hresult⟩ := ih
    refine ⟨hs'.append hall, ?_⟩
    have hiff : s'.HasRoom (b :: rest).length ↔ s.HasRoom (b :: rest).length := by
      have hboth := hs'.hasRoom_append (b :: rest)
      rw [List.nil_append] at hboth
      rw [hboth]
      exact ⟨fun h => ⟨s.hasRoom_zero, h⟩, fun h => h.2⟩
    rw [hresult, hs'.reason_eq]
    simp only [hiff]
  | case3 s b rest f s' ho hi =>
    obtain ⟨hfull, rfl, rfl⟩ := offer_refused ho hi
    rw [if_neg (not_hasRoom_cons hfull b rest)]
    exact ⟨offered_of_full hfull (b :: rest), rfl⟩
  | case4 s b rest s' ho =>
    obtain ⟨hfull, rfl, hreason⟩ := offer_zero ho
    rw [if_neg (not_hasRoom_cons hfull b rest), hreason]
    exact ⟨offered_of_full hfull (b :: rest), rfl⟩
  | case5 s b rest n s' ho ih =>
    -- what is left is delivered to what the sink has become
    obtain ⟨hroom, hle, hs'⟩ := offered_of_taken ho
    obtain ⟨hrest, hresult⟩ := ih
    have hsplit : (b :: rest).take (n + 1) ++ rest.drop n = b :: rest :=
      List.take_append_drop (n + 1) (b :: rest)
    have hall := hs'.append hrest
    have hboth := hs'.hasRoom_append (rest.drop n)
    rw [hsplit] at hall hboth
    rw [List.length_take_of_le hle] at hboth
    have hiff : s'.HasRoom (rest.drop n).length ↔ s.HasRoom (b :: rest).length := by
      rw [hboth]
      exact ⟨fun h => ⟨hroom, h⟩, fun h => h.2⟩
    refine ⟨hall, ?_⟩
    rw [hresult, hs'.reason_eq]
    simp only [hiff]

/-- Buffers delivered one after the other are delivered as one row of bytes. -/
theorem deliverEach_offered (s : Sink) (parts : List Bytes) :
    s.Offered parts.flatten (s.deliverEach parts).2 ∧
      (s.deliverEach parts).1 =
        if s.HasRoom parts.flatten.length then .ok () else .error s.reason := by
  induction parts generalizing s with
  | nil =>
    refine ⟨offered_nil s, ?_⟩
    rw [List.flatten_nil, List.length_nil, if_pos s.hasRoom_zero]
    rfl
  | cons bs more ih =>
    obtain ⟨hs', hresult⟩ := deliver_offered s bs
    rw [deliverEach, List.flatten_cons]
    generalize s.deliver bs = first at hs' hresult ⊢
    obtain ⟨result, s'⟩ := first
    by_cases hroom : s.HasRoom bs.length
    · -- the other buffers are offered to what the sink has become
      rw [if_pos hroom] at hresult
      obtain rfl : result = .ok () := hresult
      obtain ⟨hmore, hresult'⟩ := ih s'
      refine ⟨hs'.append hmore, ?_⟩
      dsimp only
      rw [hresult', hs'.reason_eq]
      have hiff : s'.HasRoom more.flatten.length ↔ s.HasRoom (bs ++ more.flatten).length := by
        rw [hs'.hasRoom_append]
        exact ⟨fun h => ⟨hroom, h⟩, fun h => h.2⟩
      simp only [hiff]
    · -- the buffers behind the one that does not fit are not offered
      rw [if_neg hroom] at hresult
      obtain rfl : result = .error s.reason := hresult
      have hnone : ¬ s.HasRoom (bs ++ more.flatten).length := by
        rw [hs'.hasRoom_append]
        exact fun h => hroom h.1
      rw [if_neg hnone]
      exact ⟨hs'.of_not_hasRoom hroom more.flatten, rfl⟩

/-- **Buffers are sent** as far as there is room for them, and flushed if there is room for all. -/
theorem send_offered (s : Sink) (parts : List Bytes) :
    s.Offered parts.flatten (s.send parts).2 ∧
      (s.send parts).1 = if s.HasRoom parts.flatten.length then s.flush.1 else .error s.reason := by
  obtain ⟨hs', hresult⟩ := deliverEach_offered s parts
  rw [send]
  generalize s.deliverEach parts = delivered at hs' hresult ⊢
  obtain ⟨result, s'⟩ := delivered
  by_cases hroom : s.HasRoom parts.flatten.length
  · rw [if_pos hroom] at hresult ⊢
    obtain rfl : result = .ok () := hresult
    have hflush : s'.flush = (s.flush.1, s') := by
      unfold flush
      have hrefusal : s'.flushRefusal = s.flushRefusal := hs'.flushRefusal_eq
      rw [hrefusal]
      cases s.flushRefusal <;> rfl
    dsimp only
    rw [hflush]
    exact ⟨hs', rfl⟩
  · rw [if_neg hroom] at hresult ⊢
    obtain rfl : result = .error s.reason := hresult
    exact ⟨hs', rfl⟩

end Sink

/-! ## Frames -/

namespace Wire

/-- A text was sent to a sink with a mark behind it. -/
structure Framed (text : Bytes) (mark : UInt8) (s : Sink) (sent : Except Failure Unit × Sink) :
    Prop where
  /-- What arrived are the first bytes of the frame, as many as there was room for. -/
  taken_eq : sent.2.taken = s.taken ++ s.fit (text ++ [mark])
  /-- The sender succeeds exactly if there was room for the whole frame and it was flushed. -/
  ok_iff : sent.1 = .ok () ↔ s.HasRoom (text.length + 1) ∧ s.flushRefusal = none
  /-- Otherwise it fails for the sink's own reason, to take no more or not to flush. -/
  error_iff : ∀ f, sent.1 = .error f ↔
    ¬ s.HasRoom (text.length + 1) ∧ f = s.reason ∨
      s.HasRoom (text.length + 1) ∧ s.flushRefusal = some f
  /-- The mark arrives only behind the whole text. -/
  eq_of_mark_mem : mark ∉ text → mark ∈ s.fit (text ++ [mark]) →
    s.fit (text ++ [mark]) = text ++ [mark]
  /-- It does not arrive twice. -/
  count_mark_le : mark ∉ text → (s.fit (text ++ [mark])).count mark ≤ 1

/-- What fits of a frame is the frame, or is a part of its text alone. -/
theorem fit_frame (s : Sink) (text : Bytes) (mark : UInt8) :
    s.HasRoom (text.length + 1) ∧ s.fit (text ++ [mark]) = text ++ [mark] ∨
      ¬ s.HasRoom (text.length + 1) ∧ s.fit (text ++ [mark]) <+: text := by
  have hlength : (text ++ [mark]).length = text.length + 1 := List.length_append
  by_cases hroom : s.HasRoom (text.length + 1)
  · exact Or.inl ⟨hroom, Sink.fit_of_hasRoom (hlength ▸ hroom)⟩
  · right
    refine ⟨hroom, ?_⟩
    obtain ⟨room, hr, hlt⟩ := Sink.not_hasRoom_iff.1 hroom
    unfold Sink.fit
    rw [hr]
    dsimp only
    rw [List.take_append_of_le_length (Nat.le_of_lt_succ hlt)]
    exact List.take_prefix room text

/-- Buffers that are a frame together are sent as one. -/
theorem framed_of_send {text : Bytes} {mark : UInt8} {parts : List Bytes}
    (hparts : parts.flatten = text ++ [mark]) (s : Sink) : Framed text mark s (s.send parts) := by
  obtain ⟨hs', hresult⟩ := s.send_offered parts
  have hlength : (text ++ [mark]).length = text.length + 1 := List.length_append
  rw [hparts] at hs' hresult
  rw [hlength] at hresult
  refine ⟨hs'.taken_eq, ?_, ?_, ?_, ?_⟩
  · rw [hresult]
    unfold Sink.flush
    by_cases hroom : s.HasRoom (text.length + 1)
    · cases hf : s.flushRefusal <;> simp [hroom]
    · simp [hroom]
  · intro f
    rw [hresult]
    unfold Sink.flush
    by_cases hroom : s.HasRoom (text.length + 1)
    · cases hf : s.flushRefusal <;> simp [hroom]
    · simp [hroom, eq_comm]
  · -- a part of the text alone has no mark
    intro hmark hmem
    rcases fit_frame s text mark with ⟨-, hall⟩ | ⟨-, hpart⟩
    · exact hall
    · exact absurd (hpart.subset hmem) hmark
  · intro hmark
    rcases fit_frame s text mark with ⟨-, hall⟩ | ⟨-, hpart⟩
    · have hone : (text ++ [mark]).count mark = 1 := by
        rw [List.count_append, List.count_eq_zero.2 hmark, List.count_singleton_self]
      rw [hall]
      exact Nat.le_of_eq hone
    · have hzero : (s.fit (text ++ [mark])).count mark = 0 :=
        List.count_eq_zero.2 fun hmem => hmark (hpart.subset hmem)
      omega

/-- **A frame arrives whole or is visibly incomplete.** On every sink, whatever portions it takes
and whichever offers it interrupts, how much room it has, and whether and why it refuses bytes or a
flush: requests, responses and bare sentinels arrive as the first part of a frame for which there is
room, the sender is told exactly whether that was all of it, and no mark arrives behind a part of a
text. -/
theorem send_framed (text : Text) (s : Sink) :
    Framed (Utf8.encode text) terminator s (sendRequest text s) ∧
      Framed (Utf8.encode text) sentinel s (sendResponse text s) ∧
      Framed [] sentinel s (sendSentinel s) := by
  refine ⟨framed_of_send ?_ s, framed_of_send ?_ s, framed_of_send ?_ s⟩
  · rw [List.flatten_cons, List.flatten_singleton]
  · rw [List.flatten_cons, List.flatten_singleton]
  · rfl

/-- There is room for the text and none for its terminator. -/
example : (sendRequest ['l', 's'] { portions := [.bytes 1, .interrupted], room := some 2 }).2 =
    { taken := [108, 115], room := some 0 } := by
  decide +kernel

end Wire

end PipeShell
