import Mathlib.Data.Stream.Init
import PipeShell.Proofs.Requests

/-!
# What an inbox holds on to

A peer may send for ever and never end a request. What keeps an inbox small is then not the input
but the limit: `Wire.Inbox.next` reads only while it holds less than a request may take, so that one
read brings it past the limit at most once, and every read that brings bytes takes it nearer to the
limit. The distance to the limit bounds the reads of a call (`Inbox.next_takes`), whatever earlier
calls left behind and however they ended.

A source is finite. What a peer does that never ends is told by the first parts of it: a call comes
back having used no more than a limited number of events, interruptions aside, and then what follows
them follows what the call left (`Inbox.calls_followedBy`).

Main statement: after any number of calls an inbox holds less than the limit and one read together,
the next call makes at most as many reads that bring bytes as the limit allows bytes, and the bytes
received are those of the requests returned, terminators included, and those held; and from a peer
that never ends, and is not for ever interrupted, every call comes back (`Inbox.calls_bounded`).
-/

set_option autoImplicit false

namespace PipeShell

namespace Source

/-! ## Reads in a row -/

/-- Reads that bring the given portions, with any number of interrupted reads among them. -/
inductive Reads (limit : Nat) : Source → List Bytes → Source → Prop
  | done (s : Source) : Reads limit s [] s
  | interrupted {s next after : Source} {portions : List Bytes}
    (h : s.read limit = (.error .interrupted, next)) (more : Reads limit next portions after) :
    Reads limit s portions after
  | portion {s next after : Source} {b : UInt8} {bs : Bytes} {portions : List Bytes}
    (h : s.read limit = (.ok (b :: bs), next)) (more : Reads limit next portions after) :
    Reads limit s ((b :: bs) :: portions) after

/-- The number of events that are not interruptions. -/
def signals (s : Source) : Nat := s.countP (· ≠ .fault .interrupted)

theorem signals_cons (a : Arrival) (s : Source) :
    signals (a :: s) = if a = .fault .interrupted then s.signals else s.signals + 1 := by
  rw [signals, List.countP_cons]
  by_cases ha : a = .fault .interrupted <;> simp [ha, signals]

theorem signals_piece (bs : Bytes) (s : Source) :
    signals (.piece bs :: s) = s.signals + 1 :=
  List.countP_cons_of_pos (by simp)

theorem signals_append (s t : Source) : signals (s ++ t) = s.signals + t.signals :=
  List.countP_append

/-- One read uses up at most one event. -/
theorem signals_read (limit : Nat) (s : Source) :
    s.signals ≤ (s.read limit).2.signals + 1 := by
  rcases s with _ | ⟨piece | fault, rest⟩
  · exact Nat.zero_le _
  · rw [read, signals_piece]
    split
    · exact Nat.le_refl _
    · rw [signals_piece]
      exact Nat.le_succ _
  · rw [read, signals_cons]
    split
    · exact Nat.le_succ _
    · exact Nat.le_refl _

/-- A read that is not at the end does not see what is sent later. -/
theorem read_append (limit : Nat) {s : Source} (hs : s ≠ []) (later : Source) :
    (s ++ later).read limit = ((s.read limit).1, (s.read limit).2 ++ later) := by
  rcases s with _ | ⟨piece | fault, rest⟩
  · exact absurd rfl hs
  · rw [List.cons_append, read, read]
    split <;> rfl
  · rfl

/-- What reads in a row bring is a first part of the bytes. -/
theorem Reads.bytes_eq {limit : Nat} {s after : Source} {portions : List Bytes}
    (h : s.Reads limit portions after) : s.bytes = portions.flatten ++ after.bytes := by
  induction h with
  | done s => rfl
  | interrupted h more ih =>
    rw [read_fails h, bytes, ih]
  | portion h more ih =>
    rw [(read_takes h).1, ih, List.flatten_cons, List.append_assoc]

/-- Interruptions aside, reads in a row use up no more events than they bring portions. -/
theorem Reads.signals_le {limit : Nat} {s after : Source} {portions : List Bytes}
    (h : s.Reads limit portions after) : s.signals ≤ after.signals + portions.length := by
  induction h with
  | done s => exact Nat.le_refl _
  | interrupted h more ih =>
    rw [read_fails h, signals_cons, if_pos rfl]
    exact ih
  | @portion s next after b bs portions h more ih =>
    have hone : s.signals ≤ next.signals + 1 := by
      simpa only [h] using signals_read limit s
    rw [List.length_cons]
    omega

end Source

namespace Wire

/-! ## One call -/

/-- How a call ends that holds the given bytes and has come to the rest of a source: its result, the
raw bytes of the request that it returns, and what it leaves. -/
inductive Inbox.Settles (limit : Nat) (held : Bytes) (s : Source) :
    Except RequestError (Option Text) → Bytes → Inbox → Prop
  /-- What stands in front of the first terminator, or all that is held, is too long. -/
  | tooLarge (h : limit ≤ (held.takeWhile (· != terminator)).length) :
    Settles limit held s (.error (.tooLarge limit)) [] { pending := held, source := s }
  /-- A whole request is held. -/
  | request {line rest : Bytes} (hheld : held = line ++ terminator :: rest)
    (hline : terminator ∉ line) (hmax : line.length < limit) :
    Settles limit held s (.ok (some (Utf8.decodeLossy line))) (line ++ [terminator])
      { pending := rest, source := s }
  /-- A read has failed. -/
  | failed {fault : StreamFault} {after : Source}
    (h : s.read readSize = (.error fault, after)) (hfault : fault ≠ .interrupted) :
    Settles limit held s (.error (.receive fault)) [] { pending := held, source := after }
  /-- The peer has closed behind a request that nothing terminates. -/
  | tail {after : Source} (h : s.read readSize = (.ok [], after)) (hheld : held ≠ [])
    (hline : terminator ∉ held) :
    Settles limit held s (.ok (some (Utf8.decodeLossy held))) held
      { pending := [], source := after }
  /-- The peer has closed, and nothing is held. -/
  | closed {after : Source} (h : s.read readSize = (.ok [], after)) (hheld : held = []) :
    Settles limit held s (.ok none) [] { pending := held, source := after }

/-- A call that starts with an inbox makes the reads that bring the given portions, and ends. -/
def Inbox.Takes (limit : Nat) (box : Inbox) (portions : List Bytes)
    (result : Except RequestError (Option Text)) (raw : Bytes) (after : Inbox) : Prop :=
  ∃ s, box.source.Reads readSize portions s ∧
    Inbox.Settles limit (box.pending ++ portions.flatten) s result raw after

namespace Inbox

section OneCall

variable {limit : Nat} {box after : Inbox} {source : Source} {held raw : Bytes}
  {portions : List Bytes} {result : Except RequestError (Option Text)}

/-- What is held is returned, or it is held on to. -/
theorem Settles.held_eq (h : Settles limit held source result raw after) :
    held = raw ++ after.pending := by
  cases h with
  | tooLarge => rfl
  | request hheld => rw [hheld, List.append_assoc, List.singleton_append]
  | failed => rfl
  | tail => exact (List.append_nil _).symm
  | closed => rfl

/-- The last read of a call brings no bytes. -/
theorem Settles.bytes_eq (h : Settles limit held source result raw after) :
    source.bytes = after.source.bytes := by
  cases h with
  | tooLarge => rfl
  | request => rfl
  | failed h => rw [Source.read_fails h, Source.bytes]
  | tail h => exact (Source.read_takes h).1
  | closed h => exact (Source.read_takes h).1

/-- The last read of a call uses up at most one event. -/
theorem Settles.signals_le (h : Settles limit held source result raw after) :
    source.signals ≤ after.source.signals + 1 := by
  have hread := Source.signals_read readSize source
  cases h with
  | tooLarge => exact Nat.le_succ _
  | request => exact Nat.le_succ _
  | failed h => rwa [h] at hread
  | tail h => rwa [h] at hread
  | closed h => rwa [h] at hread

/-- **What a call takes in and what it gives out.** The bytes held and the portions read are the raw
bytes returned and the bytes still held. -/
theorem Takes.held_eq (h : box.Takes limit portions result raw after) :
    box.pending ++ portions.flatten = raw ++ after.pending := by
  obtain ⟨s, -, hend⟩ := h
  exact hend.held_eq

theorem Takes.bytes_eq (h : box.Takes limit portions result raw after) :
    box.source.bytes = portions.flatten ++ after.source.bytes := by
  obtain ⟨s, hreads, hend⟩ := h
  rw [hreads.bytes_eq, hend.bytes_eq]

theorem Takes.signals_le (h : box.Takes limit portions result raw after) :
    box.source.signals ≤ after.source.signals + (portions.length + 1) := by
  obtain ⟨s, hreads, hend⟩ := h
  have hportions := hreads.signals_le
  have hlast := hend.signals_le
  omega

theorem Takes.of_settles (h : Settles limit box.pending box.source result raw after) :
    box.Takes limit [] result raw after := by
  refine ⟨box.source, .done box.source, ?_⟩
  rwa [List.flatten_nil, List.append_nil]

theorem Takes.interrupted
    (hr : box.source.read readSize = (.error .interrupted, source))
    (h : Takes limit { box with source } portions result raw after) :
    box.Takes limit portions result raw after := by
  obtain ⟨s, hreads, hend⟩ := h
  exact ⟨s, .interrupted hr hreads, hend⟩

theorem Takes.portion {b : UInt8} {bs : Bytes}
    (hr : box.source.read readSize = (.ok (b :: bs), source))
    (h : Takes limit { pending := box.pending ++ b :: bs, source } portions result raw after) :
    box.Takes limit ((b :: bs) :: portions) result raw after := by
  obtain ⟨s, hreads, hend⟩ := h
  refine ⟨s, .portion hr hreads, ?_⟩
  rwa [List.flatten_cons, ← List.append_assoc]

end OneCall

/-! ## The room up to the limit -/

/-- Portions that a call can have read which started with the given bytes: no more of them than
there was room up to the limit, and together with what was held at most one read past it. -/
structure Within (limit : Nat) (held : Bytes) (portions : List Bytes) : Prop where
  portions_le : portions.length ≤ limit - held.length
  held_le : (held ++ portions.flatten).length ≤ max held.length (limit - 1 + readSize)

theorem Within.nil (limit : Nat) (held : Bytes) : Within limit held [] where
  portions_le := Nat.zero_le _
  held_le := by
    rw [List.flatten_nil, List.append_nil]
    exact Nat.le_max_left _ _

/-- A portion that is read while there is room takes some of the room. -/
theorem Within.cons {limit : Nat} {held : Bytes} {b : UInt8} {bs : Bytes} {portions : List Bytes}
    (hroom : held.length < limit) (hsize : (b :: bs).length ≤ readSize)
    (h : Within limit (held ++ b :: bs) portions) : Within limit held ((b :: bs) :: portions) where
  portions_le := by
    have hle := h.portions_le
    rw [List.length_append, List.length_cons] at hle
    rw [List.length_cons]
    omega
  held_le := by
    have hle := h.held_le
    rw [List.flatten_cons, ← List.append_assoc]
    have hportion : (held ++ b :: bs).length ≤ limit - 1 + readSize := by
      rw [List.length_append]
      omega
    calc (held ++ b :: bs ++ portions.flatten).length
        ≤ max (held ++ b :: bs).length (limit - 1 + readSize) := hle
      _ = limit - 1 + readSize := Nat.max_eq_right hportion
      _ ≤ max held.length (limit - 1 + readSize) := Nat.le_max_right _ _

/-- **One call.** The induction is on the loop. What decreases towards the end of a call is the room
that is left up to the limit: a read is made only while there is some, and a portion takes some of
it. -/
theorem next_takes (limit : Nat) (box : Inbox) :
    ∃ portions raw, box.Takes limit portions (box.next limit).1 raw (box.next limit).2 ∧
      Within limit box.pending portions := by
  fun_induction Inbox.next limit box with
  | case1 box request rest hc hm =>
    -- a terminator is held, but behind too many bytes
    obtain ⟨hp, hn⟩ := Bytes.cutAt_eq_some hc
    have hlong : limit ≤ (box.pending.takeWhile (· != terminator)).length := by
      rw [hp, Bytes.takeWhile_append_mark hn]
      omega
    exact ⟨[], [], .of_settles (.tooLarge hlong), .nil limit box.pending⟩
  | case2 box request rest hc hm =>
    -- a whole request is held
    obtain ⟨hp, hn⟩ := Bytes.cutAt_eq_some hc
    have hshort : request.length < limit := by omega
    exact ⟨[], request ++ [terminator], .of_settles (.request hp hn hshort),
      .nil limit box.pending⟩
  | case3 box hc hm =>
    -- there is no room, and no terminator
    have hn := Bytes.cutAt_eq_none_iff.1 hc
    have hlong : limit ≤ (box.pending.takeWhile (· != terminator)).length := by
      rwa [Bytes.takeWhile_of_not_mem hn]
    exact ⟨[], [], .of_settles (.tooLarge hlong), .nil limit box.pending⟩
  | case4 box hc hm source hr ih =>
    -- an interrupted read leaves everything to the rest of the loop
    obtain ⟨portions, raw, htakes, hwithin⟩ := ih
    exact ⟨portions, raw, .interrupted hr htakes, hwithin⟩
  | case5 box hc hm fault source hne hr =>
    -- any other fault is reported, and what is held stays
    exact ⟨[], [], .of_settles (.failed hr hne), .nil limit box.pending⟩
  | case6 box hc hm source hr he =>
    -- the end, with nothing held
    have hp : box.pending = [] := by simpa using he
    exact ⟨[], [], .of_settles (.closed hr hp), .nil limit box.pending⟩
  | case7 box hc hm source hr hne =>
    -- the end, with a request that nothing terminates
    have hn := Bytes.cutAt_eq_none_iff.1 hc
    have hp : box.pending ≠ [] := by simpa using hne
    exact ⟨[], box.pending, .of_settles (.tail hr hp hn), .nil limit box.pending⟩
  | case8 box hc hm b bs source hr ih =>
    -- a portion is read, and what it makes of the room is left to the rest of the loop
    obtain ⟨portions, raw, htakes, hwithin⟩ := ih
    have hsize := (Source.read_takes hr).2
    exact ⟨(b :: bs) :: portions, raw, .portion hr htakes, .cons (by omega) hsize hwithin⟩

/-! ## Calls in a row -/

theorem calls_succ_snd (limit n : Nat) (box : Inbox) :
    (calls limit (n + 1) box).2 = ((calls limit n box).2.next limit).2 := by
  induction n generalizing box with
  | zero => rfl
  | succ n ih => exact ih (box.next limit).2

/-- A call does not bring an inbox further past the limit than one read. -/
theorem next_pending_le (limit : Nat) (box : Inbox) :
    (box.next limit).2.pending.length ≤ max box.pending.length (limit - 1 + readSize) := by
  obtain ⟨portions, raw, htakes, hwithin⟩ := next_takes limit box
  have hle := hwithin.held_le
  rw [htakes.held_eq, List.length_append] at hle
  omega

theorem calls_pending_le (limit n : Nat) (source : Source) :
    (calls limit n { source }).2.pending.length ≤ limit - 1 + readSize := by
  induction n with
  | zero => exact Nat.zero_le _
  | succ n ih =>
    rw [calls_succ_snd]
    exact Nat.le_trans (next_pending_le limit _) (Nat.max_le.2 ⟨ih, Nat.le_refl _⟩)

/-- **Calls keep accounts.** If each call takes the given portions and gives the given raw bytes,
then all the portions together are all the raw bytes and what is still held; and with what is still
to come they are the bytes of the source. -/
theorem calls_accounts {limit : Nat} {source : Source} {portions : Nat → List Bytes}
    {raw : Nat → Bytes}
    (h : ∀ n, let box := (calls limit n { source }).2
      box.Takes limit (portions n) (box.next limit).1 (raw n) (box.next limit).2) (n : Nat) :
    ((List.range n).flatMap portions).flatten =
        (List.range n).flatMap raw ++ (calls limit n { source }).2.pending ∧
      source.bytes = ((List.range n).flatMap portions).flatten ++
        (calls limit n { source }).2.source.bytes := by
  induction n with
  | zero => exact ⟨rfl, rfl⟩
  | succ n ih =>
    obtain ⟨hgiven, hbytes⟩ := ih
    have hheld := (h n).held_eq
    have hsource := (h n).bytes_eq
    simp only [List.range_succ, List.flatMap_append, List.flatMap_singleton, List.flatten_append,
      calls_succ_snd]
    constructor
    · rw [hgiven, List.append_assoc, hheld, List.append_assoc]
    · rw [hbytes, hsource, List.append_assoc]

/-! ## Peers that never end -/

/-- The same inbox, with more to come behind what is still to come. -/
def followedBy (box : Inbox) (later : Source) : Inbox :=
  { box with source := box.source ++ later }

/-- What a call does that makes a read. -/
theorem next_of_room {limit : Nat} {pending : Bytes} (source : Source)
    (hc : Bytes.cutAt terminator pending = none) (hm : ¬ limit ≤ pending.length) :
    Inbox.next limit { pending, source } = match source.read readSize with
      | (.error .interrupted, source) => Inbox.next limit { pending, source }
      | (.error fault, source) => (.error (.receive fault), { pending, source })
      | (.ok [], source) =>
        if pending.isEmpty then (.ok none, { pending, source })
        else (.ok (some (Utf8.decodeLossy pending)), { pending := [], source })
      | (.ok (b :: bs), source) => Inbox.next limit { pending := pending ++ b :: bs, source } := by
  rw [Inbox.next]
  simp only [hc, if_neg hm]
  split <;> simp only [*]

/-- A call that starts where there is nothing more to read leaves nothing to read. -/
theorem next_source_nil (limit : Nat) (box : Inbox) (h : box.source = []) :
    (box.next limit).2.source = [] := by
  unfold Inbox.next
  split
  · split <;> exact h
  · split
    · exact h
    · rw [h]
      simp only [Source.read]
      split <;> rfl

/-- **A call does not see what is sent later.** If it leaves something to read, it does not matter
what follows. -/
theorem next_followedBy (limit : Nat) (box : Inbox) (h : (box.next limit).2.source ≠ [])
    (later : Source) :
    (box.followedBy later).next limit =
      ((box.next limit).1, (box.next limit).2.followedBy later) := by
  have hsource : box.source ≠ [] := mt (next_source_nil limit box) h
  have hread := Source.read_append readSize hsource later
  unfold followedBy
  fun_induction Inbox.next limit box with
  | case1 box request rest hc hm =>
    -- in this case and the next two nothing is read
    rw [Inbox.next]
    simp only [hc, if_pos hm]
  | case2 box request rest hc hm =>
    rw [Inbox.next]
    simp only [hc, if_neg hm]
  | case3 box hc hm =>
    rw [Inbox.next]
    simp only [hc, if_pos hm]
  | case4 box hc hm source hr ih =>
    -- the read is the same, and leaves something for the rest of the loop
    rw [next_of_room _ hc hm, hread, hr]
    have hleft : source ≠ [] := mt (next_source_nil limit { box with source }) h
    exact ih h hleft (Source.read_append readSize hleft later)
  | case5 box hc hm fault source hne hr =>
    rw [next_of_room _ hc hm, hread, hr]
    cases fault with
    | interrupted => exact absurd rfl hne
    | _ => rfl
  | case6 box hc hm source hr he =>
    -- a piece without bytes is an end with something behind it
    rw [next_of_room _ hc hm, hread, hr]
    exact if_pos he
  | case7 box hc hm source hr hne =>
    rw [next_of_room _ hc hm, hread, hr]
    exact if_neg hne
  | case8 box hc hm b bs source hr ih =>
    rw [next_of_room _ hc hm, hread, hr]
    have hleft : source ≠ [] := mt (next_source_nil limit { pending := _, source }) h
    exact ih h hleft (Source.read_append readSize hleft later)

/-- Interruptions aside, a call uses up one event more than the limit at most. -/
theorem next_signals_le (limit : Nat) (box : Inbox) :
    box.source.signals ≤ (box.next limit).2.source.signals + (limit + 1) := by
  obtain ⟨portions, raw, htakes, hwithin⟩ := next_takes limit box
  have hused := htakes.signals_le
  have hcount := hwithin.portions_le
  omega

/-- **Calls do not see what is sent later.** The induction is on the calls, and what carries it is
that each of them leaves enough events for those after it. -/
theorem calls_followedBy (limit n : Nat) (box : Inbox)
    (h : n * (limit + 1) < box.source.signals) (later : Source) :
    calls limit n (box.followedBy later) =
      ((calls limit n box).1, (calls limit n box).2.followedBy later) := by
  induction n generalizing box with
  | zero => rfl
  | succ n ih =>
    have hused := next_signals_le limit box
    rw [Nat.succ_mul] at h
    have hleft : (box.next limit).2.source ≠ [] := by
      intro hnil
      rw [hnil] at hused
      have hnone : Source.signals [] = 0 := rfl
      omega
    simp only [calls, next_followedBy limit box hleft later]
    rw [ih (box.next limit).2 (by omega)]

end Inbox

end Wire

namespace Source

/-- A peer that is not interrupted for ever comes to send any number of other events. -/
theorem exists_le_signals (peer : Stream' Arrival)
    (h : ∀ k, ∃ j, k ≤ j ∧ peer.get j ≠ .fault .interrupted) (n : Nat) :
    ∃ used, n ≤ signals (peer.take used) := by
  induction n with
  | zero => exact ⟨0, Nat.zero_le _⟩
  | succ n ih =>
    obtain ⟨used, hused⟩ := ih
    obtain ⟨j, hj, hsignal⟩ := h used
    obtain ⟨between, rfl⟩ := Nat.exists_eq_add_of_le hj
    -- the events up to that one bring one signal more, at least
    refine ⟨used + between + 1, ?_⟩
    rw [Stream'.take_succ', Stream'.take_add, signals_append, signals_append, signals_cons,
      if_neg hsignal]
    omega

end Source

namespace Wire

/-- **An inbox is bounded, and its calls come back.** After any number of calls, with any results,
an inbox holds less than the limit and one read together. The next call takes in at most as many
portions as the limit allows bytes and then ends; what all calls took in is the raw bytes of the
requests they returned and what is held, and with what is still to come it is all the peer sends.

A peer may never end, and may never end a request: unless its reads are interrupted for ever, any
number of calls come back having used finitely many of its events, with the same results and the
same bytes held however many events are waiting behind those. -/
theorem Inbox.calls_bounded (limit : Nat) :
    (∀ source : Source, ∃ (portions : Nat → List Bytes) (raw : Nat → Bytes), ∀ n,
      let box := (Inbox.calls limit n { source }).2
      let received := ((List.range n).flatMap portions).flatten
      box.pending.length ≤ max limit 1 - 1 + readSize ∧
        box.Takes limit (portions n) (box.next limit).1 (raw n) (box.next limit).2 ∧
        (portions n).length ≤ limit ∧
        received = (List.range n).flatMap raw ++ box.pending ∧
        source.bytes = received ++ box.source.bytes) ∧
      ∀ peer : Stream' Arrival, (∀ k, ∃ j, k ≤ j ∧ peer.get j ≠ .fault .interrupted) →
        ∀ n, ∃ used results, ∃ box : Inbox, box.pending.length ≤ max limit 1 - 1 + readSize ∧
          ∀ more, Inbox.calls limit n { source := peer.take (used + more) } =
            (results, box.followedBy ((peer.drop used).take more)) := by
  constructor
  · intro source
    -- what the calls take and give is told call by call
    choose portions raw htakes hwithin using
      fun n => Inbox.next_takes limit (Inbox.calls limit n { source }).2
    refine ⟨portions, raw, fun n => ?_⟩
    obtain ⟨hgiven, hbytes⟩ := Inbox.calls_accounts htakes n
    have hheld := Inbox.calls_pending_le limit n source
    have hcount : (portions n).length ≤ limit :=
      Nat.le_trans (hwithin n).portions_le (Nat.sub_le _ _)
    exact ⟨by omega, htakes n, hcount, hgiven, hbytes⟩
  · intro peer hpeer n
    -- enough events are waiting for all the calls, and those behind them are not seen
    obtain ⟨used, hused⟩ := Source.exists_le_signals peer hpeer (n * (limit + 1) + 1)
    have hheld := Inbox.calls_pending_le limit n (peer.take used)
    refine ⟨used, (Inbox.calls limit n { source := peer.take used }).1,
      (Inbox.calls limit n { source := peer.take used }).2, by omega, fun more => ?_⟩
    rw [Stream'.take_add]
    exact Inbox.calls_followedBy limit n { source := peer.take used } hused _

/-- A peer that sends one byte after the other and never a terminator. -/
def flood : Stream' Arrival := Stream'.const (.piece [97])

/-- Calls on a flood come back. -/
theorem Inbox.calls_flood :
    (∀ k, ∃ j, k ≤ j ∧ flood.get j ≠ .fault .interrupted) ∧
      ∀ n, ∃ used results, ∃ box : Inbox, box.pending.length ≤ max 3 1 - 1 + readSize ∧
        ∀ more, Inbox.calls 3 n { source := flood.take (used + more) } =
          (results, box.followedBy ((flood.drop used).take more)) := by
  have hflood : ∀ k, ∃ j, k ≤ j ∧ flood.get j ≠ .fault .interrupted :=
    fun k => ⟨k, Nat.le_refl k, nofun⟩
  exact ⟨hflood, (Inbox.calls_bounded 3).2 flood hflood⟩

end Wire

end PipeShell
