import PipeShell.Stream.Mark
import PipeShell.Stream.Source

/-!
# Bytes however they arrive

A source is read in the portions in which its bytes arrive. This file fixes what a reader can rely
on. In a filled source every piece holds bytes, so that no read reports an end before the end
(`Source.Filled`). A read then takes a first part of the bytes still to come, or it fails for the
next fault and takes none (`Source.read_ok`, `Source.read_error`).

`Source.Divides bs s` says that `s` delivers exactly the bytes `bs`, in any portions and with reads
interrupted anywhere.
-/

set_option autoImplicit false

namespace PipeShell

namespace Bytes

/-- There is nothing to cut exactly where the mark is missing. -/
theorem cutAt_eq_none_iff {mark : UInt8} {bs : Bytes} : cutAt mark bs = none ↔ mark ∉ bs := by
  induction bs with
  | nil => simp [cutAt]
  | cons b bs ih =>
    unfold cutAt
    by_cases hb : b = mark
    · simp [hb]
    · rw [if_neg hb, Option.map_eq_none_iff, ih, List.mem_cons, not_or]
      exact ⟨fun h => ⟨Ne.symm hb, h⟩, fun h => h.2⟩

/-- A byte sequence is cut at its first mark. -/
theorem cutAt_append {mark : UInt8} {front : Bytes} (h : mark ∉ front) (rest : Bytes) :
    cutAt mark (front ++ mark :: rest) = some (front, rest) := by
  induction front with
  | nil => simp [cutAt]
  | cons b bs ih =>
    rw [List.mem_cons, not_or] at h
    rw [List.cons_append, cutAt, if_neg (Ne.symm h.1), ih h.2]
    rfl

/-- The part before the first mark. -/
theorem takeWhile_append_mark {mark : UInt8} {front : Bytes} (h : mark ∉ front) (rest : Bytes) :
    (front ++ mark :: rest).takeWhile (· != mark) = front := by
  rw [List.takeWhile_append_of_pos, List.takeWhile_cons_of_neg, List.append_nil]
  · simp
  · intro b hb
    exact bne_iff_ne.2 fun he => h (he ▸ hb)

/-- Bytes without a mark are all before it. -/
theorem takeWhile_append_of_not_mem {mark : UInt8} {front : Bytes} (h : mark ∉ front)
    (rest : Bytes) :
    (front ++ rest).takeWhile (· != mark) = front ++ rest.takeWhile (· != mark) := by
  rw [List.takeWhile_append_of_pos]
  intro b hb
  exact bne_iff_ne.2 fun he => h (he ▸ hb)

theorem takeWhile_of_not_mem {mark : UInt8} {bs : Bytes} (h : mark ∉ bs) :
    bs.takeWhile (· != mark) = bs := by
  simpa using takeWhile_append_of_not_mem h []

theorem dropWhile_of_not_mem {mark : UInt8} {bs : Bytes} (h : mark ∉ bs) :
    bs.dropWhile (· != mark) = [] := by
  have hnil : (bs ++ []).dropWhile (· != mark) = [] :=
    List.dropWhile_append_of_pos fun b hb => bne_iff_ne.2 fun he => h (he ▸ hb)
  rwa [List.append_nil] at hnil

/-- The part behind the first mark. -/
theorem drop_dropWhile_append_mark {mark : UInt8} {front : Bytes} (h : mark ∉ front)
    (rest : Bytes) : ((front ++ mark :: rest).dropWhile (· != mark)).drop 1 = rest := by
  rw [List.dropWhile_append_of_pos, List.dropWhile_cons_of_neg (by simp), List.drop_one,
    List.tail_cons]
  intro b hb
  exact bne_iff_ne.2 fun he => h (he ▸ hb)

end Bytes

namespace Source

/-- Every piece holds bytes, so a read without bytes means the end. -/
def Filled (s : Source) : Prop := Arrival.piece [] ∉ s

instance (s : Source) : Decidable s.Filled := inferInstanceAs (Decidable (Arrival.piece [] ∉ s))

/-- The faults that a reader has to report, in order. Interruptions are none of them. -/
def faults : Source → List StreamFault
  | [] => []
  | .piece _ :: rest => faults rest
  | .fault .interrupted :: rest => faults rest
  | .fault f :: rest => f :: faults rest

/-- The source delivers exactly the given bytes, in any portions and with any interruptions. -/
structure Divides (bs : Bytes) (s : Source) : Prop where
  bytes_eq : s.bytes = bs
  filled : s.Filled
  faults_eq : s.faults = []

theorem filled_cons {a : Arrival} {s : Source} :
    Filled (a :: s) ↔ a ≠ .piece [] ∧ s.Filled := by
  rw [Filled, List.mem_cons, not_or]
  exact and_congr_left' ne_comm

theorem bytes_append (s t : Source) : bytes (s ++ t) = s.bytes ++ t.bytes := by
  induction s with
  | nil => rfl
  | cons a s ih =>
    cases a with
    | piece bs => rw [List.cons_append, bytes, bytes, ih, List.append_assoc]
    | fault f => rw [List.cons_append, bytes, bytes, ih]

theorem faults_append (s t : Source) : faults (s ++ t) = s.faults ++ t.faults := by
  induction s with
  | nil => rfl
  | cons a s ih =>
    cases a with
    | piece bs => exact ih
    | fault f =>
      cases f with
      | interrupted => exact ih
      | _ => exact congrArg _ ih

/-- What follows a divided sequence follows it divided. -/
theorem Divides.append {bs cs : Bytes} {s t : Source} (hs : s.Divides bs) (ht : t.Divides cs) :
    (s ++ t).Divides (bs ++ cs) where
  bytes_eq := by rw [bytes_append, hs.bytes_eq, ht.bytes_eq]
  filled := fun hm => (List.mem_append.1 hm).elim hs.filled ht.filled
  faults_eq := by rw [faults_append, hs.faults_eq, ht.faults_eq, List.nil_append]

/-- A read takes a first part of the bytes, and no more than it may. -/
theorem read_takes {limit : Nat} {s next : Source} {bs : Bytes}
    (h : s.read limit = (.ok bs, next)) : s.bytes = bs ++ next.bytes ∧ bs.length ≤ limit := by
  rcases s with _ | ⟨piece | fault, rest⟩
  · cases h
    exact ⟨rfl, Nat.zero_le limit⟩
  · by_cases hc : piece.length ≤ limit
    · rw [read, if_pos hc] at h
      cases h
      exact ⟨rfl, hc⟩
    · rw [read, if_neg hc] at h
      cases h
      refine ⟨?_, List.length_take_le limit piece⟩
      rw [bytes, bytes, ← List.append_assoc, List.take_append_drop]
  · cases h

/-- A read that fails takes the fault alone. -/
theorem read_fails {limit : Nat} {s next : Source} {fault : StreamFault}
    (h : s.read limit = (.error fault, next)) : s = .fault fault :: next := by
  rcases s with _ | ⟨piece | fault, rest⟩
  · cases h
  · by_cases hc : piece.length ≤ limit
    · rw [read, if_pos hc] at h
      cases h
    · rw [read, if_neg hc] at h
      cases h
  · cases h
    rfl

/-- A read that succeeds takes a first part of the bytes, and no bytes only at the end. -/
theorem read_ok {limit : Nat} (hl : 0 < limit) {s s' : Source} {bs : Bytes} (hs : s.Filled)
    (h : read limit s = (.ok bs, s')) :
    s.bytes = bs ++ s'.bytes ∧ s'.Filled ∧ s'.faults = s.faults ∧ (bs = [] → s.bytes = []) := by
  refine ⟨(read_takes h).1, ?_⟩
  rcases s with _ | ⟨ps | f, rest⟩
  · cases h
    exact ⟨hs, rfl, fun _ => rfl⟩
  · obtain ⟨hp, hrest⟩ := filled_cons.1 hs
    have hne : ps ≠ [] := fun he => hp (by rw [he])
    by_cases hc : ps.length ≤ limit
    · rw [read, if_pos hc] at h
      cases h
      exact ⟨hrest, rfl, fun he => absurd he hne⟩
    · rw [read, if_neg hc] at h
      cases h
      refine ⟨filled_cons.2 ⟨?_, hrest⟩, rfl, fun he => ?_⟩
      · intro he
        have := congrArg List.length (Arrival.piece.inj he)
        rw [List.length_drop, List.length_nil] at this
        omega
      · have := congrArg List.length he
        rw [List.length_take, List.length_nil] at this
        omega
  · cases h

/-- A read that fails takes no bytes and uses up one fault. -/
theorem read_error {limit : Nat} {s s' : Source} {f : StreamFault} (hs : s.Filled)
    (h : read limit s = (.error f, s')) :
    s'.bytes = s.bytes ∧ s'.Filled ∧
      s.faults = if f = .interrupted then s'.faults else f :: s'.faults := by
  obtain rfl := read_fails h
  refine ⟨rfl, (filled_cons.1 hs).2, ?_⟩
  cases f <;> rfl

end Source

end PipeShell
