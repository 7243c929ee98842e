import PipeShell.Stream.Failure
import PipeShell.Text.Utf8

/-!
# Byte sinks

A sink is where bytes are delivered. It may take a buffer in portions and interrupt an offer at any
time, may have room for a limited number of bytes, and then refuses for a reason or without one;
flushing may fail too. `deliver` offers a buffer again and again, also behind an interruption, until
all of it is taken or the sink refuses, so what a sink has taken is always a first part of what it
was offered. A sink that interrupts every offer for ever would never let `deliver` return; a sink
here has finitely many interruptions.

Proves: each interruption is one of those that the sink has (`offer_interruptions`), by which
delivering ends.
-/

set_option autoImplicit false

namespace PipeShell

/-- How an offer is met. -/
inductive Portion where
  /-- At most so many bytes are taken, and at least one. -/
  | bytes (most : Nat)
  /-- The offer is interrupted, and nothing is taken. -/
  | interrupted
  deriving DecidableEq, Repr

/-- A receiver of bytes. -/
structure Sink where
  /-- What has been taken so far. -/
  taken : Bytes := []
  /-- How each of the next offers is met while there is room; later offers are taken whole. -/
  portions : List Portion := []
  /-- How many more bytes are taken in all, if there is a bound. -/
  room : Option Nat := none
  /-- Why an offer is refused once there is no room; without a reason nothing is taken. An
  interruption is met once, and from then on nothing is taken. -/
  refusal : Option Failure := none
  /-- Why a flush fails. -/
  flushRefusal : Option Failure := none
  deriving DecidableEq, Repr

namespace Sink

/-- How many of `n` offered bytes are in the next portion, which has at least one. -/
def portion (s : Sink) (n : Nat) : Nat :=
  match s.portions with
  | .bytes most :: _ => min n (max most 1)
  | _ => n

/-- How many of `n` offered bytes the next offer takes, if it is not interrupted. -/
def share (s : Sink) (n : Nat) : Nat :=
  match s.room with
  | none => s.portion n
  | some room => min (s.portion n) room

/-- Offers a buffer once and tells how much of it was taken. -/
def offer (s : Sink) (bs : Bytes) : Except Failure Nat × Sink :=
  match s.portions with
  | .interrupted :: later => (.error (.stream .interrupted), { s with portions := later })
  | _ =>
    let n := s.share bs.length
    if n = 0 then
      match s.refusal with
      | some f => (.error f, { s with refusal := if f.isInterruption then none else some f })
      | none => (.ok 0, s)
    else
      (.ok n, { s with taken := s.taken ++ bs.take n, portions := s.portions.tail,
                       room := s.room.map (· - n) })

/-- How many offers can still be interrupted. -/
def interruptions (s : Sink) : Nat :=
  s.portions.count .interrupted + if s.refusal.any Failure.isInterruption then 1 else 0

/-- An interrupted offer uses up an interruption, and no other offer makes more of them. -/
theorem offer_interruptions (s : Sink) (bs : Bytes) :
    (s.offer bs).2.interruptions ≤ s.interruptions ∧
      ∀ f, (s.offer bs).1 = .error f → f.isInterruption = true →
        (s.offer bs).2.interruptions < s.interruptions := by
  unfold offer
  split
  · rename_i later hp
    simp only [interruptions, hp, List.count_cons_self]
    exact ⟨by omega, fun _ _ _ => by omega⟩
  · dsimp only
    split
    · -- there is no room
      cases hr : s.refusal with
      | none => exact ⟨Nat.le_refl _, fun f h => by cases h⟩
      | some f =>
        cases hi : f.isInterruption with
        | false =>
          refine ⟨by simp [interruptions, hr, hi], fun g h hg => ?_⟩
          cases h
          rw [hi] at hg
          cases hg
        | true => simp [interruptions, hr, hi]
    · refine ⟨?_, fun f h => by cases h⟩
      have htail := (List.tail_sublist s.portions).count_le Portion.interrupted
      simp only [interruptions]
      omega

/-- Offers a buffer until it is taken whole, again where it was interrupted. A sink that takes
nothing of it has failed. -/
def deliver (s : Sink) (bs : Bytes) : Except Failure Unit × Sink :=
  match bs with
  | [] => (.ok (), s)
  | b :: rest =>
    match _h : s.offer (b :: rest) with
    | (.error f, s') => if f.isInterruption then s'.deliver (b :: rest) else (.error f, s')
    | (.ok 0, s') => (.error .writeZero, s')
    | (.ok (n + 1), s') => s'.deliver (rest.drop n)
termination_by bs.length + s.interruptions
decreasing_by
  all_goals
    obtain ⟨hle, hlt⟩ := s.offer_interruptions (b :: rest)
    rw [_h] at hle hlt
  · have hless := hlt f rfl ‹_›
    simp only at hless ⊢
    omega
  · simp only [List.length_drop, List.length_cons] at hle ⊢
    omega

/-- Flushes. -/
def flush (s : Sink) : Except Failure Unit × Sink :=
  match s.flushRefusal with
  | some f => (.error f, s)
  | none => (.ok (), s)

/-- Delivers buffers one after the other, up to the first that fails. -/
def deliverEach (s : Sink) : List Bytes → Except Failure Unit × Sink
  | [] => (.ok (), s)
  | bs :: more =>
    match s.deliver bs with
    | (.error f, s') => (.error f, s')
    | (.ok (), s') => s'.deliverEach more

/-- Delivers buffers one after the other and then flushes. -/
def send (s : Sink) (parts : List Bytes) : Except Failure Unit × Sink :=
  match s.deliverEach parts with
  | (.error f, s') => (.error f, s')
  | (.ok (), s') => s'.flush

/-- A sink that has no room, and refuses every byte for the given reason. -/
def refusing (f : Failure) : Sink := { room := some 0, refusal := some f }

end Sink

end PipeShell
