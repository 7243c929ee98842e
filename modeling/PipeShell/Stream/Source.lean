import PipeShell.Stream.Failure
import PipeShell.Text.Utf8

/-!
# Byte sources

A source is what a peer, a pipe or a file still has to deliver: pieces of bytes in the portions in
which they arrive, and faults between them. After the last piece it is at its end. A read takes at
most one piece, cut to the reader's limit; the rest of a piece stays for the next read. An empty
piece reads once as an end, and what follows it is delivered afterwards.

Proves: what a read does to the size of a source (`read_size`, `read_bytes_size`, `skip_size`), by
which every loop over a source ends.
-/

set_option autoImplicit false

namespace PipeShell

/-- One event of a source: some bytes arrive, or a read fails. -/
inductive Arrival where
  | piece (bytes : Bytes)
  | fault (fault : StreamFault)
  deriving DecidableEq, Repr

/-- The events still to come, in order. -/
abbrev Source := List Arrival

namespace Source

/-- The bytes of a source, faults left out. -/
def bytes : Source → Bytes
  | [] => []
  | .piece bs :: rest => bs ++ bytes rest
  | .fault _ :: rest => bytes rest

/-- The number of events and bytes still to come. -/
def size : Source → Nat
  | [] => 0
  | .piece bs :: rest => bs.length + 1 + size rest
  | .fault _ :: rest => 1 + size rest

/-- One read of at most `limit` bytes. No bytes means the end. -/
def read (limit : Nat) : Source → Except StreamFault Bytes × Source
  | [] => (.ok [], [])
  | .fault f :: rest => (.error f, rest)
  | .piece bs :: rest =>
    if bs.length ≤ limit then (.ok bs, rest)
    else (.ok (bs.take limit), .piece (bs.drop limit) :: rest)

/-- Puts back the rest of a piece; nothing is put back of a piece used up. -/
def unread (bs : Bytes) (rest : Source) : Source :=
  if bs.isEmpty then rest else .piece bs :: rest

/-- Drops the first `n` bytes, whoever took them. Faults in front of them go with them. -/
def skip : Nat → Source → Source
  | 0, s => s
  | _ + 1, [] => []
  | n + 1, .fault _ :: rest => skip (n + 1) rest
  | n + 1, .piece bs :: rest =>
    if bs.length ≤ n + 1 then skip (n + 1 - bs.length) rest else .piece (bs.drop (n + 1)) :: rest
termination_by _ s => s.length

/-- A source that delivers the given bytes in one piece. -/
def ofBytes (bs : Bytes) : Source := unread bs []

/-- A read that delivers bytes or a fault makes the source smaller. -/
theorem read_size {limit : Nat} (hl : 0 < limit) {s : Source} {r : Except StreamFault Bytes}
    {s' : Source} (h : read limit s = (r, s')) (hr : r ≠ .ok []) : s'.size < s.size := by
  rcases s with _ | ⟨bs | f, rest⟩
  · simp only [read, Prod.mk.injEq] at h
    exact absurd h.1.symm hr
  · by_cases hc : bs.length ≤ limit
    · simp only [read, hc, if_true, Prod.mk.injEq] at h
      simp only [size, ← h.2]
      omega
    · simp only [read, hc, if_false, Prod.mk.injEq] at h
      simp only [size, ← h.2, List.length_drop]
      omega
  · simp only [read, Prod.mk.injEq] at h
    simp only [size, ← h.2]
    omega

/-- A read never makes a source larger. -/
theorem read_size_le (limit : Nat) (s : Source) : (read limit s).2.size ≤ s.size := by
  rcases s with _ | ⟨bs | f, rest⟩
  · exact Nat.le_refl _
  · by_cases hc : bs.length ≤ limit <;> simp only [read, hc, if_true, if_false, size,
      List.length_drop] <;> omega
  · simp only [read, size]
    omega

/-- The bytes a read delivers are no more than what the source loses. -/
theorem read_bytes_size {limit : Nat} {s s' : Source} {bs : Bytes}
    (h : read limit s = (.ok bs, s')) : bs.length + s'.size ≤ s.size := by
  rcases s with _ | ⟨ps | f, rest⟩
  · simp only [read, Prod.mk.injEq, Except.ok.injEq] at h
    simp [← h.1, ← h.2]
  · by_cases hc : ps.length ≤ limit
    · simp only [read, hc, if_true, Prod.mk.injEq, Except.ok.injEq] at h
      simp only [size, ← h.1, ← h.2]
      omega
    · simp only [read, hc, if_false, Prod.mk.injEq, Except.ok.injEq] at h
      simp only [size, ← h.1, ← h.2, List.length_drop, List.length_take]
      omega
  · simp [read] at h

theorem skip_size (n : Nat) (s : Source) : (skip n s).size ≤ s.size := by
  fun_induction skip n s with
  | case1 => simp
  | case2 => simp
  | case3 n f rest ih => simp [size] at *; omega
  | case4 n bs rest h ih => simp [size]; omega
  | case5 n bs rest h => simp [size]

end Source

end PipeShell
