import PipeShell.Text.Utf8

/-!
# Marks in a byte sequence

Requests, responses and lines all end at a mark of one byte. Cutting at the first mark gives the
bytes in front of it and those behind it.
-/

set_option autoImplicit false

namespace PipeShell.Bytes

/-- The bytes in front of the first `mark` and those behind it, if there is one. -/
def cutAt (mark : UInt8) : Bytes → Option (Bytes × Bytes)
  | [] => none
  | b :: rest =>
    if b = mark then some ([], rest)
    else (cutAt mark rest).map fun parts => (b :: parts.1, parts.2)

/-- The two parts and the mark between them are the whole, and the first part has no mark. -/
theorem cutAt_eq_some {mark : UInt8} {bs front rest : Bytes}
    (h : cutAt mark bs = some (front, rest)) : bs = front ++ mark :: rest ∧ mark ∉ front := by
  induction bs generalizing front rest with
  | nil => simp [cutAt] at h
  | cons b bs ih =>
    unfold cutAt at h
    split at h
    · simp_all
    · rename_i hb
      obtain ⟨⟨p, q⟩, hp, he⟩ := Option.map_eq_some_iff.1 h
      simp only [Prod.mk.injEq] at he
      obtain ⟨rfl, rfl⟩ := he
      obtain ⟨rfl, hm⟩ := ih hp
      exact ⟨rfl, by simp [Ne.symm hb, hm]⟩

theorem cutAt_length {mark : UInt8} {bs front rest : Bytes}
    (h : cutAt mark bs = some (front, rest)) : rest.length < bs.length := by
  rw [(cutAt_eq_some h).1]
  simp
  omega

end PipeShell.Bytes
