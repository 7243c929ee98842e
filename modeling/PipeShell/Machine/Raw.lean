import PipeShell.Text.Utf8

/-!
# Raw text

Names, arguments and contents on the machine are rows of bytes. They are written as characters, each
byte as the character with its number, which is what a byte is to programs that know no other
characters. A text from outside comes in as the bytes of its UTF-8.
-/

set_option autoImplicit false

namespace PipeShell.Machine

/-- A row of bytes, each shown as the character with its number. -/
abbrev Raw := List Char

namespace Raw

/-- Bytes as raw text. -/
def ofBytes (bs : Bytes) : Raw := bs.map fun b => Char.ofNat b.toNat

/-- Raw text as bytes. -/
def toBytes (r : Raw) : Bytes := r.map fun c => c.toNat.toUInt8

/-- The raw text of a text. -/
def ofText (t : Text) : Raw := ofBytes (Utf8.encode t)

/-- The text that raw text stands for; what is no UTF-8 is replaced. -/
def toText (r : Raw) : Text := Utf8.decodeLossy (toBytes r)

/-- The order of raw texts by their bytes. -/
def compare : Raw → Raw → Ordering
  | [], [] => .eq
  | [], _ :: _ => .lt
  | _ :: _, [] => .gt
  | a :: as, b :: bs => if a < b then .lt else if b < a then .gt else compare as bs

/-- Does one raw text come before another, or is it the same? -/
def le (a b : Raw) : Bool := compare a b != .gt

/-- The raw text in front of the first `mark` and what follows it, if there is one. -/
def cutAt (mark : Char) : Raw → Option (Raw × Raw)
  | [] => none
  | c :: rest =>
    if c = mark then some ([], rest) else (cutAt mark rest).map fun parts => (c :: parts.1, parts.2)

theorem cutAt_length {mark : Char} {r front rest : Raw} (h : cutAt mark r = some (front, rest)) :
    rest.length < r.length := by
  induction r generalizing front rest with
  | nil => simp [cutAt] at h
  | cons c r ih =>
    unfold cutAt at h
    split at h
    · simp only [Option.some.injEq, Prod.mk.injEq] at h
      simp [h.2]
    · obtain ⟨⟨p, q⟩, hp, he⟩ := Option.map_eq_some_iff.1 h
      simp only [Prod.mk.injEq] at he
      have := ih hp
      simp only [List.length_cons, ← he.2]
      omega

/-- The parts of a raw text between marks. -/
def splitAt (mark : Char) (r : Raw) : List Raw :=
  match _h : cutAt mark r with
  | some (front, rest) => front :: splitAt mark rest
  | none => [r]
termination_by r.length
decreasing_by exact cutAt_length (by assumption)

/-- The lines of a raw text without their newlines; behind the last newline stands a line unless it
is empty. -/
def lines (r : Raw) : List Raw :=
  match _h : cutAt '\n' r with
  | some (line, rest) => line :: lines rest
  | none => if r.isEmpty then [] else [r]
termination_by r.length
decreasing_by exact cutAt_length (by assumption)

/-- Raw texts with a separator between them. -/
def joined (separator : Raw) (rs : List Raw) : Raw := (rs.intersperse separator).flatten

end Raw

end PipeShell.Machine
