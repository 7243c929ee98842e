import PipeShell.Text.Blank

/-!
# UTF-8

Encoding, strict decoding and forgiving decoding of texts. Decoding goes character by character:
`step` reads what the lead byte announces, as far as the bytes that follow are allowed to, and
reports either the character or one ill-formed piece. The forgiving decoder writes U+FFFD once for
each such piece; the strict one refuses the whole text.
-/

set_option autoImplicit false

namespace PipeShell

/-- A sequence of bytes. -/
abbrev Bytes := List UInt8

namespace Utf8

/-- The bytes of a text. -/
def encode (t : Text) : Bytes := t.flatMap String.utf8EncodeChar

/-- The number of bytes a text takes. -/
def length (t : Text) : Nat := (t.map Char.utf8Size).foldl (· + ·) 0

/-- The character written for an ill-formed piece. -/
def replacement : Char := Char.ofNat 0xFFFD

/-- How many continuation bytes a lead byte announces, the bits it contributes, and the range
allowed for the first continuation byte, which rules out overlong forms and surrogates. -/
def lead (b : UInt8) : Option (Nat × Nat × Nat × Nat) :=
  let n := b.toNat
  if n < 0xC2 then none
  else if n < 0xE0 then some (1, n - 0xC0, 0x80, 0xBF)
  else if n = 0xE0 then some (2, 0, 0xA0, 0xBF)
  else if n = 0xED then some (2, 0xD, 0x80, 0x9F)
  else if n < 0xF0 then some (2, n - 0xE0, 0x80, 0xBF)
  else if n = 0xF0 then some (3, 0, 0x90, 0xBF)
  else if n < 0xF4 then some (3, n - 0xF0, 0x80, 0xBF)
  else if n = 0xF4 then some (3, 4, 0x80, 0x8F)
  else none

/-- Collects the continuation bytes still owed, the next one between `low` and `high`. Stops before
the first byte that does not fit, which then starts the next piece. -/
def continuation : Nat → Nat → Nat → Nat → Bytes → Option Char × Bytes
  | 0, code, _, _, rest => (some (Char.ofNat code), rest)
  | _ + 1, _, _, _, [] => (none, [])
  | owed + 1, code, low, high, b :: rest =>
    if low ≤ b.toNat ∧ b.toNat ≤ high then
      continuation owed (code * 64 + (b.toNat - 0x80)) 0x80 0xBF rest
    else (none, b :: rest)

/-- One character, or one ill-formed piece, and the bytes after it. -/
def step (b : UInt8) (rest : Bytes) : Option Char × Bytes :=
  if b.toNat < 0x80 then (some (Char.ofNat b.toNat), rest)
  else match lead b with
    | some (owed, code, low, high) => continuation owed code low high rest
    | none => (none, rest)

theorem continuation_length (owed code low high : Nat) (rest : Bytes) :
    (continuation owed code low high rest).2.length ≤ rest.length := by
  induction owed generalizing code low high rest with
  | zero => simp [continuation]
  | succ owed ih =>
    cases rest with
    | nil => simp [continuation]
    | cons b rest =>
      unfold continuation
      split
      · exact Nat.le_trans (ih _ _ _ _) (by simp)
      · simp

theorem step_length (b : UInt8) (rest : Bytes) : (step b rest).2.length ≤ rest.length := by
  unfold step
  split
  · simp
  · split
    · exact continuation_length _ _ _ _ _
    · simp

/-- The characters and ill-formed pieces of a byte sequence, in order. -/
def pieces : Bytes → List (Option Char)
  | [] => []
  | b :: rest => (step b rest).1 :: pieces (step b rest).2
termination_by bytes => bytes.length
decreasing_by
  have := step_length b rest
  simp only [List.length_cons]
  omega

/-- Decodes every byte sequence: an ill-formed piece becomes one replacement character. -/
def decodeLossy (bytes : Bytes) : Text := (pieces bytes).map fun p => p.getD replacement

/-- Decodes a well-formed byte sequence and refuses any other. -/
def decode? (bytes : Bytes) : Option Text := (pieces bytes).mapM id

end Utf8

end PipeShell
