/-!
# Text and its blanks

A line is handled as the list of its characters. Blanks are the characters of the Unicode property
`White_Space`; they separate words and are trimmed from both ends of a line, so one table serves
both uses and a segment that survives trimming holds a character the scanner reads as a token.

Proves: core's white-space characters are blank (`isBlank_of_isWhitespace`), a trimmed text starts
and ends with no blank (`head_trim`, `getLast_trim`), and trimming twice changes nothing more
(`trim_trim`).
-/

set_option autoImplicit false

namespace PipeShell

/-- A text is the list of its characters. -/
abbrev Text := List Char

namespace Text

/-- The ranges of `White_Space`, first and last code point. -/
def blankRanges : List (Nat × Nat) :=
  [(0x09, 0x0D), (0x20, 0x20), (0x85, 0x85), (0xA0, 0xA0), (0x1680, 0x1680), (0x2000, 0x200A),
    (0x2028, 0x2029), (0x202F, 0x202F), (0x205F, 0x205F), (0x3000, 0x3000)]

/-- A character is blank when its code point lies in one of the ranges. -/
def isBlank (c : Char) : Bool :=
  blankRanges.any fun r => decide (r.1 ≤ c.toNat) && decide (c.toNat ≤ r.2)

/-- Drops the blanks in front. -/
def trimStart (t : Text) : Text := t.dropWhile isBlank

/-- Drops the blanks at the end. -/
def trimEnd (t : Text) : Text := (t.reverse.dropWhile isBlank).reverse

/-- Drops the blanks at both ends. -/
def trim (t : Text) : Text := trimEnd (trimStart t)

theorem isBlank_of_isWhitespace {c : Char} (h : c.isWhitespace = true) : isBlank c = true := by
  simp only [Char.isWhitespace, Bool.or_eq_true, decide_eq_true_eq] at h
  rcases h with ((h | h) | h) | h <;> subst h <;> decide

/-- What `dropWhile` leaves starts with a character that fails the test. -/
theorem head_dropWhile {p : Char → Bool} {t : Text} {c : Char}
    (h : (t.dropWhile p).head? = some c) : p c = false := by
  induction t with
  | nil => simp at h
  | cons d r ih =>
    by_cases hd : p d = true
    · exact ih (by simpa [List.dropWhile, hd] using h)
    · simp [List.dropWhile, hd] at h
      simpa [h] using hd

/-- A text that starts with no blank keeps its start when its end is trimmed. -/
theorem trimEnd_prefix (t : Text) : trimEnd t <+: t := by
  have h : t.reverse.dropWhile isBlank <:+ t.reverse := List.dropWhile_suffix _
  simpa [trimEnd] using List.reverse_prefix.2 h

theorem getLast_trim {t : Text} {c : Char} (h : (trim t).getLast? = some c) : isBlank c = false := by
  refine head_dropWhile (p := isBlank) (t := (trimStart t).reverse) ?_
  simpa [trim, trimEnd, List.getLast?_reverse] using h

theorem head_trim {t : Text} {c : Char} (h : (trim t).head? = some c) : isBlank c = false := by
  obtain ⟨r, hr⟩ := trimEnd_prefix (trimStart t)
  refine head_dropWhile (p := isBlank) (t := t) ?_
  have : (trimStart t).head? = some c := by
    rw [← hr]
    unfold trim at h
    cases htrim : trimEnd (trimStart t) with
    | nil => simp [htrim] at h
    | cons d s => simpa [htrim] using h
  exact this

/-- A text with no blank at either end is its own trimming. -/
theorem trim_eq_self {t : Text} (hs : ∀ c, t.head? = some c → isBlank c = false)
    (he : ∀ c, t.getLast? = some c → isBlank c = false) : trim t = t := by
  have h1 : trimStart t = t := by
    cases t with
    | nil => rfl
    | cons c r => simp [trimStart, List.dropWhile, hs c rfl]
  have h2 : trimEnd t = t := by
    unfold trimEnd
    cases hr : t.reverse with
    | nil => simp [List.reverse_eq_nil_iff.1 hr]
    | cons c r =>
      have hc : t.getLast? = some c := by
        rw [← List.head?_reverse, hr]; rfl
      simp only [List.dropWhile, he c hc]
      rw [← hr, List.reverse_reverse]
  rw [trim, h1, h2]

/-- Trimming is idempotent. -/
theorem trim_trim (t : Text) : trim (trim t) = trim t :=
  trim_eq_self (fun _ => head_trim) (fun _ => getLast_trim)

end Text

end PipeShell
