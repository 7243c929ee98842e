import Mathlib.Control.Monad.Basic
import PipeShell.Proofs.Joining

/-!
# Lines under tighter limits

Limits are compared by what they allow to lines (`Limits.Within`). What is read under tighter limits
is what is read under wider ones, or something is too big (`Tightened`). A check that the wider
limits fail as well keeps this, and so does reading one thing after another
(`Tightened.guard`, `Tightened.bind`): where both go on, they go on with the same draft, so no later
error can differ. Only the number of commands is checked apart.

Main statement: a line that is read, or has a fault that is no matter of limits, comes to the same
under wider limits; tighter ones turn results into errors about limits alone
(`Pipeline.parse_within`).
-/

set_option autoImplicit false

namespace PipeShell

/-- Limits that allow a line no more than others do. How long a request may be does not matter. -/
structure Limits.Within (tight wide : Limits) : Prop where
  commands : tight.commands ≤ wide.commands
  programLength : tight.programLength ≤ wide.programLength
  argLength : tight.argLength ≤ wide.argLength
  args : tight.args ≤ wide.args

/-- What tighter limits make of a result: it stands, or something is too big. -/
def Tightened {α : Type} (tight wide : Except ParseError α) : Prop :=
  tight = wide ∨ tight = .error .tooBig

namespace Tightened

variable {α β : Type}

theorem refl (x : Except ParseError α) : Tightened x x := Or.inl rfl

/-- A check that is failed under wider limits is failed under tighter ones. -/
theorem guard {p q : Prop} [Decidable p] [Decidable q] (h : q → p) (x : Except ParseError α) :
    Tightened (if p then .error .tooBig else x) (if q then .error .tooBig else x) := by
  by_cases hp : p
  · right
    rw [if_pos hp]
  · left
    rw [if_neg hp, if_neg fun hq => hp (h hq)]

/-- **One thing is read after another.** If the first is not too big, both go on from the same. -/
theorem bind {x y : Except ParseError α} {f g : α → Except ParseError β} (hx : Tightened x y)
    (hf : ∀ a, Tightened (f a) (g a)) : Tightened (x >>= f) (y >>= g) := by
  rcases hx with rfl | rfl
  · cases x with
    | error e => exact refl _
    | ok a => exact hf a
  · exact Or.inr rfl

end Tightened

variable {tight wide : Limits}

/-! ## Commands -/

namespace Command

/-- A text is taken up in the same way, as long as it and its place are within the limits. -/
theorem Draft.addText_tightened (h : tight.Within wide) (draft : Draft) (t : Text) :
    Tightened (draft.addText tight t) (draft.addText wide t) := by
  unfold addText
  by_cases hnil : t.isEmpty = true
  · rw [if_pos hnil, if_pos hnil]
    exact .refl _
  · rw [if_neg hnil, if_neg hnil]
    cases draft.name with
    | none =>
      apply Tightened.guard
      exact Nat.lt_of_le_of_lt h.programLength
    | some name =>
      -- the draft is the same, and with it the number of arguments that are counted
      apply Tightened.guard
      rintro (hlong | hmany)
      · exact Or.inl (Nat.lt_of_le_of_lt h.argLength hlong)
      · exact Or.inr (Nat.le_trans h.args hmany)

/-- A path that is missing is missing under all limits, behind the same operator. -/
theorem path_tightened (h : tight.Within wide) (op : RedirectOp) (token : Token) :
    Tightened (path tight op token) (path wide op token) := by
  unfold path
  split
  · exact .refl _
  · exact .refl _
  · apply Tightened.guard
    exact Nat.lt_of_le_of_lt h.argLength

/-- **A command from its tokens.** The induction is on the tokens left, for every draft: what has
been read before is the same under both limits. -/
theorem ofTokensFrom_tightened (h : tight.Within wide) (draft : Draft) (tokens : List Token) :
    Tightened (ofTokensFrom tight draft tokens) (ofTokensFrom wide draft tokens) := by
  fun_induction ofTokensFrom tight draft tokens with
  | case1 draft => exact .refl _
  | case2 draft op => exact .refl _
  | case3 draft op token rest ih =>
    rw [ofTokensFrom]
    exact (path_tightened h op token).bind fun t => ih t
  | case4 draft t rest ih =>
    rw [ofTokensFrom]
    exact (draft.addText_tightened h t).bind fun draft' => ih draft'
  | case5 draft t rest ih =>
    rw [ofTokensFrom]
    exact (draft.addText_tightened h t).bind fun draft' => ih draft'

theorem parse_tightened (h : tight.Within wide) (t : Text) :
    Tightened (parse tight t) (parse wide t) :=
  ofTokensFrom_tightened h {} (Token.scan t)

end Command

/-! ## Lines -/

namespace Pipeline

/-- Segments are read one after the other, so the first that is wrong is the same one, unless an
earlier one is too big. -/
theorem readSegments_tightened (h : tight.Within wide) (parts : List Text) :
    Tightened (readSegments tight parts) (readSegments wide parts) := by
  have hmapM : ∀ parts : List Text,
      Tightened (parts.mapM (Command.parse tight)) (parts.mapM (Command.parse wide)) := by
    intro parts
    induction parts with
    | nil => exact .refl _
    | cons part parts ih =>
      rw [List.mapM_cons, List.mapM_cons]
      apply (Command.parse_tightened h part).bind
      intro command
      apply ih.bind
      intro commands
      exact .refl _
  -- no segments are no commands under any limits
  cases parts with
  | nil => exact .refl _
  | cons part parts => exact hmapM (part :: parts)

/-- Under tighter limits a line comes to the same, is too many commands for them, or has something
in it that is too big for them. -/
theorem parse_tightened (h : tight.Within wide) (line : Text) :
    parse tight line = parse wide line ∨
      parse tight line = .error (.tooManyCommands tight.commands) ∨
      parse tight line = .error .tooBig := by
  rw [parse_eq_readSegments, parse_eq_readSegments]
  by_cases hmany : tight.commands < commandCount line
  · rw [if_pos hmany]
    exact Or.inr (Or.inl rfl)
  · -- the wider limits do not stop at the number of commands either
    have hfew : ¬ wide.commands < commandCount line := by
      intro hlt
      exact hmany (Nat.lt_of_le_of_lt h.commands hlt)
    rw [if_neg hmany, if_neg hfew]
    rcases readSegments_tightened h (segments line) with hsame | hbig
    · exact Or.inl hsame
    · exact Or.inr (Or.inr hbig)

/-- **Wider limits break no line.** What is read under tighter limits is read under wider ones, and
a fault that is not about limits stays the same fault. So tighter limits can make errors about
limits of a result and nothing else, however many segments and tokens of the line are wrong. -/
theorem parse_within (h : tight.Within wide) (line : Text) :
    (∀ pipeline, parse tight line = .ok pipeline → parse wide line = .ok pipeline) ∧
      (∀ e, parse tight line = .error e → (∀ max, e ≠ .tooManyCommands max) → e ≠ .tooBig →
        parse wide line = .error e) ∧
      (parse tight line = parse wide line ∨
        parse tight line = .error (.tooManyCommands tight.commands) ∨
        parse tight line = .error .tooBig) := by
  have hcases := parse_tightened h line
  refine ⟨?_, ?_, hcases⟩
  · intro pipeline hread
    rw [hread] at hcases
    rcases hcases with hsame | hmany | hbig
    · exact hsame.symm
    · cases hmany
    · cases hbig
  · intro e hread hmany' hbig'
    rw [hread] at hcases
    rcases hcases with hsame | hmany | hbig
    · exact hsame.symm
    · exact absurd (Except.error.inj hmany) (hmany' tight.commands)
    · exact absurd (Except.error.inj hbig) hbig'

/-- A line with an empty text, a path given twice, a path that is missing, and behind it an argument
of six bytes and an operator at the end. -/
def faultyLine : Text := "a \"\" >b >c | d > | e longer <".toList

/-- Limits that the argument in `faultyLine` does not keep. -/
def cramped : Limits := { commands := 3, programLength := 1, argLength := 1, args := 1 }

/-- The path is missing in front of the argument that is too long, so both limits see it. -/
theorem parse_within_faultyLine :
    cramped.Within {} ∧ parse {} faultyLine = .error (.missingPath .output) := by
  have hwithin : cramped.Within {} := ⟨by decide, by decide, by decide, by decide⟩
  have hcramped : parse cramped faultyLine = .error (.missingPath .output) := by decide +kernel
  refine ⟨hwithin, ?_⟩
  apply (parse_within hwithin faultyLine).2.1 _ hcramped
  · intro max h
    cases h
  · intro h
    cases h

end Pipeline

end PipeShell
