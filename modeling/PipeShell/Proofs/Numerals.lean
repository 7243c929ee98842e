import Mathlib.Data.Nat.Digits.Defs
import PipeShell.Text.Numeral

/-!
# What numerals stand for

A numeral is one or more decimal digits, perhaps behind a plus sign. It stands for the number with
these digits, the first of them counting most (`Numeral.Denotes`). Zeros in front add nothing, and
there may be any number of them.

Main statement: what is read is exactly what a numeral stands for, if that is below the bound
(`Numeral.read?_eq_some_iff`). The induction is on the digits, behind a value already read
(`Numeral.digits?_eq_some_iff`). No digit is lost in a value that is too large, since the bound is
tested at the end.
-/

set_option autoImplicit false

namespace PipeShell.Numeral

/-- What a text stands for: a row of decimal digits, or such a row behind a plus sign. -/
inductive Denotes : Text → Nat → Prop
  | unsigned {row : List Nat} (hne : row ≠ []) (hdecimal : ∀ d ∈ row, d < 10) :
    Denotes (row.map Nat.digitChar) (Nat.ofDigits 10 row.reverse)
  | signed {row : List Nat} (hne : row ≠ []) (hdecimal : ∀ d ∈ row, d < 10) :
    Denotes ('+' :: row.map Nat.digitChar) (Nat.ofDigits 10 row.reverse)

/-! ## Digits -/

/-- The decimal digits are the ten characters that have a value. -/
theorem digit?_eq_some_iff {c : Char} {d : Nat} :
    digit? c = some d ↔ d < 10 ∧ c = Nat.digitChar d := by
  have hzero : '0'.toNat = 48 := rfl
  have hnine : '9'.toNat = 57 := rfl
  have hrange : '0' ≤ c ∧ c ≤ '9' ↔ '0'.toNat ≤ c.toNat ∧ c.toNat ≤ '9'.toNat := Iff.rfl
  unfold digit?
  simp only [hrange, hzero, hnine]
  constructor
  · intro h
    split at h
    · rename_i hc
      have hd : c.toNat - 48 = d := Option.some.inj h
      have hlt : d < 10 := by omega
      refine ⟨hlt, ?_⟩
      apply Char.toNat_inj.1
      rw [Nat.toNat_digitChar_of_lt_ten hlt]
      omega
    · cases h
  · rintro ⟨hlt, rfl⟩
    rw [Nat.toNat_digitChar_of_lt_ten hlt, if_pos (by omega)]
    congr 1
    omega

/-- A digit is neither a sign nor a blank. -/
theorem digitChar_plain {d : Nat} (h : d < 10) :
    Nat.digitChar d ≠ '+' ∧ Text.isBlank (Nat.digitChar d) = false := by
  decide +revert

/-- **Digits behind a value.** Each digit read makes the value before it count ten times as much. -/
theorem digits?_eq_some_iff {value n : Nat} {t : Text} :
    digits? value t = some n ↔
      ∃ row : List Nat, t = row.map Nat.digitChar ∧ (∀ d ∈ row, d < 10) ∧
        n = 10 ^ row.length * value + Nat.ofDigits 10 row.reverse := by
  induction t generalizing value with
  | nil =>
    constructor
    · intro h
      refine ⟨[], rfl, List.forall_mem_nil _, ?_⟩
      rw [← Option.some.inj h]
      simp
    · rintro ⟨row, hrow, -, rfl⟩
      rw [List.map_eq_nil_iff.1 hrow.symm]
      simp [digits?]
  | cons c t ih =>
    rw [digits?, Option.bind_eq_some_iff]
    constructor
    · rintro ⟨d, hc, h⟩
      obtain ⟨hd, rfl⟩ := digit?_eq_some_iff.1 hc
      obtain ⟨row, rfl, hrow, rfl⟩ := ih.1 h
      refine ⟨d :: row, rfl, List.forall_mem_cons.2 ⟨hd, hrow⟩, ?_⟩
      rw [Nat.ofDigits_reverse_cons, List.length_cons]
      ring
    · -- the first digit goes to the value in front, and the others follow
      rintro ⟨row, hrow, hdecimal, rfl⟩
      cases row with
      | nil => cases hrow
      | cons d row =>
        obtain ⟨rfl, rfl⟩ := List.cons.inj hrow
        obtain ⟨hd, hdecimal⟩ := List.forall_mem_cons.1 hdecimal
        refine ⟨d, digit?_eq_some_iff.2 ⟨hd, rfl⟩, ih.2 ⟨row, rfl, hdecimal, ?_⟩⟩
        rw [Nat.ofDigits_reverse_cons, List.length_cons]
        ring

/-! ## Numerals -/

theorem unsigned?_eq_some_iff {t : Text} {n : Nat} :
    unsigned? t = some n ↔
      ∃ row : List Nat, row ≠ [] ∧ (∀ d ∈ row, d < 10) ∧ t = row.map Nat.digitChar ∧
        n = Nat.ofDigits 10 row.reverse := by
  cases t with
  | nil =>
    constructor
    · intro h
      cases h
    · rintro ⟨row, hne, -, hrow, -⟩
      exact absurd (List.map_eq_nil_iff.1 hrow.symm) hne
  | cons c t =>
    have hdigits : digits? 0 (c :: t) = some n ↔ _ := digits?_eq_some_iff
    simp only [Nat.mul_zero, Nat.zero_add] at hdigits
    rw [unsigned?, hdigits]
    · constructor
      · rintro ⟨row, hrow, hdecimal, hn⟩
        refine ⟨row, ?_, hdecimal, hrow, hn⟩
        rintro rfl
        cases hrow
      · rintro ⟨row, -, hdecimal, hrow, hn⟩
        exact ⟨row, hrow, hdecimal, hn⟩
    · intro h
      cases h

theorem read?_plus (bound : Nat) (t : Text) :
    read? bound ('+' :: t) = (unsigned? t).filter (· < bound) := rfl

theorem read?_of_head {t : Text} (h : t.head? ≠ some '+') (bound : Nat) :
    read? bound t = (unsigned? t).filter (· < bound) := by
  unfold read?
  split
  · exact absurd rfl h
  · rfl

/-- **What is read of a text** is the number that it stands for, if that is below the bound. -/
theorem read?_eq_some_iff {bound n : Nat} {t : Text} :
    read? bound t = some n ↔ Denotes t n ∧ n < bound := by
  constructor
  · intro h
    by_cases hplus : t.head? = some '+'
    · obtain ⟨t, rfl⟩ := List.head?_eq_some_iff.1 hplus
      rw [read?_plus] at h
      obtain ⟨hread, hlt⟩ := Option.filter_eq_some_iff.1 h
      obtain ⟨row, hne, hdecimal, rfl, rfl⟩ := unsigned?_eq_some_iff.1 hread
      exact ⟨.signed hne hdecimal, of_decide_eq_true hlt⟩
    · rw [read?_of_head hplus] at h
      obtain ⟨hread, hlt⟩ := Option.filter_eq_some_iff.1 h
      obtain ⟨row, hne, hdecimal, rfl, rfl⟩ := unsigned?_eq_some_iff.1 hread
      exact ⟨.unsigned hne hdecimal, of_decide_eq_true hlt⟩
  · rintro ⟨hdenotes, hlt⟩
    cases hdenotes with
    | unsigned hne hdecimal =>
      rename_i row
      -- the first digit is not taken for a sign
      have hhead : (row.map Nat.digitChar).head? ≠ some '+' := by
        cases row with
        | nil => exact absurd rfl hne
        | cons d row =>
          intro h
          exact (digitChar_plain (hdecimal d List.mem_cons_self)).1 (Option.some.inj h)
      rw [read?_of_head hhead]
      exact Option.filter_eq_some_iff.2
        ⟨unsigned?_eq_some_iff.2 ⟨row, hne, hdecimal, rfl, rfl⟩, decide_eq_true hlt⟩
    | signed hne hdecimal =>
      rename_i row
      rw [read?_plus]
      exact Option.filter_eq_some_iff.2
        ⟨unsigned?_eq_some_iff.2 ⟨row, hne, hdecimal, rfl, rfl⟩, decide_eq_true hlt⟩

/-- Zeros in front do not bring a numeral nearer to the bound. -/
example : read? 13 "+0000012".toList = some 12 ∧ read? 12 "12".toList = none := by
  decide

/-- The characters of a numeral are none of them blank. -/
theorem Denotes.not_blank {t : Text} {n : Nat} (h : Denotes t n) :
    t ≠ [] ∧ ∀ c ∈ t, Text.isBlank c = false := by
  have hrow : ∀ {row : List Nat}, (∀ d ∈ row, d < 10) →
      ∀ c ∈ row.map Nat.digitChar, Text.isBlank c = false := by
    intro row hdecimal c hc
    obtain ⟨d, hd, rfl⟩ := List.mem_map.1 hc
    exact (digitChar_plain (hdecimal d hd)).2
  cases h with
  | unsigned hne hdecimal => exact ⟨mt List.map_eq_nil_iff.1 hne, hrow hdecimal⟩
  | signed hne hdecimal =>
    exact ⟨List.cons_ne_nil _ _, List.forall_mem_cons.2 ⟨by decide, hrow hdecimal⟩⟩

end PipeShell.Numeral
