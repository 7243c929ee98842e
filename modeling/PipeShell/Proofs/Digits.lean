import Mathlib.Data.List.Forall2
import Mathlib.Data.List.Induction
import PipeShell.Proofs.Numerals

/-!
# Digits in a base, and numbers in decimal

A character is a digit in a base in either case (`Numeral.Digit`). A number is written in decimal
with a plain row of digits, one that has no zero in front of others (`Numeral.Plain`).

Main statements: each number is written with a plain row that has its value
(`Numeral.exists_plain`), and each plain row writes its value (`Numeral.ofNat_of_plain`).
-/

set_option autoImplicit false

namespace PipeShell.Numeral

variable {base : Nat}

/-! ## Digits -/

/-- A digit in a base, in either case. -/
def Digit (base : Nat) (c : Char) (d : Nat) : Prop :=
  d < base ∧ (c = Nat.digitChar d ∨ c = (Nat.digitChar d).toUpper)

/-- The characters that have a value in a base are its digits. -/
theorem digitIn?_eq_some_iff (hbase : base ≤ 16) {c : Char} {d : Nat} :
    digitIn? base c = some d ↔ Digit base c d := by
  have hlower : ∀ d < 16, (Nat.digitChar d).toNat = if d < 10 then 48 + d else 87 + d := by
    decide
  have hupper : ∀ d < 16, (Nat.digitChar d).toUpper.toNat = if d < 10 then 48 + d else 55 + d := by
    decide
  have hle : ∀ a b : Char, a ≤ b ↔ a.toNat ≤ b.toNat := fun _ _ => Iff.rfl
  have h0 : '0'.toNat = 48 := rfl
  have h9 : '9'.toNat = 57 := rfl
  have ha : 'a'.toNat = 97 := rfl
  have hf : 'f'.toNat = 102 := rfl
  have hA : 'A'.toNat = 65 := rfl
  have hF : 'F'.toNat = 70 := rfl
  unfold digitIn? Digit
  simp only [hle, h0, h9, ha, hf, hA, hF, Option.filter_eq_some_iff, decide_eq_true_eq]
  rw [and_comm (a := d < base), ← Char.toNat_inj, ← Char.toNat_inj]
  refine and_congr_left ?_
  intro hd
  -- all is told from the code points now
  rw [hlower d (by omega), hupper d (by omega)]
  split_ifs <;> simp <;> omega

/-- In decimal there are no cases to choose from. -/
theorem forall₂_decimal_iff {t : Text} {row : List Nat} :
    List.Forall₂ (Digit 10) t row ↔ t = row.map Nat.digitChar ∧ ∀ d ∈ row, d < 10 := by
  have hupper : ∀ d < 10, (Nat.digitChar d).toUpper = Nat.digitChar d := by decide
  constructor
  · intro h
    induction h with
    | nil => exact ⟨rfl, List.forall_mem_nil _⟩
    | @cons c d t row hd hrow ih =>
      obtain ⟨hlt, hc⟩ := hd
      obtain ⟨rfl, hall⟩ := ih
      rw [hupper d hlt, or_self] at hc
      rw [hc]
      exact ⟨rfl, List.forall_mem_cons.2 ⟨hlt, hall⟩⟩
  · rintro ⟨rfl, h⟩
    induction row with
    | nil => exact .nil
    | cons d row ih =>
      obtain ⟨hd, hrow⟩ := List.forall_mem_cons.1 h
      exact .cons ⟨hd, Or.inl rfl⟩ (ih hrow)

/-- Digits behind digits add to what those before them stand for. -/
theorem foldl_eq_ofDigits (row : List Nat) :
    row.foldl (fun n d => n * base + d) 0 = Nat.ofDigits base row.reverse := by
  have h : ∀ value, row.foldl (fun n d => n * base + d) value =
      base ^ row.length * value + Nat.ofDigits base row.reverse := by
    induction row with
    | nil => simp
    | cons d row ih =>
      intro value
      rw [List.foldl_cons, ih, Nat.ofDigits_reverse_cons, List.length_cons]
      ring
  simpa using h 0

/-! ## Writing in decimal -/

/-- Decimal digits, with no zero in front of others. -/
structure Plain (row : List Nat) : Prop where
  ne_nil : row ≠ []
  decimal : ∀ d ∈ row, d < 10
  length_of_zero : row.head? = some 0 → row.length = 1

theorem ofNat_of_plain {row : List Nat} (h : Plain row) :
    ofNat (Nat.ofDigits 10 row.reverse) = row.map Nat.digitChar := by
  induction row using List.reverseRecOn with
  | nil => exact absurd rfl h.ne_nil
  | append_singleton front d ih =>
    have hd : d < 10 := h.decimal d (by simp)
    rw [List.reverse_append, List.reverse_singleton, List.singleton_append, Nat.ofDigits_cons,
      List.map_append, List.map_singleton]
    cases front with
    | nil => simpa [ofNat] using Nat.toDigits_of_lt_base hd
    | cons e front =>
      have he : e ≠ 0 := by
        rintro rfl
        simpa using h.length_of_zero rfl
      have hfront : Plain (e :: front) := by
        refine ⟨List.cons_ne_nil _ _, fun x hx => h.decimal x (List.mem_append_left [d] hx), ?_⟩
        intro hhead
        exact absurd (Option.some.inj hhead) he
      have hpos : 0 < Nat.ofDigits 10 (e :: front).reverse := by
        rw [Nat.ofDigits_reverse_cons]
        positivity
      rw [← ih hfront, ofNat, ofNat, ← Nat.toDigits_of_lt_base hd,
        Nat.toDigits_append_toDigits (by decide) hpos hd, Nat.add_comm]

theorem exists_plain (n : Nat) :
    ∃ row, Plain row ∧ ofNat n = row.map Nat.digitChar ∧ n = Nat.ofDigits 10 row.reverse := by
  induction n using Nat.strong_induction_on with
  | _ n ih =>
    by_cases hn : n < 10
    · refine ⟨[n], ⟨List.cons_ne_nil _ _, by simpa using hn, fun _ => rfl⟩, ?_, by simp⟩
      exact Nat.toDigits_of_lt_base hn
    · obtain ⟨row, ⟨hne, hall, hzero⟩, htext, hvalue⟩ := ih (n / 10) (by omega)
      refine ⟨row ++ [n % 10], ⟨by simp, ?_, ?_⟩, ?_, ?_⟩
      · intro d hd
        rcases List.mem_append.1 hd with hd | hd
        · exact hall d hd
        · rw [List.mem_singleton.1 hd]
          exact Nat.mod_lt n (by decide)
      · -- a zero in front would be all that there is of the tens
        intro hhead
        cases row with
        | nil => exact absurd rfl hne
        | cons d row =>
          obtain rfl : d = 0 := Option.some.inj hhead
          have hone := hzero rfl
          obtain rfl : row = [] := List.length_eq_zero_iff.1 (by simpa using hone)
          simp at hvalue
          omega
      · rw [ofNat, Nat.toDigits_of_base_le (by decide) (by omega), List.map_append,
          List.map_singleton, ← htext]
        rfl
      · rw [List.reverse_append, List.reverse_singleton, List.singleton_append, Nat.ofDigits_cons,
          ← hvalue]
        have hsplit := Nat.div_add_mod n 10
        omega

/-- A number is written in digits of every base that has the decimal ones. -/
theorem ofNat_digits (hbase : 10 ≤ base) (n : Nat) :
    ∃ row, row ≠ [] ∧ List.Forall₂ (Digit base) (ofNat n) row := by
  obtain ⟨row, hplain, htext, -⟩ := exists_plain n
  refine ⟨row, hplain.ne_nil, (forall₂_decimal_iff.2 ⟨htext, hplain.decimal⟩).imp ?_⟩
  rintro c d ⟨hlt, hc⟩
  exact ⟨Nat.lt_of_lt_of_le hlt hbase, hc⟩

end PipeShell.Numeral
