import PipeShell.Text.Utf8

/-!
# Encoded texts read back

`Utf8.encode` writes each character with the bytes that `Utf8.step` takes for one character, so both
decoders give back every encoded text (`decodeLossy_encode`, `decode?_encode`). The proof follows
the four lengths of an encoded character; the ranges that `Utf8.lead` allows for the first
continuation byte are met because a character is neither written in a longer form nor a surrogate.

A byte of ASCII occurs in an encoded text only where its own character does (`mem_encode_iff`), and
the length of a text is the number of its bytes (`length_encode`).
-/

set_option autoImplicit false

namespace PipeShell.Utf8

/-- A continuation byte that fits is read as six more bits. -/
theorem continuation_cons {owed code low high n : Nat} (hl : low ≤ n % 64 + 128)
    (hh : n % 64 + 128 ≤ high) (rest : Bytes) :
    continuation (owed + 1) code low high (UInt8.ofNat (n % 64 + 128) :: rest) =
      continuation owed (code * 64 + n % 64) 0x80 0xBF rest := by
  have hb : (UInt8.ofNat (n % 64 + 128)).toNat = n % 64 + 128 := by
    rw [UInt8.toNat_ofNat']
    omega
  simp only [continuation, hb, hl, hh, and_self, if_true, Nat.add_sub_cancel]

theorem lead_two {v : Nat} (hl : 0x80 ≤ v) (hh : v ≤ 0x7FF) :
    lead (UInt8.ofNat (v / 64 % 32 + 0xC0)) = some (1, v / 64, 0x80, 0xBF) := by
  have hb : (UInt8.ofNat (v / 64 % 32 + 0xC0)).toNat = v / 64 + 0xC0 := by
    rw [UInt8.toNat_ofNat']
    omega
  rw [lead, hb, if_neg (by omega), if_pos (by omega), Nat.add_sub_cancel]

theorem lead_three {v : Nat} (hl : 0x800 ≤ v) (hh : v ≤ 0xFFFF)
    (hs : v < 0xD800 ∨ 0xDFFF < v) :
    ∃ low high, lead (UInt8.ofNat (v / 4096 % 16 + 0xE0)) = some (2, v / 4096, low, high) ∧
      low ≤ v / 64 % 64 + 128 ∧ v / 64 % 64 + 128 ≤ high := by
  have hb : (UInt8.ofNat (v / 4096 % 16 + 0xE0)).toNat = v / 4096 + 0xE0 := by
    rw [UInt8.toNat_ofNat']
    omega
  rw [lead, hb, if_neg (by omega), if_neg (by omega)]
  -- the first group is narrowed from below, the one of the surrogates from above
  rcases Nat.eq_zero_or_pos (v / 4096) with h0 | h0
  · exact ⟨0xA0, 0xBF, by simp [h0], by omega, by omega⟩
  · by_cases hd : v / 4096 = 0xD
    · exact ⟨0x80, 0x9F, by simp [hd], by omega, by omega⟩
    · refine ⟨0x80, 0xBF, ?_, by omega, by omega⟩
      rw [if_neg (by omega), if_neg (by omega), if_pos (by omega), Nat.add_sub_cancel]

theorem lead_four {v : Nat} (hl : 0x10000 ≤ v) (hh : v < 0x110000) :
    ∃ low high, lead (UInt8.ofNat (v / 262144 % 8 + 0xF0)) = some (3, v / 262144, low, high) ∧
      low ≤ v / 4096 % 64 + 128 ∧ v / 4096 % 64 + 128 ≤ high := by
  have hb : (UInt8.ofNat (v / 262144 % 8 + 0xF0)).toNat = v / 262144 + 0xF0 := by
    rw [UInt8.toNat_ofNat']
    omega
  rw [lead, hb, if_neg (by omega), if_neg (by omega), if_neg (by omega), if_neg (by omega),
    if_neg (by omega)]
  -- the first group is narrowed from below, the last one from above
  rcases Nat.eq_zero_or_pos (v / 262144) with h0 | h0
  · exact ⟨0x90, 0xBF, by simp [h0], by omega, by omega⟩
  · by_cases h4 : v / 262144 = 4
    · exact ⟨0x80, 0x8F, by simp [h4], by omega, by omega⟩
    · refine ⟨0x80, 0xBF, ?_, by omega, by omega⟩
      rw [if_neg (by omega), if_pos (by omega), Nat.add_sub_cancel]

/-- A lead byte announces continuation bytes only where it is none of ASCII. -/
theorem step_of_lead {b : UInt8} {owed code low high : Nat} {rest : Bytes}
    (hb : 0x80 ≤ b.toNat) (h : lead b = some (owed, code, low, high)) :
    step b rest = continuation owed code low high rest := by
  rw [step, if_neg (by omega), h]

theorem toNat_of_lead {b : UInt8} {r : Nat × Nat × Nat × Nat} (h : lead b = some r) :
    0x80 ≤ b.toNat := by
  rcases Nat.lt_or_ge b.toNat 0x80 with hb | hb
  · rw [lead, if_pos (by omega)] at h
    cases h
  · exact hb

theorem continuation_zero {code low high : Nat} {c : Char} (h : code = c.val.toNat)
    (rest : Bytes) : continuation 0 code low high rest = (some c, rest) := by
  subst h
  show (some (Char.ofNat c.toNat), rest) = _
  rw [Char.ofNat_toNat]

/-- The first character of an encoded text is read back. -/
theorem pieces_encodeChar (c : Char) (rest : Bytes) :
    pieces (String.utf8EncodeChar c ++ rest) = some c :: pieces rest := by
  suffices h : ∃ b bs, String.utf8EncodeChar c = b :: bs ∧ step b (bs ++ rest) = (some c, rest) by
    obtain ⟨b, bs, he, hs⟩ := h
    rw [he, List.cons_append, pieces, hs]
  have hv : c.val.toNat < 0xD800 ∨ 0xDFFF < c.val.toNat ∧ c.val.toNat < 0x110000 := c.valid
  unfold String.utf8EncodeChar
  dsimp only
  generalize hc : c.val.toNat = v at hv
  -- one, two, three or four bytes, by the size of the code point
  by_cases h1 : v ≤ 0x7F
  · refine ⟨_, [], if_pos h1, ?_⟩
    have hb : (UInt8.ofNat v).toNat = v := by
      rw [UInt8.toNat_ofNat']
      omega
    rw [step, hb, if_pos (by omega), List.nil_append, ← hc]
    show (some (Char.ofNat c.toNat), rest) = _
    rw [Char.ofNat_toNat]
  · rw [if_neg h1]
    by_cases h2 : v ≤ 0x7FF
    · have hlead := lead_two (v := v) (by omega) h2
      refine ⟨_, _, if_pos h2, ?_⟩
      rw [step_of_lead (toNat_of_lead hlead) hlead, List.cons_append,
        continuation_cons (by omega) (by omega)]
      exact continuation_zero (by omega) rest
    · rw [if_neg h2]
      by_cases h3 : v ≤ 0xFFFF
      · obtain ⟨low, high, hlead, hl, hh⟩ := lead_three (v := v) (by omega) h3 (by omega)
        refine ⟨_, _, if_pos h3, ?_⟩
        rw [step_of_lead (toNat_of_lead hlead) hlead, List.cons_append, continuation_cons hl hh,
          List.cons_append, continuation_cons (by omega) (by omega)]
        exact continuation_zero (by omega) rest
      · obtain ⟨low, high, hlead, hl, hh⟩ := lead_four (v := v) (by omega) (by omega)
        refine ⟨_, _, if_neg h3, ?_⟩
        rw [step_of_lead (toNat_of_lead hlead) hlead, List.cons_append, continuation_cons hl hh,
          List.cons_append, continuation_cons (by omega) (by omega), List.cons_append,
          continuation_cons (by omega) (by omega)]
        exact continuation_zero (by omega) rest

theorem encode_append (t u : Text) : encode (t ++ u) = encode t ++ encode u := List.flatMap_append

theorem pieces_encode (t : Text) : pieces (encode t) = t.map some := by
  induction t with
  | nil => simp [encode, pieces]
  | cons c r ih =>
    have he : encode (c :: r) = String.utf8EncodeChar c ++ encode r := List.flatMap_cons
    rw [he, pieces_encodeChar, ih, List.map_cons]

/-- Forgiving decoding gives back every text. -/
theorem decodeLossy_encode (t : Text) : decodeLossy (encode t) = t := by
  simp [decodeLossy, pieces_encode, Function.comp_def]

/-- Strict decoding gives back every text. -/
theorem decode?_encode (t : Text) : decode? (encode t) = some t := by
  rw [decode?, pieces_encode]
  induction t with
  | nil => rfl
  | cons c r ih => simp [List.mapM_cons, ih]

/-- A byte of ASCII is the code of its own character and part of no other. -/
theorem mem_encodeChar_iff {b : UInt8} (hb : b.toNat < 0x80) (c : Char) :
    b ∈ String.utf8EncodeChar c ↔ c = Char.ofNat b.toNat := by
  have key : b ∈ String.utf8EncodeChar c ↔ c.val.toNat = b.toNat := by
    unfold String.utf8EncodeChar
    dsimp only
    generalize c.val.toNat = v
    -- in each of the longer forms every byte has its high bit set
    split
    · simp only [List.mem_singleton, ← UInt8.toNat_inj, UInt8.toNat_ofNat']
      omega
    · split
      · simp only [List.mem_cons, List.not_mem_nil, or_false, ← UInt8.toNat_inj,
          UInt8.toNat_ofNat']
        omega
      · split
        · simp only [List.mem_cons, List.not_mem_nil, or_false, ← UInt8.toNat_inj,
            UInt8.toNat_ofNat']
          omega
        · simp only [List.mem_cons, List.not_mem_nil, or_false, ← UInt8.toNat_inj,
            UInt8.toNat_ofNat']
          omega
  rw [key]
  constructor
  · intro h
    exact (Char.ofNat_toNat c).symm.trans (congrArg Char.ofNat h)
  · intro h
    rw [h, Char.ofNat, dif_pos (Or.inl (by omega))]
    rfl

/-- A byte of ASCII stands in an encoded text only for its own character. -/
theorem mem_encode_iff {b : UInt8} (hb : b.toNat < 0x80) (t : Text) :
    b ∈ encode t ↔ Char.ofNat b.toNat ∈ t := by
  simp only [encode, List.mem_flatMap, mem_encodeChar_iff hb, exists_eq_right]

theorem length_encode (t : Text) : (encode t).length = length t := by
  rw [encode, List.length_flatMap, length, ← List.sum_eq_foldl]
  simp only [String.length_utf8EncodeChar]

end PipeShell.Utf8
