import PipeShell.Proofs.Encoding

/-!
# What is decoded was encoded

The strict decoder accepts a sequence of bytes exactly if it is the encoding of a text, and gives
that text (`Utf8.decode?_eq_some_iff`). One direction is that encoded texts are read back. For the
other, the bytes that `Utf8.step` takes for a character are the ones written for it
(`Utf8.encodeChar_of_step`): the ranges that `Utf8.lead` allows for the first continuation byte keep
the code point at least as large as the form is long, and off the surrogates (`Utf8.Announces`).
-/

set_option autoImplicit false

namespace PipeShell.Utf8

/-! ## Code points -/

/-- A number that is a code point and no surrogate. -/
def IsScalar (v : Nat) : Prop := v < 0xD800 ∨ 0xDFFF < v ∧ v < 0x110000

theorem toNat_ofNat {v : Nat} (h : IsScalar v) : (Char.ofNat v).val.toNat = v := by
  have hvalid : v.isValidChar := h
  rw [Char.ofNat, dif_pos hvalid]
  rfl

/-- A byte is told by its number. -/
theorem ofNat_eq {b : UInt8} {n : Nat} (h : n = b.toNat) : UInt8.ofNat n = b := by
  rw [h, UInt8.ofNat_toNat]

theorem encodeChar_one {v : Nat} (h : v < 0x80) :
    String.utf8EncodeChar (Char.ofNat v) = [UInt8.ofNat v] := by
  have hv : (Char.ofNat v).val.toNat = v := toNat_ofNat (Or.inl (by omega))
  unfold String.utf8EncodeChar
  dsimp only
  rw [hv, if_pos (by omega)]

theorem encodeChar_two {v : Nat} (hl : 0x80 ≤ v) (hh : v < 0x800) :
    String.utf8EncodeChar (Char.ofNat v) =
      [UInt8.ofNat (v / 64 % 32 + 0xC0), UInt8.ofNat (v % 64 + 0x80)] := by
  have hv : (Char.ofNat v).val.toNat = v := toNat_ofNat (Or.inl (by omega))
  unfold String.utf8EncodeChar
  dsimp only
  rw [hv, if_neg (by omega), if_pos (by omega)]

theorem encodeChar_three {v : Nat} (hl : 0x800 ≤ v) (hh : v < 0x10000) (hs : IsScalar v) :
    String.utf8EncodeChar (Char.ofNat v) =
      [UInt8.ofNat (v / 4096 % 16 + 0xE0), UInt8.ofNat (v / 64 % 64 + 0x80),
        UInt8.ofNat (v % 64 + 0x80)] := by
  have hv : (Char.ofNat v).val.toNat = v := toNat_ofNat hs
  unfold String.utf8EncodeChar
  dsimp only
  rw [hv, if_neg (by omega), if_neg (by omega), if_pos (by omega)]

theorem encodeChar_four {v : Nat} (hl : 0x10000 ≤ v) (hh : v < 0x110000) :
    String.utf8EncodeChar (Char.ofNat v) =
      [UInt8.ofNat (v / 262144 % 8 + 0xF0), UInt8.ofNat (v / 4096 % 64 + 0x80),
        UInt8.ofNat (v / 64 % 64 + 0x80), UInt8.ofNat (v % 64 + 0x80)] := by
  have hv : (Char.ofNat v).val.toNat = v := toNat_ofNat (Or.inr (by omega))
  unfold String.utf8EncodeChar
  dsimp only
  rw [hv, if_neg (by omega), if_neg (by omega), if_neg (by omega)]

/-! ## Lead bytes and what follows them -/

/-- What a lead byte announces, by the number of continuation bytes owed. The first of them lies
between `low` and `high`, and with it the code point is in the range of its form. -/
inductive Announces (b : Nat) : Nat → Nat → Nat → Nat → Prop
  | two {code : Nat} (hcode : b = code + 0xC0) (hlow : 2 ≤ code) (hhigh : code < 0x20) :
    Announces b 1 code 0x80 0xBF
  | three {code low high : Nat} (hcode : b = code + 0xE0) (hhigh : code < 0x10)
    (hfirst : ∀ x, low ≤ x → x ≤ high → 0x80 ≤ x ∧ x ≤ 0xBF ∧ 0x20 ≤ code * 64 + (x - 0x80) ∧
      (code * 64 + (x - 0x80) < 0x360 ∨ 0x37F < code * 64 + (x - 0x80))) :
    Announces b 2 code low high
  | four {code low high : Nat} (hcode : b = code + 0xF0) (hhigh : code < 8)
    (hfirst : ∀ x, low ≤ x → x ≤ high → 0x80 ≤ x ∧ x ≤ 0xBF ∧ 0x10 ≤ code * 64 + (x - 0x80) ∧
      code * 64 + (x - 0x80) < 0x110) :
    Announces b 3 code low high

theorem announces_of_lead {b : UInt8} {owed code low high : Nat}
    (h : lead b = some (owed, code, low, high)) : Announces b.toNat owed code low high := by
  unfold lead at h
  dsimp only at h
  repeat' split at h
  all_goals simp only [Option.some.injEq, Prod.mk.injEq, reduceCtorEq] at h
  all_goals obtain ⟨rfl, rfl, rfl, rfl⟩ := h
  · exact .two (by omega) (by omega) (by omega)
  · exact .three (by omega) (by omega) (fun x _ _ => by omega)
  · exact .three (by omega) (by omega) (fun x _ _ => by omega)
  · exact .three (by omega) (by omega) (fun x _ _ => by omega)
  · exact .four (by omega) (by omega) (fun x _ _ => by omega)
  · exact .four (by omega) (by omega) (fun x _ _ => by omega)
  · exact .four (by omega) (by omega) (fun x _ _ => by omega)

/-- A continuation byte that was taken was there, and in its range. -/
theorem continuation_succ {owed code low high : Nat} {bytes rest : Bytes} {c : Char}
    (h : continuation (owed + 1) code low high bytes = (some c, rest)) :
    ∃ b more, bytes = b :: more ∧ low ≤ b.toNat ∧ b.toNat ≤ high ∧
      continuation owed (code * 64 + (b.toNat - 0x80)) 0x80 0xBF more = (some c, rest) := by
  cases bytes with
  | nil => cases h
  | cons b more =>
    unfold continuation at h
    split at h
    · rename_i hb
      exact ⟨b, more, rfl, hb.1, hb.2, h⟩
    · cases h

/-- With no byte owed the code is complete. -/
theorem continuation_done {code low high : Nat} {bytes rest : Bytes} {c : Char}
    (h : continuation 0 code low high bytes = (some c, rest)) :
    c = Char.ofNat code ∧ rest = bytes := by
  simp only [continuation, Prod.mk.injEq, Option.some.injEq] at h
  exact ⟨h.1.symm, h.2.symm⟩

/-- **What is read as a character** is written for it. -/
theorem encodeChar_of_step {b : UInt8} {bytes rest : Bytes} {c : Char}
    (h : step b bytes = (some c, rest)) : b :: bytes = String.utf8EncodeChar c ++ rest := by
  unfold step at h
  split at h
  · rename_i hb
    cases h
    rw [encodeChar_one hb, ofNat_eq rfl]
    rfl
  · split at h
    · rename_i owed code low high hlead
      cases announces_of_lead hlead with
      | two hcode hlow hhigh =>
        -- in each form the code point has the digits that lead and continuation bytes carry
        obtain ⟨b₁, bytes, rfl, hl, hh, h⟩ := continuation_succ h
        obtain ⟨hc, hrest⟩ := continuation_done h
        rw [hc, hrest, encodeChar_two (by omega) (by omega), ofNat_eq (b := b) (by omega),
          ofNat_eq (b := b₁) (by omega)]
        rfl
      | three hcode hhigh hfirst =>
        obtain ⟨b₁, bytes, rfl, hl, hh, h⟩ := continuation_succ h
        obtain ⟨b₂, bytes, rfl, hl₂, hh₂, h⟩ := continuation_succ h
        obtain ⟨hl, hh, hmin, hsurrogate⟩ := hfirst _ hl hh
        obtain ⟨hc, hrest⟩ := continuation_done h
        rw [hc, hrest, encodeChar_three (by omega) (by omega) (by unfold IsScalar; omega),
          ofNat_eq (b := b) (by omega), ofNat_eq (b := b₁) (by omega),
          ofNat_eq (b := b₂) (by omega)]
        rfl
      | four hcode hhigh hfirst =>
        obtain ⟨b₁, bytes, rfl, hl, hh, h⟩ := continuation_succ h
        obtain ⟨b₂, bytes, rfl, hl₂, hh₂, h⟩ := continuation_succ h
        obtain ⟨b₃, bytes, rfl, hl₃, hh₃, h⟩ := continuation_succ h
        obtain ⟨hl, hh, hmin, hmax⟩ := hfirst _ hl hh
        obtain ⟨hc, hrest⟩ := continuation_done h
        rw [hc, hrest, encodeChar_four (by omega) (by omega), ofNat_eq (b := b) (by omega),
          ofNat_eq (b := b₁) (by omega), ofNat_eq (b := b₂) (by omega),
          ofNat_eq (b := b₃) (by omega)]
        rfl
    · cases h

/-! ## Whole texts -/

/-- Pieces that are all characters are the characters of a text that was encoded. -/
theorem encode_of_pieces {bytes : Bytes} {t : Text} (h : pieces bytes = t.map some) :
    bytes = encode t := by
  -- the induction is on the bytes, since one character takes up to four of them
  induction hn : bytes.length using Nat.strongRecOn generalizing bytes t with
  | _ n ih =>
    subst hn
    cases bytes with
    | nil =>
      rw [pieces] at h
      rw [List.map_eq_nil_iff.1 h.symm]
      rfl
    | cons b rest =>
      rw [pieces] at h
      cases t with
      | nil => cases h
      | cons c t =>
        obtain ⟨hc, hrest⟩ := List.cons.inj h
        have hlt : (step b rest).2.length < (b :: rest).length :=
          Nat.lt_succ_of_le (step_length b rest)
        have hmore := ih _ hlt hrest rfl
        have hstep : step b rest = (some c, encode t) := Prod.ext hc hmore
        rw [encodeChar_of_step hstep]
        exact List.flatMap_cons.symm

/-- The strict decoder accepts exactly the encodings of texts. -/
theorem decode?_eq_some_iff {bytes : Bytes} {t : Text} :
    decode? bytes = some t ↔ bytes = encode t := by
  constructor
  · intro h
    apply encode_of_pieces
    unfold decode? at h
    generalize pieces bytes = row at h ⊢
    induction row generalizing t with
    | nil =>
      cases h
      rfl
    | cons piece row ih =>
      rw [List.mapM_cons] at h
      cases piece with
      | none => cases h
      | some c =>
        obtain ⟨c', hc, h⟩ := Option.bind_eq_some_iff.1 h
        obtain ⟨t', hrow, ht⟩ := Option.bind_eq_some_iff.1 h
        cases hc
        cases ht
        rw [ih hrow]
        rfl
  · intro h
    rw [h, decode?_encode]

/-- A text is told by its encoding. -/
theorem encode_injective : Function.Injective encode := by
  intro t u h
  have hdecode := decode?_encode t
  rw [h, decode?_encode] at hdecode
  exact (Option.some.inj hdecode).symm

/-- It refuses exactly the bytes that are the encoding of no text. -/
theorem decode?_eq_none_iff {bytes : Bytes} : decode? bytes = none ↔ ∀ t, bytes ≠ encode t := by
  constructor
  · intro h t ht
    rw [ht, decode?_encode] at h
    cases h
  · intro h
    cases hdecode : decode? bytes with
    | none => rfl
    | some t => exact absurd (decode?_eq_some_iff.1 hdecode) (h t)

end PipeShell.Utf8
