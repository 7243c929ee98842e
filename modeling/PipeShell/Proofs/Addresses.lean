import PipeShell.Net.Address
import PipeShell.Proofs.Digits

/-!
# What stands for an address

An IPv4 address is four numbers below 256 in decimal with points between them
(`IpAddress.Dotted`). An IPv6 address is eight groups of up to four hexadecimal digits with colons
between them, of which the last two may be an IPv4 address; two colons may stand for one or more
groups that are zero (`IpAddress.Denotes`).

The reader takes groups as long as there are any. Where a group can start it reads an IPv4 address,
a group or nothing (`IpAddress.groups_cases`); from this one lemma, what it has read is a row of
groups (`IpAddress.groups_sound`), and a row of groups is read to its end
(`IpAddress.groups_complete`).

Main statement: what is read of a text is exactly the address that it stands for
(`IpAddress.parse?_eq_some_iff`).
-/

set_option autoImplicit false

namespace PipeShell.IpAddress

open Numeral (Digit Plain)

/-! ## The grammar -/

/-- One to `most` digits stand for a number. Zeros in front of it are not always allowed. -/
def Number (base most : Nat) (zeros : Bool) (t : Text) (n : Nat) : Prop :=
  ∃ row : List Nat, List.Forall₂ (Digit base) t row ∧ row ≠ [] ∧ row.length ≤ most ∧
    (zeros = false → row.head? = some 0 → row.length = 1) ∧ n = Nat.ofDigits base row.reverse

/-- The text of an IPv4 address. -/
structure Dotted (t : Text) (octets : List Nat) : Prop where
  length_eq : octets.length = 4
  lt : ∀ octet ∈ octets, octet < 256
  text_eq : t = joined '.' (octets.map Numeral.ofNat)

/-- The texts of groups. The flag tells whether the last two are one text, an IPv4 address. -/
inductive Groups : Bool → List Text → List Nat → Prop
  | nil : Groups false [] []
  | cons {t : Text} {g : Nat} {dotted : Bool} {ts : List Text} {gs : List Nat}
    (ht : Number 16 4 true t g) (h : Groups dotted ts gs) : Groups dotted (t :: ts) (g :: gs)
  | dotted {t : Text} {a b c d : Nat} (h : Dotted t [a, b, c, d]) :
    Groups true [t] [a * 256 + b, c * 256 + d]

/-- What a text stands for. -/
inductive Denotes : Text → IpAddress → Prop
  | v4 {t : Text} {octets : List Nat} (h : Dotted t octets) : Denotes t (.v4 octets)
  /-- All eight groups are written. -/
  | full {dotted : Bool} {ts : List Text} {gs : List Nat} (h : Groups dotted ts gs)
    (hlength : gs.length = 8) : Denotes (joined ':' ts) (.v6 gs)
  /-- Groups that are zero are left out where two colons stand, at least one of them. -/
  | shortened {dotted : Bool} {ts us : List Text} {front back : List Nat}
    (hfront : Groups false ts front) (hback : Groups dotted us back)
    (hlength : front.length + back.length < 8) :
    Denotes (joined ':' ts ++ "::".toList ++ joined ':' us)
      (.v6 (front ++ List.replicate (8 - front.length - back.length) 0 ++ back))

/-! ## Numbers -/

variable {base : Nat}

/-- A text does not start with a digit. -/
def Undigited (base : Nat) (t : Text) : Prop := ∀ c, t.head? = some c → ∀ d, ¬ Digit base c d

theorem undigited_nil : Undigited base [] := by
  intro c hc
  cases hc

theorem undigited_cons {c : Char} (hbase : base ≤ 16) (h : Numeral.digitIn? base c = none)
    (t : Text) : Undigited base (c :: t) := by
  intro d hd e he
  obtain rfl := Option.some.inj hd
  rw [(Numeral.digitIn?_eq_some_iff hbase).2 he] at h
  cases h

/-- A text divides in one way into digits and a rest that starts with none. -/
theorem digits_eq_iff (hbase : base ≤ 16) {t rest : Text} {row : List Nat} :
    digits base t = (row, rest) ↔
      ∃ front, t = front ++ rest ∧ List.Forall₂ (Digit base) front row ∧ Undigited base rest := by
  induction t generalizing row with
  | nil =>
    constructor
    · intro h
      obtain ⟨rfl, rfl⟩ := Prod.mk.inj h
      exact ⟨[], rfl, .nil, undigited_nil⟩
    · rintro ⟨front, hsplit, hrow, -⟩
      obtain ⟨rfl, rfl⟩ := List.append_eq_nil_iff.1 hsplit.symm
      cases hrow
      rfl
  | cons c t ih =>
    rw [digits]
    cases hc : Numeral.digitIn? base c with
    | none =>
      constructor
      · intro h
        obtain ⟨rfl, rfl⟩ := Prod.mk.inj h
        exact ⟨[], rfl, .nil, undigited_cons hbase hc t⟩
      · rintro ⟨front, hsplit, hrow, -⟩
        cases hrow with
        | nil =>
          rw [List.nil_append] at hsplit
          rw [hsplit]
        | cons hd hrow =>
          obtain ⟨rfl, -⟩ := List.cons.inj hsplit
          exact absurd hd (undigited_cons hbase hc t _ rfl _)
    | some d =>
      have hd := (Numeral.digitIn?_eq_some_iff hbase).1 hc
      constructor
      · intro h
        obtain ⟨rfl, rfl⟩ := Prod.mk.inj h
        obtain ⟨front, hsplit, hrow, hstop⟩ := ih.1 rfl
        exact ⟨c :: front, congrArg (c :: ·) hsplit, .cons hd hrow, hstop⟩
      · rintro ⟨front, hsplit, hrow, hstop⟩
        cases hrow with
        | nil =>
          rw [List.nil_append] at hsplit
          exact absurd hd (hstop c (by rw [← hsplit]; rfl) d)
        | @cons a e front row he hrow =>
          obtain ⟨rfl, htail⟩ := List.cons.inj hsplit
          rw [(Numeral.digitIn?_eq_some_iff hbase).2 he] at hc
          obtain rfl := Option.some.inj hc
          have hrest := ih.2 ⟨front, htail, hrow, hstop⟩
          simp only [hrest]

theorem number?_eq_some_iff (hbase : base ≤ 16) {most n : Nat} {zeros : Bool} {t rest : Text} :
    number? base most zeros t = some (n, rest) ↔
      ∃ front, t = front ++ rest ∧ Number base most zeros front n ∧ Undigited base rest := by
  obtain ⟨row, after, hdigits⟩ : ∃ row after, digits base t = (row, after) := ⟨_, _, rfl⟩
  unfold number?
  simp only [hdigits]
  constructor
  · intro h
    split_ifs at h with hlength hzero
    obtain ⟨rfl, rfl⟩ := Prod.mk.inj (Option.some.inj h)
    obtain ⟨front, hsplit, hrow, hstop⟩ := (digits_eq_iff hbase).1 hdigits
    simp only [Bool.or_eq_true, List.isEmpty_iff, decide_eq_true_eq, not_or] at hlength
    simp only [Bool.and_eq_true, Bool.not_eq_true', beq_iff_eq, decide_eq_true_eq] at hzero
    refine ⟨front, hsplit,
      ⟨row, hrow, hlength.1, by omega, ?_, Numeral.foldl_eq_ofDigits row⟩, hstop⟩
    intro hz hhead
    have hpos : 0 < row.length := List.length_pos_iff.2 hlength.1
    have hone : ¬ 1 < row.length := fun hone => hzero ⟨⟨hz, hhead⟩, hone⟩
    omega
  · rintro ⟨front, hsplit, ⟨row', hrow, hne, hmost, hzero, rfl⟩, hstop⟩
    rw [(digits_eq_iff hbase).2 ⟨front, hsplit, hrow, hstop⟩] at hdigits
    obtain ⟨rfl, rfl⟩ := Prod.mk.inj hdigits
    rw [if_neg, if_neg, Numeral.foldl_eq_ofDigits]
    · simp only [Bool.and_eq_true, Bool.not_eq_true', beq_iff_eq, decide_eq_true_eq]
      rintro ⟨⟨hz, hhead⟩, hone⟩
      have hlength := hzero hz hhead
      omega
    · simp only [Bool.or_eq_true, List.isEmpty_iff, decide_eq_true_eq, not_or]
      exact ⟨hne, by omega⟩

/-- Without zeros in front, a number below 256 is written in one way. -/
theorem number_octet_iff {t : Text} {n : Nat} (hn : n < 256) :
    Number 10 3 false t n ↔ t = Numeral.ofNat n := by
  constructor
  · rintro ⟨row, hrow, hne, -, hzero, rfl⟩
    obtain ⟨rfl, hall⟩ := Numeral.forall₂_decimal_iff.1 hrow
    exact (Numeral.ofNat_of_plain ⟨hne, hall, hzero rfl⟩).symm
  · rintro rfl
    obtain ⟨row, ⟨hne, hall, hzero⟩, htext, hvalue⟩ := Numeral.exists_plain n
    refine ⟨row, Numeral.forall₂_decimal_iff.2 ⟨htext, hall⟩, hne, ?_, fun _ => hzero, hvalue⟩
    have hlength : (Numeral.ofNat n).length ≤ 3 :=
      Nat.toDigits_length 10 n 3 (by decide) (Nat.lt_trans hn (by decide))
    rw [htext, List.length_map] at hlength
    exact hlength

theorem octet?_eq_some_iff {t rest : Text} {n : Nat} :
    octet? t = some (n, rest) ↔ n < 256 ∧ t = Numeral.ofNat n ++ rest ∧ Undigited 10 rest := by
  unfold octet?
  rw [Option.filter_eq_some_iff, number?_eq_some_iff (by decide), decide_eq_true_eq, and_comm]
  refine and_congr_right ?_
  intro hn
  constructor
  · rintro ⟨front, rfl, hnumber, hstop⟩
    rw [(number_octet_iff hn).1 hnumber]
    exact ⟨rfl, hstop⟩
  · rintro ⟨rfl, hstop⟩
    exact ⟨_, rfl, (number_octet_iff hn).2 rfl, hstop⟩

theorem sign?_eq_some_iff {c : Char} {t rest : Text} : sign? c t = some rest ↔ t = c :: rest := by
  cases t with
  | nil => simp [sign?]
  | cons d t =>
    rw [sign?]
    split_ifs with h
    · subst h
      simp
    · simp [h]

/-! ## IPv4 addresses -/

theorem joined_cons (c : Char) (t : Text) (ts : List Text) :
    joined c (t :: ts) = t ++ ts.flatMap (c :: ·) := by
  induction ts generalizing t with
  | nil => simp [joined]
  | cons u ts ih =>
    have hstep : joined c (t :: u :: ts) = t ++ c :: joined c (u :: ts) := rfl
    rw [hstep, ih, List.flatMap_cons]
    rfl

theorem Dotted.exists_octets {t : Text} {octets : List Nat} (h : Dotted t octets) :
    ∃ a b c d, octets = [a, b, c, d] := by
  match octets, h.length_eq with
  | [a, b, c, d], _ => exact ⟨a, b, c, d, rfl⟩

theorem octets?_eq_some_iff {t rest : Text} {octets : List Nat} :
    octets? t = some (octets, rest) ↔
      ∃ front, t = front ++ rest ∧ Dotted front octets ∧ Undigited 10 rest := by
  have hpoint : ∀ t, Undigited 10 ('.' :: t) := undigited_cons (by decide) (by decide)
  simp only [octets?, Option.bind_eq_bind, Option.bind_eq_some_iff, Prod.exists,
    octet?_eq_some_iff, sign?_eq_some_iff, Option.pure_def, Option.some.injEq, Prod.mk.injEq]
  constructor
  · rintro ⟨a, _, ⟨ha, rfl, -⟩, _, rfl, b, _, ⟨hb, rfl, -⟩, _, rfl, c, _, ⟨hc, rfl, -⟩, _, rfl,
      d, _, ⟨hd, rfl, hstop⟩, rfl, rfl⟩
    refine ⟨joined '.' ([a, b, c, d].map Numeral.ofNat), ?_, ⟨rfl, by simp [ha, hb, hc, hd], rfl⟩,
      hstop⟩
    simp [joined]
  · rintro ⟨front, rfl, hdotted, hstop⟩
    obtain ⟨a, b, c, d, rfl⟩ := hdotted.exists_octets
    obtain ⟨-, hall, rfl⟩ := hdotted
    simp only [List.forall_mem_cons] at hall
    obtain ⟨ha, hb, hc, hd, -⟩ := hall
    refine ⟨a, _, ⟨ha, ?_, hpoint _⟩, _, rfl, b, _, ⟨hb, rfl, hpoint _⟩, _, rfl, c, _,
      ⟨hc, rfl, hpoint _⟩, _, rfl, d, rest, ⟨hd, rfl, hstop⟩, rfl, rfl⟩
    simp [joined]

/-- There is no IPv4 address where no number with a point behind it is. -/
theorem octets?_eq_none {t : Text} (h : ∀ n more, t ≠ Numeral.ofNat n ++ '.' :: more) :
    octets? t = none := by
  apply Option.eq_none_iff_forall_ne_some.2
  rintro ⟨octets, rest⟩ hread
  obtain ⟨front, rfl, hdotted, -⟩ := octets?_eq_some_iff.1 hread
  obtain ⟨a, b, c, d, rfl⟩ := hdotted.exists_octets
  apply h a (joined '.' ([b, c, d].map Numeral.ofNat) ++ rest)
  rw [hdotted.text_eq, List.map_cons, joined_cons]
  simp [joined]

theorem octets?_of_undigited {t : Text} (h : Undigited 10 t) : octets? t = none := by
  apply octets?_eq_none
  rintro n more rfl
  obtain ⟨row, hne, hrow⟩ := Numeral.ofNat_digits (Nat.le_refl 10) n
  generalize Numeral.ofNat n = text at h hrow
  cases hrow with
  | nil => exact hne rfl
  | cons hd hrow => exact h _ rfl _ hd

/-- A group is not taken for an IPv4 address, unless a point follows it. -/
theorem octets?_of_number {t rest : Text} {most g : Nat} (ht : Number 16 most true t g)
    (hrest : Undigited 16 rest) (hpoint : rest.head? ≠ some '.') : octets? (t ++ rest) = none := by
  apply octets?_eq_none
  intro n more hsplit
  obtain ⟨row, hrow, -⟩ := ht
  obtain ⟨row', -, hrow'⟩ := Numeral.ofNat_digits (by decide : 10 ≤ 16) n
  -- both sides are digits up to the first other character
  have hleft : digits 16 (t ++ rest) = (row, rest) :=
    (digits_eq_iff (by decide)).2 ⟨t, rfl, hrow, hrest⟩
  have hright : digits 16 (t ++ rest) = (row', '.' :: more) :=
    (digits_eq_iff (by decide)).2
      ⟨_, hsplit, hrow', undigited_cons (by decide) (by decide) more⟩
  obtain ⟨-, rfl⟩ := Prod.mk.inj (hleft.symm.trans hright)
  exact hpoint rfl

/-! ## Groups -/

/-- Where a group can start: behind a colon, unless it is the first one. -/
def lead (first : Bool) (t : Text) : Text := if first then t else ':' :: t

theorem lead_inj {first : Bool} {t u : Text} (h : lead first t = lead first u) : t = u := by
  cases first with
  | true => exact h
  | false => exact (List.cons.inj h).2

theorem lead_append (first : Bool) (t u : Text) : lead first t ++ u = lead first (t ++ u) := by
  cases first <;> rfl

theorem body_eq_some_iff {first : Bool} {t u : Text} :
    (if first then some t else sign? ':' t) = some u ↔ t = lead first u := by
  cases first with
  | true => exact Option.some_inj
  | false => exact sign?_eq_some_iff

/-- **One group.** Where a group can start, an IPv4 address is read, which takes the place of two,
or a group, or nothing. -/
theorem groups_cases (limit : Nat) (first : Bool) (t : Text) :
    (∃ u a b c d rest, t = lead first u ∧ limit ≠ 0 ∧ octets? u = some ([a, b, c, d], rest) ∧
      groups (limit + 1) first t = ([a * 256 + b, c * 256 + d], true, rest)) ∨
    (∃ u g rest, t = lead first u ∧ (limit = 0 ∨ octets? u = none) ∧
      number? 16 4 true u = some (g, rest) ∧
      groups (limit + 1) first t =
        (g :: (groups limit false rest).1, (groups limit false rest).2)) ∨
    (groups (limit + 1) first t = ([], false, t) ∧
      ∀ u, t = lead first u → (limit = 0 ∨ octets? u = none) ∧ number? 16 4 true u = none) := by
  cases hbody : (if first then some t else sign? ':' t) with
  | none =>
    refine Or.inr (Or.inr ⟨?_, ?_⟩)
    · simp [groups, hbody]
    · intro u hu
      rw [body_eq_some_iff.2 hu] at hbody
      cases hbody
  | some u =>
    have ht := body_eq_some_iff.1 hbody
    by_cases hfour : limit = 0 ∨ octets? u = none
    · have hnone : (if limit = 0 then none else octets? u) = none := by
        rcases hfour with h | h
        · rw [if_pos h]
        · rw [h, ite_self]
      cases hnumber : number? 16 4 true u with
      | none =>
        refine Or.inr (Or.inr ⟨?_, ?_⟩)
        · simp [groups, hbody, hnone, hnumber]
        · intro v hv
          obtain rfl := lead_inj (ht.symm.trans hv)
          exact ⟨hfour, hnumber⟩
      | some read =>
        refine Or.inr (Or.inl ⟨u, read.1, read.2, ht, hfour, hnumber, ?_⟩)
        simp [groups, hbody, hnone, hnumber]
    · obtain ⟨hlimit, hsome⟩ := not_or.1 hfour
      obtain ⟨⟨octets, rest⟩, hread⟩ := Option.ne_none_iff_exists'.1 hsome
      obtain ⟨front, -, hdotted, -⟩ := octets?_eq_some_iff.1 hread
      obtain ⟨a, b, c, d, rfl⟩ := hdotted.exists_octets
      refine Or.inl ⟨u, a, b, c, d, rest, ht, hlimit, hread, ?_⟩
      simp [groups, hbody, hlimit, hread]

/-- Texts with a colon in front of each, the first one perhaps excepted. -/
def behind (first : Bool) (ts : List Text) : Text :=
  if first then joined ':' ts else ts.flatMap (':' :: ·)

theorem behind_nil (first : Bool) : behind first [] = [] := by
  cases first <;> rfl

theorem behind_cons (first : Bool) (t : Text) (ts : List Text) :
    behind first (t :: ts) = lead first (t ++ behind false ts) := by
  cases first with
  | true => exact joined_cons ':' t ts
  | false => rfl

/-- **What is read** is a row of groups in front of the rest. -/
theorem groups_sound {limit : Nat} {first dotted : Bool} {t rest : Text} {gs : List Nat}
    (h : groups limit first t = (gs, dotted, rest)) :
    ∃ ts, Groups dotted ts gs ∧ gs.length ≤ limit ∧ t = behind first ts ++ rest := by
  induction limit generalizing first t gs with
  | zero =>
    obtain ⟨rfl, hrest⟩ := Prod.mk.inj h
    obtain ⟨rfl, rfl⟩ := Prod.mk.inj hrest
    refine ⟨[], .nil, Nat.le_refl 0, ?_⟩
    rw [behind_nil, List.nil_append]
  | succ limit ih =>
    rcases groups_cases limit first t with
      ⟨u, a, b, c, d, after, rfl, hlimit, hread, hgroups⟩ |
      ⟨u, g, after, rfl, -, hread, hgroups⟩ | ⟨hgroups, -⟩
    · obtain ⟨rfl, hrest⟩ := Prod.mk.inj (hgroups.symm.trans h)
      obtain ⟨rfl, rfl⟩ := Prod.mk.inj hrest
      obtain ⟨front, rfl, hdotted, -⟩ := octets?_eq_some_iff.1 hread
      refine ⟨[front], .dotted hdotted, ?_, ?_⟩
      · simp only [List.length_cons, List.length_nil]
        omega
      · rw [behind_cons, behind_nil, List.append_nil, lead_append]
    · obtain ⟨rfl, hrest⟩ := Prod.mk.inj (hgroups.symm.trans h)
      obtain ⟨front, rfl, hnumber, -⟩ := (number?_eq_some_iff (by decide)).1 hread
      obtain ⟨ts, hts, hlength, rfl⟩ := ih (Prod.ext rfl hrest)
      refine ⟨front :: ts, .cons hnumber hts, Nat.succ_le_succ hlength, ?_⟩
      rw [behind_cons, lead_append, List.append_assoc]
    · obtain ⟨rfl, hrest⟩ := Prod.mk.inj (hgroups.symm.trans h)
      obtain ⟨rfl, rfl⟩ := Prod.mk.inj hrest
      refine ⟨[], .nil, Nat.zero_le _, ?_⟩
      rw [behind_nil, List.nil_append]

/-- Behind a row of groups is the end, or two colons. -/
def Ends (rest : Text) : Prop := rest = [] ∨ ∃ more, rest = ':' :: ':' :: more

/-- No group starts behind a row of groups. -/
theorem Ends.undigited {rest u : Text} {first : Bool} (h : Ends rest) (hu : rest = lead first u)
    (hbase : base ≤ 16) (hcolon : Numeral.digitIn? base ':' = none) : Undigited base u := by
  cases first with
  | true =>
    obtain rfl : rest = u := hu
    rcases h with rfl | ⟨more, rfl⟩
    · exact undigited_nil
    · exact undigited_cons hbase hcolon _
  | false =>
    rcases h with rfl | ⟨more, rfl⟩
    · cases hu
    · obtain rfl : ':' :: more = u := (List.cons.inj hu).2
      exact undigited_cons hbase hcolon _

/-- Behind a group there is no other digit and no point. -/
theorem Ends.behind {rest : Text} (h : Ends rest) (ts : List Text) :
    Undigited 16 (behind false ts ++ rest) ∧ (behind false ts ++ rest).head? ≠ some '.' := by
  have hcolon : ∀ more, Undigited 16 (':' :: more) ∧ (':' :: more).head? ≠ some '.' := by
    intro more
    exact ⟨undigited_cons (by decide) (by decide) more, by simp⟩
  cases ts with
  | nil =>
    rw [behind_nil, List.nil_append]
    rcases h with rfl | ⟨more, rfl⟩
    · exact ⟨undigited_nil, by simp⟩
    · exact hcolon _
  | cons t ts =>
    rw [behind_cons]
    exact hcolon _

/-- **A row of groups is read** to its end. -/
theorem groups_complete {limit : Nat} {first dotted : Bool} {ts : List Text} {rest : Text}
    {gs : List Nat} (h : Groups dotted ts gs) (hlimit : gs.length ≤ limit) (hrest : Ends rest) :
    groups limit first (behind first ts ++ rest) = (gs, dotted, rest) := by
  -- by the groups: behind the first one the place is another one, and the limit is lower
  induction h generalizing limit first with
  | nil =>
    rw [behind_nil, List.nil_append]
    cases limit with
    | zero => rfl
    | succ limit =>
      rcases groups_cases limit first rest with
        ⟨u, a, b, c, d, after, hu, -, hread, -⟩ | ⟨u, g, after, hu, -, hread, -⟩ | ⟨hgroups, -⟩
      · rw [octets?_of_undigited (hrest.undigited hu (by decide) (by decide))] at hread
        cases hread
      · have hnone : Undigited 16 u := hrest.undigited hu (by decide) (by decide)
        obtain ⟨front, rfl, ⟨row, hrow, hne, -⟩, -⟩ := (number?_eq_some_iff (by decide)).1 hread
        cases hrow with
        | nil => exact absurd rfl hne
        | cons hd hrow => exact absurd hd (hnone _ rfl _)
      · exact hgroups
  | @cons t g dotted ts gs ht h ih =>
    obtain ⟨limit, rfl⟩ : ∃ n, limit = n + 1 := ⟨limit - 1, by
      simp only [List.length_cons] at hlimit
      omega⟩
    rw [behind_cons, lead_append, List.append_assoc]
    obtain ⟨hdigit, hpoint⟩ := hrest.behind ts
    have hread : number? 16 4 true (t ++ (behind false ts ++ rest)) =
        some (g, behind false ts ++ rest) :=
      (number?_eq_some_iff (by decide)).2 ⟨t, rfl, ht, hdigit⟩
    rcases groups_cases limit first (lead first (t ++ (behind false ts ++ rest))) with
      ⟨u, a, b, c, d, after, hu, -, hfour, -⟩ | ⟨u, g', after, hu, -, hread', hgroups⟩ |
      ⟨-, hnone⟩
    · obtain rfl := lead_inj hu
      rw [octets?_of_number ht hdigit hpoint] at hfour
      cases hfour
    · obtain rfl := lead_inj hu
      rw [hread] at hread'
      obtain ⟨rfl, rfl⟩ := Prod.mk.inj (Option.some.inj hread')
      rw [hgroups, ih (Nat.le_of_succ_le_succ hlimit)]
    · rw [(hnone _ rfl).2] at hread
      cases hread
  | @dotted t a b c d h =>
    obtain ⟨limit, rfl⟩ : ∃ n, limit = n + 2 := ⟨limit - 2, (Nat.sub_add_cancel hlimit).symm⟩
    rw [behind_cons, lead_append, behind_nil, List.append_nil]
    have hread : octets? (t ++ rest) = some ([a, b, c, d], rest) :=
      octets?_eq_some_iff.2
        ⟨t, rfl, h, hrest.undigited (show rest = lead true rest from rfl) (by decide) (by decide)⟩
    have hsome : ¬ (limit + 1 = 0 ∨ octets? (t ++ rest) = none) := by
      rw [hread]
      simp
    rcases groups_cases (limit + 1) first (lead first (t ++ rest)) with
      ⟨u, a', b', c', d', after, hu, -, hread', hgroups⟩ | ⟨u, g', after, hu, hnone, -⟩ |
      ⟨-, hnone⟩
    · obtain rfl := lead_inj hu
      rw [hread] at hread'
      obtain ⟨hoctets, rfl⟩ := Prod.mk.inj (Option.some.inj hread')
      simp only [List.cons.injEq, and_true] at hoctets
      obtain ⟨rfl, rfl, rfl, rfl⟩ := hoctets
      exact hgroups
    · obtain rfl := lead_inj hu
      exact absurd hnone hsome
    · exact absurd (hnone _ rfl).1 hsome

/-- A row of groups that is a whole text. -/
theorem groups_joined {limit : Nat} {dotted : Bool} {ts : List Text} {gs : List Nat}
    (h : Groups dotted ts gs) (hlimit : gs.length ≤ limit) :
    groups limit true (joined ':' ts) = (gs, dotted, []) := by
  have hread : groups limit true (behind true ts ++ []) = (gs, dotted, []) :=
    groups_complete h hlimit (Or.inl rfl)
  rw [List.append_nil] at hread
  exact hread

/-! ## Addresses -/

theorem groups?_eq_some_iff {t : Text} {gs : List Nat} :
    groups? t = some (gs, []) ↔ Denotes t (.v6 gs) := by
  constructor
  · intro h
    obtain ⟨front, dotted, rest, hgroups⟩ :
        ∃ front dotted rest, groups 8 true t = (front, dotted, rest) := ⟨_, _, _, rfl⟩
    obtain ⟨ts, hts, hle, rfl⟩ := groups_sound hgroups
    unfold groups? at h
    simp only [hgroups] at h
    split_ifs at h with hlength hdotted
    · obtain ⟨rfl, rfl⟩ := Prod.mk.inj (Option.some.inj h)
      rw [List.append_nil]
      exact .full hts hlength
    · obtain rfl : dotted = false := Bool.eq_false_iff.2 hdotted
      simp only [Option.bind_eq_bind, Option.bind_eq_some_iff, sign?_eq_some_iff,
        Option.pure_def, Option.some.injEq, Prod.mk.injEq] at h
      obtain ⟨_, rfl, more, rfl, rfl, hmore⟩ := h
      obtain ⟨back, last, hback⟩ :
          ∃ back last, groups (7 - front.length) true more = (back, last, []) :=
        ⟨_, _, by rw [← hmore]⟩
      obtain ⟨us, hus, hrest, rfl⟩ := groups_sound hback
      have hshort := Denotes.shortened hts hus (by omega)
      rw [List.append_assoc] at hshort
      rw [hback, List.append_nil]
      exact hshort
  · intro h
    unfold groups?
    cases h with
    | full h hlength =>
      simp only [groups_joined h (Nat.le_of_eq hlength), hlength, if_true]
    | @shortened dotted ts us front back hfront hback hlength =>
      have hgroups : groups 8 true (joined ':' ts ++ "::".toList ++ joined ':' us) =
          (front, false, "::".toList ++ joined ':' us) := by
        rw [List.append_assoc]
        exact groups_complete hfront (by omega) (Or.inr ⟨_, rfl⟩)
      have hrest : groups (7 - front.length) true (joined ':' us) = (back, dotted, []) :=
        groups_joined hback (by omega)
      simp only [hgroups]
      rw [if_neg (by omega), if_neg Bool.false_ne_true]
      simp [sign?, hrest]

/-- An IPv6 address does not start with an IPv4 address. -/
theorem octets?_of_denotes {t : Text} {gs : List Nat} (h : Denotes t (.v6 gs)) :
    octets? t = none := by
  -- behind the first group there is the end or a colon, and no point
  have hgroup : ∀ {u rest : Text} {g : Nat} (ts : List Text), Number 16 4 true u g → Ends rest →
      octets? (joined ':' (u :: ts) ++ rest) = none := by
    intro u rest g ts hu hrest
    obtain ⟨hdigit, hpoint⟩ := hrest.behind ts
    rw [joined_cons, List.append_assoc]
    exact octets?_of_number hu hdigit hpoint
  cases h with
  | full h hlength =>
    cases h with
    | nil => cases hlength
    | @cons u g dotted ts gs hu h =>
      rw [← List.append_nil (joined ':' (u :: ts))]
      exact hgroup ts hu (Or.inl rfl)
    | dotted h => cases hlength
  | shortened hfront hback hlength =>
    rw [List.append_assoc]
    cases hfront with
    | nil => exact octets?_of_undigited (undigited_cons (by decide) (by decide) _)
    | cons hu h => exact hgroup _ hu (Or.inr ⟨_, rfl⟩)

theorem parse?_eq_read? {t : Text} {ip : IpAddress} :
    parse? t = some ip ↔ read? t = some (ip, []) := by
  unfold parse?
  constructor
  · intro h
    split at h
    · rename_i hread
      rw [hread, Option.some.inj h]
    · cases h
  · intro h
    rw [h]

/-- **What is read of a text** is the address that it stands for. -/
theorem parse?_eq_some_iff {t : Text} {ip : IpAddress} : parse? t = some ip ↔ Denotes t ip := by
  rw [parse?_eq_read?, read?]
  constructor
  · intro h
    cases hread : octets? t with
    | some read =>
      obtain ⟨octets, rest⟩ := read
      rw [hread] at h
      obtain ⟨rfl, rfl⟩ := Prod.mk.inj (Option.some.inj h)
      obtain ⟨front, rfl, hdotted, -⟩ := octets?_eq_some_iff.1 hread
      rw [List.append_nil]
      exact .v4 hdotted
    | none =>
      rw [hread] at h
      obtain ⟨⟨gs, rest⟩, hgroups, heq⟩ := Option.map_eq_some_iff.1 h
      obtain ⟨rfl, rfl⟩ := Prod.mk.inj heq
      exact groups?_eq_some_iff.1 hgroups
  · intro h
    cases ip with
    | v4 octets =>
      cases h with
      | v4 h =>
        have hread : octets? t = some (octets, []) :=
          octets?_eq_some_iff.2 ⟨t, (List.append_nil t).symm, h, undigited_nil⟩
        rw [hread]
    | v6 gs => rw [octets?_of_denotes h, groups?_eq_some_iff.2 h, Option.map_some]

/-- The last two groups as an IPv4 address, behind groups that are left out; and one group too many
for groups to be left out. -/
example : parse? "1::F:0.2.0.3".toList = some (.v6 [1, 0, 0, 0, 0, 15, 2, 3]) ∧
    parse? "1:2:3:4::5:6:7:8".toList = none := by
  decide

end PipeShell.IpAddress
