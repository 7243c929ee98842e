import PipeShell.Command.Parser
import PipeShell.Proofs.Wording

/-!
# Lines cut at separators

A line is cut at each separator, the parts are trimmed, and blank parts count for nothing. Cutting
is the library's `List.splitOn` (`Pipeline.cut_eq_splitOn`), so a separator between two texts puts
the parts of both side by side (`Pipeline.segments_append`), and a line has as many segments as it
has parts with a character that is no blank (`Pipeline.length_segments`).

In the other direction, texts that are tight, so that trimming leaves them as they are, and that
hold no separator come back when they are joined by separators with blanks around them
(`Pipeline.segments_join`).
-/

set_option autoImplicit false

namespace PipeShell

/-! ## Trimming -/

namespace Text

theorem trimEnd_concat {t : Text} {c : Char} (hc : isBlank c = true) :
    trimEnd (t ++ [c]) = trimEnd t := by
  rw [trimEnd, List.reverse_append, List.reverse_singleton, List.singleton_append,
    List.dropWhile_cons_of_pos hc, trimEnd]

/-- A blank at the end makes no difference to a trimmed text. -/
theorem trim_concat {t : Text} {c : Char} (hc : isBlank c = true) : trim (t ++ [c]) = trim t := by
  unfold trim trimStart
  cases h : (t.dropWhile isBlank).isEmpty with
  | true =>
    have hnil := List.isEmpty_iff.1 h
    rw [List.dropWhile_append, if_pos h, hnil, List.dropWhile_cons_of_pos hc, List.dropWhile_nil]
  | false =>
    rw [List.dropWhile_append, if_neg (by rw [h]; exact Bool.false_ne_true), trimEnd_concat hc]

/-- Nor does a blank at the start. -/
theorem trim_cons {c : Char} (hc : isBlank c = true) (t : Text) : trim (c :: t) = trim t := by
  unfold trim trimStart
  rw [List.dropWhile_cons_of_pos hc]

/-- What no blank at an end makes a difference to, blanks around a text make none to. -/
theorem eq_of_surround {α : Type} {f : Text → α}
    (hcons : ∀ c, isBlank c = true → ∀ t, f (c :: t) = f t)
    (hconcat : ∀ c, isBlank c = true → ∀ t, f (t ++ [c]) = f t) {front behind : Text}
    (hf : front.all isBlank = true) (hb : behind.all isBlank = true) (t : Text) :
    f (front ++ t ++ behind) = f t := by
  have hfront : ∀ rest, f (front ++ rest) = f rest := by
    intro rest
    induction front with
    | nil => rfl
    | cons c front ih =>
      rw [List.all_cons, Bool.and_eq_true] at hf
      rw [List.cons_append, hcons c hf.1, ih hf.2]
  rw [List.append_assoc, hfront]
  induction behind generalizing t with
  | nil => rw [List.append_nil]
  | cons c behind ih =>
    rw [List.all_cons, Bool.and_eq_true] at hb
    have hsplit : t ++ c :: behind = (t ++ [c]) ++ behind := by
      rw [List.append_assoc, List.singleton_append]
    rw [hsplit, ih hb.2, hconcat c hb.1]

/-- Nothing is left of a text exactly if all its characters are blank. -/
theorem trim_eq_nil_iff {t : Text} : trim t = [] ↔ t.all isBlank = true := by
  induction t with
  | nil => simp [trim, trimStart, trimEnd]
  | cons c t ih =>
    by_cases hc : isBlank c = true
    · rw [trim_cons hc, ih, List.all_cons, hc, Bool.true_and]
    · -- the text keeps its first character, since no blank stands in front of it
      have hstart : trimStart (c :: t) = c :: t := List.dropWhile_cons_of_neg hc
      constructor
      · intro h
        rw [trim, hstart, trimEnd, List.reverse_eq_nil_iff] at h
        have hall := List.all_takeWhile (p := isBlank) (l := (c :: t).reverse)
        have hsplit := List.takeWhile_append_dropWhile (p := isBlank) (l := (c :: t).reverse)
        rw [h, List.append_nil] at hsplit
        rw [hsplit, List.all_reverse, List.all_cons, Bool.and_eq_true] at hall
        exact absurd hall.1 hc
      · intro h
        rw [List.all_cons, Bool.and_eq_true] at h
        exact absurd h.1 hc

/-- The text has characters, and none at its ends is blank. -/
structure Tight (t : Text) : Prop where
  ne_nil : t ≠ []
  head : ∀ c, t.head? = some c → isBlank c = false
  last : ∀ c, t.getLast? = some c → isBlank c = false

theorem Tight.trim_eq {t : Text} (h : t.Tight) : trim t = t := trim_eq_self h.head h.last

/-- A text of characters that are not blank is tight. -/
theorem tight_of_forall {t : Text} (hne : t ≠ []) (h : ∀ c ∈ t, isBlank c = false) : t.Tight where
  ne_nil := hne
  head c hc := h c (List.mem_of_head? hc)
  last c hc := h c (List.mem_of_getLast? hc)

/-- Only the ends of a tight text matter. -/
theorem Tight.append {t u : Text} (ht : t.Tight) (hu : u.Tight) (between : Text) :
    (t ++ between ++ u).Tight where
  ne_nil h := hu.ne_nil (List.append_eq_nil_iff.1 h).2
  head c hc := by
    rw [List.append_assoc, List.head?_append, List.head?_eq_some_head ht.ne_nil,
      Option.some_or] at hc
    exact ht.head c (by rw [List.head?_eq_some_head ht.ne_nil, hc])
  last c hc := by
    rw [List.getLast?_append, List.getLast?_eq_some_getLast hu.ne_nil, Option.some_or] at hc
    exact hu.last c (by rw [List.getLast?_eq_some_getLast hu.ne_nil, hc])

/-- Tight texts make a tight text, whatever they are joined by. -/
theorem tight_intercalate {texts : List Text} (between : Text) (hne : texts ≠ [])
    (h : ∀ t ∈ texts, t.Tight) : Tight (between.intercalate texts) := by
  induction texts with
  | nil => exact absurd rfl hne
  | cons t rest ih =>
    obtain ⟨ht, hrest⟩ := List.forall_mem_cons.1 h
    cases rest with
    | nil =>
      rw [List.intercalate_singleton]
      exact ht
    | cons u rest =>
      rw [List.intercalate_cons_cons]
      exact ht.append (ih (List.cons_ne_nil u rest) hrest) between

/-- What is joined is made of the characters of the texts and of those between them. -/
theorem over_intercalate {p : Char → Prop} {between : Text} {texts : List Text}
    (hb : Over p between) (h : ∀ t ∈ texts, Over p t) : Over p (between.intercalate texts) := by
  induction texts with
  | nil => exact over_nil
  | cons t rest ih =>
    obtain ⟨ht, hrest⟩ := List.forall_mem_cons.1 h
    cases rest with
    | nil =>
      rw [List.intercalate_singleton]
      exact ht
    | cons u rest =>
      rw [List.intercalate_cons_cons]
      exact over_append.2 ⟨over_append.2 ⟨ht, hb⟩, ih hrest⟩

end Text

/-! ## Cutting -/

/-- No part holds a mark. -/
theorem Text.not_mem_of_mem_splitOn {mark : Char} {t : Text} :
    ∀ part ∈ t.splitOn mark, mark ∉ part := by
  induction t with
  | nil =>
    intro part hpart
    rw [List.splitOn_nil, List.mem_singleton] at hpart
    exact hpart ▸ List.not_mem_nil
  | cons c t ih =>
    intro part hpart
    rw [List.splitOn_cons_eq_if_modifyHead] at hpart
    by_cases hc : c = mark
    · -- a mark starts a part of its own
      rw [if_pos (beq_iff_eq.2 hc)] at hpart
      rcases List.mem_cons.1 hpart with rfl | hpart
      · exact List.not_mem_nil
      · exact ih part hpart
    · rw [if_neg (mt beq_iff_eq.1 hc)] at hpart
      cases hparts : t.splitOn mark with
      | nil => exact absurd hparts (List.splitOn_ne_nil mark t)
      | cons first others =>
        rw [hparts] at hpart ih
        rcases List.mem_cons.1 hpart with rfl | hpart
        · have hfirst := ih first List.mem_cons_self
          simp [Ne.symm hc, hfirst]
        · exact ih part (List.mem_cons_of_mem _ hpart)

namespace Pipeline

/-- A line is cut as the library cuts a list. -/
theorem cut_eq_splitOn (line : Text) : cut line = line.splitOn separator := by
  induction line with
  | nil => rw [cut, List.splitOn_nil]
  | cons c rest ih =>
    rw [List.splitOn_cons_eq_if_modifyHead, cut, ih]
    by_cases hc : c = separator
    · rw [if_pos hc, if_pos (beq_iff_eq.2 hc)]
    · rw [if_neg hc, if_neg (mt beq_iff_eq.1 hc)]
      -- the character goes to the first part, and there is one
      cases hparts : rest.splitOn separator with
      | nil => exact absurd hparts (List.splitOn_ne_nil separator rest)
      | cons part parts => rfl

/-! ## Segments -/

/-- Between two texts, a separator puts their segments side by side. -/
theorem segments_append (a b : Text) :
    segments (a ++ separator :: b) = segments a ++ segments b := by
  simp only [segments, cut_eq_splitOn, List.splitOn_append_cons_self, List.map_append,
    List.filter_append]

/-- A text without separators is one segment, or none if it is blank. -/
theorem segments_of_not_mem {t : Text} (h : separator ∉ t) :
    segments t = [Text.trim t].filter fun t => !t.isEmpty := by
  rw [segments, cut_eq_splitOn, List.splitOn_eq_singleton h, List.map_singleton]

/-- A blank in front of a line makes no difference to its segments. -/
theorem segments_cons {c : Char} (hc : Text.isBlank c = true) (line : Text) :
    segments (c :: line) = segments line := by
  have hne : c ≠ separator := by
    rintro rfl
    exact absurd hc (by decide)
  unfold segments
  rw [cut, if_neg hne]
  cases cut line with
  | nil =>
    have htrim : Text.trim [c] = [] := Text.trim_eq_nil_iff.2 (by simp [hc])
    simp [htrim]
  | cons part parts => simp only [List.map_cons, Text.trim_cons hc]

theorem separator_not_mem_segments {line : Text} :
    ∀ segment ∈ segments line, separator ∉ segment := by
  intro segment hsegment
  obtain ⟨part, hpart, rfl⟩ := List.mem_map.1 (List.mem_filter.1 hsegment).1
  rw [cut_eq_splitOn] at hpart
  have hover : Text.Over (· ≠ separator) part :=
    fun c hc he => Text.not_mem_of_mem_splitOn part hpart (he ▸ hc)
  exact fun hmem => Text.trim_over hover separator hmem rfl

/-- **There are as many segments as parts that are not blank.** -/
theorem length_segments (line : Text) : (segments line).length =
    (line.splitOn separator).countP fun part => !part.all Text.isBlank := by
  rw [segments, ← List.countP_eq_length_filter, List.countP_map, cut_eq_splitOn]
  refine List.countP_congr fun part _ => ?_
  have hiff : (Text.trim part).isEmpty = part.all Text.isBlank := by
    rw [Bool.eq_iff_iff, List.isEmpty_iff]
    exact Text.trim_eq_nil_iff
  simp only [Function.comp_apply, hiff]

/-- **Segments come back** from the line that joins them. -/
theorem segments_join {parts : List Text} (h : ∀ part ∈ parts, part.Tight ∧ separator ∉ part) :
    segments (" | ".toList.intercalate parts) = parts := by
  induction parts with
  | nil => rfl
  | cons part rest ih =>
    obtain ⟨⟨htight, hpart⟩, hrest⟩ := List.forall_mem_cons.1 h
    -- one tight text is one segment
    have hone : segments part = [part] := by
      rw [segments_of_not_mem hpart, htight.trim_eq]
      simp [htight.ne_nil]
    cases rest with
    | nil =>
      rw [List.intercalate_singleton]
      exact hone
    | cons next rest =>
      -- the separator is behind one blank and in front of another
      have hblank : separator ∉ part ++ [' '] := by
        rw [List.mem_append, not_or]
        exact ⟨hpart, by decide⟩
      have hfirst : segments (part ++ [' ']) = [part] := by
        rw [segments_of_not_mem hblank, Text.trim_concat (by decide), htight.trim_eq]
        simp [htight.ne_nil]
      have hsplit : " | ".toList.intercalate (part :: next :: rest) =
          (part ++ [' ']) ++ separator :: ' ' :: " | ".toList.intercalate (next :: rest) := by
        rw [List.intercalate_cons_cons, List.append_assoc, List.append_assoc]
        rfl
      rw [hsplit, segments_append, hfirst, segments_cons (by decide), ih hrest]
      rfl

end Pipeline

end PipeShell
