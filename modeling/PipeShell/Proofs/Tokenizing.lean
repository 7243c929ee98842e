import PipeShell.Proofs.Lexemes
import PipeShell.Proofs.Rendering

/-!
# Texts cut into tokens

A matcher is asked at one place of a text after the other. It says which rule applies there, if one
does, and how far its lexeme goes; the text is read lexeme by lexeme, and where no rule applies,
that place is reported (`Token.Matcher.tokenize`). Of the matcher nothing is known but that it takes
the longest lexeme of all rules (`Token.Matcher.TakesLongest`).

The scanner's own choice is such a matcher (`Token.scanning_takesLongest`), and its tokens are those
of the pieces into which the text divides (`Token.divided_pieces`, `Token.scan_eq`).

Main statement: whatever the matcher, every text is read, and its tokens with the blanks between
them cover it (`Token.tokenize_covers`). The induction is on the pieces: the longest lexeme in each
place is the piece there (`Token.Matcher.TakesLongest.first_eq`).
-/

set_option autoImplicit false

namespace PipeShell.Token

/-- The tokens of pieces, told from the first one. -/
theorem Piece.tokens_cons (piece : Piece) (pieces : List Piece) :
    (piece :: pieces).filterMap Piece.token? =
      piece.token?.toList ++ pieces.filterMap Piece.token? := by
  cases h : piece.token? with
  | none =>
    rw [List.filterMap_cons_none h]
    rfl
  | some token =>
    rw [List.filterMap_cons_some h]
    rfl

/-! ## Matchers -/

/-- What is asked of a matcher: the rule for a place where `c` stands and `rest` behind it, if there
is one, and the number of characters that belong to the lexeme behind `c`. -/
abbrev Matcher := Char → Text → Option Rule × Nat

namespace Matcher

/-- Reads the tokens of a text that starts at a byte of its line. -/
def tokenize (m : Matcher) (position : Nat) : Text → Except ParseError (List Token)
  | [] => .ok []
  | c :: rest =>
    let lexeme := c :: rest.take (m c rest).2
    match (m c rest).1 with
    | none => .error (.invalidToken position lexeme)
    | some rule => do
      let tokens ← tokenize m (position + Utf8.length lexeme) (rest.drop (m c rest).2)
      return (rule.token? lexeme).toList ++ tokens
termination_by t => t.length
decreasing_by
  rw [List.length_drop, List.length_cons]
  omega

/-- The matcher takes the longest lexeme of all rules, and finds none only where there is none. -/
structure TakesLongest (m : Matcher) : Prop where
  belongs : ∀ {c rest rule n}, m c rest = (some rule, n) → c :: rest.take n ∈ rule.pattern
  longest : ∀ {c rest rule n}, m c rest = (some rule, n) → ∀ (other : Rule) (lexeme : Text),
    lexeme ∈ other.pattern → lexeme <+: c :: rest → lexeme.length ≤ (c :: rest.take n).length
  finds : ∀ {c rest n}, m c rest = (none, n) → ∀ (other : Rule) (lexeme : Text),
    lexeme ∈ other.pattern → ¬ lexeme <+: c :: rest

variable {m : Matcher}

/-- **In the place of a piece** its rule is found, and its text is what is taken. -/
theorem TakesLongest.first_eq (h : m.TakesLongest) {piece : Piece} {c : Char} {body after : Text}
    (hp : piece.Fits after) (htext : piece.text = c :: body) :
    (m c (body ++ after)).1 = some piece.rule ∧
      (body ++ after).take (m c (body ++ after)).2 = body ∧
      (body ++ after).drop (m c (body ++ after)).2 = after := by
  have hmem := hp.mem_pattern
  have hfront : piece.text <+: c :: (body ++ after) := by
    rw [htext]
    exact List.prefix_append (c :: body) after
  obtain ⟨found, n, hm⟩ : ∃ found n, m c (body ++ after) = (found, n) := ⟨_, _, rfl⟩
  cases found with
  | none => exact absurd hfront (h.finds hm piece.rule piece.text hmem)
  | some rule =>
    -- no lexeme is longer than the piece, nor than the one that is taken
    have htaken : c :: (body ++ after).take n <+: piece.text ++ after := by
      rw [htext, List.cons_append, List.cons_prefix_cons]
      exact ⟨rfl, List.take_prefix n _⟩
    obtain ⟨hle, hrule⟩ := hp.longest (h.belongs hm) htaken
    have hge := h.longest hm piece.rule piece.text hmem hfront
    have heq : c :: (body ++ after).take n = piece.text := hle.eq_of_length_le hge
    have hbody : (body ++ after).take n = body := by
      rw [htext] at heq
      exact (List.cons.inj heq).2
    have hdrop : (body ++ after).drop n = after := by
      have hsplit := List.take_append_drop n (body ++ after)
      rw [hbody] at hsplit
      exact List.append_cancel_left hsplit
    rw [hm, hrule heq]
    exact ⟨rfl, hbody, hdrop⟩

/-- **A divided text is read**, and its tokens are those of the pieces. -/
theorem TakesLongest.tokenize_eq (h : m.TakesLongest) {t : Text} {pieces : List Piece}
    (ht : Divided t pieces) (position : Nat) :
    m.tokenize position t = .ok (pieces.filterMap Piece.token?) := by
  induction ht generalizing position with
  | nil => rw [tokenize, List.filterMap_nil]
  | @cons piece after pieces hp ht ih =>
    obtain ⟨c, body, htext, -⟩ := hp.shape
    obtain ⟨hrule, htake, hdrop⟩ := h.first_eq hp htext
    have htoken : piece.rule.token? (c :: body) = piece.token? := by
      rw [← htext]
      exact hp.token?_eq
    rw [htext, List.cons_append, tokenize]
    simp only [hrule, htake, hdrop, htoken, ih, Piece.tokens_cons]
    rfl

end Matcher

/-! ## The scanner -/

theorem outside_angles (c : Char) : outside ['<', '>'] c = continuesWord c := by
  rw [Bool.eq_iff_iff, continuesWord_iff]
  simp [outside]

/-- Behind a quote, the text up to the next one is taken, or all that there is. -/
theorem quoted_standsAs (rest : Text) :
    ∃ lexeme, (quoted (rest.takeWhile (· != '"'))).StandsAs lexeme
        ((rest.dropWhile (· != '"')).drop 1) ∧
      '"' :: rest = lexeme ++ (rest.dropWhile (· != '"')).drop 1 := by
  have hopen : '"' ∉ rest.takeWhile (· != '"') :=
    forall_ne_quote_iff.1 (List.all_eq_true.1 List.all_takeWhile)
  have hsplit := List.takeWhile_append_dropWhile (p := (· != '"')) (l := rest)
  cases hbehind : rest.dropWhile (· != '"') with
  | nil =>
    rw [hbehind, List.append_nil] at hsplit
    refine ⟨'"' :: rest.takeWhile (· != '"'), .unclosed hopen, ?_⟩
    rw [hsplit]
    exact (List.append_nil _).symm
  | cons d after =>
    obtain rfl : d = '"' := by
      have hhead : (rest.dropWhile (· != '"')).head? = some d := by
        rw [hbehind]
        rfl
      simpa using Text.head_dropWhile hhead
    rw [hbehind] at hsplit
    refine ⟨'"' :: (rest.takeWhile (· != '"') ++ ['"']), .closed hopen, ?_⟩
    simpa using hsplit.symm

/-- The next token stands as what is taken for it. -/
theorem next_standsAs {c : Char} (hc : Text.isBlank c = false) (rest : Text) :
    ∃ lexeme, (next c rest).1.StandsAs lexeme (next c rest).2 ∧
      c :: rest = lexeme ++ (next c rest).2 := by
  unfold next
  split_ifs with hin hout hquote
  · exact ⟨['<'], .input, by rw [hin]; rfl⟩
  · subst hout
    split
    · exact ⟨['>', '>'], .append, rfl⟩
    · rename_i hsecond
      refine ⟨['>'], .output ?_, rfl⟩
      intro hhead
      obtain ⟨rest, rfl⟩ := List.head?_eq_some_iff.1 hhead
      exact hsecond rest rfl
  · rw [hquote]
    exact quoted_standsAs rest
  · refine ⟨c :: rest.takeWhile continuesWord, .word ?_ ?_ ?_, ?_⟩
    · simp [outside, hc, hin, hout, hquote]
    · intro d hd
      rw [outside_angles]
      exact List.all_eq_true.1 List.all_takeWhile d hd
    · intro d hd
      rw [outside_angles]
      exact Text.head_dropWhile hd
    · rw [List.cons_append, List.takeWhile_append_dropWhile]

/-- The first piece of a text, and the text behind it. -/
def firstPiece (c : Char) (rest : Text) : Piece × Text :=
  if Text.isBlank c then (.blanks (c :: rest.takeWhile Text.isBlank), rest.dropWhile Text.isBlank)
  else
    let (token, after) := next c rest
    (.token token ((c :: rest).take ((c :: rest).length - after.length)), after)

/-- Blanks in front of a text are passed over. -/
theorem scan_blanks {run : Text} (h : ∀ c ∈ run, Text.isBlank c = true) (t : Text) :
    scan (run ++ t) = scan t := by
  induction run with
  | nil => rfl
  | cons c run ih =>
    obtain ⟨hc, hrun⟩ := List.forall_mem_cons.1 h
    rw [List.cons_append, scan_cons_blank hc, ih hrun]

/-- The first piece fits, nothing is lost, and its token is the next one that is scanned. -/
theorem firstPiece_spec (c : Char) (rest : Text) :
    (firstPiece c rest).1.Fits (firstPiece c rest).2 ∧
      c :: rest = (firstPiece c rest).1.text ++ (firstPiece c rest).2 ∧
      scan (c :: rest) = (firstPiece c rest).1.token?.toList ++ scan (firstPiece c rest).2 := by
  unfold firstPiece
  by_cases hc : Text.isBlank c = true
  · rw [if_pos hc]
    have hblank : ∀ d ∈ rest.takeWhile Text.isBlank, Text.isBlank d = true :=
      List.all_eq_true.1 List.all_takeWhile
    have hsplit : rest = rest.takeWhile Text.isBlank ++ rest.dropWhile Text.isBlank :=
      List.takeWhile_append_dropWhile.symm
    refine ⟨.blanks (List.cons_ne_nil _ _) (List.forall_mem_cons.2 ⟨hc, hblank⟩) ?_, ?_, ?_⟩
    · intro d hd
      exact Text.head_dropWhile hd
    · exact congrArg (c :: ·) hsplit
    · rw [scan_cons_blank hc]
      conv_lhs => rw [hsplit]
      exact scan_blanks hblank _
  · rw [if_neg hc]
    have hc := Bool.eq_false_iff.2 hc
    obtain ⟨lexeme, hstands, hsplit⟩ := next_standsAs hc rest
    have hlexeme : (c :: rest).take ((c :: rest).length - (next c rest).2.length) = lexeme := by
      rw [hsplit, List.length_append, Nat.add_sub_cancel, List.take_left]
    refine ⟨.token ?_, ?_, scan_cons hc rest⟩
    · rw [hlexeme]
      exact hstands
    · exact hsplit.trans (congrArg (· ++ (next c rest).2) hlexeme.symm)

theorem firstPiece_length (c : Char) (rest : Text) :
    (firstPiece c rest).2.length < (c :: rest).length := by
  obtain ⟨hfits, hsplit, -⟩ := firstPiece_spec c rest
  obtain ⟨d, body, htext, -⟩ := hfits.shape
  rw [hsplit, htext, List.length_append, List.length_cons]
  omega

/-- The pieces of a text. -/
def pieces : Text → List Piece
  | [] => []
  | c :: rest => (firstPiece c rest).1 :: pieces (firstPiece c rest).2
termination_by t => t.length
decreasing_by exact firstPiece_length c rest

theorem divided_pieces (t : Text) : Divided t (pieces t) := by
  fun_induction pieces t with
  | case1 => exact .nil
  | case2 c rest ih =>
    obtain ⟨hfits, hsplit, -⟩ := firstPiece_spec c rest
    rw [hsplit]
    exact .cons hfits ih

/-- **The tokens that are scanned** are those of the pieces. -/
theorem scan_eq (t : Text) : scan t = (pieces t).filterMap Piece.token? := by
  fun_induction pieces t with
  | case1 => rw [scan, List.filterMap_nil]
  | case2 c rest ih =>
    obtain ⟨-, -, hscan⟩ := firstPiece_spec c rest
    rw [hscan, ih, Piece.tokens_cons]

/-- The choice of the scanner, as a matcher. -/
def scanning : Matcher := fun c rest =>
  (some (firstPiece c rest).1.rule, (firstPiece c rest).1.text.length - 1)

theorem scanning_takesLongest : scanning.TakesLongest := by
  -- what is taken is the first piece
  have htaken : ∀ (c : Char) (rest : Text),
      c :: rest.take ((firstPiece c rest).1.text.length - 1) = (firstPiece c rest).1.text := by
    intro c rest
    obtain ⟨hfits, hsplit, -⟩ := firstPiece_spec c rest
    obtain ⟨d, body, htext, -⟩ := hfits.shape
    rw [htext, List.cons_append] at hsplit
    obtain ⟨rfl, hrest⟩ := List.cons.inj hsplit
    rw [htext, List.length_cons, Nat.add_sub_cancel]
    conv_lhs => rw [hrest, List.take_left]
  constructor
  · intro c rest rule n h
    obtain ⟨hrule, rfl⟩ := Prod.mk.inj h
    obtain rfl := Option.some.inj hrule
    rw [htaken]
    exact (firstPiece_spec c rest).1.mem_pattern
  · intro c rest rule n h other lexeme hl hpre
    obtain ⟨-, rfl⟩ := Prod.mk.inj h
    obtain ⟨hfits, hsplit, -⟩ := firstPiece_spec c rest
    rw [hsplit] at hpre
    rw [htaken]
    exact (hfits.longest hl hpre).1.length_le
  · intro c rest n h
    cases h

/-! ## Every text is covered -/

/-- **There are no tokens** exactly if nothing is left of the text when it is trimmed. -/
theorem scan_eq_nil_iff {t : Text} : scan t = [] ↔ Text.trim t = [] := by
  rw [Text.trim_eq_nil_iff]
  fun_induction scan t with
  | case1 => simp
  | case2 c rest hc ih => rw [ih, List.all_cons, hc, Bool.true_and]
  | case3 c rest hc ih =>
    rw [List.all_cons, Bool.and_eq_true]
    constructor
    · intro h
      cases h
    · intro h
      exact absurd h.1 hc

/-- **The tokens cover the text**, whatever matcher takes the longest lexemes. Every text is read,
and it is the runs of blanks and the lexemes of its tokens, one after the other; there is no other
way to divide it, and no run could be longer. What is blank to the scanner is what is trimmed, so a
part of a line that counts as a command has tokens. -/
theorem tokenize_covers {m : Matcher} (h : m.TakesLongest) (t : Text) :
    m.tokenize 0 t = .ok (scan t) ∧
      (∃ pieces, Divided t pieces ∧ (∀ others, Divided t others → others = pieces) ∧
        t = pieces.flatMap Piece.text ∧ scan t = pieces.filterMap Piece.token? ∧
        ∀ front run back, pieces = front ++ .blanks run :: back →
          (∀ c, (front.flatMap Piece.text).getLast? = some c → Text.isBlank c = false) ∧
            ∀ c, (back.flatMap Piece.text).head? = some c → Text.isBlank c = false) ∧
      (scan t = [] ↔ Text.trim t = []) ∧
      ((∃ c ∈ t, Text.isBlank c = false) → scan t ≠ []) ∧
      ∀ line, t ∈ Pipeline.segments line → scan t ≠ [] := by
  have hdivided := divided_pieces t
  refine ⟨?_, ⟨pieces t, hdivided, ?_, hdivided.text_eq, scan_eq t, ?_⟩, scan_eq_nil_iff, ?_, ?_⟩
  · rw [scan_eq]
    exact h.tokenize_eq hdivided 0
  · intro others hothers
    exact hothers.unique hdivided
  · intro front run back hpieces
    rw [hpieces] at hdivided
    exact hdivided.blanks_maximal
  · rintro ⟨c, hc, hblank⟩ hnil
    rw [scan_eq_nil_iff, Text.trim_eq_nil_iff, List.all_eq_true] at hnil
    rw [hnil c hc] at hblank
    cases hblank
  · intro line hsegment hnil
    obtain ⟨hmem, hne⟩ := List.mem_filter.1 hsegment
    obtain ⟨part, -, rfl⟩ := List.mem_map.1 hmem
    rw [scan_eq_nil_iff, Text.trim_trim] at hnil
    rw [hnil] at hne
    cases hne

/-- Quotes inside a word and at its end, three signs in a row, a wide blank, and a quote that stays
open. -/
def tangledText : Text := "a\"b\u3000c\">>> \"x ".toList

/-- What the text divides into. -/
def tangledPieces : List Piece :=
  [.token (.word "a\"b".toList) "a\"b".toList, .blanks "\u3000".toList,
    .token (.word "c\"".toList) "c\"".toList, .token (.redirect .append) ">>".toList,
    .token (.redirect .output) ">".toList, .blanks " ".toList,
    .token (.quoted "x ".toList) "\"x ".toList]

theorem tokenize_covers_tangled :
    scanning.TakesLongest ∧
      scanning.tokenize 0 tangledText =
        .ok [.word "a\"b".toList, .word "c\"".toList, .redirect .append, .redirect .output,
          .quoted "x ".toList] ∧
      ∀ others, Divided tangledText others → others = tangledPieces := by
  have hpieces : pieces tangledText = tangledPieces := by decide +kernel
  obtain ⟨htokens, ⟨parts, -, hunique, -, hscan, -⟩, -⟩ :=
    tokenize_covers scanning_takesLongest tangledText
  obtain rfl : tangledPieces = parts := hpieces ▸ hunique _ (divided_pieces tangledText)
  refine ⟨scanning_takesLongest, ?_, hunique⟩
  rw [htokens, hscan]
  rfl

end PipeShell.Token
