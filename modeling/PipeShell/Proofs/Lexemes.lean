import Mathlib.Computability.Language
import PipeShell.Command.Token

/-!
# Lexemes and pieces

The scanner has six rules, one for blanks, which are skipped, and one for each kind of token. A rule
declares the language of its lexemes (`Token.Rule.pattern`) and what is made of a lexeme
(`Token.Rule.token?`).

In a text a token stands as a lexeme of its own: an operator as its signs, a quoted text with its
quotes, a word up to where it has to stop (`Token.StandsAs`). Which lexeme that is can depend on
what follows. A text divides into pieces, runs of blanks and lexemes of tokens, each of which goes
as far as it can (`Token.Divided`).

Main statements: in front of a piece and what follows it no rule has a longer lexeme, and no other
rule has the same one (`Token.Piece.Fits.longest`); so a text divides into pieces in one way only
(`Token.Divided.unique`).
-/

set_option autoImplicit false

namespace PipeShell.Token

/-! ## Rules -/

/-- The rules of the scanner. -/
inductive Rule where
  | blanks
  | input
  | output
  | append
  | quoted
  | word
  deriving DecidableEq, Repr

/-- Is a character neither a blank nor one of the signs? -/
def outside (signs : List Char) (c : Char) : Bool := !Text.isBlank c && !signs.contains c

theorem outside_iff {signs : List Char} {c : Char} :
    outside signs c = true ↔ Text.isBlank c = false ∧ c ∉ signs := by
  simp [outside]

theorem forall_ne_quote_iff {t : Text} : (∀ c ∈ t, (c != '"') = true) ↔ '"' ∉ t := by
  constructor
  · intro h hmem
    exact bne_iff_ne.1 (h '"' hmem) rfl
  · intro h c hc
    apply bne_iff_ne.2
    rintro rfl
    exact h hc

/-- Takes the quotes off a lexeme: the one at its start, and one at its end if it is there. -/
def unquote (lexeme : Text) : Text :=
  let inner := lexeme.drop 1
  if inner.getLast? = some '"' then inner.dropLast else inner

namespace Rule

/-- The texts of one character of a class. -/
def one (p : Char → Bool) : Language Char := {t | ∃ c, p c = true ∧ t = [c]}

/-- The texts of any number of characters of a class. -/
def many (p : Char → Bool) : Language Char := KStar.kstar (one p)

/-- The lexemes of a rule. -/
def pattern : Rule → Language Char
  | blanks => one Text.isBlank * many Text.isBlank
  | input => {"<".toList}
  | output => {">".toList}
  | append => {">>".toList}
  | quoted => one (· == '"') * many (· != '"') * (one (· == '"') + 1)
  | word => one (outside ['<', '>', '"']) * many (outside ['<', '>'])

/-- What a rule makes of a lexeme, if it is not skipped. -/
def token? : Rule → Text → Option Token
  | blanks, _ => none
  | input, _ => some (.redirect .input)
  | output, _ => some (.redirect .output)
  | append, _ => some (.redirect .append)
  | quoted, lexeme => some (.quoted (unquote lexeme))
  | word, lexeme => some (.word lexeme)

end Rule

/-! ## Pieces -/

/-- How a token stands in a text that goes on with `after`. -/
inductive StandsAs : Token → Text → Text → Prop
  | input {after : Text} : StandsAs (redirect .input) ['<'] after
  | append {after : Text} : StandsAs (redirect .append) ['>', '>'] after
  /-- One sign, and not two. -/
  | output {after : Text} (h : after.head? ≠ some '>') : StandsAs (redirect .output) ['>'] after
  /-- Up to and with the next quote. -/
  | closed {text after : Text} (h : '"' ∉ text) :
    StandsAs (quoted text) ('"' :: (text ++ ['"'])) after
  /-- Up to the end, if there is no other quote. -/
  | unclosed {text : Text} (h : '"' ∉ text) : StandsAs (quoted text) ('"' :: text) []
  /-- Up to the next blank or redirect sign, or the end. -/
  | word {c : Char} {body after : Text} (hc : outside ['<', '>', '"'] c = true)
    (hbody : ∀ d ∈ body, outside ['<', '>'] d = true)
    (hend : ∀ d, after.head? = some d → outside ['<', '>'] d = false) :
    StandsAs (word (c :: body)) (c :: body) after

/-- A piece of a text: a run of blanks, or the lexeme of a token. -/
inductive Piece where
  | blanks (run : Text)
  | token (token : Token) (lexeme : Text)
  deriving DecidableEq, Repr

namespace Piece

/-- The text that a piece covers. -/
def text : Piece → Text
  | blanks run => run
  | token _ lexeme => lexeme

/-- The token of a piece, if it has one. -/
def token? : Piece → Option Token
  | blanks _ => none
  | token t _ => some t

/-- The rule that a piece belongs to. -/
def rule : Piece → Rule
  | blanks _ => .blanks
  | token (.redirect .input) _ => .input
  | token (.redirect .output) _ => .output
  | token (.redirect .append) _ => .append
  | token (.quoted _) _ => .quoted
  | token (.word _) _ => .word

/-- The piece can stand in front of `after`: a run of blanks holds all that there are, and a token
has the lexeme that it stands as. -/
inductive Fits : Piece → Text → Prop
  | blanks {run after : Text} (hne : run ≠ []) (hblank : ∀ c ∈ run, Text.isBlank c = true)
    (hend : ∀ c, after.head? = some c → Text.isBlank c = false) : Fits (blanks run) after
  | token {t : Token} {lexeme after : Text} (h : t.StandsAs lexeme after) :
    Fits (token t lexeme) after

end Piece

/-- A text is the pieces, one after the other, and each fits where it stands. -/
inductive Divided : Text → List Piece → Prop
  | nil : Divided [] []
  | cons {piece : Piece} {after : Text} {pieces : List Piece} (hp : piece.Fits after)
    (h : Divided after pieces) : Divided (piece.text ++ after) (piece :: pieces)

/-! ## Lexemes by their first character -/

namespace Rule

variable {rule other : Rule}

/-- The lexemes of a rule, told from the first character and the others. -/
def Shape : Rule → Char → Text → Prop
  | blanks, c, body => Text.isBlank c = true ∧ ∀ d ∈ body, Text.isBlank d = true
  | input, c, body => c = '<' ∧ body = []
  | output, c, body => c = '>' ∧ body = []
  | append, c, body => c = '>' ∧ body = ['>']
  | quoted, c, body => c = '"' ∧ ∃ text, '"' ∉ text ∧ (body = text ∨ body = text ++ ['"'])
  | word, c, body =>
    outside ['<', '>', '"'] c = true ∧ ∀ d ∈ body, outside ['<', '>'] d = true

theorem mem_many_iff {p : Char → Bool} {t : Text} : t ∈ many p ↔ ∀ c ∈ t, p c = true := by
  unfold many
  rw [Language.mem_kstar]
  constructor
  · rintro ⟨parts, rfl, hparts⟩ c hc
    obtain ⟨part, hpart, hc⟩ := List.mem_flatten.1 hc
    obtain ⟨d, hd, rfl⟩ := hparts part hpart
    rw [List.mem_singleton.1 hc]
    exact hd
  · intro h
    refine ⟨t.map fun c => [c], ?_, ?_⟩
    · induction t with
      | nil => rfl
      | cons c t ih => simpa using ih (fun d hd => h d (List.mem_cons_of_mem c hd))
    · intro part hpart
      obtain ⟨c, hc, rfl⟩ := List.mem_map.1 hpart
      exact ⟨c, h c hc, rfl⟩

theorem mem_run_iff {p q : Char → Bool} {t : Text} :
    t ∈ one p * many q ↔ ∃ c body, t = c :: body ∧ p c = true ∧ ∀ d ∈ body, q d = true := by
  rw [Language.mem_mul]
  constructor
  · rintro ⟨_, ⟨c, hc, rfl⟩, body, hbody, rfl⟩
    exact ⟨c, body, rfl, hc, mem_many_iff.1 hbody⟩
  · rintro ⟨c, body, rfl, hc, hbody⟩
    exact ⟨[c], ⟨c, hc, rfl⟩, body, mem_many_iff.2 hbody, rfl⟩

theorem mem_sign_iff {c : Char} {body t : Text} :
    t ∈ ({c :: body} : Language Char) ↔ ∃ d rest, t = d :: rest ∧ d = c ∧ rest = body := by
  constructor
  · intro h
    exact ⟨c, body, h, rfl, rfl⟩
  · rintro ⟨d, rest, rfl, rfl, rfl⟩
    rfl

/-- **The lexemes of a rule** have characters, the first of which the rule starts with. -/
theorem mem_pattern_iff {lexeme : Text} :
    lexeme ∈ rule.pattern ↔ ∃ c body, lexeme = c :: body ∧ rule.Shape c body := by
  cases rule with
  | blanks => exact mem_run_iff
  | input => exact mem_sign_iff
  | output => exact mem_sign_iff
  | append => exact mem_sign_iff
  | quoted =>
    unfold pattern
    rw [Language.mem_mul]
    constructor
    · rintro ⟨_, hopen, behind, hbehind, rfl⟩
      obtain ⟨c, text, rfl, hc, htext⟩ := mem_run_iff.1 hopen
      refine ⟨c, text ++ behind, rfl, eq_of_beq hc, text, forall_ne_quote_iff.1 htext, ?_⟩
      rcases (Language.mem_add _ _ _).1 hbehind with ⟨d, hd, rfl⟩ | hnil
      · obtain rfl : d = '"' := eq_of_beq hd
        exact Or.inr rfl
      · rw [(Language.mem_one behind).1 hnil, List.append_nil]
        exact Or.inl rfl
    · rintro ⟨c, body, rfl, rfl, text, htext, hbody⟩
      have hopen : '"' :: text ∈ one (· == '"') * many (· != '"') :=
        mem_run_iff.2 ⟨'"', text, rfl, rfl, forall_ne_quote_iff.2 htext⟩
      rcases hbody with rfl | rfl
      · exact ⟨_, hopen, [], (Language.mem_add _ _ _).2 (Or.inr rfl), List.append_nil _⟩
      · exact ⟨_, hopen, ['"'], (Language.mem_add _ _ _).2 (Or.inl ⟨'"', rfl, rfl⟩), rfl⟩
  | word => exact mem_run_iff

/-- The rules with lexemes that start with a character. -/
def starting (c : Char) : List Rule :=
  if Text.isBlank c then [.blanks]
  else if c = '<' then [.input]
  else if c = '>' then [.output, .append]
  else if c = '"' then [.quoted]
  else [.word]

theorem Shape.mem_starting {c : Char} {body : Text} (h : rule.Shape c body) :
    rule ∈ starting c := by
  unfold starting
  cases rule with
  | blanks => simp [h.1]
  | input => obtain ⟨rfl, -⟩ := h; decide
  | output => obtain ⟨rfl, -⟩ := h; decide
  | append => obtain ⟨rfl, -⟩ := h; decide
  | quoted => obtain ⟨rfl, -⟩ := h; decide
  | word =>
    obtain ⟨hblank, hc⟩ := outside_iff.1 h.1
    simp only [List.mem_cons, List.not_mem_nil, or_false, not_or] at hc
    simp [hblank, hc]

/-- Only the rules for `>` and `>>` have lexemes that start alike. -/
theorem eq_of_starting {c : Char} (h : rule ∈ starting c) (ho : other ∈ starting c)
    (hc : c ≠ '>') : rule = other := by
  unfold starting at h ho
  grind

theorem mem_starting_angle : rule ∈ starting '>' ↔ rule = .output ∨ rule = .append := by
  cases rule <;> decide

end Rule

/-! ## The longest lexeme -/

/-- A run of characters of a class does not go on where the class ends. -/
theorem prefix_of_run {p : Char → Bool} {run body after : Text}
    (hend : ∀ d, after.head? = some d → p d = false) (hrun : ∀ d ∈ run, p d = true)
    (h : run <+: body ++ after) : run <+: body := by
  rcases List.prefix_or_prefix_of_prefix h (List.prefix_append body after) with h' | ⟨more, rfl⟩
  · exact h'
  · -- what is more than the body would start with a character behind it
    rw [List.prefix_append_right_inj] at h
    cases more with
    | nil => rw [List.append_nil]
    | cons d more =>
      obtain ⟨rest, rfl⟩ := h
      have hd := hend d rfl
      rw [hrun d (List.mem_append_right body List.mem_cons_self)] at hd
      cases hd

/-- What a quoted text can go on with, behind its first quote, ends with the next quote. -/
theorem prefix_of_quoted {text run body after : Text} (htext : '"' ∉ text) (hrun : '"' ∉ run)
    (hbody : body = run ∨ body = run ++ ['"']) (h : body <+: text ++ '"' :: after) :
    body <+: text ++ ['"'] := by
  have hend : ∀ d, ('"' :: after).head? = some d → (d != '"') = false := by
    intro d hd
    cases hd
    rfl
  -- what stands between the quotes does not go past the next quote
  have hfront : run <+: text := by
    refine prefix_of_run hend (forall_ne_quote_iff.2 hrun) ?_
    rcases hbody with rfl | rfl
    · exact h
    · exact (List.prefix_append run ['"']).trans h
  obtain ⟨rest, rfl⟩ := hfront
  rcases hbody with rfl | rfl
  · rw [List.append_assoc]
    exact List.prefix_append body _
  · -- and the closing quote is the next one
    cases rest with
    | nil => rw [List.append_nil]
    | cons d rest =>
      rw [List.append_assoc, List.prefix_append_right_inj] at h
      obtain ⟨rfl, -⟩ := List.cons_prefix_cons.1 h
      exact absurd (List.mem_append_right run List.mem_cons_self) htext

namespace Piece.Fits

variable {piece other : Piece} {after more : Text}

theorem shape (h : piece.Fits after) :
    ∃ c body, piece.text = c :: body ∧ piece.rule.Shape c body := by
  cases h with
  | @blanks run after hne hblank hend =>
    cases run with
    | nil => exact absurd rfl hne
    | cons c body =>
      obtain ⟨hc, hbody⟩ := List.forall_mem_cons.1 hblank
      exact ⟨c, body, rfl, hc, hbody⟩
  | token h =>
    cases h with
    | input => exact ⟨'<', [], rfl, rfl, rfl⟩
    | append => exact ⟨'>', ['>'], rfl, rfl, rfl⟩
    | output h => exact ⟨'>', [], rfl, rfl, rfl⟩
    | closed h => exact ⟨'"', _, rfl, rfl, _, h, Or.inr rfl⟩
    | unclosed h => exact ⟨'"', _, rfl, rfl, _, h, Or.inl rfl⟩
    | word hc hbody hend => exact ⟨_, _, rfl, hc, hbody⟩

/-- The text of a piece is a lexeme of its rule. -/
theorem mem_pattern (h : piece.Fits after) : piece.text ∈ piece.rule.pattern :=
  Rule.mem_pattern_iff.2 h.shape

/-- What a rule makes of a piece is the token that the piece stands for. -/
theorem token?_eq (h : piece.Fits after) : piece.rule.token? piece.text = piece.token? := by
  cases h with
  | blanks => rfl
  | token h =>
    cases h with
    | @closed text after hquote =>
      have hunquote : unquote ('"' :: (text ++ ['"'])) = text := by
        simp [unquote]
      exact congrArg (fun t => some (Token.quoted t)) hunquote
    | @unclosed text hquote =>
      have hlast : text.getLast? ≠ some '"' := fun hlast => hquote (List.mem_of_getLast? hlast)
      have hunquote : unquote ('"' :: text) = text := by
        simp [unquote, hlast]
      exact congrArg (fun t => some (Token.quoted t)) hunquote
    | _ => rfl

/-- Of its own rule, no longer lexeme stands where a piece does. -/
theorem longest_of_rule (h : piece.Fits after) {c : Char} {body : Text}
    (hshape : piece.rule.Shape c body) (hpre : c :: body <+: piece.text ++ after) :
    c :: body <+: piece.text := by
  cases h with
  | blanks hne hblank hend =>
    exact prefix_of_run hend (List.forall_mem_cons.2 hshape) hpre
  | token h =>
    cases h with
    | input | append | output =>
      obtain ⟨rfl, rfl⟩ := hshape
      exact List.prefix_rfl
    | @closed text after hquote =>
      obtain ⟨rfl, run, hrun, hbody⟩ := hshape
      rw [Piece.text, List.cons_append, List.append_assoc, List.singleton_append,
        List.cons_prefix_cons] at hpre
      exact List.cons_prefix_cons.2 ⟨rfl, prefix_of_quoted hquote hrun hbody hpre.2⟩
    | unclosed h =>
      rw [List.append_nil] at hpre
      exact hpre
    | word hc hbody hend =>
      refine prefix_of_run hend ?_ hpre
      obtain ⟨hblank, hc⟩ := outside_iff.1 hshape.1
      have hsub : ['<', '>'] ⊆ ['<', '>', '"'] := by decide
      have hfirst := outside_iff.2 ⟨hblank, fun hmem => hc (hsub hmem)⟩
      exact List.forall_mem_cons.2 ⟨hfirst, hshape.2⟩

/-- The two pieces that start with `>`. -/
theorem eq_of_angle (h : piece.Fits after) {body : Text} (htext : piece.text = '>' :: body) :
    piece = .token (.redirect .append) ['>', '>'] ∨
      piece = .token (.redirect .output) ['>'] ∧ after.head? ≠ some '>' := by
  obtain ⟨c, body, hcons, hshape⟩ := h.shape
  obtain ⟨rfl, rfl⟩ := List.cons.inj (hcons.symm.trans htext)
  have hrule : piece.rule = .output ∨ piece.rule = .append :=
    Rule.mem_starting_angle.1 hshape.mem_starting
  cases h with
  | blanks => simp [rule] at hrule
  | token h =>
    cases h with
    | append => exact Or.inl rfl
    | output hafter => exact Or.inr ⟨rfl, hafter⟩
    | _ => simp [rule] at hrule

/-- **A piece is the longest lexeme** that stands in its place, and of one rule only. -/
theorem longest (h : piece.Fits after) {r : Rule} {lexeme : Text} (hl : lexeme ∈ r.pattern)
    (hpre : lexeme <+: piece.text ++ after) :
    lexeme <+: piece.text ∧ (lexeme = piece.text → r = piece.rule) := by
  obtain ⟨c, body, rfl, hshape⟩ := Rule.mem_pattern_iff.1 hl
  obtain ⟨d, rest, htext, hpiece⟩ := h.shape
  obtain rfl : c = d := by
    rw [htext, List.cons_append, List.cons_prefix_cons] at hpre
    exact hpre.1
  by_cases hc : c = '>'
  · -- the operators start alike, and the longer one needs a second sign
    subst hc
    have hrule : r = .output ∨ r = .append := Rule.mem_starting_angle.1 hshape.mem_starting
    rcases h.eq_of_angle htext with rfl | ⟨rfl, hafter⟩
    · rcases hrule with rfl | rfl
      · obtain ⟨-, rfl⟩ := hshape
        refine ⟨⟨['>'], rfl⟩, ?_⟩
        intro heq
        cases heq
      · obtain ⟨-, rfl⟩ := hshape
        exact ⟨List.prefix_rfl, fun _ => rfl⟩
    · rcases hrule with rfl | rfl
      · obtain ⟨-, rfl⟩ := hshape
        exact ⟨List.prefix_rfl, fun _ => rfl⟩
      · obtain ⟨-, rfl⟩ := hshape
        obtain ⟨-, hsecond⟩ := List.cons_prefix_cons.1 hpre
        obtain ⟨rest, hrest⟩ := hsecond
        exact absurd (congrArg List.head? hrest.symm) hafter
  · obtain rfl := Rule.eq_of_starting hshape.mem_starting hpiece.mem_starting hc
    exact ⟨h.longest_of_rule hshape hpre, fun _ => rfl⟩

/-- In front of a blank, no piece ends with one. -/
theorem last_of_blank (h : piece.Fits after) {d : Char} (hd : after.head? = some d)
    (hblank : Text.isBlank d = true) :
    ∀ c, piece.text.getLast? = some c → Text.isBlank c = false := by
  intro c hc
  cases h with
  | blanks hne hrun hend =>
    rw [hend d hd] at hblank
    cases hblank
  | token h =>
    cases h with
    | input | append | output =>
      cases hc
      decide
    | closed h =>
      rw [Piece.text, ← List.cons_append, List.getLast?_concat] at hc
      cases hc
      decide
    | unclosed h => cases hd
    | word hfirst hbody hend =>
      have hall : ∀ e ∈ _ :: _, Text.isBlank e = false :=
        List.forall_mem_cons.2
          ⟨(outside_iff.1 hfirst).1, fun e he => (outside_iff.1 (hbody e he)).1⟩
      exact hall c (List.mem_of_getLast? hc)

/-! ## One division only -/

/-- Each of two pieces in one place is the longest lexeme there. -/
theorem unique (h : piece.Fits after) (ho : other.Fits more)
    (heq : piece.text ++ after = other.text ++ more) : piece = other ∧ after = more := by
  have hle := (ho.longest h.mem_pattern (heq ▸ List.prefix_append _ _)).1
  obtain ⟨hge, hrule⟩ := h.longest ho.mem_pattern (heq ▸ List.prefix_append _ _)
  have htext : other.text = piece.text := hge.eq_of_length_le hle.length_le
  have htoken : piece.token? = other.token? := by
    rw [← h.token?_eq, ← ho.token?_eq, hrule htext, htext]
  rw [htext] at heq
  refine ⟨?_, List.append_cancel_left heq⟩
  cases piece <;> cases other <;> simp_all [Piece.text, Piece.token?]

end Piece.Fits

/-- Only the empty text has no pieces. -/
theorem Divided.nil_iff {t : Text} {pieces : List Piece} (h : Divided t pieces) :
    t = [] ↔ pieces = [] := by
  cases h with
  | nil => exact iff_of_true rfl rfl
  | cons hp h =>
    obtain ⟨c, body, htext, -⟩ := hp.shape
    simp [htext]

/-- **A text divides into pieces in one way.** -/
theorem Divided.unique {t : Text} {pieces others : List Piece} (h : Divided t pieces)
    (ho : Divided t others) : pieces = others := by
  induction h generalizing others with
  | nil => exact (ho.nil_iff.1 rfl).symm
  | @cons piece after pieces hp h ih =>
    generalize ht : piece.text ++ after = t at ho
    cases ho with
    | nil => cases (Divided.cons hp h).nil_iff.1 ht
    | cons hq ho =>
      -- the first pieces are the same, and so is what is behind them
      obtain ⟨rfl, rfl⟩ := hp.unique hq ht
      rw [ih ho]

/-- A text is what its pieces cover. -/
theorem Divided.text_eq {t : Text} {pieces : List Piece} (h : Divided t pieces) :
    t = pieces.flatMap Piece.text := by
  induction h with
  | nil => rfl
  | cons hp h ih => rw [List.flatMap_cons, ← ih]

theorem Divided.split {t : Text} {front rest : List Piece} (h : Divided t (front ++ rest)) :
    ∃ after, t = front.flatMap Piece.text ++ after ∧ Divided after rest := by
  induction front generalizing t with
  | nil => exact ⟨t, rfl, h⟩
  | cons piece front ih =>
    cases h with
    | cons hp h =>
      obtain ⟨after, rfl, hafter⟩ := ih h
      exact ⟨after, by rw [List.flatMap_cons, List.append_assoc], hafter⟩

/-- **A run of blanks is maximal:** no blank stands before it, and none behind it. -/
theorem Divided.blanks_maximal {t : Text} {front back : List Piece} {run : Text}
    (h : Divided t (front ++ .blanks run :: back)) :
    (∀ c, (front.flatMap Piece.text).getLast? = some c → Text.isBlank c = false) ∧
      ∀ c, (back.flatMap Piece.text).head? = some c → Text.isBlank c = false := by
  obtain ⟨after, -, hrun⟩ := h.split
  cases hrun with
  | cons hp hback =>
    cases hp with
    | blanks hne hblank hend =>
      rw [← hback.text_eq]
      refine ⟨?_, hend⟩
      intro c hc
      rcases List.eq_nil_or_concat front with rfl | ⟨front, piece, rfl⟩
      · cases hc
      · -- the piece before the run stands in front of a blank
        rw [List.concat_eq_append, List.append_assoc, List.singleton_append] at h
        obtain ⟨behind, -, hlast⟩ := h.split
        cases hlast with
        | cons hq hlast =>
          cases hlast with
          | cons hr hafter =>
            cases run with
            | nil => exact absurd rfl hne
            | cons d run =>
              obtain ⟨e, body, htext, -⟩ := hq.shape
              have hlast : piece.text.getLast? = some c := by
                simpa [htext, List.getLast?_append] using hc
              exact hq.last_of_blank rfl (hblank d List.mem_cons_self) c hlast

end PipeShell.Token
