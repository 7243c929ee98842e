import Mathlib.Data.List.Induction
import PipeShell.Command.Parser
import PipeShell.Proofs.Encoding

/-!
# Which tokens make a command

A command is read from left to right and stops at the first fault. Here the same is told from the
row of tokens alone, without a reading. Each token is looked at together with the one in front of it
(`Token.neighbours`): a text directly behind a redirect operator is a path, any other text that has
characters is a word. The first word is the name and the others are the arguments
(`Token.words`); of several redirects in one direction the last one counts (`Token.inputs`,
`Token.outputs`).

A token is a misfit if something is wrong with it where it stands, whatever stands further off
(`Token.Misfit`): no path follows an operator, a text is too long for its role, or an argument is
one too many. A draft that has read tokens without a misfit is told by their words and paths
(`Draft.of`), and one step of the reading goes on to the next such draft or meets a misfit
(`addText_of`, `path_of`).

Main statement: tokens make a command exactly if each operator has its path and the words keep the
limits (`Command.Acceptable`), and then the command has these words and paths; otherwise the first
misfit is the error, and that the name is missing is one only if there is no misfit
(`Command.ofTokens_verdict`).
-/

set_option autoImplicit false

namespace PipeShell

/-! ## Words and paths of a row of tokens -/

namespace Token

variable {limits : Limits}

/-- Each token together with the one in front of it. -/
def neighbours (before : Option Token) : List Token → List (Option Token × Token)
  | [] => []
  | token :: rest => (before, token) :: neighbours (some token) rest

/-- A redirect operator takes the token behind it as its path. -/
def takesPath : Option Token → Bool
  | some (.redirect _) => true
  | _ => false

/-- The text of a token that is no path, if it has characters. -/
def word? (pair : Option Token × Token) : Option Text :=
  if takesPath pair.1 then none else pair.2.text?.filter (· ≠ [])

/-- The path of a redirect of the input. -/
def input? (pair : Option Token × Token) : Option Text :=
  if pair.1 = some (.redirect .input) then pair.2.text? else none

/-- The path of a redirect of the output, and what it does to the file. -/
def output? (pair : Option Token × Token) : Option OutputFile :=
  match pair.1 with
  | some (.redirect .output) => pair.2.text?.map fun path => ⟨path, .truncate⟩
  | some (.redirect .append) => pair.2.text?.map fun path => ⟨path, .append⟩
  | _ => none

/-- The texts that are no paths, empty ones left out. -/
def words (tokens : List Token) : List Text := (neighbours none tokens).filterMap word?

/-- The paths that the input is redirected to, in order. -/
def inputs (tokens : List Token) : List Text := (neighbours none tokens).filterMap input?

/-- The files that the output is redirected to, in order. -/
def outputs (tokens : List Token) : List OutputFile := (neighbours none tokens).filterMap output?

theorem neighbours_concat (before : Option Token) (front : List Token) (token : Token) :
    neighbours before (front ++ [token]) =
      neighbours before front ++ [(front.getLast?.or before, token)] := by
  induction front generalizing before with
  | nil => rfl
  | cons first front ih =>
    rw [List.cons_append, neighbours, ih, neighbours, List.getLast?_cons]
    cases front.getLast? <;> rfl

/-- What is read off the pairs of a row, one more token added. -/
theorem filterMap_neighbours_concat {α : Type} (f : Option Token × Token → Option α)
    (front : List Token) (token : Token) :
    (neighbours none (front ++ [token])).filterMap f =
      (neighbours none front).filterMap f ++ (f (front.getLast?, token)).toList := by
  rw [neighbours_concat, List.filterMap_append, Option.or_none]
  cases hf : f (front.getLast?, token) <;> simp [hf]

theorem words_concat (front : List Token) (token : Token) :
    words (front ++ [token]) = words front ++ (word? (front.getLast?, token)).toList :=
  filterMap_neighbours_concat word? front token

/-- The words of a row begin with those of its front. -/
theorem words_prefix (front rest : List Token) : words front <+: words (front ++ rest) := by
  induction rest generalizing front with
  | nil => exact ⟨[], by rw [List.append_nil, List.append_nil]⟩
  | cons token rest ih =>
    have hrest := ih (front ++ [token])
    rw [List.append_assoc, List.singleton_append] at hrest
    exact (words_concat front token ▸ List.prefix_append _ _).trans hrest

/-- A text that is no path and has characters is the word behind those in front of it. -/
theorem words_of_text {front : List Token} {token : Token} {t : Text}
    (hfree : takesPath front.getLast? = false) (ht : token.text? = some t) (hne : t ≠ [])
    (rest : List Token) : ∃ more, words (front ++ token :: rest) = words front ++ t :: more := by
  obtain ⟨more, hmore⟩ := words_prefix (front ++ [token]) rest
  refine ⟨more, ?_⟩
  have hword : word? (front.getLast?, token) = some t := by
    simp [word?, hfree, ht, Option.filter, hne]
  rw [words_concat, hword, List.append_assoc, List.append_assoc] at hmore
  exact hmore.symm

/-- An entry of a row that may have grown by one is the new one, or was there before. -/
theorem eq_append_cons_of_grown {α : Type} {row before behind : List α} {grown : Option α}
    {entry : α} (h : row ++ grown.toList = before ++ entry :: behind) :
    (row = before ∧ grown = some entry ∧ behind = []) ∨
      ∃ more, row = before ++ entry :: more ∧ behind = more ++ grown.toList := by
  rcases List.eq_nil_or_concat behind with rfl | ⟨init, last, rfl⟩
  · cases grown with
    | none => exact .inr ⟨[], by simpa using h, rfl⟩
    | some new =>
      obtain ⟨hrow, hnew⟩ := List.append_inj' h rfl
      exact .inl ⟨hrow, congrArg some (List.singleton_inj.1 hnew), rfl⟩
  · cases grown with
    | none => exact .inr ⟨init.concat last, by simpa using h, (List.append_nil _).symm⟩
    | some new =>
      rw [List.concat_eq_append, ← List.cons_append, ← List.append_assoc] at h
      obtain ⟨hrow, hnew⟩ := List.append_inj' h rfl
      exact .inr ⟨init, hrow, by rw [List.concat_eq_append, ← hnew]⟩

/-- Each word stands somewhere in the row, behind the tokens with the words in front of it. -/
theorem exists_of_words {tokens : List Token} {ws ws' : List Text} {w : Text}
    (h : words tokens = ws ++ w :: ws') :
    ∃ front token rest, tokens = front ++ token :: rest ∧ takesPath front.getLast? = false ∧
      token.text? = some w ∧ w ≠ [] ∧ words front = ws := by
  induction tokens using List.reverseRecOn generalizing ws' with
  | nil => exact absurd h.symm (List.append_ne_nil_of_right_ne_nil _ (List.cons_ne_nil _ _))
  | append_singleton front token ih =>
    rw [words_concat] at h
    rcases eq_append_cons_of_grown h with ⟨hfront, hw, -⟩ | ⟨more, hmore, -⟩
    · -- the word is the text of the last token
      unfold word? at hw
      split at hw
      · cases hw
      · rename_i hfree
        obtain ⟨ht, hne⟩ := Option.filter_eq_some_iff.1 hw
        exact ⟨front, token, [], rfl, Bool.not_eq_true _ ▸ hfree, ht, by simpa using hne, hfront⟩
    · obtain ⟨f, t, r, rfl, hrest⟩ := ih hmore
      exact ⟨f, t, r ++ [token], by simp, hrest⟩

/-! ## Misfits -/

/-- Something is wrong with a token that stands between others, and this is the error. -/
inductive Misfit (limits : Limits) (front rest : List Token) : Token → ParseError → Prop
  /-- No text with characters follows an operator. -/
  | noPath {op : RedirectOp} (h : ∀ t, rest.head?.bind Token.text? = some t → t = []) :
    Misfit limits front rest (.redirect op) (.missingPath op)
  | longPath {op : RedirectOp} {token : Token} {t : Text}
    (hop : front.getLast? = some (.redirect op)) (ht : token.text? = some t)
    (hlong : limits.argLength < (Utf8.encode t).length) : Misfit limits front rest token .tooBig
  | longName {token : Token} {t : Text} (hfree : takesPath front.getLast? = false)
    (ht : token.text? = some t) (hfirst : words front = [])
    (hlong : limits.programLength < (Utf8.encode t).length) :
    Misfit limits front rest token .tooBig
  | longArg {token : Token} {t : Text} (hfree : takesPath front.getLast? = false)
    (ht : token.text? = some t) (hnamed : words front ≠ [])
    (hlong : limits.argLength < (Utf8.encode t).length) : Misfit limits front rest token .tooBig
  /-- The argument is one too many. -/
  | oneMore {token : Token} {t : Text} (hfree : takesPath front.getLast? = false)
    (ht : token.text? = some t) (hne : t ≠ []) (hmany : limits.args < (words front).length) :
    Misfit limits front rest token .tooBig

/-- No token of `front` is a misfit, when `rest` follows. -/
def Fits (limits : Limits) (front rest : List Token) : Prop :=
  ∀ f token r e, front = f ++ token :: r → ¬ Misfit limits f (r ++ rest) token e

section Misfit

variable {front rest : List Token} {token : Token} {t : Text} {op : RedirectOp} {e e' : ParseError}

/-- An operator is a misfit exactly if it has no path. -/
theorem misfit_redirect_iff : Misfit limits front rest (.redirect op) e ↔
    e = .missingPath op ∧ ∀ t, rest.head?.bind Token.text? = some t → t = [] := by
  constructor
  · intro h
    cases h with
    | noPath h => exact ⟨rfl, h⟩
    | longPath _ ht => cases ht
    | longName _ ht => cases ht
    | longArg _ ht => cases ht
    | oneMore _ ht => cases ht
  · rintro ⟨rfl, h⟩
    exact .noPath h

/-- A path is a misfit exactly if it is too long. -/
theorem misfit_path_iff (hop : front.getLast? = some (.redirect op)) (ht : token.text? = some t) :
    Misfit limits front rest token e ↔
      e = .tooBig ∧ limits.argLength < (Utf8.encode t).length := by
  have htakes : takesPath front.getLast? = true := by rw [hop]; rfl
  constructor
  · intro h
    cases h with
    | noPath => cases ht
    | longPath _ ht' hlong => exact ⟨rfl, Option.some.inj (ht ▸ ht') ▸ hlong⟩
    | longName hfree => exact absurd (htakes ▸ hfree) (by decide)
    | longArg hfree => exact absurd (htakes ▸ hfree) (by decide)
    | oneMore hfree => exact absurd (htakes ▸ hfree) (by decide)
  · rintro ⟨rfl, hlong⟩
    exact .longPath hop ht hlong

/-- A text that is no path is a misfit exactly if it is too long a name, too long an argument or an
argument too many. -/
theorem misfit_free_iff (hfree : takesPath front.getLast? = false) (ht : token.text? = some t) :
    Misfit limits front rest token e ↔ e = .tooBig ∧
      (words front = [] ∧ limits.programLength < (Utf8.encode t).length ∨
        words front ≠ [] ∧ limits.argLength < (Utf8.encode t).length ∨
        t ≠ [] ∧ limits.args < (words front).length) := by
  constructor
  · intro h
    cases h with
    | noPath => cases ht
    | longPath hop =>
      rw [hop] at hfree
      cases hfree
    | longName _ ht' hfirst hlong =>
      exact ⟨rfl, .inl ⟨hfirst, Option.some.inj (ht ▸ ht') ▸ hlong⟩⟩
    | longArg _ ht' hnamed hlong =>
      exact ⟨rfl, .inr (.inl ⟨hnamed, Option.some.inj (ht ▸ ht') ▸ hlong⟩)⟩
    | oneMore _ ht' hne hmany =>
      exact ⟨rfl, .inr (.inr ⟨Option.some.inj (ht ▸ ht') ▸ hne, hmany⟩)⟩
  · rintro ⟨rfl, ⟨hfirst, hlong⟩ | ⟨hnamed, hlong⟩ | ⟨hne, hmany⟩⟩
    · exact .longName hfree ht hfirst hlong
    · exact .longArg hfree ht hnamed hlong
    · exact .oneMore hfree ht hne hmany

/-- The same token in the same place is a misfit in one way only. -/
theorem Misfit.unique (h : Misfit limits front rest token e)
    (h' : Misfit limits front rest token e') : e = e' := by
  cases token with
  | redirect op => rw [(misfit_redirect_iff.1 h).1, (misfit_redirect_iff.1 h').1]
  | quoted t => cases h <;> cases h' <;> rfl
  | word t => cases h <;> cases h' <;> rfl

end Misfit

theorem fits_nil (rest : List Token) : Fits limits [] rest :=
  fun _ _ _ _ h => absurd h.symm (List.append_ne_nil_of_right_ne_nil _ (List.cons_ne_nil _ _))

/-- One more token that is no misfit. -/
theorem Fits.concat {front rest : List Token} {token : Token}
    (h : Fits limits front (token :: rest)) (htoken : ∀ e, ¬ Misfit limits front rest token e) :
    Fits limits (front ++ [token]) rest := by
  intro f t r e hsplit
  have hgrown : front ++ (some token).toList = f ++ t :: r := hsplit
  rcases eq_append_cons_of_grown hgrown with ⟨rfl, ht, rfl⟩ | ⟨more, rfl, rfl⟩
  · cases ht
    exact htoken e
  · rw [Option.toList_some, List.append_assoc, List.singleton_append]
    exact h f t more e rfl

end Token

namespace Command

open Token (Misfit Fits takesPath neighbours)

variable {limits : Limits}

/-! ## Drafts told from the tokens read -/

/-- The draft of a command from which tokens have been read. -/
def Draft.of (front : List Token) : Draft where
  name := (Token.words front).head?
  args := (Token.words front).tail.reverse
  input := (Token.inputs front).getLast?
  output := (Token.outputs front).getLast?

/-- A text that is no path leaves the paths as they are. -/
theorem paths_of_free {front : List Token} (hfree : takesPath front.getLast? = false)
    (token : Token) :
    Token.inputs (front ++ [token]) = Token.inputs front ∧
      Token.outputs (front ++ [token]) = Token.outputs front := by
  have hnone : Token.input? (front.getLast?, token) = none ∧
      Token.output? (front.getLast?, token) = none := by
    cases hlast : front.getLast? with
    | none => exact ⟨rfl, rfl⟩
    | some before =>
      rw [hlast] at hfree
      cases before with
      | redirect op => cases hfree
      | quoted t => exact ⟨rfl, rfl⟩
      | word t => exact ⟨rfl, rfl⟩
  constructor
  · rw [Token.inputs, Token.filterMap_neighbours_concat, hnone.1]
    exact List.append_nil _
  · rw [Token.outputs, Token.filterMap_neighbours_concat, hnone.2]
    exact List.append_nil _

/-- **A text that is no path** is a misfit and too big, or the draft goes on with it. -/
theorem addText_of {front : List Token} {token : Token} {t : Text}
    (hfree : takesPath front.getLast? = false) (ht : token.text? = some t) (rest : List Token) :
    Misfit limits front rest token .tooBig ∧
        (Draft.of front).addText limits t = .error .tooBig ∨
      (∀ e, ¬ Misfit limits front rest token e) ∧
        (Draft.of front).addText limits t = .ok (Draft.of (front ++ [token])) := by
  obtain ⟨hin, hout⟩ := paths_of_free hfree token
  have hword : (Token.word? (front.getLast?, token)).toList = if t = [] then [] else [t] := by
    by_cases hne : t = [] <;> simp [Token.word?, hfree, ht, Option.filter, hne]
  have hwords := Token.words_concat front token
  rw [hword] at hwords
  simp only [Token.misfit_free_iff hfree ht, Utf8.length_encode]
  unfold Draft.addText
  cases t with
  | nil =>
    -- an empty text is passed over
    rw [if_pos rfl, List.append_nil] at hwords
    refine .inr ⟨?_, ?_⟩
    · rintro e ⟨-, ⟨-, hlong⟩ | ⟨-, hlong⟩ | ⟨hne, -⟩⟩
      · exact absurd hlong (Nat.not_lt_zero _)
      · exact absurd hlong (Nat.not_lt_zero _)
      · exact hne rfl
    · rw [Draft.of, Draft.of, hwords, hin, hout]
      rfl
  | cons c t =>
    rw [if_neg (List.cons_ne_nil _ _)] at hwords
    rw [if_neg (by simp)]
    cases hfront : Token.words front with
    | nil =>
      -- the first word is the name
      simp only [Draft.of, hfront, List.head?_nil, List.length_nil]
      by_cases hlong : limits.programLength < Utf8.length (c :: t)
      · exact .inl ⟨⟨trivial, .inl ⟨trivial, hlong⟩⟩, if_pos hlong⟩
      · refine .inr ⟨?_, ?_⟩
        · rintro e ⟨-, ⟨-, h⟩ | ⟨h, -⟩ | ⟨-, h⟩⟩
          · exact hlong h
          · exact h rfl
          · exact absurd h (Nat.not_lt_zero _)
        · rw [if_neg hlong, hwords, hfront, hin, hout]
          rfl
    | cons name args =>
      simp only [Draft.of, hfront, List.head?_cons, List.tail_cons, List.length_reverse,
        List.length_cons]
      by_cases hbig : limits.argLength < Utf8.length (c :: t) ∨ limits.args ≤ args.length
      · refine .inl ⟨⟨trivial, .inr ?_⟩, if_pos hbig⟩
        rcases hbig with hlong | hmany
        · exact .inl ⟨List.cons_ne_nil _ _, hlong⟩
        · exact .inr ⟨List.cons_ne_nil _ _, by omega⟩
      · refine .inr ⟨?_, ?_⟩
        · rintro e ⟨-, ⟨h, -⟩ | ⟨-, h⟩ | ⟨-, h⟩⟩
          · exact absurd h (List.cons_ne_nil _ _)
          · exact hbig (.inl h)
          · exact hbig (.inr (by omega))
        · rw [if_neg hbig, hwords, hfront, hin, hout]
          simp

/-- An operator leaves words and paths as they are, and so does the token behind it but for the path
that it is. -/
theorem of_redirect {front : List Token} {op : RedirectOp} {token : Token} {path : Text}
    (hfree : takesPath front.getLast? = false) (ht : token.text? = some path) :
    Draft.of (front ++ [.redirect op, token]) = (Draft.of front).redirect op path := by
  have hsplit : front ++ [.redirect op, token] = (front ++ [.redirect op]) ++ [token] := by simp
  have hlast : (front ++ [Token.redirect op]).getLast? = some (.redirect op) := by simp
  obtain ⟨hin, hout⟩ := paths_of_free hfree (.redirect op)
  have hop : Token.word? (front.getLast?, .redirect op) = none := by
    simp [Token.word?, hfree, Token.text?]
  have hwords : Token.words (front ++ [.redirect op, token]) = Token.words front := by
    rw [hsplit, Token.words_concat, hlast, Token.words_concat, hop]
    simp [Token.word?, takesPath]
  have hinputs : Token.inputs (front ++ [.redirect op, token]) =
      Token.inputs front ++ (Token.input? (some (.redirect op), token)).toList := by
    rw [hsplit, ← hin, ← hlast]
    exact Token.filterMap_neighbours_concat _ _ _
  have houtputs : Token.outputs (front ++ [.redirect op, token]) =
      Token.outputs front ++ (Token.output? (some (.redirect op), token)).toList := by
    rw [hsplit, ← hout, ← hlast]
    exact Token.filterMap_neighbours_concat _ _ _
  rw [Draft.of, hwords, hinputs, houtputs]
  cases op <;> simp [Draft.of, Draft.redirect, Token.input?, Token.output?, ht]

/-- **An operator with the token behind it**: one of the two is a misfit and tells the error, or the
draft goes on with the path. -/
theorem path_of {front : List Token} {op : RedirectOp} {token : Token}
    (hfree : takesPath front.getLast? = false) (rest : List Token) :
    Misfit limits front (token :: rest) (.redirect op) (.missingPath op) ∧
        path limits op token = .error (.missingPath op) ∨
      (∀ e, ¬ Misfit limits front (token :: rest) (.redirect op) e) ∧
        (Misfit limits (front ++ [.redirect op]) rest token .tooBig ∧
            path limits op token = .error .tooBig ∨
          (∀ e, ¬ Misfit limits (front ++ [.redirect op]) rest token e) ∧
            ∃ t, token.text? = some t ∧ path limits op token = .ok t ∧
              (Draft.of front).redirect op t = Draft.of (front ++ [.redirect op, token])) := by
  simp only [Token.misfit_redirect_iff, List.head?_cons, Option.bind_some]
  unfold path
  cases ht : token.text? with
  | none => exact .inl ⟨⟨trivial, fun t h => nomatch h⟩, rfl⟩
  | some t =>
    have hlast : (front ++ [Token.redirect op]).getLast? = some (.redirect op) := by simp
    simp only [Token.misfit_path_iff hlast ht, Utf8.length_encode]
    cases t with
    | nil => exact .inl ⟨⟨trivial, fun t h => (Option.some.inj h).symm⟩, rfl⟩
    | cons c t =>
      refine .inr ⟨?_, ?_⟩
      · rintro e ⟨-, h⟩
        exact absurd (h _ rfl) (List.cons_ne_nil _ _)
      · by_cases hlong : limits.argLength < Utf8.length (c :: t)
        · exact .inl ⟨⟨trivial, hlong⟩, if_pos hlong⟩
        · exact .inr ⟨fun e h => hlong h.2, c :: t, rfl, if_neg hlong, (of_redirect hfree ht).symm⟩

/-! ## The verdict on a row of tokens -/

/-- What comes of a row of tokens. -/
inductive Verdict (limits : Limits) (tokens : List Token) : Except ParseError Command → Prop
  | accepted {command : Command} (hfits : Fits limits tokens [])
    (hwords : command.words = Token.words tokens)
    (hinput : command.input = (Token.inputs tokens).getLast?)
    (houtput : command.output = (Token.outputs tokens).getLast?) :
    Verdict limits tokens (.ok command)
  /-- The first misfit is the error. -/
  | misfit {front rest : List Token} {token : Token} {e : ParseError}
    (htokens : tokens = front ++ token :: rest) (hmisfit : Misfit limits front rest token e)
    (hfirst : Fits limits front (token :: rest)) : Verdict limits tokens (.error e)
  | unnamed (hfits : Fits limits tokens []) (hwords : Token.words tokens = []) :
    Verdict limits tokens (.error .missingName)

theorem finish_of {front : List Token} (hfits : Fits limits front []) :
    Verdict limits front (Draft.of front).finish := by
  unfold Draft.finish
  cases hwords : Token.words front with
  | nil =>
    simp only [Draft.of, hwords, List.head?_nil]
    exact .unnamed hfits hwords
  | cons name args =>
    simp only [Draft.of, hwords, List.head?_cons, List.tail_cons, List.reverse_reverse]
    exact .accepted hfits hwords.symm rfl rfl

/-- Behind a text stands no path. -/
theorem takesPath_concat {token : Token} {t : Text} (ht : token.text? = some t)
    (front : List Token) : takesPath (front ++ [token]).getLast? = false := by
  rw [List.getLast?_concat]
  cases token with
  | redirect op => cases ht
  | quoted t => rfl
  | word t => rfl

/-- A quoted text and a word are read alike. -/
theorem verdict_of_text {front rest : List Token} {token : Token} {t : Text}
    (hfree : takesPath front.getLast? = false) (hfits : Fits limits front (token :: rest))
    (ht : token.text? = some t) {next : Draft → Except ParseError Command}
    (hnext : takesPath (front ++ [token]).getLast? = false → Fits limits (front ++ [token]) rest →
      Verdict limits ((front ++ [token]) ++ rest) (next (Draft.of (front ++ [token])))) :
    Verdict limits (front ++ token :: rest) ((Draft.of front).addText limits t >>= next) := by
  rcases addText_of hfree ht rest with ⟨hmisfit, hadd⟩ | ⟨hnone, hadd⟩
  · rw [hadd]
    exact .misfit rfl hmisfit hfits
  · rw [hadd]
    have hrest := hnext (takesPath_concat ht front) (hfits.concat hnone)
    rw [List.append_assoc, List.singleton_append] at hrest
    exact hrest

/-- **Reading goes on from tokens without a misfit** to the verdict on the whole row. The induction
follows the reader, and the draft stays told from the tokens in front. -/
theorem ofTokensFrom_of (front tokens : List Token) (hfree : takesPath front.getLast? = false)
    (hfits : Fits limits front tokens) {draft : Draft} (hdraft : draft = Draft.of front) :
    Verdict limits (front ++ tokens) (ofTokensFrom limits draft tokens) := by
  fun_induction ofTokensFrom limits draft tokens generalizing front with
  | case1 draft =>
    rw [hdraft, List.append_nil]
    exact finish_of hfits
  | case2 draft op => exact .misfit rfl (.noPath fun t h => nomatch h) hfits
  | case3 draft op token rest ih =>
    subst hdraft
    rcases path_of hfree rest with
      ⟨hmisfit, hpath⟩ | ⟨hnone, ⟨hmisfit, hpath⟩ | ⟨hnone', t, ht, hpath, hof⟩⟩
    · rw [hpath]
      exact .misfit rfl hmisfit hfits
    · rw [hpath]
      exact .misfit (List.append_cons _ _ _) hmisfit (hfits.concat hnone)
    · have hfits' := (hfits.concat hnone).concat hnone'
      have hfree' := takesPath_concat ht (front ++ [.redirect op])
      rw [List.append_assoc, List.singleton_append] at hfits' hfree'
      have hrest := ih t _ hfree' hfits' hof
      rw [List.append_assoc] at hrest
      rw [hpath]
      exact hrest
  | case4 draft t rest ih =>
    rw [hdraft]
    exact verdict_of_text hfree hfits rfl fun hfree' hfits' => ih _ _ hfree' hfits' rfl
  | case5 draft t rest ih =>
    rw [hdraft]
    exact verdict_of_text hfree hfits rfl fun hfree' hfits' => ih _ _ hfree' hfits' rfl

/-! ## Acceptance and the first misfit -/

/-- Each operator has a path right behind it, and there are words that keep the limits. -/
structure Acceptable (limits : Limits) (tokens : List Token) : Prop where
  paths : ∀ front op rest, tokens = front ++ .redirect op :: rest →
    ∃ token t, rest.head? = some token ∧ token.text? = some t ∧ t ≠ [] ∧
      (Utf8.encode t).length ≤ limits.argLength
  words : ∃ name args, Token.words tokens = name :: args ∧
    (Utf8.encode name).length ≤ limits.programLength ∧ args.length ≤ limits.args ∧
      ∀ a ∈ args, (Utf8.encode a).length ≤ limits.argLength

/-- There is a misfit with this error, and none in front of it. -/
def FirstMisfit (limits : Limits) (tokens : List Token) (e : ParseError) : Prop :=
  ∃ front token rest, tokens = front ++ token :: rest ∧ Misfit limits front rest token e ∧
    Fits limits front (token :: rest)

/-- The words of acceptable tokens keep the limits of the roles they have, wherever they stand. -/
theorem Acceptable.fits {tokens : List Token} (h : Acceptable limits tokens) :
    Fits limits tokens [] := by
  intro front token rest e htokens hmisfit
  rw [List.append_nil] at hmisfit
  obtain ⟨name, args, hwords, hname, hcount, hargs⟩ := h.words
  cases hmisfit with
  | @noPath op hnone =>
    obtain ⟨token, t, hhead, ht, hne, -⟩ := h.paths front op rest htokens
    exact hne (hnone t (by rw [hhead]; exact ht))
  | @longPath op _ t hop ht hlong =>
    obtain ⟨init, rfl⟩ := List.getLast?_eq_some_iff.1 hop
    rw [List.append_assoc, List.singleton_append] at htokens
    obtain ⟨token', t', hhead, ht', -, hle⟩ := h.paths init op (token :: rest) htokens
    cases hhead
    rw [ht] at ht'
    cases ht'
    omega
  | @longName _ t hfree ht hfirst hlong =>
    have hne : t ≠ [] := fun he => absurd hlong (by simp [he, Utf8.encode])
    obtain ⟨more, hmore⟩ := Token.words_of_text hfree ht hne rest
    rw [← htokens, hwords, hfirst] at hmore
    cases hmore
    omega
  | @longArg _ t hfree ht hnamed hlong =>
    have hne : t ≠ [] := fun he => absurd hlong (by simp [he, Utf8.encode])
    obtain ⟨more, hmore⟩ := Token.words_of_text hfree ht hne rest
    obtain ⟨first, others, hfront⟩ := List.exists_cons_of_ne_nil hnamed
    rw [← htokens, hwords, hfront, List.cons_append] at hmore
    cases hmore
    have hle := hargs t (List.mem_append_right _ List.mem_cons_self)
    omega
  | @oneMore _ t hfree ht hne hmany =>
    obtain ⟨more, hmore⟩ := Token.words_of_text hfree ht hne rest
    rw [← htokens, hwords] at hmore
    have hlength := congrArg List.length hmore
    simp only [List.length_cons, List.length_append] at hlength
    omega

/-- Without a misfit each operator has its path. -/
theorem exists_path_of_fits {front rest : List Token} {op : RedirectOp}
    (h : Fits limits (front ++ .redirect op :: rest) []) :
    ∃ token t, rest.head? = some token ∧ token.text? = some t ∧ t ≠ [] ∧
      (Utf8.encode t).length ≤ limits.argLength := by
  have hop := h front (.redirect op) rest (.missingPath op) rfl
  rw [List.append_nil, Token.misfit_redirect_iff] at hop
  have hpath : ∃ t, rest.head?.bind Token.text? = some t ∧ t ≠ [] := by
    by_contra hnone
    exact hop ⟨rfl, fun t ht => by_contra fun hne => hnone ⟨t, ht, hne⟩⟩
  obtain ⟨t, ht, hne⟩ := hpath
  obtain ⟨token, hhead, ht⟩ := Option.bind_eq_some_iff.1 ht
  obtain ⟨more, rfl⟩ := List.head?_eq_some_iff.1 hhead
  have hlast : (front ++ [Token.redirect op]).getLast? = some (.redirect op) :=
    List.getLast?_concat
  have hlong := h (front ++ [.redirect op]) token more .tooBig (List.append_cons _ _ _)
  rw [Token.misfit_path_iff hlast ht] at hlong
  exact ⟨token, t, hhead, ht, hne, Nat.not_lt.1 fun hlt => hlong ⟨rfl, hlt⟩⟩

/-- Without a misfit a word keeps the limit of its role, and is not one too many. -/
theorem word_of_fits {tokens : List Token} (h : Fits limits tokens []) {ws ws' : List Text}
    {w : Text} (hwords : Token.words tokens = ws ++ w :: ws') :
    (ws = [] → (Utf8.encode w).length ≤ limits.programLength) ∧
      (ws ≠ [] → (Utf8.encode w).length ≤ limits.argLength) ∧ ws.length ≤ limits.args := by
  obtain ⟨front, token, rest, rfl, hfree, ht, hne, rfl⟩ := Token.exists_of_words hwords
  have hnone := h front token rest .tooBig rfl
  rw [Token.misfit_free_iff hfree ht] at hnone
  refine ⟨fun hfirst => Nat.not_lt.1 fun hlt => ?_, fun hnamed => Nat.not_lt.1 fun hlt => ?_,
    Nat.not_lt.1 fun hlt => ?_⟩
  · exact hnone ⟨rfl, .inl ⟨hfirst, hlt⟩⟩
  · exact hnone ⟨rfl, .inr (.inl ⟨hnamed, hlt⟩)⟩
  · exact hnone ⟨rfl, .inr (.inr ⟨hne, hlt⟩)⟩

/-- **Tokens are acceptable** exactly if there are words and no misfit. -/
theorem acceptable_iff {tokens : List Token} :
    Acceptable limits tokens ↔ Fits limits tokens [] ∧ Token.words tokens ≠ [] := by
  constructor
  · intro h
    obtain ⟨name, args, hwords, -⟩ := h.words
    exact ⟨h.fits, hwords ▸ List.cons_ne_nil _ _⟩
  · rintro ⟨hfits, hne⟩
    obtain ⟨name, args, hwords⟩ := List.exists_cons_of_ne_nil hne
    refine ⟨?_, name, args, hwords, ?_, ?_, ?_⟩
    · rintro front op rest rfl
      exact exists_path_of_fits hfits
    · have hfirst : Token.words tokens = [] ++ name :: args := hwords
      exact (word_of_fits hfits hfirst).1 rfl
    · -- the last argument is not one too many
      rcases List.eq_nil_or_concat args with rfl | ⟨init, last, rfl⟩
      · exact Nat.zero_le _
      · rw [List.concat_eq_append, ← List.cons_append] at hwords
        have hcount := (word_of_fits hfits hwords).2.2
        rw [List.length_cons] at hcount
        rw [List.length_concat]
        exact hcount
    · intro a ha
      obtain ⟨before, behind, rfl⟩ := List.append_of_mem ha
      rw [← List.cons_append] at hwords
      exact (word_of_fits hfits hwords).2.1 (List.cons_ne_nil _ _)

/-- There is one first misfit. -/
theorem FirstMisfit.unique {tokens : List Token} {e e' : ParseError}
    (h : FirstMisfit limits tokens e) (h' : FirstMisfit limits tokens e') : e = e' := by
  obtain ⟨front, token, rest, rfl, hmisfit, hfits⟩ := h
  obtain ⟨front', token', rest', hsplit, hmisfit', hfits'⟩ := h'
  rcases List.append_eq_append_iff.1 hsplit with ⟨between, rfl, hrest⟩ | ⟨between, rfl, hrest⟩
  · cases between with
    | nil =>
      cases hrest
      rw [List.append_nil] at hmisfit'
      exact hmisfit.unique hmisfit'
    | cons t between =>
      cases hrest
      exact absurd hmisfit (hfits' front token between e rfl)
  · cases between with
    | nil =>
      cases hrest
      rw [List.append_nil] at hmisfit
      exact hmisfit.unique hmisfit'
    | cons t between =>
      cases hrest
      exact absurd hmisfit' (hfits front' token' between e' rfl)

theorem FirstMisfit.not_fits {tokens : List Token} {e : ParseError}
    (h : FirstMisfit limits tokens e) : ¬ Fits limits tokens [] := by
  obtain ⟨front, token, rest, rfl, hmisfit, -⟩ := h
  intro hfits
  refine hfits front token rest e rfl ?_
  rw [List.append_nil]
  exact hmisfit

/-- A command is told by its words and its redirects. -/
theorem eq_of_words {command other : Command} (hwords : command.words = other.words)
    (hinput : command.input = other.input) (houtput : command.output = other.output) :
    command = other := by
  obtain ⟨name, args, input, output⟩ := command
  obtain ⟨hname, hargs⟩ := List.cons.inj hwords
  cases hname
  cases hargs
  cases hinput
  cases houtput
  rfl

/-- **The verdict on a row of tokens.** They make a command exactly if each operator has its path
and the words keep the limits; the command then has the first word as its name, the others as its
arguments, and the last path of each direction. Otherwise the first misfit from the left is the
error, and only if there is no misfit is it that the name is missing. -/
theorem ofTokens_verdict (limits : Limits) (tokens : List Token) :
    ((∃ command, ofTokens limits tokens = .ok command) ↔ Acceptable limits tokens) ∧
      (∀ command, ofTokens limits tokens = .ok command ↔
        Acceptable limits tokens ∧ command.words = Token.words tokens ∧
          command.input = (Token.inputs tokens).getLast? ∧
          command.output = (Token.outputs tokens).getLast?) ∧
      ∀ e, ofTokens limits tokens = .error e ↔
        FirstMisfit limits tokens e ∨
          Fits limits tokens [] ∧ Token.words tokens = [] ∧ e = .missingName := by
  have hverdict : Verdict limits tokens (ofTokens limits tokens) :=
    ofTokensFrom_of [] tokens rfl (Token.fits_nil tokens) rfl
  rw [acceptable_iff]
  generalize ofTokens limits tokens = result at hverdict ⊢
  cases hverdict with
  | @accepted command hfits hwords hinput houtput =>
    have hne : Token.words tokens ≠ [] := hwords ▸ List.cons_ne_nil _ _
    refine ⟨⟨fun _ => ⟨hfits, hne⟩, fun _ => ⟨command, rfl⟩⟩, fun other => ⟨fun h => ?_, ?_⟩,
      fun e => ⟨fun h => ?_, ?_⟩⟩
    · cases h
      exact ⟨⟨hfits, hne⟩, hwords, hinput, houtput⟩
    · rintro ⟨-, hwords', hinput', houtput'⟩
      rw [eq_of_words (hwords.trans hwords'.symm) (hinput.trans hinput'.symm)
        (houtput.trans houtput'.symm)]
    · cases h
    · rintro (hfirst | ⟨-, hnone, -⟩)
      · exact absurd hfits hfirst.not_fits
      · exact absurd hnone hne
  | @misfit front rest token e htokens hmisfit hfirst =>
    have hfirst : FirstMisfit limits tokens e := ⟨front, token, rest, htokens, hmisfit, hfirst⟩
    refine ⟨⟨?_, fun h => absurd h.1 hfirst.not_fits⟩,
      fun _ => ⟨fun h => ?_, fun h => absurd h.1.1 hfirst.not_fits⟩, fun e' => ⟨fun h => ?_, ?_⟩⟩
    · rintro ⟨command, h⟩
      cases h
    · cases h
    · cases h
      exact .inl hfirst
    · rintro (hfirst' | ⟨hfits, -⟩)
      · rw [hfirst.unique hfirst']
      · exact absurd hfits hfirst.not_fits
  | unnamed hfits hwords =>
    refine ⟨⟨?_, fun h => absurd hwords h.2⟩, fun _ => ⟨fun h => ?_, fun h => absurd hwords h.1.2⟩,
      fun e => ⟨fun h => ?_, ?_⟩⟩
    · rintro ⟨command, h⟩
      cases h
    · cases h
    · cases h
      exact .inr ⟨hfits, hwords, rfl⟩
    · rintro (hfirst | ⟨-, -, rfl⟩)
      · exact absurd hfits hfirst.not_fits
      · rfl

/-- The first misfit counts: a path is missing, and the word that is too long stands behind it. -/
example : ofTokens { argLength := 1 }
    [.word ['a'], .redirect .output, .quoted [], .word ['b', 'c']] =
      .error (.missingPath .output) := rfl

end Command

end PipeShell
