import PipeShell.Proofs.WellFormed

/-!
# Reading undoes writing

A pipeline is written with one spelling for each text: in quotes if it has no quote itself, bare
otherwise (`Token.ofText`). The tokens of a command stand in the order of its name, its arguments,
its input and its output, with one blank between them (`Command.segment`), and the commands of a
pipeline with a separator and blanks between them (`Pipeline.line`).

Reading is undone piece by piece. Canonical tokens with blanks between them are scanned as they are
(`Token.scan_intercalate`); reading the tokens of a well-formed command takes up one text after the
other (`Command.ofTokens_tokens`); the segments of the line are the commands as they were written
(`Pipeline.segments_line`).

Main statement: every well-formed pipeline is read back from its line (`Pipeline.parse_line`).
-/

set_option autoImplicit false

namespace PipeShell

/-! ## How pipelines are written -/

namespace Token

/-- How a token is written. -/
def written : Token → Text
  | redirect op => op.symbol.toList
  | quoted t => '"' :: (t ++ ['"'])
  | word t => t

/-- The token that a text is written as. -/
def ofText (t : Text) : Token := if '"' ∈ t then word t else quoted t

/-- The tokens of a redirect. -/
def redirection (op : RedirectOp) (path : Text) : List Token := [redirect op, ofText path]

end Token

/-- The operator for an output file. -/
def WriteMode.operator : WriteMode → RedirectOp
  | truncate => .output
  | append => .append

namespace Command

/-- The tokens of the redirects, input first. -/
def redirections (command : Command) : List Token :=
  command.input.elim [] (Token.redirection .input) ++
    command.output.elim [] fun file => Token.redirection file.mode.operator file.path

/-- The tokens of a command: its name, its arguments and its redirects. -/
def tokens (command : Command) : List Token :=
  command.words.map Token.ofText ++ command.redirections

/-- How a command is written. -/
def segment (command : Command) : Text := [' '].intercalate (command.tokens.map Token.written)

end Command

/-- How a pipeline is written. -/
def Pipeline.line (pipeline : Pipeline) : Text :=
  " | ".toList.intercalate (pipeline.map Command.segment)

/-! ## Scanning -/

namespace Token

/-- A run of characters stops in front of the first one that fails the test. -/
theorem run_append {p : Char → Bool} {t rest : Text} (ht : ∀ c ∈ t, p c = true)
    (hrest : ∀ c, rest.head? = some c → p c = false) :
    (t ++ rest).takeWhile p = t ∧ (t ++ rest).dropWhile p = rest := by
  rw [List.takeWhile_append_of_pos ht, List.dropWhile_append_of_pos ht]
  cases rest with
  | nil => simp
  | cons c rest =>
    have hc := hrest c rfl
    simp [hc]

theorem scan_cons {c : Char} (hc : Text.isBlank c = false) (rest : Text) :
    scan (c :: rest) = (next c rest).1 :: scan (next c rest).2 := by
  rw [scan, if_neg (by rw [hc]; exact Bool.false_ne_true)]

theorem scan_cons_blank {c : Char} (hc : Text.isBlank c = true) (rest : Text) :
    scan (c :: rest) = scan rest := by
  rw [scan, if_pos hc]

/-- **A canonical token is scanned as it is**, if a blank follows it or nothing. -/
theorem scan_written_append {token : Token} (h : token.Canonical) {rest : Text}
    (hrest : ∀ c, rest.head? = some c → Text.isBlank c = true) :
    scan (token.written ++ rest) = token :: scan rest := by
  cases token with
  | redirect op =>
    cases op with
    | input => exact scan_cons (by decide) rest
    | append => exact scan_cons (by decide) ('>' :: rest)
    | output =>
      -- the longer operator would need a second sign, and that is no blank
      have hnext : next '>' rest = (redirect .output, rest) := by
        cases rest with
        | nil => rfl
        | cons c rest =>
          have hc : c ≠ '>' := by
            rintro rfl
            exact absurd (hrest '>' rfl) (by decide)
          simp [next, hc]
      change scan ('>' :: rest) = redirect .output :: scan rest
      rw [scan_cons (by decide), hnext]
  | quoted t =>
    have ht : ∀ c ∈ t, (c != '"') = true := by
      intro c hc
      exact bne_iff_ne.2 fun he => h (he ▸ hc)
    have hstop : ∀ c, ('"' :: rest).head? = some c → (c != '"') = false := by
      intro c hc
      cases hc
      rfl
    obtain ⟨htake, hdrop⟩ := run_append ht hstop
    have hsplit : written (quoted t) ++ rest = '"' :: (t ++ '"' :: rest) := by
      simp [written]
    have hnext : next '"' (t ++ '"' :: rest) = (quoted t, rest) := by
      simp [next, htake, hdrop]
    rw [hsplit, scan_cons (by decide), hnext]
  | word t =>
    obtain ⟨hne, hhead, hall⟩ := h
    cases t with
    | nil => exact absurd rfl hne
    | cons c t =>
      obtain ⟨hc, ht⟩ := List.forall_mem_cons.1 hall
      obtain ⟨hblank, hin, hout⟩ := continuesWord_iff.1 hc
      have hquote : c ≠ '"' := fun he => hhead (congrArg some he)
      have hstop : ∀ d, rest.head? = some d → continuesWord d = false := by
        intro d hd
        simp [continuesWord, hrest d hd]
      obtain ⟨htake, hdrop⟩ := run_append ht hstop
      have hnext : next c (t ++ rest) = (word (c :: t), rest) := by
        simp [next, hin, hout, hquote, htake, hdrop]
      rw [written, List.cons_append, scan_cons hblank, hnext]

/-- **Scanning undoes writing**, with a blank between each two tokens. -/
theorem scan_intercalate {tokens : List Token} (h : ∀ token ∈ tokens, token.Canonical) :
    scan ([' '].intercalate (tokens.map written)) = tokens := by
  induction tokens with
  | nil => rw [List.map_nil, List.intercalate_nil, scan]
  | cons token rest ih =>
    obtain ⟨htoken, hrest⟩ := List.forall_mem_cons.1 h
    have ih := ih hrest
    cases rest with
    | nil =>
      have hone : scan (token.written ++ []) = token :: scan [] :=
        scan_written_append htoken fun c hc => by cases hc
      rw [List.append_nil, scan] at hone
      rw [List.map_singleton, List.intercalate_singleton]
      exact hone
    | cons next rest =>
      rw [List.map_cons, List.map_cons, List.intercalate_cons_cons, List.append_assoc,
        scan_written_append htoken, List.singleton_append, scan_cons_blank (by decide)]
      · rw [← List.map_cons, ih]
      · intro c hc
        cases hc
        decide

/-- A canonical token is written without a blank at its ends. -/
theorem Canonical.tight {token : Token} (h : token.Canonical) : token.written.Tight := by
  cases token with
  | redirect op =>
    have hne : op.symbol.toList ≠ [] := by cases op <;> decide
    have hall : (op.symbol.toList.all fun c => !Text.isBlank c) = true := by cases op <;> decide
    refine Text.tight_of_forall hne fun c hc => ?_
    have hc' := List.all_eq_true.1 hall c hc
    rwa [Bool.not_eq_true'] at hc'
  | quoted t =>
    have hquote : Text.Tight ['"'] :=
      Text.tight_of_forall (List.cons_ne_nil _ _) (List.forall_mem_singleton.2 (by decide))
    exact hquote.append hquote t
  | word t =>
    obtain ⟨hne, -, hall⟩ := h
    exact Text.tight_of_forall hne fun c hc => (continuesWord_iff.1 (hall c hc)).1

/-- What is written for a token is its text, quotes and redirect signs. -/
theorem written_over {p : Char → Prop} {token : Token} (h : Token.Over p token) (hquote : p '"')
    (hin : p '<') (hout : p '>') : Text.Over p token.written := by
  cases token with
  | redirect op =>
    intro c hc
    cases op <;> simp [written, RedirectOp.symbol] at hc <;> rcases hc with rfl | rfl <;> assumption
  | quoted t =>
    have ht := h t rfl
    intro c hc
    simp only [written, List.mem_cons, List.mem_append, List.not_mem_nil, or_false] at hc
    rcases hc with rfl | hc | rfl
    · exact hquote
    · exact ht c hc
    · exact hquote
  | word t => exact h t rfl

/-- A legal text is written as a canonical token without separators. -/
theorem ofText_of_legal {t : Text} (h : t.Legal) :
    (ofText t).Canonical ∧ Token.Over (· ≠ Pipeline.separator) (ofText t) := by
  have hover : Text.Over (· ≠ Pipeline.separator) t :=
    fun c hc he => h.separator_not_mem (he ▸ hc)
  unfold ofText
  split
  · rename_i hquote
    refine ⟨⟨h.ne_nil, h.unquoted, ?_⟩, ?_⟩
    · intro c hc
      exact continuesWord_iff.2 (h.bare hquote c hc)
    · intro u hu
      cases hu
      exact hover
  · rename_i hquote
    refine ⟨hquote, ?_⟩
    intro u hu
    cases hu
    exact hover

end Token

/-! ## Commands -/

/-- A text that fits is not too long for the reader. -/
theorem Text.Fits.not_lt {max : Nat} {t : Text} (h : t.Fits max) : ¬ max < Utf8.length t := by
  have hlength := h.length_le
  rw [Utf8.length_encode] at hlength
  omega

namespace Command

variable {limits : Limits}

/-- The tokens of a command with legal texts are canonical and hold no separator. -/
theorem tokens_canonical {command : Command} (h : command.WellFormed limits) :
    ∀ token ∈ command.tokens,
      token.Canonical ∧ Token.Over (· ≠ Pipeline.separator) token := by
  have hredirection : ∀ (op : RedirectOp) {path : Text}, path.Legal →
      ∀ token ∈ Token.redirection op path,
        token.Canonical ∧ Token.Over (· ≠ Pipeline.separator) token := by
    intro op path hpath
    refine List.forall_mem_cons.2 ⟨⟨trivial, fun t ht => by cases ht⟩, ?_⟩
    exact List.forall_mem_cons.2 ⟨Token.ofText_of_legal hpath, List.forall_mem_nil _⟩
  intro token htoken
  rcases List.mem_append.1 htoken with hword | hredirect
  · -- a word
    obtain ⟨t, ht, rfl⟩ := List.mem_map.1 hword
    rcases List.mem_cons.1 ht with rfl | ht
    · exact Token.ofText_of_legal h.name.legal
    · exact Token.ofText_of_legal (h.args t ht).legal
  · rcases List.mem_append.1 hredirect with hin | hout
    · cases hinput : command.input with
      | none =>
        rw [hinput] at hin
        cases hin
      | some path =>
        rw [hinput] at hin
        exact hredirection .input (h.input path hinput).legal token hin
    · cases houtput : command.output with
      | none =>
        rw [houtput] at hout
        cases hout
      | some file =>
        rw [houtput] at hout
        exact hredirection _ (h.output file houtput).legal token hout

/-- A text is taken up however it is written. -/
theorem ofTokensFrom_ofText (draft : Draft) (t : Text) (rest : List Token) :
    ofTokensFrom limits draft (Token.ofText t :: rest) =
      draft.addText limits t >>= fun d => ofTokensFrom limits d rest := by
  unfold Token.ofText
  split <;> rfl

theorem Draft.addText_name {draft : Draft} (hnone : draft.name = none) {t : Text}
    (h : t.Fits limits.programLength) :
    draft.addText limits t = .ok { draft with name := some t } := by
  simp [Draft.addText, hnone, h.legal.ne_nil, h.not_lt]

theorem Draft.addText_arg {draft : Draft} {name : Text} (hname : draft.name = some name) {t : Text}
    (h : t.Fits limits.argLength) (hroom : draft.args.length < limits.args) :
    draft.addText limits t = .ok { draft with args := t :: draft.args } := by
  have hshort : ¬ (limits.argLength < Utf8.length t ∨ limits.args ≤ draft.args.length) :=
    not_or.2 ⟨h.not_lt, Nat.not_le.2 hroom⟩
  simp [Draft.addText, hname, h.legal.ne_nil, hshort]

/-- Arguments are taken up one after the other, as long as there is room for all of them. -/
theorem ofTokensFrom_args {args : List Text} (h : ∀ a ∈ args, a.Fits limits.argLength)
    {draft : Draft} {name : Text} (hname : draft.name = some name)
    (hroom : draft.args.length + args.length ≤ limits.args) (rest : List Token) :
    ofTokensFrom limits draft (args.map Token.ofText ++ rest) =
      ofTokensFrom limits { draft with args := args.reverse ++ draft.args } rest := by
  induction args generalizing draft with
  | nil => rfl
  | cons a args ih =>
    obtain ⟨ha, hargs⟩ := List.forall_mem_cons.1 h
    rw [List.length_cons] at hroom
    have hadd := Draft.addText_arg hname ha (by omega)
    have hmore : (a :: draft.args).length + args.length ≤ limits.args := by
      rw [List.length_cons]
      omega
    have hrest : ofTokensFrom limits { draft with args := a :: draft.args }
          (args.map Token.ofText ++ rest) =
        ofTokensFrom limits { draft with args := args.reverse ++ a :: draft.args } rest :=
      ih hargs hname hmore
    rw [List.map_cons, List.cons_append, ofTokensFrom_ofText, hadd, List.reverse_cons,
      List.append_assoc, List.singleton_append]
    exact hrest

/-- A redirect is taken up with its path. -/
theorem ofTokensFrom_redirection {path : Text} (h : path.Fits limits.argLength) (op : RedirectOp)
    (draft : Draft) (rest : List Token) :
    ofTokensFrom limits draft (Token.redirection op path ++ rest) =
      ofTokensFrom limits (draft.redirect op path) rest := by
  have hshort := h.not_lt
  have htext : (Token.ofText path).text? = some path := by
    unfold Token.ofText
    split <;> rfl
  have hpath : Command.path limits op (Token.ofText path) = .ok path := by
    cases hp : path with
    | nil => exact absurd hp h.legal.ne_nil
    | cons c t =>
      rw [hp] at htext hshort
      simp only [Command.path, htext, if_neg hshort]
  show (Command.path limits op (Token.ofText path) >>= fun p =>
    ofTokensFrom limits (draft.redirect op p) rest) = _
  rw [hpath]
  rfl

/-- **Reading the tokens of a well-formed command gives the command.** -/
theorem ofTokens_tokens {command : Command} (h : command.WellFormed limits) :
    ofTokens limits command.tokens = .ok command := by
  obtain ⟨name, args, input, output⟩ := command
  have hall : ∀ a ∈ args, a.Fits limits.argLength := h.args
  have hroom : ([] : List Text).length + args.length ≤ limits.args := by
    rw [List.length_nil, Nat.zero_add]
    exact h.args_length
  -- the name, then the arguments, then whatever redirects there are
  have hwords : ofTokens limits (Command.tokens ⟨name, args, input, output⟩) =
      ofTokensFrom limits { name := some name, args := args.reverse }
        (redirections ⟨name, args, input, output⟩) := by
    have hname : Draft.addText limits {} name = .ok { name := some name } :=
      Draft.addText_name rfl h.name
    have hargs : ofTokensFrom limits { name := some name }
          (args.map Token.ofText ++ redirections ⟨name, args, input, output⟩) =
        ofTokensFrom limits { name := some name, args := args.reverse ++ [] }
          (redirections ⟨name, args, input, output⟩) :=
      ofTokensFrom_args hall rfl hroom _
    rw [List.append_nil] at hargs
    rw [ofTokens, tokens, words, List.map_cons, List.cons_append, ofTokensFrom_ofText, hname]
    exact hargs
  have hfinish : Draft.finish { name := some name, args := args.reverse, input, output } =
      .ok ⟨name, args, input, output⟩ := by
    simp [Draft.finish]
  rw [hwords, redirections]
  have hinput : ofTokensFrom limits { name := some name, args := args.reverse }
        (input.elim [] (Token.redirection .input) ++
          output.elim [] fun file => Token.redirection file.mode.operator file.path) =
      ofTokensFrom limits { name := some name, args := args.reverse, input }
        (output.elim [] fun file => Token.redirection file.mode.operator file.path) := by
    cases input with
    | none => rfl
    | some path => exact ofTokensFrom_redirection (h.input path rfl) .input _ _
  refine hinput.trans ?_
  cases output with
  | none => exact hfinish
  | some file =>
    have hout := ofTokensFrom_redirection (h.output file rfl) file.mode.operator
      { name := some name, args := args.reverse, input } []
    rw [List.append_nil] at hout
    refine hout.trans ?_
    obtain ⟨path, mode⟩ := file
    cases mode with
    | truncate => exact hfinish
    | append => exact hfinish

/-- A well-formed command is read back from its segment. -/
theorem parse_segment {command : Command} (h : command.WellFormed limits) :
    parse limits command.segment = .ok command := by
  have hscan := Token.scan_intercalate fun token htoken => (tokens_canonical h token htoken).1
  rw [parse, segment, hscan, ofTokens_tokens h]

/-- The segment of a command stays as it is when it is trimmed, and no separator cuts it. -/
theorem segment_tight {command : Command} (h : command.WellFormed limits) :
    command.segment.Tight ∧ Pipeline.separator ∉ command.segment := by
  have htokens := tokens_canonical h
  constructor
  · refine Text.tight_intercalate [' '] ?_ ?_
    · simp [tokens, words]
    · intro t ht
      obtain ⟨token, htoken, rfl⟩ := List.mem_map.1 ht
      exact (htokens token htoken).1.tight
  · have hover : Text.Over (· ≠ Pipeline.separator) command.segment := by
      have hblank : Text.Over (· ≠ Pipeline.separator) [' '] := by
        intro c hc
        rw [List.mem_singleton.1 hc]
        decide
      refine Text.over_intercalate hblank ?_
      intro t ht
      obtain ⟨token, htoken, rfl⟩ := List.mem_map.1 ht
      exact Token.written_over (htokens token htoken).2 (by decide) (by decide) (by decide)
    exact fun hmem => hover Pipeline.separator hmem rfl

end Command

/-! ## Lines -/

namespace Pipeline

variable {limits : Limits}

/-- The segments of a written line are its commands as they were written. -/
theorem segments_line {pipeline : Pipeline}
    (h : ∀ command ∈ pipeline, command.WellFormed limits) :
    segments (line pipeline) = pipeline.map Command.segment := by
  refine segments_join ?_
  intro part hpart
  obtain ⟨command, hcommand, rfl⟩ := List.mem_map.1 hpart
  exact Command.segment_tight (h command hcommand)

theorem mapM_parse_segments {pipeline : Pipeline}
    (h : ∀ command ∈ pipeline, command.WellFormed limits) :
    (pipeline.map Command.segment).mapM (Command.parse limits) = .ok pipeline := by
  induction pipeline with
  | nil => rfl
  | cons command rest ih =>
    obtain ⟨hcommand, hrest⟩ := List.forall_mem_cons.1 h
    rw [List.map_cons, List.mapM_cons, Command.parse_segment hcommand, ih hrest]
    rfl

/-- **Reading undoes writing.** Every well-formed pipeline is read back from its line. -/
theorem parse_line {pipeline : Pipeline} (h : pipeline.WellFormed limits) :
    parse limits (line pipeline) = .ok pipeline := by
  have hsegments := segments_line h.commands
  refine parse_eq_ok_iff.2 ⟨?_, ?_, ?_⟩
  · rw [hsegments]
    exact mt List.map_eq_nil_iff.1 h.ne_nil
  · rw [hsegments, List.length_map]
    exact h.length_le
  · rw [hsegments]
    exact mapM_parse_segments h.commands

/-- Limits of small numbers. -/
def narrow : Limits := { commands := 2, programLength := 4, argLength := 6, args := 1 }

/-- A pipeline that uses up these limits, with blanks, signs and quotes in its texts. -/
def brimful : Pipeline :=
  [{ name := "é\"x".toList, args := [" < >é".toList], input := some "\u3000>>".toList },
    { name := " wc ".toList, output := some ⟨"a\"b\"c\"".toList, .append⟩ }]

theorem parse_line_brimful :
    brimful.WellFormed narrow ∧ parse narrow (line brimful) = .ok brimful := by
  have h : brimful.WellFormed narrow := by decide
  exact ⟨h, parse_line h⟩

example : line brimful = "é\"x \" < >é\" < \"\u3000>>\" | \" wc \" >> a\"b\"c\"".toList := by
  decide

end Pipeline

end PipeShell
