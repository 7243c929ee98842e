import PipeShell.Proofs.Encoding
import PipeShell.Proofs.Segments

/-!
# What is read is well formed

A text is legal if a line can hold it: it has characters, none of them is a separator, it does not
start with a quote, and if it has a quote further on it is one bare word (`Text.Legal`). A pipeline
is well formed if it has commands, all its texts are legal, and every limit is kept
(`Pipeline.WellFormed`).

The scanner gives tokens of two shapes only, quoted texts without quotes and words that would go on
as words (`Token.Canonical`, `Token.scan_canonical`). A draft keeps what its texts have to be and
every limit as it takes up token after token (`Command.ofTokensFrom_wellFormed`). The commands of a
line are read from its segments, each from its own (`Pipeline.parse_eq_ok_iff`).

Main statement: whatever the line, what is read from it is a well-formed pipeline with as many
commands as the line has parts that are not blank (`Pipeline.wellFormed_of_parse`).
-/

set_option autoImplicit false

namespace PipeShell

/-- A text that a line can hold. With a quote behind its start it is a bare word, which no blank and
no redirect sign goes through. -/
structure Text.Legal (t : Text) : Prop where
  ne_nil : t ≠ []
  separator_not_mem : Pipeline.separator ∉ t
  unquoted : t.head? ≠ some '"'
  bare : '"' ∈ t → ∀ c ∈ t, Text.isBlank c = false ∧ c ≠ '<' ∧ c ≠ '>'

/-- A legal text of at most so many bytes. -/
structure Text.Fits (max : Nat) (t : Text) : Prop where
  legal : t.Legal
  length_le : (Utf8.encode t).length ≤ max

/-- All texts of the command are legal, and it keeps the limits. -/
structure Command.WellFormed (limits : Limits) (command : Command) : Prop where
  name : command.name.Fits limits.programLength
  args_length : command.args.length ≤ limits.args
  args : ∀ a ∈ command.args, a.Fits limits.argLength
  input : ∀ path, command.input = some path → path.Fits limits.argLength
  output : ∀ file, command.output = some file → file.path.Fits limits.argLength

/-- There are commands, not too many, and all are well formed. -/
structure Pipeline.WellFormed (limits : Limits) (pipeline : Pipeline) : Prop where
  ne_nil : pipeline ≠ []
  length_le : pipeline.length ≤ limits.commands
  commands : ∀ command ∈ pipeline, command.WellFormed limits

section Decidable

variable (limits : Limits)

instance (t : Text) : Decidable t.Legal :=
  -- the characters of the text are looked at, not all that there are
  letI : Decidable (∀ c ∈ t, Text.isBlank c = false ∧ c ≠ '<' ∧ c ≠ '>') :=
    List.decidableBAll (fun c => Text.isBlank c = false ∧ c ≠ '<' ∧ c ≠ '>') t
  decidable_of_iff
    (t ≠ [] ∧ Pipeline.separator ∉ t ∧ t.head? ≠ some '"' ∧
      ('"' ∈ t → ∀ c ∈ t, Text.isBlank c = false ∧ c ≠ '<' ∧ c ≠ '>'))
    ⟨fun ⟨hne, hs, hu, hb⟩ => ⟨hne, hs, hu, hb⟩, fun ⟨hne, hs, hu, hb⟩ => ⟨hne, hs, hu, hb⟩⟩

instance (max : Nat) (t : Text) : Decidable (t.Fits max) :=
  decidable_of_iff (t.Legal ∧ (Utf8.encode t).length ≤ max)
    ⟨fun ⟨hl, hm⟩ => ⟨hl, hm⟩, fun ⟨hl, hm⟩ => ⟨hl, hm⟩⟩

instance (command : Command) : Decidable (command.WellFormed limits) :=
  decidable_of_iff
    (command.name.Fits limits.programLength ∧ command.args.length ≤ limits.args ∧
      (∀ a ∈ command.args, a.Fits limits.argLength) ∧
      (∀ path ∈ command.input, path.Fits limits.argLength) ∧
      ∀ file ∈ command.output, file.path.Fits limits.argLength)
    ⟨fun ⟨hn, hl, ha, hi, ho⟩ => ⟨hn, hl, ha, hi, ho⟩,
      fun ⟨hn, hl, ha, hi, ho⟩ => ⟨hn, hl, ha, hi, ho⟩⟩

instance (pipeline : Pipeline) : Decidable (Pipeline.WellFormed limits pipeline) :=
  decidable_of_iff
    (pipeline ≠ [] ∧ pipeline.length ≤ limits.commands ∧
      ∀ command ∈ pipeline, command.WellFormed limits)
    ⟨fun ⟨hne, hl, hc⟩ => ⟨hne, hl, hc⟩, fun ⟨hne, hl, hc⟩ => ⟨hne, hl, hc⟩⟩

end Decidable

/-! ## Tokens -/

namespace Token

/-- A token that is scanned as it is written: a quoted text ends at its first quote, and a word
starts where no quoted text and no operator does and goes on to its end. -/
def Canonical : Token → Prop
  | redirect _ => True
  | quoted t => '"' ∉ t
  | word t => t ≠ [] ∧ t.head? ≠ some '"' ∧ ∀ c ∈ t, continuesWord c = true

theorem continuesWord_iff {c : Char} :
    continuesWord c = true ↔ Text.isBlank c = false ∧ c ≠ '<' ∧ c ≠ '>' := by
  simp [continuesWord, and_assoc]

theorem next_canonical {c : Char} (hc : Text.isBlank c = false) (rest : Text) :
    (next c rest).1.Canonical := by
  unfold next
  split
  · trivial
  · rename_i hin
    split
    · split <;> trivial
    · rename_i hout
      split
      · -- the text runs up to the next quote
        intro hmem
        have hall := List.all_takeWhile (p := (· != '"')) (l := rest)
        have hquote := List.all_eq_true.1 hall '"' hmem
        exact absurd hquote (by decide)
      · rename_i hquote
        refine ⟨List.cons_ne_nil _ _, ?_, List.forall_mem_cons.2 ⟨?_, ?_⟩⟩
        · intro hhead
          exact hquote (Option.some.inj hhead)
        · exact continuesWord_iff.2 ⟨hc, hin, hout⟩
        · exact List.all_eq_true.1 List.all_takeWhile

/-- **Only canonical tokens are scanned.** -/
theorem scan_canonical (t : Text) : ∀ token ∈ scan t, token.Canonical := by
  fun_induction scan t with
  | case1 => exact List.forall_mem_nil _
  | case2 c rest hb ih => exact ih
  | case3 c rest hb ih =>
    have hc : Text.isBlank c = false := Bool.not_eq_true _ ▸ hb
    exact List.forall_mem_cons.2 ⟨next_canonical hc rest, ih⟩

/-- The text of the token is legal, if it has characters. -/
def Legal (token : Token) : Prop := ∀ t, token.text? = some t → t ≠ [] → t.Legal

/-- A canonical token without separators is legal. -/
theorem Canonical.legal {token : Token} (h : token.Canonical)
    (hs : Token.Over (· ≠ Pipeline.separator) token) : token.Legal := by
  intro t ht hne
  have hsep : Pipeline.separator ∉ t := fun hmem => hs t ht _ hmem rfl
  cases token with
  | redirect op => cases ht
  | quoted u =>
    -- there is no quote at all
    cases ht
    refine ⟨hne, hsep, fun hhead => h (List.mem_of_head? hhead), fun hmem => absurd hmem h⟩
  | word u =>
    cases ht
    obtain ⟨-, hhead, hall⟩ := h
    exact ⟨hne, hsep, hhead, fun _ c hc => continuesWord_iff.1 (hall c hc)⟩

/-- The tokens of a segment are legal. -/
theorem scan_legal {t : Text} (h : Pipeline.separator ∉ t) : ∀ token ∈ scan t, token.Legal := by
  have hover : Text.Over (· ≠ Pipeline.separator) t := fun c hc he => h (he ▸ hc)
  intro token htoken
  exact (scan_canonical t token htoken).legal (scan_over hover token htoken)

end Token

/-! ## Commands -/

namespace Command

variable {limits : Limits}

/-- What has been read is legal and keeps the limits. -/
structure Draft.WellFormed (limits : Limits) (draft : Draft) : Prop where
  name : ∀ t, draft.name = some t → t.Fits limits.programLength
  args_length : draft.args.length ≤ limits.args
  args : ∀ a ∈ draft.args, a.Fits limits.argLength
  input : ∀ path, draft.input = some path → path.Fits limits.argLength
  output : ∀ file, draft.output = some file → file.path.Fits limits.argLength

theorem Draft.empty_wellFormed : Draft.WellFormed limits {} where
  name _ h := by cases h
  args_length := Nat.zero_le _
  args := List.forall_mem_nil _
  input _ h := by cases h
  output _ h := by cases h

theorem Draft.addText_wellFormed {draft draft' : Draft} (h : draft.WellFormed limits) {t : Text}
    (ht : t ≠ [] → t.Legal) (hadd : draft.addText limits t = .ok draft') :
    draft'.WellFormed limits := by
  unfold Draft.addText at hadd
  split at hadd
  · cases hadd
    exact h
  · rename_i hne
    have hlegal : t.Legal := ht (fun he => hne (by rw [he]; rfl))
    split at hadd
    · -- the first text is the name
      split at hadd
      · cases hadd
      · rename_i hlong
        cases hadd
        refine ⟨?_, h.args_length, h.args, h.input, h.output⟩
        intro u hu
        cases hu
        exact ⟨hlegal, by rw [Utf8.length_encode]; omega⟩
    · -- any other is one more argument, if there is room for it
      split at hadd
      · cases hadd
      · rename_i hroom
        rw [not_or] at hroom
        cases hadd
        refine ⟨h.name, ?_, List.forall_mem_cons.2 ⟨?_, h.args⟩, h.input, h.output⟩
        · rw [List.length_cons]
          omega
        · exact ⟨hlegal, by rw [Utf8.length_encode]; omega⟩

theorem path_fits {op : RedirectOp} {token : Token} (h : token.Legal) {t : Text}
    (hpath : path limits op token = .ok t) : t.Fits limits.argLength := by
  unfold path at hpath
  split at hpath
  · cases hpath
  · cases hpath
  · rename_i u hne hu
    split at hpath
    · cases hpath
    · rename_i hlong
      cases hpath
      exact ⟨h t hu hne, by rw [Utf8.length_encode]; omega⟩

theorem Draft.redirect_wellFormed {draft : Draft} (h : draft.WellFormed limits) (op : RedirectOp)
    {path : Text} (hpath : path.Fits limits.argLength) :
    (draft.redirect op path).WellFormed limits := by
  cases op with
  | input => exact ⟨h.name, h.args_length, h.args, fun u hu => by cases hu; exact hpath, h.output⟩
  | output => exact ⟨h.name, h.args_length, h.args, h.input, fun u hu => by cases hu; exact hpath⟩
  | append => exact ⟨h.name, h.args_length, h.args, h.input, fun u hu => by cases hu; exact hpath⟩

theorem Draft.finish_wellFormed {draft : Draft} (h : draft.WellFormed limits) {command : Command}
    (hfinish : draft.finish = .ok command) : command.WellFormed limits := by
  unfold Draft.finish at hfinish
  split at hfinish
  · cases hfinish
  · rename_i name hname
    cases hfinish
    refine ⟨h.name name hname, ?_, ?_, h.input, h.output⟩
    · rw [List.length_reverse]
      exact h.args_length
    · intro a ha
      exact h.args a (List.mem_reverse.1 ha)

/-- What follows a reading that succeeds has succeeded only on its result. -/
theorem bind_eq_ok {α β : Type} {x : Except ParseError α} {f : α → Except ParseError β} {b : β}
    (h : x >>= f = .ok b) : ∃ a, x = .ok a ∧ f a = .ok b := by
  cases x with
  | ok a => exact ⟨a, rfl, h⟩
  | error e => cases h

/-- **A well-formed draft becomes a well-formed command**, whatever legal tokens follow. -/
theorem ofTokensFrom_wellFormed {draft : Draft} (h : draft.WellFormed limits)
    {tokens : List Token} (ht : ∀ token ∈ tokens, token.Legal) {command : Command}
    (hread : ofTokensFrom limits draft tokens = .ok command) : command.WellFormed limits := by
  fun_induction ofTokensFrom limits draft tokens with
  | case1 draft => exact Draft.finish_wellFormed h hread
  | case2 draft op => cases hread
  | case3 draft op token rest ih =>
    obtain ⟨-, htoken, hrest⟩ := List.forall_mem_cons.1 ht |>.imp_right List.forall_mem_cons.1
    obtain ⟨u, hu, hread⟩ := bind_eq_ok hread
    exact ih u (Draft.redirect_wellFormed h op (path_fits htoken hu)) hrest hread
  | case4 draft t rest ih =>
    obtain ⟨htoken, hrest⟩ := List.forall_mem_cons.1 ht
    obtain ⟨d, hd, hread⟩ := bind_eq_ok hread
    exact ih d (Draft.addText_wellFormed h (htoken t rfl) hd) hrest hread
  | case5 draft t rest ih =>
    obtain ⟨htoken, hrest⟩ := List.forall_mem_cons.1 ht
    obtain ⟨d, hd, hread⟩ := bind_eq_ok hread
    exact ih d (Draft.addText_wellFormed h (htoken t rfl) hd) hrest hread

theorem wellFormed_of_parse_segment {t : Text} (hs : Pipeline.separator ∉ t) {command : Command}
    (h : parse limits t = .ok command) : command.WellFormed limits :=
  ofTokensFrom_wellFormed Draft.empty_wellFormed (Token.scan_legal hs) h

end Command

/-! ## Lines -/

namespace Pipeline

variable {limits : Limits}

/-- A line is read exactly if it has segments, not too many of them, and each can be read. -/
theorem parse_eq_ok_iff {line : Text} {pipeline : Pipeline} :
    parse limits line = .ok pipeline ↔
      segments line ≠ [] ∧ (segments line).length ≤ limits.commands ∧
        (segments line).mapM (Command.parse limits) = .ok pipeline := by
  unfold parse
  cases hparts : segments line with
  | nil => simp
  | cons part parts =>
    have hne : part :: parts ≠ [] := List.cons_ne_nil _ _
    by_cases hmany : limits.commands < (part :: parts).length
    · have hnot : ¬ (part :: parts).length ≤ limits.commands := by omega
      simp only [if_pos hmany, hnot, false_and, and_false, reduceCtorEq]
    · have hfew : (part :: parts).length ≤ limits.commands := by omega
      simp only [if_neg hmany, hfew, hne, ne_eq, not_false_eq_true, true_and]

theorem parse_eq_ok_of_toOption {line : Text} {pipeline : Pipeline}
    (h : (parse limits line).toOption = some pipeline) : parse limits line = .ok pipeline := by
  cases hparse : parse limits line with
  | error e =>
    rw [hparse] at h
    cases h
  | ok pipeline' =>
    rw [hparse] at h
    cases h
    rfl

/-- Commands read one by one are as many as the texts they are read from, each from one of them. -/
theorem commands_of_mapM {parts : List Text} {pipeline : Pipeline}
    (h : parts.mapM (Command.parse limits) = .ok pipeline) :
    pipeline.length = parts.length ∧
      ∀ command ∈ pipeline, ∃ part ∈ parts, Command.parse limits part = .ok command := by
  induction parts generalizing pipeline with
  | nil =>
    cases h
    exact ⟨rfl, List.forall_mem_nil _⟩
  | cons part parts ih =>
    rw [List.mapM_cons] at h
    obtain ⟨first, hfirst, h⟩ := Command.bind_eq_ok h
    obtain ⟨others, hothers, h⟩ := Command.bind_eq_ok h
    cases h
    obtain ⟨hlength, hall⟩ := ih hothers
    refine ⟨by rw [List.length_cons, List.length_cons, hlength], List.forall_mem_cons.2 ⟨?_, ?_⟩⟩
    · exact ⟨part, List.mem_cons_self, hfirst⟩
    · intro command hcommand
      obtain ⟨from', hfrom, hread⟩ := hall command hcommand
      exact ⟨from', List.mem_cons_of_mem _ hfrom, hread⟩

/-- A line that can be read has a command. -/
theorem ne_nil_of_parse {line : Text} {pipeline : Pipeline} (h : parse limits line = .ok pipeline) :
    pipeline ≠ [] := by
  obtain ⟨hne, -, hread⟩ := parse_eq_ok_iff.1 h
  have hlength := (commands_of_mapM hread).1
  intro hnil
  rw [hnil, List.length_nil] at hlength
  exact hne (List.length_eq_zero_iff.1 hlength.symm)

/-- **Whatever is read is well formed.** The pipeline read from a line keeps every limit, its texts
are legal, and it has one command for each part between separators that is not blank. -/
theorem wellFormed_of_parse {line : Text} {pipeline : Pipeline}
    (h : parse limits line = .ok pipeline) :
    pipeline.WellFormed limits ∧
      pipeline.length = (line.splitOn separator).countP fun part => !part.all Text.isBlank := by
  obtain ⟨-, hfew, hread⟩ := parse_eq_ok_iff.1 h
  obtain ⟨hlength, hall⟩ := commands_of_mapM hread
  refine ⟨⟨ne_nil_of_parse h, hlength ▸ hfew, ?_⟩, hlength.trans (length_segments line)⟩
  intro command hcommand
  obtain ⟨part, hpart, hcommand⟩ := hall command hcommand
  exact Command.wellFormed_of_parse_segment (separator_not_mem_segments part hpart) hcommand

/-- A line with a quote inside a word, empty parts, an empty text and a text of blanks. -/
def tangledLine : Text := "a\"b <\"in\" | | \"\" \" \" y>>\"f g".toList

/-- What is read from it. -/
def tangled : Pipeline :=
  [{ name := "a\"b".toList, input := some "in".toList },
    { name := " ".toList, args := ["y".toList], output := some ⟨"f g".toList, .append⟩ }]

theorem parse_tangledLine : parse {} tangledLine = .ok tangled :=
  parse_eq_ok_of_toOption (by decide +kernel)

theorem wellFormed_of_tangled :
    parse {} tangledLine = .ok tangled ∧ tangled.WellFormed {} ∧
      tangled.length =
        (tangledLine.splitOn separator).countP fun part => !part.all Text.isBlank :=
  ⟨parse_tangledLine, wellFormed_of_parse parse_tangledLine⟩

end Pipeline

end PipeShell
