import PipeShell.Interpreter
import PipeShell.Session

/-!
# What the shell's own texts are made of

Every text that the shell writes itself is put together from fixed wordings, numbers and parts of
the line that is carried out. The fixed wordings and the numbers consist of plain characters: a
newline, or no control character of ASCII (`Text.isPlain`). So a text about a line consists of plain
characters and of characters of that line: the errors of reading it (`Pipeline.parse_over`), the
faults of stages (`StageFault.start_message_over` and its like) and the replies of built-ins
(`Builtin.act_over`).

The statements are about any class of characters that has the plain ones in it (`Text.Over`,
`Text.Ample`), so that they serve for every mark that a protocol may put behind a text.
-/

set_option autoImplicit false

namespace PipeShell

namespace Text

/-- A newline, or no control character of ASCII. -/
def isPlain (c : Char) : Bool := c == '\n' || decide (32 ≤ c.toNat)

/-- All characters of the text are in the class. -/
def Over (p : Char → Prop) (t : Text) : Prop := ∀ c ∈ t, p c

/-- The class has all plain characters in it. -/
def Ample (p : Char → Prop) : Prop := ∀ c, isPlain c = true → p c

variable {p : Char → Prop}

theorem over_append {t u : Text} : Over p (t ++ u) ↔ Over p t ∧ Over p u := List.forall_mem_append

theorem over_nil : Over p [] := List.forall_mem_nil _

/-- A fixed wording, tested character by character. -/
theorem over_literal (hp : Ample p) {s : String} {cs : List Char} (hs : String.ofList cs = s)
    (h : cs.all isPlain = true) : Over p s.toList := by
  subst hs
  rw [String.toList_ofList]
  exact fun c hc => hp c (List.all_eq_true.1 h c hc)

theorem over_newline (hp : Ample p) : Over p ['\n'] := by
  intro c hc
  rw [List.mem_singleton] at hc
  exact hp c (hc ▸ rfl)

end Text

open Text

section Wordings

variable {p : Char → Prop}

theorem Numeral.ofNat_over (hp : Ample p) (n : Nat) : Over p (Numeral.ofNat n) := by
  intro c hc
  have hd := Nat.isDigit_of_mem_toDigits (by decide) (by decide) hc
  simp only [Char.isDigit, Bool.and_eq_true, decide_eq_true_eq] at hd
  refine hp c ?_
  have h48 : 48 ≤ c.toNat := UInt32.le_iff_toNat_le.1 hd.1
  rw [isPlain, Bool.or_eq_true, decide_eq_true_eq]
  omega

theorem Numeral.ofInt_over (hp : Ample p) (n : Int) : Over p (Numeral.ofInt n) := by
  cases n with
  | ofNat n => exact Numeral.ofNat_over hp n
  | negSucc n =>
    intro c hc
    rcases List.mem_cons.1 hc with rfl | hc
    · exact hp _ rfl
    · exact Numeral.ofNat_over hp _ c hc

/-- The system's texts are plain. -/
theorem Errno.texts_over (hp : Ample p) : ∀ s ∈ Errno.texts, Over p s.toList := by
  unfold Errno.texts
  repeat' refine List.forall_mem_cons.2 ⟨over_literal hp rfl (by decide), ?_⟩
  exact List.forall_mem_nil _

theorem Errno.startTexts_over (hp : Ample p) :
    ∀ entry ∈ Errno.startTexts, Over p entry.2.toList := by
  unfold Errno.startTexts
  repeat' refine List.forall_mem_cons.2 ⟨over_literal hp rfl (by decide), ?_⟩
  exact List.forall_mem_nil _

theorem Errno.text_over (hp : Ample p) (code : Errno) : Over p (Errno.text code) := by
  have hu : Over p ("Unknown error ".toList ++ Numeral.ofInt code) :=
    over_append.2 ⟨over_literal hp rfl (by decide), Numeral.ofInt_over hp code⟩
  unfold Errno.text
  dsimp only
  split
  · exact hu
  · cases h : Errno.texts[code.toNat]? with
    | none => exact hu
    | some s =>
      exact Errno.texts_over hp s (List.mem_of_getElem? h)

theorem Errno.startText_over (hp : Ample p) (code : Errno) : Over p (Errno.startText code) := by
  unfold Errno.startText
  cases h : Errno.startTexts.lookup code with
  | none => exact Errno.text_over hp code
  | some s =>
    have hm : (code, s) ∈ Errno.startTexts := by
      obtain ⟨l₁, l₂, he, -⟩ := List.lookup_eq_some_iff.1 h
      rw [he]
      exact List.mem_append_right _ List.mem_cons_self
    exact Errno.startTexts_over hp _ hm

theorem StreamFault.message_over (hp : Ample p) (f : StreamFault) : Over p f.message.toList := by
  cases f <;> exact over_literal hp rfl (by decide)

theorem Failure.message_over (hp : Ample p) (f : Failure) : Over p f.message := by
  cases f with
  | system code =>
    exact over_append.2 ⟨over_append.2 ⟨over_append.2 ⟨Errno.text_over hp code,
      over_literal hp rfl (by decide)⟩, Numeral.ofInt_over hp code⟩,
      over_literal hp rfl (by decide)⟩
  | stream f => exact StreamFault.message_over hp f
  | writeZero => exact over_literal hp rfl (by decide)
  | invalidText => exact over_literal hp rfl (by decide)
  | nulInPath => exact over_literal hp rfl (by decide)
  | nulInArgument => exact over_literal hp rfl (by decide)
  | notDirectory => exact over_literal hp rfl (by decide)

theorem StageFault.startMessage_over (hp : Ample p) (f : Failure) :
    Over p (StageFault.startMessage f) := by
  unfold StageFault.startMessage
  split
  · exact Failure.message_over hp f
  · split
    · exact over_literal hp rfl (by decide)
    · split
      · exact over_literal hp rfl (by decide)
      · exact Errno.startText_over hp _

theorem ControlAction.farewell_over (hp : Ample p) (a : ControlAction) :
    Over p a.farewell.toList := by
  cases a <;> exact over_literal hp rfl (by decide)

theorem Dragon.lines_over (hp : Ample p) : ∀ line ∈ Dragon.lines, Over p line.toList := by
  unfold Dragon.lines
  repeat' refine List.forall_mem_cons.2 ⟨over_literal hp rfl (by decide), ?_⟩
  exact List.forall_mem_nil _

theorem Dragon.picture_over (hp : Ample p) : Over p Dragon.picture := by
  intro c hc
  obtain ⟨line, hline, hc⟩ := List.mem_flatMap.1 hc
  exact over_append.2 ⟨Dragon.lines_over hp line hline, over_newline hp⟩ c hc

theorem BuiltinError.message_over (hp : Ample p) (e : BuiltinError) : Over p e.message := by
  cases e with
  | redirection => exact over_literal hp rfl (by decide)
  | output f => exact over_append.2 ⟨over_literal hp rfl (by decide), Failure.message_over hp f⟩

/-! ## Texts about a line -/

/-- All texts of the command are in the class. -/
structure Command.Over (p : Char → Prop) (command : Command) : Prop where
  name : Text.Over p command.name
  args : ∀ a ∈ command.args, Text.Over p a
  input : ∀ path, command.input = some path → Text.Over p path
  output : ∀ file, command.output = some file → Text.Over p file.path

theorem Text.trim_over {t : Text} (h : Over p t) : Over p (Text.trim t) := by
  intro c hc
  have hfront := trimEnd_prefix (trimStart t)
  have h₁ : c ∈ trimStart t := hfront.subset hc
  exact h c ((List.dropWhile_sublist _).subset h₁)

theorem Pipeline.cut_over {line : Text} (h : Over p line) : ∀ t ∈ Pipeline.cut line, Over p t := by
  induction line with
  | nil =>
    intro t ht
    rw [Pipeline.cut, List.mem_singleton] at ht
    exact ht ▸ over_nil
  | cons c rest ih =>
    obtain ⟨hc, hrest⟩ := List.forall_mem_cons.1 h
    have ih := ih hrest
    intro t ht
    -- a separator starts a part; any other character goes to the first part of the rest
    unfold Pipeline.cut at ht
    split at ht
    · rcases List.mem_cons.1 ht with rfl | ht
      · exact over_nil
      · exact ih t ht
    · split at ht
      · rw [List.mem_singleton] at ht
        exact ht ▸ List.forall_mem_cons.2 ⟨hc, over_nil⟩
      · rename_i u us hu
        rcases List.mem_cons.1 ht with rfl | ht
        · exact List.forall_mem_cons.2 ⟨hc, ih u (hu ▸ List.mem_cons_self)⟩
        · exact ih t (hu ▸ List.mem_cons_of_mem _ ht)

theorem Pipeline.segments_over {line : Text} (h : Over p line) :
    ∀ t ∈ Pipeline.segments line, Over p t := by
  intro t ht
  obtain ⟨u, hu, rfl⟩ := List.mem_map.1 (List.mem_filter.1 ht).1
  exact Text.trim_over (Pipeline.cut_over h u hu)

/-- The text of the token is in the class. -/
def Token.Over (p : Char → Prop) (token : Token) : Prop :=
  ∀ t, token.text? = some t → Text.Over p t

/-- A token takes its text from the characters it starts with and leaves some of them. -/
theorem Token.next_over {c : Char} {rest : Text} (hc : p c) (h : Text.Over p rest) :
    Token.Over p (Token.next c rest).1 ∧ Text.Over p (Token.next c rest).2 := by
  have hdrop : ∀ q : Char → Bool, Text.Over p (rest.dropWhile q) :=
    fun q d hd => h d ((List.dropWhile_sublist q).subset hd)
  have htake : ∀ q : Char → Bool, Text.Over p (rest.takeWhile q) :=
    fun q d hd => h d ((List.takeWhile_sublist q).subset hd)
  unfold Token.next
  split
  · exact ⟨(fun _ ht => nomatch ht), h⟩
  · split
    · split
      · exact ⟨(fun _ ht => nomatch ht), (List.forall_mem_cons.1 h).2⟩
      · exact ⟨(fun _ ht => nomatch ht), h⟩
    · split
      · refine ⟨fun t ht => ?_, fun d hd => hdrop _ d (List.mem_of_mem_drop hd)⟩
        cases ht
        exact htake _
      · refine ⟨fun t ht => ?_, hdrop _⟩
        cases ht
        exact List.forall_mem_cons.2 ⟨hc, htake _⟩

theorem Token.scan_over {t : Text} (h : Text.Over p t) :
    ∀ token ∈ Token.scan t, Token.Over p token := by
  fun_induction Token.scan t with
  | case1 => exact List.forall_mem_nil _
  | case2 c rest hb ih => exact ih (List.forall_mem_cons.1 h).2
  | case3 c rest hb ih =>
    obtain ⟨hc, hrest⟩ := List.forall_mem_cons.1 h
    obtain ⟨htoken, hleft⟩ := Token.next_over hc hrest
    exact List.forall_mem_cons.2 ⟨htoken, ih hleft⟩

namespace Command

/-- All texts of the draft are in the class. -/
structure Draft.Over (p : Char → Prop) (draft : Draft) : Prop where
  name : ∀ t, draft.name = some t → Text.Over p t
  args : ∀ a ∈ draft.args, Text.Over p a
  input : ∀ path, draft.input = some path → Text.Over p path
  output : ∀ file, draft.output = some file → Text.Over p file.path

/-- What reading a command may come to: a value with a property, or an error with a plain
wording. -/
def Reads {α : Type} (p : Char → Prop) (good : α → Prop) : Except ParseError α → Prop
  | .ok a => good a
  | .error e => Text.Over p e.message

theorem Draft.addText_over (hp : Ample p) (limits : Limits) {draft : Draft} (h : draft.Over p)
    {t : Text} (ht : Text.Over p t) : Reads p (Draft.Over p) (draft.addText limits t) := by
  unfold Draft.addText
  split
  · exact h
  · split
    · split
      · exact over_literal hp rfl (by decide)
      · exact ⟨fun u hu => by cases hu; exact ht, h.args, h.input, h.output⟩
    · split
      · exact over_literal hp rfl (by decide)
      · exact ⟨h.name, List.forall_mem_cons.2 ⟨ht, h.args⟩, h.input, h.output⟩

theorem missingPath_over (hp : Ample p) (op : RedirectOp) :
    Text.Over p (ParseError.missingPath op).message := by
  have hsymbol : Text.Over p op.symbol.toList := by
    cases op <;> exact over_literal hp rfl (by decide)
  change Text.Over p ("error: missing file name after '" ++ op.symbol ++ "'").toList
  rw [String.toList_append, String.toList_append]
  exact over_append.2 ⟨over_append.2 ⟨over_literal hp rfl (by decide), hsymbol⟩,
    over_literal hp rfl (by decide)⟩

theorem path_over (hp : Ample p) (limits : Limits) (op : RedirectOp) {token : Token}
    (h : Token.Over p token) : Reads p (Text.Over p) (path limits op token) := by
  unfold path
  split
  · exact missingPath_over hp op
  · exact missingPath_over hp op
  · rename_i t _ ht
    split
    · exact over_literal hp rfl (by decide)
    · exact h t ht

theorem Draft.redirect_over {draft : Draft} (h : draft.Over p) (op : RedirectOp) {path : Text}
    (hpath : Text.Over p path) : (draft.redirect op path).Over p := by
  cases op with
  | input => exact ⟨h.name, h.args, fun u hu => by cases hu; exact hpath, h.output⟩
  | output => exact ⟨h.name, h.args, h.input, fun u hu => by cases hu; exact hpath⟩
  | append => exact ⟨h.name, h.args, h.input, fun u hu => by cases hu; exact hpath⟩

theorem Draft.finish_over (hp : Ample p) {draft : Draft} (h : draft.Over p) :
    Reads p (Command.Over p) draft.finish := by
  unfold Draft.finish
  split
  · exact over_literal hp rfl (by decide)
  · rename_i name hname
    exact ⟨h.name name hname, fun a ha => h.args a (List.mem_reverse.1 ha), h.input, h.output⟩

theorem Reads.bind {α β : Type} {good : α → Prop} {good' : β → Prop} {x : Except ParseError α}
    (hx : Reads p good x) {f : α → Except ParseError β} (hf : ∀ a, good a → Reads p good' (f a)) :
    Reads p good' (x >>= f) := by
  cases x with
  | ok a => exact hf a hx
  | error e => exact hx

theorem ofTokensFrom_over (hp : Ample p) (limits : Limits) {draft : Draft} (h : draft.Over p)
    {tokens : List Token} (ht : ∀ token ∈ tokens, Token.Over p token) :
    Reads p (Command.Over p) (ofTokensFrom limits draft tokens) := by
  fun_induction ofTokensFrom limits draft tokens with
  | case1 draft => exact Draft.finish_over hp h
  | case2 draft op => exact missingPath_over hp op
  | case3 draft op token rest ih =>
    obtain ⟨-, htoken, hrest⟩ := List.forall_mem_cons.1 ht |>.imp_right List.forall_mem_cons.1
    exact (path_over hp limits op htoken).bind fun u hu =>
      ih u (Draft.redirect_over h op hu) hrest
  | case4 draft t rest ih =>
    obtain ⟨htoken, hrest⟩ := List.forall_mem_cons.1 ht
    exact (Draft.addText_over hp limits h (htoken t rfl)).bind fun d hd => ih d hd hrest
  | case5 draft t rest ih =>
    obtain ⟨htoken, hrest⟩ := List.forall_mem_cons.1 ht
    exact (Draft.addText_over hp limits h (htoken t rfl)).bind fun d hd => ih d hd hrest

theorem Draft.empty_over : Draft.Over p {} where
  name _ h := by cases h
  args := List.forall_mem_nil _
  input _ h := by cases h
  output _ h := by cases h

theorem parse_over (hp : Ample p) (limits : Limits) {t : Text} (h : Text.Over p t) :
    Reads p (Command.Over p) (parse limits t) :=
  ofTokensFrom_over hp limits Draft.empty_over (Token.scan_over h)

end Command

/-- All texts of a pipeline are parts of its line, and so is all that an error says of it. -/
theorem Pipeline.parse_over (hp : Ample p) (limits : Limits) {line : Text} (h : Text.Over p line) :
    Command.Reads p (fun pipeline => ∀ command ∈ pipeline, Command.Over p command)
      (Pipeline.parse limits line) := by
  have hseg := Pipeline.segments_over h
  unfold Pipeline.parse
  split
  · exact over_literal hp rfl (by decide)
  · split
    · exact over_append.2 ⟨over_append.2 ⟨over_literal hp rfl (by decide), Numeral.ofNat_over hp _⟩,
        over_literal hp rfl (by decide)⟩
    · -- the parts are read one after the other, and the first error is that of the line
      generalize Pipeline.segments line = parts at hseg
      induction parts with
      | nil => exact List.forall_mem_nil _
      | cons t ts ih =>
        obtain ⟨ht, hts⟩ := List.forall_mem_cons.1 hseg
        rw [List.mapM_cons]
        refine (Command.parse_over hp limits ht).bind fun command hcommand => ?_
        exact (ih hts).bind fun rest hrest => List.forall_mem_cons.2 ⟨hcommand, hrest⟩

/-! ## What is said -/

theorem StageFault.redirect_message_over (hp : Ample p) {path : Text} (h : Text.Over p path)
    (f : Failure) : Text.Over p (StageFault.redirect path f).message :=
  over_append.2 ⟨over_append.2 ⟨over_append.2 ⟨over_literal hp rfl (by decide), h⟩,
    over_literal hp rfl (by decide)⟩, Failure.message_over hp f⟩

theorem StageFault.start_message_over (hp : Ample p) {program : Text} (h : Text.Over p program)
    (f : Failure) : Text.Over p (StageFault.start program f).message :=
  over_append.2 ⟨over_append.2 ⟨over_append.2 ⟨over_literal hp rfl (by decide), h⟩,
    over_literal hp rfl (by decide)⟩, StageFault.startMessage_over hp f⟩

theorem StageFault.streams_message_over (hp : Ample p) (f : Failure) :
    Text.Over p (StageFault.streams f).message :=
  over_append.2 ⟨over_literal hp rfl (by decide), Failure.message_over hp f⟩

theorem Wire.RequestError.message_over (hp : Ample p) (e : Wire.RequestError) :
    Over p e.message := by
  cases e with
  | tooLarge max =>
    exact over_append.2 ⟨over_append.2 ⟨over_literal hp rfl (by decide), Numeral.ofNat_over hp max⟩,
      over_literal hp rfl (by decide)⟩
  | receive f =>
    exact over_append.2 ⟨over_literal hp rfl (by decide), StreamFault.message_over hp f⟩

/-- What a built-in says. -/
theorem Builtin.act_over {σ : Type} (host : Host σ) (hp : Ample p) (b : Builtin) {args : List Text}
    (h : ∀ a ∈ args, Text.Over p a) (c : Context) (world : World σ) :
    Text.Over p (b.act host args c world).text := by
  cases b with
  | cd =>
    unfold Builtin.act Builtin.changeDirectory
    dsimp only
    split
    · exact over_nil
    · rename_i target _
      split
      · exact over_nil
      · -- the target is echoed in front of the reason
        have htarget := h target List.mem_cons_self
        exact over_append.2 ⟨over_append.2 ⟨over_append.2 ⟨over_append.2
          ⟨over_literal hp rfl (by decide), htarget⟩, over_literal hp rfl (by decide)⟩,
          Failure.message_over hp _⟩, over_newline hp⟩
  | dragon => exact Dragon.picture_over hp
  | exit => exact over_nil
  | rc => exact over_append.2 ⟨Numeral.ofInt_over hp _, over_newline hp⟩
  | stopServer => exact over_nil

end Wordings

end PipeShell
