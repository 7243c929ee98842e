import PipeShell.Proofs.Asking
import PipeShell.Proofs.Decoding
import PipeShell.Proofs.LineReading
import PipeShell.Proofs.WellFormed
import PipeShell.Shell.Local

/-!
# A local shell over a script

The lines of a script are its parts in front of newlines, and what stands behind the last newline
(`Lines.ofScript`). How a local shell goes through lines is told without a reader: the next line is
carried out if it is text, and the shell goes on behind it unless the line ends the shell. There are
four ways to stop (`LocalShell.Stop`, `LocalShell.Works`). A line that is rejected is none of them,
whether or not the rejection can be reported.

A shell whose dialogue is its own follows this. Each step takes the next line off what is left of
the script, and shows one prompt (`LocalShell.step_of_attends`). How the bytes arrive makes no
difference.

Main statement: for every script there is one row of lines that are carried out, and one way to
stop, and the shell goes that way however the script is divided into reads, with one prompt for each
line read (`LocalShell.run_lines`).
-/

set_option autoImplicit false

namespace PipeShell

/-! ## The lines of a script -/

namespace Lines

/-- The lines of a script: its parts in front of newlines, each without a carriage return at its
end, and what stands behind the last newline, unless that is nothing. -/
def ofScript (script : Bytes) : List Bytes :=
  (script.splitOn newline).dropLast.map unterminated ++
    (script.splitOn newline).getLast?.toList.filter (· ≠ [])

theorem ofScript_append {line : Bytes} (h : newline ∉ line) (rest : Bytes) :
    ofScript (line ++ newline :: rest) = unterminated line :: ofScript rest := by
  -- the last part is one of the rest, so that the line in front is not it
  have hne : rest.splitOn newline ≠ [] := List.splitOn_ne_nil newline rest
  unfold ofScript
  rw [List.splitOn_append_cons_self, List.splitOn_eq_singleton h, List.singleton_append,
    List.dropLast_cons_of_ne_nil hne, List.getLast?_cons_of_ne_nil hne, List.map_cons,
    List.cons_append]

theorem ofScript_of_not_mem {script : Bytes} (h : newline ∉ script) :
    ofScript script = [script].filter (· ≠ []) := by
  unfold ofScript
  rw [List.splitOn_eq_singleton h]
  rfl

/-- **The first line** is what a reader hands out first, and the other lines are those of the rest.
A script without lines is at its end. -/
theorem first_cases (script : Bytes) :
    ofScript script = [] ∧ first script = (.ok none, []) ∨
      ∃ line rest, ofScript script = line :: ofScript rest ∧
        first script = (decode line, rest) := by
  unfold first
  cases hcut : Bytes.cutAt newline script with
  | some parts =>
    obtain ⟨line, rest⟩ := parts
    obtain ⟨rfl, hline⟩ := Bytes.cutAt_eq_some hcut
    exact Or.inr ⟨unterminated line, rest, ofScript_append hline rest, rfl⟩
  | none =>
    -- the whole script is its last part, which is a line unless it is empty
    have hscript := ofScript_of_not_mem (Bytes.cutAt_eq_none_iff.1 hcut)
    cases script with
    | nil => exact Or.inl ⟨hscript, rfl⟩
    | cons b script => exact Or.inr ⟨b :: script, [], hscript, rfl⟩

theorem first_of_nil {script : Bytes} (h : ofScript script = []) :
    first script = (.ok none, []) := by
  rcases first_cases script with ⟨-, hfirst⟩ | ⟨line, rest, hmore, -⟩
  · exact hfirst
  · rw [hmore] at h
    cases h

theorem first_of_cons {script line : Bytes} {lines : List Bytes}
    (h : ofScript script = line :: lines) :
    ∃ rest, ofScript rest = lines ∧ first script = (decode line, rest) := by
  rcases first_cases script with ⟨hnil, -⟩ | ⟨line', rest, hmore, hfirst⟩
  · rw [hnil] at h
    cases h
  · rw [hmore] at h
    obtain ⟨rfl, rfl⟩ := List.cons.inj h
    exact ⟨rest, rfl, hfirst⟩

theorem decode_encode (t : Text) : decode (Utf8.encode t) = .ok (some t) := by
  rw [decode, Utf8.decode?_encode]

theorem decode_malformed {line : Bytes} (h : ∀ t, line ≠ Utf8.encode t) :
    decode line = .error .invalidText := by
  rw [decode, Utf8.decode?_eq_none_iff.2 h]

end Lines

variable {σ : Type} {host : Host σ}

namespace LocalShell

variable {i : Interpreter}

/-! ## How lines are worked on -/

/-- Why a local shell stops. -/
inductive Stop where
  /-- No line is left. -/
  | atEnd
  /-- A line asked for it. -/
  | asked
  /-- A line is not text. -/
  | malformed
  /-- A line cannot be answered. -/
  | unsaid (failure : Failure)

/-- The result of a shell that stops with the given status. -/
def Stop.result (status : Status) : Stop → Except Failure Status
  | atEnd => .ok status
  | asked => .ok status
  | malformed => .error .invalidText
  | unsaid f => .error f

/-- So many prompts. -/
def prompts (n : Nat) : Text := (List.replicate n prompt.toList).flatten

/-- What a shell has shown that stops behind so many lines that it carried out: a prompt for each of
them and for a line that is not text, or one at the end and a newline. -/
def Stop.shown (carried : Nat) : Stop → Text
  | atEnd => prompts (carried + 1) ++ ['\n']
  | asked => prompts carried
  | malformed => prompts (carried + 1)
  | unsaid _ => prompts carried

/-- What is done about the result of a line: a rejection is reported. -/
def settle (host : Host σ) (result : LineResult) (s : Shell σ) : Shell σ :=
  match result with
  | .rejected r => report host r s
  | _ => s

/-- How a shell works on lines: the texts it carries out, one after the other, why it stops, and
what it is then. Nothing is said of the lines behind the one at which it stops. -/
inductive Works (host : Host σ) (i : Interpreter) :
    List Bytes → Shell σ → List Text → Stop → Shell σ → Prop
  | atEnd {s : Shell σ} : Works host i [] s [] .atEnd s
  | malformed {line : Bytes} {lines : List Bytes} {s : Shell σ} (h : ∀ t, line ≠ Utf8.encode t) :
    Works host i (line :: lines) s [] .malformed s
  | unsaid {line : Bytes} {lines : List Bytes} {t : Text} {s s' : Shell σ} {f : Failure}
    (ht : line = Utf8.encode t) (hunsaid : i.Unsaid host t s f)
    (hexecute : i.execute host t s = (.error f, s')) :
    Works host i (line :: lines) s [t] (.unsaid f) s'
  | asked {line : Bytes} {lines : List Bytes} {t : Text} {s s' : Shell σ}
    (ht : line = Utf8.encode t)
    (hexecute : i.execute host t s = (.ok (.builtin (.control .exitSession)), s')) :
    Works host i (line :: lines) s [t] .asked s'
  | goOn {line : Bytes} {lines : List Bytes} {t : Text} {texts : List Text} {stop : Stop}
    {s s' s'' : Shell σ} {result : LineResult} (ht : line = Utf8.encode t)
    (hexecute : i.execute host t s = (.ok result, s'))
    (hon : result ≠ .builtin (.control .exitSession))
    (more : Works host i lines (settle host result s') texts stop s'') :
    Works host i (line :: lines) s (t :: texts) stop s''

/-- Every row of lines is worked on, from every shell. -/
theorem exists_works (host : Host σ) (i : Interpreter) (lines : List Bytes) (s : Shell σ) :
    ∃ texts stop s', Works host i lines s texts stop s' := by
  induction lines generalizing s with
  | nil => exact ⟨[], .atEnd, s, .atEnd⟩
  | cons line lines ih =>
    by_cases htext : ∃ t, line = Utf8.encode t
    · obtain ⟨t, ht⟩ := htext
      cases hexecute : i.execute host t s with
      | mk result s' =>
        cases result with
        | error f =>
          have hunsaid : i.Unsaid host t s f :=
            Interpreter.execute_error_iff.1 (congrArg Prod.fst hexecute)
          exact ⟨[t], .unsaid f, s', .unsaid ht hunsaid hexecute⟩
        | ok result =>
          -- only here do the lines behind matter
          by_cases hasked : result = .builtin (.control .exitSession)
          · subst hasked
            exact ⟨[t], .asked, s', .asked ht hexecute⟩
          · obtain ⟨texts, stop, s'', hmore⟩ := ih (settle host result s')
            exact ⟨t :: texts, stop, s'', .goOn ht hexecute hasked hmore⟩
    · exact ⟨[], .malformed, s, .malformed fun t ht => htext ⟨t, ht⟩⟩

/-- The texts that are carried out are the first lines, in their order. -/
theorem Works.texts_prefix {lines : List Bytes} {s s' : Shell σ} {texts : List Text} {stop : Stop}
    (h : Works host i lines s texts stop s') : texts.map Utf8.encode <+: lines := by
  induction h with
  | atEnd => exact List.prefix_rfl
  | malformed h => exact List.nil_prefix
  | unsaid ht hunsaid hexecute =>
    subst ht
    exact ⟨_, rfl⟩
  | asked ht hexecute =>
    subst ht
    exact ⟨_, rfl⟩
  | goOn ht hexecute hon more ih =>
    subst ht
    exact List.prefix_cons_inj _ |>.2 ih

/-- What follows from a line that is text is told by what comes of it. -/
theorem Works.of_text {t : Text} {lines : List Bytes} {s s' : Shell σ} {texts : List Text}
    {stop : Stop} (h : Works host i (Utf8.encode t :: lines) s texts stop s') :
    match i.execute host t s with
    | (.error f, s₁) => (texts, stop, s') = ([t], .unsaid f, s₁)
    | (.ok result, s₁) =>
      if result = .builtin (.control .exitSession) then (texts, stop, s') = ([t], .asked, s₁)
      else ∃ more, texts = t :: more ∧ Works host i lines (settle host result s₁) more stop s' := by
  cases h with
  | malformed h => exact absurd rfl (h t)
  | unsaid ht hunsaid hexecute =>
    obtain rfl := Utf8.encode_injective ht
    rw [hexecute]
  | asked ht hexecute =>
    obtain rfl := Utf8.encode_injective ht
    rw [hexecute]
    dsimp only
    rw [if_pos rfl]
  | goOn ht hexecute hon more =>
    obtain rfl := Utf8.encode_injective ht
    rw [hexecute]
    dsimp only
    rw [if_neg hon]
    exact ⟨_, rfl, more⟩

/-- There is one way only to work on lines. -/
theorem Works.unique {lines : List Bytes} {s s₁ s₂ : Shell σ} {texts₁ texts₂ : List Text}
    {stop₁ stop₂ : Stop} (h₁ : Works host i lines s texts₁ stop₁ s₁)
    (h₂ : Works host i lines s texts₂ stop₂ s₂) :
    (texts₁, stop₁, s₁) = (texts₂, stop₂, s₂) := by
  induction lines generalizing s texts₁ texts₂ with
  | nil =>
    cases h₁
    cases h₂
    rfl
  | cons line lines ih =>
    by_cases htext : ∃ t, line = Utf8.encode t
    · obtain ⟨t, rfl⟩ := htext
      have hnext₁ := h₁.of_text
      have hnext₂ := h₂.of_text
      -- both ways carry out the same text, so they part nowhere before the next line
      generalize i.execute host t s = outcome at hnext₁ hnext₂
      obtain ⟨f | result, s'⟩ := outcome
      · exact hnext₁.trans hnext₂.symm
      · dsimp only at hnext₁ hnext₂
        by_cases hasked : result = .builtin (.control .exitSession)
        · rw [if_pos hasked] at hnext₁ hnext₂
          exact hnext₁.trans hnext₂.symm
        · rw [if_neg hasked] at hnext₁ hnext₂
          obtain ⟨more₁, rfl, hmore₁⟩ := hnext₁
          obtain ⟨more₂, rfl, hmore₂⟩ := hnext₂
          cases ih hmore₁ hmore₂
          rfl
    · -- a line that is not text leaves one constructor
      have hmalformed : ∀ {texts : List Text} {stop : Stop} {s' : Shell σ},
          Works host i (line :: lines) s texts stop s' →
            (texts, stop, s') = ([], .malformed, s) := by
        intro texts stop s' h
        cases h with
        | malformed h => rfl
        | unsaid ht _ _ => exact absurd ⟨_, ht⟩ htext
        | asked ht _ => exact absurd ⟨_, ht⟩ htext
        | goOn ht _ _ _ => exact absurd ⟨_, ht⟩ htext
      exact (hmalformed h₁).trans (hmalformed h₂).symm

/-! ## Dialogues of their own -/

/-- A dialogue has a source and a sink of its own. The source delivers what is left of a script, in
any portions and with any interruptions. The sink takes all it is offered, and has been shown the
given bytes. -/
inductive Dialogue.Attends (script shown : Bytes) : Dialogue → Prop
  | intro {held : Bytes} {source : Source} {sink : Sink}
    (hsource : Lines.Carries script { held, source }) (hopen : sink.Open)
    (hshown : sink.taken = shown) : Attends script shown { held, own := some (source, sink) }

variable {script shown : Bytes} {d : Dialogue}

theorem display_of_attends (h : d.Attends script shown) (text : Text) (shell : Shell σ) :
    ∃ d' : Dialogue, d'.Attends script (shown ++ Utf8.encode text) ∧
      State.display text ⟨shell, d⟩ = (.ok (), ⟨shell, d'⟩) := by
  obtain ⟨hsource, hopen, rfl⟩ := h
  rename_i held source sink
  obtain ⟨sink', hsend, hopen', htaken⟩ := Sink.send_open hopen [Utf8.encode text]
  rw [List.flatten_singleton] at htaken
  refine ⟨_, .intro hsource hopen' htaken, ?_⟩
  simp only [State.display, Dialogue.display, hsend]

theorem readLine_of_attends (h : d.Attends script shown) (shell : Shell σ) :
    ∃ d' : Dialogue, d'.Attends (Lines.first script).2 shown ∧
      State.readLine ⟨shell, d⟩ = ((Lines.first script).1, ⟨shell, d'⟩) := by
  obtain ⟨hsource, hopen, hshown⟩ := h
  rename_i held source sink
  obtain ⟨r, hnext, hr⟩ := Lines.next_of_carries hsource
  refine ⟨_, .intro hr hopen hshown, ?_⟩
  have hlines : Dialogue.lines ⟨held, some (source, sink)⟩ shell.terminal = { held, source } := rfl
  unfold State.readLine
  dsimp only
  rw [hlines, hnext]
  rfl

/-- **One step** shows a prompt and takes the first line off the script. What it comes to is told
from that line. -/
theorem step_of_attends (host : Host σ) (i : Interpreter) (shell : Shell σ)
    (h : d.Attends script shown) :
    ∃ d' : Dialogue, d'.Attends (Lines.first script).2 (shown ++ Utf8.encode prompt.toList) ∧
      step host i ⟨shell, d⟩ = match (Lines.first script).1 with
        | .error f => (.error f, ⟨shell, d'⟩)
        | .ok none =>
          let (result, s) := State.display ['\n'] ⟨shell, d'⟩
          (result.map fun _ => true, s)
        | .ok (some line) =>
          let (result, shell') := carryOut host i line shell
          (result, ⟨shell', d'⟩) := by
  obtain ⟨d₁, hd₁, hprompt⟩ := display_of_attends h prompt.toList shell
  obtain ⟨d₂, hd₂, hread⟩ := readLine_of_attends hd₁ shell
  refine ⟨d₂, hd₂, ?_⟩
  unfold step
  rw [hprompt]
  dsimp only
  rw [hread]
  cases (Lines.first script).1 with
  | error f => rfl
  | ok line => cases line <;> rfl

/-- Where no line is left, the shell stops behind a newline. -/
theorem step_of_nil (host : Host σ) (i : Interpreter) (shell : Shell σ)
    (hlines : Lines.ofScript script = []) (h : d.Attends script shown) :
    ∃ d' : Dialogue, d'.Attends [] (shown ++ Utf8.encode (Stop.atEnd.shown 0)) ∧
      step host i ⟨shell, d⟩ = (.ok true, ⟨shell, d'⟩) := by
  obtain ⟨d₁, hd₁, hstep⟩ := step_of_attends host i shell h
  rw [Lines.first_of_nil hlines] at hd₁ hstep
  obtain ⟨d₂, hd₂, hnewline⟩ := display_of_attends hd₁ ['\n'] shell
  refine ⟨d₂, ?_, ?_⟩
  · rw [Stop.shown, Utf8.encode_append, ← List.append_assoc]
    exact hd₂
  · rw [hstep]
    dsimp only
    rw [hnewline]
    rfl

/-- Where the next line is not text, the shell fails. -/
theorem step_of_malformed (host : Host σ) (i : Interpreter) (shell : Shell σ) {line : Bytes}
    {lines : List Bytes} (hlines : Lines.ofScript script = line :: lines)
    (hline : ∀ t, line ≠ Utf8.encode t) (h : d.Attends script shown) :
    ∃ (d' : Dialogue) (rest : Bytes),
      d'.Attends rest (shown ++ Utf8.encode (Stop.malformed.shown 0)) ∧
      step host i ⟨shell, d⟩ = (.error .invalidText, ⟨shell, d'⟩) := by
  obtain ⟨rest, -, hfirst⟩ := Lines.first_of_cons hlines
  obtain ⟨d', hd', hstep⟩ := step_of_attends host i shell h
  rw [hfirst, Lines.decode_malformed hline] at hd' hstep
  exact ⟨d', rest, hd', hstep⟩

/-- Where the next line is text, the shell carries it out, and the other lines are left. -/
theorem step_of_text (host : Host σ) (i : Interpreter) (shell : Shell σ) {line : Bytes}
    {lines : List Bytes} {t : Text} (hlines : Lines.ofScript script = line :: lines)
    (ht : line = Utf8.encode t) (h : d.Attends script shown) :
    ∃ (d' : Dialogue) (rest : Bytes), Lines.ofScript rest = lines ∧
      d'.Attends rest (shown ++ Utf8.encode prompt.toList) ∧
      step host i ⟨shell, d⟩ =
        ((carryOut host i t shell).1, ⟨(carryOut host i t shell).2, d'⟩) := by
  obtain ⟨rest, hrest, hfirst⟩ := Lines.first_of_cons hlines
  obtain ⟨d', hd', hstep⟩ := step_of_attends host i shell h
  rw [hfirst, ht, Lines.decode_encode] at hd' hstep
  exact ⟨d', rest, hrest, hd', hstep⟩

/-! ## Runs -/

theorem carryOut_of_on {line : Text} {s s' : Shell σ} {result : LineResult}
    (h : i.execute host line s = (.ok result, s'))
    (hon : result ≠ .builtin (.control .exitSession)) :
    carryOut host i line s = (.ok false, settle host result s') := by
  unfold carryOut
  rw [h]
  cases result with
  | rejected r => rfl
  | builtin d =>
    cases d with
    | control action =>
      cases action with
      | exitSession => exact absurd rfl hon
      | stopServer => rfl
    | executed => rfl
    | notBuiltin => rfl
  | pipeline outcome => rfl

theorem prompts_one : prompts 1 = prompt.toList := List.append_nil _

theorem encode_prompts_succ (n : Nat) :
    Utf8.encode (prompts (n + 1)) = Utf8.encode prompt.toList ++ Utf8.encode (prompts n) := by
  rw [prompts, List.replicate_succ, List.flatten_cons, Utf8.encode_append, prompts]

/-- Whatever the stop, one line more is one prompt more, and it is shown first. -/
theorem Stop.encode_shown_succ (stop : Stop) (n : Nat) :
    Utf8.encode (stop.shown (n + 1)) = Utf8.encode prompt.toList ++ Utf8.encode (stop.shown n) := by
  cases stop with
  | atEnd =>
    rw [shown, shown, Utf8.encode_append, Utf8.encode_append, encode_prompts_succ (n + 1),
      List.append_assoc]
  | asked => exact encode_prompts_succ n
  | malformed => exact encode_prompts_succ (n + 1)
  | unsaid f => exact encode_prompts_succ n

/-- **A run follows the work on the lines.** The induction is on how the lines are worked on, for
every script with these lines and every dialogue that attends to it. -/
theorem Works.run_eq {lines : List Bytes} {s s' : Shell σ} {texts : List Text} {stop : Stop}
    (h : Works host i lines s texts stop s') (hlines : Lines.ofScript script = lines)
    (hd : d.Attends script shown) :
    ∃ (d' : Dialogue) (rest : Bytes),
      run host i ⟨s, d⟩ = (stop.result s'.lastStatus, ⟨s', d'⟩) ∧
      d'.Attends rest (shown ++ Utf8.encode (stop.shown texts.length)) := by
  induction h generalizing script shown d with
  | @atEnd s =>
    obtain ⟨d', hd', hstep⟩ := step_of_nil host i s hlines hd
    exact ⟨d', [], run_of_over host hstep, hd'⟩
  | @malformed line lines s hline =>
    obtain ⟨d', rest, hd', hstep⟩ := step_of_malformed host i s hlines hline hd
    exact ⟨d', rest, run_of_failed host hstep, hd'⟩
  | @unsaid line lines t s s' f ht hunsaid hexecute =>
    obtain ⟨d', rest, -, hd', hstep⟩ := step_of_text host i s hlines ht hd
    have hcarry : carryOut host i t s = (.error f, s') := by
      rw [carryOut, hexecute]
    rw [hcarry] at hstep
    refine ⟨d', rest, run_of_failed host hstep, ?_⟩
    rw [← prompts_one] at hd'
    exact hd'
  | @asked line lines t s s' ht hexecute =>
    obtain ⟨d', rest, -, hd', hstep⟩ := step_of_text host i s hlines ht hd
    have hcarry : carryOut host i t s = (.ok true, s') := by
      rw [carryOut, hexecute]
    rw [hcarry] at hstep
    refine ⟨d', rest, run_of_over host hstep, ?_⟩
    rw [← prompts_one] at hd'
    exact hd'
  | @goOn line lines t texts stop s s' s'' result ht hexecute hon more ih =>
    -- the dialogue behind the step attends to the lines that are left
    obtain ⟨d₁, rest, hrest, hd₁, hstep⟩ := step_of_text host i s hlines ht hd
    rw [carryOut_of_on hexecute hon] at hstep
    obtain ⟨d', rest', hrun, hd'⟩ := ih hrest hd₁
    refine ⟨d', rest', (run_of_on host hstep).trans hrun, ?_⟩
    rw [List.length_cons, Stop.encode_shown_succ, ← List.append_assoc]
    exact hd'

/-- **A local shell runs each line once and stops where it should.** For every script and every
shell there is one way to work on the lines: texts, which are the first lines in their order, are
carried out one after the other, up to the line at which the shell stops or to the end. A shell that
reads the script goes this way, however the script is divided into reads. It ends as the work on the
lines does, with the last status or an error, and has shown one prompt for each line read. -/
theorem run_lines (host : Host σ) (i : Interpreter) (script : Bytes) (s : Shell σ) :
    ∃ texts stop s', Works host i (Lines.ofScript script) s texts stop s' ∧
      (∀ texts₁ stop₁ s₁, Works host i (Lines.ofScript script) s texts₁ stop₁ s₁ →
        (texts₁, stop₁, s₁) = (texts, stop, s')) ∧
      texts.map Utf8.encode <+: Lines.ofScript script ∧
      ∀ (shown : Bytes) (d : Dialogue), d.Attends script shown →
        ∃ (d' : Dialogue) (rest : Bytes),
          run host i ⟨s, d⟩ = (stop.result s'.lastStatus, ⟨s', d'⟩) ∧
          d'.Attends rest (shown ++ Utf8.encode (stop.shown texts.length)) := by
  obtain ⟨texts, stop, s', hworks⟩ := exists_works host i (Lines.ofScript script) s
  refine ⟨texts, stop, s', hworks, ?_, hworks.texts_prefix, ?_⟩
  · intro texts₁ stop₁ s₁ hworks₁
    exact hworks₁.unique hworks
  · intro shown d hd
    exact hworks.run_eq rfl hd

/-- A script with a line that is rejected and a line behind the one that asks for the end. -/
def brokenOff : Bytes := Utf8.encode "|\r\nexit\nrc".toList

/-- A dialogue to which the script comes in pieces, one of which ends in front of a newline. -/
def torn : Dialogue where
  own := some ([.piece (brokenOff.take 2), .fault .interrupted, .piece (brokenOff.drop 2)],
    { portions := [.bytes 1] })

/-- A shell that can report nothing. -/
def mute : Shell Unit where
  context := { directory := ['/'], status := 4 }
  world := { system := () }
  terminal := { error := some (Sink.refusing .writeZero) }

/-- The line that is rejected is passed over, and the one behind `exit` is never read. -/
theorem run_lines_brokenOff :
    torn.Attends brokenOff [] ∧
      Works Host.plain {} (Lines.ofScript brokenOff) mute ["|".toList, "exit".toList] .asked mute ∧
      ∃ (d' : Dialogue) (rest : Bytes),
        run Host.plain {} ⟨mute, torn⟩ = (.ok 4, ⟨mute, d'⟩) ∧
        d'.Attends rest (Utf8.encode "dsh4> dsh4> ".toList) := by
  have htorn : torn.Attends brokenOff [] := .intro ⟨by decide, by decide, rfl⟩ ⟨rfl, rfl⟩ rfl
  have hlines : Lines.ofScript brokenOff =
      [Utf8.encode "|".toList, Utf8.encode "exit".toList, Utf8.encode "rc".toList] := by
    decide
  have hrejected : Interpreter.execute Host.plain {} "|".toList mute =
      (.ok (.rejected (.parse .noCommands)), mute) := rfl
  have hsettled : settle Host.plain (.rejected (.parse .noCommands)) mute = mute := by
    have hsend : ((Sink.refusing .writeZero).send
        [Utf8.encode (ParseError.noCommands.message ++ ['\n'])]).2 = Sink.refusing .writeZero := by
      decide +kernel
    exact congrArg (fun sink => { mute with terminal := { error := some sink } }) hsend
  have hasks : Interpreter.Asks {} "exit".toList .exitSession :=
    ⟨by decide, [], Pipeline.parse_eq_ok_of_toOption (by decide +kernel)⟩
  have hworks : Works Host.plain {} (Lines.ofScript brokenOff) mute
      ["|".toList, "exit".toList] .asked mute := by
    rw [hlines]
    -- the report is lost, and the shell goes on as it was
    apply Works.goOn rfl hrejected (by decide)
    rw [hsettled]
    exact Works.asked rfl (Interpreter.execute_ending hasks rfl Sink.open_empty)
  obtain ⟨texts, stop, s', -, hunique, -, hrun⟩ := run_lines Host.plain {} brokenOff mute
  cases hunique _ _ _ hworks
  exact ⟨htorn, hworks, hrun [] torn htorn⟩

end LocalShell

end PipeShell
