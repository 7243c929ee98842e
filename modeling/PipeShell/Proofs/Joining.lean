import PipeShell.Proofs.WellFormed

/-!
# Lines joined by a separator

A separator between two lines puts their segments side by side, and each segment is read on its own.
So what is read from the joined line is told by what is read from each of the two
(`Pipeline.beside`): the commands of the first and then those of the second, or the first error
there is. Only the number of commands is a matter of both lines together. A line without commands
adds nothing, and is told apart from all others because no segment is read as such a line
(`Pipeline.readSegments_error`).

Main statement: two lines joined by a separator are too many commands together, or are read as the
two are beside each other; blanks around a line change nothing (`Pipeline.parse_join`).
-/

set_option autoImplicit false

namespace PipeShell

/-! ## Errors of a segment -/

/-- The errors that one command can have. The others are about a line as a whole. -/
inductive ParseError.OfCommand : ParseError → Prop
  | tooBig : OfCommand .tooBig
  | missingPath (op : RedirectOp) : OfCommand (.missingPath op)
  | missingName : OfCommand .missingName

namespace Command

variable {limits : Limits} {e : ParseError}

/-- An error behind a reading is an error of that reading or of what follows it. -/
theorem bind_eq_error {α β : Type} {x : Except ParseError α} {f : α → Except ParseError β}
    (h : (x >>= f) = .error e) : x = .error e ∨ ∃ a, f a = .error e := by
  cases x with
  | ok a => exact Or.inr ⟨a, h⟩
  | error e' =>
    cases h
    exact Or.inl rfl

theorem Draft.addText_error {draft : Draft} {t : Text}
    (h : draft.addText limits t = .error e) : e.OfCommand := by
  unfold addText at h
  split at h
  · cases h
  · split at h
    · split at h
      · cases h
        exact .tooBig
      · cases h
    · split at h
      · cases h
        exact .tooBig
      · cases h

theorem path_error {op : RedirectOp} {token : Token} (h : path limits op token = .error e) :
    e.OfCommand := by
  unfold path at h
  split at h
  · cases h
    exact .missingPath op
  · cases h
    exact .missingPath op
  · split at h
    · cases h
      exact .tooBig
    · cases h

theorem Draft.finish_error {draft : Draft} (h : draft.finish = .error e) : e.OfCommand := by
  unfold finish at h
  split at h
  · cases h
    exact .missingName
  · cases h

/-- Whatever is wrong with a command is wrong with one of its tokens, or it has no name. -/
theorem ofTokensFrom_error {draft : Draft} {tokens : List Token}
    (h : ofTokensFrom limits draft tokens = .error e) : e.OfCommand := by
  fun_induction ofTokensFrom limits draft tokens with
  | case1 draft => exact Draft.finish_error h
  | case2 draft op =>
    cases h
    exact .missingPath op
  | case3 draft op token rest ih =>
    rcases bind_eq_error h with h | ⟨t, h⟩
    · exact path_error h
    · exact ih t h
  | case4 draft t rest ih =>
    rcases bind_eq_error h with h | ⟨draft', h⟩
    · exact Draft.addText_error h
    · exact ih draft' h
  | case5 draft t rest ih =>
    rcases bind_eq_error h with h | ⟨draft', h⟩
    · exact Draft.addText_error h
    · exact ih draft' h

end Command

namespace Pipeline

variable {limits : Limits}

/-! ## Blanks around a line -/

/-- A blank behind a line makes no difference to its segments. The induction is on the separators
of the line: the blank stands in its last part. -/
theorem segments_concat {c : Char} (hc : Text.isBlank c = true) (line : Text) :
    segments (line ++ [c]) = segments line := by
  have hne : separator ≠ c := by
    rintro rfl
    exact absurd hc (by decide)
  induction hn : line.length using Nat.strongRecOn generalizing line with
  | _ n ih =>
    by_cases hmem : separator ∈ line
    · obtain ⟨a, b, rfl⟩ := List.append_of_mem hmem
      have hlt : b.length < n := by
        rw [← hn, List.length_append, List.length_cons]
        omega
      rw [List.append_assoc, List.cons_append, segments_append, segments_append, ih _ hlt b rfl]
    · have hmem' : separator ∉ line ++ [c] := by
        rw [List.mem_append, List.mem_singleton, not_or]
        exact ⟨hmem, hne⟩
      rw [segments_of_not_mem hmem', segments_of_not_mem hmem, Text.trim_concat hc]

/-- Blanks around a line make no difference to its segments. -/
theorem segments_surround {front behind : Text} (hf : front.all Text.isBlank = true)
    (hb : behind.all Text.isBlank = true) (line : Text) :
    segments (front ++ line ++ behind) = segments line :=
  Text.eq_of_surround (fun _ hc t => segments_cons hc t) (fun _ hc t => segments_concat hc t) hf hb
    line

/-! ## Two lines -/

/-- How many parts of a line are not blank. -/
def commandCount (line : Text) : Nat :=
  (line.splitOn separator).countP fun part => !part.all Text.isBlank

/-- What is read from two lines beside each other. A line without commands counts for nothing.
Otherwise the commands of both stand side by side, or the first error stands. -/
def beside (first second : Except ParseError Pipeline) : Except ParseError Pipeline :=
  match first, second with
  | .error .noCommands, _ => second
  | _, .error .noCommands => first
  | _, _ => do return (← first) ++ (← second)

theorem beside_noCommands (first : Except ParseError Pipeline) :
    beside first (.error .noCommands) = first := by
  cases first with
  | ok pipeline => rfl
  | error e => cases e <;> rfl

/-- Two lines that are not without commands are read one after the other. -/
theorem beside_of_ne {first second : Except ParseError Pipeline}
    (hfirst : first ≠ .error .noCommands) (hsecond : second ≠ .error .noCommands) :
    beside first second = do return (← first) ++ (← second) := by
  unfold beside
  split
  · exact absurd rfl hfirst
  · exact absurd rfl hsecond
  · rfl

/-- What is read from segments, however many they are. -/
def readSegments (limits : Limits) (parts : List Text) : Except ParseError Pipeline :=
  match parts with
  | [] => .error .noCommands
  | parts => parts.mapM (Command.parse limits)

/-- Where there are segments, an error is one of theirs. -/
theorem readSegments_error {parts : List Text} {e : ParseError} (hne : parts ≠ [])
    (h : readSegments limits parts = .error e) : e.OfCommand := by
  have hmapM : ∀ {parts : List Text},
      parts.mapM (Command.parse limits) = .error e → e.OfCommand := by
    intro parts h
    induction parts with
    | nil => cases h
    | cons part parts ih =>
      rw [List.mapM_cons] at h
      rcases Command.bind_eq_error h with h | ⟨command, h⟩
      · exact Command.ofTokensFrom_error h
      · rcases Command.bind_eq_error h with h | ⟨commands, h⟩
        · exact ih h
        · cases h
  cases parts with
  | nil => exact absurd rfl hne
  | cons part parts => exact hmapM h

/-- Only no segments at all are no commands. -/
theorem readSegments_ne_noCommands {parts : List Text} (hne : parts ≠ []) :
    readSegments limits parts ≠ .error .noCommands := by
  intro h
  cases readSegments_error hne h

/-- **Segments side by side** are read as the first ones beside the others. -/
theorem readSegments_append (parts others : List Text) :
    readSegments limits (parts ++ others) =
      beside (readSegments limits parts) (readSegments limits others) := by
  cases parts with
  | nil => rfl
  | cons part parts =>
    cases others with
    | nil =>
      rw [List.append_nil]
      exact (beside_noCommands _).symm
    | cons other others =>
      rw [beside_of_ne (readSegments_ne_noCommands (List.cons_ne_nil part parts))
        (readSegments_ne_noCommands (List.cons_ne_nil other others))]
      exact List.mapM_append

/-- The number of commands is checked first, and nothing else depends on it. -/
theorem parse_eq_readSegments (line : Text) : parse limits line =
    if limits.commands < commandCount line then .error (.tooManyCommands limits.commands)
    else readSegments limits (segments line) := by
  rw [commandCount, ← length_segments]
  unfold parse
  cases segments line with
  | nil => rfl
  | cons part parts => rfl

/-- A line is refused as too many commands exactly if it has more of them than the limits allow. -/
theorem parse_tooMany_iff {line : Text} {max : Nat} :
    parse limits line = .error (.tooManyCommands max) ↔
      limits.commands < commandCount line ∧ max = limits.commands := by
  rw [parse_eq_readSegments]
  constructor
  · intro h
    split at h
    · rename_i hmany
      cases h
      exact ⟨hmany, rfl⟩
    · -- no segment is read as too many commands, nor are no segments
      exfalso
      by_cases hparts : segments line = []
      · rw [hparts] at h
        cases h
      · cases readSegments_error hparts h
  · rintro ⟨hmany, rfl⟩
    exact if_pos hmany

theorem commandCount_append (a b : Text) :
    commandCount (a ++ separator :: b) = commandCount a + commandCount b := by
  simp only [commandCount, ← length_segments, segments_append, List.length_append]

/-- **A separator joins lines as joining does pipelines.** Two lines with a separator between them
are too many commands together, or they are read as the two are beside each other. Blanks around a
line change nothing. -/
theorem parse_join (limits : Limits) :
    (∀ a b : Text, parse limits (a ++ separator :: b) =
      if limits.commands < commandCount a + commandCount b then
        .error (.tooManyCommands limits.commands)
      else beside (parse limits a) (parse limits b)) ∧
    ∀ front behind : Text, front.all Text.isBlank = true → behind.all Text.isBlank = true →
      ∀ line, parse limits (front ++ line ++ behind) = parse limits line := by
  constructor
  · intro a b
    rw [parse_eq_readSegments, commandCount_append, segments_append, readSegments_append]
    by_cases hmany : limits.commands < commandCount a + commandCount b
    · rw [if_pos hmany, if_pos hmany]
    · -- neither line has too many commands of its own
      have ha : ¬ limits.commands < commandCount a := by omega
      have hb : ¬ limits.commands < commandCount b := by omega
      rw [if_neg hmany, if_neg hmany, parse_eq_readSegments a, parse_eq_readSegments b, if_neg ha,
        if_neg hb]
  · intro front behind hfront hbehind line
    unfold parse
    rw [segments_surround hfront hbehind]

/-- A line whose quote is still open at its end, and a line that would close it. -/
def openQuote : Text × Text := ("echo \"a ".toList, "b\" c".toList)

/-- A quote left open in one line does not reach the next: what looks like a separator inside quotes
separates, also with blanks around the joined line. -/
theorem parse_join_openQuote :
    [' '].all Text.isBlank = true ∧
      parse {} ([' '] ++ (openQuote.1 ++ separator :: openQuote.2) ++ [' ']) =
        .ok [{ name := "echo".toList, args := ["a".toList] },
          { name := "b\"".toList, args := ["c".toList] }] := by
  have hblank : [' '].all Text.isBlank = true := by decide
  have hfirst : parse {} openQuote.1 = .ok [{ name := "echo".toList, args := ["a".toList] }] :=
    parse_eq_ok_of_toOption (by decide +kernel)
  have hsecond : parse {} openQuote.2 = .ok [{ name := "b\"".toList, args := ["c".toList] }] :=
    parse_eq_ok_of_toOption (by decide +kernel)
  obtain ⟨hjoin, hsurround⟩ := parse_join {}
  refine ⟨hblank, ?_⟩
  rw [hsurround _ _ hblank hblank, hjoin, hfirst, hsecond, if_neg (by decide)]
  rfl

end Pipeline

end PipeShell
