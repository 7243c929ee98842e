import PipeShell.Proofs.Asking

/-!
# Control words are read as commands

A session honours a control word before it reads the line. The short cut makes no difference to what
the line asks for: read as a line, a control word is one command called like it, without arguments
and redirects (`ControlAction.parse_of_word`). This takes limits under which there may be one
command with a name that long. The limits of every environment are such
(`Limits.ofEnvironment_roomy`).

Main statement: where the shell can answer at all, a session that reads every request as a line
answers each as one that honours control words first, and is left in the same directory with the
same status (`Session.answerLine_eq_answer`). Only the system may have noticed the long way, on
which the shell makes its terminal ready for an answer that has no bytes.
-/

set_option autoImplicit false

namespace PipeShell

/-! ## Reading a control word -/

/-- A character that is no blank survives trimming. -/
theorem Text.mem_trim {c : Char} (hc : isBlank c = false) {t : Text} (h : c ∈ t) : c ∈ trim t := by
  have hdrop : ∀ {u : Text}, c ∈ u → c ∈ u.dropWhile isBlank := by
    intro u hu
    rw [← List.takeWhile_append_dropWhile (p := isBlank) (l := u), List.mem_append] at hu
    rcases hu with hu | hu
    · -- all characters in front are blank
      rw [List.all_eq_true.1 List.all_takeWhile c hu] at hc
      cases hc
    · exact hu
  unfold trim trimEnd trimStart
  rw [List.mem_reverse]
  exact hdrop (List.mem_reverse.2 (hdrop h))

/-- The limits leave room for one command that is called like a control word. -/
structure Limits.Roomy (limits : Limits) : Prop where
  commands : 1 ≤ limits.commands
  programLength : stopServerWord.length ≤ limits.programLength

/-- A number from the environment is positive. -/
theorem Environment.positive?_pos {env : Environment} {name : String} {n : Nat}
    (h : env.positive? name = some n) : 0 < n := by
  obtain ⟨-, hpos⟩ := Option.filter_eq_some_iff.1 h
  exact of_decide_eq_true hpos

/-- Whatever the environment says, its limits leave that room, and requests may hold bytes. -/
theorem Limits.ofEnvironment_roomy (env : Environment) :
    (ofEnvironment env).Roomy ∧ 0 < (ofEnvironment env).requestLength := by
  have hpos : ∀ (name : String) {default : Nat}, 0 < default →
      0 < (env.positive? name).getD default := by
    intro name default hdefault
    cases h : env.positive? name with
    | none => exact hdefault
    | some n => exact Environment.positive?_pos h
  have hlength : stopServerWord.length ≤ 64 := by decide
  exact ⟨⟨hpos _ (by decide), hlength⟩, hpos _ (by decide)⟩

namespace ControlAction

theorem trim_of_word {line : Text} {action : ControlAction} (h : ofWord? line = some action) :
    Text.trim line = action.word.toList := by
  unfold ofWord? at h
  dsimp only at h
  split at h
  · cases h
    assumption
  · split at h
    · cases h
      assumption
    · cases h

/-- The word for an action is one token. -/
theorem scan_word (action : ControlAction) :
    Token.scan action.word.toList = [.word action.word.toList] := by
  cases action with
  | exitSession => simp +decide [word, exitWord, Token.scan, Token.next]
  | stopServer => simp +decide [word, stopServerWord, Token.scan, Token.next]

theorem parse_word {limits : Limits} (h : limits.Roomy) (action : ControlAction) :
    Command.parse limits action.word.toList = .ok (action.command []) := by
  have hlength : Utf8.length action.word.toList ≤ stopServerWord.length := by
    cases action <;> decide
  have hroom : ¬ limits.programLength < Utf8.length action.word.toList :=
    Nat.not_lt.2 (Nat.le_trans hlength h.programLength)
  have hempty : action.word.toList.isEmpty = false := by cases action <;> rfl
  have hname : Command.Draft.addText limits {} action.word.toList =
      .ok { name := some action.word.toList } := by
    simp only [Command.Draft.addText, hempty, Bool.false_eq_true, if_false, if_neg hroom]
  rw [Command.parse, scan_word]
  show (Command.Draft.addText limits {} action.word.toList >>= fun draft =>
    Command.ofTokensFrom limits draft []) = _
  rw [hname]
  rfl

/-- **A control word is read as its command**, without arguments and redirects. -/
theorem parse_of_word {limits : Limits} (h : limits.Roomy) {line : Text} {action : ControlAction}
    (hword : ofWord? line = some action) :
    Pipeline.parse limits line = .ok [action.command []] := by
  have htrim := trim_of_word hword
  have hseparator : Pipeline.separator ∉ line := by
    intro hmem
    have hmem' := Text.mem_trim (by decide) hmem
    rw [htrim] at hmem'
    cases action with
    | exitSession => exact absurd hmem' (by decide)
    | stopServer => exact absurd hmem' (by decide)
  have hsegments : Pipeline.segments line = [action.word.toList] := by
    rw [Pipeline.segments_of_not_mem hseparator, htrim]
    cases action <;> rfl
  have hfew : ¬ limits.commands < 1 := Nat.not_lt.2 h.commands
  rw [Pipeline.parse, hsegments]
  simp only [List.length_singleton, if_neg hfew, List.mapM_cons, parse_word h, List.mapM_nil]
  rfl

end ControlAction

/-! ## The long way round -/

/-- A shell is where it was if its system has not moved. -/
theorem Shell.directory_withSystem {σ : Type} {host : Host σ} {s : Shell σ} {system : σ}
    (h : host.currentDirectory system = host.currentDirectory s.world.system) :
    (s.withSystem system).directory host = s.directory host := by
  simp only [directory, Context.currentDirectory, withSystem, h]

namespace Session

variable {σ : Type} {host : Host σ} {i : Interpreter}

/-- Sending concerns the terminal, in whatever state the system is. -/
theorem finish_withSystem (action : ControlAction) (s : Shell σ) (system : σ) :
    finish action (s.withSystem system) =
      ((finish action s).1, (finish action s).2.withSystem system) := by
  have hsend : send (Wire.sendResponse action.farewell.toList) (s.withSystem system) =
      ((send (Wire.sendResponse action.farewell.toList) s).1,
        (send (Wire.sendResponse action.farewell.toList) s).2.withSystem system) := rfl
  unfold finish
  rw [hsend]
  rcases send (Wire.sendResponse action.farewell.toList) s with ⟨f | _, s'⟩ <;> rfl

theorem finish_world (action : ControlAction) (s : Shell σ) :
    (finish action s).2.world = s.world := by
  have hsend : (send (Wire.sendResponse action.farewell.toList) s).2.world = s.world := rfl
  unfold finish
  split <;> rename_i h <;> rwa [h] at hsend

/-- A control word that is read as a line ends the session as it does at once. -/
theorem answerLine_of_word (hlimits : i.limits.Roomy) (hoffered : i.offered = .forClients)
    {line : Text} {action : ControlAction} (hword : ControlAction.ofWord? line = some action)
    {s : Shell σ} (hattach : (host.attach .output s.world.system).1 = .ok ())
    (ho : s.terminal.output.Open) :
    answerLine host i line s = ((finish action s).1,
      (finish action s).2.withSystem (host.attach .output s.world.system).2) := by
  have hasks : i.Asks line action := by
    refine ⟨?_, [], ControlAction.parse_of_word hlimits hword⟩
    rw [hoffered]
    cases action <;> decide
  rw [answerLine, Interpreter.execute_ending hasks hattach ho]
  exact finish_withSystem action s _

/-- **The short cut makes no difference.** A request that is read as a line, whatever it holds, is
answered with the same bytes and the same end as one in which control words are honoured first. The
shell is left as it would be, up to the state of the system, with the same directory and status. The
limits may be those of any environment. -/
theorem answerLine_eq_answer (hlimits : i.limits.Roomy) (hoffered : i.offered = .forClients)
    (request : Text) {s : Shell σ} (hattach : (host.attach .output s.world.system).1 = .ok ())
    (hplace : host.currentDirectory (host.attach .output s.world.system).2 =
      host.currentDirectory s.world.system)
    (ho : s.terminal.output.Open) :
    let (result, shell) := answer host i request s
    let (result', shell') := answerLine host i (Wire.stripNewline request) s
    (result' = result ∧ shell' = shell.withSystem shell'.world.system ∧
        shell'.directory host = shell.directory host ∧ shell'.lastStatus = shell.lastStatus) ∧
      ∀ env, (Limits.ofEnvironment env).Roomy := by
  unfold answer
  dsimp only
  refine ⟨?_, fun env => (Limits.ofEnvironment_roomy env).1⟩
  cases hword : ControlAction.ofWord? (Wire.stripNewline request) with
  | none => exact ⟨rfl, rfl, rfl, rfl⟩
  | some action =>
    rw [answerLine_of_word hlimits hoffered hword hattach ho]
    refine ⟨rfl, rfl, ?_, rfl⟩
    apply Shell.directory_withSystem
    rw [finish_world]
    exact hplace

/-- A shell that shares its directory and status, on a terminal that takes four bytes at first. -/
def sharing : Shell Unit where
  context := { scope := .process, directory := ['/'] }
  world := { system := (), sharedStatus := 3 }
  terminal := { output := { portions := [.bytes 4] } }

/-- The limits and built-ins of a server in an empty environment. -/
def bare : Interpreter := { limits := Limits.ofEnvironment [], offered := .forClients }

/-- A control word with blanks and a newline around it. -/
def farewellLine : Text := "\t stop-server \r\n".toList

/-- Such a word comes to the same end either way. -/
theorem answerLine_farewellLine :
    bare.limits.Roomy ∧ sharing.terminal.output.Open ∧
      let (result, shell) := answerLine Host.plain bare (Wire.stripNewline farewellLine) sharing
      result = .ok (some .stopServer) ∧ shell.directory Host.plain = ['/'] ∧
        shell.lastStatus = 3 := by
  have hlimits : bare.limits.Roomy := (Limits.ofEnvironment_roomy []).1
  have hs : sharing.terminal.Connected := ⟨rfl, rfl, rfl⟩
  have hword : ControlAction.ofWord? (Wire.stripNewline farewellLine) = some .stopServer := by
    decide
  obtain ⟨sink, hfinish, -⟩ := finish_connected .stopServer hs
  have hanswer : answer Host.plain bare farewellLine sharing =
      (.ok (some .stopServer),
        { sharing with terminal := { sharing.terminal with output := sink } }) := by
    simp only [answer, hword, hfinish]
    rfl
  have hattach : Host.plain.attach .output sharing.world.system = (.ok (), ()) := rfl
  have hsame := answerLine_eq_answer hlimits rfl farewellLine (congrArg Prod.fst hattach) rfl
    hs.output_open
  rw [hanswer] at hsame
  exact ⟨hlimits, hs.output_open, hsame.1.1, hsame.1.2.2.1, hsame.1.2.2.2⟩

end Session

end PipeShell
