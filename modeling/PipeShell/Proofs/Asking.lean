import PipeShell.Proofs.Exchanges
import PipeShell.Proofs.Segments

/-!
# Lines that ask for the end

A client asks for the end of its session in one of two ways. A control word, which is the whole line
up to blanks, is honoured before the line is read. Any other line asks for the end only if it is
read as one command without redirects whose name is the word (`Session.CarriesOut.asks`). That
leaves much room: the word may be quoted, arguments may follow it, and there may be empty commands
around it. Where the system lets the shell answer at all, every such line does ask for the end
(`Session.CarriesOut.action?_of_asks`).

One newline at the end of a request is no part of the line, and makes no difference to what is a
control word (`ControlAction.ofWord?_stripNewline`).
-/

set_option autoImplicit false

namespace PipeShell

/-! ## Words and blanks -/

theorem Wire.trim_dropLast {c : Char} (hc : Text.isBlank c = true) (t : Text) :
    Text.trim (Wire.stripNewline.dropLast c t) = Text.trim t := by
  unfold Wire.stripNewline.dropLast
  split
  · rename_i h
    obtain ⟨front, rfl⟩ := List.getLast?_eq_some_iff.1 h
    rw [List.dropLast_concat, Text.trim_concat hc]
  · rfl

/-- A line is a control word with its newline exactly if it is one without. -/
theorem ControlAction.ofWord?_stripNewline (line : Text) :
    ControlAction.ofWord? (Wire.stripNewline line) = ControlAction.ofWord? line := by
  unfold ControlAction.ofWord? Wire.stripNewline
  rw [Wire.trim_dropLast (by decide), Wire.trim_dropLast (by decide)]

/-- The word for a control action. -/
def ControlAction.word : ControlAction → String
  | exitSession => exitWord
  | stopServer => stopServerWord

/-- The built-in that asks for a control action. -/
def ControlAction.builtin : ControlAction → Builtin
  | exitSession => .exit
  | stopServer => .stopServer

/-- The one command that asks for a control action. Its arguments do not matter. -/
def ControlAction.command (action : ControlAction) (args : List Text) : Command :=
  { name := action.word.toList, args }

/-- The line is read as a command for an action that is on offer. -/
def Interpreter.Asks (i : Interpreter) (line : Text) (action : ControlAction) : Prop :=
  i.offered.find? action.word.toList = some action.builtin ∧
    ∃ args, Pipeline.parse i.limits line = .ok [action.command args]

/-- The shell can always have the output of its terminal. -/
def Host.Attaches {σ : Type} (host : Host σ) : Prop :=
  ∀ system, (host.attach .output system).1 = .ok ()

variable {σ : Type} {host : Host σ} {i : Interpreter}

/-! ## The built-ins that ask -/

/-- Each action is asked for by one built-in. -/
theorem Builtin.eq_of_act_control {b : Builtin} {args : List Text} {c : Context} {world : World σ}
    {action : ControlAction} (h : (b.act host args c world).dispatch = .control action) :
    b = action.builtin := by
  cases b with
  | exit => cases h; rfl
  | stopServer => cases h; rfl
  | cd =>
    unfold act changeDirectory at h
    dsimp only at h
    split at h
    · cases h
    · split at h <;> cases h
  | dragon => cases h
  | rc => cases h

/-- What is found under a name is called by it. -/
theorem BuiltinSet.name_of_find? {offered : BuiltinSet} {name : Text} {b : Builtin}
    (h : offered.find? name = some b) : b.name.toList = name := by
  have hmatch := List.find?_some h
  rwa [beq_iff_eq] at hmatch

theorem ControlAction.name_builtin (action : ControlAction) :
    action.builtin.name = action.word := by
  cases action <;> rfl

/-- A command without redirects is its name and its arguments. -/
theorem Command.eq_of_not_hasRedirects {command : Command} (h : ¬ command.hasRedirects = true) :
    command = { name := command.name, args := command.args } := by
  obtain ⟨name, args, input, output⟩ := command
  cases input with
  | some path => exact absurd rfl h
  | none =>
    cases output with
    | some file => exact absurd rfl h
    | none => rfl

/-- Only a command without redirects that is called like the action asks for it. -/
theorem dispatch_control {offered : BuiltinSet} {pipeline : Pipeline} {c : Context}
    {world : World σ} {out : Sink} {action : ControlAction}
    (h : (dispatch host offered pipeline c world out).1 = .ok (.control action)) :
    offered.find? action.word.toList = some action.builtin ∧
      ∃ args, pipeline = [action.command args] := by
  unfold dispatch at h
  split at h
  · cases h
  · rename_i command hsingle
    split at h
    · cases h
    · rename_i b hfind
      split at h
      · cases h
      · rename_i hredirects
        have hact : (b.act host command.args c world).dispatch = .control action := by
          dsimp only at h
          split at h
          · cases h
          · exact Except.ok.inj h
        obtain rfl := Builtin.eq_of_act_control hact
        have hname : command.name = action.word.toList := by
          rw [← BuiltinSet.name_of_find? hfind, action.name_builtin]
        refine ⟨hname ▸ hfind, command.args, ?_⟩
        rw [Pipeline.single?_eq_some.1 hsingle, Command.eq_of_not_hasRedirects hredirects,
          ControlAction.command, hname]

/-- Nothing is sent without bytes. -/
theorem Sink.send_nothing {s : Sink} (hs : s.Open) : s.send [[]] = (.ok (), s) := by
  simp only [send, deliverEach, deliver]
  exact flush_open hs

/-- A command that is called like an action on offer asks for it, and does nothing else. -/
theorem dispatch_command {offered : BuiltinSet} {action : ControlAction}
    (hoffered : offered.find? action.word.toList = some action.builtin) (args : List Text)
    (c : Context) (world : World σ) {out : Sink} (ho : out.Open) :
    dispatch host offered [action.command args] c world out =
      (.ok (.control action), c, world, out) := by
  have hsend : out.send [Utf8.encode []] = (.ok (), out) := Sink.send_nothing ho
  have hact : action.builtin.act host args c world =
      { dispatch := .control action, context := c, world } := by
    cases action <;> rfl
  simp only [dispatch, Pipeline.single?, ControlAction.command, hoffered, Command.hasRedirects,
    Option.isSome_none, Bool.or_self, Bool.false_eq_true, if_false, hact, hsend]

namespace Interpreter

theorem runPipeline_ne_builtin (pipeline : Pipeline) (s : Shell σ) (d : Dispatch) :
    (runPipeline host pipeline s).1 ≠ .builtin d := by
  unfold runPipeline
  split <;> exact fun h => nomatch h

/-- A line that has asked for the end was read as a command that does. -/
theorem execute_asks {line : Text} {s s' : Shell σ} {action : ControlAction}
    (h : i.execute host line s = (.ok (.builtin (.control action)), s')) :
    i.Asks line action := by
  unfold execute at h
  split at h
  · cases h
  · rename_i pipeline hparse
    unfold perform at h
    split at h
    · cases h
    · rename_i system _
      split at h
      · cases h
      · cases h
      · have hrun := congrArg Prod.fst h
        exact absurd (Except.ok.inj hrun) (runPipeline_ne_builtin _ _ _)
      · rename_i done _ _ hd
        cases h
        obtain ⟨hoffered, args, rfl⟩ := dispatch_control (congrArg Prod.fst hd)
        exact ⟨hoffered, args, hparse⟩

/-- Where the shell can answer, a line that is read as such a command asks for the end, and leaves
the shell as it was. -/
theorem execute_ending {line : Text} {action : ControlAction} (hasks : i.Asks line action)
    {s : Shell σ} (hattach : (host.attach .output s.world.system).1 = .ok ())
    (ho : s.terminal.output.Open) :
    i.execute host line s = (.ok (.builtin (.control action)),
      s.withSystem (host.attach .output s.world.system).2) := by
  obtain ⟨hoffered, args, hparse⟩ := hasks
  unfold execute
  rw [hparse]
  dsimp only
  unfold perform
  split
  · rename_i f system ha
    rw [ha] at hattach
    cases hattach
  · rename_i system ha
    have ho' : (s.withSystem system).terminal.output.Open := ho
    have hd : i.tryBuiltin host [action.command args] (s.withSystem system) =
        (.ok (.control action), s.withSystem system) := by
      rw [tryBuiltin, dispatch_command hoffered args _ _ ho']
    rw [ha, hd]

end Interpreter

/-- **What asks for the end** is a control word, or a line that is read as one command called like
it. -/
theorem Session.CarriesOut.asks {request : Text} {s s' : Shell σ} {result : LineResult}
    {action : ControlAction} (h : Session.CarriesOut host i request s result s')
    (ha : result.action? = some action) :
    ControlAction.ofWord? request = some action ∨
      i.Asks (Wire.stripNewline request) action := by
  cases h with
  | word hword =>
    rw [ControlAction.ofWord?_stripNewline] at hword
    cases ha
    exact Or.inl hword
  | line hword he =>
    right
    cases result with
    | builtin d =>
      cases d with
      | control action' =>
        cases ha
        exact Interpreter.execute_asks he
      | _ => cases ha
    | _ => cases ha

/-- Where the shell can answer, every such line asks for the end. -/
theorem Session.CarriesOut.action?_of_asks {request : Text} {s s' : Shell σ} {result : LineResult}
    {action : ControlAction} (h : Session.CarriesOut host i request s result s')
    (hw : ControlAction.ofWord? request = none) (hasks : i.Asks (Wire.stripNewline request) action)
    (hattach : host.Attaches) (ho : s.terminal.output.Open) : result.action? = some action := by
  cases h with
  | word hword =>
    rw [ControlAction.ofWord?_stripNewline, hw] at hword
    cases hword
  | line hword he =>
    have hend := congrArg Prod.fst (Interpreter.execute_ending hasks (hattach _) ho)
    rw [he] at hend
    rw [Except.ok.inj hend]
    rfl

/-- A line that has not asked for the end is no control word. -/
theorem Session.CarriesOut.ofWord?_eq_none {request : Text} {s s' : Shell σ} {result : LineResult}
    (h : Session.CarriesOut host i request s result s') (ha : result.action? = none) :
    ControlAction.ofWord? request = none := by
  cases hw : ControlAction.ofWord? request with
  | none => rfl
  | some action =>
    rw [← ControlAction.ofWord?_stripNewline] at hw
    rw [h.action?_of_word hw] at ha
    cases ha

end PipeShell
