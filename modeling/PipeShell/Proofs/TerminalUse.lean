import PipeShell.Proofs.Responses
import PipeShell.Proofs.Wording

/-!
# What carrying out a line does to the terminal

A line acts on its terminal in three ways only: the shell says something, it reports something on
the error channel, and a program that was waited for has used input and written output. A relation
between terminals that allows these three, and steps in a row, therefore holds between the terminal
before and after any line (`Terminal.Allows`, `Interpreter.execute_allows`). What the shell says may
be assumed to consist of characters of the line and of plain characters.

A line is a failure of the shell only if a built-in's answer is not taken
(`Interpreter.execute_error_iff`).

Two relations are used later. On a connection without faults, whose one sink is open, a line adds
bytes of a class to what was taken, if the programs write only such bytes (`Terminal.Adds`); and if
no program reads its standard input, a line leaves the input as it is (`execute_input`).
-/

set_option autoImplicit false

namespace PipeShell

open Text

variable {σ : Type} {host : Host σ} {p : Char → Prop} {R : Terminal → Terminal → Prop}

/-- The relation allows what a line may do to a terminal, the shell's own texts being of the given
class. -/
structure Terminal.Allows (host : Host σ) (p : Char → Prop) (R : Terminal → Terminal → Prop) :
    Prop where
  ample : Ample p
  refl : ∀ t, R t t
  trans : ∀ {t u v}, R t u → R u v → R t v
  say : ∀ t text, Text.Over p text →
    R t { t with output := (t.output.send [Utf8.encode text]).2 }
  report : ∀ t text, Text.Over p text → R t (t.report .error text)
  undergo : ∀ t process system, R t (t.undergo (host.await process t system).2.1)

/-! ## One stage -/

namespace Command

variable {command : Command}

theorem openInlet_over (hp : Ample p) (h : command.Over p) {directory : Text}
    {upstream : Option Handle} {system : σ} {e : StageFault}
    (he : (openInlet host directory command upstream system).1 = .error e) :
    Text.Over p e.message := by
  unfold openInlet at he
  split at he
  · rename_i path hi
    split at he
    · cases he
      exact StageFault.redirect_message_over hp (h.input path hi) _
    · cases he
  · cases he
  · split at he
    · cases he
      exact StageFault.streams_message_over hp _
    · cases he

theorem openOutlet_over (hp : Ample p) (h : command.Over p) {directory : Text}
    {downstream : Option Handle} {system : σ} {e : StageFault}
    (he : (openOutlet host directory command downstream system).1 = .error e) :
    Text.Over p e.message := by
  unfold openOutlet at he
  split at he
  · rename_i file ho
    split at he
    · cases he
      exact StageFault.redirect_message_over hp (h.output file ho) _
    · cases he
  · cases he
  · split at he
    · cases he
      exact StageFault.streams_message_over hp _
    · cases he

theorem launch_over (hp : Ample p) (h : command.Over p) {directory : Text} {input : Inlet}
    {output : Outlet} {system : σ} {e : StageFault}
    (he : (launch host directory command input output system).1 = .error e) :
    Text.Over p e.message := by
  unfold launch at he
  split at he
  · cases he
    exact StageFault.streams_message_over hp _
  · dsimp only at he
    split at he
    · cases he
      exact StageFault.start_message_over hp h.name _
    · cases he

/-- A stage that cannot be set up is reported with texts of its command. -/
theorem setUp_over (hp : Ample p) (h : command.Over p) {directory : Text} {ends : StageEnds}
    {system : σ} {e : StageFault} (he : (setUp host directory command ends system).1 = .error e) :
    Text.Over p e.message := by
  unfold setUp at he
  -- the inlet fails, or else the outlet, or else the launch
  split at he
  · rename_i e' _ hi
    cases he
    exact openInlet_over hp h (congrArg Prod.fst hi)
  · split at he
    · rename_i e' _ ho
      cases he
      exact openOutlet_over hp h (congrArg Prod.fst ho)
    · exact launch_over hp h he

end Command

/-! ## Pipelines -/

namespace Pipeline

theorem reportFault_allows (hR : Terminal.Allows host p R) {fault : StageFault}
    (h : Text.Over p fault.message) (s : Shell σ) :
    R s.terminal (reportFault host fault s).terminal := by
  unfold reportFault
  split
  · exact hR.refl _
  · exact hR.report _ _ h

theorem setUpStage_allows (hR : Terminal.Allows host p R) {command : Command}
    (h : command.Over p) (directory : Text) (ends : StageEnds) (s : Shell σ) :
    R s.terminal (setUpStage host directory command ends s).2.terminal := by
  unfold setUpStage
  split
  · exact hR.refl _
  · rename_i e system he
    exact reportFault_allows hR (Command.setUp_over hR.ample h (congrArg Prod.fst he))
      (s.withSystem system)

theorem setUpStages_allows (hR : Terminal.Allows host p R) {commands : Pipeline}
    (h : ∀ command ∈ commands, Command.Over p command) (directory : Text)
    (upstream : Option Handle) (pipes : List Pipe) (s : Shell σ) :
    R s.terminal (setUpStages host directory commands upstream pipes s).2.terminal := by
  induction commands generalizing upstream pipes s with
  | nil => exact hR.refl _
  | cons command rest ih =>
    obtain ⟨hc, hrest⟩ := List.forall_mem_cons.1 h
    exact hR.trans (setUpStage_allows hR hc directory _ s) (ih hrest _ _ _)

theorem awaitStages_allows (hR : Terminal.Allows host p R) (stages : List Stage) (s : Shell σ) :
    R s.terminal (awaitStages host stages s).2.terminal := by
  induction stages generalizing s with
  | nil => exact hR.refl _
  | cons stage rest ih =>
    -- only a process that runs can do anything to the terminal
    refine hR.trans ?_ (ih _)
    cases stage with
    | finished status => exact hR.refl _
    | running process => exact hR.undergo _ _ _

theorem run_allows (hR : Terminal.Allows host p R) {pipeline : Pipeline}
    (h : ∀ command ∈ pipeline, Command.Over p command) (s : Shell σ) :
    R s.terminal (run host pipeline s).2.terminal := by
  unfold run
  split
  · exact hR.refl _
  · split
    · exact hR.refl _
    · rename_i pipes system _
      dsimp only
      have hset := setUpStages_allows hR h ((s.withSystem system).directory host) none pipes
        (s.withSystem system)
      exact hR.trans hset (awaitStages_allows hR _ _)

end Pipeline

/-! ## Lines -/

namespace Interpreter

variable (i : Interpreter)

theorem dispatch_allows (hR : Terminal.Allows host p R) (offered : BuiltinSet)
    {pipeline : Pipeline} (h : ∀ command ∈ pipeline, Command.Over p command) (c : Context)
    (world : World σ) (t : Terminal) :
    R t { t with output := (dispatch host offered pipeline c world t.output).2.2.2 } := by
  unfold dispatch
  split
  · exact hR.refl t
  · rename_i command hsingle
    have hc : command.Over p := by
      rw [Pipeline.single?_eq_some] at hsingle
      exact h command (hsingle ▸ List.mem_cons_self)
    split
    · exact hR.refl t
    · rename_i b _
      split
      · exact hR.refl t
      · have hsay := hR.say t _ (Builtin.act_over host hR.ample b hc.args c world)
        dsimp only
        split <;> rename_i hsend <;> rw [hsend] at hsay <;> exact hsay

theorem runPipeline_allows (hR : Terminal.Allows host p R) {pipeline : Pipeline}
    (h : ∀ command ∈ pipeline, Command.Over p command) (s : Shell σ) :
    R s.terminal (runPipeline host pipeline s).2.terminal := by
  have hrun := Pipeline.run_allows hR h s
  unfold runPipeline
  split <;> rename_i ho <;> rw [ho] at hrun <;> exact hrun

theorem perform_allows (hR : Terminal.Allows host p R) {pipeline : Pipeline}
    (h : ∀ command ∈ pipeline, Command.Over p command) (s : Shell σ) :
    R s.terminal (i.perform host pipeline s).2.terminal := by
  unfold perform
  split
  · exact hR.refl _
  · rename_i system _
    have hd : R s.terminal (i.tryBuiltin host pipeline (s.withSystem system)).2.terminal :=
      dispatch_allows hR i.offered h s.context _ s.terminal
    split <;> rename_i hr <;> rw [hr] at hd
    · exact hd
    · exact hd
    · -- no built-in: what was tried has said nothing, and the pipeline runs
      exact hR.trans hd (runPipeline_allows hR h _)
    · exact hd

/-- **A line does to its terminal what the relation allows.** -/
theorem execute_allows (hR : Terminal.Allows host p R) {line : Text} (h : Text.Over p line)
    (s : Shell σ) : R s.terminal (i.execute host line s).2.terminal := by
  have hparse := Pipeline.parse_over hR.ample i.limits h
  unfold execute
  split
  · exact hR.refl _
  · rename_i pipeline hpipeline
    rw [hpipeline] at hparse
    exact perform_allows i hR hparse s

end Interpreter

/-! ## Connections -/

/-- The terminal of a connection: one sink takes what is said and what is reported, and takes it
all. -/
structure Terminal.Connected (t : Terminal) : Prop where
  error_eq : t.error = none
  output_open : t.output.Open

/-- Programs write only bytes of the class. -/
def Host.Writes (host : Host σ) (q : UInt8 → Prop) : Prop :=
  ∀ process t system, ∀ w ∈ (host.await process t system).2.1.wrote, ∀ b ∈ w.2, q b

/-- No program reads what the terminal gives. -/
def Host.LeavesInput (host : Host σ) : Prop :=
  ∀ process t system, (host.await process t system).2.1.taken = 0

/-- A system without files, on which every program starts, writes the same line and ends well. -/
def Host.plain : Host Unit where
  currentDirectory _ := .ok ['/']
  changeDirectory _ s := (.error (.system Errno.noEntry), s)
  canonicalize _ _ := .error (.system Errno.noEntry)
  isDirectory _ _ := false
  openInput _ s := (.error (.system Errno.noEntry), s)
  openOutput _ _ s := (.error (.system Errno.noEntry), s)
  makePipe s := (.ok ⟨0, 1⟩, s)
  close _ s := s
  attach _ s := (.ok (), s)
  start _ s := (.ok 0, s)
  await _ _ s := (.ok (.code 0), { wrote := [(.output, [104, 105, 10])] }, s)

theorem Host.plain_leavesInput : Host.plain.LeavesInput := fun _ _ _ => rfl

theorem Host.plain_writes : Host.plain.Writes (· ≠ 4) := by
  intro _ _ _ w hw b hb
  obtain rfl := List.mem_singleton.1 hw
  have hall : ([104, 105, 10] : Bytes).all (· != 4) = true := by decide
  exact bne_iff_ne.1 (List.all_eq_true.1 hall b hb)

variable {q : UInt8 → Prop}

/-- Bytes of the class were added to what a connection has taken, and it is a connection still. -/
def Terminal.Adds (q : UInt8 → Prop) (t u : Terminal) : Prop :=
  t.Connected → u.Connected ∧ ∃ bs, u.output.taken = t.output.taken ++ bs ∧ ∀ b ∈ bs, q b

namespace Terminal

theorem adds_refl (t : Terminal) : Adds q t t :=
  fun ht => ⟨ht, [], (List.append_nil _).symm, List.forall_mem_nil _⟩

theorem Adds.trans {t u v : Terminal} (h₁ : Adds q t u) (h₂ : Adds q u v) : Adds q t v := by
  intro ht
  obtain ⟨hu, bs, hbs, hq⟩ := h₁ ht
  obtain ⟨hv, cs, hcs, hq'⟩ := h₂ hu
  exact ⟨hv, bs ++ cs, by rw [hcs, hbs, List.append_assoc], List.forall_mem_append.2 ⟨hq, hq'⟩⟩

/-- On a connection both channels lead to the one sink. -/
theorem Connected.sink_eq {t : Terminal} (ht : t.Connected) (channel : Channel) :
    t.sink channel = t.output := by
  cases channel with
  | output => rfl
  | error => rw [sink, ht.error_eq, Option.getD_none]

theorem Connected.withSink_eq {t : Terminal} (ht : t.Connected) (channel : Channel) (s : Sink) :
    t.withSink channel s = { t with output := s } := by
  unfold withSink
  cases channel with
  | output => rfl
  | error => rw [ht.error_eq]

theorem adds_output {t : Terminal} {s : Sink} {bs : Bytes} (hs : s.Open)
    (ht : s.taken = t.output.taken ++ bs) (hq : ∀ b ∈ bs, q b) :
    Adds q t { t with output := s } :=
  fun hc => ⟨⟨hc.error_eq, hs⟩, bs, ht, hq⟩

theorem adds_write (t : Terminal) (channel : Channel) {bs : Bytes} (hq : ∀ b ∈ bs, q b) :
    Adds q t (t.write channel bs) := by
  intro hc
  obtain ⟨s, hd, hs, ht⟩ := Sink.deliver_open hc.output_open bs
  rw [write, hc.sink_eq, hc.withSink_eq, hd]
  exact adds_output hs ht hq hc

theorem adds_writes (wrote : List (Channel × Bytes)) (hq : ∀ w ∈ wrote, ∀ b ∈ w.2, q b)
    (t : Terminal) : Adds q t (wrote.foldl (fun t w => t.write w.1 w.2) t) := by
  induction wrote generalizing t with
  | nil => exact adds_refl t
  | cons w rest ih =>
    obtain ⟨hw, hrest⟩ := List.forall_mem_cons.1 hq
    exact (adds_write t w.1 hw).trans (ih hrest _)

theorem encode_class (hpq : ∀ c, p c → ∀ b ∈ String.utf8EncodeChar c, q b) {text : Text}
    (h : Text.Over p text) : ∀ b ∈ Utf8.encode text, q b := by
  intro b hb
  obtain ⟨c, hc, hb⟩ := List.mem_flatMap.1 hb
  exact hpq c (h c hc) b hb

/-- A line adds to a connection only bytes of the characters that the shell uses and of what the
programs write. -/
theorem allows_adds (hp : Ample p) (hpq : ∀ c, p c → ∀ b ∈ String.utf8EncodeChar c, q b)
    (hw : host.Writes q) : Allows host p (Adds q) where
  ample := hp
  refl := adds_refl
  trans := Adds.trans
  say t text h := by
    intro hc
    obtain ⟨s, hd, hs, ht⟩ := Sink.send_open hc.output_open [Utf8.encode text]
    rw [hd]
    rw [List.flatten_cons, List.flatten_nil, List.append_nil] at ht
    exact adds_output hs ht (encode_class hpq h) hc
  report t text h := by
    intro hc
    obtain ⟨s, hd, hs, ht⟩ := Sink.send_open hc.output_open [Utf8.encode (text ++ ['\n'])]
    rw [report, hc.sink_eq, hc.withSink_eq, hd]
    rw [List.flatten_cons, List.flatten_nil, List.append_nil] at ht
    exact adds_output hs ht (encode_class hpq (over_append.2 ⟨h, over_newline hp⟩)) hc
  undergo t process system := fun hc =>
    adds_writes _ (hw process t system) { t with input := t.input.skip _ }
      ⟨hc.error_eq, hc.output_open⟩

end Terminal

namespace Interpreter

variable (i : Interpreter)

/-- If no program reads it, the input of the terminal is left as it is. -/
theorem execute_input (hq : host.LeavesInput) (line : Text) (s : Shell σ) :
    (i.execute host line s).2.terminal.input = s.terminal.input := by
  have hR : Terminal.Allows host (fun _ => True) fun t u => u.input = t.input :=
    { ample := fun _ _ => trivial
      refl := fun _ => rfl
      trans := fun h₁ h₂ => h₂.trans h₁
      say := fun _ _ _ => rfl
      report := fun t text _ => t.report_input .error text
      undergo := fun t process system => by
        rw [Terminal.undergo_input, hq, Source.skip] }
  exact execute_allows i hR (fun _ _ => trivial) s

/-- What a built-in has to say fails to be written exactly if the sink fails to take it. -/
theorem dispatch_output_iff {offered : BuiltinSet} {pipeline : Pipeline} {c : Context}
    {world : World σ} {out : Sink} {f : Failure} :
    (dispatch host offered pipeline c world out).1 = .error (.output f) ↔
      ∃ command b, pipeline = [command] ∧ offered.find? command.name = some b ∧
        command.hasRedirects = false ∧
        (out.send [Utf8.encode (b.act host command.args c world).text]).1 = .error f := by
  constructor
  · intro h
    unfold dispatch at h
    split at h
    · cases h
    · rename_i command hsingle
      split at h
      · cases h
      · rename_i b hoffered
        split at h
        · cases h
        · rename_i hplain
          refine ⟨command, b, Pipeline.single?_eq_some.1 hsingle, hoffered,
            Bool.not_eq_true _ ▸ hplain, ?_⟩
          dsimp only at h
          split at h
          · rename_i f' out' hsend
            cases h
            rw [hsend]
          · cases h
  · rintro ⟨command, b, rfl, hoffered, hplain, hsend⟩
    unfold dispatch
    simp only [Pipeline.single?, hoffered, hplain, Bool.false_eq_true, if_false]
    split
    · rename_i f' out' hsend'
      rw [hsend'] at hsend
      cases hsend
      rfl
    · rename_i out' hsend'
      rw [hsend'] at hsend
      cases hsend

/-- A line cannot be answered: it is one command, called like a built-in on offer and without
redirects, and the output of the terminal fails to take what the built-in has to say. -/
inductive Unsaid (host : Host σ) (i : Interpreter) (line : Text) (s : Shell σ)
    (f : Failure) : Prop
  | intro {command : Command} {b : Builtin} {system : σ}
    (hparse : Pipeline.parse i.limits line = .ok [command])
    (hoffered : i.offered.find? command.name = some b) (hplain : command.hasRedirects = false)
    (hattach : host.attach .output s.world.system = (.ok (), system))
    (hsend : (s.terminal.output.send
      [Utf8.encode (b.act host command.args s.context (s.withSystem system).world).text]).1 =
        .error f)

/-- **A line fails** exactly if it cannot be answered. Whatever else is wrong with it is a reason to
reject it. -/
theorem execute_error_iff {i : Interpreter} {line : Text} {s : Shell σ} {f : Failure} :
    (i.execute host line s).1 = .error f ↔ i.Unsaid host line s f := by
  constructor
  · intro h
    unfold execute at h
    split at h
    · cases h
    · rename_i pipeline hparse
      unfold perform at h
      split at h
      · cases h
      · rename_i system hattach
        split at h
        · rename_i f' s' htry
          cases h
          obtain ⟨command, b, rfl, hoffered, hplain, hsend⟩ :=
            dispatch_output_iff.1 (congrArg Prod.fst htry)
          exact .intro hparse hoffered hplain hattach hsend
        · cases h
        · cases h
        · cases h
  · rintro ⟨hparse, hoffered, hplain, hattach, hsend⟩
    rename_i command b system
    have hdispatch : (i.tryBuiltin host [command] (s.withSystem system)).1 = .error (.output f) :=
      dispatch_output_iff.2 ⟨command, b, rfl, hoffered, hplain, hsend⟩
    unfold execute
    rw [hparse]
    dsimp only
    unfold perform
    rw [hattach]
    dsimp only
    generalize i.tryBuiltin host [command] (s.withSystem system) = tried at hdispatch ⊢
    obtain ⟨result, s'⟩ := tried
    obtain rfl : result = .error (.output f) := hdispatch
    rfl

/-- On an open sink no line is a failure of the shell. -/
theorem execute_ok (line : Text) {s : Shell σ} (hs : s.terminal.output.Open) :
    ∃ result, (i.execute host line s).1 = .ok result := by
  cases hresult : (i.execute host line s).1 with
  | ok result => exact ⟨result, rfl⟩
  | error f =>
    -- an open sink takes every answer
    obtain ⟨-, -, -, -, hsend⟩ := execute_error_iff.1 hresult
    obtain ⟨out, htaken, -⟩ := Sink.send_open hs _
    rw [htaken] at hsend
    cases hsend

/-- A pipeline is rejected only for want of resources. -/
theorem runPipeline_rejected {pipeline : Pipeline} {s : Shell σ} {r : Rejection}
    (hr : (runPipeline host pipeline s).1 = .rejected r) : ∃ f, r = .resource f := by
  unfold runPipeline at hr
  split at hr
  · cases hr
  · cases hr
    exact ⟨_, rfl⟩

/-- A line that is rejected is answered with a text about the line. -/
theorem execute_rejected_over (hp : Ample p) {line : Text} (h : Text.Over p line) {s : Shell σ}
    {r : Rejection} (hr : (i.execute host line s).1 = .ok (.rejected r)) :
    Text.Over p r.message := by
  have hparse := Pipeline.parse_over hp i.limits h
  unfold execute at hr
  split at hr
  · rename_i e he
    rw [he] at hparse
    cases hr
    exact hparse
  · rename_i pipeline _
    -- what is left are failures of the system and the one fault of a built-in's own
    have hres : ∀ f, Text.Over p (Rejection.resource f).message := fun f =>
      over_append.2 ⟨over_literal hp rfl (by decide), Failure.message_over hp f⟩
    unfold perform at hr
    split at hr
    · cases hr
      exact hres _
    · split at hr
      · cases hr
      · cases hr
        exact BuiltinError.message_over hp .redirection
      · obtain ⟨f, rfl⟩ := runPipeline_rejected (Except.ok.inj hr)
        exact hres f
      · cases hr

end Interpreter

end PipeShell
