import PipeShell.Proofs.ControlWords
import PipeShell.Proofs.LineReading
import PipeShell.Proofs.Serving
import PipeShell.Proofs.Transcripts
import PipeShell.Server.Serial
import PipeShell.Shell.Local

/-!
# A local shell and a session run in step

A local shell reads lines and a session gets requests; the one reports rejections on its error
channel, the other in the response; the session honours control words before it reads a line, and
has one built-in more. None of this makes a difference to what a line does. Let both start in equal
contexts of connection scope with equal files, on a system that follows rules, and let both get the
same lines, none of which calls the built-in that only the session has. Then they go on together,
line by line: what comes of the line, what it writes, and the directory and the status behind it are
the same, and both stop behind the same line (`InStep`, `Abreast.run_inStep`).

What the two have in common between lines is `Abreast`. One line keeps it, unless the line ends both
(`Abreast.step`). Both must be able to write, and the system must let the local shell have the two
channels of its terminal: where it does not, the line `exit` is rejected, while a session ends on
the word alone. Without these conditions they fall out of step (`run_outOfStep`).
-/

set_option autoImplicit false

namespace PipeShell

variable {σ φ : Type} {host : Host σ} {rules : Rules φ} {look : Look σ φ} {w w' : World σ}

/-! ## What both do -/

/-- A line that was carried out: what came of it, what carrying it out wrote, and the directory and
the status behind it. -/
structure Deed where
  line : Text
  result : LineResult
  wrote : Transcript
  directory : Text
  status : Status

/-- What a local shell adds to what carrying out a line wrote. -/
def LineResult.complaint : LineResult → Transcript
  | rejected r => [(.error, Utf8.encode (r.message ++ ['\n']))]
  | _ => []

/-- The deed as an exchange over a connection, to which both channels lead. -/
def Deed.exchange (d : Deed) : Exchange := ⟨d.line, d.result, d.wrote.bytes⟩

/-- The shell works in the directory of a deed, and its last status is that of the deed. -/
structure Shell.Behind (host : Host σ) (s : Shell σ) (d : Deed) : Prop where
  directory_eq : s.directory host = d.directory
  status_eq : s.lastStatus = d.status

/-- A local shell prompts, reads a line and carries it out. A rejection is reported behind what the
line wrote. The shell is over if the line asks for it. -/
def LocalShell.Does (host : Host σ) (i : Interpreter) (s : State σ) (d : Deed) (s' : State σ) :
    Prop :=
  ∃ (prompted read : State σ) (carried : Shell σ),
    s.display prompt.toList = (.ok (), prompted) ∧
    prompted.readLine = (.ok (some (Wire.stripNewline d.line)), read) ∧
    i.execute host (Wire.stripNewline d.line) read.shell = (.ok d.result, carried) ∧
    read.shell.terminal.Took d.wrote carried.terminal ∧
    carried.terminal.Took d.result.complaint s'.shell.terminal ∧
    s'.shell.Behind host d ∧
    step host i s = (.ok d.exchange.ending?.isSome, s')

/-- A session takes the line as a request and answers it. The session is over if the line asks for
it. -/
def Session.Does (host : Host σ) (j : Interpreter) (t : Session σ) (d : Deed) (t' : Session σ) :
    Prop :=
  Turn host j t d.exchange t' ∧ t'.shell.Behind host d ∧ t.step host j = (d.exchange.ending?, t')

theorem LocalShell.Does.step_eq {i : Interpreter} {s s' : State σ} {d : Deed}
    (h : Does host i s d s') : step host i s = (.ok d.exchange.ending?.isSome, s') := by
  obtain ⟨_, _, _, -, -, -, -, -, -, hstep⟩ := h
  exact hstep

theorem Session.Does.step_eq {j : Interpreter} {t t' : Session σ} {d : Deed}
    (h : Does host j t d t') : t.step host j = (d.exchange.ending?, t') := by
  obtain ⟨-, -, hstep⟩ := h
  exact hstep

/-- A local shell and a session do the same deeds, from first to last, and stop together. -/
inductive InStep (host : Host σ) (i j : Interpreter) :
    LocalShell.State σ → Session σ → List Deed → SessionEnd → LocalShell.State σ → Session σ → Prop
  /-- There are no more lines. -/
  | atEnd {s s' : LocalShell.State σ} {t t' : Session σ}
      (hs : LocalShell.step host i s = (.ok true, s'))
      (ht : t.step host j = (some .disconnected, t')) : InStep host i j s t [] .disconnected s' t'
  /-- The line asks for the end. -/
  | asked {s s' : LocalShell.State σ} {t t' : Session σ} {d : Deed}
      (hs : LocalShell.Does host i s d s') (ht : Session.Does host j t d t')
      (h : d.result.action? = some .exitSession) : InStep host i j s t [d] .exitSession s' t'
  /-- Both go on. -/
  | goOn {s s' s'' : LocalShell.State σ} {t t' t'' : Session σ} {d : Deed} {deeds : List Deed}
      {ending : SessionEnd} (hs : LocalShell.Does host i s d s') (ht : Session.Does host j t d t')
      (h : d.result.action? = none) (rest : InStep host i j s' t' deeds ending s'' t'') :
      InStep host i j s t (d :: deeds) ending s'' t''

/-- The shell can always have the error channel of its terminal. -/
def Host.Reports (host : Host σ) : Prop := ∀ system, (host.attach .error system).1 = .ok ()

/-! ## The local shell between lines -/

namespace LocalShell

variable {i : Interpreter} {s s' : State σ}

/-- The reader of a shell's lines. -/
def State.reader (s : State σ) : Lines := s.dialogue.lines s.shell.terminal

/-- The terminal takes what is written to it, and prompts can be shown. -/
structure State.Open (s : State σ) : Prop where
  terminal : s.shell.terminal.Open
  own : ∀ source sink, s.dialogue.own = some (source, sink) → sink.Open

/-- What is shown is taken, and nothing but sinks has changed. -/
theorem display_open (h : s.Open) (text : Text) :
    ∃ t : State σ, s.display text = (.ok (), t) ∧ t.Open ∧ t.reader = s.reader ∧
      t.shell.context = s.shell.context ∧ t.shell.world = s.shell.world := by
  rcases s with ⟨shell, held, _ | ⟨source, sink⟩⟩
  · -- the prompt goes to the terminal
    have houtput : shell.terminal.output.Open := h.terminal .output
    obtain ⟨out, hsend, -, -⟩ := Sink.send_open houtput [Utf8.encode text]
    refine ⟨⟨{ shell with terminal := { shell.terminal with output := out } }, held, none⟩, ?_,
      ⟨?_, fun _ _ he => nomatch he⟩, rfl, rfl, rfl⟩
    · simp only [State.display, Dialogue.display, hsend]
    · have hwrites := h.terminal.writes [(.output, Utf8.encode text)]
      rw [← Terminal.say_eq] at hwrites
      rwa [hsend] at hwrites
  · obtain ⟨sink', hsend, hopen, -⟩ := Sink.send_open (h.own source sink rfl) [Utf8.encode text]
    refine ⟨⟨shell, held, some (source, sink')⟩, ?_, ⟨h.terminal, ?_⟩, rfl, rfl, rfl⟩
    · simp only [State.display, Dialogue.display, hsend]
    · rintro _ _ he
      cases he
      exact hopen

/-- What a reader gives is read, and the shell goes on with the reader behind it. -/
theorem readLine_open (h : s.Open) {line : Option Text} {r : Lines}
    (hnext : s.reader.next = (.ok line, r)) :
    ∃ t : State σ, s.readLine = (.ok line, t) ∧ t.Open ∧ t.reader = r ∧
      t.shell.context = s.shell.context ∧ t.shell.world = s.shell.world := by
  unfold State.reader at hnext
  unfold State.readLine
  rw [hnext]
  rcases s with ⟨shell, held, _ | ⟨source, sink⟩⟩
  · refine ⟨_, rfl, ⟨?_, fun _ _ he => nomatch he⟩, rfl, rfl, rfl⟩
    intro channel
    exact h.terminal channel
  · refine ⟨_, rfl, ⟨h.terminal, ?_⟩, rfl, rfl, rfl⟩
    rintro _ _ he
    cases he
    exact h.own source sink rfl

/-- A typed line is read behind the prompt. -/
theorem reads_typed (h : s.Open) {line : Text} {rest : Bytes} (hline : '\n' ∉ line)
    (hr : s.reader.Carries (Lines.typed line ++ rest)) :
    ∃ prompted read : State σ, s.display prompt.toList = (.ok (), prompted) ∧
      prompted.readLine = (.ok (some (Wire.stripNewline line)), read) ∧ read.Open ∧
      read.reader.Carries rest ∧ read.shell.context = s.shell.context ∧
      read.shell.world = s.shell.world := by
  obtain ⟨prompted, hprompt, hopen, hreader, hcontext, hworld⟩ := display_open h prompt.toList
  obtain ⟨r, hnext, hrest⟩ := Lines.next_of_typed hline (hreader ▸ hr)
  obtain ⟨read, hread, hopen', rfl, hcontext', hworld'⟩ := readLine_open hopen hnext
  exact ⟨prompted, read, hprompt, hread, hopen', hrest, hcontext'.trans hcontext,
    hworld'.trans hworld⟩

/-- Where no line is left, the shell is over. -/
theorem step_of_end (host : Host σ) (i : Interpreter) (h : s.Open) (hr : s.reader.Carries []) :
    ∃ s', step host i s = (.ok true, s') ∧ s'.reader.Carries [] := by
  obtain ⟨prompted, hprompt, hopen, hreader, -⟩ := display_open h prompt.toList
  obtain ⟨r, hnext, hr'⟩ := Lines.next_of_end (hreader ▸ hr)
  obtain ⟨read, hread, hopen', rfl, -⟩ := readLine_open hopen hnext
  obtain ⟨s', hnewline, -, hreader', -⟩ := display_open hopen' ['\n']
  refine ⟨s', ?_, hreader' ▸ hr'⟩
  simp only [step, hprompt, hread, hnewline]
  rfl

/-- A reason is reported with what the system does for it, and on the error channel alone. -/
theorem carryOut_eq (ho : host.Obeys rules look) (herror : host.Reports) {line : Text}
    {u v : Shell σ} {result : LineResult} (hv : v.terminal.Open)
    (hstop : result.action? ≠ some .stopServer) (he : i.execute host line u = (.ok result, v)) :
    ∃ v' : Shell σ, carryOut host i line u = (.ok result.action?.isSome, v') ∧
      v.terminal.Took result.complaint v'.terminal ∧ v'.context = v.context ∧
      look.Keeps host v.world.system v'.world.system ∧
      v'.world.sharedStatus = v.world.sharedStatus := by
  have hsilent : v.terminal.Took [] v.terminal := hv.took []
  unfold carryOut
  rw [he]
  cases result with
  | rejected r =>
    have hattach := herror v.world.system
    have hkeeps := ho.attach_keeps .error v.world.system
    refine ⟨report host r v, rfl, ?_⟩
    unfold report
    generalize host.attach .error v.world.system = x at hattach hkeeps ⊢
    obtain ⟨e, system⟩ := x
    obtain rfl : e = .ok () := hattach
    refine ⟨?_, rfl, hkeeps, rfl⟩
    dsimp only
    rw [Terminal.report_eq]
    exact hv.took _
  | builtin d =>
    cases d with
    | control action =>
      cases action with
      | exitSession => exact ⟨v, rfl, hsilent, rfl, Look.Keeps.refl _, rfl⟩
      | stopServer => exact absurd rfl hstop
    | executed => exact ⟨v, rfl, hsilent, rfl, Look.Keeps.refl _, rfl⟩
    | notBuiltin => exact ⟨v, rfl, hsilent, rfl, Look.Keeps.refl _, rfl⟩
  | pipeline outcome => exact ⟨v, rfl, hsilent, rfl, Look.Keeps.refl _, rfl⟩

end LocalShell

/-! ## The session between requests -/

namespace Session

variable {j : Interpreter} {t t' : Session σ}

/-- Where no request is left, the client has left. -/
theorem step_of_end (host : Host σ) (hpos : 0 < j.limits.requestLength) (h : t.inbox.Carries []) :
    ∃ t', t.step host j = (some .disconnected, t') ∧ t'.inbox.Carries [] := by
  have hverdict : Wire.verdict j.limits.requestLength [] = (.ok none, []) :=
    Wire.verdict_of_unterminated List.not_mem_nil hpos
  obtain ⟨box, hnext, hbox⟩ := Wire.Inbox.next_of_carries j.limits.requestLength h
  rw [hverdict] at hnext hbox
  refine ⟨t.withInbox box, ?_, hbox⟩
  rw [step, hnext]

/-- A turn carries its request out and then touches nothing but what is sent. -/
theorem Turn.exists_carried {e : Exchange} {request : Text} {box : Wire.Inbox}
    (h : Turn host j t e t')
    (hnext : Wire.Inbox.next j.limits.requestLength t.inbox = (.ok (some request), box)) :
    ∃ carried : Shell σ, CarriesOut host j e.request (t.withInbox box).shell e.result carried ∧
      carried.terminal.output.taken = (t.withInbox box).shell.terminal.output.taken ++ e.output ∧
      t'.shell.context = carried.context ∧ t'.shell.world = carried.world ∧
      t'.inbox = ⟨box.pending, carried.terminal.input⟩ := by
  obtain ⟨box', hnext', ⟨carried, sink, hc, hout, -, hshell, -⟩, hpending⟩ := h
  obtain rfl : box' = box := (Prod.mk.inj (hnext'.symm.trans hnext)).2
  refine ⟨carried, hc, hout, ?_, ?_, ?_⟩
  · rw [hshell]
  · rw [hshell]
  · rw [inbox, hpending, hshell]

end Session

/-- Both run as far as they are in step. -/
theorem InStep.run_eq {i j : Interpreter} {s s' : LocalShell.State σ} {t t' : Session σ}
    {deeds : List Deed} {ending : SessionEnd} (h : InStep host i j s t deeds ending s' t') :
    LocalShell.run host i s = (.ok s'.shell.lastStatus, s') ∧ t.run host j = (ending, t') := by
  induction h with
  | atEnd hs ht => exact ⟨LocalShell.run_of_over host hs, Session.run_of_over host ht⟩
  | @asked s s' t t' d hs ht h =>
    have hended : d.exchange.ending? = some .exitSession := by
      rw [Exchange.ending?, Deed.exchange, h]
      rfl
    have hstep := hs.step_eq
    have hstep' := ht.step_eq
    rw [hended] at hstep hstep'
    exact ⟨LocalShell.run_of_over host hstep, Session.run_of_over host hstep'⟩
  | @goOn s s₁ s' t t₁ t' d deeds ending hs ht h rest ih =>
    have hon : d.exchange.ending? = none := by
      rw [Exchange.ending?, Deed.exchange, h]
      rfl
    have hstep := hs.step_eq
    have hstep' := ht.step_eq
    rw [hon] at hstep hstep'
    obtain ⟨hrun, hrun'⟩ := ih
    exact ⟨(LocalShell.run_of_on host hstep).trans hrun,
      (Session.run_of_on host hstep').trans hrun'⟩

/-! ## One line, carried out by both -/

/-- How lines are carried out at a terminal. -/
def Interpreter.ofTerminal (env : Environment) : Interpreter where
  limits := Limits.ofEnvironment env
  offered := BuiltinSet.atTerminal

/-- How lines are carried out for the clients of a server. -/
def Interpreter.ofServer (env : Environment) : Interpreter :=
  (ServerConfig.ofEnvironment env).interpreter

/-- The built-in that a line calls, if it is read as one command under the name of which there is
one on offer. Redirects make no difference, though the call is then rejected. -/
def Interpreter.called? (i : Interpreter) (line : Text) : Option Builtin :=
  match Pipeline.parse i.limits line with
  | .ok [command] => i.offered.find? command.name
  | _ => none

theorem Interpreter.called?_eq {i : Interpreter} {line : Text} {command : Command}
    (h : Pipeline.parse i.limits line = .ok [command]) :
    i.called? line = i.offered.find? command.name := by
  rw [called?, h]

/-- Both ask for the same: a control word, and the built-in that the word calls. -/
theorem Interpreter.called?_of_word {env : Environment} {line : Text} {action : ControlAction}
    (h : ControlAction.ofWord? line = some action) :
    (ofServer env).called? line = some action.builtin := by
  rw [called?_eq (ControlAction.parse_of_word (Limits.ofEnvironment_roomy env).1 h)]
  cases action <;> rfl

/-- Clients are offered one built-in more. -/
theorem BuiltinSet.find?_atTerminal {name : Text} (h : forClients.find? name ≠ some .stopServer) :
    atTerminal.find? name = forClients.find? name := by
  have hsplit : forClients.find? name =
      (atTerminal.find? name).or (find? [.stopServer] name) := by
    unfold find?
    rw [← List.find?_append]
    rfl
  rw [hsplit] at h ⊢
  cases hfound : atTerminal.find? name with
  | some b => rfl
  | none =>
    rw [hfound, Option.none_or] at h
    rw [Option.none_or]
    unfold find? at h ⊢
    rw [List.find?_singleton] at h ⊢
    split at h
    · exact absurd rfl h
    · rename_i hname
      rw [if_neg hname]

namespace Shell

variable {s s' u u' : Shell σ}

/-- What two shells have in common does not depend on their terminals. -/
theorem Pair.congr (h : Pair host look w w' s s') (hcontext : u.context = s.context)
    (hworld : u.world = s.world) (hcontext' : u'.context = s'.context)
    (hworld' : u'.world = s'.world) : Pair host look w w' u u' where
  system := by
    rw [hworld, hworld']
    exact h.system
  status_left := by rw [hworld, h.status_left]
  status_right := by rw [hworld', h.status_right]
  context_eq := by rw [hcontext, hcontext', h.context_eq]
  scope_eq := by rw [hcontext, h.scope_eq]
  terminal := trivial

/-- One of two shells may ask its system for something that changes nothing. -/
theorem Pair.keeps (h : Pair host look w w' s s') (hcontext : u.context = s.context)
    (hkeeps : look.Keeps host s.world.system u.world.system)
    (hstatus : u.world.sharedStatus = s.world.sharedStatus) : Pair host look w w' u s' where
  system := h.system.keeps hkeeps (Look.Keeps.refl _)
  status_left := hstatus.trans h.status_left
  status_right := h.status_right
  context_eq := hcontext.trans h.context_eq
  scope_eq := by rw [hcontext, h.scope_eq]
  terminal := trivial

/-- Contexts of connection scope hold the status themselves. -/
theorem Pair.lastStatus_eq (h : Pair host look w w' s s') : s.lastStatus = s'.lastStatus := by
  unfold lastStatus Context.lastStatus
  rw [← h.context_eq, h.scope_eq]

end Shell

section

variable {env : Environment} (ho : host.Obeys rules look) (houtput : host.Attaches)
include ho houtput

/-- **A request is carried out as the line it is**, by a local shell as by a session: it comes to
the same, and the same is written. -/
theorem Interpreter.execute_of_carriesOut {request : Text} {s s' carried : Shell σ}
    {result : LineResult} (h : Shell.Pair host look w w' s s') (hs : s.terminal.Open)
    (hs' : s'.terminal.Connected)
    (hstop : (ofServer env).called? (Wire.stripNewline request) ≠ some .stopServer)
    (hc : Session.CarriesOut host (ofServer env) request s' result carried) :
    ∃ (wrote : Transcript) (t : Shell σ),
      (ofTerminal env).execute host (Wire.stripNewline request) s = (.ok result, t) ∧
      t.terminal = s.terminal.writes wrote ∧ carried.terminal = s'.terminal.writes wrote ∧
      Shell.Pair host look w w' t carried := by
  cases hc with
  | @word action hword =>
    -- the session has not read the line; the shell reads it as the command
    cases action with
    | stopServer => exact absurd (called?_of_word hword) hstop
    | exitSession =>
      have hparse := ControlAction.parse_of_word (Limits.ofEnvironment_roomy env).1 hword
      have hasks : (ofTerminal env).Asks (Wire.stripNewline request) .exitSession :=
        ⟨rfl, [], hparse⟩
      refine ⟨[], _, execute_ending hasks (houtput _) (hs .output), rfl, rfl, ?_⟩
      exact h.keeps rfl (ho.attach_keeps .output _) rfl
  | line hword he =>
    have hoffered : ∀ command,
        Pipeline.parse (Limits.ofEnvironment env) (Wire.stripNewline request) = .ok [command] →
        BuiltinSet.atTerminal.find? command.name = BuiltinSet.forClients.find? command.name :=
      fun command hparse => BuiltinSet.find?_atTerminal fun hfind =>
        hstop ((called?_eq hparse).trans hfind)
    obtain ⟨result', wrote, t, t', ht, ht', hterminal, hterminal', hpair⟩ :=
      execute_transcript (i := ofTerminal env) (j := ofServer env) ho h hs hs'.open rfl hoffered
    obtain ⟨hresult, rfl⟩ := Prod.mk.inj (ht'.symm.trans he)
    obtain rfl := Except.ok.inj hresult
    exact ⟨wrote, t, ht, hterminal, hterminal', hpair⟩

/-! ## Side by side -/

/-- A local shell and a session that are to get the same lines: their contexts are equal and of
connection scope, their files are equal and no program runs; both can write; and the one has the
lines before it as they are typed, the other as they are sent. Neither process has moved since the
worlds `w` and `w'`. -/
structure Abreast (host : Host σ) (look : Look σ φ) (w w' : World σ) (lines : List Text)
    (s : LocalShell.State σ) (t : Session σ) : Prop where
  shells : Shell.Pair host look w w' s.shell t.shell
  local_open : s.Open
  connected : t.shell.terminal.Connected
  reader : s.reader.Carries (lines.flatMap Lines.typed)
  inbox : t.inbox.Carries (lines.flatMap Wire.frame)

/-- A line that both can get, and that does not call the built-in that only a session has. -/
structure Shared (env : Environment) (line : Text) : Prop where
  no_newline : '\n' ∉ line
  fits : Wire.Fits (Limits.ofEnvironment env).requestLength line
  no_stop : (Interpreter.ofServer env).called? (Wire.stripNewline line) ≠ some .stopServer

instance (env : Environment) (line : Text) : Decidable (Shared env line) :=
  decidable_of_iff ('\n' ∉ line ∧ Wire.Fits (Limits.ofEnvironment env).requestLength line ∧
      (Interpreter.ofServer env).called? (Wire.stripNewline line) ≠ some .stopServer)
    ⟨fun h => ⟨h.1, h.2.1, h.2.2⟩, fun h => ⟨h.1, h.2, h.3⟩⟩

omit ho houtput in
/-- No such line stops a server. -/
theorem Shared.action?_ne {line : Text} (h : Shared env line) {s s' : Shell σ}
    {result : LineResult}
    (hc : Session.CarriesOut host (Interpreter.ofServer env) line s result s') :
    result.action? ≠ some .stopServer := by
  intro hstop
  rcases hc.asks hstop with hword | hasks
  · rw [← ControlAction.ofWord?_stripNewline] at hword
    exact h.no_stop (Interpreter.called?_of_word hword)
  · obtain ⟨hoffered, args, hparse⟩ := hasks
    exact h.no_stop ((Interpreter.called?_eq hparse).trans hoffered)

variable (herror : host.Reports)
include herror

/-- **One line.** Both do the same with it. Then the line has asked for the end, or they are side by
side again, before the lines behind it. -/
theorem Abreast.step {line : Text} {lines : List Text} {s : LocalShell.State σ} {t : Session σ}
    (h : Abreast host look w w' (line :: lines) s t) (hline : Shared env line) :
    ∃ (d : Deed) (s' : LocalShell.State σ) (t' : Session σ), d.line = line ∧
      LocalShell.Does host (Interpreter.ofTerminal env) s d s' ∧
      Session.Does host (Interpreter.ofServer env) t d t' ∧
      s'.reader.Carries (lines.flatMap Lines.typed) ∧ t'.inbox.Carries (lines.flatMap Wire.frame) ∧
      (d.result.action? = some .exitSession ∨
        d.result.action? = none ∧ Abreast host look w w' lines s' t') := by
  have hreader := h.reader
  have hinbox := h.inbox
  rw [List.flatMap_cons] at hreader hinbox
  -- both get the line
  obtain ⟨prompted, read, hprompt, hread, hopen, hrest, hcontext, hworld⟩ :=
    LocalShell.reads_typed h.local_open hline.no_newline hreader
  obtain ⟨e, t', box, hstep, turn, rfl, hnext, hbox⟩ :=
    Session.step_of_frame (i := Interpreter.ofServer env) host h.connected hinbox hline.fits
  obtain ⟨carried, hc, hout, hcontext', hworld', hinbox'⟩ := turn.exists_carried hnext
  have hstart : Shell.Pair host look w w' read.shell (t.withInbox box).shell :=
    h.shells.congr hcontext hworld rfl rfl
  have hconnected : (t.withInbox box).shell.terminal.Connected :=
    ⟨h.connected.error_eq, h.connected.output_open⟩
  -- and carry it out
  obtain ⟨wrote, v, hv, hterminal, hterminal', hpair⟩ :=
    Interpreter.execute_of_carriesOut ho houtput hstart hopen.terminal hconnected hline.no_stop hc
  have hvopen : v.terminal.Open := by
    rw [hterminal]
    exact hopen.terminal.writes wrote
  obtain ⟨v', hcarry, htook, hkept, hkeeps, hstatus⟩ :=
    LocalShell.carryOut_eq ho herror hvopen (hline.action?_ne hc) hv
  have hafter : Shell.Pair host look w w' v' t'.shell :=
    (hpair.keeps hkept hkeeps hstatus).congr rfl rfl hcontext' hworld'
  have hwrote : e.output = wrote.bytes := by
    rw [hterminal', hconnected.taken_writes, List.append_cancel_left_eq] at hout
    exact hout.symm
  have hexchange : (⟨e.request, e.result, wrote, v'.directory host, v'.lastStatus⟩ : Deed).exchange
      = e := by
    rw [Deed.exchange, ← hwrote]
  -- neither what was written nor what was reported touches an input
  have hinput : v'.terminal.input = read.shell.terminal.input := by
    rw [htook.eq_writes, Terminal.writes_input, hterminal, Terminal.writes_input]
  have hreader' : LocalShell.State.reader { read with shell := v' } = read.reader := by
    unfold LocalShell.State.reader LocalShell.Dialogue.lines
    rw [hinput]
  have hrest' := hreader' ▸ hrest
  have hbox' : t'.inbox.Carries (lines.flatMap Wire.frame) := by
    rw [hinbox', hterminal', Terminal.writes_input]
    exact hbox
  refine ⟨⟨e.request, e.result, wrote, v'.directory host, v'.lastStatus⟩,
    { read with shell := v' }, t', rfl,
    ⟨prompted, read, v, hprompt, hread, hv, ?_, htook, ⟨rfl, rfl⟩, ?_⟩,
    ⟨hexchange ▸ turn, ⟨hafter.directory_eq.symm, hafter.lastStatus_eq.symm⟩, ?_⟩,
    hrest', hbox', ?_⟩
  · rw [hterminal]
    exact hopen.terminal.took wrote
  · have hended : e.ending?.isSome = e.result.action?.isSome := Option.isSome_map
    rw [hexchange, hended]
    simp only [LocalShell.step, hprompt, hread, hcarry]
  · rw [hexchange]
    exact hstep
  · cases haction : e.result.action? with
    | some action =>
      cases action with
      | exitSession => exact Or.inl rfl
      | stopServer => exact absurd haction (hline.action?_ne hc)
    | none =>
      refine Or.inr ⟨rfl, hafter, ⟨?_, hopen.own⟩, turn.connected, hrest', hbox'⟩
      change v'.terminal.Open
      rw [htook.eq_writes]
      exact hvopen.writes _

/-- **In step.** A local shell and a session that are side by side before the same lines do the same
with each of them, and stop together: behind the first line that asks for the end, or where there
are no more lines. Neither has read a line behind that. -/
theorem Abreast.run_inStep {lines : List Text} {s : LocalShell.State σ} {t : Session σ}
    (h : Abreast host look w w' lines s t) (hlines : ∀ line ∈ lines, Shared env line) :
    ∃ (deeds : List Deed) (unread : List Text) (ending : SessionEnd) (s' : LocalShell.State σ)
      (t' : Session σ),
      LocalShell.run host (Interpreter.ofTerminal env) s = (.ok s'.shell.lastStatus, s') ∧
      t.run host (Interpreter.ofServer env) = (ending, t') ∧
      InStep host (Interpreter.ofTerminal env) (Interpreter.ofServer env) s t deeds ending s' t' ∧
      lines = deeds.map Deed.line ++ unread ∧ (ending = .disconnected → unread = []) ∧
      s'.reader.Carries (unread.flatMap Lines.typed) ∧
      t'.inbox.Carries (unread.flatMap Wire.frame) := by
  -- the runs are told from the steps
  suffices hsteps : ∃ (deeds : List Deed) (unread : List Text) (ending : SessionEnd)
      (s' : LocalShell.State σ) (t' : Session σ),
      InStep host (Interpreter.ofTerminal env) (Interpreter.ofServer env) s t deeds ending s' t' ∧
      lines = deeds.map Deed.line ++ unread ∧ (ending = .disconnected → unread = []) ∧
      s'.reader.Carries (unread.flatMap Lines.typed) ∧
      t'.inbox.Carries (unread.flatMap Wire.frame) by
    obtain ⟨deeds, unread, ending, s', t', hstep, hrest⟩ := hsteps
    obtain ⟨hrun, hrun'⟩ := hstep.run_eq
    exact ⟨deeds, unread, ending, s', t', hrun, hrun', hstep, hrest⟩
  induction lines generalizing s t with
  | nil =>
    obtain ⟨s', hs, hreader⟩ :=
      LocalShell.step_of_end host (Interpreter.ofTerminal env) h.local_open h.reader
    obtain ⟨t', ht, hinbox⟩ := Session.step_of_end (j := Interpreter.ofServer env) host
      (Limits.ofEnvironment_roomy env).2 h.inbox
    exact ⟨[], [], _, s', t', .atEnd hs ht, rfl, fun _ => rfl, hreader, hinbox⟩
  | cons line lines ih =>
    obtain ⟨hline, hrest⟩ := List.forall_mem_cons.1 hlines
    obtain ⟨d, s₁, t₁, rfl, hs, ht, hreader, hinbox, hend | ⟨hon, h₁⟩⟩ :=
      Abreast.step ho houtput herror h hline
    · exact ⟨[d], lines, _, s₁, t₁, .asked hs ht hend, rfl, (fun he => nomatch he), hreader,
        hinbox⟩
    · obtain ⟨deeds, unread, ending, s', t', hstep, rfl, hunread, hreader', hinbox'⟩ := ih h₁ hrest
      exact ⟨d :: deeds, unread, ending, s', t', .goOn hs ht hon hstep, rfl, hunread, hreader',
        hinbox'⟩

end

/-! ## Both over one script -/

/-- A script with a line that is rejected, and with one line behind that which asks for the end. -/
def script : List Text := ["cd /a", "ls", ">", "rc", " exit ", "ls"].map String.toList

/-- A local shell before the script. -/
def atDesk : LocalShell.State (Rules.State Unit) where
  shell := ⟨Context.inDirectory ['/'], Rules.atRoot, {}⟩
  dialogue := { own := some ([.piece (script.flatMap Lines.typed)], {}) }

/-- A session before the script, the lines of which come one by one. -/
def online : Session (Rules.State Unit) where
  shell := ⟨Context.inDirectory ['/'], Rules.atRoot,
    { input := script.map fun line => .piece (Wire.frame line) }⟩

theorem abreast_script : Abreast Rules.plain.host Rules.look Rules.atRoot Rules.atRoot script atDesk
    online where
  shells := ⟨⟨rfl, rfl, rfl, rfl, rfl⟩, rfl, rfl, rfl, rfl, trivial⟩
  local_open := by
    refine ⟨fun channel => ?_, fun source sink h => ?_⟩
    · cases channel <;> exact Sink.open_empty
    · cases h
      exact Sink.open_empty
  connected := ⟨rfl, Sink.open_empty⟩
  reader := ⟨by decide +kernel, by decide +kernel, rfl⟩
  inbox := ⟨by decide +kernel, by decide +kernel, by decide +kernel⟩

/-- Both do the first five lines of the script, and neither gets to the last one. -/
theorem run_script :
    (Rules.plain.host.Obeys Rules.plain Rules.look ∧ Rules.plain.host.Attaches ∧
      Rules.plain.host.Reports ∧
      Abreast Rules.plain.host Rules.look Rules.atRoot Rules.atRoot script atDesk online ∧
      ∀ line ∈ script, Shared [] line) ∧
    ∃ deeds s' t',
      LocalShell.run Rules.plain.host (Interpreter.ofTerminal []) atDesk = (.ok 2, s') ∧
      online.run Rules.plain.host (Interpreter.ofServer []) = (.exitSession, t') ∧
      InStep Rules.plain.host (Interpreter.ofTerminal []) (Interpreter.ofServer []) atDesk online
        deeds .exitSession s' t' ∧
      deeds.map Deed.line = script.take 5 := by
  have hshared : ∀ line ∈ script, Shared [] line := by decide +kernel
  refine ⟨⟨Rules.plain.host_obeys, fun _ => rfl, fun _ => rfl, abreast_script, hshared⟩, ?_⟩
  obtain ⟨deeds, unread, ending, s', t', hrun, hrun', hstep, hlines, -, -, hinbox⟩ :=
    Abreast.run_inStep Rules.plain.host_obeys (fun _ => rfl) (fun _ => rfl) abreast_script hshared
  have hstatus : (LocalShell.run Rules.plain.host (Interpreter.ofTerminal []) atDesk).1.toOption =
      some 2 := by decide +kernel
  have hending : (online.run Rules.plain.host (Interpreter.ofServer [])).1 = .exitSession := by
    decide +kernel
  have hleft : (online.run Rules.plain.host (Interpreter.ofServer [])).2.inbox.unreturned.length =
      3 := by decide +kernel
  rw [hrun'] at hending hleft
  rw [hrun] at hstatus
  obtain rfl : ending = .exitSession := hending
  have hlast : s'.shell.lastStatus = 2 := Option.some.inj hstatus
  -- three bytes are the frame of the last line alone
  have hdone : deeds.length = 5 := by
    have hunread : unread = script.drop (deeds.map Deed.line).length := by
      rw [hlines, List.drop_left]
    have hlength : (deeds.map Deed.line).length ≤ 6 := by
      have := congrArg List.length hlines
      rw [List.length_append] at this
      change 6 = _ at this
      omega
    have hcount : ∀ n ≤ 6, ((script.drop n).flatMap Wire.frame).length = 3 → n = 5 := by
      decide +kernel
    rw [hinbox.unreturned_eq, hunread] at hleft
    exact (List.length_map _).symm.trans (hcount _ hlength hleft)
  refine ⟨deeds, s', t', hlast ▸ hrun, hrun', hstep, ?_⟩
  rw [hlines, ← hdone, ← List.length_map Deed.line, List.take_left]

/-! ## Out of step -/

/-- In their first steps either both stop or both go on. -/
theorem InStep.stops_iff {i j : Interpreter} {s s' : LocalShell.State σ} {t t' : Session σ}
    {deeds : List Deed} {ending : SessionEnd} (h : InStep host i j s t deeds ending s' t') :
    (LocalShell.step host i s).1.toOption = some (t.step host j).1.isSome := by
  cases h with
  | atEnd hs ht =>
    rw [hs, ht]
    rfl
  | asked hs ht _ =>
    rw [hs.step_eq, ht.step_eq]
    rfl
  | goOn hs ht _ _ =>
    rw [hs.step_eq, ht.step_eq]
    rfl

/-- A local shell before lines, with a sink for what it shows. -/
def deskBefore (lines : List Text) (output : Sink) : LocalShell.State (Rules.State Unit) where
  shell := ⟨Context.inDirectory ['/'], Rules.atRoot, { output }⟩
  dialogue := { own := some ([.piece (lines.flatMap Lines.typed)], {}) }

/-- A session before the same lines, with a sink for its responses. -/
def onlineBefore (lines : List Text) (output : Sink) : Session (Rules.State Unit) where
  shell := ⟨Context.inDirectory ['/'], Rules.atRoot,
    { input := [.piece (lines.flatMap Wire.frame)], output }⟩

/-- The rules of a system that lets nobody have a channel of a terminal. -/
def withheld : Rules Unit :=
  { Rules.plain with attach := fun _ _ => .error (.system Errno.badDescriptor) }

/-- Equal contexts, equal files and the same lines do not keep the two in step. A local shell fails
where its output does not take what a line prints, and the session goes on; a local shell goes on
behind `exit` where it cannot have its output, and the session is over; and a session fails where
its response is not taken, and the local shell goes on. -/
theorem run_outOfStep :
    (Shared [] "rc".toList ∧ Shared [] "exit".toList ∧
      ∀ (rules : Rules Unit) lines out out', rules.host.Obeys rules Rules.look ∧
        Shell.Pair rules.host Rules.look Rules.atRoot Rules.atRoot (deskBefore lines out).shell
          (onlineBefore lines out').shell) ∧
    (let full := Sink.refusing (.system Errno.noSpace)
     let gone := Sink.refusing (.system Errno.brokenPipe)
     let lines := ["rc", "exit"].map String.toList
     let late := ["exit", "rc"].map String.toList
     let i := Interpreter.ofTerminal []
     let j := Interpreter.ofServer []
     (LocalShell.run Rules.plain.host i (deskBefore lines full)).1.toOption = none ∧
     ((onlineBefore lines {}).run Rules.plain.host j).1 = .exitSession ∧
     (∀ deeds ending s' t', ¬ InStep Rules.plain.host i j (deskBefore lines full)
       (onlineBefore lines {}) deeds ending s' t') ∧
     (∀ deeds ending s' t', ¬ InStep withheld.host i j (deskBefore late {}) (onlineBefore late {})
       deeds ending s' t') ∧
     (∀ deeds ending s' t', ¬ InStep Rules.plain.host i j (deskBefore lines {})
       (onlineBefore lines gone) deeds ending s' t')) := by
  refine ⟨⟨by decide +kernel, by decide +kernel, fun rules _ _ _ =>
    ⟨rules.host_obeys, ⟨rfl, rfl, rfl, rfl, rfl⟩, rfl, rfl, rfl, rfl, trivial⟩⟩,
    by decide +kernel, by decide +kernel, ?_, ?_, ?_⟩
  -- each time the first steps differ: the shell fails, the session is over, the session fails
  · intro deeds ending s' t' h
    exact absurd h.stops_iff (by decide +kernel)
  · intro deeds ending s' t' h
    exact absurd h.stops_iff (by decide +kernel)
  · intro deeds ending s' t' h
    exact absurd h.stops_iff (by decide +kernel)

end PipeShell
