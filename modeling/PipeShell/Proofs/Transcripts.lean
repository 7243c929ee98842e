import PipeShell.Proofs.Replay
import PipeShell.Proofs.TerminalUse

/-!
# What a line writes

All that a line does to its terminal, where programs leave the input alone, is to write to its two
channels. What was written in order is a transcript, and a terminal with a transcript applied is
`Terminal.writes`. On a terminal that takes what is written (`Terminal.Open`) each sink has got the
bytes of the channels that lead to it (`Terminal.Open.taken_writes`).

On a system that follows rules a line writes the same transcript in two runs that start from equal
files, whatever terminals they write to (`Interpreter.execute_transcript`).
-/

set_option autoImplicit false

namespace PipeShell

/-- What was written to a terminal, in order. -/
abbrev Transcript := List (Channel × Bytes)

/-- All bytes of a transcript, as one sink gets them. -/
def Transcript.bytes (wrote : Transcript) : Bytes := wrote.flatMap Prod.snd

namespace Terminal

/-- The terminal after a transcript was written to it. -/
def writes (t : Terminal) (wrote : Transcript) : Terminal :=
  wrote.foldl (fun t w => t.write w.1 w.2) t

/-- Both channels take what is written. -/
def Open (t : Terminal) : Prop := ∀ channel, (t.sink channel).Open

/-- The two channels lead to the same sink. -/
def Joins (t : Terminal) (a b : Channel) : Prop := a = b ∨ t.error = none

instance (t : Terminal) (a b : Channel) : Decidable (t.Joins a b) :=
  inferInstanceAs (Decidable (a = b ∨ t.error = none))

variable {t u : Terminal}

theorem Connected.open (h : t.Connected) : t.Open := by
  intro channel
  rw [h.sink_eq]
  exact h.output_open

/-! ## Writing -/

theorem writes_append (wrote more : Transcript) :
    t.writes (wrote ++ more) = (t.writes wrote).writes more := List.foldl_append

@[simp] theorem writes_input (wrote : Transcript) : (t.writes wrote).input = t.input :=
  foldl_write_input wrote t

/-- A sink that is put behind a channel is behind all channels that lead to it, and no other. -/
theorem sink_withSink (a b : Channel) (s : Sink) :
    (t.withSink a s).sink b = if t.Joins a b then s else t.sink b := by
  obtain ⟨input, seekable, output, error⟩ := t
  cases a <;> cases b <;> cases error <;> rfl

theorem joins_withSink (a : Channel) (s : Sink) (b c : Channel) :
    (t.withSink a s).Joins b c ↔ t.Joins b c := by
  obtain ⟨input, seekable, output, error⟩ := t
  cases a <;> cases error <;> simp [Joins, withSink]

/-- An open terminal takes what is written to a channel, and stays open. -/
theorem Open.write (h : t.Open) (channel : Channel) (bs : Bytes) :
    (t.write channel bs).Open ∧ ∀ c, ((t.write channel bs).sink c).taken =
      (t.sink c).taken ++ if t.Joins channel c then bs else [] := by
  obtain ⟨s, hd, hs, ht⟩ := Sink.deliver_open (h channel) bs
  unfold Terminal.write
  rw [hd]
  refine ⟨fun c => ?_, fun c => ?_⟩
  · rw [sink_withSink]
    split
    · exact hs
    · exact h c
  · rw [sink_withSink]
    by_cases hc : t.Joins channel c
    · have hsame : t.sink channel = t.sink c := by
        rcases hc with rfl | herror
        · rfl
        · cases channel <;> cases c <;> simp [sink, herror]
      rw [if_pos hc, if_pos hc, ht, hsame]
    · rw [if_neg hc, if_neg hc, List.append_nil]

theorem Open.writes (h : t.Open) (wrote : Transcript) : (t.writes wrote).Open := by
  induction wrote generalizing t with
  | nil => exact h
  | cons w rest ih => exact ih (h.write w.1 w.2).1

/-- **What was written was taken**: each sink gets the bytes of the channels that lead to it. -/
theorem Open.taken_writes (h : t.Open) (wrote : Transcript) (channel : Channel) :
    ((t.writes wrote).sink channel).taken = (t.sink channel).taken ++
      Transcript.bytes (wrote.filter fun w => t.Joins w.1 channel) := by
  induction wrote generalizing t with
  | nil => exact (List.append_nil _).symm
  | cons w rest ih =>
    obtain ⟨hopen, htaken⟩ := h.write w.1 w.2
    have hrest := ih hopen
    have hjoins : ∀ v : Channel × Bytes,
        decide ((t.write w.1 w.2).Joins v.1 channel) = decide (t.Joins v.1 channel) :=
      fun v => decide_eq_decide.2 (joins_withSink _ _ _ _)
    simp only [hjoins] at hrest
    change (((t.write w.1 w.2).writes rest).sink channel).taken = _
    rw [hrest, htaken, List.append_assoc, List.filter_cons]
    by_cases hw : t.Joins w.1 channel
    · rw [if_pos hw, if_pos (decide_eq_true hw)]
      rfl
    · rw [if_neg hw, if_neg (by simpa using hw)]
      rfl

/-- The terminal was written a transcript and has taken it: each sink has got the bytes of the
channels that lead to it. -/
structure Took (t : Terminal) (wrote : Transcript) (u : Terminal) : Prop where
  eq_writes : u = t.writes wrote
  taken_eq : ∀ channel, (u.sink channel).taken = (t.sink channel).taken ++
    Transcript.bytes (wrote.filter fun w => t.Joins w.1 channel)

theorem Open.took (h : t.Open) (wrote : Transcript) : t.Took wrote (t.writes wrote) :=
  ⟨rfl, h.taken_writes wrote⟩

/-- Over a connection all that is written is taken in one row. -/
theorem Connected.taken_writes (h : t.Connected) (wrote : Transcript) :
    (t.writes wrote).output.taken = t.output.taken ++ wrote.bytes := by
  have htaken := h.open.taken_writes wrote .output
  have hall : wrote.filter (fun w => t.Joins w.1 .output) = wrote :=
    List.filter_eq_self.2 fun w _ => decide_eq_true (Or.inr h.error_eq)
  rwa [hall] at htaken

/-! ## All ways to write -/

theorem send_snd (s : Sink) (bs : Bytes) : (s.send [bs]).2 = (s.deliver bs).2 := by
  unfold Sink.send Sink.deliverEach
  rcases s.deliver bs with ⟨f | _, s'⟩
  · rfl
  · dsimp only [Sink.deliverEach]
    unfold Sink.flush
    split <;> rfl

theorem say_eq (text : Text) : { t with output := (t.output.send [Utf8.encode text]).2 } =
    t.writes [(.output, Utf8.encode text)] := by
  rw [send_snd]
  rfl

theorem report_eq (channel : Channel) (line : Text) :
    t.report channel line = t.writes [(channel, Utf8.encode (line ++ ['\n']))] := by
  rw [report, send_snd]
  rfl

theorem undergo_eq (wrote : Transcript) : t.undergo { wrote } = t.writes wrote := by
  rw [undergo, Source.skip]
  rfl

/-- The same transcript was written to both, since they were the terminals `t` and `u`. -/
def Alike (t u t' u' : Terminal) : Prop :=
  ∃ wrote : Transcript, t' = t.writes wrote ∧ u' = u.writes wrote

theorem alike_self (t u : Terminal) : Alike t u t u := ⟨[], rfl, rfl⟩

theorem Alike.more {t' u' : Terminal} (h : Alike t u t' u') (more : Transcript) :
    Alike t u (t'.writes more) (u'.writes more) := by
  obtain ⟨wrote, rfl, rfl⟩ := h
  exact ⟨wrote ++ more, (writes_append _ _).symm, (writes_append _ _).symm⟩

/-- Whatever is done to two open terminals writes the same to both. -/
theorem parallel_alike (ht : t.Open) (hu : u.Open) : Parallel (Alike t u) where
  say := by
    intro t' u' h text
    refine ⟨?_, ?_⟩
    · obtain ⟨wrote, rfl, rfl⟩ := h
      have hsend : ∀ {s : Sink}, s.Open → (s.send [Utf8.encode text]).1 = .ok () := by
        intro s hs
        obtain ⟨s', hsend, -, -⟩ := Sink.send_open hs [Utf8.encode text]
        rw [hsend]
      have hopen : (t.writes wrote).output.Open := ht.writes wrote .output
      have hopen' : (u.writes wrote).output.Open := hu.writes wrote .output
      rw [hsend hopen, hsend hopen']
    · rw [say_eq, say_eq]
      exact h.more _
  report := by
    intro t' u' h text
    rw [report_eq, report_eq]
    exact h.more _
  undergo := by
    intro t' u' h wrote
    rw [undergo_eq, undergo_eq]
    exact h.more _

end Terminal

/-! ## Lines -/

variable {σ φ : Type} {host : Host σ} {rules : Rules φ} {look : Look σ φ} {w w' : World σ}

/-- Two shells side by side, whatever is known of their terminals. -/
abbrev Shell.Pair (host : Host σ) (look : Look σ φ) (w w' : World σ) (s s' : Shell σ) : Prop :=
  Shell.Twins host look (fun _ _ => True) w w' [] s s'

/-- **A line writes the same** on both of two open terminals, and comes to the same. -/
theorem Interpreter.execute_transcript {i j : Interpreter} (ho : host.Obeys rules look)
    {s s' : Shell σ} (h : Shell.Pair host look w w' s s') (hs : s.terminal.Open)
    (hs' : s'.terminal.Open) (hlimits : i.limits = j.limits) {line : Text}
    (hoffered : ∀ command, Pipeline.parse i.limits line = .ok [command] →
      i.offered.find? command.name = j.offered.find? command.name) :
    ∃ (result : LineResult) (wrote : Transcript) (t t' : Shell σ),
      i.execute host line s = (.ok result, t) ∧ j.execute host line s' = (.ok result, t') ∧
      t.terminal = s.terminal.writes wrote ∧ t'.terminal = s'.terminal.writes wrote ∧
      Shell.Pair host look w w' t t' := by
  have hstart : Shell.Twins host look (Terminal.Alike s.terminal s'.terminal) w w' [] s s' :=
    { h with terminal := Terminal.alike_self _ _ }
  obtain ⟨hresult, hafter⟩ :=
    Interpreter.execute_twins ho (Terminal.parallel_alike hs hs') hstart hlimits hoffered
  obtain ⟨result, hok⟩ : ∃ result, (i.execute host line s).1 = .ok result :=
    i.execute_ok line (hs .output)
  obtain ⟨wrote, ht, ht'⟩ := hafter.terminal
  refine ⟨result, wrote, _, _, Prod.ext hok rfl, Prod.ext (hresult.symm.trans hok) rfl, ht, ht', ?_⟩
  exact { hafter with terminal := trivial }

end PipeShell
