import PipeShell.Interpreter
import PipeShell.Wire.Response

/-!
# Sessions

A session serves one connection, which is the terminal of its shell. It takes request after request
and closes the response to each with one sentinel. It ends when the client leaves, asks for the end
of the session or of the server, breaks the protocol, or when sending fails. The two control words
are honoured before a request is read as a line.

Proves: each request handled uses up some of what the session has received (`step_size`), by which
a session over a finite stream ends.
-/

set_option autoImplicit false

namespace PipeShell

/-- How a session ended. -/
inductive SessionEnd where
  /-- The client left. -/
  | disconnected
  | exitSession
  | stopServer
  /-- The stream failed, or the client broke the protocol. -/
  | failed
  deriving DecidableEq, Repr

/-- The end that a control action brings about. -/
def ControlAction.sessionEnd : ControlAction → SessionEnd
  | exitSession => .exitSession
  | stopServer => .stopServer

/-- What a client is told at the end. -/
def ControlAction.farewell : ControlAction → String
  | exitSession => "Exiting client session\n"
  | stopServer => "Stopping server\n"

/-- The control action that a line asks for by a control word alone. -/
def ControlAction.ofWord? (line : Text) : Option ControlAction :=
  let word := Text.trim line
  if word = exitWord.toList then some .exitSession
  else if word = stopServerWord.toList then some .stopServer
  else none

/-- A session: the shell behind the connection, and bytes received but not yet handled. -/
structure Session (σ : Type) where
  shell : Shell σ
  pending : Bytes := []

namespace Session

variable {σ : Type} (host : Host σ)

/-- The session of a new connection. -/
def start (scope : Scope) (connection : Terminal) (world : World σ) : Session σ :=
  { shell := { context := Context.start host scope world, world, terminal := connection } }

/-- Sends on the connection. -/
def send (act : Sink → Except Failure Unit × Sink) (s : Shell σ) : Except Failure Unit × Shell σ :=
  let (result, output) := act s.terminal.output
  (result, { s with terminal := { s.terminal with output } })

/-- Tells the client of the end, and ends. -/
def finish (action : ControlAction) (s : Shell σ) : Except Failure (Option SessionEnd) × Shell σ :=
  match send (Wire.sendResponse action.farewell.toList) s with
  | (.error f, s) => (.error f, s)
  | (.ok (), s) => (.ok (some action.sessionEnd), s)

/-- Goes on after something was sent. -/
def goOn (sent : Except Failure Unit × Shell σ) : Except Failure (Option SessionEnd) × Shell σ :=
  (sent.1.map fun _ => none, sent.2)

/-- Closes the response to a line that was carried out or rejected. -/
def close (result : LineResult) (s : Shell σ) : Except Failure (Option SessionEnd) × Shell σ :=
  match result with
  | .rejected r => goOn (send (Wire.sendResponse (r.message ++ ['\n'])) s)
  | .builtin (.control action) => finish action s
  | .builtin _ => goOn (send Wire.sendSentinel s)
  | .pipeline _ => goOn (send Wire.sendSentinel s)

/-- Carries out a line and closes the response. -/
def answerLine (i : Interpreter) (line : Text) (s : Shell σ) :
    Except Failure (Option SessionEnd) × Shell σ :=
  match i.execute host line s with
  | (.error f, s) => (.error f, s)
  | (.ok result, s) => close result s

/-- Answers a request. Tells the end if the session is over with it. -/
def answer (i : Interpreter) (request : Text) (s : Shell σ) :
    Except Failure (Option SessionEnd) × Shell σ :=
  let line := Wire.stripNewline request
  match ControlAction.ofWord? line with
  | some action => finish action s
  | none => answerLine host i line s

/-- What the session receives from. -/
def inbox (s : Session σ) : Wire.Inbox := { pending := s.pending, source := s.shell.terminal.input }

/-- The session after receiving. -/
def withInbox (s : Session σ) (box : Wire.Inbox) : Session σ :=
  { shell := { s.shell with terminal := { s.shell.terminal with input := box.source } }
    pending := box.pending }

/-- Takes the next request and answers it. Tells the end if the session is over. -/
def step (i : Interpreter) (s : Session σ) : Option SessionEnd × Session σ :=
  match Wire.Inbox.next i.limits.requestLength s.inbox with
  | (.ok none, box) => (some .disconnected, s.withInbox box)
  | (.error (.tooLarge max), box) =>
    let notice := (Wire.RequestError.tooLarge max).message ++ ['\n']
    let s := s.withInbox box
    (some .failed, { s with shell := (send (Wire.sendResponse notice) s.shell).2 })
  | (.error (.receive _), box) => (some .failed, s.withInbox box)
  | (.ok (some request), box) =>
    let s := s.withInbox box
    let (result, shell) := answer host i request s.shell
    match result with
    | .ok ending => (ending, { s with shell })
    | .error _ => (some .failed, { s with shell })

/-- How much the session has received and not handled, and may still receive. -/
def size (s : Session σ) : Nat := s.pending.length + s.shell.unread

/-! ## What is used up -/

theorem send_unread (act : Sink → Except Failure Unit × Sink) (s : Shell σ) :
    (send act s).2.unread = s.unread := rfl

theorem finish_unread (action : ControlAction) (s : Shell σ) :
    (finish action s).2.unread = s.unread := by
  have h := send_unread (Wire.sendResponse action.farewell.toList) s
  unfold finish
  split <;> rename_i hr <;> simpa [hr] using h

theorem close_unread (result : LineResult) (s : Shell σ) :
    (close result s).2.unread = s.unread := by
  unfold close
  split
  · rfl
  · exact finish_unread _ s
  · rfl
  · rfl

theorem answerLine_unread (i : Interpreter) (line : Text) (s : Shell σ) :
    (answerLine host i line s).2.unread ≤ s.unread := by
  have h := i.execute_unread host line s
  unfold answerLine
  split <;> rename_i hr <;> rw [hr] at h
  · exact h
  · rw [close_unread]; exact h

theorem answer_unread (i : Interpreter) (request : Text) (s : Shell σ) :
    (answer host i request s).2.unread ≤ s.unread := by
  unfold answer
  dsimp only
  split
  · exact Nat.le_of_eq (finish_unread _ s)
  · exact answerLine_unread host i _ s

theorem step_size {i : Interpreter} {s : Session σ} (h : (s.step host i).1 = none) :
    (s.step host i).2.size < s.size := by
  unfold step at h ⊢
  split at h
  · simp at h
  · simp at h
  · simp at h
  · rename_i request box hbox
    have hlt := Wire.Inbox.next_size (show _ = Except.ok (some request) from congrArg Prod.fst hbox)
    rw [hbox] at hlt
    have hle := answer_unread host i request (s.withInbox box).shell
    have hs : (s.withInbox box).pending.length + (s.withInbox box).shell.unread < s.size := hlt
    simp only at h ⊢
    split <;> simp only [size] at hs ⊢ <;> omega

/-- Serves the connection to its end. -/
def run (i : Interpreter) (s : Session σ) : SessionEnd × Session σ :=
  match _h : s.step host i with
  | (some e, s) => (e, s)
  | (none, s) => run i s
termination_by s.size
decreasing_by
  have hlt := step_size host (show _ = none from congrArg Prod.fst _h)
  rw [_h] at hlt
  exact hlt

/-- A step that ends the session is the last one. -/
theorem run_of_over {i : Interpreter} {s s' : Session σ} {e : SessionEnd}
    (h : s.step host i = (some e, s')) : s.run host i = (e, s') := by
  rw [run]
  split <;> rename_i hs <;> rw [h] at hs <;> cases hs
  rfl

/-- After any other step the session goes on. -/
theorem run_of_on {i : Interpreter} {s s' : Session σ} (h : s.step host i = (none, s')) :
    s.run host i = s'.run host i := by
  rw [run.eq_def host i s]
  split <;> rename_i hs <;> rw [h] at hs <;> cases hs
  rfl

/-- Has a request arrived whole, or so much that the session must refuse it? -/
def isReady (i : Interpreter) (s : Session σ) : Bool :=
  let arrived := s.pending ++ s.shell.terminal.input.bytes
  (Bytes.cutAt Wire.terminator arrived).isSome || decide (i.limits.requestLength ≤ arrived.length)

/-- Answers requests as long as they have arrived whole. -/
def catchUp (i : Interpreter) (s : Session σ) : Option SessionEnd × Session σ :=
  if s.isReady i then
    match _h : s.step host i with
    | (some e, s) => (some e, s)
    | (none, s) => catchUp i s
  else (none, s)
termination_by s.size
decreasing_by
  have hlt := step_size host (show _ = none from congrArg Prod.fst _h)
  rw [_h] at hlt
  exact hlt

end Session

end PipeShell
