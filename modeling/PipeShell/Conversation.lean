import PipeShell.Server.Workers
import PipeShell.Client

/-!
# Conversations

A client and a session at the two ends of one connection. Seen from the client, the session is a
far end that takes bytes and answers every request it then holds whole; what it sends arrives at
once. A session that is over answers nothing more. Processes that programs have left behind go on
writing to the connection, whether the session is over or not.
-/

set_option autoImplicit false

namespace PipeShell

/-- A session at the far end, and how it ended, if it did. -/
structure FarSession (σ : Type) where
  session : Session σ
  ending : Option SessionEnd := none

namespace FarSession

variable {σ : Type} (host : Host σ)

/-- Processes that were left behind do what they do to the connection while the session waits. -/
def linger (far : FarSession σ) : FarSession σ :=
  let shell := far.session.shell
  let (conduct, system) := host.linger shell.terminal shell.world.system
  let shell := { shell with
    terminal := shell.terminal.undergo conduct, world := { shell.world with system } }
  { far with session := { far.session with shell } }

/-- A session that is on answers all requests that its inbox holds whole. Then it waits. -/
def goOn (i : Interpreter) (box : Wire.Inbox) (far : FarSession σ) : FarSession σ :=
  match far.ending with
  | some _ => far.linger host
  | none =>
    let (ending, session) := (far.session.withInbox box).catchUp host i
    linger host { session, ending }

/-- What was sent to the client. -/
def sent (far : FarSession σ) : Bytes := far.session.shell.terminal.output.taken

/-- Takes bytes, and sends the responses to all requests held whole. -/
def receive (i : Interpreter) (bs : Bytes) (far : FarSession σ) : Source × FarSession σ :=
  let after := far.goOn host i
    { pending := far.session.pending ++ bs, source := far.session.shell.terminal.input }
  (Source.ofBytes (after.sent.drop far.sent.length), after)

/-- The client leaves. -/
def hangUp (i : Interpreter) (far : FarSession σ) : FarSession σ :=
  match far.ending with
  | some _ => far
  | none =>
    let (ending, session) := far.session.run host i
    { session, ending := some ending }

/-- A session as the far end of a client's connection. The first bytes sent to a session that is
over are let through to nobody, and what follows them meets a broken pipe. -/
def peer (i : Interpreter) : Peer (FarSession σ) where
  receive := receive host i
  cutOff far := far.ending.map fun _ => (1, .system Errno.brokenPipe)

end FarSession

namespace Workers

variable {σ : Type} (host : Host σ)

/-- Lets a worker's far end act on the system. -/
def withFarSession {α : Type} (k : Nat) (act : FarSession σ → α × FarSession σ) (none' : α)
    (s : State σ) : α × State σ :=
  match s.workers[k]? with
  | none => (none', s)
  | some w =>
    let (result, far) := act { session := w.session s.world, ending := w.ending }
    (result, { world := far.session.shell.world
               workers := s.workers.set k (Worker.ofSession far.ending far.session) })

/-- A client sends a line to its worker, and copies the response. -/
def request (c : ServerConfig) (k : Nat) (line : Text) (s : State σ) :
    Except ClientError Bytes × State σ :=
  withFarSession k
    (fun far =>
      let client : Client (FarSession σ) := { peer := far }
      match client.execute (FarSession.peer host c.interpreter) line {} with
      | (.ok (), client, out) => (.ok out.taken, client.peer)
      | (.error e, client, _) => (.error e, client.peer))
    (.error .closed) s

/-- A client leaves. -/
def leave (c : ServerConfig) (k : Nat) (s : State σ) : State σ :=
  (withFarSession k (fun far => ((), far.hangUp host c.interpreter)) () s).2

end Workers

end PipeShell
