import PipeShell.Wire.Response

/-!
# Clients

A client sends one line per request and copies the response to a sink. The far end of its
connection is whatever takes what is sent and lets bytes arrive in return. A far end that is over
may refuse what is sent, and then the client fails to send.
-/

set_option autoImplicit false

namespace PipeShell

/-- The far end of a connection, with states `τ`: it takes bytes, and bytes arrive in return. -/
structure Peer (τ : Type) where
  receive : Bytes → τ → Source × τ
  /-- How many bytes it still lets through and why it refuses more, once it is over. -/
  cutOff : τ → Option (Nat × Failure) := fun _ => none

/-- A peer that only takes. -/
def Peer.silent : Peer Unit where
  receive _ s := ([], s)

/-- The near end of a connection. -/
structure Client (τ : Type) where
  /-- What has arrived, or will, and was not read. -/
  incoming : Source := []
  /-- Where requests are sent. -/
  outgoing : Sink := {}
  /-- The state of the far end. -/
  peer : τ

/-- Why a request was not answered. -/
inductive ClientError where
  | send (failure : Failure)
  | receive (failure : Failure)
  /-- The stream ended before the response did. -/
  | closed
  deriving DecidableEq, Repr

/-- The wording of an error. -/
def ClientError.message : ClientError → Text
  | send f => "failed to send request: ".toList ++ f.message
  | receive f => "failed to read response: ".toList ++ f.message
  | closed => "server closed the connection".toList

namespace Client

variable {τ : Type} (peer : Peer τ)

/-- Where requests are sent for now: a far end that is over bounds what is let through. -/
def outlet (c : Client τ) : Sink :=
  match peer.cutOff c.peer with
  | none => c.outgoing
  | some (room, refusal) => { c.outgoing with room := some room, refusal := some refusal }

/-- Sends a line. What was sent of it reaches the far end. -/
def request (line : Text) (c : Client τ) : Except Failure Unit × Client τ :=
  let (result, outgoing) := Wire.sendRequest line (c.outlet peer)
  let (arriving, state) := peer.receive (outgoing.taken.drop c.outgoing.taken.length) c.peer
  (result, { incoming := c.incoming ++ arriving, outgoing, peer := state })

/-- Copies the response to a sink. -/
def response (c : Client τ) (out : Sink) : Except ClientError Unit × Client τ × Sink :=
  match Wire.readResponse c.incoming out with
  | (.error f, incoming, out) => (.error (.receive f), { c with incoming }, out)
  | (.ok false, incoming, out) => (.error .closed, { c with incoming }, out)
  | (.ok true, incoming, out) => (.ok (), { c with incoming }, out)

/-- Sends a line and copies the response to a sink. -/
def execute (line : Text) (c : Client τ) (out : Sink) :
    Except ClientError Unit × Client τ × Sink :=
  match c.request peer line with
  | (.error f, c) => (.error (.send f), c, out)
  | (.ok (), c) => c.response out

/-- Sends a line and gives the response as text. -/
def executeToText (line : Text) (c : Client τ) : Except ClientError Text × Client τ :=
  match c.execute peer line {} with
  | (.error e, c, _) => (.error e, c)
  | (.ok (), c, out) => (.ok (Utf8.decodeLossy out.taken), c)

end Client

end PipeShell
