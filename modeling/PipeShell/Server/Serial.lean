import PipeShell.Server.Config
import PipeShell.Session
import PipeShell.StopSignal

/-!
# Serving one client at a time

A server without workers takes the next connection only when the session before it is over. It
looks at its stop signal before each attempt. It stops when the signal is raised or when a session
ended with a request to stop the server; an attempt that brings nothing is repeated, and any other
failed attempt ends the server with an error.
-/

set_option autoImplicit false

namespace PipeShell

/-- How a server carries out lines. -/
def ServerConfig.interpreter (c : ServerConfig) : Interpreter :=
  { limits := c.limits, offered := BuiltinSet.forClients }

namespace SerialServer

/-- What happens at a server. -/
inductive Event where
  /-- An attempt to accept brings a connection. -/
  | connection (terminal : Terminal)
  /-- An attempt to accept brings nothing. -/
  | nothing
  /-- An attempt to accept is interrupted. -/
  | interrupted
  /-- An attempt to accept fails. -/
  | failed (failure : Failure)
  /-- A holder of the stop signal raises it. -/
  | stopRequest (holder : Nat)

/-- What became of a server. -/
inductive Fate where
  /-- It waits for what happens next. -/
  | waiting
  | stopped
  | failed (failure : Failure)
  deriving DecidableEq, Repr

/-- A session that is over: how it ended, and what became of its connection. -/
structure Served where
  ending : SessionEnd
  connection : Terminal

/-- A server: the system, the stop signal with the server's own number among its holders, and the
sessions served so far, in order. -/
structure State (σ : Type) where
  world : World σ
  signals : StopSignals := StopSignals.create {}
  holder : Nat := 0
  served : List Served := []

variable {σ : Type} (host : Host σ)

/-- Serves one connection to its end. -/
def serve (c : ServerConfig) (connection : Terminal) (s : State σ) : SessionEnd × State σ :=
  let (ending, session) := (Session.start host c.scope connection s.world).run host c.interpreter
  (ending, { s with world := session.shell.world
                    served := s.served ++ [⟨ending, session.shell.terminal⟩] })

/-- Runs a server while things happen. -/
def run (c : ServerConfig) : List Event → State σ → Fate × State σ
  | events, s =>
    if s.signals.shouldStop s.holder then (.stopped, s)
    else match events with
      | [] => (.waiting, s)
      | .nothing :: rest => run c rest s
      | .interrupted :: rest => run c rest s
      | .failed f :: _ => (.failed f, s)
      | .stopRequest k :: rest => run c rest { s with signals := s.signals.request k }
      | .connection terminal :: rest =>
        match serve host c terminal s with
        | (.stopServer, s) => (.stopped, s)
        | (_, s) => run c rest s

end SerialServer

end PipeShell
