/-!
# Stop signals

A stop signal is a flag that several holders share. Each holder has a number; a copy shares the
flag of the holder it was made from. A raised flag never goes down.
-/

set_option autoImplicit false

namespace PipeShell

/-- The flags made so far, and for each holder the flag it shares. -/
structure StopSignals where
  flags : List Bool := []
  holders : List Nat := []

namespace StopSignals

/-- Adds a holder with a flag of its own. -/
def create (s : StopSignals) : StopSignals :=
  { flags := s.flags ++ [false], holders := s.holders ++ [s.flags.length] }

/-- Adds a holder that shares the flag of holder `k`. -/
def share (s : StopSignals) (k : Nat) : StopSignals :=
  match s.holders[k]? with
  | some flag => { s with holders := s.holders ++ [flag] }
  | none => s

/-- Raises the flag of holder `k`. -/
def request (s : StopSignals) (k : Nat) : StopSignals :=
  match s.holders[k]? with
  | some flag => { s with flags := s.flags.set flag true }
  | none => s

/-- What holder `k` sees. -/
def shouldStop (s : StopSignals) (k : Nat) : Bool :=
  ((s.holders[k]?.bind fun flag => s.flags[flag]?)).getD false

/-- What each holder sees. -/
def view (s : StopSignals) : List Bool := (List.range s.holders.length).map s.shouldStop

end StopSignals

end PipeShell
