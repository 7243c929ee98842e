import PipeShell.Machine.Program

/-!
# Signals

A signal ends a process unless the process ignores it, has asked to be told of it, or the signal is
one that means nothing by default. Two signals cannot be ignored or caught.
-/

set_option autoImplicit false

namespace PipeShell.Machine.Signal

/-- The names of the common signals from number one on. -/
def commonNames : List String :=
  ["HUP", "INT", "QUIT", "ILL", "TRAP", "ABRT", "BUS", "FPE", "KILL", "USR1", "SEGV", "USR2",
    "PIPE", "ALRM", "TERM", "16", "CHLD", "CONT", "STOP", "TSTP", "TTIN", "TTOU", "URG", "XCPU",
    "XFSZ", "VTALRM", "PROF", "WINCH", "IO", "PWR", "SYS", "32", "33"]

/-- The names of the signals from number one on; those for free use are counted from both ends. -/
def names : List Raw :=
  let numbered (front : String) (k : Nat) : Raw :=
    if k = 0 then (front.dropEnd 1).toString.toList else front.toList ++ Numeral.ofNat k
  commonNames.map String.toList ++ (List.range 16).map (numbered "RTMIN+") ++
    (List.range 15).reverse.map (numbered "RTMAX-")

/-- The number of a name, in letters of either case. -/
def number? (name : Raw) : Option Nat :=
  (names.findIdx? fun n => n.map Char.toLower == name.map Char.toLower).map (· + 1)

/-- The largest number of a signal. -/
def largest : Nat := 64

/-- What is said of a process that a signal has killed. -/
def descriptions : List (Nat × String) :=
  [(1, "Hangup"), (3, "Quit"), (4, "Illegal instruction"), (5, "Trace/breakpoint trap"),
    (6, "Aborted"), (7, "Bus error"), (8, "Floating point exception"), (9, "Killed"),
    (10, "User defined signal 1"), (11, "Segmentation fault"), (12, "User defined signal 2"),
    (14, "Alarm clock"), (15, "Terminated"), (16, "Stack fault"), (24, "CPU time limit exceeded"),
    (25, "File size limit exceeded"), (26, "Virtual timer expired"),
    (27, "Profiling timer expired"), (29, "I/O possible"), (30, "Power failure"),
    (31, "Bad system call")]

/-- Killed by force. -/
def kill : Nat := 9

/-- Wrote to a pipe without a reader. -/
def brokenPipe : Nat := 13

/-- The signals that do nothing unless they are caught. -/
def harmless : List Nat := [17, 18, 23, 28]

/-- The signals that stop a process. -/
def stopping : List Nat := [19, 20, 21, 22]

/-- Can a signal be neither ignored nor caught? -/
def isSovereign (n : Nat) : Bool := n == kill || n == 19

/-- Sends a signal to a process. -/
def send (s : State) (p : ProcessId) (n : Nat) : State :=
  match (s.entry? p).bind fun e => e.dispositions.lookup n with
  | some .ignored => s
  | some .caught => s.modifyEntry p fun e => { e with pending := e.pending ++ [n] }
  | none => if harmless.contains n || stopping.contains n then s else s.finish p (.signal n)

/-- Sends a signal to a process that asks for it; number zero only asks whether there is the
process. -/
def sendTo (target : Int) (n : Nat) : Job (Except Errno Unit) :=
  Job.act fun _ s =>
    let p := target.toNat
    if target = 1 then (.error Errno.notPermitted, s)
    else if (s.entry? p).isNone then (.error Errno.noProcess, s)
    else if n = 0 then (.ok (), s)
    else (.ok (), send s p n)

/-- Sets what the process does about a signal. -/
def dispose (n : Nat) (d : Option Disposition) : Job Unit :=
  Job.act fun p s => ((), s.modifyEntry p fun e =>
    let others := e.dispositions.filter (·.1 != n)
    { e with dispositions := match d with
      | some d => (n, d) :: others
      | none => others })

/-- The caught signals that the process has not looked at; it has looked at them now. -/
def takePending : Job (List Nat) :=
  Job.act fun p s =>
    (((s.entry? p).map Entry.pending).getD [], s.modifyEntry p fun e => { e with pending := [] })

end PipeShell.Machine.Signal
