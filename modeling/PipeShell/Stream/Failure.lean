import PipeShell.System.Errno

/-!
# Failures of input and output

Every way in which reading, writing, opening, changing directory or starting a program can fail,
as a cause with one wording.
-/

set_option autoImplicit false

namespace PipeShell

/-- What can go wrong on a stream that has no system code to show for it. -/
inductive StreamFault where
  | interrupted
  | connectionReset
  | connectionAborted
  | brokenPipe
  | timedOut
  | wouldBlock
  | unexpectedEnd
  | permissionDenied
  | other
  deriving DecidableEq, Repr

/-- The wording of a stream fault. -/
def StreamFault.message : StreamFault → String
  | interrupted => "operation interrupted"
  | connectionReset => "connection reset"
  | connectionAborted => "connection aborted"
  | brokenPipe => "broken pipe"
  | timedOut => "timed out"
  | wouldBlock => "operation would block"
  | unexpectedEnd => "unexpected end of file"
  | permissionDenied => "permission denied"
  | other => "other error"

/-- Why an operation failed. -/
inductive Failure where
  /-- The system refused, with its code. -/
  | system (code : Errno)
  /-- The stream itself failed. -/
  | stream (fault : StreamFault)
  /-- The receiver takes no more bytes and gives no reason. -/
  | writeZero
  /-- A line is not UTF-8. -/
  | invalidText
  /-- A path holds a NUL. -/
  | nulInPath
  /-- A program name, an argument or a directory for a program holds a NUL. -/
  | nulInArgument
  /-- The target of a change of directory exists and is no directory. -/
  | notDirectory
  deriving DecidableEq, Repr

namespace Failure

/-- The wording of a failure. -/
def message : Failure → Text
  | system code => Errno.text code ++ " (os error ".toList ++ Numeral.ofInt code ++ ")".toList
  | stream fault => fault.message.toList
  | writeZero => "failed to write whole buffer".toList
  | invalidText => "stream did not contain valid UTF-8".toList
  | nulInPath => "file name contained an unexpected NUL byte".toList
  | nulInArgument => "nul byte found in provided data".toList
  | notDirectory => "Not a directory".toList

/-- The system's code, where there is one. -/
def code? : Failure → Option Errno
  | system code => some code
  | _ => none

/-- Was an operation only interrupted? It may be tried again as it was. -/
def isInterruption : Failure → Bool
  | system code => code == Errno.interrupted
  | stream fault => fault == .interrupted
  | _ => false

end Failure

end PipeShell
