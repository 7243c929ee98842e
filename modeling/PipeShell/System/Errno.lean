import PipeShell.Text.Numeral

/-!
# System error codes

The codes that the shell itself names, and the two wordings a code is reported with: the system's
own text, used wherever a failed operation is reported, and the shorter wording used when a program
cannot be started. A code without a text is written with its number.
-/

set_option autoImplicit false

namespace PipeShell

/-- The number of a system error. -/
abbrev Errno := Int

namespace Errno

/-! ## Codes with a name -/

/-- The operation is not permitted. -/
def notPermitted : Errno := 1
/-- No such file or directory. -/
def noEntry : Errno := 2
/-- No such process. -/
def noProcess : Errno := 3
/-- A call was interrupted by a signal. -/
def interrupted : Errno := 4
/-- No such device. -/
def noDevice : Errno := 6
/-- The argument list of a program is too long. -/
def listTooLong : Errno := 7
/-- An executable file is in no known format. -/
def badFormat : Errno := 8
/-- The descriptor is not open for the operation. -/
def badDescriptor : Errno := 9
/-- There is no child to wait for. -/
def noChild : Errno := 10
/-- Permission denied. -/
def accessDenied : Errno := 13
/-- The device or the file is in use. -/
def busy : Errno := 16
/-- The entry is there already. -/
def alreadyExists : Errno := 17
/-- The files are on different devices. -/
def otherDevice : Errno := 18
/-- A path goes through something that is not a directory. -/
def notDirectory : Errno := 20
/-- The operation is not for directories. -/
def isDirectory : Errno := 21
/-- Invalid argument. -/
def invalidArgument : Errno := 22
/-- A program is being written to. -/
def textBusy : Errno := 26
/-- No space left on the device. -/
def noSpace : Errno := 28
/-- There is no place to go to in the file. -/
def notSeekable : Errno := 29
/-- Nobody reads from the pipe. -/
def brokenPipe : Errno := 32
/-- A path or one of its names is too long. -/
def nameTooLong : Errno := 36
/-- The directory is not empty. -/
def notEmpty : Errno := 39
/-- A path goes through too many symbolic links. -/
def tooManyLinks : Errno := 40
/-- A row of bytes is no character. -/
def badSequence : Errno := 84
/-- The address is in use. -/
def addressInUse : Errno := 98
/-- The address is none of this machine. -/
def addressUnavailable : Errno := 99
/-- No route leads to the address. -/
def networkUnreachable : Errno := 101

/-! ## Wordings -/

/-- The system's texts, by code from zero. -/
def texts : List String :=
  ["Success", "Operation not permitted", "No such file or directory", "No such process",
    "Interrupted system call", "Input/output error", "No such device or address",
    "Argument list too long", "Exec format error", "Bad file descriptor", "No child processes",
    "Resource temporarily unavailable", "Cannot allocate memory", "Permission denied",
    "Bad address", "Block device required", "Device or resource busy", "File exists",
    "Invalid cross-device link", "No such device", "Not a directory", "Is a directory",
    "Invalid argument", "Too many open files in system", "Too many open files",
    "Inappropriate ioctl for device", "Text file busy", "File too large",
    "No space left on device", "Illegal seek", "Read-only file system", "Too many links",
    "Broken pipe", "Numerical argument out of domain", "Numerical result out of range",
    "Resource deadlock avoided", "File name too long", "No locks available",
    "Function not implemented", "Directory not empty", "Too many levels of symbolic links",
    "Unknown error 41", "No message of desired type", "Identifier removed",
    "Channel number out of range", "Level 2 not synchronized", "Level 3 halted", "Level 3 reset",
    "Link number out of range", "Protocol driver not attached", "No CSI structure available",
    "Level 2 halted", "Invalid exchange", "Invalid request descriptor", "Exchange full",
    "No anode", "Invalid request code", "Invalid slot", "Unknown error 58",
    "Bad font file format", "Device not a stream", "No data available", "Timer expired",
    "Out of streams resources", "Machine is not on the network", "Package not installed",
    "Object is remote", "Link has been severed", "Advertise error", "Srmount error",
    "Communication error on send", "Protocol error", "Multihop attempted", "RFS specific error",
    "Bad message", "Value too large for defined data type", "Name not unique on network",
    "File descriptor in bad state", "Remote address changed",
    "Can not access a needed shared library", "Accessing a corrupted shared library",
    ".lib section in a.out corrupted", "Attempting to link in too many shared libraries",
    "Cannot exec a shared library directly", "Invalid or incomplete multibyte or wide character",
    "Interrupted system call should be restarted", "Streams pipe error", "Too many users",
    "Socket operation on non-socket", "Destination address required", "Message too long",
    "Protocol wrong type for socket", "Protocol not available", "Protocol not supported",
    "Socket type not supported", "Operation not supported", "Protocol family not supported",
    "Address family not supported by protocol", "Address already in use",
    "Cannot assign requested address", "Network is down", "Network is unreachable",
    "Network dropped connection on reset", "Software caused connection abort",
    "Connection reset by peer", "No buffer space available",
    "Transport endpoint is already connected", "Transport endpoint is not connected",
    "Cannot send after transport endpoint shutdown", "Too many references: cannot splice",
    "Connection timed out", "Connection refused", "Host is down", "No route to host",
    "Operation already in progress", "Operation now in progress", "Stale file handle",
    "Structure needs cleaning", "Not a XENIX named type file", "No XENIX semaphores available",
    "Is a named type file", "Remote I/O error", "Disk quota exceeded", "No medium found",
    "Wrong medium type", "Operation canceled", "Required key not available", "Key has expired",
    "Key has been revoked", "Key was rejected by service", "Owner died", "State not recoverable",
    "Operation not possible due to RF-kill", "Memory page has hardware error"]

/-- Where the wording for a program that cannot be started differs from the system's text. -/
def startTexts : List (Int × String) :=
  [(0, "Unknown errno"), (5, "I/O error"), (9, "Bad file number"), (11, "Try again"),
    (12, "Out of memory"), (18, "Cross-device link"), (23, "File table overflow"),
    (25, "Not a typewriter"), (33, "Math argument out of domain of func"),
    (34, "Math result not representable"), (35, "Resource deadlock would occur"),
    (37, "No record locks available"), (40, "Too many symbolic links encountered")]

/-- The system's text of a code. -/
def text (code : Errno) : Text :=
  let unknown := "Unknown error ".toList ++ Numeral.ofInt code
  if code < 0 then unknown else (texts[code.toNat]?.map String.toList).getD unknown

/-- The wording of a code for a program that cannot be started. -/
def startText (code : Errno) : Text :=
  ((startTexts.lookup code).map String.toList).getD (text code)

end Errno

end PipeShell
