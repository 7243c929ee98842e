import PipeShell.Machine.Raw

/-!
# The parts of a path

A path is cut into what stands in front of its last name and that name; slashes at its end belong to
neither. A path of slashes alone is its own last name.
-/

set_option autoImplicit false

namespace PipeShell.Machine.Utility

/-- A path without the slashes at its end. -/
def withoutSlashes (path : Raw) : Raw :=
  let kept := (path.reverse.dropWhile (· == '/')).reverse
  if kept.isEmpty && !path.isEmpty then ['/'] else kept

/-- The last name of a path. -/
def lastName (path : Raw) : Raw :=
  let kept := withoutSlashes path
  if kept == ['/'] then kept else ((Raw.splitAt '/' kept).getLast?).getD []

/-- The path of a name in a directory. -/
def inDirectory (directory name : Raw) : Raw :=
  if directory.isEmpty then name
  else if directory.getLast? == some '/' then directory ++ name.dropWhile (· == '/')
  else directory ++ '/' :: name.dropWhile (· == '/')

/-- The path for a file in a directory where it goes by its last name. -/
def targetIn (directory path : Raw) : Raw :=
  let name := lastName path
  if name == "..".toList then directory else inDirectory directory name

/-- What stands in front of the last name of a path. -/
def directoryPart (path : Raw) : Raw :=
  let kept := withoutSlashes path
  let front := kept.take (kept.length - (lastName path).length)
  if kept == ['/'] then kept else if front.isEmpty then ['.'] else withoutSlashes front

end PipeShell.Machine.Utility
