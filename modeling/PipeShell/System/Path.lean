import PipeShell.Text.Blank

/-!
# Paths

Joining a path to a directory. An absolute path stands for itself; any other is written behind the
directory, with one slash between them where the directory does not end in one.
-/

set_option autoImplicit false

namespace PipeShell.Path

/-- A path that starts with a slash does not depend on a directory. -/
def isAbsolute : Text → Bool
  | '/' :: _ => true
  | _ => false

/-- The path seen from a directory. -/
def join (directory path : Text) : Text :=
  if isAbsolute path then path
  else match directory.getLast? with
    | none | some '/' => directory ++ path
    | some _ => directory ++ '/' :: path

end PipeShell.Path
