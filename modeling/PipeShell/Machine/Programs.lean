import PipeShell.Machine.Script.Start
import PipeShell.Machine.Utility.Columns
import PipeShell.Machine.Utility.Copying
import PipeShell.Machine.Utility.Counting
import PipeShell.Machine.Utility.Ends
import PipeShell.Machine.Utility.Environment
import PipeShell.Machine.Utility.Links
import PipeShell.Machine.Utility.Listing
import PipeShell.Machine.Utility.Permissions
import PipeShell.Machine.Utility.Printing
import PipeShell.Machine.Utility.Removal
import PipeShell.Machine.Utility.Searching
import PipeShell.Machine.Utility.Sorting
import PipeShell.Machine.Utility.StreamEditing
import PipeShell.Machine.Utility.Transfer
import PipeShell.Machine.Utility.Translation

/-!
# The programs of the machine

Every program of the machine has a name, by which a file stands for it, and is called with a task.
-/

set_option autoImplicit false

namespace PipeShell.Machine.Programs

open Utility

/-- The utilities by name. -/
def utilities : List (String × Utility) :=
  [("basename", basename), ("cat", cat), ("chmod", chmod), ("cp", cp), ("cut", cut),
    ("dirname", dirname), ("echo", echo), ("egrep", grepWith "-E"), ("env", env), ("false", constant 1),
    ("fgrep", grepWith "-F"), ("grep", grep), ("head", head), ("link", link), ("ln", ln),
    ("ls", ls), ("mkdir", mkdir), ("mv", mv), ("printenv", printenv), ("printf", printf), ("pwd", pwd),
    ("readlink", readlink), ("realpath", realpath), ("rev", rev), ("rgrep", grepWith "-r"),
    ("rm", rm), ("rmdir", rmdir), ("sed", sed), ("seq", seq), ("sleep", sleep), ("sort", sort), ("tac", tac),
    ("tail", tail), ("tee", tee), ("touch", touch), ("tr", tr), ("true", constant 0),
    ("truncate", truncate), ("uniq", uniq), ("unlink", unlink), ("wc", wc), ("yes", yes)]

/-- The programs by name. -/
def table : List (String × (Task → Program)) :=
  [("dash", Script.Start.program), ("sh", Script.Start.program)] ++
    utilities.map fun e => (e.1, e.2.program)

/-- The names of all programs. -/
def names : List String := table.map Prod.fst

/-- The program with a name, called with a task. -/
def load (name : String) (task : Task) : Program :=
  match table.lookup name with
  | some program => program task
  | none => .exit (.code 127)

end PipeShell.Machine.Programs
