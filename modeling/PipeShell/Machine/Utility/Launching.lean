import PipeShell.Machine.Utility.Output

/-!
# Starting other programs

A utility can hand over to another program, which is looked for along the search path, and can let a
shell carry out a command and take what it prints.
-/

set_option autoImplicit false

namespace PipeShell.Machine.Act

/-- The value of a variable of an environment. -/
def setting? (environment : List Setting) (name : String) : Option Raw :=
  environment.lookup name.toList

/-- The directories that programs are looked for in. -/
def searchPath (environment : List Setting) : List Raw :=
  match setting? environment "PATH" with
  | some path => (Raw.splitAt ':' path).map fun d => if d.isEmpty then ['.'] else d
  | none => ["/bin".toList, "/usr/bin".toList]

/-- Hands over to the program behind a path. A file in no known format is taken for a script of the
shell. Gives the reason if that cannot be. -/
def executePath (task : Task) (path : Raw) : Job Errno := do
  let reason ← Kernel.execute path task
  if reason == Errno.badFormat then
    Kernel.execute "/bin/sh".toList { task with name := "/bin/sh".toList, args := path :: task.args }
  else return reason

/-- Tries one path after the other, and gives the reason why none can be run. A path where there is
nothing counts only if nothing else was found. -/
def executeAny (task : Task) : List Raw → Errno → Job Errno
  | [], e => return e
  | path :: more, e => do
    let reason ← executePath task path
    if reason == Errno.noEntry || reason == Errno.notDirectory then executeAny task more e
    else if reason == Errno.accessDenied then executeAny task more reason
    else return reason

/-- Hands over to the program with a name, which is looked for along the search path unless it holds
a slash. Gives the reason if that cannot be. -/
def execute (search : List Setting) (task : Task) : Job Errno :=
  if task.name.contains '/' then executePath task task.name
  else executeAny task ((searchPath search).map fun d => d ++ '/' :: task.name) Errno.noEntry

/-- Lets a shell carry out a command and gives what it prints. -/
def capture (command : Raw) (environment : List Setting) : Job Raw := do
  let (reading, writing) ← Kernel.makePipe
  let child ← Job.fork do
    let _ ← Kernel.share writing 1
    let _ ← Kernel.close reading
    let _ ← Kernel.close writing
    let _ ← Kernel.execute "/bin/sh".toList
      { name := ['s', 'h'], args := [['-', 'c'], command], environment }
    Job.exitWith 127
  let _ ← Kernel.close writing
  let printed ← Kernel.readAll reading
  let _ ← Kernel.close reading
  let _ ← Kernel.await child
  return printed.toOption.getD []

end PipeShell.Machine.Act
