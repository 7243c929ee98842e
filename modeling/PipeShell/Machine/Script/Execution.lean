import PipeShell.Machine.Script.Shell
import PipeShell.Machine.Kernel.Signals

/-!
# Running other programs

Finding a program in the directories of a path and handing over to it. A file in no known format is
given to a new interpreter.
-/

set_option autoImplicit false

namespace PipeShell.Machine.Script.Execution

open Shell

/-- The directories of a path. -/
def directoriesOf (path : Raw) : List Raw := Raw.splitAt ':' path

/-- The path of a name in a directory. -/
def pathIn (directory name : Raw) : Raw :=
  if directory.isEmpty then name else directory ++ '/' :: name

/-- The path where programs are looked for. -/
def searchPath (env : Env) : Raw := (valueOf env "PATH".toList).getD []

/-- What is found under a name: the path of a file, or the reason why there is none. -/
def locate (name : Raw) : List Raw → Errno → Shell (Except Errno Raw)
  | [], e => return .error e
  | directory :: rest, e => do
    let path := pathIn directory name
    match ← ask (Kernel.status path true) with
    | .error f =>
      locate name rest (if f = Errno.noEntry ∨ f = Errno.notDirectory then e else f)
    | .ok { file := .regular _, .. } | .ok { file := .program _, .. } => return .ok path
    | .ok _ => locate name rest Errno.accessDenied

/-- Looks for a program. -/
def find (name path : Raw) : Shell (Except Errno Raw) := do
  match ← locate name (directoriesOf path) Errno.noEntry with
  | .ok p =>
    modify fun env => { env with found := if env.found.contains name then env.found
                                          else name :: env.found }
    return .ok p
  | .error e => return .error e

/-- Where the interpreter itself is. -/
def interpreterPath : Raw := "/bin/sh".toList

/-- Hands over to the program behind a path, or gives the reason why that cannot be. -/
def become (path : Raw) (args : List Raw) (environment : List Setting) : Shell Errno := do
  let task : Task := { name := args.headD [], args := args.tail, environment }
  let e ← ask (Kernel.execute path task)
  if e = Errno.badFormat then
    ask (Kernel.execute interpreterPath
      { name := interpreterPath, args := path :: args.tail, environment })
  else return e

/-- Hands over to a program that is looked for in directories. -/
def becomeFrom (args : List Raw) (environment : List Setting) :
    List Raw → Errno → Shell Errno
  | [], e => return e
  | directory :: rest, e => do
    let f ← become (pathIn directory (args.headD [])) args environment
    becomeFrom args environment rest
      (if f = Errno.noEntry ∨ f = Errno.notDirectory then e else f)

/-- The status of an interpreter that cannot hand over. -/
def statusOf (e : Errno) : Int :=
  if [Errno.tooManyLinks, Errno.nameTooLong, Errno.noEntry, Errno.notDirectory].contains e
  then 127 else 126

/-- Hands over to a program. -/
def execute {α : Type} (args : List Raw) (path : Raw) : Shell α := do
  let env ← get
  let environment := environment env
  let name := args.headD []
  let e ← if name.contains '/' then become name args environment
    else becomeFrom args environment (directoriesOf path) Errno.noEntry
  modify fun env => { env with status := statusOf e }
  complain (name ++ ": ".toList ++ reason "not found" e)
  throw .ended

end PipeShell.Machine.Script.Execution
