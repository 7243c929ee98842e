import PipeShell.Machine.Number
import PipeShell.Machine.Utility.Launching
import PipeShell.Machine.Utility.Options

/-!
# The environment of programs

`env` hands over to a program with another environment, or shows the environment, as `printenv` does.
-/

set_option autoImplicit false

namespace PipeShell.Machine.Utility

open Act

/-- A setting as it is written. -/
def shownSetting (s : Setting) : Raw := s.1 ++ '=' :: s.2

/-- An environment with a variable set. -/
def withSetting (name value : Raw) (environment : List Setting) : List Setting :=
  if environment.any (·.1 == name) then
    environment.map fun s => if s.1 == name then (name, value) else s
  else environment ++ [(name, value)]

/-- Cuts a text into words, in so many steps. Quotes keep blanks together; within double quotes, and
outside of any, a backslash keeps the next character. -/
def wordsFrom : Nat → Option Char → Option Raw → Raw → List Raw
  | 0, _, _, _ => []
  | _ + 1, _, word, [] => (word.map List.reverse).toList
  | steps + 1, quote, word, c :: rest =>
    let taken (c : Char) (rest : Raw) : List Raw :=
      wordsFrom steps quote (some (c :: word.getD [])) rest
    match quote, c, rest with
    | some '\'', '\\', d :: rest =>
      if d == '\\' || d == '\'' then taken d rest else taken '\\' (d :: rest)
    | _, '\\', '_' :: rest =>
      if quote.isSome then taken ' ' rest
      else (word.map List.reverse).toList ++ wordsFrom steps none none rest
    | _, '\\', 'n' :: rest => taken '\n' rest
    | _, '\\', 't' :: rest => taken '\t' rest
    | _, '\\', d :: rest => taken d rest
    | some q, c, rest =>
      if c == q then wordsFrom steps none (some (word.getD [])) rest else taken c rest
    | none, c, rest =>
      if c == '\'' || c == '"' then wordsFrom steps (some c) (some (word.getD [])) rest
      else if Number.isSpace c then
        (word.map List.reverse).toList ++ wordsFrom steps none none rest
      else taken c rest

/-- The words of a text. -/
def wordsOf (text : Raw) : List Raw := wordsFrom (text.length + 1) none none text

/-- The options of `env`. -/
def envOptions : OptionTable where
  letters := "C:iu:v0S:"
  long := [("ignore-environment", .nothing, "i"), ("null", .nothing, "0"), ("unset", .value, "u"),
    ("chdir", .value, "C"), ("default-signal", .perhaps, "signal"),
    ("ignore-signal", .perhaps, "signal"), ("block-signal", .perhaps, "signal"),
    ("list-signal-handling", .nothing, "signal"), ("debug", .nothing, "v"),
    ("split-string", .value, "S")]
  strict := true

/-- Arguments in which the text of an option for words is cut into these, in so many steps. -/
def splitArguments : Nat → List Raw → List Raw
  | 0, args => args
  | steps + 1, args =>
    match args with
    | ('-' :: 'S' :: c :: text) :: rest => splitArguments steps (wordsOf (c :: text) ++ rest)
    | ['-', 'S'] :: text :: rest => splitArguments steps (wordsOf text ++ rest)
    | ('-' :: 'v' :: 'S' :: text) :: rest => ['-', 'v'] :: splitArguments steps (wordsOf text ++ rest)
    | other => other

/-- Shows an environment. -/
def showSettings (environment : List Setting) (mark : Char) : Act Unit := do
  for s in environment do emit (shownSetting s ++ [mark])

/-- Sets variables as the arguments say, and gives the arguments behind. -/
def assign (environment : List Setting) : List Raw → List Setting × List Raw
  | [] => (environment, [])
  | arg :: rest =>
    match Raw.cutAt '=' arg with
    | some (name, value) => assign (withSetting name value environment) rest
    | none => (environment, arg :: rest)

/-- Hands over to a program with another environment. -/
def env : Utility where
  failure := 125
  main t := do
    let line ← options envOptions 125 (splitArguments 8 t.args)
    let isBare := line.operands.head? == some ['-']
    let operands := if isBare then line.operands.tail else line.operands
    let mut environment := if line.has "i" || isBare then [] else t.environment
    for name in line.values "u" do
      if name.isEmpty || name.contains '=' then
        failOf 125 ("cannot unset ".toList ++ Quoting.always name) Errno.invalidArgument
      environment := environment.filter (·.1 != name)
    let (changed, command) := assign environment operands
    if line.has "0" && !command.isEmpty then
      complain "cannot specify --null (-0) with command".toList
      misuse 125
    if line.has "C" && command.isEmpty then
      complain "must specify command with --chdir (-C)".toList
      misuse 125
    match command with
    | [] =>
      showSettings changed (if line.has "0" then Char.ofNat 0 else '\n')
      return 0
    | name :: args =>
      if let some path := line.value? "C" then
        if let .error e ← ask (Kernel.changeDirectory path) then
          failOf 125 ("cannot change directory to ".toList ++ Quoting.always path) e
      if line.has "v" then
        writeError ("executing: ".toList ++ name ++ ['\n'])
        for (arg, k) in command.zipIdx do
          writeError ("   arg[".toList ++ Numeral.ofNat k ++ "]= ".toList ++ Quoting.always arg ++ ['\n'])
      let e ← ask (Act.execute changed { name, args, environment := changed })
      complainOf (Quoting.always name) e
      if e == Errno.noEntry && name.any Number.isSpace then
        complain "use -[v]S to pass options in shebang lines".toList
      exit (if e == Errno.noEntry then 127 else 126)

/-- Shows variables of the environment. -/
def printenv : Utility where
  failure := 2
  main t := do
    let table : OptionTable := { letters := "0", long := [("null", .nothing, "0")], strict := true }
    let line ← options table 2 t.args
    let mark := if line.has "0" then Char.ofNat 0 else '\n'
    if line.operands.isEmpty then
      showSettings t.environment mark
      return 0
    let mut status := 0
    for name in line.operands do
      match if name.contains '=' then none else t.environment.lookup name with
      | some value => emit (value ++ [mark])
      | none => status := 1
    return status

end PipeShell.Machine.Utility
