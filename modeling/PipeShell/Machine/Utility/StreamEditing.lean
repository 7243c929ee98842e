import PipeShell.Machine.Editing.Reader
import PipeShell.Machine.Editing.Run
import PipeShell.Machine.Utility.Options

/-!
# Editing streams

`sed` runs a script, which is given as the first operand or by options, on the lines of files. The
files may be replaced by what is printed for them.
-/

set_option autoImplicit false

namespace PipeShell.Machine.Utility

open Act
open Editing

/-- The options of `sed`. -/
def sedOptions : OptionTable where
  letters := "bsnrzuEe:f:l:i::V:"
  long := [("binary", .nothing, "b"), ("regexp-extended", .nothing, "E"), ("debug", .nothing, "debug"),
    ("in-place", .perhaps, "i"), ("expression", .value, "e"), ("file", .value, "f"),
    ("line-length", .value, "l"), ("null-data", .nothing, "z"), ("zero-terminated", .nothing, "z"),
    ("quiet", .nothing, "n"), ("posix", .nothing, "posix"), ("silent", .nothing, "n"),
    ("sandbox", .nothing, "sandbox"), ("separate", .nothing, "s"), ("unbuffered", .nothing, "u"),
    ("follow-symlinks", .nothing, "follow")]

/-- What is gathered from the options of `sed`. -/
structure SedTask where
  draft : Reader.Draft := {}
  /-- Is a script given? -/
  isGiven : Bool := false
  isExtended : Bool := false
  isConfined : Bool := false
  isPlain : Bool := false
  isSilent : Bool := false
  isSeparate : Bool := false
  inPlace : Option Raw := none
  mark : Char := '\n'
  width : Nat := listWidth

/-- Tells how `sed` is used. -/
def sedUsage {α : Type} : Act α := do
  writeError
    "Usage: sed [OPTION]... \x7bscript-only-if-no-other-script\x7d [input-file]...\n\n".toList
  exit 1

/-- Ends with the fault of a script. -/
def scriptFault {α : Type} (f : Reader.Fault) : Act α := fail f.status f.text

/-- Adds a part to a script. -/
def addPart (s : SedTask) (origin : Reader.Origin) (text : Raw) : Act SedTask := do
  match s.draft.withPart s.isExtended s.isConfined s.isPlain origin text with
  | .error f => scriptFault f
  | .ok draft => return { s with draft, isGiven := true }

/-- Adds a part that is an argument. -/
def addArgument (s : SedTask) (text : Raw) : Act SedTask := do
  let n := s.draft.arguments + 1
  addPart { s with draft := { s.draft with arguments := n } } (.argument n) text

/-- Takes one option into account. -/
def readSedOption (s : SedTask) (o : Given) : Act SedTask := do
  match o.key with
  | "n" => return { s with isSilent := true }
  | "e" => addArgument s o.value
  | "f" =>
    match ← openOperand o.value with
    | .error e => failOf 4 ("couldn't open file ".toList ++ o.value) e
    | .ok slot =>
      let (content, _) ← Input.all { slot }
      closeOperand o.value slot
      addPart s (.file o.value) content
  | "E" | "r" => return { s with isExtended := true }
  | "i" => return { s with inPlace := some o.value, isSeparate := true }
  | "s" => return { s with isSeparate := true }
  | "z" => return { s with mark := Char.ofNat 0 }
  | "l" => return { s with width := ((Number.front? 10 o.value).map fun n => n.1.toNat).getD 0 }
  | "sandbox" => return { s with isConfined := true }
  | "posix" => return { s with isPlain := true }
  | _ => return s

/-- Edits streams. -/
def sed : Utility where
  failure := 4
  main t := do
    let line := sedOptions.read t.args
    let given ← line.options.foldlM readSedOption {}
    if let some f := line.fault then
      writeError ((← get).name ++ ": ".toList ++ f.message ++ ['\n'])
      sedUsage
    let (s, paths) ← match given.isGiven, line.operands with
      | true, paths => pure (given, paths)
      | false, text :: paths => do pure (← addArgument given text, paths)
      | false, [] => sedUsage
    let script ← match s.draft.finish with
      | .error f => scriptFault f
      | .ok script => pure script
    if s.inPlace.isSome && paths.isEmpty then fail 4 "no input files".toList
    let manner : Manner :=
      { script, isSilent := s.isSilent || script.isSilent, isSeparate := s.isSeparate
        inPlace := s.inPlace, mark := s.mark, width := s.width, environment := t.environment
        arguments := s.draft.arguments }
    let (code, _) ← StateT.run (Edit.run s.draft.targets) { manner, paths := orInput paths }
    finish code
where
  /-- Writes out what is left. A place that takes nothing is not told of, but one that is closed. -/
  finish (code : Int) : Act Int := do
    if (← ask (Kernel.openFileOf 1)).isNone then
      failOf 4 "couldn't close stdout".toList Errno.badDescriptor
    flush
    if let some e := (← get).refusal then
      modify fun o => { o with refusal := none }
      unless e == Errno.badDescriptor do failOf 4 "couldn't flush stdout".toList e
    return code

end PipeShell.Machine.Utility
