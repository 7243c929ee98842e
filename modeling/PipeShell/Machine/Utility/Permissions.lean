import PipeShell.Machine.Utility.FileWork

/-!
# Permissions on files

`chmod` sets or changes the permissions on files, and on all that is in a directory.
-/

set_option autoImplicit false

namespace PipeShell.Machine.Utility

open Act

/-- What `chmod` is told. -/
structure PermissionTask where
  changes : List Mode.Change
  recursive : Bool := false
  verbose : Bool := false
  /-- Is only told what has changed? -/
  tellsChanges : Bool := false
  quiet : Bool := false
  /-- Were changes given like options, so that the mask for new files may surprise? -/
  mayForget : Bool := false
  mask : Nat := 0

/-- Permissions in digits and letters. -/
def shownMode (mode : Nat) : Raw :=
  Mode.octal mode ++ " (".toList ++ Mode.letters mode ++ ")".toList

/-- Tells what became of the permissions on a file. -/
def PermissionTask.tell (t : PermissionTask) (path : Raw) (old new : Nat) : Act Unit := do
  if old ≠ new && (t.verbose || t.tellsChanges) then
    emitLine ("mode of ".toList ++ Quoting.always path ++ " changed from ".toList ++
      shownMode old ++ " to ".toList ++ shownMode new)
  else if old = new && t.verbose then
    emitLine ("mode of ".toList ++ Quoting.always path ++ " retained as ".toList ++ shownMode new)

/-- Complains unless it is to be quiet. -/
def PermissionTask.grumble (t : PermissionTask) (text : Raw) (e : Errno) : Act Unit := do
  unless t.quiet do complainOf text e

/-- Changes the permissions on a file, and on all that is in it to a depth. -/
def PermissionTask.change (t : PermissionTask) : Nat → Bool → Raw → Act Bool
  | 0, _, _ => return true
  | depth + 1, isOperand, path => do
    if !isOperand && (← isLinkAt path) then return true
    match ← status path with
    | .error e => do
      if (← isLinkAt path) && e = Errno.noEntry then
        unless t.quiet do
          complain ("cannot operate on dangling symlink ".toList ++ Quoting.always path)
      else t.grumble ("cannot access ".toList ++ Quoting.always path) e
      if t.verbose then emitLine (Quoting.always path ++ " could not be accessed".toList)
      return false
    | .ok n => do
      let new := Mode.adjust t.changes (isFolder n) t.mask n.mode
      let mut fine := true
      match ← ask (Kernel.changeMode path new) with
      | .error e =>
        t.grumble ("changing permissions of ".toList ++ Quoting.always path) e
        if t.verbose then
          emitLine ("failed to change mode of ".toList ++ Quoting.always path ++ " from ".toList ++
            shownMode n.mode ++ " to ".toList ++ shownMode new)
        fine := false
      | .ok () =>
        t.tell path n.mode new
        let expected := Mode.adjust t.changes (isFolder n) 0 n.mode
        if t.mayForget && new &&& (Mode.all ^^^ expected) ≠ 0 then
          complain (Quoting.apart path ++ ": new permissions are ".toList ++ Mode.letters new ++
            ", not ".toList ++ Mode.letters expected)
          fine := false
      if t.recursive && isFolder n then
        match ← namesWithin path with
        | .error e =>
          t.grumble ("cannot read directory ".toList ++ Quoting.always path) e
          fine := false
        | .ok names =>
          for name in names do
            unless ← t.change depth false (inDirectory path name) do fine := false
      return fine

/-- The options of `chmod`. The letters of changes are options as well. -/
def chmodOptions : OptionTable where
  letters := "Rcfvr::w::x::X::s::t::u::g::o::a::,::+::=::0::1::2::3::4::5::6::7::"
  long := [("changes", .nothing, "c"), ("recursive", .nothing, "R"),
    ("no-preserve-root", .nothing, "no-preserve"), ("preserve-root", .nothing, "preserve"),
    ("quiet", .nothing, "f"), ("reference", .value, "reference"), ("silent", .nothing, "f"),
    ("verbose", .nothing, "v")]

/-- Changes the permissions on files. -/
def chmod : Utility where
  main task := do
    let line ← options chmodOptions 1 task.args
    let isPart (o : Given) : Bool :=
      ! ["R", "c", "f", "v", "reference", "no-preserve", "preserve"].contains o.key
    let parts := (line.options.filter isPart).map fun o => '-' :: o.key.toList ++ o.value
    let missing (operands : List Raw) : Act Unit := do
      if operands.isEmpty then
        match line.operands.getLast? with
        | none => complain "missing operand".toList
        | some last => complain ("missing operand after ".toList ++ Quoting.word last)
        misuse 1
    let mask ← ask Kernel.mask
    let verbose := line.last? ["v", "c"] == some "v"
    let t : PermissionTask :=
      { changes := [], recursive := line.has "R", verbose
        tellsChanges := line.has "c", quiet := line.has "f", mask }
    let (t, operands) ← match line.value? "reference" with
      | some path => do
        missing line.operands
        match ← status path with
        | .ok n =>
          let change : Mode.Change :=
            { sign := '=', concerned := Mode.all, grant := .bits n.mode, spoken := Mode.all }
          pure ({ t with changes := [change] }, line.operands)
        | .error e => failOf 1 ("failed to get attributes of ".toList ++ Quoting.always path) e
      | none => do
        let text := if parts.isEmpty then line.operands.headD [] else Raw.joined [','] parts
        let operands := if parts.isEmpty then line.operands.tail else line.operands
        missing operands
        match Mode.read? text with
        | some changes => pure ({ t with changes, mayForget := !parts.isEmpty }, operands)
        | none => do
          complain ("invalid mode: ".toList ++ Quoting.word text)
          misuse 1
    let mut code := 0
    for path in operands do
      unless ← t.change Kernel.endlessly true path do code := 1
    return code

end PipeShell.Machine.Utility
