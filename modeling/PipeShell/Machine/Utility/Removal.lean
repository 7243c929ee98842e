import PipeShell.Machine.Utility.FileWork

/-!
# Making and removing files

`mkdir`, `touch` and `truncate` make what is missing; `rmdir`, `unlink` and `rm` remove. `rm` goes
down into directories where it is told so, removes what is in them first, and says nothing of a
directory that it could not empty.
-/

set_option autoImplicit false

namespace PipeShell.Machine.Utility

open Act

/-! ## Directories -/

/-- The options of `mkdir`. -/
def mkdirOptions : OptionTable where
  letters := "pm:vZ"
  long := [("context", .perhaps, "Z"), ("mode", .value, "m"), ("parents", .nothing, "p"),
    ("verbose", .nothing, "v")]

/-- Complains that a directory cannot be made. -/
def complainOfDirectory (path : Raw) (e : Errno) : Act Unit :=
  complainOf ("cannot create directory ".toList ++ Quoting.always path) e

/-- Tells of a directory that was made. -/
def tellOfDirectory (verbose : Bool) (path : Raw) : Act Unit := do
  if verbose then emitLine ((← get).name ++ ": created directory ".toList ++ Quoting.always path)

/-- The paths of the directories on the way to a path, and the path itself. -/
def prefixesOf (path : Raw) : List Raw :=
  let ends := (List.range path.length).filter fun k =>
    decide (0 < k) && path[k]? == some '/' && path[k - 1]? != some '/'
  let whole := withoutSlashes path
  ((ends.map path.take).filter (· != whole)) ++ [path]

/-- Makes a directory and those on the way to it that are missing. -/
def makePath (verbose : Bool) (mode : Nat) : List Raw → Act Bool
  | [] => return true
  | [path] => do
    match ← ask (Kernel.makeDirectory path mode) with
    | .ok () => tellOfDirectory verbose (withoutSlashes path); return true
    | .error e =>
      if ← leadsToFolder path then return true
      complainOfDirectory path e
      return false
  | path :: rest => do
    if ← leadsToFolder path then makePath verbose mode rest
    else match ← ask (Kernel.makeDirectory path 0o777) with
      | .ok () =>
        let mask ← ask Kernel.mask
        let _ ← ask (Kernel.changeMode path (0o777 &&& (0o777 ^^^ mask) ||| 0o300))
        tellOfDirectory verbose path
        makePath verbose mode rest
      | .error e =>
        let isLink ← isLinkAt path
        complainOfDirectory path
          (if e = Errno.alreadyExists && !isLink then Errno.notDirectory else e)
        return false

/-- Makes directories. -/
def mkdir : Utility where
  main t := do
    let line ← options mkdirOptions 1 t.args
    if line.operands.isEmpty then missingOperand
    let mask ← ask Kernel.mask
    let mode ← match line.value? "m" with
      | none => pure none
      | some text =>
        match Mode.read? text with
        | some changes => pure (some (Mode.adjust changes true mask 0o777))
        | none => fail 1 ("invalid mode ".toList ++ Quoting.word text)
    let verbose := line.has "v"
    let mut status := 0
    for path in line.operands do
      let isThere ← if line.has "p" then leadsToFolder path else pure false
      let fine ← if line.has "p" then makePath verbose (mode.getD 0o777) (prefixesOf path)
        else do
          match ← ask (Kernel.makeDirectory path (mode.getD 0o777)) with
          | .ok () => tellOfDirectory verbose path; pure true
          | .error e => complainOfDirectory path e; pure false
      unless fine do status := 1
      if let some mode := mode then
        if fine && !isThere then
          let _ ← ask (Kernel.changeMode path mode)
    return status

/-- The options of `rmdir`. -/
def rmdirOptions : OptionTable where
  letters := "pv"
  long := [("ignore-fail-on-non-empty", .nothing, "ignore"), ("path", .nothing, "p"),
    ("parents", .nothing, "p"), ("verbose", .nothing, "v")]

/-- Tells of a directory that is to be removed. -/
def tellOfRemoving (verbose : Bool) (path : Raw) : Act Unit := do
  if verbose then
    emitLine ((← get).name ++ ": removing directory, ".toList ++ Quoting.always path)

/-- Removes the directories on the way to one that was removed, from the last one on. -/
def removeParents (verbose ignores : Bool) : Nat → Raw → Act Bool
  | 0, _ => return true
  | steps + 1, path => do
    if !path.contains '/' then return true
    let parent := withoutSlashes (path.take (path.length - (lastName path).length))
    if parent.isEmpty || parent == ['/'] then return true
    tellOfRemoving verbose parent
    match ← ask (Kernel.removeDirectory parent) with
    | .ok () => removeParents verbose ignores steps parent
    | .error e =>
      if ignores && e = Errno.notEmpty then return true
      complainOf ("failed to remove directory ".toList ++ Quoting.always parent) e
      return false

/-- Removes empty directories. -/
def rmdir : Utility where
  main t := do
    let line ← options rmdirOptions 1 t.args
    if line.operands.isEmpty then missingOperand
    let verbose := line.has "v"
    let ignores := line.has "ignore"
    let mut status := 0
    for path in line.operands do
      tellOfRemoving verbose path
      match ← ask (Kernel.removeDirectory path) with
      | .ok () =>
        if line.has "p" then
          unless ← removeParents verbose ignores path.length (withoutSlashes path) do status := 1
      | .error e =>
        unless ignores && e = Errno.notEmpty do
          let isLink ← isLinkAt (withoutSlashes path)
          let front := "failed to remove ".toList ++ Quoting.always path
          if e = Errno.notDirectory && path.getLast? == some '/' && isLink then
            complain (front ++ ": Symbolic link not followed".toList)
          else complainOf front e
          status := 1
    return status

/-! ## `rm` -/

/-- What `rm` is told. -/
structure RemovalTask where
  recursive : Bool := false
  emptyDirectories : Bool := false
  /-- Is nothing said of what is missing? -/
  force : Bool := false
  asks : Bool := false
  verbose : Bool := false

/-- Complains that a file cannot be removed. -/
def complainOfRemoval (path : Raw) (e : Errno) : Act Bool := do
  complainOf ("cannot remove ".toList ++ Quoting.always path) e
  return false

/-- The question whether a file may be removed. -/
def removalQuestion (path : Raw) (n : Node) : Raw :=
  let isLink := match n.file with
    | .link _ => true
    | _ => false
  (if n.allows .toWrite || isLink then "remove " else "remove write-protected ").toList ++
    kindOf n ++ ' ' :: Quoting.always path

/-- Removes a name that is not a directory's. -/
def RemovalTask.removeName (t : RemovalTask) (path : Raw) : Act Bool := do
  match ← ask (Kernel.unlink path) with
  | .ok () =>
    if t.verbose then emitLine ("removed ".toList ++ Quoting.always path)
    return true
  | .error e => complainOfRemoval path e

/-- Removes an empty directory. -/
def RemovalTask.removeEmpty (t : RemovalTask) (path : Raw) : Act Bool := do
  match ← ask (Kernel.removeDirectory path) with
  | .ok () =>
    if t.verbose then emitLine ("removed directory ".toList ++ Quoting.always path)
    return true
  | .error e => if t.force && e = Errno.notDirectory then return true else complainOfRemoval path e

/-- Removes a file, or a directory with all that is in it to a depth. -/
def RemovalTask.remove (t : RemovalTask) : Nat → Raw → Act Bool
  | 0, _ => return true
  | depth + 1, path => do
    match ← linkStatus path with
    | .error e =>
      if t.force && (e = Errno.noEntry || e = Errno.notDirectory) then return true
      complainOfRemoval path e
    | .ok n =>
      if !isFolder n then
        if t.asks then
          unless ← confirm (removalQuestion path n) do return true
        t.removeName path
      else if !t.recursive then
        if !t.emptyDirectories then return ← complainOfRemoval path Errno.isDirectory
        if t.asks then
          unless ← confirm (removalQuestion path n) do return true
        t.removeEmpty path
      else
        match ← namesWithin path with
        | .error e =>
          match ← ask (Kernel.removeDirectory path) with
          | .ok () =>
            if t.verbose then emitLine ("removed directory ".toList ++ Quoting.always path)
            return true
          | .error _ => complainOfRemoval path e
        | .ok names =>
          if t.asks && !names.isEmpty then
            unless ← confirm ("descend into directory ".toList ++ Quoting.always path) do
              return true
          let mut fine := true
          for name in names do
            unless ← t.remove depth (inDirectory path name) do fine := false
          if !fine then return false
          if t.asks then
            unless ← confirm (removalQuestion path n) do return true
            if !((← namesWithin path).toOption.getD []).isEmpty then
              return ← complainOfRemoval path Errno.notEmpty
          t.removeEmpty path

/-- The options of `rm`. -/
def rmOptions : OptionTable where
  letters := "dfirvIR"
  long := [("force", .nothing, "f"), ("interactive", .perhaps, "interactive"),
    ("one-file-system", .nothing, "one"), ("no-preserve-root", .nothing, "no-preserve"),
    ("preserve-root", .perhaps, "preserve"), ("recursive", .nothing, "r"), ("dir", .nothing, "d"),
    ("verbose", .nothing, "v")]

/-- How often `rm` asks. -/
inductive Asking where
  | never
  | once
  | always
  deriving DecidableEq, Repr

/-- Removes files. -/
def rm : Utility where
  main task := do
    let line ← options rmOptions 1 task.args
    let mut asking : Asking := .never
    let mut force := false
    for o in line.options do
      match o.key with
      | "f" => asking := .never; force := true
      | "i" => asking := .always; force := false
      | "I" => asking := .once; force := false
      | "interactive" =>
        let k ← if o.valued then
            choose "--interactive" [["never", "no", "none"], ["once"], ["always", "yes"]] o.value
          else pure 2
        asking := [Asking.never, .once, .always].getD k .always
        if k ≠ 0 then force := false
      | _ => pure ()
    let recursive := line.has "r" || line.has "R"
    if line.operands.isEmpty then
      if force then return 0 else missingOperand
    let count := line.operands.length
    if asking == .once && (recursive || 3 < count) then
      let question := "remove ".toList ++ Numeral.ofNat count ++
        (if count = 1 then " argument" else " arguments").toList ++
        (if recursive then " recursively" else "").toList
      unless ← confirm question do return 0
    let t : RemovalTask :=
      { recursive, emptyDirectories := line.has "d", force, asks := asking == .always
        verbose := line.has "v" }
    let mut status := 0
    for path in line.operands do
      let name := lastName path
      if recursive && !path.isEmpty && (name == ['.'] || name == ['.', '.']) then
        complain ("refusing to remove '.' or '..' directory: skipping ".toList ++
          Quoting.always path)
        status := 1
      else if recursive && name == ['/'] && !line.has "no-preserve" then
        complain ("it is dangerous to operate recursively on ".toList ++ Quoting.always path ++
          (if path == ['/'] then [] else " (same as '/')".toList))
        complain "use --no-preserve-root to override this failsafe".toList
        status := 1
      else
        unless ← t.remove Kernel.endlessly path do status := 1
    return status

/-- Removes one name. -/
def unlink : Utility where
  main t := do
    let line ← options {} 1 t.args
    match line.operands with
    | [] => missingOperand
    | [path] => do
      match ← ask (Kernel.unlink path) with
      | .ok () => return 0
      | .error e => failOf 1 ("cannot unlink ".toList ++ Quoting.always path) e
    | _ :: extra :: _ => extraOperand extra

/-! ## `touch` -/

/-- The options of `touch`. -/
def touchOptions : OptionTable where
  letters := "acd:fhmr:t:"
  long := [("time", .value, "time"), ("no-create", .nothing, "c"), ("date", .value, "d"),
    ("reference", .value, "r"), ("no-dereference", .nothing, "h")]

/-- Is a text a point of time in digits, perhaps with seconds behind a point? -/
def isTimeStamp (text : Raw) : Bool :=
  let (digits, rest) := text.span Char.isDigit
  let isEnded := match rest with
    | [] => true
    | ['.', a, b] => a.isDigit && b.isDigit
    | _ => false
  isEnded && [8, 10, 12].contains digits.length

/-- Makes files that are missing. -/
def touch : Utility where
  main t := do
    let line ← options touchOptions 1 t.args
    if let some value := line.value? "time" then
      let _ ← choose "--time" [["atime", "access", "use"], ["mtime", "modify"]] value
    if let some stamp := line.value? "t" then
      unless isTimeStamp stamp do fail 1 ("invalid date format ".toList ++ Quoting.word stamp)
    if let some path := line.value? "r" then
      match ← status path with
      | .ok _ => pure ()
      | .error e => failOf 1 ("failed to get attributes of ".toList ++ Quoting.always path) e
    if line.operands.isEmpty then
      complain "missing file operand".toList
      misuse 1
    let mut code := 0
    for path in line.operands do
      let isClosed := path.getLast? == some '/'
      let makes := !line.has "c" && !line.has "h"
      let opened ← if makes && path != ['-'] then
          ask (Kernel.openFile path { writes := true, creates := some 0o666 })
        else pure (.error Errno.isDirectory)
      match opened with
      | .ok slot =>
        let _ ← ask (Kernel.close slot)
      | .error e =>
        if path == ['-'] then continue
        match ← ask (Kernel.status path (!line.has "h")) with
        | .ok n =>
          if n.foreign && !n.allows .toWrite then
            complainOf ("cannot touch ".toList ++ Quoting.always path) e
            code := 1
        | .error f =>
          if line.has "c" && f = Errno.noEntry then continue
          let front := (if isClosed && !path.isEmpty && e = Errno.isDirectory || line.has "c"
              || line.has "h" then "setting times of " else "cannot touch ").toList
          complainOf (front ++ Quoting.always path)
            (if isClosed && e = Errno.isDirectory then f else if makes then e else f)
          code := 1
    return code

/-! ## `truncate` -/

/-- The options of `truncate`. -/
def truncateOptions : OptionTable where
  letters := "cor:s:"
  long := [("no-create", .nothing, "c"), ("io-blocks", .nothing, "o"), ("reference", .value, "r"),
    ("size", .value, "s")]

/-- A size, given with a sign that relates it to the one of before. -/
def newSize (sign : Char) (n size : Nat) : Nat :=
  match sign with
  | '+' => size + n
  | '-' => size - n
  | '<' => min size n
  | '>' => max size n
  | '/' => size / n * n
  | '%' => (size + n - 1) / n * n
  | _ => n

/-- Gives files a size. -/
def truncate : Utility where
  main t := do
    let line ← options truncateOptions 1 t.args
    if !line.has "s" && !line.has "r" then
      misused 1 "you must specify either '--size' or '--reference'"
    let (sign, n) ← match line.value? "s" with
      | none => do
        let path := (line.value? "r").getD []
        match ← status path with
        | .ok { file := .regular content, .. } => pure ('=', content.length)
        | .ok _ => pure ('=', 0)
        | .error e => failOf 1 ("cannot stat ".toList ++ Quoting.always path) e
      | some text => do
        let (sign, rest) := match text.dropWhile Number.isSpace with
          | c :: rest => if "<>/%+-".toList.contains c then (c, rest) else ('=', c :: rest)
          | [] => ('=', [])
        match Number.count? (Nat.pow 2 63) rest with
        | .ok n =>
          if (sign == '/' || sign == '%') && n = 0 then fail 1 "division by zero".toList
          pure (sign, n)
        | .error .invalid => fail 1 ("Invalid number: ".toList ++ Quoting.word text)
        | .error .tooLarge => failOf 1 ("Invalid number: ".toList ++ Quoting.word text) 75
    if line.operands.isEmpty then
      complain "missing file operand".toList
      misuse 1
    let mut code := 0
    for path in line.operands do
      match ← ask (Kernel.openFile path
        { writes := true, creates := if line.has "c" then none else some 0o666 }) with
      | .error e =>
        unless line.has "c" && e = Errno.noEntry do
          complainOf ("cannot open ".toList ++ Quoting.always path ++ " for writing".toList) e
          code := 1
      | .ok slot =>
        let result ← ask (Kernel.change fun fs d => do
          let i ← fs.find d path true
          match fs.file? i with
          | some (.regular content) =>
            let size := newSize sign n content.length
            return fs.setContent i (content.take size ++
              List.replicate (size - content.length) (Char.ofNat 0))
          | _ => .error Errno.invalidArgument)
        let _ ← ask (Kernel.close slot)
        if let .error e := result then
          complainOf ("failed to truncate ".toList ++ Quoting.always path ++ " at ".toList ++
            Numeral.ofNat n ++ " bytes".toList) e
          code := 1
    return code

end PipeShell.Machine.Utility
