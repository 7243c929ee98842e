import PipeShell.Machine.Programs

/-!
# Setting a machine up

A fresh machine has its programs, its devices and the usual directories. Files can be put on it
before it is used: a directory, a symbolic link or a regular file, with the directories on the way
made where they are missing.
-/

set_option autoImplicit false

namespace PipeShell.Machine

/-- A file to be put on a machine. -/
inductive Item where
  | directory (path : Text) (mode : Nat)
  | link (path target : Text)
  | file (path : Text) (mode : Nat) (content : Bytes)
  deriving Repr

namespace FileSystem

/-- The node with a name in a directory, links followed. -/
def named? (fs : FileSystem) (directory : Inode) (name : Raw) : Option Inode :=
  match fs.walk none .followed maxLinks directory false [⟨name, false⟩] with
  | .ok (.node i _) => some i
  | _ => none

/-- Makes a directory with those on the way to it, where they are missing. -/
def ensure (foreign : Bool) (fs : FileSystem) (directory : Inode) : List Raw → FileSystem × Inode
  | [] => (fs, directory)
  | name :: rest =>
    match fs.named? directory name with
    | some i => ensure foreign fs i rest
    | none =>
      let (i, fs) := fs.create directory name
        { file := .directory directory [], mode := 0o755, foreign }
      ensure foreign fs i rest

/-- Puts a node under a path, in place of what is there. A regular file is filled anew. -/
def put (fs : FileSystem) (directory : Inode) (path : Raw) (n : Node) : FileSystem :=
  match (names path).getLast? with
  | none => fs
  | some name =>
    let (fs, holder) := fs.ensure n.foreign (start directory path) (names path).dropLast
    match fs.named? holder name, n.file with
    | some i, .regular _ => { nodes := fs.nodes.set! i n }
    | _, _ => ((fs.unbind holder name).create holder name n).2

/-- Puts a file in place, seen from a directory. -/
def install (fs : FileSystem) (directory : Inode) : Item → FileSystem
  | .directory path mode =>
    let path := Raw.ofText path
    let (fs, i) := fs.ensure false (start directory path) (names path)
    fs.setMode i mode
  | .link path target =>
    fs.put directory (Raw.ofText path) { file := .link (Raw.ofText target), mode := 0o777 }
  | .file path mode content =>
    fs.put directory (Raw.ofText path) { file := .regular (Raw.ofBytes content), mode }

end FileSystem

/-- The directories of a fresh machine. -/
def usualDirectories : List String :=
  ["/dev/fd", "/etc", "/home", "/lib", "/media", "/mnt", "/opt", "/proc/self", "/run", "/srv",
    "/sys", "/tmp", "/usr/bin", "/usr/lib", "/usr/local/bin", "/usr/sbin", "/var/tmp"]

/-- Directories in which everybody may make files. -/
def sharedDirectories : List String := ["/tmp", "/var/tmp"]

/-- The links of a fresh machine. -/
def usualLinks : List (String × String) := [("/bin", "usr/bin"), ("/sbin", "usr/sbin")]

/-- The link of a fresh machine to the directory of the process that follows it. -/
def ownDirectoryLink : String := "/proc/self/cwd"

/-- The devices of a fresh machine. -/
def devices : List (String × Device) :=
  [("/dev/null", .null), ("/dev/full", .full), ("/dev/zero", .zero), ("/dev/tty", .console),
    ("/dev/stdin", .own 0), ("/dev/stdout", .own 1), ("/dev/stderr", .own 2)] ++
    (List.range 10).map fun n => ("/dev/fd/" ++ String.ofList (Numeral.ofNat n), .own n)

/-- The files of a fresh machine. -/
def freshFiles : FileSystem :=
  let put (path : Raw) (n : Node) (fs : FileSystem) : FileSystem :=
    fs.put FileSystem.root path { n with foreign := true }
  let fs := usualDirectories.foldl
    (fun fs d => (fs.ensure true FileSystem.root (FileSystem.names d.toList)).1) {}
  let fs := sharedDirectories.foldl
    (fun fs d => match fs.find FileSystem.root d.toList true with
      | .ok i => fs.setMode i 0o1777
      | .error _ => fs) fs
  let fs := usualLinks.foldl (fun fs l => put l.1.toList { file := .link l.2.toList } fs) fs
  let fs := put ownDirectoryLink.toList { file := .ownDirectory, mode := 0o777 } fs
  let fs := devices.foldl
    (fun fs d => put d.1.toList { file := .device d.2, mode := 0o666 } fs) fs
  Programs.names.foldl
    (fun fs name => put (Path.join "/usr/bin".toList name.toList)
      { file := .program name, mode := 0o755 } fs) fs

/-- A fresh machine with files of a user in a directory, which is its working directory. -/
def setUp (directory : Text) (items : List Item) : State :=
  let (fs, home) := freshFiles.ensure false FileSystem.root
    (FileSystem.names (Raw.ofText directory))
  { files := items.foldl (fun fs item => fs.install home item) fs, directory := home }

end PipeShell.Machine
