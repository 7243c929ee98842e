import PipeShell.Machine.Raw
import PipeShell.System.Errno
import PipeShell.System.Path

/-!
# File system of the model machine

Files are numbered nodes. A directory knows its parent and the names of its entries; a symbolic link
knows its target. A path is walked step by step: a link in the middle is always followed, one at
the end where the caller asks for it, and no more than forty links on one walk. One link leads
straight to the directory of whoever walks, also if that has no path any more. A step that a slash
follows leads to a directory or nowhere. Whoever goes through a directory must be allowed to search
it. A node that has lost its last name stays what it was for those who hold it.
-/

set_option autoImplicit false

namespace PipeShell.Machine

/-- The number of a node. -/
abbrev Inode := Nat

/-- A file that is a device. -/
inductive Device where
  /-- Takes everything and gives nothing. -/
  | null
  /-- Takes nothing and gives zeros. -/
  | full
  /-- Takes everything and gives zeros. -/
  | zero
  /-- Stands for an open file of the process that opens it. -/
  | own (slot : Nat)
  /-- Cannot be opened by a process without a terminal of its own. -/
  | console
  deriving DecidableEq, Repr

/-- What a file is. -/
inductive File where
  | directory (parent : Inode) (entries : List (Raw × Inode))
  | regular (content : Raw)
  | link (target : Raw)
  /-- A link to the directory of the process that follows it. -/
  | ownDirectory
  | device (device : Device)
  /-- A program that comes with the machine. -/
  | program (name : String)
  deriving Repr

/-- A file with the permissions on it. -/
structure Node where
  file : File
  mode : Nat := 0o644
  /-- Does it belong to the system and not to the user? -/
  foreign : Bool := false
  deriving Repr

/-- A permission on a file. -/
inductive Permission where
  | toRead
  | toWrite
  /-- To run a program or to search a directory. -/
  | toExecute
  deriving DecidableEq, Repr

/-- The bit of a permission. -/
def Permission.bit : Permission → Nat
  | toRead => 4
  | toWrite => 2
  | toExecute => 1

/-- Does a node give a permission to the user? -/
def Node.allows (n : Node) (p : Permission) : Bool :=
  (if n.foreign then n.mode else n.mode / 64) &&& p.bit != 0

/-- The nodes by number. The root directory is number zero. -/
structure FileSystem where
  nodes : Array Node := #[{ file := .directory 0 [], mode := 0o755, foreign := true }]

namespace FileSystem

/-! ## Nodes -/

/-- The number of the root directory. -/
def root : Inode := 0

/-- The most links followed on one walk. -/
def maxLinks : Nat := 40

/-- The most bytes of a name. -/
def maxName : Nat := 255

/-- The number of bytes that no path reaches. -/
def pathBound : Nat := 4096

/-- The node with a number. -/
def node? (fs : FileSystem) (i : Inode) : Option Node := fs.nodes[i]?

/-- What the file with a number is. -/
def file? (fs : FileSystem) (i : Inode) : Option File := (fs.node? i).map Node.file

/-- Changes what a file is. -/
def setFile (fs : FileSystem) (i : Inode) (f : File) : FileSystem :=
  { nodes := fs.nodes.modify i fun n => { n with file := f } }

/-- Changes the permissions on a file. -/
def setMode (fs : FileSystem) (i : Inode) (mode : Nat) : FileSystem :=
  { nodes := fs.nodes.modify i fun n => { n with mode } }

/-- Does a file give a permission to the user? -/
def allows (fs : FileSystem) (i : Inode) (p : Permission) : Bool :=
  ((fs.node? i).map (·.allows p)).getD false

/-- The entries of a directory. -/
def entries? (fs : FileSystem) (i : Inode) : Option (List (Raw × Inode)) :=
  match fs.file? i with
  | some (.directory _ entries) => some entries
  | _ => none

/-- Is a node a directory? -/
def isDirectory (fs : FileSystem) (i : Inode) : Bool := (fs.entries? i).isSome

/-- Gives a node a name in a directory. -/
def bind (fs : FileSystem) (directory : Inode) (name : Raw) (i : Inode) : FileSystem :=
  match fs.file? directory with
  | some (.directory parent entries) =>
    fs.setFile directory (.directory parent (entries ++ [(name, i)]))
  | _ => fs

/-- Takes a name out of a directory. -/
def unbind (fs : FileSystem) (directory : Inode) (name : Raw) : FileSystem :=
  match fs.file? directory with
  | some (.directory parent entries) =>
    fs.setFile directory (.directory parent (entries.filter fun e => e.1 != name))
  | _ => fs

/-- Adds a node under a name. -/
def create (fs : FileSystem) (directory : Inode) (name : Raw) (n : Node) : Inode × FileSystem :=
  let i := fs.nodes.size
  (i, ({ nodes := fs.nodes.push n } : FileSystem).bind directory name i)

/-! ## Paths -/

/-- A step of a path: a name, and whether a slash follows it. -/
structure Step where
  name : Raw
  closed : Bool := false
  deriving DecidableEq, Repr

/-- The steps of a path. -/
def steps : Raw → List Step
  | [] => []
  | '/' :: rest => steps rest
  | c :: rest =>
    let after := rest.dropWhile (· != '/')
    ⟨c :: rest.takeWhile (· != '/'), !after.isEmpty⟩ :: steps after
termination_by t => t.length
decreasing_by
  · simp
  · have := (List.dropWhile_suffix (l := rest) (· != '/')).length_le
    simp only [List.length_cons]
    omega

/-- The names on a path. -/
def names (path : Raw) : List Raw := (steps path).map Step.name

/-- The steps of a link's target in place of the step that led to the link. -/
def replacing (closed : Bool) (target : List Step) : List Step :=
  match target.getLast? with
  | some last => target.dropLast ++ [{ last with closed := last.closed || closed }]
  | none => []

/-- Where a path leads: to a node, or to a name that a directory does not have. The flag tells that
a slash follows the last step. -/
inductive Place where
  | node (i : Inode) (closed : Bool)
  | absent (directory : Inode) (name : Raw) (closed : Bool)

/-- Which links at the end of a path are followed. -/
inductive LastLink where
  | followed
  /-- Only if a slash follows it. -/
  | kept
  | keptAlways
  deriving DecidableEq, Repr

/-- Is a link at the end followed? -/
def LastLink.follows (rule : LastLink) (closed : Bool) : Bool :=
  match rule with
  | followed => true
  | kept => closed
  | keptAlways => false

/-- Where steps lead from a directory, with the walker's own directory, if it has one, and the number
of links that may still be followed. -/
def walk (fs : FileSystem) (own : Option Inode) (rule : LastLink) (links : Nat) (i : Inode)
    (closed : Bool) (path : List Step) : Except Errno Place :=
  match path with
  | [] => .ok (.node i closed)
  | step :: rest =>
    match fs.file? i with
    | some (.directory parent entries) =>
      if !fs.allows i .toExecute then .error Errno.accessDenied
      else if step.name = ['.'] then fs.walk own rule links i step.closed rest
      else if step.name = ['.', '.'] then fs.walk own rule links parent step.closed rest
      else if maxName < step.name.length then .error Errno.nameTooLong
      else match entries.lookup step.name with
        | none =>
          if rest.isEmpty then .ok (.absent i step.name step.closed) else .error Errno.noEntry
        | some j =>
          match fs.file? j, links with
          | some (.link target), links =>
            if rest.isEmpty && !rule.follows step.closed then .ok (.node j step.closed)
            else match links with
              | 0 => .error Errno.tooManyLinks
              | links + 1 =>
                fs.walk own rule links (if Path.isAbsolute target then root else i) step.closed
                  (replacing step.closed (steps target) ++ rest)
          | some .ownDirectory, links =>
            if rest.isEmpty && !rule.follows step.closed then .ok (.node j step.closed)
            else match links, own with
              | 0, _ => .error Errno.tooManyLinks
              | _ + 1, none => .error Errno.noEntry
              | links + 1, some d => fs.walk own rule links d step.closed rest
          | _, links => fs.walk own rule links j step.closed rest
    | _ => .error Errno.notDirectory
termination_by (links, path.length)

/-- Where a path starts, seen from a directory. -/
def start (directory : Inode) (path : Raw) : Inode :=
  if Path.isAbsolute path then root else directory

/-- Where a path of whatever length leads from a directory. -/
def locate (fs : FileSystem) (own : Option Inode) (directory : Inode) (path : Raw)
    (rule : LastLink) : Except Errno Place :=
  if path.isEmpty then .error Errno.noEntry
  else fs.walk own rule maxLinks (start directory path) false (steps path)

/-- Where a path of permitted length leads from a directory. -/
def resolve (fs : FileSystem) (directory : Inode) (path : Raw) (rule : LastLink) :
    Except Errno Place :=
  if pathBound ≤ path.length then .error Errno.nameTooLong
  else fs.locate (some directory) directory path rule

/-- The node that a place is. A slash follows directories only. -/
def Place.existing (fs : FileSystem) : Place → Except Errno Inode
  | .node i closed => if closed && !fs.isDirectory i then .error Errno.notDirectory else .ok i
  | .absent _ _ _ => .error Errno.noEntry

/-- The node a path leads to. -/
def find (fs : FileSystem) (directory : Inode) (path : Raw) (follow : Bool) :
    Except Errno Inode := do
  (← fs.resolve directory path (if follow then .followed else .kept)).existing fs

/-- The name of a node in its directory. -/
def nameIn (fs : FileSystem) (directory i : Inode) : Option Raw :=
  ((fs.entries? directory).getD []).findSome? fun e => if e.2 = i then some e.1 else none

/-- The names from the root to a directory, found in so many steps. -/
def namesTo (fs : FileSystem) : Nat → Inode → Option (List Raw)
  | 0, _ => none
  | steps + 1, i =>
    if i = root then some []
    else match fs.file? i with
      | some (.directory parent _) => do
        let name ← fs.nameIn parent i
        return (← fs.namesTo steps parent) ++ [name]
      | _ => none

/-- The absolute path of a list of names. -/
def absolute (path : List Raw) : Raw :=
  if path.isEmpty then ['/'] else path.flatMap fun name => '/' :: name

/-- The absolute path of a directory, if it has not been removed. -/
def pathOf (fs : FileSystem) (i : Inode) : Option Raw :=
  (fs.namesTo fs.nodes.size i).map absolute

/-- The node with a number, as it is shown to a process that works in a directory: the link to its
own directory shows the path of it. -/
def nodeFor? (fs : FileSystem) (directory i : Inode) : Option Node :=
  (fs.node? i).map fun n =>
    match n.file with
    | .ownDirectory => { n with file := .link ((fs.pathOf directory).getD "(deleted)".toList) }
    | _ => n

/-- The directory and the name that steps lead to once all links are followed. -/
def holderOf (fs : FileSystem) (own : Option Inode) (links : Nat) (i : Inode) (path : List Step) :
    Option (Inode × Raw) :=
  match fs.walk own .followed links i false path.dropLast, path.getLast? with
  | .ok (.node d _), some last =>
    match ((fs.entries? d).getD []).lookup last.name with
    | none => none
    | some j =>
      match fs.file? j, links with
      | some (.link target), links + 1 =>
        fs.holderOf own links (if Path.isAbsolute target then root else d) (steps target)
      | _, _ => some (d, last.name)
  | _, _ => none

/-- The absolute path without links that a path leads to. It does not go through a directory that was
removed, be it one's own. -/
def canonicalize (fs : FileSystem) (directory : Inode) (path : Raw) : Except Errno Raw := do
  let own := (fs.pathOf directory).map fun _ => directory
  let place ← fs.locate own directory path .followed
  let i ← place.existing fs
  let found := if fs.isDirectory i then fs.pathOf i
    else match fs.holderOf own maxLinks (start directory path) (steps path) with
      | some (d, name) => (fs.pathOf d).map fun front => Path.join front name
      | none => none
  match found with
  | some p => .ok p
  | none => .error Errno.noEntry

end FileSystem

end PipeShell.Machine
