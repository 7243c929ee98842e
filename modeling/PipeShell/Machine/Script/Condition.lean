import PipeShell.Machine.FileSystem
import PipeShell.Machine.Number

/-!
# Conditions

What the builtin `test` decides: texts, whole numbers and files, joined with signs. A sign counts as
a plain text where nothing could follow it or where a comparison does.
-/

set_option autoImplicit false

namespace PipeShell.Machine.Script.Condition

/-- The kind of a sign. -/
inductive Kind where
  | unary
  | binary
  | negation
  | conjunction
  | disjunction
  | opening
  | closing
  deriving DecidableEq, Repr

/-- The signs with one operand. -/
def unarySigns : List String :=
  ["-r", "-w", "-x", "-e", "-f", "-d", "-c", "-b", "-p", "-u", "-g", "-k", "-s", "-t", "-z", "-n",
    "-h", "-O", "-G", "-L", "-S"]

/-- The signs between two operands. -/
def binarySigns : List String :=
  ["=", "!=", "<", ">", "-eq", "-ne", "-ge", "-gt", "-le", "-lt", "-nt", "-ot", "-ef"]

/-- The kind of a text, if it is a sign. -/
def kind? (r : Raw) : Option Kind :=
  let text := String.ofList r
  if unarySigns.contains text then some .unary
  else if binarySigns.contains text then some .binary
  else match text with
    | "!" => some .negation
    | "-a" => some .conjunction
    | "-o" => some .disjunction
    | "(" => some .opening
    | ")" => some .closing
    | _ => none

/-- What a condition is decided with. -/
structure Surroundings where
  files : FileSystem
  directory : Inode

/-- The place in the arguments. -/
abbrev Work := StateT Nat (Except Raw)

/-- Fails because of a sign. -/
def wrong {α : Type} (sign : Raw) (message : String) : Work α :=
  throw (if sign.isEmpty then message.toList else sign ++ ": ".toList ++ message.toList)

/-- Is a sign with one operand a plain text at a place? -/
def isOperand (args : Array Raw) (i : Nat) : Bool :=
  match args[i + 1]?, args[i + 2]? with
  | none, _ => true
  | some _, none => false
  | some s, some _ => kind? s == some .binary

/-- What stands at a place: nothing, a plain text or a sign. -/
def signAt (args : Array Raw) (i : Nat) : Option (Option Kind) :=
  match args[i]? with
  | none => none
  | some s =>
    match kind? s with
    | some .unary => if isOperand args i then some none else some (some .unary)
    | some .opening => if (args[i + 1]?).isNone then some none else some (some .opening)
    | k => some k

/-- The text at a place. -/
def textAt (args : Array Raw) (i : Nat) : Raw := (args[i]?).getD []

/-- A whole number. -/
def integer (r : Raw) : Work Int :=
  match Number.front? 10 r with
  | some (n, rest) =>
    if (rest.dropWhile Number.isSpace).isEmpty && -(Int.pow 2 63) ≤ n && n < Int.pow 2 63 then return n
    else throw ("Illegal number: ".toList ++ r)
  | none => throw ("Illegal number: ".toList ++ r)

/-- The node behind a path. -/
def nodeAt (s : Surroundings) (path : Raw) (follow : Bool) : Option Node :=
  match s.files.find s.directory path follow with
  | .ok i => s.files.nodeFor? s.directory i
  | .error _ => none

/-- Does the user have a permission on a file? -/
def mayUse (s : Surroundings) (path : Raw) (p : Permission) : Bool :=
  match nodeAt s path true with
  | some n => n.allows p
  | none => false

/-- Decides a question about one operand. -/
def unary (s : Surroundings) (sign : String) (operand : Raw) : Work Bool :=
  let node := nodeAt s operand true
  let file := node.map Node.file
  match sign with
  | "-z" => return operand.isEmpty
  | "-n" => return !operand.isEmpty
  | "-t" => do
    let _ ← integer operand
    return false
  | "-r" => return mayUse s operand .toRead
  | "-w" => return mayUse s operand .toWrite
  | "-x" => return mayUse s operand .toExecute
  | "-e" => return node.isSome
  | "-f" => return match file with
    | some (.regular _) | some (.program _) => true
    | _ => false
  | "-d" => return match file with
    | some (.directory _ _) => true
    | _ => false
  | "-c" => return match file with
    | some (.device _) => true
    | _ => false
  | "-s" => return match file with
    | some (.regular content) => !content.isEmpty
    | some (.directory _ _) | some (.program _) => true
    | _ => false
  | "-h" | "-L" => return match (nodeAt s operand false).map Node.file with
    | some (.link _) => true
    | _ => false
  | "-O" | "-G" => return (node.map fun n => !n.foreign).getD false
  | "-k" => return (node.map fun n => n.mode / 512 % 2 == 1).getD false
  | "-g" => return (node.map fun n => n.mode / 1024 % 2 == 1).getD false
  | "-u" => return (node.map fun n => n.mode / 2048 % 2 == 1).getD false
  | _ => return false

/-- Decides a question about two operands. -/
def binary (s : Surroundings) (a : Raw) (sign : String) (b : Raw) : Work Bool := do
  match sign with
  | "=" => return a == b
  | "!=" => return a != b
  | "<" => return Raw.compare a b == .lt
  | ">" => return Raw.compare a b == .gt
  | "-eq" => return (← integer a) == (← integer b)
  | "-ne" => return (← integer a) != (← integer b)
  | "-ge" => return (← integer b) ≤ (← integer a)
  | "-gt" => return (← integer b) < (← integer a)
  | "-le" => return (← integer a) ≤ (← integer b)
  | "-lt" => return (← integer a) < (← integer b)
  | "-ef" =>
    return match s.files.find s.directory a true, s.files.find s.directory b true with
      | .ok i, .ok j => i == j
      | _, _ => false
  | _ => return false

mutual

/-- A simple condition. -/
def primary (s : Surroundings) (args : Array Raw) : Nat → Option (Option Kind) → Work Bool
  | 0, _ => return false
  | steps + 1, sign => do
    let i ← get
    match sign with
    | none => return false
    | some (some .opening) =>
      set (i + 1)
      match signAt args (i + 1) with
      | some (some .closing) => return false
      | inner =>
        let result ← disjunction s args steps inner false
        modify (· + 1)
        match signAt args (← get) with
        | some (some .closing) => return result
        | _ => wrong [] "closing paren expected"
    | some (some .unary) =>
      set (i + 1)
      if args.size ≤ i + 1 then wrong (textAt args i) "argument expected"
      unary s (String.ofList (textAt args i)) (textAt args (i + 1))
    | some _ =>
      match signAt args (i + 1) with
      | some (some .binary) =>
        set (i + 2)
        if args.size ≤ i + 2 then wrong (textAt args (i + 1)) "argument expected"
        binary s (textAt args i) (String.ofList (textAt args (i + 1))) (textAt args (i + 2))
      | _ => return !(textAt args i).isEmpty

/-- A condition with exclamation marks in front. -/
def negation (s : Surroundings) (args : Array Raw) : Nat → Option (Option Kind) → Work Bool
  | 0, _ => return false
  | steps + 1, sign => do
    match sign with
    | some (some .negation) =>
      let i ← get
      let inner := signAt args (i + 1)
      if inner.isSome then set (i + 1)
      return !(← negation s args steps inner)
    | sign => primary s args steps sign

/-- Conditions that must all hold, behind those that were decided. -/
def conjunction (s : Surroundings) (args : Array Raw) :
    Nat → Option (Option Kind) → Bool → Work Bool
  | 0, _, result => return result
  | steps + 1, sign, result => do
    let result := (← negation s args steps sign) && result
    let i ← get
    match signAt args (i + 1) with
    | some (some .conjunction) =>
      set (i + 2)
      conjunction s args steps (signAt args (i + 2)) result
    | _ => return result

/-- Conditions of which one must hold, behind those that were decided. -/
def disjunction (s : Surroundings) (args : Array Raw) :
    Nat → Option (Option Kind) → Bool → Work Bool
  | 0, _, result => return result
  | steps + 1, sign, result => do
    let result := (← conjunction s args steps sign true) || result
    let i ← get
    match signAt args (i + 1) with
    | some (some .disjunction) =>
      set (i + 2)
      disjunction s args steps (signAt args (i + 2)) result
    | _ => return result

end

/-- Decides an expression whose first sign is known. -/
def whole (s : Surroundings) (args : List Raw) (first : Option (Option Kind)) : Except Raw Bool :=
  let array := args.toArray
  let work : Work Bool := do
    let result ← disjunction s array (8 * args.length + 8) first false
    let i ← get
    if i + 1 < array.size then wrong (textAt array i) "unexpected operator"
    return result
  (work.run 0).map Prod.fst

/-- Decides a condition; exclamation marks in front of a short one are looked at first. -/
def decide (s : Surroundings) : List Raw → Except Raw Bool
  | [] => .ok false
  | first :: rest =>
    let args := first :: rest
    let plain : Except Raw Bool := whole s args (signAt args.toArray 0)
    if args.length = 3 && ((args[1]?).bind kind?) == some .binary then whole s args (some none)
    else if args.length = 3 || args.length = 4 then
      if first == ['('] && args.getLast? == some [')'] then
        let inner := rest.dropLast
        whole s inner (signAt inner.toArray 0)
      else if first == ['!'] then (decide s rest).map (!·)
      else plain
    else plain

end PipeShell.Machine.Script.Condition
