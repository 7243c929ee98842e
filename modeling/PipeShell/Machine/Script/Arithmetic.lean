import PipeShell.Machine.Script.Syntax
import PipeShell.Machine.Number

/-!
# Arithmetic of scripts

Whole numbers of 64 bits, variables, the usual operators with their precedence, conditions and
assignments. What is not chosen is read but not carried out. An expression is carried out while it
is read, so the first fault from the left is the one that is told.
-/

set_option autoImplicit false

namespace PipeShell.Machine.Script.Arithmetic

/-- A sign or a value of an expression. -/
inductive Token where
  | number (n : Int)
  | name (n : Raw)
  | sign (s : String)
  | ended
  deriving DecidableEq, Repr

/-- The signs, longer ones first. -/
def signs : List String :=
  ["<<=", ">>=", "||", "&&", "==", "!=", "<=", ">=", "<<", ">>", "+=", "-=", "*=", "/=", "%=",
    "&=", "^=", "|=", "|", "^", "&", "<", ">", "+", "-", "*", "/", "%", "!", "~", "(", ")", "?",
    ":", "="]

/-- A number wrapped around to 64 bits. -/
def wrap (n : Int) : Int := Int.bmod n (Nat.pow 2 64)

/-- A number kept within 64 bits. -/
def clamp (n : Int) : Int := max (-(Int.pow 2 63)) (min (Int.pow 2 63 - 1) n)

/-- The token at the front of an expression, and what follows it. -/
def tokenAt (r : Raw) : Token × Raw :=
  match r.dropWhile fun c => c == ' ' || c == '\t' || c == '\n' with
  | [] => (.ended, [])
  | c :: rest =>
    let r := c :: rest
    if c.isDigit then
      match Number.magnitude? 0 r with
      | some (n, rest) => (.number (clamp n), rest)
      | none => (.ended, [])
    else
      let name := nameAt r
      if !name.isEmpty then (.name name, r.drop name.length)
      else match signs.find? fun s => s.toList.isPrefixOf r with
        | some s => (.sign s, r.drop s.length)
        | none => (.ended, r)

/-- Where reading is, and what was assigned. -/
structure Progress where
  rest : Raw
  /-- The next token. -/
  token : Token
  assigned : List (Raw × Int) := []

/-- What is wrong with an expression. -/
inductive Fault where
  /-- A fault of the expression itself. -/
  | expression (message : String)
  /-- A variable that is no number. -/
  | notNumber (value : Raw)
  deriving Repr

/-- A part of the work; values of variables are looked up as they are. -/
abbrev Work := StateT Progress (Except Fault)

/-- Goes on to the next token. -/
def advance : Work Unit := modify fun p =>
  let (token, rest) := tokenAt p.rest
  { p with token, rest }

/-- Fails. -/
def fail {α : Type} (message : String) : Work α := throw (.expression message)

/-- Is a sign next? -/
def isNext (s : String) : Work Bool := return (← get).token == .sign s

/-- The value of a text. -/
def valueOf (text : Raw) : Work Int :=
  if (text.dropWhile Number.isSpace).isEmpty then return 0
  else match Number.front? 0 text with
    | some (n, rest) =>
      if (rest.dropWhile Number.isSpace).isEmpty && clamp n == n then return n
      else throw (.notNumber text)
    | none => throw (.notNumber text)

/-- The value of a variable. -/
def held (lookUp : Raw → Raw) (name : Raw) : Work Int := do
  match (← get).assigned.lookup name with
  | some n => return n
  | none => valueOf (lookUp name)

/-- The precedence of a sign between two values; less binds more tightly. -/
def precedence? (s : String) : Option Nat :=
  [("*", 0), ("/", 0), ("%", 0), ("+", 1), ("-", 1), ("<<", 2), (">>", 2), ("<", 3), ("<=", 3),
    (">", 3), (">=", 3), ("==", 4), ("!=", 4), ("&", 5), ("^", 6), ("|", 7)].lookup s

/-- The precedence of the next token. -/
def nextPrecedence? : Work (Option (String × Nat)) := do
  match (← get).token with
  | .sign s => return (precedence? s).map fun p => (s, p)
  | _ => return none

/-- A truth value. -/
def truth (b : Bool) : Int := if b then 1 else 0

/-- The bits of a number. -/
def bits (n : Int) : Nat := (n % Int.pow 2 64).toNat

/-- What a sign makes of two values. -/
def apply (s : String) (a b : Int) : Work Int :=
  match s with
  | "*" => return wrap (a * b)
  | "/" => if b = 0 then fail "division by zero" else return wrap (Int.tdiv a b)
  | "%" => if b = 0 then fail "division by zero" else return Int.tmod a b
  | "+" => return wrap (a + b)
  | "-" => return wrap (a - b)
  | "<<" => return wrap (a * Int.pow 2 (bits b % 64))
  | ">>" => return a / Int.pow 2 (bits b % 64)
  | "<" => return truth (a < b)
  | "<=" => return truth (a ≤ b)
  | ">" => return truth (b < a)
  | ">=" => return truth (b ≤ a)
  | "==" => return truth (a = b)
  | "!=" => return truth (a ≠ b)
  | "&" => return wrap (Nat.land (bits a) (bits b))
  | "^" => return wrap (Nat.xor (bits a) (bits b))
  | _ => return wrap (Nat.lor (bits a) (bits b))

/-- The sign in front of an equals sign that changes a variable. -/
def changing? (s : String) : Option String :=
  [("<<=", "<<"), (">>=", ">>"), ("+=", "+"), ("-=", "-"), ("*=", "*"), ("/=", "/"), ("%=", "%"),
    ("&=", "&"), ("^=", "^"), ("|=", "|")].lookup s

mutual

/-- A value with signs in front. -/
def primary (lookUp : Raw → Raw) (idle : Bool) : Nat → Work Int
  | 0 => fail "expecting primary"
  | steps + 1 => do
    let t := (← get).token
    match t with
    | .number n => advance; return n
    | .name n =>
      let v ← if idle then pure 0 else held lookUp n
      advance
      return v
    | .sign "(" =>
      advance
      let v ← assignment lookUp idle steps
      unless ← isNext ")" do fail "expecting ')'"
      advance
      return v
    | .sign "+" => advance; primary lookUp idle steps
    | .sign "-" => advance; return wrap (-(← primary lookUp idle steps))
    | .sign "!" => advance; return truth ((← primary lookUp idle steps) == 0)
    | .sign "~" => advance; return wrap (-(← primary lookUp idle steps) - 1)
    | _ => fail "expecting primary"

/-- Values with signs between them, up to a precedence, behind a first value. -/
def between (lookUp : Raw → Raw) (idle : Bool) (bound : Nat) : Nat → Int → Work Int
  | 0, a => return a
  | steps + 1, a => do
    match ← nextPrecedence? with
    | none => return a
    | some (s, p) =>
      if bound ≤ p then return a
      else
        advance
        let b ← primary lookUp idle steps
        let b ← between lookUp idle p steps b
        let a ← if idle then pure b else apply s a b
        between lookUp idle bound steps a

/-- Values of which all must hold. -/
def conjunction (lookUp : Raw → Raw) (idle : Bool) : Nat → Work Int
  | 0 => fail "expecting primary"
  | steps + 1 => do
    let a ← between lookUp idle 8 steps (← primary lookUp idle steps)
    if ← isNext "&&" then
      advance
      let b ← conjunction lookUp (idle || a == 0) steps
      return truth (a != 0 && b != 0)
    else return a

/-- Values of which one must hold. -/
def disjunction (lookUp : Raw → Raw) (idle : Bool) : Nat → Work Int
  | 0 => fail "expecting primary"
  | steps + 1 => do
    let a ← conjunction lookUp idle steps
    if ← isNext "||" then
      advance
      let b ← disjunction lookUp (idle || a != 0) steps
      return truth (a != 0 || b != 0)
    else return a

/-- A choice between two values. -/
def choice (lookUp : Raw → Raw) (idle : Bool) : Nat → Work Int
  | 0 => fail "expecting primary"
  | steps + 1 => do
    let a ← disjunction lookUp idle steps
    if ← isNext "?" then
      advance
      let b ← assignment lookUp (idle || a == 0) steps
      unless ← isNext ":" do fail "expecting ':'"
      advance
      let c ← choice lookUp (idle || a != 0) steps
      return if a != 0 then b else c
    else return a

/-- An assignment, or a value. -/
def assignment (lookUp : Raw → Raw) (idle : Bool) : Nat → Work Int
  | 0 => fail "expecting primary"
  | steps + 1 => do
    let p ← get
    match p.token with
    | .name name =>
      let (sign, rest) := tokenAt p.rest
      let set (change : Option String) : Work Int := do
        modify fun q => { q with rest, token := sign }
        advance
        let v ← assignment lookUp idle steps
        if idle then return v
        let v ← match change with
          | none => pure v
          | some s => apply s (← held lookUp name) v
        modify fun q => { q with assigned := (name, v) :: q.assigned }
        return v
      match sign with
      | .sign "=" => set none
      | .sign s =>
        match changing? s with
        | some change => set (some change)
        | none => choice lookUp idle steps
      | _ => choice lookUp idle steps
    | _ => choice lookUp idle steps

end

/-- The value of an expression, and what it assigns, the last one first. -/
def evaluate (lookUp : Raw → Raw) (expression : Raw) : Except Fault (Int × List (Raw × Int)) := do
  let (token, rest) := tokenAt expression
  let work : Work Int := do
    let v ← assignment lookUp false (4 * expression.length + 16)
    let p ← get
    if p.token != .ended || !p.rest.isEmpty then fail "expecting EOF"
    return v
  let (v, p) ← work.run { rest, token }
  return (v, p.assigned)

end PipeShell.Machine.Script.Arithmetic
