import PipeShell.Machine.Raw

/-!
# Quoted names

How names appear in what programs print. Always quoted, a name stands between single quotes, or
double ones if that saves escapes, and bytes that cannot be printed are escaped in between; quoted
where needed, a name that a command line would read as one plain word stands as it is. A word of a
message stands between single quotes with escapes inside.
-/

set_option autoImplicit false

namespace PipeShell.Machine.Quoting

/-- Can a byte be printed? -/
def isPrintable (c : Char) : Bool := decide (32 ≤ c.toNat) && decide (c.toNat ≤ 126)

/-- Bytes with an escape of one letter. -/
def letters : List (Nat × Char) :=
  [(7, 'a'), (8, 'b'), (9, 't'), (10, 'n'), (11, 'v'), (12, 'f'), (13, 'r')]

/-- The three octal digits of a byte. -/
def octal (c : Char) : Raw :=
  let digit (n : Nat) : Char := Char.ofNat ('0'.toNat + n % 8)
  [digit (c.toNat / 64), digit (c.toNat / 8), digit c.toNat]

/-- A byte that cannot be printed, escaped. -/
def escape (c : Char) : Raw :=
  match letters.lookup c.toNat with
  | some letter => ['\\', letter]
  | none => '\\' :: octal c

/-- Bytes that a command line gives a meaning. -/
def special : List Char := " !\"$&()*;<=>[^`|'\\?".toList

/-- Must a name be quoted? Some bytes matter only at the front, braces only alone. -/
def needsQuotes (name : Raw) : Bool :=
  name.isEmpty || name.any (fun c => !isPrintable c || special.contains c) ||
    name.head? == some '#' || name.head? == some '~' || name == ['{'] || name == ['}']

/-- Bytes that stand for themselves in double quotes as they do in single ones. -/
def isHarmless (c : Char) : Bool := c.isAlphanum || " '%+,-./:]_".toList.contains c

/-- Are double quotes the better ones? -/
def prefersDouble (name : Raw) : Bool :=
  let isFine (position : Nat) (c : Char) : Bool :=
    isHarmless c || (decide (position = 0) && (c == '#' || c == '~'))
  name.contains '\'' && (name.zipIdx.all fun p => isFine p.2 p.1)

/-- A name between single quotes, from a place where they are open or, after an escape, of the kind
that allows escapes. -/
def singly (escaping : Bool) : Raw → Raw
  | [] => ['\'']
  | c :: rest =>
    if isPrintable c then
      (if c == '\'' then (if escaping then "'\\''" else "'\\''").toList
        else (if escaping then ['\'', '\'', c] else [c])) ++ singly false rest
    else (if escaping then [] else "'$'".toList) ++ escape c ++ singly true rest

/-- A name with quotes. -/
def always (name : Raw) : Raw :=
  if prefersDouble name then '"' :: name ++ ['"'] else '\'' :: singly false name

/-- A name with quotes if it needs them. -/
def whereNeeded (name : Raw) : Raw := if needsQuotes name then always name else name

/-- A name with quotes if it needs them, or if it holds a colon. -/
def apart (name : Raw) : Raw :=
  if needsQuotes name || name.contains ':' then always name else name

/-- A word of a message. -/
def word (w : Raw) : Raw :=
  let shown (c : Char) : Raw :=
    if c == '\'' || c == '\\' then ['\\', c] else if isPrintable c then [c] else escape c
  '\'' :: w.flatMap shown ++ ['\'']

end PipeShell.Machine.Quoting
