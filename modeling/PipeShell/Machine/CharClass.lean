import PipeShell.Machine.Number

/-!
# Classes of characters

The classes that have a name wherever sets of characters are written.
-/

set_option autoImplicit false

namespace PipeShell.Machine.CharClass

/-- Is a character one that is seen? -/
def isGraphic (c : Char) : Bool := decide (33 ≤ c.toNat) && decide (c.toNat ≤ 126)

/-- Is a character a blank within a line? -/
def isBlank (c : Char) : Bool := c == ' ' || c == '\t'

/-- The classes by name. -/
def table : List (String × (Char → Bool)) :=
  [("alnum", Char.isAlphanum), ("alpha", Char.isAlpha), ("blank", isBlank),
    ("cntrl", fun c => decide (c.toNat < 32) || decide (c.toNat = 127)), ("digit", Char.isDigit),
    ("graph", isGraphic), ("lower", Char.isLower), ("print", fun c => isGraphic c || c == ' '),
    ("punct", fun c => isGraphic c && !c.isAlphanum), ("space", Number.isSpace),
    ("upper", Char.isUpper), ("xdigit", Number.isDigitIn 16)]

/-- The class with a name. -/
def find? (name : Raw) : Option (Char → Bool) :=
  (table.find? fun e => e.1.toList == name).map Prod.snd

/-- All bytes. -/
def bytes : List Char := (List.range 256).map Char.ofNat

end PipeShell.Machine.CharClass
