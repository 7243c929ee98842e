import PipeShell.Text.Numeral

/-!
# Network addresses

Reading and writing IP addresses and the address of a socket. An IPv4 address is four decimal
numbers below 256 without leading zeros; an IPv6 address is eight groups of up to four hexadecimal
digits, one run of zero groups may be left out, and the last two groups may be written as an IPv4
address. Written out, the first longest run of two or more zero groups is left out.
-/

set_option autoImplicit false

namespace PipeShell

/-- An IP address. -/
inductive IpAddress where
  /-- Four numbers below 256. -/
  | v4 (octets : List Nat)
  /-- Eight numbers below 65536. -/
  | v6 (groups : List Nat)
  deriving DecidableEq, Repr

/-- Where a socket listens or connects to. -/
structure SocketAddress where
  ip : IpAddress
  port : Nat
  deriving DecidableEq, Repr

namespace IpAddress

/-! ## Reading -/

/-- The digits in front of a text, and what follows them. -/
def digits (base : Nat) : Text → List Nat × Text
  | [] => ([], [])
  | c :: rest =>
    match Numeral.digitIn? base c with
    | some d => let (ds, after) := digits base rest; (d :: ds, after)
    | none => ([], c :: rest)

/-- Reads one to `most` digits; a leading zero of a longer number only if allowed. -/
def number? (base most : Nat) (zeros : Bool) (t : Text) : Option (Nat × Text) :=
  let (ds, rest) := digits base t
  if ds.isEmpty || decide (most < ds.length) then none
  else if !zeros && ds.head? == some 0 && decide (1 < ds.length) then none
  else some (ds.foldl (fun n d => n * base + d) 0, rest)

/-- Reads the given character. -/
def sign? (c : Char) : Text → Option Text
  | d :: rest => if d = c then some rest else none
  | [] => none

/-- Reads a number below 256. -/
def octet? (t : Text) : Option (Nat × Text) := (number? 10 3 false t).filter (·.1 < 256)

/-- Reads the four numbers of an IPv4 address. -/
def octets? (t : Text) : Option (List Nat × Text) := do
  let (a, t) ← octet? t
  let (b, t) ← octet? (← sign? '.' t)
  let (c, t) ← octet? (← sign? '.' t)
  let (d, t) ← octet? (← sign? '.' t)
  return ([a, b, c, d], t)

/-- Reads up to `limit` groups with colons between them. The flag tells whether the last two were
written as an IPv4 address. -/
def groups : Nat → Bool → Text → List Nat × Bool × Text
  | 0, _, t => ([], false, t)
  | limit + 1, first, t =>
    let body := if first then some t else sign? ':' t
    match if limit = 0 then none else body.bind octets? with
    | some ([a, b, c, d], rest) => ([a * 256 + b, c * 256 + d], true, rest)
    | _ =>
      match body.bind (number? 16 4 true) with
      | some (g, rest) =>
        let (gs, mapped, after) := groups limit false rest
        (g :: gs, mapped, after)
      | none => ([], false, t)

/-- Reads the eight groups of an IPv6 address. -/
def groups? (t : Text) : Option (List Nat × Text) :=
  let (front, mapped, rest) := groups 8 true t
  if front.length = 8 then some (front, rest)
  else if mapped then none
  else do
    let rest ← sign? ':' (← sign? ':' rest)
    let (back, _, rest) := groups (7 - front.length) true rest
    return (front ++ List.replicate (8 - front.length - back.length) 0 ++ back, rest)

/-- Reads an address in front of a text. -/
def read? (t : Text) : Option (IpAddress × Text) :=
  match octets? t with
  | some (os, rest) => some (v4 os, rest)
  | none => (groups? t).map fun r => (v6 r.1, r.2)

/-- Reads an address that is the whole text. -/
def parse? (t : Text) : Option IpAddress :=
  match read? t with
  | some (ip, []) => some ip
  | _ => none

/-- Reads a number in decimal, behind a zero in octal, or behind `0x` in hexadecimal. -/
def loosePart? (t : Text) : Option (Nat × Text) :=
  match t with
  | '0' :: 'x' :: rest | '0' :: 'X' :: rest => number? 16 rest.length true rest
  | '0' :: rest => number? 8 (rest.length + 1) true ('0' :: rest)
  | _ => number? 10 t.length true t

/-- Reads at most so many numbers with points between them. -/
def looseParts? : Nat → Text → Option (List Nat × Text)
  | 0, _ => none
  | most + 1, t => do
    let (n, rest) ← loosePart? t
    match rest with
    | '.' :: rest =>
      let (more, rest) ← looseParts? most rest
      return (n :: more, rest)
    | _ => return ([n], rest)

/-- Reads an IPv4 address in up to four numbers, of which the last one fills what is left. -/
def loose? (t : Text) : Option IpAddress := do
  let (parts, rest) ← looseParts? 4 t
  let last := parts.getLastD 0
  let free := 5 - parts.length
  if !rest.isEmpty || parts.dropLast.any (256 ≤ ·) || decide (Nat.pow 256 free ≤ last) then none
  else
    let filled := (List.range free).reverse.map fun k => last / Nat.pow 256 k % 256
    return v4 (parts.dropLast ++ filled)

/-! ## Kinds -/

/-- Is an address all zeros? -/
def isUnspecified : IpAddress → Bool
  | v4 os => os.all (· == 0)
  | v6 gs => gs.all (· == 0)

/-- Is an IPv6 address an IPv4 address in disguise? -/
def isMapped : IpAddress → Bool
  | v6 [0, 0, 0, 0, 0, 0xFFFF, _, _] => true
  | _ => false

/-- Does an IPv6 address stand for a group of machines? -/
def isMulticast : IpAddress → Bool
  | v6 (g :: _) => decide (0xFF00 ≤ g)
  | _ => false

/-- Does an IPv6 address hold only on one link? -/
def isLinkLocal : IpAddress → Bool
  | v6 (g :: _) => g / 64 == 0xFE80 / 64
  | _ => false

/-! ## Writing -/

/-- Texts with a sign between them. -/
def joined (c : Char) : List Text → Text
  | [] => []
  | [t] => t
  | t :: ts => t ++ c :: joined c ts

/-- A number in lower-case hexadecimal. -/
def hex (n : Nat) : Text := Nat.toDigits 16 n

/-- The number of zeros in front of a list. -/
def zerosAt (gs : List Nat) : Nat := (gs.takeWhile (· == 0)).length

/-- Start and length of the first longest run of zeros. -/
def longestZeros (gs : List Nat) : Nat × Nat :=
  (List.range gs.length).foldl
    (fun best i =>
      let n := zerosAt (gs.drop i)
      if best.2 < n then (i, n) else best) (0, 0)

/-- An address as text. -/
def text : IpAddress → Text
  | v4 os => joined '.' (os.map Numeral.ofNat)
  | v6 [0, 0, 0, 0, 0, 0xFFFF, g, h] =>
    "::ffff:".toList ++
      joined '.' ([g / 256, g % 256, h / 256, h % 256].map Numeral.ofNat)
  | v6 gs =>
    let (start, n) := longestZeros gs
    if n ≤ 1 then joined ':' (gs.map hex)
    else
      joined ':' ((gs.take start).map hex) ++ "::".toList ++
        joined ':' ((gs.drop (start + n)).map hex)

end IpAddress

/-- One more than the largest port. -/
def portBound : Nat := 65536

namespace SocketAddress

/-- An address with its port; an IPv6 address stands in brackets. -/
def text (a : SocketAddress) : Text :=
  match a.ip with
  | .v4 _ => a.ip.text ++ ':' :: Numeral.ofNat a.port
  | .v6 _ => '[' :: a.ip.text ++ "]:".toList ++ Numeral.ofNat a.port

/-- Reads a colon and a port that end a text. -/
def port? (t : Text) : Option Nat := do
  let (ds, rest) := IpAddress.digits 10 (← IpAddress.sign? ':' t)
  let n := ds.foldl (fun n d => n * 10 + d) 0
  if ds.isEmpty || !rest.isEmpty || decide (portBound ≤ n) then none else some n

/-- Drops the number of an interface behind an IPv6 address, if there is one. -/
def dropZone? (t : Text) : Option Text :=
  match t with
  | '%' :: rest =>
    let (ds, after) := IpAddress.digits 10 rest
    if ds.isEmpty || decide (Nat.pow 2 32 ≤ ds.foldl (fun n d => n * 10 + d) 0) then none else some after
  | _ => some t

/-- Reads the address of a socket. -/
def parse? (t : Text) : Option SocketAddress :=
  match IpAddress.octets? t with
  | some (os, rest) => (port? rest).map fun p => ⟨.v4 os, p⟩
  | none => do
    let (gs, rest) ← IpAddress.groups? (← IpAddress.sign? '[' t)
    let p ← port? (← IpAddress.sign? ']' (← dropZone? rest))
    return ⟨.v6 gs, p⟩

end SocketAddress

end PipeShell
