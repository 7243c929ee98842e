import PipeShell.Stream.Mark
import PipeShell.Stream.Source

/-!
# Lines of a source

A reader of lines takes bytes from a source in bulk and hands them out line by line. A line ends
behind a newline, which is left out together with one carriage return in front of it; what stands
behind the last newline is a line unless it is empty. An interrupted read is repeated. After any
other fault the bytes of the unfinished line are gone, and a line that is not UTF-8 is refused.

Proves: each line uses up some of what the reader and its source hold (`next_size`).
-/

set_option autoImplicit false

namespace PipeShell

/-- A reader of lines: the bytes taken and not yet handed out, and what is still to come. -/
structure Lines where
  held : Bytes := []
  source : Source
  deriving DecidableEq, Repr

namespace Lines

/-- The most bytes taken at a time. -/
def bulk : Nat := 8192

/-- The byte that ends a line. -/
def newline : UInt8 := 10

/-- The line behind which a newline stands. -/
def unterminated (line : Bytes) : Bytes :=
  if line.getLast? = some 13 then line.dropLast else line

/-- A line as text. -/
def decode (line : Bytes) : Except Failure (Option Text) :=
  match Utf8.decode? line with
  | some t => .ok (some t)
  | none => .error .invalidText

/-- The next line, or none at the end. -/
def next (r : Lines) : Except Failure (Option Text) × Lines :=
  match Bytes.cutAt newline r.held with
  | some (line, rest) => (decode (unterminated line), { r with held := rest })
  | none =>
    match _h : r.source.read bulk with
    | (.error .interrupted, source) => next { r with source }
    | (.error fault, source) => (.error (.stream fault), { held := [], source })
    | (.ok [], source) =>
      if r.held.isEmpty then (.ok none, { r with source })
      else (decode r.held, { held := [], source })
    | (.ok (b :: bs), source) => next { held := r.held ++ b :: bs, source }
termination_by r.source.size
decreasing_by
  · exact Source.read_size (show 0 < bulk by decide) (by assumption) (by simp)
  · exact Source.read_size (show 0 < bulk by decide) (by assumption) (by simp)

/-- How much a reader and its source hold. -/
def size (r : Lines) : Nat := r.held.length + r.source.size

theorem next_size {r : Lines} {t : Text} (h : (next r).1 = .ok (some t)) :
    (next r).2.size < r.size := by
  fun_induction next r with
  | case1 r line rest hc =>
    have := Bytes.cutAt_length hc
    simp only [size]
    omega
  | case2 r hc source hr ih =>
    have := Source.read_size (show 0 < bulk by decide) hr (by simp)
    have := ih h
    simp only [size] at *
    omega
  | case3 => simp at h
  | case4 => simp at h
  | case5 r hc source hr hne =>
    have hle := Source.read_size_le bulk r.source
    rw [hr] at hle
    have : r.held ≠ [] := by simpa using hne
    have := List.length_pos_iff.2 this
    simp only [size, List.length_nil] at *
    omega
  | case6 r hc b bs source hr ih =>
    have := Source.read_bytes_size hr
    have := ih h
    simp only [size, List.length_append] at *
    omega

end Lines

end PipeShell
