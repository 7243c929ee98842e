import PipeShell.Stream.Mark
import PipeShell.Stream.Source
import PipeShell.Stream.Sink

/-!
# Requests on the wire

A client sends each line followed by a NUL. The server collects what arrives until it holds a NUL
or too much: a request may take `max` bytes with its terminator, and the bound is tested on what is
held, so the portions in which bytes arrive decide nothing. Bytes behind a terminator stay for the
next request. At the end of the stream the bytes held, if any, are the last request.
-/

set_option autoImplicit false

namespace PipeShell.Wire

/-- The byte that ends a request. -/
def terminator : UInt8 := 0

/-- The most bytes taken by one read. -/
def readSize : Nat := 4096

/-- Why no request can be returned. -/
inductive RequestError where
  | tooLarge (max : Nat)
  | receive (fault : StreamFault)
  deriving DecidableEq, Repr

/-- The wording of an error. -/
def RequestError.message : RequestError → Text
  | tooLarge max => "rdsh-error: request exceeds ".toList ++ Numeral.ofNat max ++ " bytes".toList
  | receive fault => "rdsh-error: communication error: ".toList ++ fault.message.toList

/-- The receiving end of a connection. -/
structure Inbox where
  /-- Bytes received and not yet returned. -/
  pending : Bytes := []
  /-- What the peer still delivers. -/
  source : Source := []

/-- The next request, or none at the end of the stream. -/
def Inbox.next (max : Nat) (box : Inbox) : Except RequestError (Option Text) × Inbox :=
  match Bytes.cutAt terminator box.pending with
  | some (request, rest) =>
    if max < request.length + 1 then (.error (.tooLarge max), box)
    else (.ok (some (Utf8.decodeLossy request)), { box with pending := rest })
  | none =>
    if max ≤ box.pending.length then (.error (.tooLarge max), box)
    else match _h : box.source.read readSize with
      | (.error .interrupted, source) => Inbox.next max { box with source }
      | (.error fault, source) => (.error (.receive fault), { box with source })
      | (.ok [], source) =>
        if box.pending.isEmpty then (.ok none, { box with source })
        else (.ok (some (Utf8.decodeLossy box.pending)), { pending := [], source })
      | (.ok (b :: bs), source) => Inbox.next max { pending := box.pending ++ b :: bs, source }
termination_by box.source.size
decreasing_by
  · exact Source.read_size (show 0 < readSize by decide) (by assumption) (by simp)
  · exact Source.read_size (show 0 < readSize by decide) (by assumption) (by simp)

/-- How much an inbox and its source hold. -/
def Inbox.size (box : Inbox) : Nat := box.pending.length + box.source.size

/-- Each request uses up some of what the inbox and its source hold. -/
theorem Inbox.next_size {max : Nat} {box : Inbox} {t : Text}
    (h : (Inbox.next max box).1 = .ok (some t)) : (Inbox.next max box).2.size < box.size := by
  fun_induction Inbox.next max box with
  | case1 => simp at h
  | case2 box request rest hc hm =>
    have := Bytes.cutAt_length hc
    simp only [size]
    omega
  | case3 => simp at h
  | case4 box hc hm source hr ih =>
    have := Source.read_size (show 0 < readSize by decide) hr (by simp)
    have := ih h
    simp only [size] at *
    omega
  | case5 => simp at h
  | case6 => simp at h
  | case7 box hc hm source hr hne =>
    have := Source.read_bytes_size hr
    have : box.pending ≠ [] := by simpa using hne
    have := List.length_pos_iff.2 this
    simp only [size, List.length_nil] at *
    omega
  | case8 box hc hm b bs source hr ih =>
    have := Source.read_bytes_size hr
    have := ih h
    simp only [size, List.length_append] at *
    omega

/-- Sends one request. -/
def sendRequest (line : Text) (out : Sink) : Except Failure Unit × Sink :=
  out.send [Utf8.encode line, [terminator]]

/-- Drops one newline at the end of a line, and a carriage return in front of it. -/
def stripNewline (line : Text) : Text :=
  dropLast '\r' (dropLast '\n' line)
where
  /-- Drops the last character if it is `c`. -/
  dropLast (c : Char) (t : Text) : Text := if t.getLast? = some c then t.dropLast else t

end PipeShell.Wire
