import PipeShell.Wire.Request

/-!
# Responses on the wire

A server closes each response with one sentinel byte. A client copies what arrives to a sink up to
the sentinel and leaves what follows it for the next response. Bytes count as consumed only when
the sink has taken all of the piece, and each piece is flushed as soon as it is copied.
-/

set_option autoImplicit false

namespace PipeShell.Wire

/-- The byte that ends a response. -/
def sentinel : UInt8 := 4

/-- Ends the current response. -/
def sendSentinel (out : Sink) : Except Failure Unit × Sink := out.send [[sentinel]]

/-- Writes a message and ends the response with it. -/
def sendResponse (message : Text) (out : Sink) : Except Failure Unit × Sink :=
  out.send [Utf8.encode message, [sentinel]]

/-- Copies one response to a sink. True when the sentinel was reached, false when the stream ended
before it. -/
def readResponse : Source → Sink → Except Failure Bool × Source × Sink
  | [], out => atEnd [] out
  | .fault .interrupted :: rest, out => readResponse rest out
  | .fault fault :: rest, out => (.error (.stream fault), rest, out)
  | .piece [] :: rest, out => atEnd rest out
  | .piece (b :: bs) :: rest, out =>
    match Bytes.cutAt sentinel (b :: bs) with
    | some (text, behind) =>
      match out.deliver text with
      | (.error f, out) => (.error f, .piece (b :: bs) :: rest, out)
      | (.ok (), out) =>
        match out.flush with
        | (.error f, out) => (.error f, Source.unread behind rest, out)
        | (.ok (), out) => (.ok true, Source.unread behind rest, out)
    | none =>
      match out.deliver (b :: bs) with
      | (.error f, out) => (.error f, .piece (b :: bs) :: rest, out)
      | (.ok (), out) =>
        match out.flush with
        | (.error f, out) => (.error f, rest, out)
        | (.ok (), out) => readResponse rest out
where
  /-- The stream ended before a sentinel. -/
  atEnd (rest : Source) (out : Sink) : Except Failure Bool × Source × Sink :=
    match out.flush with
    | (.error f, out) => (.error f, rest, out)
    | (.ok (), out) => (.ok false, rest, out)

end PipeShell.Wire
