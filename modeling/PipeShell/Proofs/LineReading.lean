import PipeShell.Proofs.Arrivals
import PipeShell.Proofs.Encoding
import PipeShell.Stream.Lines
import PipeShell.Wire.Request

/-!
# Lines however they arrive

A reader of lines takes its bytes in bulk, in the portions in which they arrive. Without faults its
next answer is told from the bytes alone, those it holds and those still to come (`Lines.first`,
`Lines.next_of_carries`).

A line that was typed, with its newline behind it, is handed out as the wire hands out the same line
when it comes as a request: without the carriage return at its end, if there is one
(`Lines.next_of_typed`).
-/

set_option autoImplicit false

namespace PipeShell.Lines

/-- What the bytes hold for the next call, and the bytes left after it. -/
def first (bs : Bytes) : Except Failure (Option Text) × Bytes :=
  match Bytes.cutAt newline bs with
  | some (line, rest) => (decode (unterminated line), rest)
  | none => if bs.isEmpty then (.ok none, []) else (decode bs, [])

/-- The reader holds, or will get, exactly the given bytes, in any portions and with any
interruptions. -/
structure Carries (bs : Bytes) (r : Lines) : Prop where
  bytes_eq : r.held ++ r.source.bytes = bs
  filled : r.source.Filled
  faults_eq : r.source.faults = []

/-! ## One call -/

/-- A newline that is held already is the first of all bytes. -/
theorem first_of_held {held line rest : Bytes} (h : Bytes.cutAt newline held = some (line, rest))
    (more : Bytes) : first (held ++ more) = (decode (unterminated line), rest ++ more) := by
  obtain ⟨rfl, hline⟩ := Bytes.cutAt_eq_some h
  rw [first, List.append_assoc, List.cons_append, Bytes.cutAt_append hline]

/-- **One call.** The loop is followed branch by branch: an interrupted read and a read that
delivers bytes leave the bytes as they are, and so the rest of the loop answers for the call. -/
theorem next_of_carries {r : Lines} {bs : Bytes} (h : r.Carries bs) :
    ∃ r', r.next = ((first bs).1, r') ∧ r'.Carries (first bs).2 := by
  obtain ⟨rfl, hfill, hfaults⟩ := h
  fun_induction next r with
  | case1 r line rest hcut =>
    rw [first_of_held hcut]
    exact ⟨_, rfl, rfl, hfill, hfaults⟩
  | case2 r hcut source hread ih =>
    -- an interrupted read is repeated
    obtain ⟨hbytes, hfill', hf⟩ := Source.read_error hfill hread
    rw [if_pos rfl] at hf
    rw [← hbytes]
    exact ih hfill' (hf.symm.trans hfaults)
  | case3 r hcut fault source hne hread =>
    -- there is no other fault
    obtain ⟨-, -, hf⟩ := Source.read_error hfill hread
    rw [if_neg hne, hfaults] at hf
    cases hf
  | case4 r hcut source hread hempty =>
    -- the end, with nothing held
    obtain ⟨hbytes, hfill', hf, hend⟩ := Source.read_ok (by decide) hfill hread
    have hsource : source.bytes = [] := by rw [← hend rfl, hbytes, List.nil_append]
    have hheld : r.held = [] := List.isEmpty_iff.1 hempty
    rw [hend rfl, hheld]
    exact ⟨_, rfl, hsource, hfill', hf.trans hfaults⟩
  | case5 r hcut source hread hne =>
    -- the end, with a line that no newline ends
    obtain ⟨hbytes, hfill', hf, hend⟩ := Source.read_ok (by decide) hfill hread
    have hsource : source.bytes = [] := by rw [← hend rfl, hbytes, List.nil_append]
    have hfirst : first r.held = (decode r.held, []) := by
      rw [first, hcut]
      exact if_neg hne
    rw [hend rfl, List.append_nil, hfirst]
    exact ⟨_, rfl, hsource, hfill', hf.trans hfaults⟩
  | case6 r hcut b bs source hread ih =>
    -- bytes arrive: they change sides, and nothing is handed out yet
    obtain ⟨hbytes, hfill', hf, -⟩ := Source.read_ok (by decide) hfill hread
    rw [hbytes, ← List.append_assoc]
    exact ih hfill' (hf.trans hfaults)

/-! ## Lines that were typed -/

/-- A line as it is typed. -/
def typed (line : Text) : Bytes := Utf8.encode line ++ [newline]

/-- An encoded text ends in a carriage return exactly if the text does. -/
theorem getLast?_encode_eq_iff (line : Text) :
    (Utf8.encode line).getLast? = some 13 ↔ line.getLast? = some '\r' := by
  rcases List.eq_nil_or_concat line with rfl | ⟨front, c, rfl⟩
  · exact iff_of_false (fun h => nomatch h) (fun h => nomatch h)
  · have hencode : Utf8.encode (front ++ [c]) = Utf8.encode front ++ String.utf8EncodeChar c := by
      rw [Utf8.encode, List.flatMap_append, List.flatMap_singleton]
      rfl
    obtain ⟨b, hb⟩ : ∃ b, (String.utf8EncodeChar c).getLast? = some b := by
      refine Option.ne_none_iff_exists'.1 fun h => ?_
      have hlength := String.length_utf8EncodeChar c
      rw [List.getLast?_eq_none_iff.1 h] at hlength
      exact absurd hlength (Nat.ne_of_lt c.utf8Size_pos)
    rw [List.concat_eq_append, hencode, List.getLast?_append, hb, List.getLast?_concat,
      Option.some_or]
    constructor
    · intro h
      obtain rfl := Option.some.inj h
      have hmem := List.mem_of_getLast? hb
      exact congrArg some ((Utf8.mem_encodeChar_iff (by decide) c).1 hmem)
    · intro h
      obtain rfl := Option.some.inj h
      exact hb.symm

/-- Without its newline, a line is read as the wire reads it. -/
theorem decode_unterminated {line : Text} (h : '\n' ∉ line) :
    decode (unterminated (Utf8.encode line)) = .ok (some (Wire.stripNewline line)) := by
  have hnl : line.getLast? ≠ some '\n' := fun hlast => h (List.mem_of_getLast? hlast)
  unfold Wire.stripNewline
  rw [Wire.stripNewline.dropLast, Wire.stripNewline.dropLast, if_neg hnl]
  unfold unterminated
  by_cases hcr : line.getLast? = some '\r'
  · rw [if_pos ((getLast?_encode_eq_iff line).2 hcr), if_pos hcr]
    obtain ⟨front, rfl⟩ := List.getLast?_eq_some_iff.1 hcr
    have hencode : Utf8.encode (front ++ ['\r']) = Utf8.encode front ++ [13] := by
      rw [Utf8.encode, List.flatMap_append, List.flatMap_singleton]
      rfl
    rw [hencode, List.dropLast_concat, List.dropLast_concat, decode, Utf8.decode?_encode]
  · rw [if_neg (mt (getLast?_encode_eq_iff line).1 hcr), if_neg hcr, decode, Utf8.decode?_encode]

/-- **A typed line** is the next one that a reader hands out, and the bytes behind it stay. -/
theorem next_of_typed {r : Lines} {line : Text} {rest : Bytes} (hline : '\n' ∉ line)
    (h : r.Carries (typed line ++ rest)) :
    ∃ r', r.next = (.ok (some (Wire.stripNewline line)), r') ∧ r'.Carries rest := by
  have hnl : newline ∉ Utf8.encode line := by
    rw [Utf8.mem_encode_iff (by decide)]
    exact hline
  have hfirst : first (typed line ++ rest) = (.ok (some (Wire.stripNewline line)), rest) := by
    rw [typed, List.append_assoc, List.singleton_append, first, Bytes.cutAt_append hnl,
      ← decode_unterminated hline]
  obtain ⟨r', hnext, hr'⟩ := next_of_carries h
  rw [hfirst] at hnext hr'
  exact ⟨r', hnext, hr'⟩

/-- Where no bytes are left, there is no line. -/
theorem next_of_end {r : Lines} (h : r.Carries []) :
    ∃ r', r.next = (.ok none, r') ∧ r'.Carries [] := next_of_carries h

end PipeShell.Lines
