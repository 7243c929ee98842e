import PipeShell.Proofs.ControlWords
import PipeShell.Proofs.Decoding
import PipeShell.Proofs.Joining
import PipeShell.Proofs.Numerals
import PipeShell.Proofs.Requests

/-!
# Limits from the environment

A variable gives a number if it holds the text of a numeral, perhaps with blanks around it, and the
number is positive and below `2 ^ 64` (`Environment.Gives`). Exactly such numbers are read
(`Environment.positive?_eq_some_iff`). If a variable gives none, because it is not set, holds other
bytes, a zero, or a number that is too large, the default stands (`Environment.Settles`).

So the limits of every environment can be kept. A line with one command is not too many of them, and
an empty request can be received (`Wire.Inbox.next_of_empty`).

Main statement: what the environment says is read exactly, and its limits are usable
(`Limits.ofEnvironment_usable`).
-/

set_option autoImplicit false

namespace PipeShell

/-! ## Blanks around a text -/

namespace Text

/-- Blanks around a text make no difference when it is trimmed. -/
theorem trim_surround {front behind : Text} (hf : front.all isBlank = true)
    (hb : behind.all isBlank = true) (t : Text) : trim (front ++ t ++ behind) = trim t :=
  eq_of_surround (fun _ hc t => trim_cons hc t) (fun _ hc _ => trim_concat hc) hf hb t

/-- Every text is its trimming with blanks around it. -/
theorem exists_surround (t : Text) :
    ∃ front behind, front.all isBlank = true ∧ behind.all isBlank = true ∧
      t = front ++ trim t ++ behind := by
  refine ⟨t.takeWhile isBlank, ((trimStart t).reverse.takeWhile isBlank).reverse,
    List.all_takeWhile, ?_, ?_⟩
  · rw [List.all_reverse]
    exact List.all_takeWhile
  · have hend : trim t ++ ((trimStart t).reverse.takeWhile isBlank).reverse = trimStart t := by
      rw [trim, trimEnd, ← List.reverse_append, List.takeWhile_append_dropWhile,
        List.reverse_reverse]
    rw [List.append_assoc, hend]
    exact List.takeWhile_append_dropWhile.symm

end Text

/-! ## Numbers in the environment -/

namespace Environment

/-- A variable gives a number: it holds the text of a numeral with blanks around it, and the numeral
stands for a positive number that is not too large. -/
structure Gives (env : Environment) (name : String) (n : Nat) : Prop where
  held : ∃ front numeral behind, env.lookup name = some (Utf8.encode (front ++ numeral ++ behind)) ∧
    front.all Text.isBlank = true ∧ behind.all Text.isBlank = true ∧ Numeral.Denotes numeral n
  pos : 0 < n
  lt : n < 2 ^ 64

/-- The number that a variable gives, or the default if it gives none. -/
def Settles (env : Environment) (name : String) (default n : Nat) : Prop :=
  env.Gives name n ∨ (∀ m, ¬ env.Gives name m) ∧ n = default

variable {env : Environment} {name : String}

theorem text?_eq_some_iff {t : Text} :
    env.text? name = some t ↔ env.lookup name = some (Utf8.encode t) := by
  unfold text?
  rw [Option.bind_eq_some_iff]
  constructor
  · rintro ⟨bytes, hbytes, hdecode⟩
    rw [hbytes, Utf8.decode?_eq_some_iff.1 hdecode]
  · intro h
    exact ⟨Utf8.encode t, h, Utf8.decode?_eq_some_iff.2 rfl⟩

/-- **What a variable is read as** is what it gives. -/
theorem positive?_eq_some_iff {n : Nat} : env.positive? name = some n ↔ env.Gives name n := by
  constructor
  · intro h
    obtain ⟨hread, hpos⟩ := Option.filter_eq_some_iff.1 h
    obtain ⟨t, ht, hread⟩ := Option.bind_eq_some_iff.1 hread
    obtain ⟨hdenotes, hlt⟩ := Numeral.read?_eq_some_iff.1 hread
    -- what trimming takes away are the blanks around the numeral
    obtain ⟨front, behind, hf, hb, hsplit⟩ := t.exists_surround
    refine ⟨⟨front, t.trim, behind, ?_, hf, hb, hdenotes⟩, of_decide_eq_true hpos, hlt⟩
    rw [← hsplit]
    exact text?_eq_some_iff.1 ht
  · rintro ⟨⟨front, numeral, behind, hheld, hf, hb, hdenotes⟩, hpos, hlt⟩
    obtain ⟨hne, hplain⟩ := hdenotes.not_blank
    -- a numeral has no blanks of its own that trimming could take away
    have htrim : Text.trim (front ++ numeral ++ behind) = numeral := by
      rw [Text.trim_surround hf hb]
      exact (Text.tight_of_forall hne hplain).trim_eq
    unfold positive?
    rw [text?_eq_some_iff.2 hheld, Option.bind_some, htrim]
    exact Option.filter_eq_some_iff.2
      ⟨Numeral.read?_eq_some_iff.2 ⟨hdenotes, hlt⟩, decide_eq_true hpos⟩

/-- With a default, every variable settles a number, and no other one. -/
theorem getD_eq_iff {default n : Nat} :
    (env.positive? name).getD default = n ↔ env.Settles name default n := by
  unfold Settles
  simp only [← positive?_eq_some_iff]
  cases env.positive? name with
  | none =>
    simp only [Option.getD_none, reduceCtorEq, not_false_eq_true, implies_true, true_and, false_or]
    exact eq_comm
  | some m =>
    simp only [Option.getD_some, Option.some.injEq]
    constructor
    · intro h
      exact Or.inl h
    · rintro (h | ⟨hnone, -⟩)
      · exact h
      · exact absurd rfl (hnone m)

end Environment

/-! ## Empty requests -/

namespace Wire

/-- What a call comes to where an empty request is next, and behind it the bytes `rest`. -/
inductive Inbox.TakesEmpty (box : Inbox) (rest : Bytes) :
    Except RequestError (Option Text) × Inbox → Prop
  /-- The request is returned. -/
  | returned {after : Inbox} (h : after.unreturned = rest) :
    TakesEmpty box rest (.ok (some []), after)
  /-- The source fails, and the request is still next. -/
  | failed {f : StreamFault} {after : Inbox} (h : after.unreturned = box.unreturned) :
    TakesEmpty box rest (.error (.receive f), after)
  /-- A read says that the source is at its end before it is, and the request is still next. -/
  | paused {after : Inbox} (h : after.unreturned = box.unreturned) (hs : ¬ box.source.Filled) :
    TakesEmpty box rest (.ok none, after)

/-- A read that leaves the bytes as they are leaves the answer as it is. -/
theorem Inbox.TakesEmpty.of_unreturned {box next : Inbox} {rest : Bytes}
    {outcome : Except RequestError (Option Text) × Inbox} (h : next.TakesEmpty rest outcome)
    (hu : next.unreturned = box.unreturned) (hs : box.source.Filled → next.source.Filled) :
    box.TakesEmpty rest outcome := by
  cases h with
  | returned hafter => exact .returned hafter
  | failed hafter => exact .failed (hafter.trans hu)
  | paused hafter hs' => exact .paused (hafter.trans hu) (mt hs hs')

/-- **An empty request is not too large** where requests may hold bytes. Nothing can be held in
front of its terminator, so the test for too many bytes is never failed. -/
theorem Inbox.next_of_empty {max : Nat} (hmax : 0 < max) {box : Inbox} {rest : Bytes}
    (h : box.unreturned = terminator :: rest) : box.TakesEmpty rest (box.next max) := by
  -- bytes that are held start with the terminator
  have hheld : ∀ {box : Inbox} {request more : Bytes}, box.unreturned = terminator :: rest →
      box.pending = request ++ more → terminator ∉ request → request = [] := by
    intro box request more hunreturned hpending hn
    cases request with
    | nil => rfl
    | cons b request =>
      rw [unreturned, hpending] at hunreturned
      obtain ⟨rfl, -⟩ := List.cons.inj hunreturned
      exact absurd List.mem_cons_self hn
  fun_induction Inbox.next max box with
  | case1 box request behind hc hm =>
    -- what is held in front of the terminator is nothing, which is not too much
    obtain ⟨hp, hn⟩ := Bytes.cutAt_eq_some hc
    rw [hheld h hp hn, List.length_nil] at hm
    omega
  | case2 box request behind hc hm =>
    obtain ⟨hp, hn⟩ := Bytes.cutAt_eq_some hc
    obtain rfl : request = [] := hheld h hp hn
    have hempty : Utf8.decodeLossy [] = [] := Utf8.decodeLossy_encode []
    rw [hempty]
    apply TakesEmpty.returned
    rw [unreturned, hp, List.nil_append, List.cons_append] at h
    exact (List.cons.inj h).2
  | case3 box hc hm =>
    have hp : box.pending = [] :=
      hheld h (List.append_nil _).symm (Bytes.cutAt_eq_none_iff.1 hc)
    rw [hp, List.length_nil] at hm
    omega
  | case4 box hc hm source hr ih =>
    -- an interrupted read is repeated
    have hu : Inbox.unreturned { box with source } = box.unreturned := by
      rw [unreturned, unreturned, Source.read_fails hr, Source.bytes]
    apply (ih (hu.trans h)).of_unreturned hu
    intro hfilled
    exact (Source.read_error hfilled hr).2.1
  | case5 box hc hm fault source hne hr =>
    apply TakesEmpty.failed
    rw [unreturned, unreturned, Source.read_fails hr, Source.bytes]
  | case6 box hc hm source hr he =>
    -- a read without bytes: in a filled source it would be the end
    have hp : box.pending = [] := by simpa using he
    have hbytes := (Source.read_takes hr).1
    apply TakesEmpty.paused
    · rw [unreturned, unreturned, hbytes, List.nil_append]
    · intro hfilled
      obtain ⟨-, -, -, hend⟩ := Source.read_ok (by decide) hfilled hr
      rw [unreturned, hp, hend rfl] at h
      cases h
  | case7 box hc hm source hr hne =>
    -- nothing is held as long as the terminator is not
    have hp : box.pending = [] :=
      hheld h (List.append_nil _).symm (Bytes.cutAt_eq_none_iff.1 hc)
    rw [hp] at hne
    exact absurd rfl hne
  | case8 box hc hm b bs source hr ih =>
    -- bytes arrive: they change sides, and the request is still next
    have hu : Inbox.unreturned { pending := box.pending ++ b :: bs, source } = box.unreturned := by
      rw [unreturned, unreturned, (Source.read_takes hr).1, List.append_assoc]
    apply (ih (hu.trans h)).of_unreturned hu
    intro hfilled
    exact (Source.read_ok (by decide) hfilled hr).2.1

end Wire

/-! ## Limits that can be kept -/

/-- **Limits from the environment are exact and usable.** A variable is read as a number exactly if
it gives that number, and otherwise the default stands. Whatever the environment, the limits then
allow a command and bytes of a request: no line with one command is refused as too many, and no
empty request that is terminated as too large. -/
theorem Limits.ofEnvironment_usable (env : Environment) :
    (∀ name n, env.positive? name = some n ↔ env.Gives name n) ∧
      (∀ name default n, (env.positive? name).getD default = n ↔ env.Settles name default n) ∧
      env.Settles commandsVariable 8 (ofEnvironment env).commands ∧
      env.Settles requestVariable 65536 (ofEnvironment env).requestLength ∧
      1 ≤ (ofEnvironment env).commands ∧ 1 ≤ (ofEnvironment env).requestLength ∧
      (∀ line, Pipeline.commandCount line = 1 → ∀ max,
        Pipeline.parse (ofEnvironment env) line ≠ .error (.tooManyCommands max)) ∧
      ∀ (box : Wire.Inbox) (rest : Bytes), box.unreturned = Wire.terminator :: rest →
        box.TakesEmpty rest (box.next (ofEnvironment env).requestLength) ∧
          ∀ max, (box.next (ofEnvironment env).requestLength).1 ≠ .error (.tooLarge max) := by
  obtain ⟨hroomy, hlength⟩ := ofEnvironment_roomy env
  refine ⟨fun name n => Environment.positive?_eq_some_iff,
    fun name default n => Environment.getD_eq_iff, Environment.getD_eq_iff.1 rfl,
    Environment.getD_eq_iff.1 rfl, hroomy.commands, hlength, ?_, ?_⟩
  · intro line hcount max h
    have hmany := (Pipeline.parse_tooMany_iff.1 h).1
    have hone := hroomy.commands
    omega
  · intro box rest hnext
    have htakes := Wire.Inbox.next_of_empty hlength hnext
    refine ⟨htakes, ?_⟩
    intro max
    generalize box.next (ofEnvironment env).requestLength = outcome at htakes ⊢
    cases htakes <;> simp

/-- An environment that allows one command, with a wide blank, a sign and zeros in front, and as
many bytes as no limit can be. -/
def misspelt : Environment :=
  [(Limits.commandsVariable, Utf8.encode "\u3000+0001 ".toList),
    (Limits.requestVariable, Utf8.encode "18446744073709551616".toList)]

/-- The one command stands between separators, and the empty request behind an interruption. -/
theorem Limits.ofEnvironment_usable_misspelt :
    ofEnvironment misspelt = { commands := 1, requestLength := 65536 } ∧
      (∀ max, Pipeline.parse (ofEnvironment misspelt) "| ls |".toList ≠
        .error (.tooManyCommands max)) ∧
      Wire.Inbox.TakesEmpty { source := [.fault .interrupted, .piece [0, 108]] } [108]
        (Wire.Inbox.next (ofEnvironment misspelt).requestLength
          { source := [.fault .interrupted, .piece [0, 108]] }) := by
  have hcount : Pipeline.commandCount "| ls |".toList = 1 := by decide
  obtain ⟨-, -, -, -, -, -, hline, hbox⟩ := ofEnvironment_usable misspelt
  refine ⟨by decide +kernel, hline _ hcount, ?_⟩
  exact (hbox { source := [.fault .interrupted, .piece [0, 108]] } [108] rfl).1

end PipeShell
