import PipeShell.Proofs.Recording

/-!
# Pipe ends in slots

The pipe ends of a pipeline may be kept in slots, one for each reader and one for each writer. Stage
`i` takes the reader of pipe `i - 1` and the writer of pipe `i` out of their slots, whether or not
it uses them (`Slots.take`). To take from a slot that is not there, or that is empty, is an error.
It never happens: before stage `i` the first slots are empty up to its own, and the others are full
(`Slots.take_before`).

Main statement: with its pipe ends in slots every run comes to the same, and after the set-up all
slots are empty (`Pipeline.runFromSlots_eq`).
-/

set_option autoImplicit false

namespace PipeShell

variable {σ : Type}

/-! ## The ends on the sides of a stage -/

/-- The ends on the sides of stage `i`. -/
def StageEnds.at (pipes : List Pipe) (i : Nat) : StageEnds where
  upstream :=
    match i with
    | 0 => none
    | k + 1 => pipes[k]?.map Pipe.reader
  downstream := pipes[i]?.map Pipe.writer

namespace Pipeline

theorem getElem?_arrange (commands : Pipeline) (upstream : Option Handle) (pipes : List Pipe)
    (i : Nat) :
    (arrange commands upstream pipes)[i]? = commands[i]?.map fun command =>
      (command, { StageEnds.at pipes i with
        upstream := if i = 0 then upstream else (StageEnds.at pipes i).upstream }) := by
  induction commands generalizing upstream pipes i with
  | nil => rfl
  | cons command rest ih =>
    cases i with
    | zero => simp [arrange, StageEnds.at, List.head?_eq_getElem?]
    | succ i =>
      rw [arrange, List.getElem?_cons_succ, List.getElem?_cons_succ, ih]
      congr 1
      funext command
      cases i with
      | zero => simp [StageEnds.at, List.head?_eq_getElem?]
      | succ k => simp [StageEnds.at]

/-- The ends on the sides of a stage, in a whole pipeline. -/
theorem ends_of_arrange {commands : Pipeline} {attempts : List Attempt} {pipes : List Pipe}
    (hends : attempts.map (fun a => (a.command, a.ends)) = arrange commands none pipes) {i : Nat}
    (hi : i < attempts.length) : attempts[i].ends = StageEnds.at pipes i := by
  have h : some (attempts[i].command, attempts[i].ends) = (arrange commands none pipes)[i]? := by
    rw [← hends, List.getElem?_map, List.getElem?_eq_getElem hi, Option.map_some]
  rw [getElem?_arrange] at h
  obtain ⟨command, -, hpair⟩ := Option.map_eq_some_iff.1 h.symm
  rw [← (Prod.mk.inj hpair).2]
  cases i <;> rfl

end Pipeline

/-! ## Ends in slots -/

/-- Takes an end out of its slot. It fails if there is no such slot, and if the slot is empty. -/
def takeSlot (slots : List (Option Handle)) (i : Nat) : Option (Handle × List (Option Handle)) :=
  match slots[i]? with
  | some (some h) => some (h, slots.set i none)
  | _ => none

/-- Takes an end if one is wanted. -/
def takeIf (wanted : Bool) (slots : List (Option Handle)) (i : Nat) :
    Option (Option Handle × List (Option Handle)) :=
  if wanted then (takeSlot slots i).map fun (h, slots) => (some h, slots) else some (none, slots)

/-- The slots with the first `n` of them emptied. -/
def emptied : Nat → List (Option Handle) → List (Option Handle)
  | n + 1, _ :: slots => none :: emptied n slots
  | _, slots => slots

theorem takeSlot_cons (slot : Option Handle) (slots : List (Option Handle)) (n : Nat) :
    takeSlot (slot :: slots) (n + 1) =
      (takeSlot slots n).map fun taken => (taken.1, slot :: taken.2) := by
  unfold takeSlot
  rw [List.getElem?_cons_succ]
  split <;> rfl

/-- An end is taken from the first slot that is not emptied yet. -/
theorem takeSlot_emptied {slots : List (Option Handle)} {n : Nat} {h : Handle}
    (hs : slots[n]? = some (some h)) :
    takeSlot (emptied n slots) n = some (h, emptied (n + 1) slots) := by
  induction slots generalizing n with
  | nil => cases hs
  | cons slot rest ih =>
    cases n with
    | zero =>
      rw [List.getElem?_cons_zero] at hs
      cases hs
      cases rest <;> rfl
    | succ n =>
      rw [List.getElem?_cons_succ] at hs
      rw [emptied, takeSlot_cons, ih hs]
      rfl

theorem emptied_of_length_le {slots : List (Option Handle)} {n : Nat} (h : slots.length ≤ n) :
    emptied n slots = List.replicate slots.length none := by
  induction slots generalizing n with
  | nil => cases n <;> rfl
  | cons slot rest ih =>
    cases n with
    | zero => cases h
    | succ n => rw [emptied, ih (Nat.le_of_succ_le_succ h)]; rfl

/-- The slots of the readers and of the writers of pipes. -/
structure Slots where
  readers : List (Option Handle)
  writers : List (Option Handle)
  deriving DecidableEq

namespace Slots

/-- All ends are in their slots. -/
def full (pipes : List Pipe) : Slots where
  readers := pipes.map fun p => some p.reader
  writers := pipes.map fun p => some p.writer

/-- All slots are empty. -/
def empty (n : Nat) : Slots where
  readers := List.replicate n none
  writers := List.replicate n none

/-- Takes the ends on the sides of stage `i` of `count`. -/
def take (count i : Nat) (slots : Slots) : Option (StageEnds × Slots) := do
  let (upstream, readers) ← takeIf (0 < i) slots.readers (i - 1)
  let (downstream, writers) ← takeIf (i + 1 < count) slots.writers i
  some (⟨upstream, downstream⟩, ⟨readers, writers⟩)

/-- The slots before stage `i` takes its ends. -/
def before (pipes : List Pipe) (i : Nat) : Slots where
  readers := emptied (i - 1) (full pipes).readers
  writers := emptied i (full pipes).writers

theorem before_first (pipes : List Pipe) : before pipes 0 = full pipes := by
  cases pipes <;> rfl

theorem before_last (pipes : List Pipe) :
    before pipes (pipes.length + 1) = empty pipes.length := by
  simp [before, full, empty, emptied_of_length_le]

/-- **A stage finds its ends.** -/
theorem take_before {pipes : List Pipe} {i : Nat} (hi : i ≤ pipes.length) :
    (before pipes i).take (pipes.length + 1) i =
      some (StageEnds.at pipes i, before pipes (i + 1)) := by
  have hreaders : takeIf (0 < i) (before pipes i).readers (i - 1) =
      some ((StageEnds.at pipes i).upstream, (before pipes (i + 1)).readers) := by
    cases i with
    | zero => rfl
    | succ k =>
      have hk : (full pipes).readers[k]? = some (some pipes[k].reader) := by
        simp [full, List.getElem?_eq_getElem hi]
      simp [takeIf, before, takeSlot_emptied hk, StageEnds.at, List.getElem?_eq_getElem hi]
  have hwriters : takeIf (i + 1 < pipes.length + 1) (before pipes i).writers i =
      some ((StageEnds.at pipes i).downstream, (before pipes (i + 1)).writers) := by
    rcases Nat.lt_or_eq_of_le hi with hlt | rfl
    · have hk : (full pipes).writers[i]? = some (some pipes[i].writer) := by
        simp [full, List.getElem?_eq_getElem hlt]
      simp [takeIf, before, takeSlot_emptied hk, StageEnds.at, hlt]
    · -- the last stage has no pipe behind it, and all writers are gone by then
      have hlen : (full pipes).writers.length = pipes.length := List.length_map _
      simp [takeIf, before, StageEnds.at, emptied_of_length_le, hlen]
  rw [take, hreaders, Option.bind_eq_bind, Option.bind_some, hwriters]
  rfl

end Slots

namespace Pipeline

variable (host : Host σ)

/-- Sets up stages with the ends they take from the slots; `i` is the place of the first of them
among `count` stages. -/
def setUpFromSlots (directory : Text) (count : Nat) :
    Nat → Pipeline → Slots → Shell σ → Option (List Stage × Slots × Shell σ)
  | _, [], slots, s => some ([], slots, s)
  | i, command :: rest, slots, s => do
    let (ends, slots) ← slots.take count i
    let (stage, s) := setUpStage host directory command ends s
    let (stages, slots, s) ← setUpFromSlots directory count (i + 1) rest slots s
    some (stage :: stages, slots, s)

/-- **No slot is missed.** Every take succeeds, the stages are those of the set-up without slots,
and all slots are empty at last. -/
theorem setUpFromSlots_eq (directory : Text) {pipes : List Pipe} {i : Nat} {commands : Pipeline}
    (hlen : i + commands.length = pipes.length + 1) (s : Shell σ) :
    setUpFromSlots host directory (pipes.length + 1) i commands (Slots.before pipes i) s =
      let (stages, s') := setUpStages host directory commands (StageEnds.at pipes i).upstream
        (pipes.drop i) s
      some (stages, Slots.before pipes (pipes.length + 1), s') := by
  induction commands generalizing i s with
  | nil =>
    obtain rfl : i = pipes.length + 1 := hlen
    rfl
  | cons command rest ih =>
    -- the stage takes from the slots what the set-up without slots takes from the list of pipes
    have hi : i ≤ pipes.length := by rw [List.length_cons] at hlen; omega
    have hnext : i + 1 + rest.length = pipes.length + 1 := by rw [List.length_cons] at hlen; omega
    have hends : (⟨(StageEnds.at pipes i).upstream, (pipes.drop i).head?.map Pipe.writer⟩ :
        StageEnds) = StageEnds.at pipes i := by rw [List.head?_drop]; rfl
    have hupstream : (pipes.drop i).head?.map Pipe.reader =
        (StageEnds.at pipes (i + 1)).upstream := by rw [List.head?_drop]; rfl
    simp only [setUpFromSlots, setUpStages, Slots.take_before hi, Option.bind_eq_bind,
      Option.bind_some, ih hnext, hends, hupstream, List.tail_drop]

/-- Runs a pipeline with its pipe ends in slots. There is no result if a stage looks for an end
where there is none, or if an end is left in its slot. -/
def runFromSlots (pipeline : Pipeline) (s : Shell σ) : Option (Except Failure Outcome × Shell σ) :=
  match pipeline with
  | [] => some (.ok {}, s)
  | _ :: rest =>
    match makePipes host rest.length [] s.world.system with
    | (.error f, system) => some (.error f, s.withSystem system)
    | (.ok pipes, system) => do
      let s := s.withSystem system
      let (stages, slots, s) ← setUpFromSlots host (s.directory host) pipeline.length 0 pipeline
        (Slots.full pipes) s
      if slots = Slots.empty rest.length then
        let (statuses, s) := awaitStages host stages s
        let outcome := Outcome.ofStages statuses
        some (.ok outcome, s.setStatus outcome.status)
      else none

/-- A run is the same with slots. -/
theorem runFromSlots_eq (pipeline : Pipeline) (s : Shell σ) :
    runFromSlots host pipeline s = some (run host pipeline s) := by
  cases pipeline with
  | nil => rfl
  | cons command rest =>
    rcases hp : makePipes host rest.length [] s.world.system with ⟨f | pipes, system⟩
    · simp only [runFromSlots, run, hp]
    · obtain ⟨made, -, hmade⟩ := makePipes_record host rest.length [] s.world.system
      obtain ⟨new, hnew, hlen, -⟩ := hmade hp
      obtain rfl : pipes = new := hnew
      have hslots := setUpFromSlots_eq host ((s.withSystem system).directory host)
        (show 0 + (command :: rest).length = pipes.length + 1 by
          rw [Nat.zero_add, List.length_cons, hlen])
        (s.withSystem system)
      rw [Slots.before_first, Slots.before_last, hlen] at hslots
      simp only [runFromSlots, run, hp, List.length_cons, hslots, StageEnds.at, List.drop_zero,
        Option.bind_eq_bind, Option.bind_some, if_true]

end Pipeline

end PipeShell
