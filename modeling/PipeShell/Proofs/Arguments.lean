import PipeShell.Proofs.Addresses
import PipeShell.Server.Config

/-!
# Arguments of the server

Arguments come in groups: an interface behind `-i`, a port behind `-p`, or `-x` alone
(`ServerConfig.Setting.WrittenAs`). What stands behind an option that takes a value is its value,
whatever it looks like. A list of arguments that is a sequence of groups spells settings
(`ServerConfig.Spells`), of which the last of each kind counts (`ServerConfig.withSettings`).

Reading goes group by group (`ServerConfig.Spells.withArguments_append`). It stops at the end, at a
word that asks for help, or at a group that does not fit, and then what follows is not looked at
(`ServerConfig.exists_stop`).

Main statement: the arguments that are accepted are exactly the sequences of groups, help is given
exactly behind such a sequence, and each error reports the first group that does not fit
(`ServerConfig.withArguments_exact`).
-/

set_option autoImplicit false

namespace PipeShell.ServerConfig

/-! ## The grammar -/

/-- What a group of arguments sets. -/
inductive Setting where
  | interface (ip : IpAddress)
  | port (n : Nat)
  | threaded
  deriving DecidableEq, Repr

namespace Setting

/-- The interface, if one is set. -/
def interface? : Setting → Option IpAddress
  | interface ip => some ip
  | _ => none

/-- The port, if one is set. -/
def port? : Setting → Option Nat
  | port n => some n
  | _ => none

/-- How a setting is written. -/
inductive WrittenAs : Setting → List Text → Prop
  | interface {value : Text} {ip : IpAddress} (h : IpAddress.Denotes value ip) :
    WrittenAs (interface ip) ["-i".toList, value]
  | port {value : Text} {n : Nat} (h : Numeral.Denotes value n) (hn : n < 2 ^ 16) :
    WrittenAs (port n) ["-p".toList, value]
  | threaded : WrittenAs threaded ["-x".toList]

end Setting

/-- The arguments are groups, one for each setting. -/
inductive Spells : List Text → List Setting → Prop
  | nil : Spells [] []
  | cons {setting : Setting} {settings : List Setting} {group args : List Text}
    (hg : setting.WrittenAs group) (h : Spells args settings) :
    Spells (group ++ args) (setting :: settings)

/-- The options that ask for help. -/
def helpOptions : List Text := ["-h".toList, "--help".toList]

/-- All options. -/
def options : List Text := ["-i".toList, "-p".toList, "-x".toList] ++ helpOptions

/-- The configuration with settings made: the last interface, the last port, and workers if any
setting asks for them. -/
def withSettings (c : ServerConfig) (settings : List Setting) : ServerConfig :=
  { c with
    interface := (settings.filterMap Setting.interface?).getLast?.getD c.interface
    port := (settings.filterMap Setting.port?).getLast?.getD c.port
    threaded := c.threaded || settings.contains .threaded }

namespace ArgumentError

/-- The group that an error reports. -/
def group : ArgumentError → List Text
  | missingInterface => ["-i".toList]
  | invalidInterface value => ["-i".toList, value]
  | missingPort => ["-p".toList]
  | invalidPort value => ["-p".toList, value]
  | unknownOption option => [option]

/-- The group does not fit where the arguments `later` follow it: its value is missing, because
nothing follows, or stands for nothing, or there is no such option. -/
def Arises (later : List Text) : ArgumentError → Prop
  | missingInterface => later = []
  | invalidInterface value => ∀ ip, ¬ IpAddress.Denotes value ip
  | missingPort => later = []
  | invalidPort value => ∀ n < 2 ^ 16, ¬ Numeral.Denotes value n
  | unknownOption option => option ∉ options

/-- The last argument of the group stands in the message. -/
theorem names_group (e : ArgumentError) :
    ∃ word, e.group.getLast? = some word ∧ word <:+: e.message := by
  cases e with
  | missingInterface => exact ⟨_, rfl, [], _, rfl⟩
  | invalidInterface value => exact ⟨value, rfl, _, _, rfl⟩
  | missingPort => exact ⟨_, rfl, [], _, rfl⟩
  | invalidPort value => exact ⟨value, rfl, _, _, rfl⟩
  | unknownOption option => exact ⟨option, rfl, _, _, rfl⟩

/-- Where something follows a group, it does not matter what. -/
theorem Arises.of_ne_nil {e : ArgumentError} {later : List Text} (h : e.Arises later)
    (hne : later ≠ []) (more : List Text) : e.Arises more := by
  cases e with
  | missingInterface => exact absurd h hne
  | invalidInterface value => exact h
  | missingPort => exact absurd h hne
  | invalidPort value => exact h
  | unknownOption option => exact h

end ArgumentError

/-! ## Groups -/

variable {c : ServerConfig} {args rest : List Text} {settings : List Setting}

/-- What is set first gives way to what is set later. -/
theorem withSettings_cons (c : ServerConfig) (setting : Setting) (settings : List Setting) :
    (c.withSettings [setting]).withSettings settings = c.withSettings (setting :: settings) := by
  cases setting with
  | interface ip =>
    simp [withSettings, Setting.interface?, Setting.port?, List.getLast?_cons]
  | port n =>
    simp [withSettings, Setting.interface?, Setting.port?, List.getLast?_cons]
  | threaded =>
    simp [withSettings, Setting.interface?, Setting.port?]

/-- **A group** is taken, and the rest is read behind its setting. -/
theorem Setting.WrittenAs.withArguments_eq {setting : Setting} {group : List Text}
    (h : setting.WrittenAs group) (c : ServerConfig) (rest : List Text) :
    c.withArguments (group ++ rest) = (c.withSettings [setting]).withArguments rest := by
  cases h with
  | @interface value ip h =>
    have hread := IpAddress.parse?_eq_some_iff.2 h
    simp [withArguments, hread, withSettings, Setting.interface?, Setting.port?]
  | @port value n h hn =>
    have hread : Numeral.read? portBound value = some n := Numeral.read?_eq_some_iff.2 ⟨h, hn⟩
    simp [withArguments, hread, withSettings, Setting.interface?, Setting.port?]
  | threaded =>
    rw [List.singleton_append, withArguments.eq_def]
    simp [withSettings, Setting.interface?, Setting.port?]

/-- **Groups are taken one after the other**, and the rest is read behind their settings. -/
theorem Spells.withArguments_append (h : Spells args settings) (c : ServerConfig)
    (rest : List Text) :
    c.withArguments (args ++ rest) = (c.withSettings settings).withArguments rest := by
  induction h generalizing c with
  | nil => simp [withSettings]
  | cons hg h ih => rw [List.append_assoc, hg.withArguments_eq, ih, withSettings_cons]

/-! ## Where reading stops -/

/-- Why the arguments behind some groups are not read as groups: there are none, help is asked for,
or the next group does not fit. -/
inductive Stop : List Text → Except ArgumentError Bool → Prop
  | finished : Stop [] (.ok true)
  | helped {option : Text} {later : List Text} (h : option ∈ helpOptions) :
    Stop (option :: later) (.ok false)
  | misfit {e : ArgumentError} {later : List Text} (h : e.Arises later) :
    Stop (e.group ++ later) (.error e)

/-- Where reading stops, it comes to that. -/
theorem Stop.withArguments_eq {outcome : Except ArgumentError Bool} (h : Stop rest outcome)
    (c : ServerConfig) :
    c.withArguments rest = outcome.map fun accepted => if accepted then some c else none := by
  cases h with
  | finished => rfl
  | helped h =>
    rw [withArguments.eq_def]
    simp only [helpOptions, List.mem_cons, List.not_mem_nil, or_false] at h
    rcases h with rfl | rfl <;> rfl
  | @misfit e later h =>
    rw [withArguments.eq_def]
    cases e with
    | missingInterface =>
      obtain rfl : later = [] := h
      rfl
    | invalidInterface value =>
      have hread : IpAddress.parse? value = none := by
        apply Option.eq_none_iff_forall_ne_some.2
        intro ip hip
        exact h ip (IpAddress.parse?_eq_some_iff.1 hip)
      simp only [ArgumentError.group, List.cons_append, List.nil_append, if_true, hread]
      rfl
    | missingPort =>
      obtain rfl : later = [] := h
      rfl
    | invalidPort value =>
      have hread : Numeral.read? portBound value = none := by
        apply Option.eq_none_iff_forall_ne_some.2
        intro n hn
        obtain ⟨hdenotes, hlt⟩ := Numeral.read?_eq_some_iff.1 hn
        exact h n hlt hdenotes
      simp only [ArgumentError.group, List.cons_append, List.nil_append, if_true, hread]
      rw [if_neg (by decide)]
      rfl
    | unknownOption option =>
      have h : option ∉ options := h
      simp only [options, helpOptions, List.mem_append, List.mem_cons, List.not_mem_nil, or_false,
        not_or] at h
      obtain ⟨⟨hi, hp, hx⟩, hh, hhelp⟩ := h
      simp only [ArgumentError.group, List.cons_append, List.nil_append]
      rw [if_neg hi, if_neg hp, if_neg hx, if_neg (not_or.2 ⟨hh, hhelp⟩)]
      rfl

/-- **One group.** A list of arguments starts with a group, or reading stops there. -/
theorem group_or_stop (args : List Text) :
    (∃ setting group later, args = group ++ later ∧ Setting.WrittenAs setting group) ∨
      ∃ outcome, Stop args outcome := by
  cases args with
  | nil => exact Or.inr ⟨_, .finished⟩
  | cons option later =>
    by_cases hknown : option ∈ options
    · simp only [options, List.mem_append, List.mem_cons, List.not_mem_nil, or_false] at hknown
      rcases hknown with (rfl | rfl | rfl) | hhelp
      · cases later with
        | nil => exact Or.inr ⟨_, .misfit (e := .missingInterface) rfl⟩
        | cons value later =>
          by_cases hvalue : ∃ ip, IpAddress.Denotes value ip
          · obtain ⟨ip, hip⟩ := hvalue
            exact Or.inl ⟨_, _, later, rfl, .interface hip⟩
          · exact Or.inr ⟨_, .misfit (e := .invalidInterface value) (not_exists.1 hvalue)⟩
      · cases later with
        | nil => exact Or.inr ⟨_, .misfit (e := .missingPort) rfl⟩
        | cons value later =>
          by_cases hvalue : ∃ n < 2 ^ 16, Numeral.Denotes value n
          · obtain ⟨n, hlt, hport⟩ := hvalue
            exact Or.inl ⟨_, _, later, rfl, .port hport hlt⟩
          · refine Or.inr ⟨_, .misfit (e := .invalidPort value) ?_⟩
            intro n hlt hport
            exact hvalue ⟨n, hlt, hport⟩
      · exact Or.inl ⟨_, _, later, rfl, .threaded⟩
      · exact Or.inr ⟨_, .helped hhelp⟩
    · exact Or.inr ⟨_, .misfit (e := .unknownOption option) hknown⟩

theorem Setting.WrittenAs.length_pos {setting : Setting} {group : List Text}
    (h : setting.WrittenAs group) : 0 < group.length := by
  cases h <;> exact Nat.succ_pos _

/-- **Every list of arguments** is a sequence of groups up to where reading stops. -/
theorem exists_stop (args : List Text) :
    ∃ front settings rest outcome, args = front ++ rest ∧ Spells front settings ∧
      Stop rest outcome := by
  -- by the number of arguments, as a group takes one or two of them
  induction hn : args.length using Nat.strong_induction_on generalizing args with
  | _ n ih =>
    rcases group_or_stop args with ⟨setting, group, later, rfl, hg⟩ | ⟨outcome, hstop⟩
    · have hlt : later.length < n := by
        have hpos := hg.length_pos
        rw [List.length_append] at hn
        omega
      obtain ⟨front, settings, rest, outcome, rfl, hfront, hstop⟩ := ih _ hlt later rfl
      exact ⟨group ++ front, setting :: settings, rest, outcome,
        (List.append_assoc _ _ _).symm, .cons hg hfront, hstop⟩
    · exact ⟨[], [], args, outcome, rfl, .nil, hstop⟩

/-! ## All arguments -/

/-- Groups and what reading stops at behind them. -/
theorem Stop.withArguments_behind {front : List Text} {outcome : Except ArgumentError Bool}
    (h : Stop rest outcome) (hfront : Spells front settings) (c : ServerConfig) :
    c.withArguments (front ++ rest) =
      outcome.map fun accepted => if accepted then some (c.withSettings settings) else none :=
  (hfront.withArguments_append c rest).trans (h.withArguments_eq _)

/-- **Arguments are accepted** exactly if they are groups. -/
theorem withArguments_eq_some_iff {accepted : ServerConfig} :
    c.withArguments args = .ok (some accepted) ↔
      ∃ settings, Spells args settings ∧ accepted = c.withSettings settings := by
  constructor
  · intro h
    obtain ⟨front, settings, rest, outcome, rfl, hfront, hstop⟩ := exists_stop args
    rw [hstop.withArguments_behind hfront] at h
    cases hstop with
    | finished =>
      refine ⟨settings, ?_, (Option.some.inj (Except.ok.inj h)).symm⟩
      rw [List.append_nil]
      exact hfront
    | helped hhelp => cases h
    | misfit he => cases h
  · rintro ⟨settings, hargs, rfl⟩
    rw [← List.append_nil args]
    exact Stop.finished.withArguments_behind hargs c

/-- **Help is given** exactly if it is asked for behind groups. -/
theorem withArguments_eq_none_iff :
    c.withArguments args = .ok none ↔
      ∃ front settings option later, args = front ++ option :: later ∧ Spells front settings ∧
        option ∈ helpOptions := by
  constructor
  · intro h
    obtain ⟨front, settings, rest, outcome, rfl, hfront, hstop⟩ := exists_stop args
    rw [hstop.withArguments_behind hfront] at h
    cases hstop with
    | finished => cases h
    | helped hhelp => exact ⟨front, settings, _, _, rfl, hfront, hhelp⟩
    | misfit he => cases h
  · rintro ⟨front, settings, option, later, rfl, hfront, hhelp⟩
    exact (Stop.helped hhelp).withArguments_behind hfront c

/-- **An error is reported** exactly for the first group that does not fit. -/
theorem withArguments_eq_error_iff {e : ArgumentError} :
    c.withArguments args = .error e ↔
      ∃ front settings later, args = front ++ (e.group ++ later) ∧ Spells front settings ∧
        e.Arises later := by
  constructor
  · intro h
    obtain ⟨front, settings, rest, outcome, rfl, hfront, hstop⟩ := exists_stop args
    rw [hstop.withArguments_behind hfront] at h
    cases hstop with
    | finished => cases h
    | helped hhelp => cases h
    | misfit he =>
      obtain rfl := Except.error.inj h
      exact ⟨front, settings, _, rfl, hfront, he⟩
  · rintro ⟨front, settings, later, rfl, hfront, he⟩
    exact (Stop.misfit he).withArguments_behind hfront c

/-- **Arguments are read by their grammar.** They are accepted exactly if they are a sequence of
groups, and then the configuration of the environment is changed by the last setting of each kind.
Help is given exactly if an option that asks for it stands behind such a sequence, whatever follows.
Otherwise the first group that does not fit is reported, with its last argument in the message, and
what follows it makes no difference. -/
theorem withArguments_exact (env : Environment) (args : List Text) :
    (∀ c, (ofEnvironment env).withArguments args = .ok (some c) ↔
      ∃ settings, Spells args settings ∧ c = (ofEnvironment env).withSettings settings) ∧
    ((ofEnvironment env).withArguments args = .ok none ↔
      ∃ front settings option later, args = front ++ option :: later ∧ Spells front settings ∧
        option ∈ helpOptions) ∧
    (∀ e, (ofEnvironment env).withArguments args = .error e ↔
      ∃ front settings later, args = front ++ (e.group ++ later) ∧ Spells front settings ∧
        e.Arises later) ∧
    (∀ e : ArgumentError, ∃ word, e.group.getLast? = some word ∧ word <:+: e.message) ∧
    ∀ (e : ArgumentError) (front : List Text) (settings : List Setting) (later more : List Text),
      Spells front settings → e.Arises later → later ≠ [] →
        (ofEnvironment env).withArguments (front ++ (e.group ++ more)) = .error e := by
  refine ⟨fun c => withArguments_eq_some_iff, withArguments_eq_none_iff,
    fun e => withArguments_eq_error_iff, ArgumentError.names_group, ?_⟩
  intro e front settings later more hfront he hne
  exact (Stop.misfit (he.of_ne_nil hne more)).withArguments_behind hfront _

/-- An option that stands where a value has to be is the value. -/
example : (ofEnvironment []).withArguments ["-x".toList, "-i".toList, "-h".toList, "-p".toList] =
    .error (.invalidInterface "-h".toList) := by
  decide

end PipeShell.ServerConfig
