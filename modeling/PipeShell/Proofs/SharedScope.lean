import PipeShell.System.Context

/-!
# Contexts of process scope are one context

A context of process scope has fields of its own for the directory and the status, and both go stale
as soon as another context moves or records. Nothing that a context is asked is answered from a
stale field: the directory in force is the system's own, and a field is looked at only while the
system has no directory to tell, which is over with the first move that succeeds.

So any number of such contexts, made at any time and asked in any order, answer as one context of
connection scope that is asked everything in that order (`Circle.run_single`). What the system owes
for it is the agreement of its two ways to a directory, finding the path without links and moving
there (`Host.Steady`). It is proved by a relation between the contexts and the one
(`Circle.Follows`) that every step keeps (`Circle.step_follows`).
-/

set_option autoImplicit false

namespace PipeShell

variable {σ : Type} {host : Host σ}

/-! ## What a context is asked -/

/-- Something that is asked of a context. -/
inductive Context.Operation where
  | changeDirectory (target : Text)
  | resolve (path : Text)
  | setStatus (status : Status)
  | directory
  | status

/-- What a context answers. -/
inductive Context.Answer where
  /-- Whether the directory was changed. -/
  | moved (succeeded : Bool)
  | path (path : Text)
  | recorded
  | status (status : Status)
  deriving DecidableEq

namespace Context

/-- Carries out an operation. -/
def perform (host : Host σ) (op : Operation) (c : Context) (world : World σ) :
    Answer × Context × World σ :=
  match op with
  | .changeDirectory target =>
    let (result, c, world) := c.changeDirectory host target world
    (.moved result.isOk, c, world)
  | .resolve path => (.path (c.resolve host world path), c, world)
  | .setStatus status =>
    let (c, world) := c.setStatus status world
    (.recorded, c, world)
  | .directory => (.path (c.currentDirectory host world), c, world)
  | .status => (.status (c.lastStatus world), c, world)

/-- Carries out operations in a row. -/
def performs (host : Host σ) : List Operation → Context → World σ →
    List Answer × Context × World σ
  | [], c, world => ([], c, world)
  | op :: rest, c, world =>
    let (answer, c, world) := c.perform host op world
    let (answers, c, world) := performs host rest c world
    (answer :: answers, c, world)

end Context

/-! ## Contexts that share a process -/

/-- Contexts of one process, in the order in which they were made. -/
structure Circle (σ : Type) where
  world : World σ
  contexts : List Context := []

namespace Circle

open Context (Operation Answer)

/-- What happens in a process. -/
inductive Event where
  /-- A context of process scope is made. -/
  | create
  /-- A context is asked. -/
  | ask (k : Nat) (op : Operation)

/-- What one event does, and the answer if one was asked for. -/
def step (host : Host σ) (event : Event) (s : Circle σ) : Option Answer × Circle σ :=
  match event with
  | .create => (none, { s with contexts := s.contexts ++ [Context.start host .process s.world] })
  | .ask k op =>
    match s.contexts[k]? with
    | none => (none, s)
    | some c =>
      let (answer, c, world) := c.perform host op s.world
      (some answer, { world, contexts := s.contexts.set k c })

/-- What events in a row do, and the answers in order. -/
def run (host : Host σ) : List Event → Circle σ → List Answer × Circle σ
  | [], s => ([], s)
  | event :: rest, s =>
    let (answer, s) := s.step host event
    let (answers, s) := run host rest s
    (answer.toList ++ answers, s)

/-- What is asked, in order, if there are `n` contexts at first. Nothing is asked of a context that
was not made yet. -/
def asked : Nat → List Event → List Operation
  | _, [] => []
  | n, .create :: rest => asked (n + 1) rest
  | n, .ask k op :: rest => if k < n then op :: asked n rest else asked n rest

end Circle

/-! ## What the system owes -/

/-- A system on which files do not change, so that its two ways to a directory agree. -/
structure Host.Steady (host : Host σ) : Prop where
  /-- The system's own directory is told as an absolute path. -/
  currentDirectory_absolute : ∀ {system : σ} {d : Text},
    host.currentDirectory system = .ok d → Path.isAbsolute d = true
  /-- A path without links is absolute. -/
  canonicalize_absolute : ∀ {p d : Text} {system : σ},
    host.canonicalize p system = .ok d → Path.isAbsolute d = true
  /-- A path leads to a directory exactly if the system can move there. -/
  agrees : ∀ {p d : Text} {system : σ}, Path.isAbsolute p = true →
    (host.canonicalize p system = .ok d ∧ host.isDirectory d system = true ↔
      (host.changeDirectory p system).1 = .ok () ∧
        host.currentDirectory (host.changeDirectory p system).2 = .ok d)
  /-- Where the system has moved, it can tell its directory. -/
  known : ∀ {p : Text} {system : σ}, (host.changeDirectory p system).1 = .ok () →
    ∃ d, host.currentDirectory (host.changeDirectory p system).2 = .ok d
  /-- Where the system could not move, its directory is the same. -/
  stays : ∀ {p : Text} {system : σ} {f : Failure}, (host.changeDirectory p system).1 = .error f →
    host.currentDirectory (host.changeDirectory p system).2 = host.currentDirectory system
  /-- A move changes no file. -/
  canonicalize_eq : ∀ {p : Text} (q : Text) (system : σ), Path.isAbsolute p = true →
    host.canonicalize p (host.changeDirectory q system).2 = host.canonicalize p system
  isDirectory_eq : ∀ {p : Text} (q : Text) (system : σ), Path.isAbsolute p = true →
    host.isDirectory p (host.changeDirectory q system).2 = host.isDirectory p system

theorem Path.join_absolute {directory : Text} (h : isAbsolute directory = true) (path : Text) :
    isAbsolute (join directory path) = true := by
  unfold join
  split
  · assumption
  · -- what is put behind an absolute path leaves its first slash
    cases directory with
    | nil => cases h
    | cons c rest =>
      rw [isAbsolute.eq_def] at h
      split at h
      · rename_i hslash
        cases hslash
        split <;> rfl
      · cases h

/-! ## The relation -/

namespace Circle

open Context (Operation Answer)

/-- The contexts of a circle are what one context is: they answer from the same directory and the
same status, and the circle's system gives the same answers about files as the one's. -/
structure Follows (host : Host σ) (s : Circle σ) (c : Context) (world : World σ) : Prop where
  scope_eq : c.scope = .connection
  scopes_eq : ∀ d ∈ s.contexts, d.scope = .process
  status_eq : s.world.sharedStatus = c.status
  absolute : Path.isAbsolute c.directory = true
  /-- The system's own directory is that of the one context. While the system has none, no context
  has left the root. -/
  directory_eq : host.currentDirectory s.world.system = .ok c.directory ∨
    (∃ f, host.currentDirectory s.world.system = .error f) ∧ c.directory = ['/'] ∧
      ∀ d ∈ s.contexts, d.directory = ['/']
  canonicalize_eq : ∀ {p : Text}, Path.isAbsolute p = true →
    host.canonicalize p s.world.system = host.canonicalize p world.system
  isDirectory_eq : ∀ {p : Text}, Path.isAbsolute p = true →
    host.isDirectory p s.world.system = host.isDirectory p world.system

variable {s : Circle σ} {c d : Context} {world : World σ}

/-- No context answers from a directory of its own that is another one. -/
theorem Follows.currentDirectory_eq (h : s.Follows host c world) (hd : d ∈ s.contexts) :
    d.currentDirectory host s.world = c.currentDirectory host world := by
  have hone : c.currentDirectory host world = c.directory := by
    rw [Context.currentDirectory, h.scope_eq]
  rw [hone, Context.currentDirectory, h.scopes_eq d hd]
  rcases h.directory_eq with hok | ⟨⟨f, herror⟩, hroot, hroots⟩
  · simp only [hok, Except.toOption, Option.getD_some]
  · simp only [herror, Except.toOption, Option.getD_none, hroots d hd, hroot]

theorem Follows.lastStatus_eq (h : s.Follows host c world) (hd : d ∈ s.contexts) :
    d.lastStatus s.world = c.lastStatus world := by
  simp only [Context.lastStatus, h.scope_eq, h.scopes_eq d hd, h.status_eq]

theorem Follows.resolve_eq (h : s.Follows host c world) (hd : d ∈ s.contexts) (path : Text) :
    d.resolve host s.world path = c.resolve host world path := by
  rw [Context.resolve, Context.resolve, h.currentDirectory_eq hd]

theorem Follows.resolve_absolute (h : s.Follows host c world) (path : Text) :
    Path.isAbsolute (c.resolve host world path) = true := by
  rw [Context.resolve, Context.currentDirectory, h.scope_eq]
  exact Path.join_absolute h.absolute path

/-- A context that is made joins the others. -/
theorem Follows.create (h : s.Follows host c world) :
    Follows host { s with contexts := s.contexts ++ [Context.start host .process s.world] }
      c world where
  scope_eq := h.scope_eq
  scopes_eq := by
    intro d hd
    rcases List.mem_append.1 hd with hd | hd
    · exact h.scopes_eq d hd
    · rw [List.mem_singleton.1 hd]
      rfl
  status_eq := h.status_eq
  absolute := h.absolute
  directory_eq := by
    rcases h.directory_eq with hok | ⟨⟨f, herror⟩, hroot, hroots⟩
    · exact Or.inl hok
    · refine Or.inr ⟨⟨f, herror⟩, hroot, fun d hd => ?_⟩
      rcases List.mem_append.1 hd with hd | hd
      · exact hroots d hd
      · rw [List.mem_singleton.1 hd]
        simp only [Context.start, herror, Except.toOption, Option.getD_none]
  canonicalize_eq := h.canonicalize_eq
  isDirectory_eq := h.isDirectory_eq

/-- Recording a status changes nothing but the status. -/
theorem Follows.setStatus (h : s.Follows host c world) (status : Status) :
    Follows host { s with world := { s.world with sharedStatus := status } } { c with status }
      world where
  scope_eq := h.scope_eq
  scopes_eq := h.scopes_eq
  status_eq := rfl
  absolute := h.absolute
  directory_eq := h.directory_eq
  canonicalize_eq := h.canonicalize_eq
  isDirectory_eq := h.isDirectory_eq

/-- Where a move fails, nothing is changed that any context answers from. -/
theorem Follows.stay (h : s.Follows host c world) (hs : host.Steady) {p : Text} {f : Failure}
    (hf : (host.changeDirectory p s.world.system).1 = .error f) :
    Follows host
      { s with world := { s.world with system := (host.changeDirectory p s.world.system).2 } }
      c world where
  scope_eq := h.scope_eq
  scopes_eq := h.scopes_eq
  status_eq := h.status_eq
  absolute := h.absolute
  directory_eq := by
    rw [hs.stays hf]
    exact h.directory_eq
  canonicalize_eq := fun hp => (hs.canonicalize_eq _ _ hp).trans (h.canonicalize_eq hp)
  isDirectory_eq := fun hp => (hs.isDirectory_eq _ _ hp).trans (h.isDirectory_eq hp)

/-- Where a move succeeds, its directory is that of all contexts from then on, whatever directory
each of them has for its own. -/
theorem Follows.move (h : s.Follows host c world) (hs : host.Steady) {p directory : Text}
    (hok : host.currentDirectory (host.changeDirectory p s.world.system).2 = .ok directory)
    {contexts : List Context} (hcontexts : ∀ d ∈ contexts, d.scope = .process) :
    Follows host
      { world := { s.world with system := (host.changeDirectory p s.world.system).2 }, contexts }
      { c with directory } world where
  scope_eq := h.scope_eq
  scopes_eq := hcontexts
  status_eq := h.status_eq
  absolute := hs.currentDirectory_absolute hok
  directory_eq := Or.inl hok
  canonicalize_eq := fun hp => (hs.canonicalize_eq _ _ hp).trans (h.canonicalize_eq hp)
  isDirectory_eq := fun hp => (hs.isDirectory_eq _ _ hp).trans (h.isDirectory_eq hp)

/-! ## One operation -/

/-- What a move of the one context does: it looks, and the system stays. -/
theorem changeDirectory_connection {target path : Text} (hscope : c.scope = .connection)
    (hpath : c.resolve host world target = path) :
    c.changeDirectory host target world =
      match host.canonicalize path world.system with
      | .error f => (.error f, c, world)
      | .ok directory =>
        if host.isDirectory directory world.system = true
        then (.ok (), { c with directory }, world)
        else (.error .notDirectory, c, world) := by
  subst hpath
  unfold Context.changeDirectory
  generalize c.scope = scope at hscope ⊢
  subst hscope
  rfl

/-- The one context moves exactly where the system can. -/
theorem Follows.changeDirectory_eq (h : s.Follows host c world) (hs : host.Steady)
    (target : Text) :
    let path := c.resolve host world target
    (∃ directory, (host.changeDirectory path s.world.system).1 = .ok () ∧
        host.currentDirectory (host.changeDirectory path s.world.system).2 = .ok directory ∧
        c.changeDirectory host target world = (.ok (), { c with directory }, world)) ∨
      ∃ f g, (host.changeDirectory path s.world.system).1 = .error f ∧
        c.changeDirectory host target world = (.error g, c, world) := by
  dsimp only
  have hpath := h.resolve_absolute target
  generalize hresolve : c.resolve host world target = path at hpath ⊢
  have hone := changeDirectory_connection h.scope_eq hresolve
  cases hmove : (host.changeDirectory path s.world.system).1 with
  | ok u =>
    obtain ⟨directory, hdirectory⟩ := hs.known hmove
    obtain ⟨hcanonical, hisdir⟩ := (hs.agrees hpath).2 ⟨hmove, hdirectory⟩
    rw [h.canonicalize_eq hpath] at hcanonical
    rw [h.isDirectory_eq (hs.canonicalize_absolute hcanonical)] at hisdir
    refine Or.inl ⟨directory, rfl, hdirectory, ?_⟩
    simp only [hone, hcanonical, hisdir, if_true]
  | error f =>
    -- if the path led to a directory, the system could have moved there
    have hno : ∀ {d : Text}, host.canonicalize path world.system = .ok d →
        host.isDirectory d world.system = false := by
      intro d hd
      cases hdir : host.isDirectory d world.system with
      | false => rfl
      | true =>
        rw [← h.isDirectory_eq (hs.canonicalize_absolute hd)] at hdir
        rw [← h.canonicalize_eq hpath] at hd
        have hok := ((hs.agrees hpath).1 ⟨hd, hdir⟩).1
        rw [hmove] at hok
        cases hok
    right
    cases hcanonical : host.canonicalize path world.system with
    | error g => exact ⟨f, g, rfl, by simp only [hone, hcanonical]⟩
    | ok d =>
      refine ⟨f, .notDirectory, rfl, ?_⟩
      simp only [hone, hcanonical, hno hcanonical, Bool.false_eq_true, if_false]

/-- What a move of one of the contexts does. -/
theorem changeDirectory_process {target path : Text} (hscope : d.scope = .process)
    (hpath : d.resolve host s.world target = path) :
    d.changeDirectory host target s.world =
      match host.changeDirectory path s.world.system with
      | (.error f, system) => (.error f, d, { s.world with system })
      | (.ok (), system) =>
        match host.currentDirectory system with
        | .error f => (.error f, d, { s.world with system })
        | .ok directory => (.ok (), { d with directory }, { s.world with system }) := by
  subst hpath
  unfold Context.changeDirectory
  generalize d.scope = scope at hscope ⊢
  subst hscope
  rfl

/-- **One operation.** Whichever context is asked, the answer is that of the one context, and the
others go with it. -/
theorem perform_follows (hs : host.Steady) (h : s.Follows host c world) {k : Nat}
    (hk : s.contexts[k]? = some d) (op : Operation) :
    ∃ answer d' world' c', d.perform host op s.world = (answer, d', world') ∧
      c.perform host op world = (answer, c', world) ∧
      Follows host { world := world', contexts := s.contexts.set k d' } c' world := by
  have hd : d ∈ s.contexts := List.mem_of_getElem? hk
  -- a context that is put back in its place changes nothing
  have hput : s.contexts.set k d = s.contexts := by
    obtain ⟨hlt, rfl⟩ := List.getElem?_eq_some_iff.1 hk
    exact List.set_getElem_self hlt
  cases op with
  | changeDirectory target =>
    have hprocess := changeDirectory_process (h.scopes_eq d hd) (h.resolve_eq hd target)
    rcases h.changeDirectory_eq hs target with
      ⟨directory, hmove, hdirectory, hone⟩ | ⟨f, g, hmove, hone⟩
    · have hall : d.changeDirectory host target s.world =
          (.ok (), { d with directory }, { s.world with system :=
            (host.changeDirectory (c.resolve host world target) s.world.system).2 }) := by
        rw [hprocess, ← Prod.eta (host.changeDirectory _ _), hmove]
        simp only [hdirectory]
      refine ⟨.moved true, { d with directory }, _, { c with directory }, ?_, ?_,
        h.move hs hdirectory ?_⟩
      · simp only [Context.perform, hall, Except.isOk, Except.toBool]
      · simp only [Context.perform, hone, Except.isOk, Except.toBool]
      · intro e he
        rcases List.mem_or_eq_of_mem_set he with he | rfl
        · exact h.scopes_eq e he
        · exact h.scopes_eq d hd
    · have hall : d.changeDirectory host target s.world =
          (.error f, d, { s.world with system :=
            (host.changeDirectory (c.resolve host world target) s.world.system).2 }) := by
        rw [hprocess, ← Prod.eta (host.changeDirectory _ _), hmove]
      have hstay := h.stay hs hmove
      rw [← hput] at hstay
      refine ⟨.moved false, d, _, c, ?_, ?_, hstay⟩
      · simp only [Context.perform, hall, Except.isOk, Except.toBool]
      · simp only [Context.perform, hone, Except.isOk, Except.toBool]
  | resolve path =>
    refine ⟨_, d, s.world, c, rfl, ?_, by rw [hput]; exact h⟩
    rw [Context.perform, h.resolve_eq hd]
  | setStatus status =>
    refine ⟨.recorded, d, { s.world with sharedStatus := status }, { c with status }, ?_, ?_, ?_⟩
    · simp only [Context.perform, Context.setStatus, h.scopes_eq d hd]
    · simp only [Context.perform, Context.setStatus, h.scope_eq]
    · rw [hput]
      exact h.setStatus status
  | directory =>
    refine ⟨_, d, s.world, c, rfl, ?_, by rw [hput]; exact h⟩
    rw [Context.perform, h.currentDirectory_eq hd]
  | status =>
    refine ⟨_, d, s.world, c, rfl, ?_, by rw [hput]; exact h⟩
    rw [Context.perform, h.lastStatus_eq hd]

/-! ## Runs -/

/-- **Runs.** However contexts are made and asked, they answer as the one context does. -/
theorem run_follows (hs : host.Steady) (events : List Event) (h : s.Follows host c world) :
    ∃ answers s' c', run host events s = (answers, s') ∧
      Context.performs host (asked s.contexts.length events) c world = (answers, c', world) ∧
      s'.Follows host c' world := by
  induction events generalizing s c with
  | nil => exact ⟨[], s, c, rfl, rfl, h⟩
  | cons event rest ih =>
    cases event with
    | create =>
      obtain ⟨answers, s', c', hrun, hone, h'⟩ := ih h.create
      rw [List.length_append, List.length_singleton] at hone
      exact ⟨answers, s', c', by simp only [run, step, hrun, Option.toList, List.nil_append],
        hone, h'⟩
    | ask k op =>
      cases hk : s.contexts[k]? with
      | none =>
        -- there is no such context, and nothing is asked
        have hlt : ¬ k < s.contexts.length := Nat.not_lt.2 (List.getElem?_eq_none_iff.1 hk)
        obtain ⟨answers, s', c', hrun, hone, h'⟩ := ih h
        exact ⟨answers, s', c', by simp only [run, step, hk, hrun, Option.toList, List.nil_append],
          by rw [asked, if_neg hlt, hone], h'⟩
      | some d =>
        have hlt : k < s.contexts.length := (List.getElem?_eq_some_iff.1 hk).1
        obtain ⟨answer, d', world', c₁, hask, hone₁, h₁⟩ := perform_follows hs h hk op
        obtain ⟨answers, s', c', hrun, hone, h'⟩ := ih h₁
        rw [List.length_set] at hone
        refine ⟨answer :: answers, s', c', ?_, ?_, h'⟩
        · simp only [run, step, hk, hask, hrun, Option.toList, List.singleton_append]
        · simp only [asked, if_pos hlt, Context.performs, hone₁, hone]

/-- The one context with which the contexts of a process are compared: of connection scope, in the
directory in which a context starts, and with the status that the process has. -/
def single (host : Host σ) (world : World σ) : Context where
  scope := .connection
  directory := (Context.start host .process world).directory
  status := world.sharedStatus

/-- A process without contexts is followed by the one context. -/
theorem follows_single (hs : host.Steady) (world : World σ) :
    Follows host { world } (single host world) world := by
  refine ⟨rfl, List.forall_mem_nil _, rfl, ?_, ?_, fun _ => rfl, fun _ => rfl⟩
  · cases hc : host.currentDirectory world.system with
    | ok directory =>
      simp only [single, Context.start, hc, Except.toOption, Option.getD_some]
      exact hs.currentDirectory_absolute hc
    | error f => simp only [single, Context.start, hc, Except.toOption, Option.getD_none]; rfl
  · cases hc : host.currentDirectory world.system with
    | ok directory =>
      left
      simp only [single, Context.start, hc, Except.toOption, Option.getD_some]
    | error f =>
      right
      refine ⟨⟨f, rfl⟩, ?_, List.forall_mem_nil _⟩
      simp only [single, Context.start, hc, Except.toOption, Option.getD_none]

/-- **Process scope is one context.** However many contexts of process scope are made, whenever they
are made and in whatever order they are asked: each answer is the one that a single context of
connection scope gives when all of it is asked of that one in the same order. After every part of
the run all contexts are in the directory of the single one and have its status. -/
theorem run_single (hs : host.Steady) (events : List Event) (world : World σ) :
    (run host events { world }).1 =
        (Context.performs host (asked 0 events) (single host world) world).1 ∧
      ∀ front, front <+: events → ∀ d ∈ (run host front { world }).2.contexts,
        d.currentDirectory host (run host front { world }).2.world =
            (Context.performs host (asked 0 front) (single host world) world).2.1.currentDirectory
              host world ∧
          d.lastStatus (run host front { world }).2.world =
            (Context.performs host (asked 0 front) (single host world) world).2.1.lastStatus
              world := by
  constructor
  · obtain ⟨answers, s', c', hrun, hone, -⟩ := run_follows hs events (follows_single hs world)
    rw [hrun]
    exact (congrArg Prod.fst hone).symm
  · intro front _ d hd
    obtain ⟨answers, s', c', hrun, hone, h'⟩ := run_follows hs front (follows_single hs world)
    replace hone : Context.performs host (asked 0 front) (single host world) world =
      (answers, c', world) := hone
    rw [hrun] at hd ⊢
    rw [hone]
    exact ⟨h'.currentDirectory_eq hd, h'.lastStatus_eq hd⟩

end Circle

/-! ## A process with two contexts -/

/-- A system with the directories `/` and `/a` and the file `/f`. All of its state is whether it has
moved to `/a`. -/
def Host.twoRooms : Host Bool where
  currentDirectory inside := .ok (if inside then "/a".toList else "/".toList)
  changeDirectory p inside :=
    match place? p with
    | some room => (.ok (), room)
    | none => (.error (.system Errno.noEntry), inside)
  canonicalize p _ :=
    match place? p with
    | some room => .ok (if room then "/a".toList else "/".toList)
    | none => if p = "/f".toList then .ok p else .error (.system Errno.noEntry)
  isDirectory p _ := (place? p).isSome
  openInput _ s := (.error (.system Errno.noEntry), s)
  openOutput _ _ s := (.error (.system Errno.noEntry), s)
  makePipe s := (.ok ⟨0, 1⟩, s)
  close _ s := s
  attach _ s := (.ok (), s)
  start _ s := (.ok 0, s)
  await _ _ s := (.ok (.code 0), {}, s)
where
  /-- Whether a path leads to `/a` or to `/`, if it leads to either. -/
  place? (p : Text) : Option Bool :=
    if p = "/a".toList then some true
    else if p = "/".toList ∨ p = "/a/..".toList then some false
    else none

theorem Host.twoRooms_steady : Host.twoRooms.Steady where
  currentDirectory_absolute := by
    intro inside d h
    cases inside <;> cases h <;> rfl
  canonicalize_absolute := by
    intro p d inside h
    unfold twoRooms at h
    dsimp only at h
    split at h
    · rename_i room _
      cases room <;> cases h <;> rfl
    · split at h
      · rename_i hp
        cases h
        rw [hp]
        rfl
      · cases h
  agrees := by
    intro p d inside _
    unfold twoRooms
    dsimp only
    cases hp : twoRooms.place? p with
    | some room =>
      -- a path to a room is found and can be moved to, and both tell the room
      constructor
      · rintro ⟨hd, -⟩
        exact ⟨rfl, hd⟩
      · rintro ⟨-, hd⟩
        refine ⟨hd, ?_⟩
        cases room <;> cases hd <;> rfl
    | none =>
      -- any other path cannot be moved to, and at most leads to the file
      constructor
      · rintro ⟨hd, hdir⟩
        dsimp only at hd
        split at hd
        · cases hd
          rw [hp] at hdir
          cases hdir
        · cases hd
      · rintro ⟨hmove, -⟩
        cases hmove
  known := by
    intro p inside _
    exact ⟨_, rfl⟩
  stays := by
    intro p inside f h
    unfold twoRooms at h ⊢
    dsimp only at h ⊢
    split at h
    · cases h
    · rfl
  canonicalize_eq := fun _ _ _ => rfl
  isDirectory_eq := fun _ _ _ => rfl

namespace Circle

/-- Two contexts, each of which moves once, so that the first has a directory of its own that is
wrong in the end. -/
def rounds : List Event :=
  [.create, .ask 0 (.changeDirectory ['a']), .ask 5 .status, .create,
    .ask 1 (.changeDirectory "..".toList), .ask 0 (.changeDirectory "f".toList), .ask 0 .directory,
    .ask 0 (.resolve ['x']), .ask 1 (.setStatus 7), .ask 0 .status]

theorem run_rounds :
    Host.twoRooms.Steady ∧
      (run Host.twoRooms rounds { world := ⟨false, 3⟩ }).1 =
        [.moved true, .moved true, .moved false, .path "/".toList, .path "/x".toList, .recorded,
          .status 7] ∧
      (run Host.twoRooms rounds { world := ⟨false, 3⟩ }).2.contexts.map Context.directory =
        ["/a".toList, "/".toList] := by
  refine ⟨Host.twoRooms_steady, ?_, by decide⟩
  obtain ⟨hanswers, -⟩ := run_single Host.twoRooms_steady rounds ⟨false, 3⟩
  rw [hanswers]
  decide

end Circle

end PipeShell
