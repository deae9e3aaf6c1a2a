import GlslBuild.Proofs.Cache.Balance
import GlslBuild.Proofs.Cache.Custody
import GlslBuild.Proofs.Library.Growth

/-!
# Steps

Steps say more than moves do: where the artifact that a step stores comes from. They are what the
native compiler answered, to a unit from the source of a registered factory or to the objects that
stood in the cache. A careful step moreover destroys nothing that a program holds, and in a
disciplined session all steps are careful.
-/

namespace GlslBuild

variable {Factory Native : Type}

/-- The workshop at a later time: only its library may have grown. -/
structure Workshop.Grows (workshop later : Workshop Factory Native) : Prop where
  library : workshop.library.Extends later.library
  toolchain_eq : later.toolchain = workshop.toolchain
  config_eq : later.config = workshop.config

theorem Workshop.Grows.refl (workshop : Workshop Factory Native) : Grows workshop workshop :=
  ⟨.refl _, rfl, rfl⟩

theorem Workshop.Grows.trans {workshop middle later : Workshop Factory Native}
    (first : Grows workshop middle) (second : Grows middle later) : Grows workshop later :=
  ⟨first.library.trans second.library, second.toolchain_eq.trans first.toolchain_eq,
    second.config_eq.trans first.config_eq⟩

namespace Cache

/-- The handle is that of what is stored for an object. -/
structure Current (cache : Cache Factory Native) (options : Options) (component : Component)
    (handle : Handle Native) : Prop where
  identity_eq : handle.identity = (Request.object component options).identity
  stored : ∃ artifact, cache.artifacts.find? handle.identity = some artifact ∧
    artifact.native = handle.native

/-- A step of a cache at work for the requests. No program holds what a careful step destroys. -/
inductive Step (workshop : Workshop Factory Native) (asked : List Request) (careful : Prop)
    (cache next : Cache Factory Native) : Prop
  | idle (idle : Idle cache next)
  | recount {identity : Identity} {artifact : Artifact Native} {count : Nat}
      (found : cache.artifacts.find? identity = some artifact)
      (positive : 0 < count)
      (artifacts_eq : next.artifacts =
        cache.artifacts.insert identity { artifact with references := count })
      (calls_eq : next.calls = cache.calls)
  | take {component : Component} {options : Options} {handle : Handle Native}
      (request : .object component options ∈ asked)
      (obtained : Obtained workshop cache next component options
        (Request.object component options).identity handle)
  | link {identifier : Text} {options : Options} {program : Program}
      {members : List (Handle Native)} {output : Output Native} {native : Native}
      (request : .program identifier options ∈ asked)
      (registered : workshop.library.program identifier = .ok program)
      (objects : ∀ component ∈ program.components, .object component options ∈ asked)
      (current : List.Forall₂ (Current cache options) program.components members)
      (absent : Request.Separate asked →
        cache.artifacts.find? (Request.program identifier options).identity = none)
      (output_eq : output = workshop.toolchain.link cache.calls identifier
        (members.map Handle.native))
      (answer : output.artifact = some native)
      (artifacts_eq : next.artifacts =
        cache.artifacts.insert (Request.program identifier options).identity
          ⟨native, .program, 1, members.map Handle.identity⟩)
      (calls_eq : next.calls =
        cache.calls ++ [.link identifier (members.map Handle.native) output])
  | destroy {identity : Identity} {artifact : Artifact Native}
      (found : cache.artifacts.find? identity = some artifact)
      (free : careful → cache.programReferences identity = 0)
      (artifacts_eq : next.artifacts = cache.artifacts.erase identity)
      (calls_eq : next.calls = cache.calls ++ [.delete artifact.kind artifact.native])

/-- One step after another. -/
abbrev Steps (workshop : Workshop Factory Native) (asked : List Request) (careful : Prop) :
    Cache Factory Native → Cache Factory Native → Prop :=
  Relation.ReflTransGen (Step workshop asked careful)

theorem Obtained.grows {workshop later : Workshop Factory Native}
    {cache next : Cache Factory Native} {component : Component} {options : Options}
    {identity : Identity} {handle : Handle Native} (grows : workshop.Grows later)
    (obtained : Obtained workshop cache next component options identity handle) :
    Obtained later cache next component options identity handle := by
  cases obtained with
  | hit found artifacts_eq calls_eq => exact .hit found artifacts_eq calls_eq
  | compiled absent provided assembled answer artifacts_eq calls_eq source_eq output_eq =>
      rw [← grows.config_eq] at assembled
      rw [← grows.toolchain_eq] at source_eq output_eq
      exact .compiled absent (grows.library.lookup provided) assembled answer artifacts_eq
        calls_eq source_eq output_eq

theorem Step.mono {workshop later : Workshop Factory Native} {fewer asked : List Request}
    {careful : Prop} {cache next : Cache Factory Native} (grows : workshop.Grows later)
    (subset : fewer ⊆ asked) (step : Step workshop fewer careful cache next) :
    Step later asked careful cache next := by
  cases step with
  | idle idle => exact .idle idle
  | recount found positive artifacts_eq calls_eq =>
      exact .recount found positive artifacts_eq calls_eq
  | take request obtained => exact .take (subset request) (obtained.grows grows)
  | link request registered objects current absent output_eq answer artifacts_eq calls_eq =>
      rw [← grows.toolchain_eq] at output_eq
      exact .link (subset request) (grows.library.program registered)
        (fun component listed => subset (objects component listed)) current
        (fun separate => absent (separate.of_subset subset)) output_eq answer artifacts_eq calls_eq
  | destroy found free artifacts_eq calls_eq => exact .destroy found free artifacts_eq calls_eq

theorem Steps.mono {workshop later : Workshop Factory Native} {fewer asked : List Request}
    {careful : Prop} {cache next : Cache Factory Native} (grows : workshop.Grows later)
    (subset : fewer ⊆ asked) (steps : Steps workshop fewer careful cache next) :
    Steps later asked careful cache next :=
  Relation.ReflTransGen.mono (fun _ _ step => Step.mono grows subset step) _ _ steps

theorem exists_component_of_current {cache : Cache Factory Native} {options : Options}
    {components : List Component} {members : List (Handle Native)}
    (current : List.Forall₂ (Current cache options) components members) :
    ∀ member ∈ members.map Handle.identity, ∃ component ∈ components,
      (Request.object component options).identity = member := by
  induction current with
  | nil => simp
  | cons first _ induction =>
      intro member inside
      rcases List.mem_cons.mp inside with rfl | inside
      · exact ⟨_, List.mem_cons_self, first.identity_eq.symm⟩
      · obtain ⟨component, listed, same⟩ := induction member inside
        exact ⟨component, List.mem_cons_of_mem _ listed, same⟩

theorem exists_stored_of_current {cache : Cache Factory Native} {options : Options}
    {components : List Component} {members : List (Handle Native)}
    (current : List.Forall₂ (Current cache options) components members) :
    ∀ handle ∈ members, ∃ artifact, cache.artifacts.find? handle.identity = some artifact ∧
      artifact.native = handle.native := by
  induction current with
  | nil => simp
  | cons first _ induction => exact List.forall_mem_cons.mpr ⟨first.stored, induction⟩

/-- Steps are moves of which less is said. -/
theorem Step.moves {workshop : Workshop Factory Native} {asked : List Request} {careful : Prop}
    {cache next : Cache Factory Native} (step : Step workshop asked careful cache next) :
    Moves asked cache next := by
  cases step with
  | idle idle => exact .single (.idle idle)
  | recount found positive artifacts_eq calls_eq =>
      exact .single (.recount found positive artifacts_eq calls_eq)
  | take request obtained => exact obtained.moves request
  | link request registered objects current absent output_eq answer artifacts_eq calls_eq =>
      refine .single (.make (.program request ?_ answer) absent artifacts_eq calls_eq)
      intro member inside
      obtain ⟨component, listed, same⟩ := exists_component_of_current current member inside
      exact ⟨component, objects component listed, same⟩
  | destroy found free artifacts_eq calls_eq => exact .single (.destroy found artifacts_eq calls_eq)

theorem Steps.moves {workshop : Workshop Factory Native} {asked : List Request} {careful : Prop}
    {cache next : Cache Factory Native} (steps : Steps workshop asked careful cache next) :
    Moves asked cache next := by
  induction steps with
  | refl => exact .refl
  | tail _ step induction => exact induction.trans step.moves

/-- What holds of a cache still holds after steps, if it does after each step of a cache that keeps
exactly what is alive. -/
theorem holds_of_steps [DecidableEq Native] {workshop : Workshop Factory Native}
    {asked : List Request} {careful : Prop} {cache next : Cache Factory Native}
    (property : Cache Factory Native → Prop)
    (stepping : ∀ {middle last : Cache Factory Native}, Custodial middle →
      Step workshop asked careful middle last → property middle → property last)
    (steps : Steps workshop asked careful cache next) (separate : Request.Separate asked)
    (custodial : Custodial cache) (fresh : Trace.Fresh next.calls) (start : property cache) :
    property next := by
  induction steps with
  | refl => exact start
  | @tail middle last steps step induction =>
      have middle_fresh := step.moves.fresh fresh
      have so_far := custodial_of_moves separate (Steps.moves steps) custodial middle_fresh
      exact stepping so_far step (induction middle_fresh)

/-! ## What stays stored while objects are taken -/

theorem Obtained.current {workshop : Workshop Factory Native} {cache next : Cache Factory Native}
    {component : Component} {options : Options} {handle : Handle Native}
    (obtained : Obtained workshop cache next component options
      (Request.object component options).identity handle) :
    Current next options component handle := by
  refine ⟨obtained.identity_eq, ?_⟩
  cases obtained with
  | @hit artifact found artifacts_eq calls_eq =>
      refine ⟨artifact.retain, ?_, rfl⟩
      simp [artifacts_eq, Artifact.handle, Table.find?_insert]
  | @compiled factory source unit output native absent provided assembled answer artifacts_eq =>
      refine ⟨⟨native, .object component.stage, 1, []⟩, ?_, rfl⟩
      simp [artifacts_eq, Table.find?_insert]

theorem keeps_of_recount {cache next : Cache Factory Native} {identity other : Identity}
    {artifact present : Artifact Native} {count : Nat}
    (found : cache.artifacts.find? identity = some artifact)
    (artifacts_eq : next.artifacts =
      cache.artifacts.insert identity { artifact with references := count })
    (stored : cache.artifacts.find? other = some present) :
    ∃ count, next.artifacts.find? other = some { present with references := count } := by
  rw [artifacts_eq, Table.find?_insert]
  split
  · next same =>
      subst same
      obtain rfl := Option.some.inj (found.symm.trans stored)
      exact ⟨count, rfl⟩
  · exact ⟨_, stored⟩

theorem Obtained.keeps {workshop : Workshop Factory Native} {cache next : Cache Factory Native}
    {component : Component} {options : Options} {identity : Identity} {handle : Handle Native}
    (obtained : Obtained workshop cache next component options identity handle)
    {other : Identity} {artifact : Artifact Native}
    (stored : cache.artifacts.find? other = some artifact) :
    ∃ count, next.artifacts.find? other = some { artifact with references := count } := by
  cases obtained with
  | hit found artifacts_eq calls_eq => exact keeps_of_recount found artifacts_eq stored
  | compiled absent provided assembled answer artifacts_eq calls_eq =>
      rw [artifacts_eq]
      exact ⟨_, Table.find?_insert_of_absent absent stored⟩

theorem keeps_of_requestEach {workshop : Workshop Factory Native}
    {cache next : Cache Factory Native} {options : Options} {components : List Component}
    {handles : List (Handle Native)} {result : Except CacheError Unit}
    (done : requestEach workshop options cache components = (next, handles, result))
    {identity : Identity} {artifact : Artifact Native}
    (stored : cache.artifacts.find? identity = some artifact) :
    ∃ count, next.artifacts.find? identity = some { artifact with references := count } := by
  refine holds_of_requestEach (fun last _ => ∃ count, last.artifacts.find? identity =
    some { artifact with references := count }) [] (fun _ kept => kept) ?_ ?_ ⟨_, stored⟩ done
  · rintro _ _ _ idle ⟨count, kept⟩
    exact ⟨count, by rw [idle.artifacts_eq, kept]⟩
  · rintro _ _ _ _ _ _ obtained ⟨count, kept⟩
    obtain ⟨later, again⟩ := obtained.keeps kept
    exact ⟨later, again⟩

/-- After objects have been taken, all their handles are current, in order. -/
theorem current_of_requestEach {workshop : Workshop Factory Native}
    {cache next : Cache Factory Native} {options : Options} {components : List Component}
    {handles : List (Handle Native)}
    (done : requestEach workshop options cache components = (next, handles, .ok ())) :
    List.Forall₂ (Current next options) components handles := by
  induction components generalizing cache handles with
  | nil =>
      simp only [requestEach, Prod.mk.injEq] at done
      obtain ⟨rfl, rfl, -⟩ := done
      exact .nil
  | cons component rest induction =>
      rcases requestEach_cons_cases done with
        ⟨-, ⟨error, failed⟩, -⟩ | ⟨middle, handle, later, rfl, obtained, continued⟩
      · contradiction
      · refine .cons ⟨obtained.identity_eq, ?_⟩ (induction continued)
        obtain ⟨artifact, stored, native_eq⟩ := Obtained.current obtained |>.stored
        obtain ⟨count, kept⟩ := keeps_of_requestEach continued stored
        exact ⟨_, kept, native_eq⟩

/-! ## Operations as steps -/

variable {workshop : Workshop Factory Native} {asked : List Request} {careful : Prop}

/-- An owner that gives back the last reference leaves no program that holds one. -/
theorem Dropped.step {cache next : Cache Factory Native} {identity : Identity}
    {released : Released} {members owners : List Identity}
    (dropped : Dropped cache next identity released members)
    (owned : careful → Balanced cache (identity :: owners)) :
    Step workshop asked careful cache next := by
  cases dropped with
  | retained found left artifacts_eq calls_eq =>
      exact .recount found left artifacts_eq calls_eq
  | destroyed found last artifacts_eq calls_eq =>
      refine .destroy found ?_ artifacts_eq calls_eq
      intro cared
      -- The count is one, and the one who gives the reference back has it.
      have counted := (owned cared).references_eq found
      rw [List.count_cons_self] at counted
      omega

theorem steps_dropAll (cache : Cache Factory Native) (pending owners : List Identity)
    (owned : careful → Balanced cache (pending ++ owners)) :
    Steps workshop asked careful cache (cache.dropAll pending).1 := by
  fun_induction dropAll cache pending with
  | case1 => exact .refl
  | case2 => exact .refl
  | case3 cache identity rest next released members done induction =>
      have dropped := dropped_of_dropReference done
      refine .head (dropped.step owned) (induction ?_)
      intro cared
      rw [List.append_assoc]
      exact (owned cared).drop dropped

theorem steps_release (cache : Cache Factory Native) (identity : Identity)
    (owners : List Identity) (owned : careful → Balanced cache (identity :: owners)) :
    Steps workshop asked careful cache (cache.release identity).1 := by
  rw [release]
  split
  · exact .refl
  · next next released members done =>
      have dropped := dropped_of_dropReference done
      refine .head (dropped.step owned) (steps_dropAll next members owners ?_)
      exact fun cared => (owned cared).drop dropped

theorem steps_releaseHandles (cache : Cache Factory Native) (handles : List (Handle Native))
    (owners : List Identity)
    (owned : careful → Balanced cache (handles.map Handle.identity ++ owners)) :
    Steps workshop asked careful cache (cache.releaseHandles handles) := by
  induction handles generalizing cache with
  | nil => exact .refl
  | cons handle rest induction =>
      refine (steps_release cache handle.identity _ owned).trans (induction _ ?_)
      exact fun cared => (owned cared).release.2

theorem steps_of_requestEach {cache next : Cache Factory Native} {options : Options}
    {components : List Component} {handles : List (Handle Native)}
    {result : Except CacheError Unit}
    (requests : ∀ component ∈ components, .object component options ∈ asked)
    (done : requestEach workshop options cache components = (next, handles, result)) :
    Steps workshop asked careful cache next := by
  have start : Steps workshop asked careful cache cache := .refl
  refine holds_of_requestEach (fun last _ => Steps workshop asked careful cache last) []
    (fun _ steps => steps) ?_ ?_ start done
  · intro _ _ _ idle steps
    exact steps.tail (.idle idle)
  · intro _ _ component _ _ listed obtained steps
    exact steps.tail (.take (requests component listed) obtained)

theorem Answered.steps {cache next : Cache Factory Native} {identifier : Text}
    {options : Options} {result : Except CacheError (Handle Native)} {owners : List Identity}
    (requests : (Request.program identifier options).closure workshop.library ⊆ asked)
    (answered : Answered workshop cache next identifier options
      (Request.program identifier options).identity result)
    (owned : careful → Balanced cache owners) : Steps workshop asked careful cache next := by
  have own := requests (Request.mem_closure workshop.library _)
  have objects {program : Program}
      (registered : workshop.library.program identifier = .ok program) :
      ∀ component ∈ program.components, .object component options ∈ asked :=
    fun component listed => requests (Request.object_mem_closure registered listed)
  cases answered with
  | hit found artifacts_eq calls_eq =>
      exact .single (.recount found (Nat.succ_pos _) artifacts_eq calls_eq)
  | unknown idle => exact .single (.idle idle)
  | @undone program base middle last members outcome error registered idle obtained failed
      given_back =>
      subst given_back
      refine .head (.idle idle) ((steps_of_requestEach (objects registered) obtained).trans ?_)
      refine .head (.idle failed) (steps_releaseHandles last members owners ?_)
      intro cared
      have taken := ((owned cared).congr idle.artifacts_eq).requestEach obtained
      exact taken.congr failed.artifacts_eq
  | linked absent registered idle obtained answer artifacts_eq calls_eq output_eq =>
      refine .head (.idle idle) ((steps_of_requestEach (objects registered) obtained).tail ?_)
      refine .link own registered (objects registered) (current_of_requestEach obtained) ?_
        output_eq answer artifacts_eq calls_eq
      intro separate
      exact program_absent_of_requestEach separate own (objects registered) obtained
        (idle.artifacts_eq ▸ absent)

theorem steps_resolve (cache : Cache Factory Native) {request : Request} {owners : List Identity}
    (requests : request.closure workshop.library ⊆ asked)
    (owned : careful → Balanced cache owners) :
    Steps workshop asked careful cache (cache.resolve workshop request).1 := by
  cases request with
  | object component options =>
      have own := requests (Request.mem_closure workshop.library _)
      cases done : cache.resolve workshop (.object component options) with
      | mk next result =>
          rcases requestObject_cases done with ⟨handle, -, obtained⟩ | ⟨-, idle⟩
          · exact .single (.take own obtained)
          · exact .single (.idle idle)
  | program identifier options => exact (requestProgram_cases rfl).steps requests owned

/-! ## Shutting down -/

/-- If programs come before objects, nothing is a member of itself or of what comes after it:
programs are members of nothing, and objects have none. -/
theorem pairwise_programs_append_objects {cache : Cache Factory Native}
    {visited : List (Identity × Artifact Native)}
    (order : visited.Perm cache.artifacts.entries)
    (attributed : ∀ identity artifact, cache.artifacts.find? identity = some artifact →
      Attributed asked identity artifact)
    (separate : Request.Separate asked) :
    let entries := visited.filter (fun entry => entry.2.kind == .program) ++
      visited.filter fun entry => !(entry.2.kind == .program)
    (∀ entry ∈ entries, entry.1 ∉ entry.2.members) ∧
      entries.Pairwise fun first second => first.1 ∉ second.2.members := by
  intro entries
  have stored {entry : Identity × Artifact Native} (member : entry ∈ visited) :
      cache.artifacts.find? entry.1 = some entry.2 :=
    (Table.mem_entries_iff ..).mp (order.mem_iff.mp member)
  have apart : ∀ first ∈ visited, ∀ second ∈ visited,
      first.2.kind = .program ∨ second.2.kind ≠ .program → first.1 ∉ second.2.members := by
    intro first first_stored second second_stored kinds
    rcases kinds with program | object
    · exact notMem_members_of_program attributed separate (stored first_stored) program
        (stored second_stored)
    · simp [(attributed _ _ (stored second_stored)).members_of_object object]
  refine ⟨?_, List.pairwise_append.mpr ⟨?_, ?_, ?_⟩⟩
  · intro entry member
    have listed := (List.filter_append_perm _ visited).mem_iff.mp member
    exact apart entry listed entry listed (em _)
  · refine List.pairwise_of_forall_mem_list ?_
    intro first first_program second second_program
    simp only [List.mem_filter, beq_iff_eq] at first_program second_program
    exact apart _ first_program.1 _ second_program.1 (.inl first_program.2)
  · refine List.pairwise_of_forall_mem_list ?_
    intro first first_object second second_object
    simp only [List.mem_filter, Bool.not_eq_true', beq_eq_false_iff_ne, ne_eq]
      at first_object second_object
    exact apart _ first_object.1 _ second_object.1 (.inr second_object.2)
  · intro first first_program second second_object
    simp only [List.mem_filter, beq_iff_eq] at first_program second_object
    exact apart _ first_program.1 _ second_object.1 (.inl first_program.2)

/-- What is drained is no member of itself or of what is drained after it. -/
theorem pairwise_drained {cache : Cache Factory Native}
    (attributed : ∀ identity artifact, cache.artifacts.find? identity = some artifact →
      Attributed asked identity artifact)
    (separate : Request.Separate asked) :
    (∀ entry ∈ cache.drained, entry.1 ∉ entry.2.members) ∧
      cache.drained.Pairwise fun first second => first.1 ∉ second.2.members := by
  simp only [drained, List.partition_eq_filter_filter]
  exact pairwise_programs_append_objects (.refl _) attributed separate

theorem steps_of_destroying {cache next : Cache Factory Native}
    {entries : List (Identity × Artifact Native)}
    (perm : cache.artifacts.entries.Perm entries)
    (artifacts_eq : next.artifacts = Table.empty)
    (calls_eq : next.calls =
      cache.calls ++ entries.map fun entry => .delete entry.2.kind entry.2.native)
    (ordered : careful → (∀ entry ∈ entries, entry.1 ∉ entry.2.members) ∧
      entries.Pairwise fun first second => first.1 ∉ second.2.members) :
    Steps workshop asked careful cache next := by
  induction entries generalizing cache with
  | nil =>
      have nothing : cache.artifacts = Table.empty := by
        apply Table.eq_empty_of_find?_eq_none
        intro key
        simp [Table.find?, perm.eq_nil]
      exact .single (.idle ⟨artifacts_eq.trans nothing.symm, [], calls_eq, by simp⟩)
  | cons entry rest induction =>
      obtain ⟨identity, artifact⟩ := entry
      have member := perm.mem_iff.mpr (List.mem_cons_self (a := (identity, artifact)))
      have found := (Table.mem_entries_iff _ _ _).mp member
      let middle := (cache.discard identity).record (.delete artifact.kind artifact.native)
      have free : careful → cache.programReferences identity = 0 := by
        intro cared
        obtain ⟨own, later⟩ := ordered cared
        rw [programReferences, List.count_eq_zero, List.mem_flatMap]
        rintro ⟨holder, present, held⟩
        rcases List.mem_cons.mp (perm.mem_iff.mp present) with rfl | after
        · exact own _ List.mem_cons_self held
        · exact (List.pairwise_cons.mp later).1 holder after held
      have step : Step workshop asked careful cache middle := .destroy found free rfl rfl
      refine .head step (induction ?_ ?_ ?_)
      · exact (Table.entries_perm_cons_erase found).symm.trans perm |>.cons_inv
      · rw [calls_eq]
        simp [middle, record, discard]
      · intro cared
        obtain ⟨own, later⟩ := ordered cared
        exact ⟨(List.forall_mem_cons.mp own).2, (List.pairwise_cons.mp later).2⟩

theorem steps_shutdown (cache : Cache Factory Native)
    (attributed : careful → ∀ identity artifact,
      cache.artifacts.find? identity = some artifact → Attributed asked identity artifact)
    (separate : careful → Request.Separate asked) :
    Steps workshop asked careful cache cache.shutdown.1 :=
  steps_of_destroying (drained_perm cache) rfl rfl fun cared =>
    pairwise_drained (attributed cared) (separate cared)

end Cache

namespace Session

/-- The count of every artifact is the number of its owners, and every artifact answers a
request. -/
structure Orderly (session : Session Factory Native) : Prop where
  balanced : Cache.Balanced session.cache (session.held.map Handle.identity)
  attributed : ∀ identity artifact, session.cache.artifacts.find? identity = some artifact →
    Cache.Attributed session.asked identity artifact

theorem orderly_start (workshop : Workshop Factory Native) : (start workshop).Orderly := by
  refine ⟨Cache.balanced_empty, ?_⟩
  intro identity artifact found
  exact absurd found (by simp [start, Cache.empty])

theorem grows_extendLibrary {session : Session Factory Native}
    {result : Except LibraryError (Library Factory)}
    (extended : ∀ library, result = .ok library → session.workshop.library.Extends library) :
    session.workshop.Grows (session.extendLibrary result).workshop := by
  cases result with
  | error error => exact .refl _
  | ok library => exact ⟨extended library rfl, rfl, rfl⟩

variable [DecidableEq Native]

theorem orderly_perform {session : Session Factory Native} {action : Action Factory Native}
    (orderly : session.Orderly) (permitted : session.Permits action)
    (separate : Request.Separate (session.perform action).1.asked) :
    (session.perform action).1.Orderly := by
  refine ⟨balanced_perform orderly.balanced permitted separate, ?_⟩
  apply Cache.attributed_of_moves (session.moves_perform action)
  intro identity artifact found
  exact (orderly.attributed identity artifact found).mono (asked_subset_perform session action)

theorem grows_perform (session : Session Factory Native) (action : Action Factory Native) :
    session.workshop.Grows (session.perform action).1.workshop := by
  cases action with
  | resolve request => exact .refl _
  | release handle => exact .refl _
  | shutdown => exact .refl _
  | register entry =>
      exact grows_extendLibrary fun library inserted => Library.extends_of_insert inserted
  | load manifest =>
      exact grows_extendLibrary fun library loaded => Library.extends_of_load loaded

theorem grows_run (session : Session Factory Native) (actions : List (Action Factory Native)) :
    session.workshop.Grows (session.run actions).workshop := by
  induction actions generalizing session with
  | nil => exact .refl _
  | cons action rest induction => exact (session.grows_perform action).trans (induction _)

theorem steps_perform {session : Session Factory Native} {action : Action Factory Native}
    {careful : Prop} (orderly : careful → session.Orderly)
    (permitted : careful → session.Permits action)
    (separate : careful → Request.Separate session.asked) :
    Cache.Steps session.workshop (session.perform action).1.asked careful session.cache
      (session.perform action).1.cache := by
  cases action with
  | resolve request =>
      exact Cache.steps_resolve session.cache (List.subset_append_right _ _)
        fun cared => (orderly cared).balanced
  | release handle =>
      refine Cache.steps_release session.cache handle.identity
        ((session.held.erase handle).map Handle.identity) ?_
      intro cared
      exact (orderly cared).balanced.perm
        ((List.perm_cons_erase (permitted cared)).map Handle.identity)
  | shutdown =>
      exact Cache.steps_shutdown session.cache (fun cared => (orderly cared).attributed) separate
  | register entry => simpa [perform] using Relation.ReflTransGen.refl
  | load manifest => simpa [perform] using Relation.ReflTransGen.refl

/-- Whatever callers do, the cache goes through steps. If they give back what they hold and nothing
else, then the steps are careful. -/
theorem steps_run {session : Session Factory Native} {actions : List (Action Factory Native)}
    {careful : Prop} (orderly : careful → session.Orderly)
    (disciplined : careful → session.Disciplined actions)
    (separate : careful → Request.Separate (session.run actions).asked) :
    Cache.Steps (session.run actions).workshop (session.run actions).asked careful session.cache
      (session.run actions).cache := by
  induction actions generalizing session with
  | nil => exact .refl
  | cons action rest induction =>
      have later := asked_subset_run (session.perform action).1 rest
      have earlier := asked_subset_perform session action
      have so_far (cared : careful) := (separate cared).of_subset later
      have first := steps_perform orderly (fun cared => (disciplined cared).1)
        fun cared => (so_far cared).of_subset earlier
      have grows := (session.grows_perform action).trans (grows_run _ rest)
      refine (first.mono grows later).trans (induction ?_ ?_ separate)
      · intro cared
        exact orderly_perform (orderly cared) (disciplined cared).1 (so_far cared)
      · exact fun cared => (disciplined cared).2

end Session

end GlslBuild
