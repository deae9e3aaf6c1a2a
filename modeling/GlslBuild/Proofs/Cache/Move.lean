import GlslBuild.Proofs.Cache.Operation
import GlslBuild.Proofs.Cache.Session
import GlslBuild.Proofs.Table
import Mathlib.Logic.Relation

/-!
# Moves

Every operation of a cache is made of four kinds of moves. An invariant of all caches in use is
proved once for each kind. A move that stores an artifact says which of the requests it answers; it
never puts one artifact in the place of another, as long as no program is kept under the identity of
an object.
-/

namespace GlslBuild

variable {Factory Native : Type}

/-- No program among the requests is kept under the identity of an object. -/
def Request.Separate (requests : List Request) : Prop :=
  ∀ first ∈ requests, ∀ second ∈ requests, first.kind = .program → second.kind ≠ .program →
    first.identity ≠ second.identity

theorem Request.Distinct.separate {requests : List Request} (distinct : Distinct requests) :
    Separate requests := by
  intro first first_asked second second_asked program object same
  have equal := distinct first first_asked second second_asked same
  exact object (equal ▸ program)

theorem Request.Separate.of_subset {fewer requests : List Request} (separate : Separate requests)
    (subset : fewer ⊆ requests) : Separate fewer :=
  fun first first_asked second second_asked =>
    separate first (subset first_asked) second (subset second_asked)

namespace Cache

/-- What is stored under an identity to answer one of the requests, and the call that made it. -/
inductive Made (asked : List Request) :
    Identity → Artifact Native → Call Factory Native → Prop
  | object {component : Component} {options : Options} {unit : CompilationUnit}
      {output : Output Native} {native : Native}
      (request : .object component options ∈ asked)
      (answer : output.artifact = some native) :
      Made asked (Request.object component options).identity
        ⟨native, .object component.stage, 1, []⟩ (.compile component.stage unit output)
  | program {identifier : Text} {options : Options} {members : List Identity}
      {objects : List Native} {output : Output Native} {native : Native}
      (request : .program identifier options ∈ asked)
      (components : ∀ member ∈ members, ∃ component,
        .object component options ∈ asked ∧ (Request.object component options).identity = member)
      (answer : output.artifact = some native) :
      Made asked (Request.program identifier options).identity
        ⟨native, .program, 1, members⟩ (.link identifier objects output)

/-- The least change that the operations of a cache are made of. -/
inductive Move (asked : List Request) (cache next : Cache Factory Native) : Prop
  | idle (idle : Idle cache next)
  | recount {identity : Identity} {artifact : Artifact Native} {count : Nat}
      (found : cache.artifacts.find? identity = some artifact)
      (positive : 0 < count)
      (artifacts_eq : next.artifacts =
        cache.artifacts.insert identity { artifact with references := count })
      (calls_eq : next.calls = cache.calls)
  | make {identity : Identity} {artifact : Artifact Native} {call : Call Factory Native}
      (made : Made asked identity artifact call)
      (absent : Request.Separate asked → cache.artifacts.find? identity = none)
      (artifacts_eq : next.artifacts = cache.artifacts.insert identity artifact)
      (calls_eq : next.calls = cache.calls ++ [call])
  | destroy {identity : Identity} {artifact : Artifact Native}
      (found : cache.artifacts.find? identity = some artifact)
      (artifacts_eq : next.artifacts = cache.artifacts.erase identity)
      (calls_eq : next.calls = cache.calls ++ [.delete artifact.kind artifact.native])

/-- One move after another. -/
abbrev Moves (asked : List Request) :
    Cache Factory Native → Cache Factory Native → Prop :=
  Relation.ReflTransGen (Move asked)

theorem Made.exists_request {asked : List Request} {identity : Identity}
    {artifact : Artifact Native} {call : Call Factory Native}
    (made : Made asked identity artifact call) :
    ∃ request ∈ asked, request.identity = identity ∧ request.kind = artifact.kind := by
  cases made with
  | object request answer => exact ⟨_, request, rfl, rfl⟩
  | program request components answer => exact ⟨_, request, rfl, rfl⟩

theorem Made.made? {asked : List Request} {identity : Identity} {artifact : Artifact Native}
    {call : Call Factory Native} (made : Made asked identity artifact call) :
    call.made? = some (artifact.kind, artifact.native) := by
  cases made with
  | object request answer => simp [answer]
  | program request components answer => simp [answer]

theorem Made.deleted? {asked : List Request} {identity : Identity} {artifact : Artifact Native}
    {call : Call Factory Native} (made : Made asked identity artifact call) :
    call.deleted? = none := by
  cases made <;> rfl

theorem Made.references {asked : List Request} {identity : Identity}
    {artifact : Artifact Native} {call : Call Factory Native}
    (made : Made asked identity artifact call) : artifact.references = 1 := by
  cases made <;> rfl

theorem Made.mono {fewer asked : List Request} (subset : fewer ⊆ asked) {identity : Identity}
    {artifact : Artifact Native} {call : Call Factory Native}
    (made : Made fewer identity artifact call) : Made asked identity artifact call := by
  cases made with
  | object request answer => exact .object (subset request) answer
  | program request components answer =>
      refine .program (subset request) ?_ answer
      intro member inside
      obtain ⟨component, object, same⟩ := components member inside
      exact ⟨component, subset object, same⟩

theorem Move.mono {fewer asked : List Request} (subset : fewer ⊆ asked)
    {cache next : Cache Factory Native} (move : Move fewer cache next) :
    Move asked cache next := by
  cases move with
  | idle idle => exact .idle idle
  | recount found positive artifacts_eq calls_eq =>
      exact .recount found positive artifacts_eq calls_eq
  | make made absent artifacts_eq calls_eq =>
      exact .make (made.mono subset) (fun separate => absent (separate.of_subset subset))
        artifacts_eq calls_eq
  | destroy found artifacts_eq calls_eq => exact .destroy found artifacts_eq calls_eq

theorem Moves.mono {fewer asked : List Request} (subset : fewer ⊆ asked)
    {cache next : Cache Factory Native} (moves : Moves fewer cache next) :
    Moves asked cache next :=
  Relation.ReflTransGen.mono (fun _ _ move => Move.mono subset move) _ _ moves

theorem Move.exists_calls {asked : List Request} {cache next : Cache Factory Native}
    (move : Move asked cache next) : ∃ calls, next.calls = cache.calls ++ calls := by
  cases move with
  | idle idle =>
      obtain ⟨calls, calls_eq, -⟩ := idle.calls_eq
      exact ⟨calls, calls_eq⟩
  | recount found positive artifacts_eq calls_eq =>
      exact ⟨[], by rw [calls_eq, List.append_nil]⟩
  | make made absent artifacts_eq calls_eq => exact ⟨_, calls_eq⟩
  | destroy found artifacts_eq calls_eq => exact ⟨_, calls_eq⟩

theorem Moves.exists_calls {asked : List Request} {cache next : Cache Factory Native}
    (moves : Moves asked cache next) : ∃ calls, next.calls = cache.calls ++ calls := by
  induction moves with
  | refl => exact ⟨[], (List.append_nil _).symm⟩
  | tail _ move induction =>
      obtain ⟨before, before_eq⟩ := induction
      obtain ⟨last, last_eq⟩ := move.exists_calls
      exact ⟨before ++ last, by rw [last_eq, before_eq, List.append_assoc]⟩

/-- An identity that no request has stays unbound. -/
theorem find?_eq_none_of_moves {asked : List Request} {cache next : Cache Factory Native}
    (moves : Moves asked cache next) {identity : Identity}
    (other : ∀ request ∈ asked, request.identity ≠ identity)
    (absent : cache.artifacts.find? identity = none) :
    next.artifacts.find? identity = none := by
  induction moves with
  | refl => exact absent
  | tail _ move induction =>
      cases move with
      | idle idle => rw [idle.artifacts_eq, induction]
      | recount found positive artifacts_eq calls_eq =>
          rw [artifacts_eq, Table.find?_insert, induction]
          split
          · next same => rw [← same, induction] at found; contradiction
          · rfl
      | make made fresh artifacts_eq calls_eq =>
          obtain ⟨request, member, same, -⟩ := made.exists_request
          rw [artifacts_eq, Table.find?_insert, induction,
            if_neg (same ▸ (other request member).symm)]
      | destroy found artifacts_eq calls_eq =>
          rw [artifacts_eq, Table.find?_erase, induction, ite_self]

/-! ## Operations as moves -/

variable {asked : List Request}

theorem Dropped.move {cache next : Cache Factory Native} {identity : Identity}
    {released : Released} {members : List Identity}
    (dropped : Dropped cache next identity released members) : Move asked cache next := by
  cases dropped with
  | retained found left artifacts_eq calls_eq =>
      exact .recount found left artifacts_eq calls_eq
  | destroyed found last artifacts_eq calls_eq => exact .destroy found artifacts_eq calls_eq

theorem moves_dropAll (cache : Cache Factory Native) (pending : List Identity) :
    Moves asked cache (cache.dropAll pending).1 := by
  fun_induction dropAll cache pending with
  | case1 => exact .refl
  | case2 => exact .refl
  | case3 cache identity rest next released members dropped induction =>
      exact .head (dropped_of_dropReference dropped).move induction

theorem moves_release (cache : Cache Factory Native) (identity : Identity) :
    Moves asked cache (cache.release identity).1 := by
  rw [release]
  split
  · exact .refl
  · next next released members dropped =>
      exact .head (dropped_of_dropReference dropped).move (moves_dropAll next members)

theorem moves_releaseHandles (cache : Cache Factory Native) (handles : List (Handle Native)) :
    Moves asked cache (cache.releaseHandles handles) := by
  induction handles generalizing cache with
  | nil => exact .refl
  | cons handle rest induction =>
      exact (moves_release cache handle.identity).trans (induction _)

theorem Obtained.moves {workshop : Workshop Factory Native} {cache next : Cache Factory Native}
    {component : Component} {options : Options} {handle : Handle Native}
    (request : .object component options ∈ asked)
    (obtained : Obtained workshop cache next component options
      (Request.object component options).identity handle) : Moves asked cache next := by
  cases obtained with
  | hit found artifacts_eq calls_eq =>
      exact .single (.recount found (Nat.succ_pos _) artifacts_eq calls_eq)
  | @compiled factory source unit output native absent provided assembled answer artifacts_eq
      calls_eq =>
      have read : Idle cache (cache.record (.source factory source)) := .record ⟨rfl, rfl⟩
      let call : Call Factory Native := .compile component.stage unit output
      have made : Made asked _ _ call := .object request answer
      refine .head (.idle read) (.single (.make made (fun _ => absent) artifacts_eq ?_))
      rw [calls_eq, record, List.append_assoc, List.singleton_append]

theorem moves_requestObject {workshop : Workshop Factory Native} (cache : Cache Factory Native)
    {component : Component} {options : Options} (request : .object component options ∈ asked) :
    Moves asked cache (requestObject workshop cache component options).1 := by
  cases done : requestObject workshop cache component options with
  | mk next result =>
      rcases requestObject_cases done with ⟨handle, -, obtained⟩ | ⟨-, idle⟩
      · exact obtained.moves request
      · exact .single (.idle idle)

theorem moves_of_requestEach {workshop : Workshop Factory Native}
    {cache next : Cache Factory Native} {options : Options} {components : List Component}
    {handles : List (Handle Native)} {result : Except CacheError Unit}
    (requests : ∀ component ∈ components, .object component options ∈ asked)
    (done : requestEach workshop options cache components = (next, handles, result)) :
    Moves asked cache next := by
  have start : Moves asked cache cache := .refl
  refine holds_of_requestEach (fun last _ => Moves asked cache last) [] (fun _ moves => moves)
    ?_ ?_ start done
  · intro middle last _ idle moves
    exact moves.tail (.idle idle)
  · intro middle last component handle _ listed obtained moves
    exact moves.trans (obtained.moves (requests component listed))

theorem identities_of_requestEach {workshop : Workshop Factory Native}
    {cache next : Cache Factory Native} {options : Options} {components : List Component}
    {handles : List (Handle Native)} {result : Except CacheError Unit}
    (done : requestEach workshop options cache components = (next, handles, result)) :
    ∀ member ∈ handles.map Handle.identity, ∃ component ∈ components,
      (Request.object component options).identity = member := by
  have all := holds_of_requestEach
    (fun _ taken => ∀ member ∈ taken, ∃ component ∈ components,
      (Request.object component options).identity = member) [] ?_ (fun _ listed => listed) ?_
    (List.forall_mem_nil _) done
  · rwa [List.append_nil] at all
  · intro _ first second perm listed member inside
    exact listed member (perm.mem_iff.mpr inside)
  · intro _ _ component handle taken present obtained listed member inside
    rcases List.mem_cons.mp inside with rfl | inside
    · exact ⟨component, present, obtained.identity_eq.symm⟩
    · exact listed member inside

theorem find?_eq_none_of_requestEach {workshop : Workshop Factory Native}
    {cache next : Cache Factory Native} {options : Options} {components : List Component}
    {handles : List (Handle Native)} {result : Except CacheError Unit} {identity : Identity}
    (done : requestEach workshop options cache components = (next, handles, result))
    (other : ∀ component ∈ components, (Request.object component options).identity ≠ identity)
    (absent : cache.artifacts.find? identity = none) :
    next.artifacts.find? identity = none := by
  let taken := components.map (Request.object · options)
  have moves : Moves taken cache next :=
    moves_of_requestEach (fun component listed => List.mem_map_of_mem listed) done
  apply find?_eq_none_of_moves moves ?_ absent
  intro request member
  obtain ⟨component, listed, rfl⟩ := List.mem_map.mp member
  exact other component listed

/-- Taking the objects of a program stores nothing under its identity. -/
theorem program_absent_of_requestEach {workshop : Workshop Factory Native}
    {cache next : Cache Factory Native} {identifier : Text} {options : Options}
    {components : List Component} {handles : List (Handle Native)}
    {result : Except CacheError Unit} (separate : Request.Separate asked)
    (request : .program identifier options ∈ asked)
    (objects : ∀ component ∈ components, .object component options ∈ asked)
    (done : requestEach workshop options cache components = (next, handles, result))
    (absent : cache.artifacts.find? (Request.program identifier options).identity = none) :
    next.artifacts.find? (Request.program identifier options).identity = none := by
  refine find?_eq_none_of_requestEach done ?_ absent
  intro component listed
  exact (separate _ request _ (objects component listed) rfl (by simp [Request.kind])).symm

theorem Answered.moves {workshop : Workshop Factory Native} {cache next : Cache Factory Native}
    {identifier : Text} {options : Options} {result : Except CacheError (Handle Native)}
    (requests : (Request.program identifier options).closure workshop.library ⊆ asked)
    (answered : Answered workshop cache next identifier options
      (Request.program identifier options).identity result) : Moves asked cache next := by
  have own := requests (Request.mem_closure workshop.library _)
  have objects {program : Program}
      (registered : workshop.library.program identifier = .ok program) :
      ∀ component ∈ program.components, .object component options ∈ asked :=
    fun component listed => requests (Request.object_mem_closure registered listed)
  cases answered with
  | hit found artifacts_eq calls_eq =>
      exact .single (.recount found (Nat.succ_pos _) artifacts_eq calls_eq)
  | unknown idle => exact .single (.idle idle)
  | undone registered idle obtained failed given_back =>
      subst given_back
      refine .head (.idle idle) ((moves_of_requestEach (objects registered) obtained).trans ?_)
      exact .head (.idle failed) (moves_releaseHandles _ _)
  | @linked program base middle members output native absent registered idle obtained answer
      artifacts_eq calls_eq =>
      refine .head (.idle idle) ((moves_of_requestEach (objects registered) obtained).tail ?_)
      let call : Call Factory Native := .link identifier (members.map Handle.native) output
      have made : Made asked (Request.program identifier options).identity
          ⟨native, .program, 1, members.map Handle.identity⟩ call := by
        refine .program own ?_ answer
        intro member inside
        obtain ⟨component, listed, same⟩ := identities_of_requestEach obtained member inside
        exact ⟨component, objects registered component listed, same⟩
      refine .make made ?_ artifacts_eq calls_eq
      intro separate
      exact program_absent_of_requestEach separate own (objects registered) obtained
        (idle.artifacts_eq ▸ absent)

theorem moves_resolve {workshop : Workshop Factory Native} (cache : Cache Factory Native)
    {request : Request} (requests : request.closure workshop.library ⊆ asked) :
    Moves asked cache (cache.resolve workshop request).1 := by
  cases request with
  | object component options =>
      exact moves_requestObject cache (requests (Request.mem_closure _ _))
  | program identifier options =>
      exact (requestProgram_cases rfl).moves requests

theorem drained_perm (cache : Cache Factory Native) :
    cache.artifacts.entries.Perm cache.drained := by
  simp only [drained, List.partition_eq_filter_filter]
  exact (List.filter_append_perm _ _).symm

/-- Destroying all artifacts, in whatever order, is a sequence of moves. -/
theorem moves_of_destroying {cache next : Cache Factory Native}
    {entries : List (Identity × Artifact Native)}
    (perm : cache.artifacts.entries.Perm entries)
    (artifacts_eq : next.artifacts = Table.empty)
    (calls_eq : next.calls =
      cache.calls ++ entries.map fun entry => .delete entry.2.kind entry.2.native) :
    Moves asked cache next := by
  induction entries generalizing cache with
  | nil =>
      have nothing : cache.artifacts = Table.empty := by
        apply Table.eq_empty_of_find?_eq_none
        intro key
        simp [Table.find?, perm.eq_nil]
      exact .single (.idle ⟨artifacts_eq.trans nothing.symm, [], calls_eq, by simp⟩)
  | cons entry rest induction =>
      obtain ⟨identity, artifact⟩ := entry
      have member := perm.mem_iff.mpr (List.mem_cons_self (a := (identity, artifact)))
      have found := (Table.mem_entries_iff _ _ _).mp member
      let middle := (cache.discard identity).record (.delete artifact.kind artifact.native)
      have move : Move asked cache middle := .destroy found rfl rfl
      refine .head move (induction ?_ ?_)
      · exact (Table.entries_perm_cons_erase found).symm.trans perm |>.cons_inv
      · rw [calls_eq]
        simp [middle, record, discard]

theorem moves_shutdown (cache : Cache Factory Native) : Moves asked cache cache.shutdown.1 :=
  moves_of_destroying (drained_perm cache) rfl rfl

end Cache

namespace Session

variable [DecidableEq Native]

theorem moves_perform (session : Session Factory Native) (action : Action Factory Native) :
    Cache.Moves (session.perform action).1.asked session.cache
      (session.perform action).1.cache := by
  cases action with
  | resolve request =>
      exact Cache.moves_resolve session.cache (List.subset_append_right _ _)
  | release handle => exact Cache.moves_release session.cache handle.identity
  | shutdown => exact Cache.moves_shutdown session.cache
  | register entry => simpa [perform] using Relation.ReflTransGen.refl
  | load manifest => simpa [perform] using Relation.ReflTransGen.refl

/-- Whatever callers do, the cache goes through moves that answer their requests. -/
theorem moves_run (session : Session Factory Native) (actions : List (Action Factory Native)) :
    Cache.Moves (session.run actions).asked session.cache (session.run actions).cache := by
  induction actions generalizing session with
  | nil => exact .refl
  | cons action rest induction =>
      have first := session.moves_perform action
      exact (first.mono (asked_subset_run _ rest)).trans (induction _)

end Session

end GlslBuild
