import GlslBuild.Proofs.Cache.Attribution

/-!
# Balance of references

The count of an artifact is the number of handles to it that callers hold and of places that it has
in the members of programs. Every operation keeps this balance: what an operation holds for the time
being counts as an owner too.
-/

namespace GlslBuild

variable {Factory Native : Type}

/-- What giving a reference back leads to, by the number of owners that are left. -/
def Released.ofOwners (owners : Nat) : Released :=
  if 0 < owners then .retained owners else .destroyed

namespace Cache

/-- The count of an artifact with so many owners. There is none without owners. -/
def shared (owners : Nat) : Option Nat := if owners = 0 then none else some owners

/-- The count of every artifact is the number of its owners, programs of the cache among them. -/
def Balanced (cache : Cache Factory Native) (owners : List Identity) : Prop :=
  ∀ identity, cache.references? identity =
    shared (owners.count identity + cache.programReferences identity)

theorem some_eq_shared_iff {owners count : Nat} :
    some count = shared owners ↔ count = owners ∧ 0 < owners := by
  rw [shared]
  split
  · simp only [reduceCtorEq, false_iff, not_and]
    omega
  · simp only [Option.some.injEq]
    omega

theorem none_eq_shared_iff {owners : Nat} : none = shared owners ↔ owners = 0 := by
  simp [shared]

theorem references?_congr {cache next : Cache Factory Native}
    (artifacts_eq : next.artifacts = cache.artifacts) (identity : Identity) :
    next.references? identity = cache.references? identity := by
  rw [references?, artifacts_eq, references?]

theorem programReferences_congr {cache next : Cache Factory Native}
    (artifacts_eq : next.artifacts = cache.artifacts) (identity : Identity) :
    next.programReferences identity = cache.programReferences identity := by
  rw [programReferences, artifacts_eq, programReferences]

theorem references?_of_insert {cache next : Cache Factory Native} {identity : Identity}
    {artifact : Artifact Native}
    (artifacts_eq : next.artifacts = cache.artifacts.insert identity artifact)
    (query : Identity) :
    next.references? query =
      if query = identity then some artifact.references else cache.references? query := by
  rw [references?, artifacts_eq, Table.find?_insert]
  split <;> rfl

theorem references?_of_erase {cache next : Cache Factory Native} {identity : Identity}
    (artifacts_eq : next.artifacts = cache.artifacts.erase identity) (query : Identity) :
    next.references? query = if query = identity then none else cache.references? query := by
  rw [references?, artifacts_eq, Table.find?_erase]
  split <;> rfl

/-- The members of an artifact that is there count beside those of the other artifacts. -/
theorem programReferences_of_found {cache : Cache Factory Native} {identity : Identity}
    {artifact : Artifact Native} (found : cache.artifacts.find? identity = some artifact)
    (query : Identity) :
    cache.programReferences query =
      artifact.members.count query + (cache.discard identity).programReferences query := by
  have perm := (Table.entries_perm_cons_erase found).flatMap_right
    fun entry : Identity × Artifact Native => entry.2.members
  rw [programReferences, perm.count_eq, List.flatMap_cons, List.count_append]
  rfl

theorem programReferences_of_insert {cache next : Cache Factory Native} {identity : Identity}
    {artifact : Artifact Native}
    (artifacts_eq : next.artifacts = cache.artifacts.insert identity artifact)
    (query : Identity) :
    next.programReferences query =
      artifact.members.count query + (cache.discard identity).programReferences query := by
  have found : next.artifacts.find? identity = some artifact := by
    simp [artifacts_eq, Table.find?_insert]
  rw [programReferences_of_found found]
  congr 1
  apply programReferences_congr
  simp [artifacts_eq, Table.erase_insert]

theorem balanced_empty : Balanced (empty : Cache Factory Native) [] := by
  intro identity
  rfl

theorem Balanced.congr {cache next : Cache Factory Native} {owners : List Identity}
    (balanced : Balanced cache owners) (artifacts_eq : next.artifacts = cache.artifacts) :
    Balanced next owners := by
  intro identity
  rw [references?_congr artifacts_eq, programReferences_congr artifacts_eq]
  exact balanced identity

theorem Balanced.perm {cache : Cache Factory Native} {owners others : List Identity}
    (balanced : Balanced cache owners) (perm : owners.Perm others) : Balanced cache others := by
  intro identity
  rw [← perm.count_eq]
  exact balanced identity

theorem Balanced.references_eq {cache : Cache Factory Native} {owners : List Identity}
    (balanced : Balanced cache owners) {identity : Identity} {artifact : Artifact Native}
    (found : cache.artifacts.find? identity = some artifact) :
    artifact.references = owners.count identity + cache.programReferences identity := by
  have counted := balanced identity
  rw [references?, found, Option.map_some, some_eq_shared_iff] at counted
  exact counted.1

theorem Balanced.find?_eq_none_iff {cache : Cache Factory Native} {owners : List Identity}
    (balanced : Balanced cache owners) (identity : Identity) :
    cache.artifacts.find? identity = none ↔
      owners.count identity + cache.programReferences identity = 0 := by
  rw [← none_eq_shared_iff, ← balanced identity, references?, eq_comm (a := none),
    Option.map_eq_none_iff]

/-- What has an owner is there. -/
theorem Balanced.exists_artifact {cache : Cache Factory Native} {owners : List Identity}
    (balanced : Balanced cache owners) {identity : Identity} (owned : identity ∈ owners) :
    ∃ artifact, cache.artifacts.find? identity = some artifact := by
  have positive := List.count_pos_iff.mpr owned
  cases found : cache.artifacts.find? identity with
  | none => have := (balanced.find?_eq_none_iff identity).mp found; omega
  | some artifact => exact ⟨artifact, rfl⟩

/-! ## Operations -/

theorem Balanced.retain {cache next : Cache Factory Native} {owners : List Identity}
    (balanced : Balanced cache owners) {identity : Identity} {artifact : Artifact Native}
    (found : cache.artifacts.find? identity = some artifact)
    (artifacts_eq : next.artifacts = cache.artifacts.insert identity artifact.retain) :
    Balanced next (identity :: owners) := by
  have counted := balanced.references_eq found
  intro query
  rw [references?_of_insert artifacts_eq, programReferences_of_insert artifacts_eq,
    Artifact.retain, ← programReferences_of_found found, List.count_cons]
  by_cases same : query = identity
  · subst same
    simp only [↓reduceIte, beq_self_eq_true, some_eq_shared_iff]
    omega
  · simp [same, Ne.symm same, balanced query]

/-- A new artifact takes over the references that its members have. -/
theorem Balanced.install {cache next : Cache Factory Native} {owners : List Identity}
    {identity : Identity} {artifact : Artifact Native}
    (balanced : Balanced cache (artifact.members ++ owners))
    (absent : cache.artifacts.find? identity = none)
    (single : artifact.references = 1)
    (artifacts_eq : next.artifacts = cache.artifacts.insert identity artifact) :
    Balanced next (identity :: owners) := by
  have unowned := (balanced.find?_eq_none_iff identity).mp absent
  have others : (cache.discard identity).artifacts = cache.artifacts :=
    Table.erase_of_find?_eq_none absent
  intro query
  have counted := balanced query
  rw [List.count_append] at unowned counted
  rw [references?_of_insert artifacts_eq, programReferences_of_insert artifacts_eq,
    programReferences_congr others, List.count_cons, single]
  by_cases same : query = identity
  · subst same
    simp only [↓reduceIte, beq_self_eq_true, some_eq_shared_iff]
    omega
  · simp only [same, Ne.symm same, ↓reduceIte, beq_iff_eq, counted]
    congr 1
    omega

/-- An artifact that is destroyed leaves the references to its members behind. -/
theorem Balanced.drop {cache next : Cache Factory Native} {owners : List Identity}
    {identity : Identity} {released : Released} {members : List Identity}
    (balanced : Balanced cache (identity :: owners))
    (dropped : Dropped cache next identity released members) :
    Balanced next (members ++ owners) := by
  cases dropped with
  | @retained artifact found left artifacts_eq calls_eq =>
      have counted := balanced.references_eq found
      intro query
      have before := balanced query
      rw [List.count_cons] at counted before
      rw [references?_of_insert artifacts_eq, programReferences_of_insert artifacts_eq,
        ← programReferences_of_found found, List.nil_append]
      by_cases same : query = identity
      · subst same
        simp only [beq_self_eq_true, ↓reduceIte] at counted
        simp only [↓reduceIte, some_eq_shared_iff]
        omega
      · simpa [same, Ne.symm same] using before
  | @destroyed artifact found last artifacts_eq calls_eq =>
      have counted := balanced.references_eq found
      have others : next.artifacts = (cache.discard identity).artifacts := artifacts_eq
      intro query
      have before := balanced query
      rw [programReferences_of_found found, List.count_cons] at counted before
      rw [references?_of_erase artifacts_eq, programReferences_congr others, List.count_append]
      by_cases same : query = identity
      · subst same
        simp only [beq_self_eq_true, ↓reduceIte] at counted
        simp only [↓reduceIte, none_eq_shared_iff]
        omega
      · simp only [Ne.symm same, beq_iff_eq, ↓reduceIte] at before
        simp only [same, ↓reduceIte, before]
        congr 1
        omega

theorem Balanced.dropAll {cache : Cache Factory Native} {pending owners : List Identity}
    (balanced : Balanced cache (pending ++ owners)) :
    (cache.dropAll pending).2 = .ok () ∧ Balanced (cache.dropAll pending).1 owners := by
  fun_induction Cache.dropAll cache pending with
  | case1 cache => exact ⟨rfl, balanced⟩
  | case2 cache identity rest error refused =>
      have owned : identity ∈ identity :: rest ++ owners := List.mem_cons_self
      obtain ⟨artifact, found⟩ := balanced.exists_artifact owned
      obtain ⟨next, released, members, dropped, -⟩ := exists_dropReference found
      rw [dropped] at refused
      contradiction
  | case3 cache identity rest next released members dropped induction =>
      apply induction
      rw [List.append_assoc]
      exact balanced.drop (dropped_of_dropReference dropped)

/-- An owner can give its reference back, and is told how many owners are left. -/
theorem Balanced.release {cache : Cache Factory Native} {owners : List Identity}
    {identity : Identity} (balanced : Balanced cache (identity :: owners)) :
    (cache.release identity).2 = .ok (Released.ofOwners (owners.count identity +
        (cache.release identity).1.programReferences identity)) ∧
      Balanced (cache.release identity).1 owners := by
  obtain ⟨artifact, found⟩ := balanced.exists_artifact List.mem_cons_self
  obtain ⟨next, released, members, done, dropped⟩ := exists_dropReference found
  have after := balanced.drop dropped
  obtain ⟨succeeded, last⟩ := after.dropAll
  have result : cache.release identity = ((next.dropAll members).1, .ok released) := by
    simp only [Cache.release, done, succeeded, Except.map]
  rw [result]
  refine ⟨?_, last⟩
  cases dropped with
  | @retained other present left artifacts_eq calls_eq =>
      have bound : next.artifacts.find? identity =
          some { other with references := other.references - 1 } := by
        simp [artifacts_eq, Table.find?_insert]
      have counted := after.references_eq bound
      simp only [Cache.dropAll, List.nil_append] at counted ⊢
      rw [← counted, Released.ofOwners, if_pos left]
  | @destroyed other present final artifacts_eq calls_eq =>
      have moves : Moves [] next (next.dropAll other.members).1 := moves_dropAll next other.members
      have gone : (next.dropAll other.members).1.artifacts.find? identity = none := by
        apply find?_eq_none_of_moves moves (by simp)
        simp [artifacts_eq, Table.find?_erase]
      rw [(last.find?_eq_none_iff identity).mp gone]
      rfl

theorem Balanced.releaseHandles {cache : Cache Factory Native} {owners : List Identity}
    {handles : List (Handle Native)}
    (balanced : Balanced cache (handles.map Handle.identity ++ owners)) :
    Balanced (cache.releaseHandles handles) owners := by
  induction handles generalizing cache with
  | nil => exact balanced
  | cons handle rest induction => exact induction balanced.release.2

theorem Balanced.obtain {workshop : Workshop Factory Native} {cache next : Cache Factory Native}
    {owners : List Identity} {component : Component} {options : Options} {identity : Identity}
    {handle : Handle Native} (balanced : Balanced cache owners)
    (obtained : Obtained workshop cache next component options identity handle) :
    Balanced next (handle.identity :: owners) := by
  cases obtained with
  | hit found artifacts_eq calls_eq => exact balanced.retain found artifacts_eq
  | compiled absent provided assembled answer artifacts_eq calls_eq =>
      exact balanced.install absent rfl artifacts_eq

theorem Balanced.requestEach {workshop : Workshop Factory Native}
    {cache next : Cache Factory Native} {owners : List Identity} {options : Options}
    {components : List Component} {handles : List (Handle Native)}
    {result : Except CacheError Unit} (balanced : Balanced cache owners)
    (done : requestEach workshop options cache components = (next, handles, result)) :
    Balanced next (handles.map Handle.identity ++ owners) := by
  refine holds_of_requestEach Balanced owners ?_ ?_ ?_ balanced done
  · intro _ first second perm balanced
    exact balanced.perm perm
  · intro _ _ _ idle balanced
    exact balanced.congr idle.artifacts_eq
  · intro _ _ component handle _ _ obtained balanced
    exact balanced.obtain obtained

/-- A request that is answered adds an owner, and one that is not changes nothing in the balance. -/
theorem Balanced.resolve {workshop : Workshop Factory Native} {cache : Cache Factory Native}
    {owners : List Identity} {request : Request} (balanced : Balanced cache owners)
    (separate : Request.Separate (request.closure workshop.library)) :
    Balanced (cache.resolve workshop request).1
      ((cache.resolve workshop request).2.toOption.toList.map Handle.identity ++ owners) := by
  cases done : cache.resolve workshop request with
  | mk next result =>
      cases request with
      | object component options =>
          rcases requestObject_cases done with ⟨handle, rfl, obtained⟩ | ⟨⟨error, rfl⟩, idle⟩
          · exact balanced.obtain obtained
          · exact balanced.congr idle.artifacts_eq
      | program identifier options =>
          have answered := requestProgram_cases done
          cases answered with
          | hit found artifacts_eq calls_eq => exact balanced.retain found artifacts_eq
          | unknown idle => exact balanced.congr idle.artifacts_eq
          | undone registered idle obtained failed given_back =>
              have taken := (balanced.congr idle.artifacts_eq).requestEach obtained
              subst given_back
              exact (taken.congr failed.artifacts_eq).releaseHandles
          | linked absent registered idle obtained answer artifacts_eq calls_eq =>
              have taken := (balanced.congr idle.artifacts_eq).requestEach obtained
              refine taken.install ?_ rfl artifacts_eq
              exact program_absent_of_requestEach separate (Request.mem_closure _ _)
                (fun component listed => Request.object_mem_closure registered listed) obtained
                (idle.artifacts_eq ▸ absent)

/-- What is there without an owner outside is a member of something that is there. -/
theorem Balanced.exists_holder {cache : Cache Factory Native} (balanced : Balanced cache [])
    {identity : Identity} {artifact : Artifact Native}
    (found : cache.artifacts.find? identity = some artifact) :
    ∃ holder program, cache.artifacts.find? holder = some program ∧
      identity ∈ program.members := by
  have counted := balanced.references_eq found
  have present := balanced.find?_eq_none_iff identity
  rw [found, List.count_nil, Nat.zero_add] at present
  have positive : 0 < cache.programReferences identity := by
    apply Nat.pos_of_ne_zero
    intro zero
    exact absurd (present.mpr zero) (by simp)
  rw [programReferences, List.count_pos_iff] at positive
  obtain ⟨⟨holder, program⟩, entry, member⟩ := List.mem_flatMap.mp positive
  exact ⟨holder, program, (Table.mem_entries_iff _ _ _).mp entry, member⟩

/-- Without owners outside nothing is there: only programs have members, and no program is one. -/
theorem Balanced.artifacts_eq_empty {asked : List Request} {cache : Cache Factory Native}
    (balanced : Balanced cache [])
    (attributed : ∀ identity artifact, cache.artifacts.find? identity = some artifact →
      Attributed asked identity artifact)
    (separate : Request.Separate asked) : cache.artifacts = Table.empty := by
  apply Table.eq_empty_of_find?_eq_none
  intro identity
  cases found : cache.artifacts.find? identity with
  | none => rfl
  | some artifact =>
      obtain ⟨holder, program, holder_found, member⟩ := balanced.exists_holder found
      obtain ⟨other, container, other_found, holder_member⟩ := balanced.exists_holder holder_found
      have holder_kind : program.kind = .program := by
        by_contra object
        have no_members := (attributed holder program holder_found).members_of_object object
        rw [no_members] at member
        contradiction
      exact absurd holder_member
        (notMem_members_of_program attributed separate holder_found holder_kind other_found)

end Cache

namespace Session

variable [DecidableEq Native]

/-- The references to the artifact of an identity: those of the handles that callers hold, and those
of the programs that it is a member of. -/
def owed (session : Session Factory Native) (identity : Identity) : Nat :=
  (session.held.map Handle.identity).count identity + session.cache.programReferences identity

theorem balanced_perform {session : Session Factory Native} {action : Action Factory Native}
    (balanced : Cache.Balanced session.cache (session.held.map Handle.identity))
    (permitted : session.Permits action)
    (separate : Request.Separate (session.perform action).1.asked) :
    Cache.Balanced (session.perform action).1.cache
      ((session.perform action).1.held.map Handle.identity) := by
  cases action with
  | resolve request =>
      have taken := balanced.resolve (separate.of_subset (List.subset_append_right _ _))
      simpa only [perform, List.map_append] using taken
  | release handle =>
      have held := (List.perm_cons_erase permitted).map Handle.identity
      exact (balanced.perm held).release.2
  | shutdown => exact Cache.balanced_empty.congr rfl
  | register entry => simpa [perform] using balanced
  | load manifest => simpa [perform] using balanced

/-- In a disciplined session the count of every artifact is the number of its owners. -/
theorem balanced_run {session : Session Factory Native} {actions : List (Action Factory Native)}
    (balanced : Cache.Balanced session.cache (session.held.map Handle.identity))
    (disciplined : session.Disciplined actions)
    (separate : Request.Separate (session.run actions).asked) :
    Cache.Balanced (session.run actions).cache
      ((session.run actions).held.map Handle.identity) := by
  induction actions generalizing session with
  | nil => exact balanced
  | cons action rest induction =>
      obtain ⟨permitted, continued⟩ := disciplined
      have so_far := separate.of_subset (asked_subset_run (session.perform action).1 rest)
      exact induction (balanced_perform balanced permitted so_far) continued separate

/-- After a disciplined session of any length, an artifact is there exactly when it is owed
references, and its count is their number. So a handle can always be given back, and the artifact is
destroyed when nothing is owed any more. Nothing is left once callers hold nothing. -/
theorem references_eq_owed (workshop : Workshop Factory Native)
    (actions : List (Action Factory Native))
    (disciplined : (start workshop).Disciplined actions)
    (distinct : Request.Distinct ((start workshop).run actions).asked) :
    let session := (start workshop).run actions
    (∀ identity,
      (session.cache.artifacts.contains identity = true ↔ 0 < session.owed identity) ∧
        ∀ artifact, session.cache.artifacts.find? identity = some artifact →
          artifact.references = session.owed identity ∧
            (artifact.kind ≠ .program → artifact.members = [])) ∧
      (∀ handle ∈ session.held,
        (session.perform (.release handle)).2 = .released (.ok (Released.ofOwners
          ((session.perform (.release handle)).1.owed handle.identity)))) ∧
      (session.held = [] → session.cache.artifacts = Table.empty) := by
  intro session
  have separate := distinct.separate
  have attributed := Cache.attributed_run workshop actions
  have balanced : Cache.Balanced session.cache (session.held.map Handle.identity) :=
    balanced_run Cache.balanced_empty disciplined separate
  refine ⟨?_, ?_, ?_⟩
  · intro identity
    have absent := balanced.find?_eq_none_iff identity
    constructor
    · rw [Table.contains, Option.isSome_iff_ne_none, ne_eq, absent, ← ne_eq, Nat.pos_iff_ne_zero]
      rfl
    · intro artifact found
      exact ⟨balanced.references_eq found, (attributed identity artifact found).members_of_object⟩
  · intro handle held
    have owned := (List.perm_cons_erase held).map Handle.identity
    have released := (balanced.perm owned).release.1
    simp only [perform, released]
    rfl
  · intro nothing_held
    rw [nothing_held] at balanced
    exact balanced.artifacts_eq_empty attributed separate

/-- A program that lists an object twice and an object of its own right share their artifacts. -/
theorem references_eq_owed_shared :
    let lamp : Handle Nat :=
      ⟨(Sample.object .vertex Sample.lamp).identity, .object .vertex, 1⟩
    let actions : List (Action Unit Nat) :=
      [.resolve (Sample.program Sample.scene), .resolve (Sample.object .vertex Sample.lamp)]
    let session := (start Sample.workshop).run actions
    (start Sample.workshop).Disciplined actions ∧ Request.Distinct session.asked ∧
      lamp ∈ session.held ∧
      (session.perform (.release lamp)).2 = .released (.ok (Released.ofOwners
        ((session.perform (.release lamp)).1.owed lamp.identity))) := by
  intro lamp actions session
  have disciplined : (start Sample.workshop).Disciplined actions := by decide +kernel
  have requested : session.asked ⊆ Sample.requests := by decide +kernel
  have held : lamp ∈ session.held := by decide +kernel
  have distinct := Sample.distinct_requests.of_subset requested
  have counted := references_eq_owed Sample.workshop actions disciplined distinct
  exact ⟨disciplined, distinct, held, counted.2.1 lamp held⟩

end Session

end GlslBuild
