import GlslBuild.Proofs.Cache.Balance
import GlslBuild.Proofs.Cache.Fleet

/-!
# Cascades that fail

A program that is destroyed gives back its references to its members, one after the other, up to the
first member that is gone. As a cache takes any handle for one of its own, members may be gone
before the program. So the program is deleted although giving it back fails, and the members behind
the one that is gone keep references that no one can give back.
-/

namespace GlslBuild

variable {Index Factory Native : Type}

namespace Cache

/-! ## Giving back more than there is -/

/-- The number of references to what is kept under an identity, which is zero if nothing is. -/
def referencesTo (cache : Cache Factory Native) (identity : Identity) : Nat :=
  (cache.references? identity).getD 0

/-- Some identity stands in the list more often than there are references to what is kept under
it. -/
def Lacks (cache : Cache Factory Native) (pending : List Identity) : Prop :=
  ∃ identity ∈ pending, cache.referencesTo identity < pending.count identity

/-- What is kept under these identities is referred to and has no members. -/
def Plain (cache : Cache Factory Native) (pending : List Identity) : Prop :=
  ∀ identity ∈ pending, ∀ artifact, cache.artifacts.find? identity = some artifact →
    0 < artifact.references ∧ artifact.members = []

theorem not_lacks_nil (cache : Cache Factory Native) : ¬cache.Lacks [] := by
  simp [Lacks]

theorem referencesTo_of_found {cache : Cache Factory Native} {identity : Identity}
    {artifact : Artifact Native} (found : cache.artifacts.find? identity = some artifact) :
    cache.referencesTo identity = artifact.references := by
  rw [referencesTo, references?, found]
  rfl

theorem referencesTo_of_absent {cache : Cache Factory Native} {identity : Identity}
    (absent : cache.artifacts.find? identity = none) : cache.referencesTo identity = 0 := by
  rw [referencesTo, references?, absent]
  rfl

theorem referencesTo_of_erase {cache next : Cache Factory Native} {identity query : Identity}
    (artifacts_eq : next.artifacts = cache.artifacts.erase identity) (other : query ≠ identity) :
    next.referencesTo query = cache.referencesTo query := by
  rw [referencesTo, references?_of_erase artifacts_eq, if_neg other, referencesTo]

theorem Dropped.referencesTo_eq {cache next : Cache Factory Native} {identity : Identity}
    {released : Released} {members : List Identity}
    (dropped : Dropped cache next identity released members) (query : Identity) :
    next.referencesTo query =
      if query = identity then cache.referencesTo query - 1 else cache.referencesTo query := by
  cases dropped with
  | retained found left artifacts_eq =>
      rw [referencesTo, references?_of_insert artifacts_eq]
      split
      · next same => rw [same, referencesTo_of_found found, Option.getD_some]
      · rfl
  | destroyed found last artifacts_eq =>
      rw [referencesTo, references?_of_erase artifacts_eq]
      split
      · next same => rw [same, referencesTo_of_found found, last, Option.getD_none]
      · rfl

theorem Plain.drop {cache next : Cache Factory Native} {identity : Identity} {rest : List Identity}
    {released : Released} {members : List Identity} (plain : cache.Plain (identity :: rest))
    (dropped : Dropped cache next identity released members) :
    members = [] ∧ next.Plain rest := by
  cases dropped with
  | retained found left artifacts_eq =>
      refine ⟨rfl, fun query member artifact bound => ?_⟩
      rw [artifacts_eq, Table.find?_insert] at bound
      split at bound
      · obtain rfl := Option.some.inj bound
        exact ⟨left, (plain identity List.mem_cons_self _ found).2⟩
      · exact plain query (List.mem_cons_of_mem _ member) artifact bound
  | destroyed found last artifacts_eq =>
      refine ⟨(plain identity List.mem_cons_self _ found).2, fun query member artifact bound => ?_⟩
      rw [artifacts_eq, Table.find?_erase] at bound
      split at bound
      · contradiction
      · exact plain query (List.mem_cons_of_mem _ member) artifact bound

/-- One reference less is there, and one less is to be given back. -/
theorem Dropped.lacks_iff {cache next : Cache Factory Native} {identity : Identity}
    {released : Released} {members : List Identity}
    (dropped : Dropped cache next identity released members)
    (present : 0 < cache.referencesTo identity) (rest : List Identity) :
    next.Lacks rest ↔ cache.Lacks (identity :: rest) := by
  constructor
  · rintro ⟨query, member, short⟩
    refine ⟨query, List.mem_cons_of_mem identity member, ?_⟩
    rw [dropped.referencesTo_eq] at short
    rw [List.count_cons]
    split at short
    · next same =>
        rw [if_pos (by simp [same])]
        omega
    · omega
  · rintro ⟨query, member, short⟩
    rw [List.count_cons] at short
    by_cases same : query = identity
    · subst same
      rw [if_pos (beq_self_eq_true query)] at short
      have among : query ∈ rest := List.count_pos_iff.mp (by omega)
      refine ⟨query, among, ?_⟩
      rw [dropped.referencesTo_eq, if_pos rfl]
      omega
    · rw [if_neg (by simp [Ne.symm same]), Nat.add_zero] at short
      refine ⟨query, (List.mem_cons.mp member).resolve_left same, ?_⟩
      rwa [dropped.referencesTo_eq, if_neg same]

/-- References to artifacts without members can be given back in a row exactly if there are as
many. -/
theorem dropAll_eq_ok_iff {cache : Cache Factory Native} {pending : List Identity}
    (plain : cache.Plain pending) : (cache.dropAll pending).2 = .ok () ↔ ¬cache.Lacks pending := by
  induction pending generalizing cache with
  | nil => simp [dropAll, not_lacks_nil]
  | cons identity rest induction =>
      cases found : cache.artifacts.find? identity with
      | none =>
          have refused : cache.dropReference identity = .error (.unknownArtifact identity) := by
            rw [dropReference, found]
          have lacking : cache.Lacks (identity :: rest) := by
            refine ⟨identity, List.mem_cons_self, ?_⟩
            rw [referencesTo_of_absent found]
            exact List.count_pos_iff.mpr List.mem_cons_self
          rw [dropAll_cons_of_error rest refused]
          exact iff_of_false (by simp) (not_not_intro lacking)
      | some artifact =>
          obtain ⟨next, released, members, done, dropped⟩ := exists_dropReference found
          obtain ⟨rfl, next_plain⟩ := plain.drop dropped
          have present : 0 < cache.referencesTo identity := by
            rw [referencesTo_of_found found]
            exact (plain identity List.mem_cons_self artifact found).1
          rw [dropAll_cons_of_ok rest done, List.nil_append, induction next_plain,
            dropped.lacks_iff present]

/-! ## Releases -/

/-- With its last reference an artifact is taken away, and its members' references are given
back. -/
theorem exists_of_release_last {cache : Cache Factory Native} {identity : Identity}
    {artifact : Artifact Native} (found : cache.artifacts.find? identity = some artifact)
    (single : artifact.references = 1) :
    ∃ next : Cache Factory Native, next.artifacts = cache.artifacts.erase identity ∧
      cache.release identity =
        ((next.dropAll artifact.members).1,
          (next.dropAll artifact.members).2.map fun _ => .destroyed) := by
  obtain ⟨next, released, members, done, dropped⟩ := exists_dropReference found
  cases dropped with
  | retained present left =>
      obtain rfl := Option.some.inj (found.symm.trans present)
      omega
  | destroyed present last artifacts_eq =>
      obtain rfl := Option.some.inj (found.symm.trans present)
      exact ⟨next, artifacts_eq, by simp only [release, done]⟩

theorem artifacts_release_last {cache : Cache Factory Native} {identity : Identity}
    {artifact : Artifact Native} (found : cache.artifacts.find? identity = some artifact)
    (single : artifact.references = 1) (bare : artifact.members = []) :
    (cache.release identity).1.artifacts = cache.artifacts.erase identity := by
  obtain ⟨next, artifacts_eq, released⟩ := exists_of_release_last found single
  rw [released, bare, dropAll, artifacts_eq]

/-- Objects have no members, and neither do the members of programs. -/
theorem plain_members {asked : List Request} {cache next : Cache Factory Native}
    (attributed : ∀ identity artifact, cache.artifacts.find? identity = some artifact →
      Attributed asked identity artifact)
    (separate : Request.Separate asked) {identity : Identity} {artifact : Artifact Native}
    (found : cache.artifacts.find? identity = some artifact)
    (artifacts_eq : next.artifacts = cache.artifacts.erase identity) :
    next.Plain artifact.members := by
  intro member inside kept kept_found
  rw [artifacts_eq, Table.find?_erase] at kept_found
  split at kept_found
  · contradiction
  · have answers := attributed member kept kept_found
    obtain ⟨first, first_asked, first_same, first_kind⟩ := answers.request
    obtain ⟨second, second_asked, second_same, second_kind⟩ :=
      (attributed identity artifact found).members_asked member inside
    have object : kept.kind ≠ .program := by
      intro program
      exact separate first first_asked second second_asked (first_kind.trans program) second_kind
        (first_same.trans second_same.symm)
    exact ⟨answers.referenced, answers.members_of_object object⟩

theorem notMem_own_members {asked : List Request} {cache : Cache Factory Native}
    (attributed : ∀ identity artifact, cache.artifacts.find? identity = some artifact →
      Attributed asked identity artifact)
    (separate : Request.Separate asked) {identity : Identity} {artifact : Artifact Native}
    (found : cache.artifacts.find? identity = some artifact) : identity ∉ artifact.members := by
  by_cases program : artifact.kind = .program
  · exact notMem_members_of_program attributed separate found program found
  · rw [(attributed identity artifact found).members_of_object program]
    exact List.not_mem_nil

theorem lacks_of_erase {cache next : Cache Factory Native} {identity : Identity}
    {pending : List Identity} (artifacts_eq : next.artifacts = cache.artifacts.erase identity)
    (absent : identity ∉ pending) : next.Lacks pending ↔ cache.Lacks pending := by
  refine exists_congr fun query => and_congr_right fun member => ?_
  have other : query ≠ identity := by
    rintro rfl
    exact absent member
  rw [referencesTo_of_erase artifacts_eq other]

/-- An artifact whose last reference is given back fails to be released exactly if a member of it
has fewer references than it holds. -/
theorem release_last_eq_error_iff {asked : List Request} {cache : Cache Factory Native}
    (attributed : ∀ identity artifact, cache.artifacts.find? identity = some artifact →
      Attributed asked identity artifact)
    (separate : Request.Separate asked) {identity : Identity} {artifact : Artifact Native}
    (found : cache.artifacts.find? identity = some artifact) (single : artifact.references = 1) :
    (∃ error, (cache.release identity).2 = .error error) ↔ cache.Lacks artifact.members := by
  obtain ⟨next, artifacts_eq, released⟩ := exists_of_release_last found single
  have given := dropAll_eq_ok_iff (plain_members attributed separate found artifacts_eq)
  rw [lacks_of_erase artifacts_eq (notMem_own_members attributed separate found)] at given
  rw [released]
  cases result : (next.dropAll artifact.members).2 with
  | error error =>
      rw [result] at given
      exact iff_of_true ⟨error, rfl⟩ (not_not.mp fun enough => nomatch given.mpr enough)
  | ok done =>
      rw [result] at given
      exact iff_of_false (fun ⟨error, failed⟩ => nomatch failed) (given.mp rfl)

/-- With its last reference only a program can fail to be released. -/
theorem kind_of_release_last_eq_error {asked : List Request} {cache : Cache Factory Native}
    {identity : Identity} {artifact : Artifact Native}
    (attributed : Attributed asked identity artifact)
    (found : cache.artifacts.find? identity = some artifact) (single : artifact.references = 1)
    {error : CacheError} (failed : (cache.release identity).2 = .error error) :
    artifact.kind = .program := by
  by_contra object
  obtain ⟨next, -, released⟩ := exists_of_release_last found single
  rw [released, attributed.members_of_object object, dropAll] at failed
  contradiction

/-- A release that fails has done nothing, or it has deleted a program. -/
theorem release_eq_error_cases {asked : List Request} {cache : Cache Factory Native}
    (attributed : ∀ identity artifact, cache.artifacts.find? identity = some artifact →
      Attributed asked identity artifact)
    {identity : Identity} {error : CacheError}
    (failed : (cache.release identity).2 = .error error) :
    (cache.artifacts.find? identity = none ∧ error = .unknownArtifact identity ∧
      (cache.release identity).1 = cache) ∨
    ∃ program, cache.artifacts.find? identity = some program ∧ program.kind = .program ∧
      program.references = 1 ∧ (cache.release identity).1.artifacts.find? identity = none ∧
      ∃ calls, (cache.release identity).1.calls =
        cache.calls ++ .deleteProgram program.native :: calls := by
  cases found : cache.artifacts.find? identity with
  | none =>
      rw [release_of_find?_eq_none found] at failed ⊢
      exact .inl ⟨rfl, (Except.error.inj failed).symm, rfl⟩
  | some artifact =>
      have answers := attributed identity artifact found
      rcases Nat.eq_or_lt_of_le answers.referenced with single | further
      · have program := kind_of_release_last_eq_error answers found single.symm failed
        obtain ⟨gone, deleted⟩ := release_of_eq_one found single.symm
        rw [program] at deleted
        exact .inr ⟨artifact, rfl, program, single.symm, gone, deleted⟩
      · rw [(release_of_one_lt found further).1] at failed
        contradiction

/-- A release fails exactly if nothing is kept under the identity, or if what is kept there goes
with it and a member of it has fewer references than it holds. -/
theorem release_eq_error_iff {asked : List Request} {cache : Cache Factory Native}
    (attributed : ∀ identity artifact, cache.artifacts.find? identity = some artifact →
      Attributed asked identity artifact)
    (separate : Request.Separate asked) (identity : Identity) :
    (∃ error, (cache.release identity).2 = .error error) ↔
      cache.artifacts.find? identity = none ∨
      ∃ program, cache.artifacts.find? identity = some program ∧ program.references = 1 ∧
        cache.Lacks program.members := by
  cases found : cache.artifacts.find? identity with
  | none =>
      rw [release_of_find?_eq_none found]
      exact iff_of_true ⟨_, rfl⟩ (.inl rfl)
  | some artifact =>
      simp only [reduceCtorEq, Option.some.injEq, exists_eq_left', false_or]
      rcases Nat.eq_or_lt_of_le (attributed identity artifact found).referenced with
        single | further
      · rw [release_last_eq_error_iff attributed separate found single.symm]
        exact (and_iff_right single.symm).symm
      · rw [(release_of_one_lt found further).1]
        refine iff_of_false (by simp) fun last => ?_
        omega

end Cache

namespace Fleet

variable [DecidableEq Index] [DecidableEq Native]

/-- A cache deletes an object of its program for a ticket of another cache. From then on its program
lacks the object. -/
theorem lacks_after_foreign_ticket :
    let lamp := Sample.object .fragment Sample.lamp
    let scene := Sample.program Sample.scene
    let foreign : Ticket Bool Nat := ⟨true, 0, ⟨lamp.identity, lamp.kind, 1⟩⟩
    let own : Ticket Bool Nat := ⟨false, 0, ⟨scene.identity, .program, 4⟩⟩
    let fleet := start.run (fun _ => Sample.workshop)
      [.resolve true lamp, .resolve false scene, .release false foreign]
    own ∈ fleet.held ∧ Request.Distinct (fleet.recent false) ∧
      ∃ members, (fleet.cache false).artifacts.find? scene.identity =
        some ⟨4, .program, 1, members⟩ ∧ (fleet.cache false).Lacks members := by
  intro lamp scene foreign own fleet
  let earlier : Fleet Bool Unit Nat :=
    start.run (fun _ => Sample.workshop) [.resolve true lamp, .resolve false scene]
  let members := [(Sample.object .vertex Sample.lamp).identity, lamp.identity,
    (Sample.object .vertex Sample.lamp).identity]
  obtain ⟨lamp_found, scene_found, held, asked⟩ :
      (earlier.cache false).artifacts.find? lamp.identity = some ⟨3, lamp.kind, 1, []⟩ ∧
        (earlier.cache false).artifacts.find? scene.identity = some ⟨4, .program, 1, members⟩ ∧
        own ∈ fleet.held ∧ fleet.recent false ⊆ Sample.requests := by
    decide +kernel
  have other : scene.identity ≠ lamp.identity := by
    intro same
    have scene_listed : scene ∈ Sample.requests := by simp [scene, Sample.requests]
    have lamp_listed : lamp ∈ Sample.requests := by simp [lamp, Sample.requests]
    have equal := Sample.distinct_requests scene scene_listed lamp lamp_listed same
    exact nomatch equal
  have fleet_eq : fleet.cache false = ((earlier.cache false).release lamp.identity).1 := by
    have last : fleet =
        (earlier.perform (fun _ => Sample.workshop) (.release false foreign)).1 := rfl
    simp [last, perform, foreign]
  have artifacts_eq : (fleet.cache false).artifacts =
      (earlier.cache false).artifacts.erase lamp.identity := by
    rw [fleet_eq, Cache.artifacts_release_last lamp_found rfl rfl]
  have found : (fleet.cache false).artifacts.find? scene.identity =
      some ⟨4, .program, 1, members⟩ := by
    rw [artifacts_eq, Table.find?_erase, if_neg other, scene_found]
  have lacking : (fleet.cache false).Lacks members := by
    have among : lamp.identity ∈ members := List.mem_cons_of_mem _ List.mem_cons_self
    refine ⟨lamp.identity, among, ?_⟩
    rw [Cache.referencesTo_of_absent (by rw [artifacts_eq, Table.find?_erase, if_pos rfl])]
    exact List.count_pos_iff.mpr among
  exact ⟨held, Sample.distinct_requests.of_subset asked, members, found, lacking⟩

/-- Whatever callers did before, a release that fails has left the cache as it was, because there is
nothing under the identity, or it has deleted the program that is there. The second happens, as long
as different requests to the cache since its last shutdown have different identities, exactly if the
program has no further reference and some member has fewer than the program holds. -/
theorem release_fails_iff (workshop : Index → Workshop Factory Native)
    (actions : List (Action Index Native)) (index : Index) (ticket : Ticket Index Native) :
    let fleet := start.run workshop actions
    let identity := ticket.handle.identity
    let outcome := fleet.perform workshop (.release index ticket)
    let before := fleet.cache index
    let after := outcome.1.cache index
    (∀ error, outcome.2 = .released (.error error) →
      (before.artifacts.find? identity = none ∧ error = .unknownArtifact identity ∧
        after = before) ∨
      ∃ program, before.artifacts.find? identity = some program ∧ program.kind = .program ∧
        program.references = 1 ∧ after.artifacts.find? identity = none ∧
        ∃ calls, after.calls = before.calls ++ .deleteProgram program.native :: calls) ∧
    (Request.Distinct (fleet.recent index) →
      ((∃ error, outcome.2 = .released (.error error)) ↔
        before.artifacts.find? identity = none ∨
        ∃ program, before.artifacts.find? identity = some program ∧ program.references = 1 ∧
          before.Lacks program.members)) := by
  intro fleet identity outcome before after
  have attributed : ∀ identity artifact, before.artifacts.find? identity = some artifact →
      Cache.Attributed (fleet.recent index) identity artifact :=
    attributed_run workshop actions index
  have after_eq : after = (before.release identity).1 := by
    simp [after, outcome, before, identity, perform]
  have reply_iff (error : CacheError) :
      outcome.2 = .released (.error error) ↔ (before.release identity).2 = .error error :=
    ⟨fun same => Reply.released.inj same, congrArg Reply.released⟩
  simp only [reply_iff, after_eq]
  exact ⟨fun error failed => Cache.release_eq_error_cases attributed failed,
    fun distinct => Cache.release_eq_error_iff attributed distinct.separate identity⟩

/-- A program lacks an object. Giving its last reference back fails, and deletes it all the same. -/
theorem release_fails_iff_scene :
    let workshop : Bool → Workshop Unit Nat := fun _ => Sample.workshop
    let lamp := Sample.object .fragment Sample.lamp
    let scene := Sample.program Sample.scene
    let foreign : Ticket Bool Nat := ⟨true, 0, ⟨lamp.identity, lamp.kind, 1⟩⟩
    let own : Ticket Bool Nat := ⟨false, 0, ⟨scene.identity, .program, 4⟩⟩
    let fleet := start.run workshop
      [.resolve true lamp, .resolve false scene, .release false foreign]
    let outcome := fleet.perform workshop (.release false own)
    Request.Distinct (fleet.recent false) ∧
      (∃ error, outcome.2 = .released (.error error)) ∧
      (outcome.1.cache false).artifacts.find? scene.identity = none := by
  intro workshop lamp scene foreign own fleet outcome
  obtain ⟨-, distinct, members, found, lacking⟩ := lacks_after_foreign_ticket
  obtain ⟨cases_of_error, fails_iff⟩ := release_fails_iff workshop
    [.resolve true lamp, .resolve false scene, .release false foreign] false own
  obtain ⟨error, failed⟩ := (fails_iff distinct).mpr (.inr ⟨_, found, rfl, lacking⟩)
  refine ⟨distinct, ⟨error, failed⟩, ?_⟩
  rcases cases_of_error error failed with ⟨absent, -⟩ | ⟨program, -, -, -, gone, -⟩
  · exact absurd (found.symm.trans absent) (Option.some_ne_none _)
  · exact gone

/-- A cache deletes an object of its program for a ticket of another cache. When the program's own
ticket is given back, the program is deleted as well, and the answer is an error. -/
theorem release_fails_after_deletion :
    let workshop : Bool → Workshop Unit Nat := fun _ => Sample.workshop
    let lamp := Sample.object .fragment Sample.lamp
    let scene := Sample.program Sample.scene
    let foreign : Ticket Bool Nat := ⟨true, 0, ⟨lamp.identity, lamp.kind, 1⟩⟩
    let own : Ticket Bool Nat := ⟨false, 0, ⟨scene.identity, .program, 4⟩⟩
    let fleet := start.run workshop
      [.resolve true lamp, .resolve false scene, .release false foreign]
    let outcome := fleet.perform workshop (.release false own)
    own ∈ fleet.held ∧ fleet.Issued false own ∧
      (∃ error, outcome.2 = .released (.error error)) ∧
      (outcome.1.cache false).artifacts ≠ (fleet.cache false).artifacts ∧
      ∃ calls, (outcome.1.cache false).calls =
        (fleet.cache false).calls ++ .deleteProgram 4 :: calls := by
  intro workshop lamp scene foreign own fleet outcome
  obtain ⟨held, distinct, members, found, lacking⟩ := lacks_after_foreign_ticket
  have after_eq : outcome.1.cache false = ((fleet.cache false).release scene.identity).1 := by
    simp [outcome, perform, own]
  obtain ⟨error, failed⟩ := (Cache.release_last_eq_error_iff
    (attributed_run workshop _ false) distinct.separate found rfl).mpr lacking
  obtain ⟨gone, deleted⟩ := Cache.release_of_eq_one found rfl
  rw [after_eq]
  have answered : outcome.2 = .released (.error error) := congrArg Reply.released failed
  refine ⟨held, ⟨rfl, rfl⟩, ⟨error, answered⟩, ?_, deleted⟩
  intro same
  rw [same, found] at gone
  exact Option.some_ne_none _ gone

end Fleet

end GlslBuild
