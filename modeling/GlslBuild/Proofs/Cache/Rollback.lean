import GlslBuild.Proofs.Cache.Attribution
import GlslBuild.Proofs.Cache.Ledger

/-!
# Requests that fail

While a program is made, references to its objects are taken. What is there gets a higher count, and
what is not there is made. Giving the references back undoes both, in whatever order they were
taken and however often an object is listed.
-/

namespace GlslBuild

namespace Cache

variable {Factory Native : Type}

/-- How the place of an identity changes when so many references are taken to it. -/
inductive Raised : Option (Artifact Native) → Nat → Option (Artifact Native) → Prop
  | absent : Raised none 0 none
  | added {artifact : Artifact Native} {count : Nat} (counted : artifact.references = count)
      (referenced : 0 < count) (no_members : artifact.members = []) :
      Raised none count (some artifact)
  | kept {artifact : Artifact Native} (referenced : 0 < artifact.references) (count : Nat) :
      Raised (some artifact) count
        (some { artifact with references := artifact.references + count })

namespace Raised

theorem refl {before : Option (Artifact Native)}
    (referenced : ∀ artifact, before = some artifact → 0 < artifact.references) :
    Raised before 0 before := by
  cases before with
  | none => exact .absent
  | some artifact => exact .kept (referenced artifact rfl) 0

theorem unchanged {before after : Option (Artifact Native)} (raised : Raised before 0 after) :
    after = before := by
  cases raised with
  | absent => rfl
  | added counted referenced no_members => contradiction
  | kept referenced => rfl

theorem retain {before : Option (Artifact Native)} {count : Nat} {artifact : Artifact Native}
    (raised : Raised before count (some artifact)) :
    Raised before (count + 1) (some artifact.retain) := by
  cases raised with
  | added counted referenced no_members =>
      exact .added (congrArg (· + 1) counted) (Nat.succ_pos count) no_members
  | kept referenced => exact .kept referenced (count + 1)

theorem make {before : Option (Artifact Native)} {count : Nat} (raised : Raised before count none)
    {artifact : Artifact Native} (single : artifact.references = 1)
    (no_members : artifact.members = []) :
    Raised before (count + 1) (some artifact) := by
  cases raised with
  | absent => exact .added single Nat.one_pos no_members

/-- What was taken is there. -/
theorem exists_artifact {before after : Option (Artifact Native)} {count : Nat}
    (raised : Raised before (count + 1) after) : ∃ artifact, after = some artifact := by
  cases raised with
  | added => exact ⟨_, rfl⟩
  | kept => exact ⟨_, rfl⟩

/-- A reference that is not the last one can be given back. -/
theorem lower {before : Option (Artifact Native)} {count : Nat} {artifact : Artifact Native}
    (raised : Raised before (count + 1) (some artifact)) (left : 0 < artifact.references - 1) :
    Raised before count (some { artifact with references := artifact.references - 1 }) := by
  cases raised with
  | added counted referenced no_members =>
      have lowered : artifact.references - 1 = count := by omega
      exact .added lowered (lowered ▸ left) no_members
  | kept referenced => exact .kept referenced count

/-- Only what was added can lose its last reference. It has no members. -/
theorem remove {before : Option (Artifact Native)} {count : Nat} {artifact : Artifact Native}
    (raised : Raised before (count + 1) (some artifact)) (last : artifact.references - 1 = 0) :
    artifact.members = [] ∧ Raised before count none := by
  cases raised with
  | added counted referenced no_members =>
      obtain rfl : count = 0 := by omega
      exact ⟨no_members, .absent⟩
  | kept referenced => dsimp only at last; omega

end Raised

/-- A cache after references to identities were taken. -/
def Extended (cache next : Cache Factory Native) (taken : List Identity) : Prop :=
  ∀ identity, Raised (cache.artifacts.find? identity) (taken.count identity)
    (next.artifacts.find? identity)

namespace Extended

variable {cache middle next : Cache Factory Native} {taken : List Identity}

theorem congr (extended : Extended cache middle taken)
    (artifacts_eq : next.artifacts = middle.artifacts) : Extended cache next taken := by
  intro identity
  rw [artifacts_eq]
  exact extended identity

theorem perm {others : List Identity} (extended : Extended cache next taken)
    (perm : taken.Perm others) : Extended cache next others := by
  intro identity
  rw [← perm.count_eq]
  exact extended identity

theorem artifacts_eq (extended : Extended cache next []) : next.artifacts = cache.artifacts := by
  ext identity : 1
  exact (extended identity).unchanged

/-- A reference is taken to what is stored. -/
theorem insert {identity : Identity} {artifact : Artifact Native}
    (extended : Extended cache middle taken)
    (artifacts_eq : next.artifacts = middle.artifacts.insert identity artifact)
    (raised : Raised (cache.artifacts.find? identity) (taken.count identity + 1)
      (some artifact)) : Extended cache next (identity :: taken) := by
  intro query
  rw [artifacts_eq, Table.find?_insert, List.count_cons]
  by_cases same : query = identity
  · subst same
    simpa using raised
  · simpa [same, Ne.symm same] using extended query

theorem obtain {workshop : Workshop Factory Native} {component : Component} {options : Options}
    {identity : Identity} {handle : Handle Native} (extended : Extended cache middle taken)
    (obtained : Obtained workshop middle next component options identity handle) :
    Extended cache next (handle.identity :: taken) := by
  have raised := extended identity
  rw [obtained.identity_eq]
  cases obtained with
  | hit found artifacts_eq calls_eq =>
      rw [found] at raised
      exact extended.insert artifacts_eq raised.retain
  | compiled missing provided assembled answer artifacts_eq calls_eq =>
      rw [missing] at raised
      exact extended.insert artifacts_eq (raised.make rfl rfl)

theorem requestEach {workshop : Workshop Factory Native} {options : Options}
    {components : List Component} {handles : List (Handle Native)}
    {result : Except CacheError Unit} (extended : Extended cache middle taken)
    (done : requestEach workshop options middle components = (next, handles, result)) :
    Extended cache next (handles.map Handle.identity ++ taken) := by
  refine holds_of_requestEach (Extended cache) taken ?_ ?_ ?_ extended done
  · intro _ first second perm extended
    exact extended.perm perm
  · intro _ _ _ idle extended
    exact extended.congr idle.artifacts_eq
  · intro _ _ component handle _ _ obtained extended
    exact extended.obtain obtained

/-- Giving back a reference that was taken leaves the others. -/
theorem release {identity : Identity} (extended : Extended cache middle (identity :: taken)) :
    Extended cache (middle.release identity).1 taken := by
  have raised := extended identity
  rw [List.count_cons_self] at raised
  obtain ⟨artifact, found⟩ := raised.exists_artifact
  obtain ⟨next, released, members, done, dropped⟩ := exists_dropReference found
  have others {query : Identity} (different : query ≠ identity) :
      Raised (cache.artifacts.find? query) (taken.count query) (middle.artifacts.find? query) := by
    simpa [Ne.symm different] using extended query
  rw [found] at raised
  cases dropped with
  | retained present left artifacts_eq calls_eq =>
      obtain rfl := Option.some.inj (found.symm.trans present)
      simp only [Cache.release, done, Cache.dropAll]
      intro query
      rw [artifacts_eq, Table.find?_insert]
      split
      · next same => exact same ▸ raised.lower left
      · next different => exact others different
  | destroyed present last artifacts_eq calls_eq =>
      obtain rfl := Option.some.inj (found.symm.trans present)
      obtain ⟨no_members, removed⟩ := raised.remove last
      simp only [Cache.release, done, no_members, Cache.dropAll]
      intro query
      rw [artifacts_eq, Table.find?_erase]
      split
      · next same => exact same ▸ removed
      · next different => exact others different

theorem releaseHandles {handles : List (Handle Native)}
    (extended : Extended cache middle (handles.map Handle.identity ++ taken)) :
    Extended cache (middle.releaseHandles handles) taken := by
  induction handles generalizing middle with
  | nil => exact extended
  | cons handle rest induction => exact induction extended.release

end Extended

/-- A request that fails leaves the artifacts as they were, and deletes exactly what it made. -/
structure RolledBack (cache next : Cache Factory Native) : Prop where
  artifacts_eq : next.artifacts = cache.artifacts
  calls_eq : ∃ calls, next.calls = cache.calls ++ calls ∧
    (Trace.deletions calls).Perm (Trace.undoing calls)

theorem Idle.rolledBack {cache next : Cache Factory Native} (idle : Idle cache next) :
    RolledBack cache next := by
  obtain ⟨calls, calls_eq, all_idle⟩ := idle.calls_eq
  have settled : Settled cache next calls := .of_idle idle.artifacts_eq all_idle
  exact ⟨idle.artifacts_eq, calls, calls_eq, settled.deletions_perm idle.artifacts_eq⟩

/-- Objects that were taken and given back leave nothing behind. -/
theorem rolledBack_of_requestEach {workshop : Workshop Factory Native}
    {cache base middle last : Cache Factory Native} {options : Options}
    {components : List Component} {handles : List (Handle Native)}
    {result : Except CacheError Unit}
    (referenced : ∀ identity artifact, cache.artifacts.find? identity = some artifact →
      0 < artifact.references)
    (idle : Idle cache base)
    (obtained : requestEach workshop options base components = (middle, handles, result))
    (failed : Idle middle last) : RolledBack cache (last.releaseHandles handles) := by
  have start : Extended cache cache [] := fun identity => .refl (referenced identity)
  have extended : Extended cache middle (handles.map Handle.identity ++ []) :=
    (start.congr idle.artifacts_eq).requestEach obtained
  have artifacts_eq := ((extended.congr failed.artifacts_eq).releaseHandles).artifacts_eq
  -- The requests for the objects alone, so that nothing is assumed about identities.
  let asked := components.map (Request.object · options)
  have separate : Request.Separate asked := by
    intro first first_asked second second_asked program
    obtain ⟨component, -, rfl⟩ := List.mem_map.mp first_asked
    contradiction
  have taken : Moves asked base middle :=
    moves_of_requestEach (fun component listed => List.mem_map_of_mem listed) obtained
  have moves : Moves asked cache (last.releaseHandles handles) :=
    .head (.idle idle) (taken.trans (.head (.idle failed) (moves_releaseHandles last handles)))
  obtain ⟨calls, calls_eq, settled⟩ := exists_settled separate moves
  exact ⟨artifacts_eq, calls, calls_eq, settled.deletions_perm artifacts_eq⟩

theorem rolledBack_of_error {workshop : Workshop Factory Native}
    {cache next : Cache Factory Native} {request : Request} {error : CacheError}
    (referenced : ∀ identity artifact, cache.artifacts.find? identity = some artifact →
      0 < artifact.references)
    (failed : cache.resolve workshop request = (next, .error error)) : RolledBack cache next := by
  cases request with
  | object component options =>
      rcases requestObject_cases failed with ⟨handle, absurd, -⟩ | ⟨-, idle⟩
      · contradiction
      · exact idle.rolledBack
  | program identifier options =>
      cases requestProgram_cases failed with
      | unknown idle => exact idle.rolledBack
      | undone registered idle obtained stopped given_back =>
          subst given_back
          exact rolledBack_of_requestEach referenced idle obtained stopped

end Cache

namespace Session

variable {Factory Native : Type} [DecidableEq Native]

/-- Whatever callers did before, a request that fails leaves everything that is stored as it was. It
deletes what it made, once each, and nothing else. -/
theorem rolledBack_of_failed (workshop : Workshop Factory Native)
    (actions : List (Action Factory Native)) (request : Request) (error : CacheError)
    (failed : (((start workshop).run actions).perform (.resolve request)).2 =
      .resolved (.error error)) :
    let session := (start workshop).run actions
    let next := (session.perform (.resolve request)).1
    next.cache.artifacts = session.cache.artifacts ∧ next.held = session.held ∧
      ∃ calls, next.cache.calls = session.cache.calls ++ calls ∧
        (Trace.deletions calls).Perm
          ((Trace.made calls).map fun entry => Call.delete entry.1 entry.2) := by
  intro session next
  cases done : session.cache.resolve session.workshop request with
  | mk cache result =>
      have outcome : result = .error error := by
        rw [perform, done] at failed
        exact Reply.resolved.inj failed
      subst outcome
      have attributed := Cache.attributed_run workshop actions
      have rolled_back := Cache.rolledBack_of_error
        (fun identity artifact found => (attributed identity artifact found).referenced) done
      have next_cache : next.cache = cache := by simp only [next, perform, done]
      have next_held : next.held = session.held := by
        simp [next, perform, done, Except.toOption]
      rw [next_cache]
      exact ⟨rolled_back.artifacts_eq, next_held, rolled_back.calls_eq⟩

/-- The last object of a program does not compile. Of the others one was there before and is listed
twice, and one is made and deleted again. -/
theorem rolledBack_of_failed_ruin :
    let session := (start Sample.workshop).run [.resolve (Sample.object .vertex Sample.lamp)]
    let outcome := session.perform (.resolve (Sample.program Sample.ruin))
    (∃ error, outcome.2 = .resolved (.error error)) ∧
      outcome.1.cache.artifacts = session.cache.artifacts := by
  intro session outcome
  let result := (session.cache.resolve session.workshop (Sample.program Sample.ruin)).2
  have refused : result.isOk = false := by decide +kernel
  cases failed : result with
  | ok handle =>
      rw [failed] at refused
      contradiction
  | error error =>
      have answered : outcome.2 = .resolved (.error error) := congrArg Reply.resolved failed
      have rolled_back := rolledBack_of_failed Sample.workshop _ (Sample.program Sample.ruin) error
        answered
      exact ⟨⟨error, answered⟩, rolled_back.1⟩

end Session

end GlslBuild
