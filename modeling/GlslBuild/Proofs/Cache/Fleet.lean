import GlslBuild.Proofs.Cache.Attribution

/-!
# Caches side by side

Callers may use several caches, and nothing keeps them from giving a handle to another cache than
its own, or to its own after a shutdown. A cache only looks at the identity of a handle. So it
refuses a handle exactly if it keeps nothing under that identity; otherwise it takes the handle for
one of its own, and may destroy an artifact that others still refer to.
-/

namespace GlslBuild

variable {Index Factory Native : Type}

/-- A handle with the cache that gave it out, and how often that cache had been shut down before. -/
structure Ticket (Index Native : Type) where
  origin : Index
  era : Nat
  handle : Handle Native
  deriving DecidableEq

/-- Caches in use. -/
structure Fleet (Index Factory Native : Type) where
  cache : Index → Cache Factory Native
  /-- How often a cache was shut down. -/
  era : Index → Nat
  /-- The tickets that callers hold, of whatever cache and era. -/
  held : List (Ticket Index Native)
  /-- The requests to a cache since its last shutdown, and those for the objects of programs. -/
  recent : Index → List Request

namespace Fleet

/-- What callers do. -/
inductive Action (Index Native : Type) where
  | resolve (index : Index) (request : Request)
  /-- A ticket is given to a cache, which need not be the one that it came from. -/
  | release (index : Index) (ticket : Ticket Index Native)
  | shutdown (index : Index)

/-- Caches before their first use. -/
def start : Fleet Index Factory Native :=
  ⟨fun _ => Cache.empty, fun _ => 0, [], fun _ => []⟩

/-- The cache itself gave out the ticket since its last shutdown. -/
def Issued (fleet : Fleet Index Factory Native) (index : Index) (ticket : Ticket Index Native) :
    Prop :=
  ticket.origin = index ∧ ticket.era = fleet.era index

instance [DecidableEq Index] (fleet : Fleet Index Factory Native) (index : Index)
    (ticket : Ticket Index Native) : Decidable (fleet.Issued index ticket) :=
  inferInstanceAs (Decidable (_ ∧ _))

variable [DecidableEq Index] [DecidableEq Native]

/-- Does what a caller wants. -/
def perform (workshop : Index → Workshop Factory Native) (fleet : Fleet Index Factory Native) :
    Action Index Native → Fleet Index Factory Native × Reply Native
  | .resolve index request =>
      let outcome := (fleet.cache index).resolve (workshop index) request
      let asked := fleet.recent index ++ request.closure (workshop index).library
      ({ fleet with
          cache := Function.update fleet.cache index outcome.1
          held := outcome.2.toOption.toList.map (⟨index, fleet.era index, ·⟩) ++ fleet.held
          recent := Function.update fleet.recent index asked },
        .resolved outcome.2)
  | .release index ticket =>
      let outcome := (fleet.cache index).release ticket.handle.identity
      ({ fleet with
          cache := Function.update fleet.cache index outcome.1
          held := fleet.held.erase ticket },
        .released outcome.2)
  | .shutdown index =>
      let outcome := (fleet.cache index).shutdown
      ({ fleet with
          cache := Function.update fleet.cache index outcome.1
          era := Function.update fleet.era index (fleet.era index + 1)
          recent := Function.update fleet.recent index [] },
        .destroyed outcome.2)

/-- The caches after actions. -/
def run (workshop : Index → Workshop Factory Native) (fleet : Fleet Index Factory Native)
    (actions : List (Action Index Native)) : Fleet Index Factory Native :=
  actions.foldl (fun fleet action => (fleet.perform workshop action).1) fleet

end Fleet

namespace Cache

/-! ## What becomes of a reference -/

theorem release_of_find?_eq_none {cache : Cache Factory Native} {identity : Identity}
    (absent : cache.artifacts.find? identity = none) :
    cache.release identity = (cache, .error (.unknownArtifact identity)) := by
  simp only [release, dropReference, absent]

/-- An artifact with further references loses one and stays. -/
theorem release_of_one_lt {cache : Cache Factory Native} {identity : Identity}
    {artifact : Artifact Native} (found : cache.artifacts.find? identity = some artifact)
    (further : 1 < artifact.references) :
    (cache.release identity).2 = .ok (.retained (artifact.references - 1)) ∧
      (cache.release identity).1.artifacts = cache.artifacts.insert identity
        { artifact with references := artifact.references - 1 } ∧
      (cache.release identity).1.calls = cache.calls := by
  obtain ⟨next, released, members, done, dropped⟩ := exists_dropReference found
  cases dropped with
  | retained present left artifacts_eq calls_eq =>
      obtain rfl := Option.some.inj (found.symm.trans present)
      simp only [release, done, dropAll, Except.map]
      exact ⟨trivial, artifacts_eq, calls_eq⟩
  | destroyed present last artifacts_eq calls_eq =>
      obtain rfl := Option.some.inj (found.symm.trans present)
      omega

/-- An artifact that loses its last reference is deleted at once. -/
theorem release_of_eq_one {cache : Cache Factory Native} {identity : Identity}
    {artifact : Artifact Native} (found : cache.artifacts.find? identity = some artifact)
    (single : artifact.references = 1) :
    (cache.release identity).1.artifacts.find? identity = none ∧
      ∃ calls, (cache.release identity).1.calls =
        cache.calls ++ .delete artifact.kind artifact.native :: calls := by
  obtain ⟨next, released, members, done, dropped⟩ := exists_dropReference found
  cases dropped with
  | retained present left artifacts_eq calls_eq =>
      obtain rfl := Option.some.inj (found.symm.trans present)
      omega
  | @destroyed other present last artifacts_eq calls_eq =>
      obtain rfl := Option.some.inj (found.symm.trans present)
      have moves : Moves [] next (next.dropAll artifact.members).1 := moves_dropAll _ _
      obtain ⟨calls, later_eq⟩ := moves.exists_calls
      simp only [release, done]
      constructor
      · apply find?_eq_none_of_moves moves (by simp)
        simp [artifacts_eq, Table.find?_erase]
      · exact ⟨calls, by rw [later_eq, calls_eq, List.append_assoc, List.singleton_append]⟩

/-- A release changes the artifacts exactly if there is one under the identity. -/
theorem artifacts_release_eq_iff {cache : Cache Factory Native} {identity : Identity}
    (referenced : ∀ artifact, cache.artifacts.find? identity = some artifact →
      0 < artifact.references) :
    (cache.release identity).1.artifacts = cache.artifacts ↔
      cache.artifacts.find? identity = none := by
  constructor
  · intro same
    cases found : cache.artifacts.find? identity with
    | none => rfl
    | some artifact =>
        have positive := referenced artifact found
        rcases Nat.eq_or_lt_of_le positive with single | further
        · have gone := (release_of_eq_one found single.symm).1
          rw [same, found] at gone
          contradiction
        · have lowered := (release_of_one_lt found further).2.1
          have counted := congrArg (Table.find? · identity) (same.symm.trans lowered)
          simp only [found, Table.find?_insert, ↓reduceIte, Option.some.injEq] at counted
          have fewer := congrArg Artifact.references counted
          dsimp only at fewer
          omega
  · intro absent
    rw [release_of_find?_eq_none absent]

end Cache

namespace Fleet

/-- Every artifact can be traced back to a request since the last shutdown of its cache. -/
def Attributed (fleet : Fleet Index Factory Native) : Prop :=
  ∀ index identity artifact, (fleet.cache index).artifacts.find? identity = some artifact →
    Cache.Attributed (fleet.recent index) identity artifact

theorem attributed_start : Attributed (start : Fleet Index Factory Native) := by
  intro index identity artifact found
  exact absurd found (by simp [start, Cache.empty])

variable [DecidableEq Index] [DecidableEq Native] {workshop : Index → Workshop Factory Native}

theorem Attributed.perform {fleet : Fleet Index Factory Native} (attributed : fleet.Attributed)
    (action : Action Index Native) : (fleet.perform workshop action).1.Attributed := by
  intro other
  cases action with
  | resolve index request =>
      by_cases same : other = index
      · subst same
        have moves := Cache.moves_resolve (fleet.cache other)
          (List.subset_append_right (fleet.recent other)
            (request.closure (workshop other).library))
        simp only [Fleet.perform, Function.update_self]
        apply Cache.attributed_of_moves moves
        intro identity artifact found
        exact (attributed other identity artifact found).mono (List.subset_append_left _ _)
      · simpa [Fleet.perform, same] using attributed other
  | release index ticket =>
      by_cases same : other = index
      · subst same
        simp only [Fleet.perform, Function.update_self]
        exact Cache.attributed_of_moves (Cache.moves_release _ _) (attributed other)
      · simpa [Fleet.perform, same] using attributed other
  | shutdown index =>
      by_cases same : other = index
      · subst same
        simp [Fleet.perform, Cache.shutdown]
      · simpa [Fleet.perform, same] using attributed other

theorem attributed_run (workshop : Index → Workshop Factory Native)
    (actions : List (Action Index Native)) : (start.run workshop actions).Attributed := by
  have from_any (fleet : Fleet Index Factory Native) (attributed : fleet.Attributed) :
      (fleet.run workshop actions).Attributed := by
    induction actions generalizing fleet with
    | nil => exact attributed
    | cons action rest induction => exact induction _ (attributed.perform action)
  exact from_any start attributed_start

/-- Whatever callers did before, and whichever cache gave out the ticket and when: a cache refuses
the ticket and stays as it is exactly if it keeps nothing under the identity, as when it had no
request for the identity since its last shutdown. Otherwise one reference to what it keeps there is
gone, and with the last reference the artifact. The other caches stay as they are. -/
theorem refused_iff_find?_eq_none (workshop : Index → Workshop Factory Native)
    (actions : List (Action Index Native)) (index : Index) (ticket : Ticket Index Native) :
    let fleet := start.run workshop actions
    let identity := ticket.handle.identity
    let outcome := fleet.perform workshop (.release index ticket)
    let before := fleet.cache index
    let after := outcome.1.cache index
    (outcome.2 = .released (.error (.unknownArtifact identity)) ∧
          after.artifacts = before.artifacts ∧ after.calls = before.calls ↔
        before.artifacts.find? identity = none) ∧
      ((∀ request ∈ fleet.recent index, request.identity ≠ identity) →
        before.artifacts.find? identity = none) ∧
      (∀ other, other ≠ index → outcome.1.cache other = fleet.cache other) ∧
      ∀ artifact, before.artifacts.find? identity = some artifact →
        (1 < artifact.references →
          outcome.2 = .released (.ok (.retained (artifact.references - 1))) ∧
            after.artifacts = before.artifacts.insert identity
              { artifact with references := artifact.references - 1 } ∧
            after.calls = before.calls) ∧
        (artifact.references = 1 →
          after.artifacts.find? identity = none ∧
            ∃ calls, after.calls =
              before.calls ++ .delete artifact.kind artifact.native :: calls) := by
  intro fleet identity outcome before after
  have attributed : fleet.Attributed := attributed_run workshop actions
  have after_eq : after = (before.release identity).1 := by
    simp [after, outcome, before, identity, perform]
  have reply_eq : outcome.2 = .released (before.release identity).2 := rfl
  refine ⟨⟨?_, ?_⟩, ?_, ?_, ?_⟩
  · rintro ⟨-, same, -⟩
    rw [after_eq] at same
    refine (Cache.artifacts_release_eq_iff ?_).mp same
    exact fun artifact found => (attributed index identity artifact found).referenced
  · intro absent
    rw [reply_eq, after_eq, Cache.release_of_find?_eq_none absent]
    exact ⟨rfl, rfl, rfl⟩
  · intro unasked
    cases found : before.artifacts.find? identity with
    | none => rfl
    | some artifact =>
        obtain ⟨request, asked, same, -⟩ := (attributed index identity artifact found).request
        exact absurd same (unasked request asked)
  · intro other different
    simp [outcome, perform, different]
  · intro artifact found
    rw [reply_eq, after_eq]
    constructor
    · intro further
      obtain ⟨released, lowered, silent⟩ := Cache.release_of_one_lt found further
      exact ⟨congrArg Reply.released released, lowered, silent⟩
    · exact Cache.release_of_eq_one found

/-- Two caches gave out a ticket for the same object. The second cache takes the ticket of the first
for its own and deletes the object, although its own ticket is still held. -/
theorem artifact_destroyed_by_foreign_ticket :
    let workshop : Bool → Workshop Unit Nat := fun _ => Sample.workshop
    let lamp := Sample.object .vertex Sample.lamp
    let fleet := start.run workshop [.resolve true lamp, .resolve false lamp]
    let foreign : Ticket Bool Nat := ⟨true, 0, ⟨lamp.identity, lamp.kind, 1⟩⟩
    let own : Ticket Bool Nat := ⟨false, 0, ⟨lamp.identity, lamp.kind, 1⟩⟩
    let after := (fleet.perform workshop (.release false foreign)).1
    foreign ∈ fleet.held ∧ ¬fleet.Issued false foreign ∧
      own ∈ after.held ∧ after.Issued false own ∧
      (fleet.cache false).artifacts.find? lamp.identity = some ⟨1, lamp.kind, 1, []⟩ ∧
      (after.cache false).artifacts.find? lamp.identity = none ∧
      ∃ calls, (after.cache false).calls =
        (fleet.cache false).calls ++ .deleteObject 1 :: calls := by
  intro workshop lamp fleet foreign own after
  have found : (fleet.cache false).artifacts.find? lamp.identity = some ⟨1, lamp.kind, 1, []⟩ := by
    decide +kernel
  have after_eq : after.cache false = ((fleet.cache false).release lamp.identity).1 := by
    simp [after, perform, foreign]
  have destroyed := Cache.release_of_eq_one found rfl
  rw [after_eq]
  exact ⟨by decide +kernel, by decide +kernel, by decide +kernel, by decide +kernel, found,
    destroyed⟩

end Fleet

end GlslBuild
