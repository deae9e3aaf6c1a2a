import GlslBuild.Proofs.Cache.Move

/-!
# Attribution

Every artifact that a cache keeps answers a request that was made, is referred to, and has members
only if it is a program. Its members answer requests for objects.
-/

namespace GlslBuild.Cache

variable {Factory Native : Type}

/-- What holds of every artifact of a cache in use. -/
structure Attributed (asked : List Request) (identity : Identity)
    (artifact : Artifact Native) : Prop where
  request : ∃ request ∈ asked, request.identity = identity ∧ request.kind = artifact.kind
  referenced : 0 < artifact.references
  members_of_object : artifact.kind ≠ .program → artifact.members = []
  members_asked : ∀ member ∈ artifact.members,
    ∃ request ∈ asked, request.identity = member ∧ request.kind ≠ .program

theorem Attributed.mono {fewer asked : List Request} (subset : fewer ⊆ asked)
    {identity : Identity} {artifact : Artifact Native}
    (attributed : Attributed fewer identity artifact) : Attributed asked identity artifact := by
  refine ⟨?_, attributed.referenced, attributed.members_of_object, ?_⟩
  · obtain ⟨request, member, answers⟩ := attributed.request
    exact ⟨request, subset member, answers⟩
  · intro member inside
    obtain ⟨request, requested, answers⟩ := attributed.members_asked member inside
    exact ⟨request, subset requested, answers⟩

theorem Made.attributed {asked : List Request} {identity : Identity} {artifact : Artifact Native}
    {call : Call Factory Native} (made : Made asked identity artifact call) :
    Attributed asked identity artifact := by
  have referenced : 0 < artifact.references := by simp [made.references]
  refine ⟨made.exists_request, referenced, ?_, ?_⟩
  · cases made with
    | object => simp
    | program => simp
  · cases made with
    | object => simp
    | program request components answer =>
        intro member inside
        obtain ⟨component, object, same⟩ := components member inside
        exact ⟨_, object, same, by simp [Request.kind]⟩

theorem attributed_of_moves {asked : List Request} {cache next : Cache Factory Native}
    (moves : Moves asked cache next)
    (start : ∀ identity artifact, cache.artifacts.find? identity = some artifact →
      Attributed asked identity artifact) :
    ∀ identity artifact, next.artifacts.find? identity = some artifact →
      Attributed asked identity artifact := by
  induction moves with
  | refl => exact start
  | tail _ move induction =>
      intro query present bound
      cases move with
      | idle idle =>
          rw [idle.artifacts_eq] at bound
          exact induction query present bound
      | recount found positive artifacts_eq calls_eq =>
          rw [artifacts_eq, Table.find?_insert] at bound
          split at bound
          · next same =>
              obtain rfl := Option.some.inj bound
              have before := induction _ _ found
              exact ⟨same ▸ before.request, positive, before.members_of_object,
                before.members_asked⟩
          · exact induction query present bound
      | make made absent artifacts_eq calls_eq =>
          rw [artifacts_eq, Table.find?_insert] at bound
          split at bound
          · next same =>
              obtain rfl := Option.some.inj bound
              exact same ▸ made.attributed
          · exact induction query present bound
      | destroy found artifacts_eq calls_eq =>
          rw [artifacts_eq, Table.find?_erase] at bound
          split at bound
          · contradiction
          · exact induction query present bound

/-- No program is a member of anything. -/
theorem notMem_members_of_program {asked : List Request} {cache : Cache Factory Native}
    (attributed : ∀ identity artifact, cache.artifacts.find? identity = some artifact →
      Attributed asked identity artifact)
    (separate : Request.Separate asked) {identity other : Identity}
    {program artifact : Artifact Native}
    (found : cache.artifacts.find? identity = some program) (kind_eq : program.kind = .program)
    (other_found : cache.artifacts.find? other = some artifact) :
    identity ∉ artifact.members := by
  intro member
  obtain ⟨first, first_asked, first_same, first_kind⟩ := (attributed identity program found).request
  obtain ⟨second, second_asked, second_same, second_kind⟩ :=
    (attributed other artifact other_found).members_asked identity member
  exact separate first first_asked second second_asked (first_kind.trans kind_eq) second_kind
    (first_same.trans second_same.symm)

/-- Whatever callers do, every artifact can be traced back to a request. -/
theorem attributed_run [DecidableEq Native] (workshop : Workshop Factory Native)
    (actions : List (Action Factory Native)) :
    ∀ identity artifact,
      ((Session.start workshop).run actions).cache.artifacts.find? identity = some artifact →
        Attributed ((Session.start workshop).run actions).asked identity artifact := by
  apply attributed_of_moves ((Session.start workshop).moves_run actions)
  intro identity artifact bound
  exact absurd bound (by simp [Session.start, empty])

end GlslBuild.Cache
