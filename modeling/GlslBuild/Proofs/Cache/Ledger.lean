import GlslBuild.Proofs.Cache.Move

/-!
# The ledger of a cache

What a cache has made is either still stored in it or was deleted. So what its calls delete, taken
together with what is stored, weighs as much as what they make.
-/

namespace GlslBuild.Cache

variable {Factory Native : Type}

/-- What a stored artifact is, and as what it was made. -/
def entryOf (artifact : Artifact Native) : ArtifactKind × Native :=
  (artifact.kind, artifact.native)

/-- Everything that is stored, with its kind. -/
def stored (cache : Cache Factory Native) : List (ArtifactKind × Native) :=
  cache.artifacts.entries.map fun entry => entryOf entry.2

theorem stored_congr {cache next : Cache Factory Native}
    (artifacts_eq : next.artifacts = cache.artifacts) : next.stored = cache.stored := by
  rw [stored, artifacts_eq, stored]

theorem stored_perm_of_found {cache : Cache Factory Native} {identity : Identity}
    {artifact : Artifact Native} (found : cache.artifacts.find? identity = some artifact) :
    cache.stored.Perm (entryOf artifact :: (cache.discard identity).stored) :=
  (Table.entries_perm_cons_erase found).map fun entry : Identity × Artifact Native =>
    entryOf entry.2

theorem stored_perm_of_insert {cache next : Cache Factory Native} {identity : Identity}
    {artifact : Artifact Native}
    (artifacts_eq : next.artifacts = cache.artifacts.insert identity artifact) :
    next.stored.Perm (entryOf artifact :: (cache.discard identity).stored) := by
  rw [stored, artifacts_eq]
  exact (Table.entries_insert_perm cache.artifacts identity artifact).map fun entry =>
    entryOf entry.2

theorem stored_perm_of_make {cache next : Cache Factory Native} {identity : Identity}
    {artifact : Artifact Native} (absent : cache.artifacts.find? identity = none)
    (artifacts_eq : next.artifacts = cache.artifacts.insert identity artifact) :
    next.stored.Perm (entryOf artifact :: cache.stored) := by
  rw [stored, artifacts_eq]
  exact (Table.entries_insert_perm_of_absent absent artifact).map fun entry => entryOf entry.2

theorem stored_perm_of_recount {cache next : Cache Factory Native} {identity : Identity}
    {artifact : Artifact Native} {count : Nat}
    (found : cache.artifacts.find? identity = some artifact)
    (artifacts_eq : next.artifacts =
      cache.artifacts.insert identity { artifact with references := count }) :
    next.stored.Perm cache.stored :=
  (stored_perm_of_insert artifacts_eq).trans (stored_perm_of_found found).symm

theorem mem_stored_iff (cache : Cache Factory Native) (kind : ArtifactKind) (native : Native) :
    (kind, native) ∈ cache.stored ↔ ∃ identity artifact,
      cache.artifacts.find? identity = some artifact ∧ artifact.kind = kind ∧
        artifact.native = native := by
  simp [stored, entryOf, Table.mem_entries_iff]

/-- What was deleted in between and is stored now is what was made in between or stored before. -/
def Settled (cache next : Cache Factory Native) (calls : List (Call Factory Native)) : Prop :=
  (Trace.deletions calls ++ next.stored.map Trace.deletionOf).Perm
    (Trace.undoing calls ++ cache.stored.map Trace.deletionOf)

theorem Settled.of_idle {cache next : Cache Factory Native} {calls : List (Call Factory Native)}
    (artifacts_eq : next.artifacts = cache.artifacts) (idle : ∀ call ∈ calls, call.Idle) :
    Settled cache next calls := by
  rw [Settled, Trace.deletions_of_idle idle, Trace.undoing, Trace.made_of_idle idle,
    stored_congr artifacts_eq]
  rfl

theorem Settled.trans {cache middle next : Cache Factory Native}
    {first second : List (Call Factory Native)} (before : Settled cache middle first)
    (after : Settled middle next second) : Settled cache next (first ++ second) := by
  have first_left := List.Perm.append_left (Trace.deletions first) after
  have second_left := List.Perm.append_left (Trace.undoing second) before
  rw [Settled, Trace.deletions_append, Trace.undoing_append, List.append_assoc, List.append_assoc]
  refine first_left.trans ((List.perm_append_comm_assoc ..).trans ?_)
  exact second_left.trans (List.perm_append_comm_assoc ..)

/-- One move makes what it stores and deletes what it takes away. -/
theorem Move.exists_settled {asked : List Request} {cache next : Cache Factory Native}
    (separate : Request.Separate asked) (move : Move asked cache next) :
    ∃ calls, next.calls = cache.calls ++ calls ∧ Settled cache next calls := by
  cases move with
  | idle idle =>
      obtain ⟨calls, calls_eq, all_idle⟩ := idle.calls_eq
      exact ⟨calls, calls_eq, .of_idle idle.artifacts_eq all_idle⟩
  | recount found positive artifacts_eq calls_eq =>
      refine ⟨[], by rw [calls_eq, List.append_nil], ?_⟩
      exact (stored_perm_of_recount found artifacts_eq).map Trace.deletionOf
  | @make identity artifact call made absent artifacts_eq calls_eq =>
      have stored := (stored_perm_of_make (absent separate) artifacts_eq).map
        (Trace.deletionOf : _ → Call Factory Native)
      have nothing_deleted : Trace.deletions [call] = [] := by
        simp [Trace.deletions, made.deleted?]
      refine ⟨[call], calls_eq, ?_⟩
      rw [Settled, nothing_deleted, Trace.undoing_of_made? made.made?]
      exact stored
  | @destroy identity artifact found artifacts_eq calls_eq =>
      have stored := (stored_perm_of_found found).map
        (Trace.deletionOf : _ → Call Factory Native)
      have left : next.stored = (cache.discard identity).stored := stored_congr artifacts_eq
      have deleted : Trace.deletions [(Call.delete artifact.kind artifact.native :
          Call Factory Native)] = [Trace.deletionOf (entryOf artifact)] := by
        simp [Trace.deletions, Trace.deletionOf, entryOf]
      refine ⟨_, calls_eq, ?_⟩
      rw [Settled, deleted, Trace.undoing_of_deleted? (Call.made?_delete ..), left]
      exact stored.symm

/-- Along moves nothing is lost and nothing is deleted that was not there. -/
theorem exists_settled {asked : List Request} {cache next : Cache Factory Native}
    (separate : Request.Separate asked) (moves : Moves asked cache next) :
    ∃ calls, next.calls = cache.calls ++ calls ∧ Settled cache next calls := by
  induction moves with
  | refl => exact ⟨[], (List.append_nil _).symm, .of_idle rfl (by simp)⟩
  | tail _ move induction =>
      obtain ⟨first, first_eq, before⟩ := induction
      obtain ⟨second, second_eq, after⟩ := move.exists_settled separate
      refine ⟨first ++ second, ?_, before.trans after⟩
      rw [second_eq, first_eq, List.append_assoc]

/-- If the same is stored as before, then exactly what was made is deleted. -/
theorem Settled.deletions_perm {cache next : Cache Factory Native}
    {calls : List (Call Factory Native)} (settled : Settled cache next calls)
    (artifacts_eq : next.artifacts = cache.artifacts) :
    (Trace.deletions calls).Perm (Trace.undoing calls) := by
  rw [Settled, stored_congr artifacts_eq] at settled
  exact (List.perm_append_right_iff _).mp settled

end GlslBuild.Cache
