import GlslBuild.Proofs.Cache.Attribution
import GlslBuild.Proofs.Cache.Ledger

/-!
# Custody of native artifacts

As long as the native compiler returns nothing that is alive, a cache keeps exactly what is alive,
each once. So nothing is deleted twice or in the wrong way, and nothing gets lost.
-/

namespace GlslBuild

variable {Factory Native : Type}

namespace Cache

variable [DecidableEq Native]

/-- The cache keeps what is alive, and deleted only what was. -/
structure Custodial (cache : Cache Factory Native) : Prop where
  live_perm : (Trace.live cache.calls).Perm cache.stored
  nodup : (cache.stored.map Prod.snd).Nodup
  lawful : Trace.Lawful cache.calls

theorem custodial_empty : Custodial (empty : Cache Factory Native) :=
  ⟨.nil, List.nodup_nil, trivial⟩

theorem Custodial.idle {cache next : Cache Factory Native} (custodial : Custodial cache)
    (idle : Idle cache next) : Custodial next := by
  obtain ⟨calls, calls_eq, all_idle⟩ := idle.calls_eq
  have stored_eq : next.stored = cache.stored := stored_congr idle.artifacts_eq
  have live_eq : Trace.live next.calls = Trace.live cache.calls := by
    rw [calls_eq, Trace.live_append_of_idle cache.calls all_idle]
  refine ⟨?_, ?_, ?_⟩
  · rw [live_eq, stored_eq]
    exact custodial.live_perm
  · rw [stored_eq]
    exact custodial.nodup
  · rw [calls_eq]
    exact custodial.lawful.append_of_undeleted fun call member => (all_idle call member).2

theorem Custodial.recount {cache next : Cache Factory Native} {identity : Identity}
    {artifact : Artifact Native} {count : Nat} (custodial : Custodial cache)
    (found : cache.artifacts.find? identity = some artifact)
    (artifacts_eq : next.artifacts =
      cache.artifacts.insert identity { artifact with references := count })
    (calls_eq : next.calls = cache.calls) : Custodial next := by
  have perm := stored_perm_of_recount found artifacts_eq
  refine ⟨?_, ?_, ?_⟩
  · rw [calls_eq]
    exact custodial.live_perm.trans perm.symm
  · exact ((perm.map Prod.snd).nodup_iff).mpr custodial.nodup
  · rw [calls_eq]
    exact custodial.lawful

/-- What is made is alive from then on, and it was not before. -/
theorem Custodial.make {asked : List Request} {cache next : Cache Factory Native}
    {identity : Identity} {artifact : Artifact Native} {call : Call Factory Native}
    (custodial : Custodial cache) (made : Made asked identity artifact call)
    (absent : cache.artifacts.find? identity = none)
    (artifacts_eq : next.artifacts = cache.artifacts.insert identity artifact)
    (calls_eq : next.calls = cache.calls ++ [call]) (fresh : Trace.Fresh next.calls) :
    Custodial next := by
  have perm := stored_perm_of_make absent artifacts_eq
  have tracked := Trace.track_of_made? (Trace.live cache.calls) made.made? made.deleted?
  rw [calls_eq] at fresh
  have unused := fresh.last made.made?
  refine ⟨?_, ?_, ?_⟩
  · rw [calls_eq, Trace.live_concat, tracked]
    have alive := (List.perm_append_singleton (entryOf artifact) _).trans
      (custodial.live_perm.cons (entryOf artifact))
    exact alive.trans perm.symm
  · rw [(perm.map Prod.snd).nodup_iff, List.map_cons, List.nodup_cons]
    rw [(custodial.live_perm.map Prod.snd).mem_iff] at unused
    exact ⟨unused, custodial.nodup⟩
  · rw [calls_eq]
    apply custodial.lawful.append_of_undeleted
    intro other member
    rw [List.mem_singleton.mp member]
    exact made.deleted?

/-- What is destroyed was alive, and nothing else dies. -/
theorem Custodial.destroy {cache next : Cache Factory Native} {identity : Identity}
    {artifact : Artifact Native} (custodial : Custodial cache)
    (found : cache.artifacts.find? identity = some artifact)
    (artifacts_eq : next.artifacts = cache.artifacts.erase identity)
    (calls_eq : next.calls = cache.calls ++ [.delete artifact.kind artifact.native]) :
    Custodial next := by
  have left : next.stored = (cache.discard identity).stored := stored_congr artifacts_eq
  have perm := stored_perm_of_found found
  rw [← left] at perm
  have deleted : next.calls = cache.calls ++ [Trace.deletionOf (entryOf artifact)] := calls_eq
  have alive_perm := custodial.live_perm.trans perm
  have alive_nodup := ((custodial.live_perm.map Prod.snd).nodup_iff).mpr custodial.nodup
  refine ⟨?_, ?_, ?_⟩
  · rw [deleted, Trace.live_concat]
    exact Trace.track_delete_perm alive_perm alive_nodup
  · have stored_nodup := ((perm.map Prod.snd).nodup_iff).mp custodial.nodup
    exact (List.nodup_cons.mp stored_nodup).2
  · rw [deleted]
    exact custodial.lawful.concat_deletion (alive_perm.mem_iff.mpr List.mem_cons_self)

theorem Moves.fresh {asked : List Request} {cache next : Cache Factory Native}
    (moves : Moves asked cache next) (fresh : Trace.Fresh next.calls) :
    Trace.Fresh cache.calls := by
  obtain ⟨calls, calls_eq⟩ := moves.exists_calls
  rw [calls_eq] at fresh
  exact fresh.of_append

theorem custodial_of_moves {asked : List Request} {cache next : Cache Factory Native}
    (separate : Request.Separate asked) (moves : Moves asked cache next)
    (custodial : Custodial cache) (fresh : Trace.Fresh next.calls) : Custodial next := by
  induction moves with
  | refl => exact custodial
  | @tail middle last _ move induction =>
      have before := induction (Moves.fresh (.single move) fresh)
      cases move with
      | idle idle => exact before.idle idle
      | recount found positive artifacts_eq calls_eq =>
          exact before.recount found artifacts_eq calls_eq
      | make made absent artifacts_eq calls_eq =>
          exact before.make made (absent separate) artifacts_eq calls_eq fresh
      | destroy found artifacts_eq calls_eq => exact before.destroy found artifacts_eq calls_eq

/-- Nothing is made for no request. -/
theorem fresh_of_moves {cache next : Cache Factory Native} (moves : Moves [] cache next)
    (fresh : Trace.Fresh cache.calls) : Trace.Fresh next.calls := by
  induction moves with
  | refl => exact fresh
  | tail _ move induction =>
      cases move with
      | idle idle =>
          obtain ⟨calls, calls_eq, all_idle⟩ := idle.calls_eq
          rw [calls_eq]
          exact induction.append_of_unmade fun call member => (all_idle call member).1
      | recount found positive artifacts_eq calls_eq => rwa [calls_eq]
      | make made absent artifacts_eq calls_eq =>
          obtain ⟨request, requested, -⟩ := made.exists_request
          simp at requested
      | destroy found artifacts_eq calls_eq =>
          rw [calls_eq]
          exact induction.append_of_unmade (by simp)

/-- No native artifact is stored under two identities. -/
theorem Custodial.identity_unique {cache : Cache Factory Native} (custodial : Custodial cache)
    {first second : Identity} {artifact other : Artifact Native}
    (first_found : cache.artifacts.find? first = some artifact)
    (second_found : cache.artifacts.find? second = some other)
    (same : artifact.native = other.native) : first = second := by
  have nodup := custodial.nodup
  rw [stored, List.map_map] at nodup
  have injective := List.inj_on_of_nodup_map nodup
  have equal := injective ((Table.mem_entries_iff _ _ _).mpr first_found)
    ((Table.mem_entries_iff _ _ _).mpr second_found) same
  exact congrArg Prod.fst equal

end Cache

namespace Session

variable [DecidableEq Native]

theorem custodial_run (workshop : Workshop Factory Native)
    (actions : List (Action Factory Native))
    (distinct : Request.Distinct ((start workshop).run actions).asked)
    (fresh : Trace.Fresh ((start workshop).run actions).cache.calls) :
    Cache.Custodial ((start workshop).run actions).cache :=
  Cache.custodial_of_moves distinct.separate ((start workshop).moves_run actions)
    Cache.custodial_empty fresh

/-- Whatever callers do, what was made and not deleted since is what is stored: each under exactly
one identity, of a request of the kind that it was made for. Nothing alive is there twice, and every
deletion was of something alive, by the call for its kind. -/
theorem live_iff_stored (workshop : Workshop Factory Native)
    (actions : List (Action Factory Native))
    (distinct : Request.Distinct ((start workshop).run actions).asked)
    (fresh : Trace.Fresh ((start workshop).run actions).cache.calls) :
    let session := (start workshop).run actions
    (∀ kind native, (kind, native) ∈ Trace.live session.cache.calls ↔
      ∃! identity, ∃ artifact, session.cache.artifacts.find? identity = some artifact ∧
        artifact.kind = kind ∧ artifact.native = native) ∧
      (∀ identity artifact, session.cache.artifacts.find? identity = some artifact →
        ∃ request ∈ session.asked, request.identity = identity ∧ request.kind = artifact.kind) ∧
      ((Trace.live session.cache.calls).map Prod.snd).Nodup ∧
      Trace.Lawful session.cache.calls := by
  intro session
  have custodial : Cache.Custodial session.cache := custodial_run workshop actions distinct fresh
  refine ⟨?_, ?_, ?_, custodial.lawful⟩
  · intro kind native
    rw [custodial.live_perm.mem_iff, Cache.mem_stored_iff]
    constructor
    · rintro ⟨identity, artifact, found, kind_eq, native_eq⟩
      refine ⟨identity, ⟨artifact, found, kind_eq, native_eq⟩, ?_⟩
      rintro second ⟨other, second_found, -, second_eq⟩
      exact custodial.identity_unique second_found found (second_eq.trans native_eq.symm)
    · rintro ⟨identity, ⟨artifact, stored⟩, -⟩
      exact ⟨identity, artifact, stored⟩
  · intro identity artifact found
    exact (Cache.attributed_run workshop actions identity artifact found).request
  · exact ((custodial.live_perm.map Prod.snd).nodup_iff).mpr custodial.nodup

/-- A handle is given back after a shutdown, and its object is made again for a program. -/
theorem live_iff_stored_scene :
    let lamp : Handle Nat :=
      ⟨(Sample.object .vertex Sample.lamp).identity, .object .vertex, 1⟩
    let actions : List (Action Unit Nat) :=
      [.resolve (Sample.object .vertex Sample.lamp), .shutdown, .release lamp,
        .resolve (Sample.program Sample.scene)]
    let session := (start Sample.workshop).run actions
    Request.Distinct session.asked ∧ Trace.Fresh session.cache.calls ∧
      ((Trace.live session.cache.calls).map Prod.snd).Nodup ∧
      Trace.Lawful session.cache.calls := by
  intro lamp actions session
  have requested : session.asked ⊆ Sample.requests := by decide +kernel
  have fresh : Trace.Fresh session.cache.calls := by decide +kernel
  have distinct := Sample.distinct_requests.of_subset requested
  have live := live_iff_stored Sample.workshop actions distinct fresh
  exact ⟨distinct, fresh, live.2.2⟩

end Session

end GlslBuild
