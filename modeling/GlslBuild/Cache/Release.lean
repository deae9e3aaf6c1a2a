import GlslBuild.Cache.Error
import GlslBuild.Cache.State

/-!
# Giving references back

An artifact is destroyed when the last reference to it is given back. A program that is destroyed
gives back its references to its members, one after the other.
-/

namespace GlslBuild.Cache

variable {Factory Native : Type}

/-- Gives back one reference, without those that a destroyed artifact holds: the cache afterwards,
what this led to, and the members whose references are to be given back. -/
def dropReference (cache : Cache Factory Native) (identity : Identity) :
    Except CacheError (Cache Factory Native × Released × List Identity) :=
  match cache.artifacts.find? identity with
  | none => .error (.unknownArtifact identity)
  | some artifact =>
      let left := artifact.references - 1
      if 0 < left then
        let cache := cache.store identity { artifact with references := left }
        .ok (cache.report [.released identity left], .retained left, [])
      else
        let cache := (cache.discard identity).report [.destroying artifact.kind identity]
        .ok (cache.record (.delete artifact.kind artifact.native), .destroyed, artifact.members)

/-- Giving back a reference leaves no more artifacts, and fewer if it leaves members. -/
theorem size_dropReference {cache next : Cache Factory Native} {identity : Identity}
    {released : Released} {members : List Identity}
    (dropped : cache.dropReference identity = .ok (next, released, members)) :
    next.artifacts.size < cache.artifacts.size ∨
      next.artifacts.size = cache.artifacts.size ∧ members = [] := by
  unfold dropReference at dropped
  split at dropped
  · simp at dropped
  · next artifact found =>
      have bound : cache.artifacts.contains identity = true := by simp [Table.contains, found]
      dsimp only at dropped
      split at dropped
      · simp only [Except.ok.injEq, Prod.mk.injEq] at dropped
        obtain ⟨rfl, -, rfl⟩ := dropped
        exact .inr ⟨Table.size_insert_of_contains bound, rfl⟩
      · simp only [Except.ok.injEq, Prod.mk.injEq] at dropped
        obtain ⟨rfl, -, -⟩ := dropped
        exact .inl (Table.size_erase_lt bound)

/-- Gives back references in order, each before the next, up to the first that cannot be given. -/
def dropAll (cache : Cache Factory Native) (pending : List Identity) :
    Cache Factory Native × Except CacheError Unit :=
  match pending with
  | [] => (cache, .ok ())
  | identity :: rest =>
      match _dropped : cache.dropReference identity with
      | .error error => (cache, .error error)
      | .ok (next, _, members) => next.dropAll (members ++ rest)
termination_by (cache.artifacts.size, pending.length)
decreasing_by
  rcases size_dropReference _dropped with fewer | ⟨same, none⟩
  · exact Prod.Lex.left _ _ fewer
  · rw [same, none]
    exact Prod.Lex.right _ (by simp)

/-- Gives back a reference to the artifact of an identity, and those that it held itself if it is
destroyed. -/
def release (cache : Cache Factory Native) (identity : Identity) :
    Cache Factory Native × Except CacheError Released :=
  match cache.dropReference identity with
  | .error error => (cache, .error error)
  | .ok (next, released, members) =>
      let (last, result) := next.dropAll members
      (last, result.map fun _ => released)

/-- Gives back the references of handles, whatever comes of it. -/
def releaseHandles (cache : Cache Factory Native) (handles : List (Handle Native)) :
    Cache Factory Native :=
  handles.foldl (fun cache handle => (cache.release handle.identity).1) cache

end GlslBuild.Cache
