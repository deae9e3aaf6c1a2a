import GlslBuild.Cache.State

/-!
# Shutting a cache down

All artifacts are destroyed, programs before objects. The references that are still with callers are
reported; those that the destroyed programs held are not.
-/

namespace GlslBuild.Cache

variable {Factory Native : Type}

/-- The artifacts of a cache, programs before objects. -/
def drained (cache : Cache Factory Native) : List (Identity × Artifact Native) :=
  let (programs, objects) :=
    cache.artifacts.entries.partition fun entry => entry.2.kind == .program
  programs ++ objects

/-- The number of references that programs of the cache hold to the artifact of an identity. -/
def programReferences (cache : Cache Factory Native) (identity : Identity) : Nat :=
  (cache.artifacts.entries.flatMap fun entry => entry.2.members).count identity

/-- The number of references to an artifact that are with callers. -/
def outstanding (cache : Cache Factory Native) (entry : Identity × Artifact Native) : Nat :=
  entry.2.references - cache.programReferences entry.1

/-- The message about the references to an artifact that callers hold, if there are any. -/
def leak? (cache : Cache Factory Native) (entry : Identity × Artifact Native) : Option Message :=
  let references := cache.outstanding entry
  if 0 < references then some (.leaked entry.2.kind entry.1 references) else none

/-- Destroys all artifacts, and says how many there were. -/
def shutdown (cache : Cache Factory Native) : Cache Factory Native × Nat :=
  let entries := cache.drained
  let deletions := entries.map fun entry => Call.delete entry.2.kind entry.2.native
  (⟨Table.empty, cache.calls ++ deletions, cache.messages ++ entries.filterMap cache.leak?⟩,
    entries.length)

end GlslBuild.Cache
