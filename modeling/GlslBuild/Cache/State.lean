import GlslBuild.Cache.Artifact
import GlslBuild.Cache.Call

/-!
# The state of a cache

A cache keeps its artifacts. Beside them stand the calls that it made and the messages that it gave,
the latest last.
-/

namespace GlslBuild

/-- The artifacts of a cache, its calls and its messages. -/
structure Cache (Factory Native : Type) where
  artifacts : Artifacts Native
  calls : List (Call Factory Native)
  messages : List Message

namespace Cache

variable {Factory Native : Type}

/-- The cache before its first call. -/
def empty : Cache Factory Native := ⟨Table.empty, [], []⟩

instance : Inhabited (Cache Factory Native) := ⟨empty⟩

/-- The cache after a call. -/
def record (cache : Cache Factory Native) (call : Call Factory Native) : Cache Factory Native :=
  { cache with calls := cache.calls ++ [call] }

/-- The cache after messages. -/
def report (cache : Cache Factory Native) (messages : List Message) : Cache Factory Native :=
  { cache with messages := cache.messages ++ messages }

/-- The cache with an artifact under an identity. -/
def store (cache : Cache Factory Native) (identity : Identity) (artifact : Artifact Native) :
    Cache Factory Native :=
  { cache with artifacts := cache.artifacts.insert identity artifact }

/-- The cache without the artifact of an identity. -/
def discard (cache : Cache Factory Native) (identity : Identity) : Cache Factory Native :=
  { cache with artifacts := cache.artifacts.erase identity }

/-- The number of references to an artifact. -/
def references? (cache : Cache Factory Native) (identity : Identity) : Option Nat :=
  (cache.artifacts.find? identity).map Artifact.references

@[simp] theorem artifacts_record (cache : Cache Factory Native) (call : Call Factory Native) :
    (cache.record call).artifacts = cache.artifacts := rfl

@[simp] theorem artifacts_report (cache : Cache Factory Native) (messages : List Message) :
    (cache.report messages).artifacts = cache.artifacts := rfl

@[simp] theorem artifacts_store (cache : Cache Factory Native) (identity : Identity)
    (artifact : Artifact Native) :
    (cache.store identity artifact).artifacts = cache.artifacts.insert identity artifact := rfl

@[simp] theorem artifacts_discard (cache : Cache Factory Native) (identity : Identity) :
    (cache.discard identity).artifacts = cache.artifacts.erase identity := rfl

end Cache

end GlslBuild
