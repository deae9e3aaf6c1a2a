import GlslBuild.Identity

/-!
# Artifacts

The artifacts that a cache keeps, each under its identity and with a count of the references to it.
A reference belongs to a caller, who holds a handle, or to a program that was linked from the
artifact.
-/

namespace GlslBuild

/-- A compiled object or a linked program. -/
structure Artifact (Native : Type) where
  native : Native
  kind : ArtifactKind
  references : Nat
  /-- The artifacts that a program holds one reference each to. -/
  members : List Identity
  deriving DecidableEq, Repr

/-- The artifacts of a cache. -/
abbrev Artifacts (Native : Type) := Table (Artifact Native)

/-- One reference to an artifact in the hands of a caller. -/
structure Handle (Native : Type) where
  identity : Identity
  kind : ArtifactKind
  native : Native
  deriving DecidableEq, Repr

/-- What giving a reference back led to. -/
inductive Released where
  /-- This many references are left. -/
  | retained (left : Nat)
  | destroyed
  deriving DecidableEq, Repr

/-- The artifact with one more reference to it. -/
def Artifact.retain {Native : Type} (artifact : Artifact Native) : Artifact Native :=
  { artifact with references := artifact.references + 1 }

/-- The handle of an artifact. -/
def Artifact.handle {Native : Type} (artifact : Artifact Native) (identity : Identity) :
    Handle Native :=
  ⟨identity, artifact.kind, artifact.native⟩

end GlslBuild
