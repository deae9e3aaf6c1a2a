import GlslBuild.Diagnostic
import GlslBuild.Identity
import GlslBuild.Library

/-!
# Errors of the cache

What can be wrong with a request to a cache.
-/

namespace GlslBuild

/-- Why a cache could not do what was asked. -/
inductive CacheError where
  | library (error : LibraryError)
  | preprocess (identifier : Text) (stage : Stage) (error : ProcessError)
  /-- The native compiler refused a unit: its annotated log and a listing of the unit. -/
  | nativeCompile (identifier : Text) (stage : Stage) (log listing : Text)
  | nativeLink (identifier log : Text)
  | unknownArtifact (identity : Identity)
  deriving DecidableEq, Repr

/-- The fault in words. -/
def CacheError.message : CacheError → String
  | .library error => error.message
  | .preprocess identifier stage error =>
      s!"failed to preprocess {Text.quoted identifier} ({Message.plain stage.name}): " ++
        error.message
  | .nativeCompile identifier stage log listing =>
      s!"failed to compile {Text.quoted identifier} ({Message.plain stage.name}):\n" ++
        s!"{Message.plain log}\n\n{Message.plain listing}"
  | .nativeLink identifier log =>
      s!"failed to link program {Text.quoted identifier}:\n{Message.plain log}"
  | .unknownArtifact identity => s!"no cached artifact with identity {Message.plain identity}"

end GlslBuild
