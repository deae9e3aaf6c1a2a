import GlslBuild.Assembly
import GlslBuild.Library

/-!
# Calls

A cache works by calling the factories of a library and the native compiler. Every call is recorded
together with its answer. What the outside answers may depend on all calls before.
-/

namespace GlslBuild

/-- The answer of the native compiler: an artifact if it succeeded, and possibly a log. -/
structure Output (Native : Type) where
  artifact : Option Native
  log : Option Text
  deriving DecidableEq, Repr

/-- A call and its answer. -/
inductive Call (Factory Native : Type) where
  | source (factory : Factory) (source : Source)
  | compile (stage : Stage) (unit : CompilationUnit) (output : Output Native)
  | link (identifier : Text) (objects : List Native) (output : Output Native)
  | deleteObject (native : Native)
  | deleteProgram (native : Native)
  deriving DecidableEq

/-- The call that deletes what the native compiler made. -/
def Call.delete {Factory Native : Type} (kind : ArtifactKind) (native : Native) :
    Call Factory Native :=
  match kind with
  | .object _ => .deleteObject native
  | .program => .deleteProgram native

/-- How the outside answers, by the calls so far. -/
structure Toolchain (Factory Native : Type) where
  source : List (Call Factory Native) → Factory → Source
  compile : List (Call Factory Native) → Stage → CompilationUnit → Output Native
  link : List (Call Factory Native) → Text → List Native → Output Native

/-- What a cache works with. -/
structure Workshop (Factory Native : Type) where
  library : Library Factory
  toolchain : Toolchain Factory Native
  config : Assembly.Config

/-- The log of a call that failed. -/
def Output.failureLog {Native : Type} (output : Output Native) : Text :=
  output.log.getD "unknown error".toList

/-- The log of a call that succeeded, unless it is blank. -/
def Output.remark? {Native : Type} (output : Output Native) : Option Text :=
  output.log.filter fun log => !Text.isBlankText log

end GlslBuild
