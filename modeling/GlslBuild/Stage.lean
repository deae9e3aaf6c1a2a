import GlslBuild.Text.Basic

/-!
# Stages

The stages of the pipeline that shader objects are compiled for, and the kinds of artifacts.
-/

namespace GlslBuild

/-- A pipeline stage. -/
inductive Stage where
  | vertex | tessControl | tessEvaluation | geometry | fragment | compute
  deriving DecidableEq, Repr

namespace Stage

/-- All stages in the order of the pipeline. -/
def all : List Stage := [vertex, tessControl, tessEvaluation, geometry, fragment, compute]

/-- The name of a stage, which is part of the identity of its artifacts. -/
def name : Stage → Text
  | vertex => "vertex".toList
  | tessControl => "tess_control".toList
  | tessEvaluation => "tess_evaluation".toList
  | geometry => "geometry".toList
  | fragment => "fragment".toList
  | compute => "compute".toList

/-- The stage of a name. -/
def ofName? (name : Text) : Option Stage := all.find? fun stage => stage.name == name

/-- The name of a stage as one word. -/
def title : Stage → String
  | vertex => "Vertex"
  | tessControl => "TessControl"
  | tessEvaluation => "TessEvaluation"
  | geometry => "Geometry"
  | fragment => "Fragment"
  | compute => "Compute"

/-- What a registration is for: one stage, or any of them. -/
def describe : Option Stage → String
  | some stage => String.ofList stage.name
  | none => "any stage"

@[simp] theorem ofName?_name (stage : Stage) : ofName? stage.name = some stage := by
  cases stage <;> decide

theorem name_injective {first second : Stage} (same : first.name = second.name) :
    first = second := by
  have found := ofName?_name first
  rw [same, ofName?_name second] at found
  exact (Option.some.inj found).symm

end Stage

/-- The stage name that stands for linked programs. -/
def programName : Text := "program".toList

theorem name_ne_programName (stage : Stage) : stage.name ≠ programName := by
  cases stage <;> decide

/-- What an artifact is: an object compiled for a stage, or a linked program. -/
inductive ArtifactKind where
  | object (stage : Stage)
  | program
  deriving DecidableEq, Repr

namespace ArtifactKind

/-- The stage name of a kind. -/
def name : ArtifactKind → Text
  | object stage => stage.name
  | program => programName

/-- The kind as messages show it. -/
def describe : ArtifactKind → String
  | object stage => s!"Object({stage.title})"
  | program => "Program"

end ArtifactKind

end GlslBuild
