import GlslBuild.Conditional.Error
import GlslBuild.Conditional.Frame
import GlslBuild.Definition.Basic

/-!
# Contexts

The definitions in force and the chains that are open. A condition is asked for only where its
answer can matter: at the start of a chain where text is kept, and at a further branch of such a
chain as long as no branch was taken. An operation that fails leaves the context as it was.
-/

namespace GlslBuild

/-- The state of preprocessing between two items. The innermost open chain comes first. -/
structure Context where
  definitions : Definitions
  frames : List Frame

/-- A condition, which may fail under some definitions. -/
abbrev Condition.Test := Definitions → Except DefinitionError Bool

namespace Context

/-- The context without definitions and open chains. -/
def empty : Context := ⟨Table.empty, []⟩

instance : Inhabited Context := ⟨empty⟩

/-- Text is kept: every open chain is in a branch that is taken. -/
def isActive (context : Context) : Bool := context.frames.all Frame.isTaking

/-- The number of open chains. -/
def depth (context : Context) : Nat := context.frames.length

/-- The condition of a further branch would be asked for. -/
def awaitsCondition (context : Context) : Bool := context.frames.head?.any Frame.awaitsCondition

/-- The context with a definition added. -/
def define (context : Context) (definition : Definition) : Context :=
  { context with definitions := context.definitions.define definition }

/-- The context with the definition that a text gives, as if a directive had given it. -/
def defineText (context : Context) (text : Text) : Except DefinitionError Context :=
  (Definition.parse text).map context.define

/-- The context with the definition of a name removed. -/
def undefine (context : Context) (name : Text) : Context :=
  { context with definitions := context.definitions.undefine name }

/-- The context with one more chain open. -/
def push (context : Context) (frame : Frame) : Context :=
  { context with frames := frame :: context.frames }

/-- Opens a chain with a condition, which is asked for only where text is kept. -/
def openIf (context : Context) (test : Condition.Test) : Except DefinitionError Context :=
  if context.isActive then
    (test context.definitions).map fun holds => context.push (Frame.opened holds)
  else .ok (context.push Frame.dead)

/-- Opens a chain whose first branch is taken if a name is defined, or if it is not. -/
def openIfDefined (context : Context) (name : Text) (expected : Bool) : Context :=
  if context.isActive then
    context.push (Frame.opened (context.definitions.contains name == expected))
  else context.push Frame.dead

/-- Goes on to a further branch with a condition, which is asked for only while the chain seeks. -/
def elif (context : Context) (test : Condition.Test) : Except DirectiveError Context :=
  match context.frames with
  | [] => .error (.structural .unmatchedElif)
  | frame :: outer =>
      if frame.elseSeen then .error (.structural .elifAfterElse)
      else if frame.awaitsCondition then
        match test context.definitions with
        | .error error => .error (.definition error)
        | .ok holds => .ok { context with frames := Frame.opened holds :: outer }
      else .ok { context with frames := frame.finish :: outer }

/-- Goes on to the branch for all other cases. -/
def otherwise (context : Context) : Except StructuralError Context :=
  match context.frames with
  | [] => .error .unmatchedElse
  | frame :: outer =>
      if frame.elseSeen then .error .duplicateElse
      else .ok { context with frames := frame.otherwise :: outer }

/-- Closes the innermost chain. -/
def endif (context : Context) : Except StructuralError Context :=
  match context.frames with
  | [] => .error .unmatchedEndif
  | _ :: outer => .ok { context with frames := outer }

/-- Checks that no chain is open. -/
def finish (context : Context) : Except StructuralError Unit :=
  if context.frames.isEmpty then .ok () else .error (.unterminated context.depth)

@[simp] theorem isActive_empty : empty.isActive = true := rfl

@[simp] theorem isActive_push (context : Context) (frame : Frame) :
    (context.push frame).isActive = (frame.isTaking && context.isActive) := rfl

/-- Where text is left out, no condition is asked for. -/
theorem openIf_of_not_isActive {context : Context} (inactive : context.isActive = false)
    (test : Condition.Test) : context.openIf test = .ok (context.push Frame.dead) := by
  simp [openIf, inactive]

theorem finish_eq_ok_iff (context : Context) : context.finish = .ok () ↔ context.frames = [] := by
  unfold finish
  split <;> simp_all

end Context

end GlslBuild
