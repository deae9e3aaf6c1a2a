import GlslBuild.Text.Lines

/-!
# Sources

A source as it is kept in a library, before options are applied: lines, which may hold newlines, and
the language extensions that it needs.
-/

namespace GlslBuild

/-- What a source wants of an extension. -/
inductive Extension.Behavior where
  | require | enable | warn | disable
  deriving DecidableEq, Repr

namespace Extension.Behavior

/-- All behaviors. -/
def all : List Extension.Behavior := [require, enable, warn, disable]

/-- How a behavior is written. -/
def name : Extension.Behavior → Text
  | require => "require".toList
  | enable => "enable".toList
  | warn => "warn".toList
  | disable => "disable".toList

/-- The behavior of a name. -/
def ofName? (name : Text) : Option Extension.Behavior := all.find? fun kind => kind.name == name

@[simp] theorem ofName?_name (behavior : Extension.Behavior) :
    ofName? behavior.name = some behavior := by
  cases behavior <;> decide

end Extension.Behavior

/-- A language extension. -/
structure Extension where
  name : Text
  behavior : Extension.Behavior
  deriving DecidableEq, Repr

/-- The extension as a source line. -/
def Extension.toLine (extension : Extension) : Text :=
  "#extension ".toList ++ extension.name ++ " : ".toList ++ extension.behavior.name

/-- A source before options are applied. -/
structure Source where
  lines : List Text
  extensions : List Extension
  deriving DecidableEq, Repr

namespace Source

/-- The source that is one text, without extensions. -/
def ofText (text : Text) : Source := ⟨[text], []⟩

/-- The source without lines and extensions. -/
def empty : Source := ⟨[], []⟩

instance : Inhabited Source := ⟨empty⟩

/-- The lines between newlines, without the carriage returns at their ends. -/
def physicalLines (source : Source) : List Text :=
  source.lines.flatMap fun line => (Text.lines line).map Text.dropReturns

end Source

end GlslBuild
