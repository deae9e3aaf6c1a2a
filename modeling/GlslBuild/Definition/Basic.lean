import GlslBuild.Definition.Error
import GlslBuild.Table

/-!
# Definitions

A definition binds a name to a replacement: plain text, or a template with parameters. The text that
defines a name is the name, for a template its parameters in parentheses directly after the name,
and the replacement. Definitions in force form a table in which the last one of a name wins.
-/

namespace GlslBuild

/-- A body in which arguments take the place of parameters. -/
structure Template where
  params : List Text
  body : Text
  deriving DecidableEq, Repr

/-- What a name is replaced by, before any expansion. -/
inductive Replacement where
  | text (value : Text)
  | template (template : Template)
  deriving DecidableEq, Repr

/-- A name and its replacement. -/
structure Definition where
  name : Text
  replacement : Replacement
  deriving DecidableEq, Repr

namespace Template

/-- Appends a parameter: an identifier that is not there yet. -/
def addParam (params : List Text) (param : Text) : Except DefinitionError (List Text) :=
  if Text.isIdentifier param && !params.contains param then .ok (params ++ [param])
  else .error (.invalidName param)

/-- The parameters of a list between parentheses, separated by commas. A blank list has none. -/
def readParams (list : Text) : Except DefinitionError (List Text) :=
  if Text.isBlankText list then .ok []
  else ((list.splitOn ',').map Text.trim).foldlM addParam []

end Template

namespace Definition

/-- A character that ends the name at the start of a definition. -/
def endsName (char : Char) : Bool := Text.isBlank char || char == '('

/-- Splits what follows a name into the parameter list and the rest. There is a list when a
parenthesis opens directly after the name and one closes later. -/
def splitParams (tail : Text) : Option Text × Text :=
  match tail with
  | '(' :: inner =>
      match Text.splitOnce (· == ')') inner with
      | some (list, rest) => (some list, rest)
      | none => (none, tail)
  | _ => (none, tail)

/-- Reads the text that defines a name. -/
def parse (text : Text) : Except DefinitionError Definition :=
  let trimmed := Text.trim text
  let name := trimmed.takeWhile fun char => !endsName char
  let (list, rest) := splitParams (trimmed.dropWhile fun char => !endsName char)
  if name.isEmpty || (Text.trimStart rest).contains '\n' then .error .missingName
  else if !Text.isIdentifier name then .error (.invalidName name)
  else
    let value := Text.trim rest
    match list with
    | none => .ok ⟨name, .text value⟩
    | some list => (Template.readParams list).map fun params => ⟨name, .template ⟨params, value⟩⟩

end Definition

/-- The definitions in force, by name. -/
abbrev Definitions := Table Replacement

namespace Definitions

/-- Adds a definition, in place of one of the same name. -/
def define (definitions : Definitions) (definition : Definition) : Definitions :=
  definitions.insert definition.name definition.replacement

/-- Adds the definitions that texts give, up to the first text that cannot be read. -/
def defineAll (definitions : Definitions) (texts : List Text) :
    Except DefinitionError Definitions :=
  texts.foldlM (fun known text => (Definition.parse text).map known.define) definitions

/-- Removes the definition of a name, if there is one. -/
def undefine (definitions : Definitions) (name : Text) : Definitions := definitions.erase name

/-- The text that a name stands for, unless it is a template. -/
def text? (definitions : Definitions) (name : Text) : Option Text :=
  match definitions.find? name with
  | some (.text value) => some value
  | _ => none

/-- The template that a name stands for. -/
def template? (definitions : Definitions) (name : Text) : Option Template :=
  match definitions.find? name with
  | some (.template template) => some template
  | _ => none

/-- The names of all templates, in increasing order. -/
def templateNames (definitions : Definitions) : List Text :=
  definitions.keys.filter fun name => (definitions.template? name).isSome

/-- Some name stands for a template. -/
def hasTemplates (definitions : Definitions) : Bool := !definitions.templateNames.isEmpty

theorem mem_templateNames_iff (definitions : Definitions) (name : Text) :
    name ∈ definitions.templateNames ↔ (definitions.template? name).isSome = true := by
  simp only [templateNames, List.mem_filter, Table.mem_keys_iff, and_iff_right_iff_imp]
  intro template
  unfold template? at template
  unfold Table.contains
  split at template
  · next found => simp [found]
  · simp at template

/-- The names of templates are listed in increasing order. -/
theorem sorted_templateNames (definitions : Definitions) :
    definitions.templateNames.Pairwise (· < ·) :=
  definitions.sorted_keys.filter _

end Definitions

end GlslBuild
