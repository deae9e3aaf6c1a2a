import GlslBuild.Conditional.Run
import GlslBuild.Options
import GlslBuild.Source

/-!
# Assembly

Assembly makes the text for the native compiler from a source and options. It starts with a version
line that comes from the options; extensions and definitions come before the lines of the source,
and everything goes through preprocessing. Lines that only hold comments are left out in the end.
-/

namespace GlslBuild

/-- The final text of one stage. -/
structure CompilationUnit where
  identifier : Text
  stage : Stage
  lines : List Text
  deriving DecidableEq, Repr

namespace CompilationUnit

/-- The text with every line ended by a newline. -/
def text (unit : CompilationUnit) : Text := Text.ofLines unit.lines

/-- The number of a line as it is shown in a listing, with blanks in front up to the given width. -/
def lineNumber (width number : Nat) : Text := (Text.decimal number).leftpad width ' '

/-- The lines with their numbers in front. -/
def numbered (unit : CompilationUnit) : Text :=
  let width := (Text.decimal unit.lines.length).length
  Text.ofLines (unit.lines.mapIdx fun index line =>
    lineNumber width (index + 1) ++ ": ".toList ++ line)

/-- The line of a number, counted from one. -/
def line? (unit : CompilationUnit) : Nat → Option Text
  | 0 => none
  | index + 1 => unit.lines[index]?

end CompilationUnit

namespace Assembly

/-- How texts are assembled: from which version on which profile is named, and how many passes an
expansion may take. -/
structure Config where
  profileSince : Nat := 150
  profile : Text := "core".toList
  passLimit : Nat := 512
  deriving DecidableEq, Repr

instance : Inhabited Config := ⟨{}⟩

/-- The first line of an assembled text. -/
def versionDirective (config : Config) (version : Nat) : Text :=
  let plain := "#version ".toList ++ Text.decimal version
  if config.profileSince ≤ version ∧ config.profile ≠ [] then plain ++ ' ' :: config.profile
  else plain

/-- The line is a version directive by its looks: a number sign and the word `version`. -/
def isVersionDirective (line : Text) : Bool :=
  match Text.trimStart line with
  | '#' :: rest =>
      match Text.dropLeading? "version".toList (Text.trimStart rest) with
      | some after => !after.head?.any Text.isWord
      | none => false
  | _ => false

/-- The directive for a definition among the options. The value may stand after an equals sign, if
what is before it is one word. -/
def defineDirective (definition : Text) : Text :=
  let plain := "#define ".toList ++ Text.trim definition
  match Text.splitOnce (· == '=') definition with
  | none => plain
  | some (left, right) =>
      let name := Text.trim left
      if name.any Text.isBlank then plain
      else "#define ".toList ++ name ++ ' ' :: Text.trim right

/-- The lines in front of those of the source. -/
def header (source : Source) (options : Options) : List Text :=
  source.extensions.map Extension.toLine ++ options.defines.toList.map defineDirective

/-- The lines that go through preprocessing: the header, and the source without version lines. -/
def body (source : Source) (options : Options) : List Text :=
  header source options ++ source.physicalLines.filter fun line => !isVersionDirective line

/-- The assembled lines, given what preprocessing left. -/
def finish (config : Config) (options : Options) (processed : List Text) : List Text :=
  versionDirective config options.version ::
    processed.filter fun line => !Comment.isCommentLine line

/-- What assembly leads to: a text for the native compiler, and messages. -/
structure Outcome where
  result : Except ProcessError CompilationUnit
  messages : List Message

/-- The messages about version lines of a source. -/
def droppedMessages (identifier : Text) (stage : Stage) (source : Source) : List Message :=
  (source.physicalLines.filter isVersionDirective).map (.dropped identifier stage)

/-- Assembles the text of a source for a stage under options. -/
def assemble (config : Config) (identifier : Text) (stage : Stage) (source : Source)
    (options : Options) : Outcome :=
  let outcome := Context.empty.process config.passLimit (body source options)
  let messages := droppedMessages identifier stage source ++ outcome.messages
  match outcome.result with
  | .error error => ⟨.error error, messages⟩
  | .ok processed =>
      let lines := finish config options processed
      ⟨.ok ⟨identifier, stage, lines⟩, messages ++ [.assembled identifier stage lines.length]⟩

end Assembly

end GlslBuild
