import GlslBuild.Directive
import GlslBuild.Stage
import GlslBuild.Text.Quoted

/-!
# Log messages

What the library reports while it works. Messages are values that operations return; nothing is
written anywhere.
-/

namespace GlslBuild

/-- How severe a message is, the most severe first. -/
inductive Level where
  | error | warn | info | debug | trace
  deriving DecidableEq, Repr

namespace Level

/-- The place of a level, counted from the most severe one. -/
def rank : Level → Nat
  | error => 1
  | warn => 2
  | info => 3
  | debug => 4
  | trace => 5

/-- The name of a level. -/
def name : Level → String
  | error => "error"
  | warn => "warn"
  | info => "info"
  | debug => "debug"
  | trace => "trace"

/-- All levels. -/
def all : List Level := [error, warn, info, debug, trace]

/-- The level of a name. -/
def ofName? (name : String) : Option Level := all.find? fun level => level.name == name

end Level

/-- A report of something that happened. -/
inductive Message where
  /-- A directive was read. -/
  | directiveRead (line : Nat) (directive : Directive)
  /-- A source was registered for a stage or for any stage. -/
  | registered (identifier : Text) (stage : Option Stage)
  /-- A manifest was loaded; the registrations that there are now. -/
  | loaded (staged generic programs : Nat)
  /-- A version line of a source was dropped. -/
  | dropped (identifier : Text) (stage : Stage) (line : Text)
  /-- A source was assembled to this many lines. -/
  | assembled (identifier : Text) (stage : Stage) (lines : Nat)
  | objectHit (identifier : Text) (stage : Stage)
  | objectMiss (identifier : Text) (stage : Stage) (identity : Text)
  | programHit (identifier : Text)
  | programMiss (identifier : Text) (identity : Text)
  | compiled (identifier : Text) (stage : Stage) (identity : Text)
  | linked (identifier : Text) (identity : Text)
  /-- A compilation that succeeded had something to say. -/
  | compilerOutput (identifier : Text) (stage : Stage) (log : Text)
  /-- Linking that succeeded had something to say. -/
  | linkerOutput (identifier : Text) (log : Text)
  /-- A reference was given back and this many are left. -/
  | released (identity : Text) (left : Nat)
  /-- The last reference was given back. -/
  | destroying (kind : ArtifactKind) (identity : Text)
  /-- An artifact is destroyed although callers hold references to it. -/
  | leaked (kind : ArtifactKind) (identity : Text) (references : Nat)
  deriving DecidableEq, Repr

namespace Message

/-- How severe a message is. -/
def level : Message → Level
  | directiveRead .. | registered .. => .trace
  | loaded .. | dropped .. | assembled .. | objectHit .. | objectMiss .. | programHit ..
  | programMiss .. | released .. | destroying .. => .debug
  | compiled .. | linked .. => .info
  | compilerOutput .. | linkerOutput .. | leaked .. => .warn

/-- A text as it stands in a message. -/
def plain (text : Text) : String := String.ofList text

/-- A message in words. -/
def text : Message → String
  | directiveRead line directive =>
      s!"line {line}: #{plain directive.keyword.text} {plain directive.args}"
  | registered identifier stage =>
      s!"registered {Text.quoted identifier} for {Stage.describe stage}"
  | loaded staged generic programs =>
      s!"loaded shader library: {staged} staged, {generic} generic, {programs} programs"
  | dropped identifier stage line =>
      s!"{Text.quoted identifier} ({plain stage.name}): dropping {Text.quoted line}"
  | assembled identifier stage lines =>
      s!"assembled {Text.quoted identifier} ({plain stage.name}): {lines} lines"
  | objectHit identifier stage => s!"cache hit: {Text.quoted identifier} ({plain stage.name})"
  | objectMiss identifier stage identity =>
      s!"cache miss: {Text.quoted identifier} ({plain stage.name}) {plain identity}"
  | programHit identifier => s!"program cache hit: {Text.quoted identifier}"
  | programMiss identifier identity =>
      s!"program cache miss: {Text.quoted identifier} ({plain identity})"
  | compiled identifier stage identity =>
      s!"compiled {Text.quoted identifier} ({plain stage.name}) {plain identity}"
  | linked identifier identity =>
      s!"linked program {Text.quoted identifier} ({plain identity})"
  | compilerOutput identifier stage log =>
      s!"compiler output for {Text.quoted identifier} ({plain stage.name}):\n{plain log}"
  | linkerOutput identifier log =>
      s!"linker output for {Text.quoted identifier}: {plain log}"
  | released identity left => s!"released {plain identity} ({left} left)"
  | destroying kind identity => s!"destroying {kind.describe} artifact {plain identity}"
  | leaked kind identity references =>
      s!"destroying {kind.describe} artifact {plain identity} " ++
        s!"with {references} outstanding reference(s)"

end Message

end GlslBuild
