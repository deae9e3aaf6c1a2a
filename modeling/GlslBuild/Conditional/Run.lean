import GlslBuild.Comment
import GlslBuild.Condition.Evaluation
import GlslBuild.Conditional.Context
import GlslBuild.Item
import GlslBuild.Log

/-!
# Running items

Preprocessing runs through the items of a text one after the other. Each item changes the context or
gives lines of output. The first one that fails ends the run and has no effect of its own.
-/

namespace GlslBuild

/-- What stops a run. -/
inductive Fault where
  | structural (error : StructuralError)
  | definition (error : DefinitionError)
  | unknownDirective (keyword : Text)
  deriving DecidableEq, Repr

namespace Fault

/-- The fault of a directive that failed. -/
def ofDirective : DirectiveError → Fault
  | .structural error => structural error
  | .definition error => definition error

end Fault

/-- A fault and the number of the line that it was found in, which is zero if no line was read. -/
structure ProcessError where
  line : Nat
  fault : Fault
  deriving DecidableEq, Repr

/-- The fault in words. -/
def ProcessError.message (error : ProcessError) : String :=
  match error.fault with
  | .structural inner => s!"structural error at line {error.line}: {inner.message}"
  | .definition inner => s!"definition error at line {error.line}: {inner.message}"
  | .unknownDirective keyword =>
      s!"unknown directive #{Message.plain keyword} at line {error.line}"

/-- The single name in the arguments of a directive. -/
def Directive.singleName (args : Text) : Except DefinitionError Text :=
  let (name, rest) := (Text.splitOnce Text.isBlank args).getD (args, [])
  let tokens := Text.trim rest
  if name.isEmpty then .error .missingName
  else if !Text.isIdentifier name then .error (.invalidName name)
  else if !tokens.isEmpty then .error (.trailingTokens name tokens)
  else .ok name

/-- The message about an item when it is read: only known directives have one. -/
def Item.message? (item : Item) : Option Message :=
  match item.content with
  | .directive directive => some (.directiveRead item.line directive)
  | _ => none

namespace Context

/-- A line with its code expanded and its comments as they are. -/
def expandLine (context : Context) (passLimit : Nat) (text : Text) (inComment : Bool) :
    Except DefinitionError Text :=
  (Comment.spans inComment text).foldlM (fun done span =>
    match span with
    | .code code =>
        (Expansion.ofText context.definitions passLimit code).map fun expanded =>
          done ++ expanded
    | .comment comment => .ok (done ++ comment)) []

/-- The condition that is written as text. -/
def test (passLimit : Nat) (expression : Text) : Condition.Test := fun definitions =>
  Condition.evaluate definitions passLimit expression

/-- Applies a directive: the next context and the lines that it is replaced by. Definitions and
inclusions count only where text is kept. -/
def apply (context : Context) (passLimit : Nat) (directive : Directive) :
    Except DirectiveError (Context × List Text) :=
  match directive.keyword with
  | .ifExpr =>
      ((context.openIf (test passLimit directive.args)).mapError .definition).map (·, [])
  | .ifdef =>
      ((Directive.singleName directive.args).mapError .definition).map fun name =>
        (context.openIfDefined name true, [])
  | .ifndef =>
      ((Directive.singleName directive.args).mapError .definition).map fun name =>
        (context.openIfDefined name false, [])
  | .elif => (context.elif (test passLimit directive.args)).map (·, [])
  | .otherwise => (context.otherwise.mapError .structural).map (·, [])
  | .endif => (context.endif.mapError .structural).map (·, [])
  | .define =>
      if context.isActive then
        ((Definition.parse directive.args).mapError .definition).map fun definition =>
          (context.define definition, [])
      else .ok (context, [])
  | .undef =>
      if context.isActive then
        ((Directive.singleName directive.args).mapError .definition).map fun name =>
          (context.undefine name, [])
      else .ok (context, [])
  | .includeFile => .ok (context, if context.isActive then [directive.toLine] else [])

/-- Takes one item: the next context and the lines of output. -/
def step (context : Context) (passLimit : Nat) : Content → Except Fault (Context × List Text)
  | .text text inComment =>
      if context.isActive then
        ((context.expandLine passLimit text inComment).mapError .definition).map fun expanded =>
          (context, [expanded])
      else .ok (context, [])
  | .passThrough text => .ok (context, if context.isActive then [text] else [])
  | .directive directive => (context.apply passLimit directive).mapError Fault.ofDirective
  | .unknown keyword => .error (.unknownDirective keyword)

/-- What a run leads to: the context at its end, its output lines or what stopped it, and the items
that were read, the failing one included. -/
structure Outcome where
  context : Context
  result : Except ProcessError (List Text)
  read : List Item

/-- Runs through items up to the first one that fails. -/
def run (context : Context) (passLimit : Nat) : List Item → Outcome
  | [] => ⟨context, .ok [], []⟩
  | item :: rest =>
      match context.step passLimit item.content with
      | .error fault => ⟨context, .error ⟨item.line, fault⟩, [item]⟩
      | .ok (next, emitted) =>
          let outcome := next.run passLimit rest
          ⟨outcome.context, outcome.result.map (emitted ++ ·), item :: outcome.read⟩

/-- The number of the line that the last item starts at, or zero if there is none. -/
def endLine (items : List Item) : Nat := (items.getLast?.map Item.line).getD 0

/-- Preprocesses items. At their end every chain has to be closed. -/
def processItems (context : Context) (passLimit : Nat) (items : List Item) : Outcome :=
  let outcome := context.run passLimit items
  match outcome.result, outcome.context.finish with
  | .ok _, .error error =>
      { outcome with result := .error ⟨endLine items, .structural error⟩ }
  | _, _ => outcome

/-- Preprocesses lines. -/
def process (context : Context) (passLimit : Nat) (lines : List Text) : Outcome :=
  context.processItems passLimit (Item.scan lines)

/-- The messages of a run. -/
def Outcome.messages (outcome : Outcome) : List Message := outcome.read.filterMap Item.message?

end Context

end GlslBuild
