import GlslBuild.Definition.Error

/-!
# Errors of directives

What can be wrong with the nesting of conditional directives, and with a directive as a whole.
-/

namespace GlslBuild

/-- A conditional directive in the wrong place. -/
inductive StructuralError where
  | unmatchedElif
  | unmatchedElse
  | unmatchedEndif
  | elifAfterElse
  | duplicateElse
  /-- The text ended with this many chains open. -/
  | unterminated (depth : Nat)
  deriving DecidableEq, Repr

/-- The fault in words. -/
def StructuralError.message : StructuralError → String
  | .unmatchedElif => "#elif without a matching #if"
  | .unmatchedElse => "#else without a matching #if"
  | .unmatchedEndif => "#endif without a matching #if"
  | .elifAfterElse => "#elif after #else"
  | .duplicateElse => "duplicate #else"
  | .unterminated depth => s!"{depth} conditional block(s) not closed by #endif"

/-- What makes a directive fail. -/
inductive DirectiveError where
  | structural (error : StructuralError)
  | definition (error : DefinitionError)
  deriving DecidableEq, Repr

/-- The fault in words. -/
def DirectiveError.message : DirectiveError → String
  | .structural error => error.message
  | .definition error => error.message

end GlslBuild
