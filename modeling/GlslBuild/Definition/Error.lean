import GlslBuild.Condition.Token

/-!
# Errors of definitions and conditions

What can be wrong with a definition, a use of one, or a condition.
-/

namespace GlslBuild

/-- A fault in a definition, in a call, in a condition or in an expansion. -/
inductive DefinitionError where
  | invalidName (name : Text)
  | missingName
  | trailingTokens (name tokens : Text)
  | arityMismatch (name : Text) (expected found : Nat)
  | unterminatedCall (name : Text)
  | invalidExpression (expression : Text) (reason : Condition.Reason)
  | expansionLimit (passes : Nat)
  deriving DecidableEq, Repr

/-- The fault in words. -/
def DefinitionError.message : DefinitionError → String
  | .invalidName name => s!"invalid identifier {Text.quoted name}"
  | .missingName => "directive requires a name"
  | .trailingTokens name tokens => s!"unexpected {Text.quoted tokens} after {Text.quoted name}"
  | .arityMismatch name expected found =>
      s!"macro {Text.quoted name} expects {expected} argument(s), got {found}"
  | .unterminatedCall name =>
      s!"unterminated argument list in call to macro {Text.quoted name}"
  | .invalidExpression expression reason =>
      s!"invalid conditional expression {Text.quoted expression}: {reason.message}"
  | .expansionLimit passes => s!"expansion did not settle after {passes} passes"

end GlslBuild
