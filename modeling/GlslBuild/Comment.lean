import GlslBuild.Text.Blank

/-!
# Comments

Block comments run from `/*` to the next `*/` and may span lines; line comments run from `//` to the
end of the text. A text is read either from code or from inside a block comment that an earlier line
left open. What counts as a comment does not depend on anything else: there are no string literals.
-/

namespace GlslBuild.Comment

/-- Whether a block comment is open at the end of a text, given whether one is open at its start. -/
def leavesOpen : Bool → Text → Bool
  | isOpen, [] => isOpen
  | true, '*' :: '/' :: rest => leavesOpen false rest
  | true, _ :: rest => leavesOpen true rest
  | false, '/' :: '*' :: rest => leavesOpen true rest
  | false, '/' :: '/' :: _ => false
  | false, _ :: rest => leavesOpen false rest

/-- A stretch of code, or a comment with its delimiters as far as the text holds them. -/
inductive Span where
  | code (text : Text)
  | comment (text : Text)
  deriving DecidableEq, Repr

/-- The text of a span. -/
def Span.toText : Span → Text
  | .code text => text
  | .comment text => text

/-- Puts a character of code in front of spans. -/
def Span.consCode (char : Char) : List Span → List Span
  | .code text :: spans => .code (char :: text) :: spans
  | spans => .code [char] :: spans

/-- Puts a character in front of the comment that the spans start with. -/
def Span.consComment (char : Char) : List Span → List Span
  | .comment text :: spans => .comment (char :: text) :: spans
  | spans => .comment [char] :: spans

/-- The code and the comments of a text in order, given whether a block comment is open at its
start. -/
def spans : Bool → Text → List Span
  | _, [] => []
  | true, '*' :: '/' :: rest => .comment ['*', '/'] :: spans false rest
  | true, char :: rest => Span.consComment char (spans true rest)
  | false, '/' :: '*' :: rest => Span.consComment '/' (Span.consComment '*' (spans true rest))
  | false, '/' :: '/' :: rest => [.comment ('/' :: '/' :: rest)]
  | false, char :: rest => Span.consCode char (spans false rest)

/-- The text that is left when what remains of an open block comment is dropped and every further
comment is replaced by one space. -/
def stripFrom : Bool → Text → Text
  | _, [] => []
  | true, '*' :: '/' :: rest => stripFrom false rest
  | true, _ :: rest => stripFrom true rest
  | false, '/' :: '*' :: rest => ' ' :: stripFrom true rest
  | false, '/' :: '/' :: _ => [' ']
  | false, char :: rest => char :: stripFrom false rest

/-- The text with every comment replaced by one space. -/
def strip (text : Text) : Text := stripFrom false text

/-- Nothing but white space and comments, with no block comment left open. -/
def onlyComments : Bool → Text → Bool
  | isOpen, [] => !isOpen
  | true, '*' :: '/' :: rest => onlyComments false rest
  | true, _ :: rest => onlyComments true rest
  | false, '/' :: '*' :: rest => onlyComments true rest
  | false, '/' :: '/' :: _ => true
  | false, char :: rest => Text.isBlank char && onlyComments false rest

/-- A line that holds comments, all complete, and beside them only white space. -/
def isCommentLine (line : Text) : Bool := !Text.isBlankText line && onlyComments false line

theorem Span.flatMap_consCode (char : Char) (rest : List Span) :
    (Span.consCode char rest).flatMap Span.toText = char :: rest.flatMap Span.toText := by
  unfold Span.consCode
  split <;> simp [Span.toText]

theorem Span.flatMap_consComment (char : Char) (rest : List Span) :
    (Span.consComment char rest).flatMap Span.toText = char :: rest.flatMap Span.toText := by
  unfold Span.consComment
  split <;> simp [Span.toText]

/-- The spans of a text make up the text. -/
theorem flatMap_spans (isOpen : Bool) (text : Text) :
    (spans isOpen text).flatMap Span.toText = text := by
  fun_induction spans isOpen text <;>
    simp_all [Span.toText, Span.flatMap_consCode, Span.flatMap_consComment]

end GlslBuild.Comment
