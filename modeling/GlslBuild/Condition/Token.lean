import GlslBuild.Condition.Operator
import GlslBuild.Identifier
import GlslBuild.Text.Blank
import GlslBuild.Text.Quoted

/-!
# Tokens of conditions

A condition without parentheses is a row of numbers and symbols. Numbers are written in decimal, in
octal after a zero or in hexadecimal after `0x`, with any number of the suffix letters of unsigned
and long literals, or as `true` and `false`.
-/

namespace GlslBuild.Condition

/-- A number or a symbol. -/
inductive Token where
  | number (value : Int64)
  | symbol (mark : Symbol)
  deriving DecidableEq, Repr

/-- How a message names a token. -/
def Token.describe : Token → String
  | .number value => s!"Num({value.toInt})"
  | .symbol mark => s!"Op({Text.quoted mark.text})"

/-- Why a text is no condition. -/
inductive Reason where
  | unexpectedIdentifier (name : Text)
  | unexpectedCharacter (char : Char)
  | invalidLiteral (literal : Text)
  | emptyExpression
  | unexpectedToken (token : Token)
  | missingOperand
  | divisionByZero
  deriving DecidableEq, Repr

/-- The reason in words. -/
def Reason.message : Reason → String
  | .unexpectedIdentifier name => s!"unexpected identifier {Text.quoted name}"
  | .unexpectedCharacter char => s!"unexpected character {Text.quotedChar char}"
  | .invalidLiteral literal => s!"invalid integer literal {Text.quoted literal}"
  | .emptyExpression => "empty expression"
  | .unexpectedToken token => s!"unexpected {token.describe}"
  | .missingOperand => "missing operand"
  | .divisionByZero => "division by zero"

/-- A letter of the suffixes of unsigned and long literals. -/
def isSuffixLetter (char : Char) : Bool :=
  char == 'u' || char == 'U' || char == 'l' || char == 'L'

/-- The number that a literal without its suffix spells, of any size. -/
def magnitude? : Text → Option Nat
  | '0' :: 'x' :: digits => Text.number? 16 digits
  | '0' :: 'X' :: digits => Text.number? 16 digits
  | '0' :: digit :: digits => Text.number? 8 (digit :: digits)
  | digits => Text.number? 10 digits

/-- The value of a literal: none when it is malformed or too large for a signed 64-bit integer. -/
def literal? (literal : Text) : Option Int64 :=
  (magnitude? (literal.dropEndWhile isSuffixLetter)).bind fun number =>
    if number < 0x8000000000000000 then some (Int64.ofNat number) else none

/-- The value of a word of a condition. -/
def constant? (name : Text) : Option Int64 :=
  if name = "true".toList then some 1
  else if name = "false".toList then some 0
  else none

/-- The tokens of a text without parentheses, up to the first fault. -/
def tokenize (text : Text) : Except Reason (List Token) :=
  match text with
  | [] => .ok []
  | char :: rest =>
      if Text.isBlank char then tokenize rest
      else if char.isDigit then
        let literal := char :: rest.takeWhile Char.isAlphanum
        match literal? literal with
        | none => .error (.invalidLiteral literal)
        | some value => (tokenize (rest.dropWhile Char.isAlphanum)).map (.number value :: ·)
      else if Text.startsIdentifier char then
        let name := char :: rest.takeWhile Text.continuesIdentifier
        match constant? name with
        | none => .error (.unexpectedIdentifier name)
        | some value =>
            (tokenize (rest.dropWhile Text.continuesIdentifier)).map (.number value :: ·)
      else
        match _taken : Symbol.take? (char :: rest) with
        | none => .error (.unexpectedCharacter char)
        | some (symbol, after) => (tokenize after).map (.symbol symbol :: ·)
termination_by text.length
decreasing_by
  · simp
  · have shorter := (List.dropWhile_sublist (l := rest) Char.isAlphanum).length_le
    simp only [List.length_cons]
    omega
  · have shorter := (List.dropWhile_sublist (l := rest) Text.continuesIdentifier).length_le
    simp only [List.length_cons]
    omega
  · exact Symbol.length_lt_of_take? _taken

end GlslBuild.Condition
