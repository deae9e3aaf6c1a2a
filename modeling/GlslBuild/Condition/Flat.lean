import GlslBuild.Condition.Token

/-!
# Conditions without parentheses

A row of tokens is read by the ten levels of binary operators, each associating to the left, with
unary operators in front of numbers. The value is computed on the way, so the first fault from the
left is the one reported, be it a misplaced token or a zero divisor.
-/

namespace GlslBuild.Condition

/-- A value and the tokens that follow what it was read from. -/
abbrev Reading := Except Reason (Int64 × List Token)

/-- The number of levels of binary operators. -/
def levelCount : Nat := 10

/-- Reads unary operators and the number they stand in front of. -/
def readOperand : List Token → Reading
  | [] => .error .missingOperand
  | .number value :: rest => .ok (value, rest)
  | .symbol symbol :: rest =>
      match symbol.unary? with
      | none => .error (.unexpectedToken (.symbol symbol))
      | some operator => (readOperand rest).map fun (value, rest) => (operator.apply value, rest)

/-- The binary operator of one level that the tokens start with, and what follows it. -/
def takeOperator? (level : Nat) : List Token → Option (BinaryOperator × List Token)
  | .symbol symbol :: rest =>
      match symbol.binary? with
      | some operator => if operator.level = level then some (operator, rest) else none
      | none => none
  | _ => none

/-- Goes on from the value of a left operand through operators of one level, whose right operands
are read by `next`. At most `steps` operators are read. -/
def readChain (level : Nat) (next : List Token → Reading) : Nat → Int64 → List Token → Reading
  | 0, left, tokens => .ok (left, tokens)
  | steps + 1, left, tokens =>
      match takeOperator? level tokens with
      | none => .ok (left, tokens)
      | some (operator, rest) =>
          match next rest with
          | .error reason => .error reason
          | .ok (right, rest) =>
              match operator.apply left right with
              | none => .error .divisionByZero
              | some value => readChain level next steps value rest

/-- Reads an expression whose operators bind at least as tightly as the level that is `depth` levels
above the tightest. A chain has no more operators than there are tokens left. -/
def readLevel : Nat → List Token → Reading
  | 0, tokens => readOperand tokens
  | depth + 1, tokens =>
      match readLevel depth tokens with
      | .error reason => .error reason
      | .ok (left, rest) =>
          readChain (levelCount - (depth + 1)) (readLevel depth) rest.length left rest

/-- The value of a row of tokens, all of which belong to one expression. -/
def valueOfTokens (tokens : List Token) : Except Reason Int64 :=
  if tokens.isEmpty then .error .emptyExpression
  else
    match readLevel levelCount tokens with
    | .error reason => .error reason
    | .ok (value, []) => .ok value
    | .ok (_, token :: _) => .error (.unexpectedToken token)

/-- The value of a text without parentheses. -/
def valueOfFlat (text : Text) : Except Reason Int64 :=
  match tokenize text with
  | .error reason => .error reason
  | .ok tokens => valueOfTokens tokens

end GlslBuild.Condition
