import GlslBuild.Condition.Operator
import GlslBuild.Proofs.Condition.Literal

/-!
# Derivations of conditions

The grammar of conditions after expansion: literals, truth values and groups in parentheses, unary
operators in front of them, and ten levels of binary operators that associate to the left. A
derivation has a value over the integers, in which every step wraps to sixty-four bits and every
operand is evaluated.
-/

namespace GlslBuild.Condition

/-! ## Operators over the integers -/

/-- The integer that a signed number of sixty-four bits keeps of an integer. -/
def wrap (value : Int) : Int := value.bmod (2 ^ 64)

/-- One for what holds and zero for what does not. -/
def indicator (holds : Prop) [Decidable holds] : Int := if holds then 1 else 0

/-- Combines the bits of two integers in two's complement. -/
def bitwise (combine : BitVec 64 → BitVec 64 → BitVec 64) (left right : Int) : Int :=
  (combine (BitVec.ofInt 64 left) (BitVec.ofInt 64 right)).toInt

namespace UnaryOperator

/-- How the operator is written. -/
def word : UnaryOperator → Text
  | .not => ['!']
  | .complement => ['~']
  | .negate => ['-']
  | .plus => ['+']

/-- What the operator does to an integer. -/
def meaning : UnaryOperator → Int → Int
  | .not, value => indicator (value = 0)
  | .complement, value => -value - 1
  | .negate, value => wrap (-value)
  | .plus, value => value

end UnaryOperator

namespace BinaryOperator

/-- How the operator is written. -/
def word : BinaryOperator → Text
  | .or => ['|', '|']
  | .and => ['&', '&']
  | .bitOr => ['|']
  | .bitXor => ['^']
  | .bitAnd => ['&']
  | .equal => ['=', '=']
  | .notEqual => ['!', '=']
  | .less => ['<']
  | .greater => ['>']
  | .lessEqual => ['<', '=']
  | .greaterEqual => ['>', '=']
  | .shiftLeft => ['<', '<']
  | .shiftRight => ['>', '>']
  | .add => ['+']
  | .subtract => ['-']
  | .multiply => ['*']
  | .divide => ['/']
  | .remainder => ['%']

/-- What the operator makes of two integers: nothing if it divides by zero. -/
def meaning? : BinaryOperator → Int → Int → Option Int
  | .or, left, right => some (indicator (left ≠ 0 ∨ right ≠ 0))
  | .and, left, right => some (indicator (left ≠ 0 ∧ right ≠ 0))
  | .bitOr, left, right => some (bitwise (· ||| ·) left right)
  | .bitXor, left, right => some (bitwise (· ^^^ ·) left right)
  | .bitAnd, left, right => some (bitwise (· &&& ·) left right)
  | .equal, left, right => some (indicator (left = right))
  | .notEqual, left, right => some (indicator (left ≠ right))
  | .less, left, right => some (indicator (left < right))
  | .greater, left, right => some (indicator (left > right))
  | .lessEqual, left, right => some (indicator (left ≤ right))
  | .greaterEqual, left, right => some (indicator (left ≥ right))
  | .shiftLeft, left, right => some (wrap (left * 2 ^ (right % 64).toNat))
  | .shiftRight, left, right => some (left / 2 ^ (right % 64).toNat)
  | .add, left, right => some (wrap (left + right))
  | .subtract, left, right => some (wrap (left - right))
  | .multiply, left, right => some (wrap (left * right))
  | .divide, left, right => if right = 0 then none else some (wrap (left.tdiv right))
  | .remainder, left, right => if right = 0 then none else some (left.tmod right)

/-- The operator is a division or takes a remainder. -/
def Divides (operator : BinaryOperator) : Prop := operator = .divide ∨ operator = .remainder

theorem meaning?_eq_none_iff {operator : BinaryOperator} {left right : Int} :
    operator.meaning? left right = none ↔ operator.Divides ∧ right = 0 := by
  cases operator <;> simp [meaning?, Divides]

/-- The operators by how tightly they bind, the tightest first. -/
def ranks : List (List BinaryOperator) :=
  [[.multiply, .divide, .remainder],
   [.add, .subtract],
   [.shiftLeft, .shiftRight],
   [.less, .greater, .lessEqual, .greaterEqual],
   [.equal, .notEqual],
   [.bitAnd],
   [.bitXor],
   [.bitOr],
   [.and],
   [.or]]

end BinaryOperator

/-! ## The grammar -/

open BinaryOperator (ranks)

/-- An expression whose binary operators outside of groups belong to the ranks below `depth`. At
depth zero it is an operand: a literal, a truth value, a group or one of these behind unary
operators. -/
inductive Derivation : Nat → Type where
  | literal (numeral : Literal) : Derivation 0
  | constant (holds : Bool) : Derivation 0
  | group (inner : Derivation ranks.length) : Derivation 0
  | unary (operator : UnaryOperator) (operand : Derivation 0) : Derivation 0
  /-- A single operand of the operators of a rank. -/
  | single {depth : Nat} (operand : Derivation depth) : Derivation (depth + 1)
  | binary {depth : Nat} (left : Derivation (depth + 1)) (operator : BinaryOperator)
      (ranked : operator ∈ ranks.getD depth []) (right : Derivation depth) : Derivation (depth + 1)

/-! ## Words -/

theorem intercalate_append {separator : Text} {first second : List Text} (first_ne_nil : first ≠ [])
    (second_ne_nil : second ≠ []) :
    separator.intercalate (first ++ second) =
      separator.intercalate first ++ separator ++ separator.intercalate second := by
  induction first with
  | nil => contradiction
  | cons word rest induction =>
      cases rest with
      | nil =>
          rw [List.intercalate_singleton]
          exact List.intercalate_cons_of_ne_nil second_ne_nil
      | cons other rest =>
          rw [List.cons_append, List.intercalate_cons_of_ne_nil (by simp), induction (by simp),
            List.intercalate_cons_cons]
          simp only [List.append_assoc]

namespace Derivation

variable {depth : Nat}

/-- The words of the expression. -/
def words {depth : Nat} : Derivation depth → List Text
  | .literal numeral => [numeral.text]
  | .constant holds => [if holds then "true".toList else "false".toList]
  | .group inner => ['('] :: inner.words ++ [[')']]
  | .unary operator operand => operator.word :: operand.words
  | .single operand => operand.words
  | .binary left operator _ right => left.words ++ operator.word :: right.words

/-- The expression as it is written, with single spaces between its words. -/
def text (expression : Derivation depth) : Text := [' '].intercalate expression.words

theorem words_ne_nil (expression : Derivation depth) : expression.words ≠ [] := by
  induction expression with
  | literal => simp [words]
  | constant => simp [words]
  | group => simp [words]
  | unary => simp [words]
  | single operand induction => exact induction
  | binary => simp [words]

theorem text_literal (numeral : Literal) : (literal numeral).text = numeral.text :=
  List.intercalate_singleton

theorem text_constant (holds : Bool) :
    (constant holds).text = if holds then "true".toList else "false".toList :=
  List.intercalate_singleton

theorem text_group (inner : Derivation ranks.length) :
    (group inner).text = ['(', ' '] ++ inner.text ++ [' ', ')'] := by
  simp only [text, words, List.cons_append]
  rw [List.intercalate_cons_of_ne_nil (by simp), intercalate_append inner.words_ne_nil (by simp),
    List.intercalate_singleton]
  simp

theorem text_unary (operator : UnaryOperator) (operand : Derivation 0) :
    (unary operator operand).text = operator.word ++ [' '] ++ operand.text :=
  List.intercalate_cons_of_ne_nil operand.words_ne_nil

theorem text_binary (left : Derivation (depth + 1)) (operator : BinaryOperator)
    (ranked : operator ∈ ranks.getD depth []) (right : Derivation depth) :
    (binary left operator ranked right).text =
      left.text ++ ([' '] ++ operator.word ++ [' ']) ++ right.text := by
  simp only [text, words]
  rw [intercalate_append left.words_ne_nil (by simp),
    List.intercalate_cons_of_ne_nil right.words_ne_nil]
  simp

/-! ## Values -/

/-- The value of the expression, all operands of which are evaluated: none if it has a division by
zero. -/
def value? {depth : Nat} : Derivation depth → Option Int
  | .literal numeral => some numeral.number
  | .constant holds => some (indicator holds)
  | .group inner => inner.value?
  | .unary operator operand => operand.value?.map operator.meaning
  | .single operand => operand.value?
  | .binary left operator _ right =>
      left.value?.bind fun first => right.value?.bind fun second => operator.meaning? first second

/-- Some division or remainder in the expression has the value zero to its right. -/
def DividesByZero {depth : Nat} : Derivation depth → Prop
  | .literal _ | .constant _ => False
  | .group inner => inner.DividesByZero
  | .unary _ operand => operand.DividesByZero
  | .single operand => operand.DividesByZero
  | .binary left operator _ right =>
      left.DividesByZero ∨ right.DividesByZero ∨ operator.Divides ∧ right.value? = some 0

/-- No group has the least value of sixty-four bits, whose digits alone are too large a number. -/
def GroupsFit {depth : Nat} : Derivation depth → Prop
  | .literal _ | .constant _ => True
  | .group inner => inner.GroupsFit ∧ inner.value? ≠ some (-2 ^ 63)
  | .unary _ operand => operand.GroupsFit
  | .single operand => operand.GroupsFit
  | .binary left _ _ right => left.GroupsFit ∧ right.GroupsFit

/-- Whether the groups fit can be checked group by group. -/
instance decidableGroupsFit {depth : Nat} :
    (expression : Derivation depth) → Decidable expression.GroupsFit
  | .literal _ | .constant _ => .isTrue trivial
  | .group inner =>
      have := decidableGroupsFit inner
      inferInstanceAs (Decidable (inner.GroupsFit ∧ inner.value? ≠ some (-2 ^ 63)))
  | .unary _ operand => decidableGroupsFit operand
  | .single operand => decidableGroupsFit operand
  | .binary left _ _ right =>
      have := decidableGroupsFit left
      have := decidableGroupsFit right
      inferInstanceAs (Decidable (left.GroupsFit ∧ right.GroupsFit))

/-- An expression has no value exactly if it divides by zero somewhere. -/
theorem value?_eq_none_iff (expression : Derivation depth) :
    expression.value? = none ↔ expression.DividesByZero := by
  induction expression with
  | literal => simp [value?, DividesByZero]
  | constant => simp [value?, DividesByZero]
  | group inner induction => exact induction
  | unary operator operand induction => simp [value?, DividesByZero, induction]
  | single operand induction => exact induction
  | binary left operator ranked right left_induction right_induction =>
      rw [value?, DividesByZero, ← left_induction, ← right_induction]
      cases left.value? with
      | none => simp
      | some first =>
          cases right.value? with
          | none => simp
          | some second => simp [BinaryOperator.meaning?_eq_none_iff]

instance (expression : Derivation depth) : Decidable expression.DividesByZero :=
  decidable_of_iff _ expression.value?_eq_none_iff

end Derivation

end GlslBuild.Condition
