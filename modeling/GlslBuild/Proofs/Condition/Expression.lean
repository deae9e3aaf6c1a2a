import GlslBuild.Proofs.Condition.Arithmetic
import GlslBuild.Proofs.Condition.DefinedTest

/-!
# Conditions with names

Before expansion a condition may hold names and tests for definitions. A name has the number of the
literal that it stands for, or zero; a test is one or zero. Resolving names and tests makes a
condition of literals alone, and it has the same value.
-/

namespace GlslBuild.Condition

open BinaryOperator (ranks)

/-! ## Names and what they stand for -/

/-- A name in a condition: an identifier that is no truth value and does not begin like a test. -/
structure Name where
  text : Text
  isIdentifier : Text.isIdentifier text = true
  ne_true : text ≠ "true".toList
  ne_false : text ≠ "false".toList
  not_test : ¬testWord <+: text

/-- The literals that names stand for. -/
abbrev Bindings := Text → Option Literal

/-- The definitions are those of the bindings, which leave the truth values alone. -/
structure Bindings.Describes (bindings : Bindings) (definitions : Definitions) : Prop where
  find?_eq : ∀ name,
    definitions.find? name = (bindings name).map fun literal => .text literal.text
  true_free : bindings "true".toList = none
  false_free : bindings "false".toList = none

namespace Bindings.Describes

variable {bindings : Bindings} {definitions : Definitions}

theorem text?_eq (describes : bindings.Describes definitions) (name : Text) :
    definitions.text? name = (bindings name).map Literal.text := by
  rw [Definitions.text?, describes.find?_eq]
  cases bindings name <;> rfl

theorem contains_eq (describes : bindings.Describes definitions) (name : Text) :
    definitions.contains name = (bindings name).isSome := by
  rw [Table.contains, describes.find?_eq, Option.isSome_map]

theorem hasTemplates_eq_false (describes : bindings.Describes definitions) :
    definitions.hasTemplates = false := by
  have no_template : definitions.templateNames = [] := by
    rw [List.eq_nil_iff_forall_not_mem]
    intro name member
    rw [Definitions.mem_templateNames_iff, Definitions.template?, describes.find?_eq] at member
    cases found : bindings name <;> simp [found] at member
  rw [Definitions.hasTemplates, no_template]
  rfl

end Bindings.Describes

theorem Literal.suffix_letters_nil :
    ∀ char ∈ ([] : Text), char ∈ ['u', 'U', 'l', 'L'] :=
  fun _ member => absurd member List.not_mem_nil

/-- The literal for a truth value. -/
def Literal.ofTruth (holds : Bool) : Literal where
  radix := .decimal
  digits := [⟨⟨if holds then 1 else 0, by cases holds <;> decide⟩, false⟩]
  suffix := []
  digits_ne_nil := List.cons_ne_nil _ _
  zero_alone := by
    rintro - digit rest same -
    exact (List.cons.inj same).2.symm
  suffix_letters := suffix_letters_nil
  number_lt := by cases holds <;> decide

theorem Literal.number_ofTruth (holds : Bool) :
    ((Literal.ofTruth holds).number : Int) = indicator holds := by
  cases holds <;> rfl

/-! ## The grammar -/

/-- An expression whose binary operators outside of groups belong to the ranks below `depth`, with
names and tests among its operands. -/
inductive Expression : Nat → Type where
  | literal (numeral : Literal) : Expression 0
  | constant (holds : Bool) : Expression 0
  | name (used : Name) : Expression 0
  /-- A test whether an identifier is defined, which may be enclosed in parentheses. -/
  | test (tested : Text) (identifier : Text.isIdentifier tested = true) (enclosed : Bool) :
      Expression 0
  | group (inner : Expression ranks.length) : Expression 0
  | unary (operator : UnaryOperator) (operand : Expression 0) : Expression 0
  | single {depth : Nat} (operand : Expression depth) : Expression (depth + 1)
  | binary {depth : Nat} (left : Expression (depth + 1)) (operator : BinaryOperator)
      (ranked : operator ∈ ranks.getD depth []) (right : Expression depth) : Expression (depth + 1)

namespace Expression

variable {depth : Nat}

/-- The words of the expression. -/
def words {depth : Nat} : Expression depth → List Text
  | .literal numeral => [numeral.text]
  | .constant holds => [if holds then "true".toList else "false".toList]
  | .name used => [used.text]
  | .test tested _ enclosed =>
      testWord :: if enclosed then [['('], tested, [')']] else [tested]
  | .group inner => ['('] :: inner.words ++ [[')']]
  | .unary operator operand => operator.word :: operand.words
  | .single operand => operand.words
  | .binary left operator _ right => left.words ++ operator.word :: right.words

/-- The expression as it is written, with single spaces between its words. -/
def text (expression : Expression depth) : Text := [' '].intercalate expression.words

/-! ## Values -/

section Value

variable (bindings : Bindings)

/-- The value of the expression, all operands of which are evaluated: none if it has a division by
zero. A name that stands for nothing is zero. -/
def value? {depth : Nat} : Expression depth → Option Int
  | .literal numeral => some numeral.number
  | .constant holds => some (indicator holds)
  | .name used => some ((bindings used.text).elim 0 fun literal => literal.number)
  | .test tested _ _ => some (indicator (bindings tested).isSome)
  | .group inner => inner.value?
  | .unary operator operand => operand.value?.map operator.meaning
  | .single operand => operand.value?
  | .binary left operator _ right =>
      left.value?.bind fun first => right.value?.bind fun second => operator.meaning? first second

/-- Some division or remainder in the expression has the value zero to its right. -/
def DividesByZero {depth : Nat} : Expression depth → Prop
  | .literal _ | .constant _ | .name _ | .test _ _ _ => False
  | .group inner => inner.DividesByZero
  | .unary _ operand => operand.DividesByZero
  | .single operand => operand.DividesByZero
  | .binary left operator _ right =>
      left.DividesByZero ∨ right.DividesByZero ∨
        operator.Divides ∧ right.value? bindings = some 0

/-- No group has the least value of sixty-four bits. -/
def GroupsFit {depth : Nat} : Expression depth → Prop
  | .literal _ | .constant _ | .name _ | .test _ _ _ => True
  | .group inner => inner.GroupsFit ∧ inner.value? bindings ≠ some (-2 ^ 63)
  | .unary _ operand => operand.GroupsFit
  | .single operand => operand.GroupsFit
  | .binary left _ _ right => left.GroupsFit ∧ right.GroupsFit

/-! ## Resolving -/

/-- The expression with literals in place of names and tests. A name that stands for nothing gives
way to a truth value. -/
def resolve {depth : Nat} : Expression depth → Derivation depth
  | .literal numeral => .literal numeral
  | .constant holds => .constant holds
  | .name used => (bindings used.text).elim (.constant false) .literal
  | .test tested _ _ => .literal (Literal.ofTruth (bindings tested).isSome)
  | .group inner => .group inner.resolve
  | .unary operator operand => .unary operator operand.resolve
  | .single operand => .single operand.resolve
  | .binary left operator ranked right => .binary left.resolve operator ranked right.resolve

theorem value?_resolve (expression : Expression depth) :
    (expression.resolve bindings).value? = expression.value? bindings := by
  induction expression with
  | literal | constant => rfl
  | name used =>
      rw [resolve, value?]
      cases bindings used.text <;> rfl
  | test tested => exact congrArg some (Literal.number_ofTruth _)
  | group inner induction => exact induction
  | unary operator operand induction => rw [resolve, value?, Derivation.value?, induction]
  | single operand induction => exact induction
  | binary left operator ranked right left_induction right_induction =>
      rw [resolve, value?, Derivation.value?, left_induction, right_induction]

theorem dividesByZero_resolve (expression : Expression depth) :
    (expression.resolve bindings).DividesByZero ↔ expression.DividesByZero bindings := by
  induction expression with
  | literal | constant | test => exact Iff.rfl
  | name used =>
      rw [resolve, DividesByZero]
      cases bindings used.text <;> exact Iff.rfl
  | group inner induction => exact induction
  | unary operator operand induction => exact induction
  | single operand induction => exact induction
  | binary left operator ranked right left_induction right_induction =>
      rw [resolve, DividesByZero, Derivation.DividesByZero, left_induction, right_induction,
        value?_resolve]

theorem groupsFit_resolve (expression : Expression depth) :
    (expression.resolve bindings).GroupsFit ↔ expression.GroupsFit bindings := by
  induction expression with
  | literal | constant | test => exact Iff.rfl
  | name used =>
      rw [resolve, GroupsFit]
      cases bindings used.text <;> exact Iff.rfl
  | group inner induction =>
      rw [resolve, GroupsFit, Derivation.GroupsFit, induction, value?_resolve]
  | unary operator operand induction => exact induction
  | single operand induction => exact induction
  | binary left operator ranked right left_induction right_induction =>
      rw [resolve, GroupsFit, Derivation.GroupsFit, left_induction, right_induction]

instance (expression : Expression depth) : Decidable (expression.GroupsFit bindings) :=
  decidable_of_iff _ (groupsFit_resolve bindings expression)

end Value

end Expression

end GlslBuild.Condition
