import GlslBuild.Proofs.Condition.Phrase
import GlslBuild.Proofs.Condition.Row

/-!
# Reading rows

A row of tokens that an expression is written as, with values in place of its groups, holds a phrase
of the same word. So it is read as the word of the expression.
-/

namespace GlslBuild.Condition

open BinaryOperator (ranks)

/-- The numeral of a value is a phrase at every depth: a number, or the opposite of one. -/
theorem exists_phrase_numeralTokens (depth : Nat) (value : Int64) :
    ∃ phrase : Phrase depth, phrase.tokens = numeralTokens value ∧ phrase.word? = some value := by
  induction depth with
  | zero =>
      rw [numeralTokens]
      split
      · refine ⟨.unary .negate (.number (-value)), rfl, ?_⟩
        simp [Phrase.word?, UnaryOperator.apply]
      · exact ⟨.number value, rfl, rfl⟩
  | succ depth induction =>
      obtain ⟨phrase, spelled, word⟩ := induction
      exact ⟨.single phrase, spelled, word⟩

/-! ## Settled expressions -/

namespace Derivation

/-- The row is the expression with the values of its groups in their places. -/
inductive Settles : {depth : Nat} → Derivation depth → Row → Prop where
  | literal (numeral : Literal) : Settles (.literal numeral) (Row.literal numeral)
  | constant (holds : Bool) : Settles (.constant holds) (Row.constant holds)
  | group {inner : Derivation ranks.length} {value : Int64} (computed : inner.word? = some value)
      (fits : value.toInt ≠ -2 ^ 63) : Settles (.group inner) (Row.numeral value fits).padded
  | unary (operator : UnaryOperator) {operand : Derivation 0} {row : Row}
      (settles : operand.Settles row) :
      Settles (.unary operator operand) ((Row.symbol operator.symbol).next row)
  | single {depth : Nat} {operand : Derivation depth} {row : Row} (settles : operand.Settles row) :
      Settles (.single operand) row
  | binary {depth : Nat} {left : Derivation (depth + 1)} {operator : BinaryOperator}
      (ranked : operator ∈ ranks.getD depth []) {right : Derivation depth} {first second : Row}
      (left_settles : left.Settles first) (right_settles : right.Settles second) :
      Settles (.binary left operator ranked right)
        (first.next ((Row.symbol operator.symbol).next second))


/-- With the values of its groups in their places an expression is a phrase of the same word. -/
theorem Settles.exists_phrase {depth : Nat} {expression : Derivation depth} {row : Row}
    (settles : expression.Settles row) :
    ∃ phrase : Phrase depth, phrase.tokens = row.tokens ∧ phrase.word? = expression.word? := by
  induction settles with
  | literal numeral => exact ⟨.number (Int64.ofNat numeral.number), rfl, rfl⟩
  | constant holds => exact ⟨.number (truth holds), rfl, rfl⟩
  | @group inner value computed fits =>
      obtain ⟨phrase, spelled, word⟩ := exists_phrase_numeralTokens 0 value
      exact ⟨phrase, spelled, word.trans computed.symm⟩
  | unary operator settles induction =>
      obtain ⟨phrase, spelled, word⟩ := induction
      refine ⟨.unary operator phrase, ?_, ?_⟩
      · rw [Phrase.tokens, spelled]
        rfl
      · rw [Phrase.word?, word, word?]
  | single settles induction =>
      obtain ⟨phrase, spelled, word⟩ := induction
      exact ⟨.single phrase, spelled, word⟩
  | @binary depth left operator ranked right first second _ _ left_induction right_induction =>
      obtain ⟨left_phrase, left_spelled, left_word⟩ := left_induction
      obtain ⟨right_phrase, right_spelled, right_word⟩ := right_induction
      refine ⟨.binary left_phrase operator ranked right_phrase, ?_, ?_⟩
      · rw [Phrase.tokens, left_spelled, right_spelled]
        rfl
      · rw [Phrase.word?, left_word, right_word, word?]

/-- The word of the expression, or the division by zero that it fails at. -/
def result {depth : Nat} (expression : Derivation depth) : Except Reason Int64 :=
  match expression.word? with
  | none => .error .divisionByZero
  | some value => .ok value

/-- Only the tokens of a text without parentheses matter. -/
theorem valueOfFlat_of_settles {expression : Derivation ranks.length} {row same : Row}
    (settles : expression.Settles row) (tokens_eq : same.tokens = row.tokens) :
    valueOfFlat same.text = expression.result := by
  obtain ⟨phrase, spelled, word⟩ := settles.exists_phrase
  rw [valueOfFlat, same.tokenize_text, tokens_eq, ← spelled]
  simp only [phrase.valueOfTokens_tokens, word]
  rfl

end Derivation

end GlslBuild.Condition
