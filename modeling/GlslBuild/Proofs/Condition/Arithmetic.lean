import GlslBuild.Proofs.Condition.Derivation

/-!
# Arithmetic on words

Conditions are computed on words of sixty-four bits. Read as integers, the words are what the
operators make of the integers, so the word of an expression is its value.
-/

namespace GlslBuild.Condition

/-! ## Operators on words and on integers -/

theorem toInt_truth (holds : Bool) : (truth holds).toInt = indicator holds := by
  cases holds <;> decide

theorem toInt_eq_zero_iff {word : Int64} : word.toInt = 0 ↔ word = 0 := by
  rw [← Int64.toInt_inj, Int64.toInt_zero]

theorem UnaryOperator.toInt_apply (operator : UnaryOperator) (word : Int64) :
    (operator.apply word).toInt = operator.meaning word.toInt := by
  cases operator with
  | not => simp [apply, meaning, toInt_truth, toInt_eq_zero_iff]
  | complement =>
      have least := word.le_toInt
      have most := word.toInt_lt
      simp only [apply, meaning, Int64.toInt_not]
      apply Int.bmod_eq_of_le <;> omega
  | negate => exact Int64.toInt_neg word
  | plus => rfl

/-- The amount of a shift counts modulo sixty-four. -/
theorem toNat_smod_sixtyFour (word : Int64) :
    (word.toBitVec.smod 64).toNat = (word.toInt % 64).toNat := by
  have same : (word.toBitVec.smod 64).toInt = word.toInt % 64 := by
    rw [BitVec.toInt_smod, Int64.toInt_toBitVec]
    exact Int.fmod_eq_emod_of_nonneg _ (by decide)
  have least := Int.emod_nonneg word.toInt (show (64 : Int) ≠ 0 by decide)
  have bounded := (word.toBitVec.smod 64).isLt
  rw [← same, BitVec.toInt_eq_toNat_cond] at least ⊢
  split at least <;> omega

theorem toInt_shiftLeft (left right : Int64) :
    (left <<< right).toInt = wrap (left.toInt * 2 ^ (right.toInt % 64).toNat) := by
  have unsigned : left.toInt = (left.toBitVec.toNat : Int).bmod (2 ^ 64) := by
    rw [← Int64.toInt_toBitVec, BitVec.toInt_eq_toNat_bmod]
  rw [← Int64.toInt_toBitVec (left <<< right), Int64.toBitVec_shiftLeft, BitVec.shiftLeft_eq',
    BitVec.toInt_shiftLeft, toNat_smod_sixtyFour, Nat.shiftLeft_eq, wrap, unsigned,
    Int.bmod_mul_bmod]
  push_cast
  rfl

theorem toInt_shiftRight (left right : Int64) :
    (left >>> right).toInt = left.toInt / 2 ^ (right.toInt % 64).toNat := by
  rw [← Int64.toInt_toBitVec, Int64.toBitVec_shiftRight, BitVec.sshiftRight',
    BitVec.toInt_sshiftRight, toNat_smod_sixtyFour, Int.shiftRight_eq_div_pow,
    Int64.toInt_toBitVec]
  push_cast
  rfl

theorem bitwise_toInt (combine : BitVec 64 → BitVec 64 → BitVec 64) (left right : Int64) :
    bitwise combine left.toInt right.toInt = (combine left.toBitVec right.toBitVec).toInt := by
  rw [bitwise, ← Int64.toInt_toBitVec, ← Int64.toInt_toBitVec, BitVec.ofInt_toInt,
    BitVec.ofInt_toInt]

theorem BinaryOperator.map_toInt_apply (operator : BinaryOperator) (left right : Int64) :
    (operator.apply left right).map Int64.toInt = operator.meaning? left.toInt right.toInt := by
  cases operator with
  | or => simp [apply, meaning?, toInt_truth, toInt_eq_zero_iff]
  | and => simp [apply, meaning?, toInt_truth, toInt_eq_zero_iff]
  | bitOr => exact congrArg some (bitwise_toInt (· ||| ·) left right).symm
  | bitXor => exact congrArg some (bitwise_toInt (· ^^^ ·) left right).symm
  | bitAnd => exact congrArg some (bitwise_toInt (· &&& ·) left right).symm
  | equal => simp [apply, meaning?, toInt_truth, Int64.toInt_inj]
  | notEqual => simp [apply, meaning?, toInt_truth, Int64.toInt_inj]
  | less => simp [apply, meaning?, toInt_truth, Int64.lt_iff_toInt_lt]
  | greater => simp [apply, meaning?, toInt_truth, Int64.lt_iff_toInt_lt]
  | lessEqual => simp [apply, meaning?, toInt_truth, Int64.le_iff_toInt_le]
  | greaterEqual => simp [apply, meaning?, toInt_truth, Int64.le_iff_toInt_le]
  | shiftLeft => exact congrArg some (toInt_shiftLeft left right)
  | shiftRight => exact congrArg some (toInt_shiftRight left right)
  | add => exact congrArg some (Int64.toInt_add left right)
  | subtract => exact congrArg some (Int64.toInt_sub left right)
  | multiply => exact congrArg some (Int64.toInt_mul left right)
  | divide =>
      rw [apply, meaning?, apply_ite (Option.map Int64.toInt)]
      simp only [toInt_eq_zero_iff, Option.map_none, Option.map_some, Int64.toInt_div, wrap]
  | remainder =>
      rw [apply, meaning?, apply_ite (Option.map Int64.toInt)]
      simp only [toInt_eq_zero_iff, Option.map_none, Option.map_some, Int64.toInt_mod]

namespace Derivation

/-- The word that the expression is computed to, if it does not divide by zero. -/
def word? {depth : Nat} : Derivation depth → Option Int64
  | .literal numeral => some (Int64.ofNat numeral.number)
  | .constant holds => some (truth holds)
  | .group inner => inner.word?
  | .unary operator operand => operand.word?.map operator.apply
  | .single operand => operand.word?
  | .binary left operator _ right =>
      left.word?.bind fun first => right.word?.bind fun second => operator.apply first second

/-- Read as an integer, the word of an expression is its value. -/
theorem map_toInt_word? {depth : Nat} (expression : Derivation depth) :
    expression.word?.map Int64.toInt = expression.value? := by
  induction expression with
  | literal numeral => exact congrArg some (Int64.toInt_ofNat_of_lt numeral.number_lt)
  | constant holds => exact congrArg some (toInt_truth holds)
  | group inner induction => exact induction
  | unary operator operand induction =>
      rw [word?, value?, ← induction, Option.map_map, Option.map_map]
      congr 1
      funext word
      exact operator.toInt_apply word
  | single operand induction => exact induction
  | binary left operator ranked right left_induction right_induction =>
      rw [word?, value?, ← left_induction, ← right_induction]
      cases left.word? with
      | none => rfl
      | some first =>
          cases right.word? with
          | none => rfl
          | some second => exact operator.map_toInt_apply first second

end Derivation

end GlslBuild.Condition
