import GlslBuild.Proofs.Condition.Answers
import GlslBuild.Proofs.Condition.Expression
import GlslBuild.Proofs.Condition.Reduction
import GlslBuild.Proofs.Expansion.Substitution

/-!
# Evaluating expressions

A condition goes through its evaluation as a text: tests are answered, names are replaced until
nothing changes, groups are reduced. Where single spaces stand between the words of the condition,
each of these works word by word, and what is reduced in the end is the resolved expression.
-/

namespace GlslBuild.Condition

open BinaryOperator (ranks)

/-! ## Words of expressions -/

theorem gaps_of_all {word : Text} (gaps : (word.all fun char => !Text.isWord char) = true) :
    ∀ char ∈ word, Text.isWord char = false := by
  intro char member
  simpa using List.all_eq_true.mp gaps char member

theorem UnaryOperator.gaps_word (operator : UnaryOperator) :
    ∀ char ∈ operator.word, Text.isWord char = false :=
  gaps_of_all (by cases operator <;> decide)

theorem BinaryOperator.gaps_word (operator : BinaryOperator) :
    ∀ char ∈ operator.word, Text.isWord char = false :=
  gaps_of_all (by cases operator <;> decide)

theorem not_startsIdentifier_of_isDigit {char : Char} (digit : char.isDigit = true) :
    Text.startsIdentifier char = false := by
  rw [Bool.eq_false_iff]
  intro starts
  change (decide (char.val ≥ '0'.val) && decide (char.val ≤ '9'.val)) = true at digit
  change ((decide (char.val ≥ 'A'.val ∧ char.val ≤ 'Z'.val) ||
    (char.val ≥ 'a'.val && char.val ≤ 'z'.val)) || char == '_') = true at starts
  simp only [Bool.or_eq_true, Bool.and_eq_true, decide_eq_true_eq, beq_iff_eq, ge_iff_le,
    UInt32.le_iff_toNat_le, Char.toNat_val, Char.reduceToNat] at digit starts
  rcases starts with (⟨low, high⟩ | ⟨low, high⟩) | rfl
  · omega
  · omega
  · simp at digit

namespace Literal

variable (literal : Literal)

theorem text_ne_nil : literal.text ≠ [] := by
  obtain ⟨char, rest, spelled, -, -⟩ := literal.exists_text_eq_cons
  simp [spelled]

theorem isWord_of_mem_text : ∀ char ∈ literal.text, Text.isWord char = true := by
  obtain ⟨first, rest, spelled, digit, alphanum⟩ := literal.exists_text_eq_cons
  intro char member
  apply Text.isWord_of_continuesIdentifier
  apply Text.continuesIdentifier_of_isAlphanum
  rw [spelled, List.mem_cons] at member
  rcases member with rfl | member
  · simp [Char.isAlphanum, digit]
  · exact alphanum char member

theorem isIdentifier_text : Text.isIdentifier literal.text = false := by
  obtain ⟨first, rest, spelled, digit, alphanum⟩ := literal.exists_text_eq_cons
  rw [spelled, Text.isIdentifier, not_startsIdentifier_of_isDigit digit, Bool.false_and]

theorem not_test : ¬testWord <+: literal.text := by
  obtain ⟨first, rest, spelled, digit, -⟩ := literal.exists_text_eq_cons
  rintro ⟨tail, same⟩
  have head := congrArg List.head? same
  rw [spelled, List.head?_append_of_ne_nil _ (by decide), List.head?_cons,
    show testWord.head? = some 'd' by decide] at head
  rw [← Option.some.inj head] at digit
  contradiction

end Literal

namespace Expression

/-- The expression with literals in place of tests. -/
def answered (bindings : Bindings) {depth : Nat} : Expression depth → Expression depth
  | .literal numeral => .literal numeral
  | .constant holds => .constant holds
  | .name used => .name used
  | .test tested _ _ => .literal (Literal.ofTruth (bindings tested).isSome)
  | .group inner => .group (inner.answered bindings)
  | .unary operator operand => .unary operator (operand.answered bindings)
  | .single operand => .single (operand.answered bindings)
  | .binary left operator ranked right =>
      .binary (left.answered bindings) operator ranked (right.answered bindings)

theorem words_ne_nil {depth : Nat} (expression : Expression depth) : expression.words ≠ [] := by
  induction expression with
  | single operand induction => exact induction
  | _ => simp [words]

end Expression

section Stages

variable {bindings : Bindings} {definitions : Definitions} {depth : Nat}

namespace Expression

variable (describes : bindings.Describes definitions)

include describes

theorem answers_words (expression : Expression depth) :
    Answers definitions expression.words (expression.answered bindings).words := by
  induction expression with
  | literal numeral =>
      exact answers_word numeral.text_ne_nil numeral.isWord_of_mem_text numeral.not_test
  | constant holds =>
      cases holds with
      | true =>
          exact answers_word (by decide) (List.all_eq_true.mp (by decide)) (by decide)
      | false =>
          exact answers_word (by decide) (List.all_eq_true.mp (by decide)) (by decide)
  | name used =>
      obtain ⟨name_ne_nil, continues⟩ := Text.all_of_isIdentifier used.isIdentifier
      exact answers_word name_ne_nil
        (fun char member => Text.isWord_of_continuesIdentifier (continues char member))
        used.not_test
  | test tested identifier enclosed =>
      have spelled : (Literal.ofTruth (bindings tested).isSome).text =
          [answer definitions tested] := by
        rw [answer, describes.contains_eq]
        cases (bindings tested).isSome <;> rfl
      rw [answered, words, words, spelled]
      exact answers_test identifier enclosed
  | group inner induction =>
      exact ((answers_gaps (gaps_of_all (by decide))).append induction).append
        (answers_gaps (gaps_of_all (by decide)))
  | unary operator operand induction => exact (answers_gaps operator.gaps_word).append induction
  | single operand induction => exact induction
  | binary left operator ranked right left_induction right_induction =>
      exact left_induction.append ((answers_gaps operator.gaps_word).append right_induction)

theorem answerTests_text (expression : Expression depth) :
    answerTests definitions expression.text = (expression.answered bindings).text := by
  have answers := expression.answers_words describes none .nil
  rw [List.append_nil, spaced_eq_cons expression.words_ne_nil, spaced_eq_cons (words_ne_nil _),
    ← text, ← text, answerTestsFrom_space, answerTestsFrom_behind_space] at answers
  rw [answerTests, (List.cons.inj answers).2, answerTestsFrom]
  exact List.append_nil _

end Expression

/-! ## Replacing names -/

theorem mapIdentifiers_spaced (replacement : Text → Text) (words : List Text) :
    Text.mapIdentifiers replacement (spaced words) =
      spaced (words.map (Text.mapIdentifiers replacement)) := by
  induction words with
  | nil => rfl
  | cons word words induction =>
      have ends := (apart_spaced_append words .nil).ends
      rw [List.append_nil] at ends
      rw [spaced, List.flatMap_cons, ← spaced, List.cons_append,
        Text.mapIdentifiers_cons_of_not_isWord replacement isWord_space,
        Text.mapIdentifiers_append_of_ends replacement ends, induction]
      rfl

/-- Replacing identifiers works word by word. -/
theorem mapIdentifiers_intercalate (replacement : Text → Text) {words : List Text}
    (words_ne_nil : words ≠ []) :
    Text.mapIdentifiers replacement ([' '].intercalate words) =
      [' '].intercalate (words.map (Text.mapIdentifiers replacement)) := by
  have behind := mapIdentifiers_spaced replacement words
  rw [spaced_eq_cons words_ne_nil, spaced_eq_cons (by simpa using words_ne_nil),
    Text.mapIdentifiers_cons_of_not_isWord replacement isWord_space] at behind
  exact (List.cons.inj behind).2

open Expansion (substitute)

variable (definitions) in
/-- Replacing names makes the old words the new ones, which stay as they are. -/
def Replaces (old new : List Text) : Prop :=
  old.map (substitute definitions true) = new ∧ new.map (substitute definitions true) = new

theorem Replaces.append {first second first_new second_new : List Text}
    (first_replaces : Replaces definitions first first_new)
    (second_replaces : Replaces definitions second second_new) :
    Replaces definitions (first ++ second) (first_new ++ second_new) :=
  ⟨by rw [List.map_append, first_replaces.1, second_replaces.1],
    by rw [List.map_append, first_replaces.2, second_replaces.2]⟩

theorem Replaces.of_kept {word : Text} (kept : substitute definitions true word = word) :
    Replaces definitions [word] [word] := by
  have same : [word].map (substitute definitions true) = [word] := by
    rw [List.map_singleton, kept]
  exact ⟨same, same⟩

theorem replaces_gaps {word : Text} (gaps : ∀ char ∈ word, Text.isWord char = false) :
    Replaces definitions [word] [word] :=
  .of_kept (Text.mapIdentifiers_of_gaps _ gaps)

theorem replaces_literal (literal : Literal) :
    Replaces definitions [literal.text] [literal.text] := by
  apply Replaces.of_kept
  rw [substitute, Text.mapIdentifiers_of_word _ literal.text_ne_nil literal.isWord_of_mem_text,
    literal.isIdentifier_text]
  rfl

theorem substitute_identifier {name : Text} (identifier : Text.isIdentifier name = true) :
    substitute definitions true name =
      (definitions.text? name).getD (Expansion.unboundName true name) := by
  obtain ⟨name_ne_nil, continues⟩ := Text.all_of_isIdentifier identifier
  have all := fun char member => Text.isWord_of_continuesIdentifier (continues char member)
  rw [substitute, Text.mapIdentifiers_of_word _ name_ne_nil all, if_pos identifier]

section Describes

variable (describes : bindings.Describes definitions)

include describes

theorem replaces_constant (holds : Bool) :
    Replaces definitions [if holds then "true".toList else "false".toList]
      [if holds then "true".toList else "false".toList] := by
  apply Replaces.of_kept
  cases holds with
  | true =>
      rw [if_pos rfl, substitute_identifier (by decide), describes.text?_eq, describes.true_free]
      decide
  | false =>
      rw [if_neg Bool.false_ne_true, substitute_identifier (by decide), describes.text?_eq,
        describes.false_free]
      decide

theorem replaces_name (used : Name) :
    Replaces definitions [used.text]
      [(bindings used.text).elim "false".toList Literal.text] := by
  have replaced : substitute definitions true used.text =
      (bindings used.text).elim "false".toList Literal.text := by
    rw [substitute_identifier used.isIdentifier, describes.text?_eq]
    cases bindings used.text with
    | none =>
        have other : (used.text != "true".toList && used.text != "false".toList) = true := by
          rw [Bool.and_eq_true, bne_iff_ne, bne_iff_ne]
          exact ⟨used.ne_true, used.ne_false⟩
        exact if_pos other
    | some literal => rfl
  refine ⟨by rw [List.map_singleton, replaced], ?_⟩
  cases bindings used.text with
  | none => exact (replaces_constant describes false).2
  | some literal => exact (replaces_literal literal).2

/-- Once its tests are answered, replacing names resolves an expression. -/
theorem Expression.replaces_words (expression : Expression depth) :
    Replaces definitions (expression.answered bindings).words
      (expression.resolve bindings).words := by
  induction expression with
  | literal numeral => exact replaces_literal numeral
  | constant holds => exact replaces_constant describes holds
  | name used =>
      have resolved : ((name used).resolve bindings).words =
          [(bindings used.text).elim "false".toList Literal.text] := by
        rw [resolve]
        cases bindings used.text <;> rfl
      rw [resolved]
      exact replaces_name describes used
  | test tested => exact replaces_literal _
  | group inner induction =>
      exact ((replaces_gaps (gaps_of_all (by decide))).append induction).append
        (replaces_gaps (gaps_of_all (by decide)))
  | unary operator operand induction => exact (replaces_gaps operator.gaps_word).append induction
  | single operand induction => exact induction
  | binary left operator ranked right left_induction right_induction =>
      exact left_induction.append ((replaces_gaps operator.gaps_word).append right_induction)

/-! ## Evaluation -/

/-- The second pass changes nothing. -/
theorem Expression.ofCondition_answerTests {passLimit : Nat} (enough : 2 ≤ passLimit)
    (expression : Expression depth) :
    Expansion.ofCondition definitions passLimit (answerTests definitions expression.text) =
      .ok (expression.resolve bindings).text := by
  obtain ⟨remaining, rfl⟩ := Nat.exists_eq_add_of_le' enough
  have textual := describes.hasTemplates_eq_false
  obtain ⟨replaced, kept⟩ := expression.replaces_words describes
  have first : substitute definitions true (expression.answered bindings).text =
      (expression.resolve bindings).text := by
    rw [substitute, text, mapIdentifiers_intercalate _ (words_ne_nil _)]
    exact congrArg _ replaced
  have second : substitute definitions true (expression.resolve bindings).text =
      (expression.resolve bindings).text := by
    rw [substitute, Derivation.text, mapIdentifiers_intercalate _ (Derivation.words_ne_nil _)]
    exact congrArg _ kept
  rw [expression.answerTests_text describes, Expansion.ofCondition,
    Expansion.settle_succ_of_textual textual, first]
  split
  · next same => rw [same]
  · rw [Expansion.settle_succ_of_textual textual, if_pos second]

end Describes

end Stages

/-- A condition about names of literals holds exactly if its value is not zero, and it is refused as
an expression exactly if it divides by zero somewhere. A name that stands for nothing is zero, and a
test is one or zero. -/
theorem evaluate_text {bindings : Bindings} {definitions : Definitions}
    (describes : bindings.Describes definitions) {passLimit : Nat} (enough : 2 ≤ passLimit)
    (expression : Expression ranks.length) (fits : expression.GroupsFit bindings) :
    (evaluate definitions passLimit expression.text = .ok true ↔
        ∃ value, expression.value? bindings = some value ∧ value ≠ 0) ∧
      (evaluate definitions passLimit expression.text = .ok false ↔
        expression.value? bindings = some 0) ∧
      ((∃ shown reason, evaluate definitions passLimit expression.text =
          .error (.invalidExpression shown reason)) ↔ expression.DividesByZero bindings) := by
  have resolved_fits := (expression.groupsFit_resolve bindings).mpr fits
  have evaluated : evaluate definitions passLimit expression.text =
      (reduce (expression.resolve bindings).text).map (· != 0) := by
    rw [evaluate, expression.ofCondition_answerTests describes enough]
    rfl
  rw [evaluated, reduce, Derivation.valueOf_text resolved_fits, Derivation.result,
    ← expression.dividesByZero_resolve, ← expression.value?_resolve,
    ← Derivation.value?_eq_none_iff, ← Derivation.map_toInt_word?]
  cases (expression.resolve bindings).word? with
  | none => simp [Except.mapError, Except.map]
  | some word => simp [Except.mapError, Except.map, toInt_eq_zero_iff]

namespace Sample

/-- A decimal literal of one digit. -/
def nine : Literal := digit (Fin.last 9)

/-- `SAMPLES` stands for nine, and nothing else stands for anything. -/
def nineSamples : Bindings := fun name => if name = "SAMPLES".toList then some nine else none

/-- The definition of `SAMPLES`. -/
def sampling : Definitions := Table.empty.insert "SAMPLES".toList (.text "9".toList)

theorem describes_sampling : nineSamples.Describes sampling where
  find?_eq := by
    intro name
    rw [sampling, nineSamples, Table.find?_insert, Table.find?_empty]
    by_cases same : name = "SAMPLES".toList
    · rw [if_pos same, if_pos same]
      rfl
    · rw [if_neg same, if_neg same]
      rfl
  true_free := by decide
  false_free := by decide

/-- A name that is bound. -/
def samples : Name := ⟨"SAMPLES".toList, by decide, by decide, by decide, by decide⟩

/-- A name that is not bound. -/
def half : Name := ⟨"HALF".toList, by decide, by decide, by decide, by decide⟩

/-- The expression as an operand of operators that bind less tightly. -/
def lift {depth : Nat} (expression : Expression depth) : (steps : Nat) → Expression (depth + steps)
  | 0 => expression
  | steps + 1 => .single (lift expression steps)

/-- The place of an operator among the ranks. -/
def rank (operator : BinaryOperator) : Nat := levelCount - 1 - operator.level

theorem mem_ranks (operator : BinaryOperator) : operator ∈ ranks.getD (rank operator) [] := by
  cases operator <;> decide

/-- Two operands with an operator between them. -/
def between (operator : BinaryOperator) (left : Expression (rank operator + 1))
    (right : Expression (rank operator)) : Expression (rank operator + 1) :=
  .binary left operator (mem_ranks operator) right

/-- The expression `defined ( SAMPLES ) && ( SAMPLES - HALF ) % 0x1Fu == 9 && ! defined SHADOWS`. -/
def tested : Expression ranks.length :=
  let difference := lift (between .subtract (lift (.name samples) 2) (lift (.name half) 1)) 8
  let remainder := between .remainder (lift (.group difference) 1) (.literal thirtyOne)
  let equation := between .equal (lift remainder 4) (lift (.literal nine) 4)
  let sampled := between .and (lift (.test "SAMPLES".toList (by decide) true) 9) (lift equation 3)
  lift (between .and sampled (lift (.unary .not (.test "SHADOWS".toList (by decide) false)) 8)) 1

/-- The expression `SAMPLES / HALF`. -/
def halved : Expression ranks.length :=
  lift (between .divide (lift (.name samples) 1) (.name half)) 9

end Sample

/-- Two passes suffice, and a name that stands for nothing divides like zero. -/
theorem evaluate_text_samples :
    Sample.nineSamples.Describes Sample.sampling ∧
      Sample.tested.GroupsFit Sample.nineSamples ∧
      Sample.tested.text =
        "defined ( SAMPLES ) && ( SAMPLES - HALF ) % 0x1Fu == 9 && ! defined SHADOWS".toList ∧
      evaluate Sample.sampling 2 Sample.tested.text = .ok true ∧
      Sample.halved.GroupsFit Sample.nineSamples ∧
      Sample.halved.text = "SAMPLES / HALF".toList ∧
      ∃ shown reason, evaluate Sample.sampling 2 Sample.halved.text =
        .error (.invalidExpression shown reason) := by
  have tested_fits : Sample.tested.GroupsFit Sample.nineSamples := by decide +kernel
  have halved_fits : Sample.halved.GroupsFit Sample.nineSamples := by decide +kernel
  have tested_value : Sample.tested.value? Sample.nineSamples = some 1 := by decide +kernel
  have halved_divides : Sample.halved.DividesByZero Sample.nineSamples :=
    .inr (.inr ⟨.inl rfl, by decide +kernel⟩)
  have tested_evaluates :=
    evaluate_text Sample.describes_sampling (Nat.le_refl 2) Sample.tested tested_fits
  have halved_evaluates :=
    evaluate_text Sample.describes_sampling (Nat.le_refl 2) Sample.halved halved_fits
  exact ⟨Sample.describes_sampling, tested_fits, by decide +kernel,
    tested_evaluates.1.mpr ⟨1, tested_value, by decide⟩, halved_fits, by decide +kernel,
    halved_evaluates.2.2.mpr halved_divides⟩

end GlslBuild.Condition
