import GlslBuild.Proofs.Condition.Reading

/-!
# Reducing derivations

A condition is reduced by rewriting its text: the first group without parentheses inside gives way
to the digits of its value. For every expression of the grammar this comes to the value of the
expression, provided that the value of every group can be written as a literal again.
-/

namespace GlslBuild.Condition

open BinaryOperator (ranks)

/-! ## The first group -/

theorem firstGroup?_eq_none {text : Text} (flat : ∀ char ∈ text, isFlatChar char = true) :
    firstGroup? text = none := by
  induction text with
  | nil => rfl
  | cons char rest induction =>
      have other : (char == '(') = false := by
        rw [beq_eq_false_iff_ne]
        rintro rfl
        exact absurd (flat '(' List.mem_cons_self) (by decide)
      have none_inside := induction fun inner inside => flat inner (List.mem_cons_of_mem _ inside)
      rw [firstGroup?, other, none_inside]
      rfl

/-- No group begins before a parenthesis if only opening ones stand in between. -/
theorem head?_dropWhile_isFlatChar {before : Text} (unclosed : ')' ∉ before) (rest : Text) :
    ((before ++ '(' :: rest).dropWhile isFlatChar).head? = some '(' := by
  induction before with
  | nil => rfl
  | cons char before induction =>
      rw [List.mem_cons, not_or] at unclosed
      rw [List.cons_append, List.dropWhile_cons]
      split
      · exact induction unclosed.2
      · next parenthesis =>
          have opening : char = '(' := by
            by_contra other
            exact parenthesis (by simp [isFlatChar, other, Ne.symm unclosed.1])
          rw [opening]
          rfl

/-- A group is the first one if nothing is closed in front of it and nothing is opened inside. -/
theorem firstGroup?_append {before inside : Text} (unclosed : ')' ∉ before)
    (flat : ∀ char ∈ inside, isFlatChar char = true) (after : Text) :
    firstGroup? (before ++ '(' :: inside ++ ')' :: after) = some (before, inside, after) := by
  induction before with
  | nil =>
      have dropped : (inside ++ ')' :: after).dropWhile isFlatChar = ')' :: after := by
        rw [List.dropWhile_append_of_pos flat]
        rfl
      have taken : (inside ++ ')' :: after).takeWhile isFlatChar = inside := by
        rw [List.takeWhile_append_of_pos flat]
        simp [isFlatChar]
      rw [List.nil_append, List.cons_append, firstGroup?, dropped, taken]
      rfl
  | cons char before induction =>
      -- A character of `before` opens no group: if it is a parenthesis, an opening one follows.
      have later : ')' ∉ before := fun inside => unclosed (List.mem_cons_of_mem _ inside)
      have head := head?_dropWhile_isFlatChar later (inside ++ ')' :: after)
      rw [List.append_assoc, List.cons_append] at induction
      rw [List.append_assoc, List.cons_append, List.cons_append, firstGroup?]
      split
      · next closes =>
          rw [closes] at head
          exact absurd (Option.some.inj head) (by decide)
      · rw [induction later]
        rfl

theorem valueOf_of_flat {text : Text} (flat : ∀ char ∈ text, isFlatChar char = true) :
    valueOf text = valueOfFlat text := by
  rw [valueOf]
  split
  · rfl
  · next found =>
      rw [firstGroup?_eq_none flat] at found
      contradiction

theorem valueOf_group {before inside : Text} (unclosed : ')' ∉ before)
    (flat : ∀ char ∈ inside, isFlatChar char = true) (after : Text) :
    valueOf (before ++ '(' :: inside ++ ')' :: after) =
      match valueOfFlat inside with
      | .error reason => .error reason
      | .ok value => valueOf (before ++ groupValue value ++ after) := by
  have first := firstGroup?_append unclosed flat after
  rw [valueOf]
  split
  · next none_found =>
      rw [first] at none_found
      contradiction
  · next found =>
      rw [first] at found
      cases found
      rfl

/-! ## Rewriting in place -/

/-- Whatever surrounds the text, reduction puts another one in its place, or comes upon a division
by zero if there is none. No group may be closed in front, where it would be reduced before. -/
def Rewrites (old : Text) (new? : Option Text) : Prop :=
  ∀ before : Text, ')' ∉ before → ∀ after : Text,
    valueOf (before ++ old ++ after) =
      match new? with
      | none => .error .divisionByZero
      | some new => valueOf (before ++ new ++ after)

namespace Rewrites

variable {old middle lead : Text} {new? : Option Text}

theorem refl (text : Text) : Rewrites text (some text) := fun _ _ _ => rfl

theorem trans (first : Rewrites old (some middle)) (second : Rewrites middle new?) :
    Rewrites old new? :=
  fun before unclosed after => (first before unclosed after).trans (second before unclosed after)

theorem prepend (rewrites : Rewrites old new?) (unclosed : ')' ∉ lead) :
    Rewrites (lead ++ old) (new?.map (lead ++ ·)) := by
  intro before before_unclosed after
  have rewritten := rewrites (before ++ lead) (by simp [before_unclosed, unclosed]) after
  cases new? <;> simpa only [List.append_assoc, Option.map] using rewritten

theorem append (rewrites : Rewrites old new?) (tail : Text) :
    Rewrites (old ++ tail) (new?.map (· ++ tail)) := by
  intro before unclosed after
  have rewritten := rewrites before unclosed (tail ++ after)
  cases new? <;> simpa only [List.append_assoc, Option.map] using rewritten

end Rewrites

/-! ## Derivations -/

theorem UnaryOperator.unclosed_word (operator : UnaryOperator) : ')' ∉ operator.word := by
  cases operator <;> decide

theorem BinaryOperator.unclosed_word (operator : BinaryOperator) : ')' ∉ operator.word := by
  cases operator <;> decide

theorem Row.unclosed_text (row : Row) : ')' ∉ row.text :=
  fun inside => absurd (row.isFlat ')' inside) (by decide)

namespace Derivation

/-- A group whose own groups are reduced gives way to its value. -/
theorem rewrites_group {inner : Derivation ranks.length} {row : Row} (settles : inner.Settles row) :
    Rewrites ('(' :: row.padded.text ++ [')']) (inner.word?.map groupValue) := by
  intro before unclosed after
  have inside : valueOfFlat row.padded.text = inner.result := valueOfFlat_of_settles settles rfl
  have reduced := valueOf_group unclosed row.padded.isFlat after
  rw [inside, result] at reduced
  rw [← List.append_assoc, List.append_assoc _ [')'], List.singleton_append, reduced]
  cases inner.word? <;> rfl

/-- The groups of an expression are reduced to their values, from the left and from the inside. -/
theorem rewrites_text {depth : Nat} (expression : Derivation depth) (fits : expression.GroupsFit) :
    (expression.word? = none ∧ Rewrites expression.text none) ∨
      ∃ row, expression.Settles row ∧ Rewrites expression.text (some row.text) := by
  induction expression with
  | literal numeral =>
      rw [text_literal]
      exact .inr ⟨_, .literal numeral, Rewrites.refl _⟩
  | constant holds =>
      rw [text_constant]
      exact .inr ⟨_, .constant holds, Rewrites.refl _⟩
  | group inner induction =>
      obtain ⟨inner_fits, not_least⟩ := fits
      rw [text_group]
      rcases induction inner_fits with ⟨no_word, fails⟩ | ⟨row, settles, rewrites⟩
      · exact .inl ⟨no_word, (fails.prepend (by decide)).append _⟩
      · have unclosed : ')' ∉ ['(', ' '] := by decide
        have opened : Rewrites (['(', ' '] ++ inner.text ++ [' ', ')'])
            (some ('(' :: row.padded.text ++ [')'])) := by
          simpa [Row.padded] using (rewrites.prepend unclosed).append [' ', ')']
        have reduced := opened.trans (rewrites_group settles)
        cases computed : inner.word? with
        | none => exact .inl ⟨computed, by rwa [computed] at reduced⟩
        | some value =>
            have fits : value.toInt ≠ -2 ^ 63 := by
              intro least
              exact not_least (by rw [← map_toInt_word?, computed, Option.map_some, least])
            refine .inr ⟨_, .group computed fits, ?_⟩
            rw [Row.text_padded_numeral]
            rwa [computed] at reduced
  | unary operator operand induction =>
      have unclosed : ')' ∉ operator.word ++ [' '] := by simp [operator.unclosed_word]
      rw [text_unary]
      rcases induction fits with ⟨no_word, fails⟩ | ⟨row, settles, rewrites⟩
      · exact .inl ⟨by rw [word?, no_word, Option.map_none], fails.prepend unclosed⟩
      · refine .inr ⟨_, .unary operator settles, ?_⟩
        simpa [Row.next, Row.symbol] using rewrites.prepend unclosed
  | single operand induction =>
      rcases induction fits with ⟨no_word, fails⟩ | ⟨row, settles, rewrites⟩
      · exact .inl ⟨no_word, fails⟩
      · exact .inr ⟨row, .single settles, rewrites⟩
  | binary left operator ranked right left_induction right_induction =>
      -- Once the left operand has given way to a row, nothing is closed in front of the right one.
      rw [text_binary]
      rcases left_induction fits.1 with ⟨no_word, fails⟩ | ⟨first, left_settles, left_rewrites⟩
      · refine .inl ⟨by rw [word?, no_word, Option.bind_none], ?_⟩
        rw [List.append_assoc]
        exact fails.append _
      · have moved := (left_rewrites.append ([' '] ++ operator.word ++ [' '])).append right.text
        have unclosed : ')' ∉ first.text ++ ([' '] ++ operator.word ++ [' ']) := by
          simp [first.unclosed_text, operator.unclosed_word]
        rcases right_induction fits.2 with
          ⟨no_word, fails⟩ | ⟨second, right_settles, right_rewrites⟩
        · refine .inl ⟨?_, moved.trans (fails.prepend unclosed)⟩
          rw [word?, no_word]
          cases left.word? <;> rfl
        · refine .inr ⟨_, .binary ranked left_settles right_settles, ?_⟩
          simpa [Row.next, Row.symbol] using moved.trans (right_rewrites.prepend unclosed)

theorem valueOf_text {expression : Derivation ranks.length} (fits : expression.GroupsFit) :
    valueOf expression.text = expression.result := by
  rcases expression.rewrites_text fits with ⟨no_word, fails⟩ | ⟨row, settles, rewrites⟩
  · have failed := fails [] (by simp) []
    rw [List.nil_append, List.append_nil] at failed
    rw [failed, result, no_word]
  · have rewritten := rewrites [] (by simp) []
    simp only [List.nil_append, List.append_nil] at rewritten
    rw [rewritten, valueOf_of_flat row.isFlat, valueOfFlat_of_settles settles rfl]

end Derivation

theorem signedDecimal_eq_toList_toString (value : Int) :
    Text.signedDecimal value = (toString value).toList := by
  cases value <;> simp [Text.signedDecimal, Text.decimal, toString, Int.repr, Nat.repr]

/-- An expression whose groups have values that can be written again is reduced to the numeral of
its value. It is refused exactly if it divides by zero, and for this reason alone. -/
theorem reduce_text (expression : Derivation ranks.length) (fits : expression.GroupsFit) :
    (reduce expression.text).map (fun word => Text.signedDecimal word.toInt) =
        (match expression.value? with
        | some value => .ok (toString value).toList
        | none => .error (.invalidExpression (Text.trim expression.text) .divisionByZero)) ∧
      ((∃ shown reason, reduce expression.text = .error (.invalidExpression shown reason)) ↔
        expression.DividesByZero) := by
  rw [reduce, Derivation.valueOf_text fits, Derivation.result, ← expression.value?_eq_none_iff,
    ← expression.map_toInt_word?]
  cases expression.word? with
  | none => exact ⟨rfl, by simp [Except.mapError]⟩
  | some word =>
      refine ⟨?_, by simp [Except.mapError]⟩
      simp [Except.mapError, Except.map, signedDecimal_eq_toList_toString]

namespace Sample

/-- A decimal literal of one digit. -/
def digit (value : Fin 10) : Literal where
  radix := .decimal
  digits := [⟨value, false⟩]
  suffix := []
  digits_ne_nil := by simp
  zero_alone := by
    rintro - first rest same -
    exact (List.cons.inj same).2.symm
  suffix_letters := by simp
  number_lt := by revert value; decide

/-- The literal `0x1Fu`. -/
def thirtyOne : Literal where
  radix := .hexadecimal false
  digits := [⟨⟨1, by decide⟩, false⟩, ⟨⟨15, by decide⟩, true⟩]
  suffix := ['u']
  digits_ne_nil := by simp
  zero_alone := nofun
  suffix_letters := by simp
  number_lt := by decide

/-- The expression as an operand of operators that bind less tightly. -/
def raise {depth : Nat} (expression : Derivation depth) : (steps : Nat) → Derivation (depth + steps)
  | 0 => expression
  | steps + 1 => .single (raise expression steps)

/-- The expression `( 2 - ( 0x1Fu << 1 ) ) % 7`. -/
def nested : Derivation ranks.length :=
  let shifted := raise (.binary (raise (.literal thirtyOne) 3) .shiftLeft (by decide)
    (raise (.literal (digit 1)) 2)) 7
  let difference := raise (.binary (raise (.literal (digit 2)) 2) .subtract (by decide)
    (raise (.group shifted) 1)) 8
  raise (.binary (raise (.group difference) 1) .remainder (by decide) (.literal (digit 7))) 9

/-- The expression `1 || 4 / ( 1 - 1 )`. -/
def strict : Derivation ranks.length :=
  let difference := raise (.binary (raise (.literal (digit 1)) 2) .subtract (by decide)
    (raise (.literal (digit 1)) 1)) 8
  let quotient := raise (.binary (raise (.literal (digit 4)) 1) .divide (by decide)
    (.group difference)) 8
  .binary (raise (.literal (digit 1)) 10) .or (by decide) quotient

end Sample

/-- The value of a group may be negative, and both operands of a disjunction are evaluated. -/
theorem reduce_text_nested :
    Sample.nested.GroupsFit ∧ Sample.nested.text = "( 2 - ( 0x1Fu << 1 ) ) % 7".toList ∧
      (reduce Sample.nested.text).map (fun word => Text.signedDecimal word.toInt) =
        .ok "-4".toList ∧
      Sample.strict.GroupsFit ∧ Sample.strict.text = "1 || 4 / ( 1 - 1 )".toList ∧
      ∃ shown reason, reduce Sample.strict.text = .error (.invalidExpression shown reason) := by
  have nested_fits : Sample.nested.GroupsFit := by decide +kernel
  have strict_fits : Sample.strict.GroupsFit := by decide +kernel
  have nested_value : Sample.nested.value? = some (-4) := by decide +kernel
  have strict_divides : Sample.strict.DividesByZero := by decide +kernel
  refine ⟨nested_fits, by decide +kernel, ?_, strict_fits, by decide +kernel,
    (reduce_text Sample.strict strict_fits).2.mpr strict_divides⟩
  rw [(reduce_text Sample.nested nested_fits).1, nested_value]
  rfl

end GlslBuild.Condition
