import GlslBuild.Proofs.Condition.Lexeme
import GlslBuild.Proofs.Condition.Reduction
import GlslBuild.Proofs.Result

/-!
# Parentheses around conditions

A text that has a value may stand in parentheses wherever its value may stand as a numeral. Around
the whole text they make no difference, but for the least value of all: its digits alone are too
large a literal, so that the numeral put in place of the group cannot be read again.
-/

namespace GlslBuild.Condition

/-! ## In front of the first group -/

/-- No parenthesis is closed before one is opened. -/
def OpensFirst (text : Text) : Prop := (text.dropWhile isFlatChar).head? ≠ some ')'

theorem opensFirst_of_flat {text : Text} (flat : ∀ char ∈ text, isFlatChar char = true) :
    OpensFirst text := by
  rw [OpensFirst, List.dropWhile_eq_nil_iff.mpr flat]
  exact nofun

/-- Whether a parenthesis is closed first is settled in front of the first group. -/
theorem OpensFirst.of_firstGroup? {text before inside after other : Text}
    (opens : OpensFirst (before ++ other))
    (found : firstGroup? text = some (before, inside, after)) : OpensFirst text := by
  rw [eq_of_firstGroup? found, List.append_assoc]
  rw [OpensFirst, List.dropWhile_append] at opens ⊢
  split
  · simp [isFlatChar]
  · next visible =>
      rw [if_neg visible] at opens
      have before_ne_nil : before.dropWhile isFlatChar ≠ [] := by simpa using visible
      rw [List.head?_append_of_ne_nil _ before_ne_nil] at opens ⊢
      exact opens

/-- Nothing is closed in front of the first group, if nothing is closed before it is opened. -/
theorem notMem_of_firstGroup? {text before inside after : Text} (opens : OpensFirst text)
    (found : firstGroup? text = some (before, inside, after)) : ')' ∉ before := by
  fun_induction firstGroup? text generalizing before with
  | case1 => contradiction
  | case2 char rest tail closes opening =>
      cases found
      exact List.not_mem_nil
  | case3 char rest no_group induction =>
      obtain ⟨⟨inner, group⟩, inner_found, pair⟩ := Option.map_eq_some_iff.mp found
      cases pair
      have other : char ≠ ')' := by
        rintro rfl
        exact opens rfl
      have rest_opens : OpensFirst rest := by
        intro closing
        by_cases opening : char = '('
        · obtain ⟨tail, split⟩ := List.head?_eq_some_iff.mp closing
          exact no_group tail (by simp [opening]) split
        · have flat : isFlatChar char = true := by simp [isFlatChar, opening, other]
          exact opens (by rwa [List.dropWhile_cons_of_pos flat])
      rw [List.mem_cons, not_or]
      exact ⟨other.symm, induction rest_opens inner_found⟩

theorem flat_of_firstGroup? {text before inside after : Text}
    (found : firstGroup? text = some (before, inside, after)) :
    ∀ char ∈ inside, isFlatChar char = true := by
  fun_induction firstGroup? text generalizing before with
  | case1 => contradiction
  | case2 char rest tail closes opening =>
      cases found
      exact List.all_eq_true.mp List.all_takeWhile
  | case3 char rest no_group induction =>
      obtain ⟨⟨inner, group⟩, inner_found, pair⟩ := Option.map_eq_some_iff.mp found
      cases pair
      exact induction inner_found

theorem flat_of_valueOfFlat {text : Text} {value : Int64}
    (computed : valueOfFlat text = .ok value) :
    ∀ char ∈ text, isFlatChar char = true := by
  rw [valueOfFlat] at computed
  split at computed
  · contradiction
  · next read => exact isFlatChar_of_tokenize read

/-- A closing parenthesis that comes first stays, and a text in which one stays has no value. -/
theorem opensFirst_of_valueOf {text : Text} {value : Int64} (computed : valueOf text = .ok value) :
    OpensFirst text := by
  fun_induction valueOf text with
  | case1 text no_group => exact opensFirst_of_flat (flat_of_valueOfFlat computed)
  | case2 => contradiction
  | case3 text before inside after group group_value inside_computed induction =>
      have opens := induction computed
      rw [List.append_assoc] at opens
      exact opens.of_firstGroup? group

/-! ## Enclosed texts -/

/-- Parentheses around a text that has a value give way to this value, wherever they stand. -/
theorem rewrites_enclosed {text : Text} {value : Int64} (computed : valueOf text = .ok value) :
    Rewrites ('(' :: text ++ [')']) (some (groupValue value)) := by
  intro before unclosed after
  have moved (inner : Text) :
      before ++ ('(' :: inner ++ [')']) ++ after = before ++ '(' :: inner ++ ')' :: after := by
    simp
  rw [moved]
  fun_induction valueOf text with
  | case1 text no_group =>
      rw [valueOf_group unclosed (flat_of_valueOfFlat computed), computed]
  | case2 => contradiction
  | case3 text lead inside tail group group_value inside_computed induction =>
      -- The first group of the text is the first one here too, since nothing is closed before it.
      have opens := opensFirst_of_valueOf computed
      rw [List.append_assoc] at opens
      have lead_unclosed : ')' ∉ before ++ '(' :: lead := by
        simp [unclosed, notMem_of_firstGroup? (opens.of_firstGroup? group) group]
      have reduced := valueOf_group lead_unclosed (flat_of_firstGroup? group) (tail ++ ')' :: after)
      rw [inside_computed] at reduced
      rw [← induction computed, eq_of_firstGroup? group]
      simpa using reduced

/-! ## The numeral of a value -/

theorem valueOfTokens_numeralTokens (value : Int64) :
    valueOfTokens (numeralTokens value) = .ok value :=
  valueOfTokens_eq_ok_iff.mpr (exists_phrase_numeralTokens _ value)

/-- The value of a group is read again as it is, unless its digits are too large a literal. -/
theorem valueOf_groupValue (value : Int64) :
    valueOf (groupValue value) =
      if value = Int64.minValue then .error (.invalidLiteral "9223372036854775808".toList)
      else .ok value := by
  split
  · next least =>
      rw [least]
      decide +kernel
  · next larger =>
      have fits : value.toInt ≠ -2 ^ 63 := fun same => larger (Int64.toInt_inj.mp same)
      rw [← Row.text_padded_numeral value fits, valueOf_of_flat (Row.isFlat _), valueOfFlat,
        Row.tokenize_text]
      exact valueOfTokens_numeralTokens value

/-! ## Parentheses around the whole text -/

theorem trim_enclosed (text : Text) :
    Text.trim ('(' :: text ++ [')']) = '(' :: text ++ [')'] := by
  have opening : Text.isBlank '(' = false := by decide
  have closing : Text.isBlank ')' = false := by decide
  simp [Text.trim, Text.trimStart, Text.trimEnd, Text.dropEndWhile, opening, closing]

/-- A condition with a value has the same value in parentheses, unless this is the least of all
values. Then it has none, and the fault is a literal that is not in it. -/
theorem reduce_enclosed {text : Text} {value : Int64} (computed : reduce text = .ok value) :
    reduce ('(' :: text ++ [')']) =
      if value = Int64.minValue then
        .error (.invalidExpression ('(' :: text ++ [')'])
          (.invalidLiteral "9223372036854775808".toList))
      else .ok value := by
  have whole : valueOf text = .ok value := eq_ok_of_mapError_eq_ok computed
  have rewritten := rewrites_enclosed whole [] List.not_mem_nil []
  simp only [List.nil_append, List.append_nil] at rewritten
  rw [reduce, rewritten, valueOf_groupValue, trim_enclosed]
  split <;> rfl

/-- The greatest value and the one next to the least keep in parentheses, the latter also where a
group of negative value inside is taken for a subtraction. -/
theorem reduce_enclosed_ends :
    let least := "2 (-9223372036854775807 - (2 - 1) + 1) - 2".toList
    let greatest := "~(-9223372036854775807) + 1".toList
    reduce least = .ok (Int64.minValue + 1) ∧
      reduce ('(' :: least ++ [')']) = .ok (Int64.minValue + 1) ∧
      reduce greatest = .ok Int64.maxValue ∧
      reduce ('(' :: greatest ++ [')']) = .ok Int64.maxValue := by
  intro least greatest
  have least_value : reduce least = .ok (Int64.minValue + 1) := by decide +kernel
  have greatest_value : reduce greatest = .ok Int64.maxValue := by decide +kernel
  exact ⟨least_value, reduce_enclosed least_value, greatest_value, reduce_enclosed greatest_value⟩

/-- The least value is lost in parentheses. -/
theorem reduce_ne_of_least :
    reduce "0 - 9223372036854775807 - 1".toList = .ok Int64.minValue ∧
      ∀ value, reduce "(0 - 9223372036854775807 - 1)".toList ≠ .ok value := by
  refine ⟨by decide +kernel, fun value same => ?_⟩
  have refused : (reduce "(0 - 9223372036854775807 - 1)".toList).toOption = none := by
    decide +kernel
  rw [same] at refused
  contradiction

end GlslBuild.Condition
