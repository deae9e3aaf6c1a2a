import GlslBuild.Condition.Reduction
import GlslBuild.Expansion

/-!
# Evaluating conditions

The tests for definitions are answered first, on the text as it is written. Then the condition is
expanded, with names that stand for nothing as `false`, and reduced. It holds when the value is not
zero.
-/

namespace GlslBuild.Condition

/-- A test whether a name is defined: the name, the last character of the test, and what follows. -/
structure DefinedTest where
  name : Text
  last : Char
  rest : Text

/-- The name between parentheses at the start of the text. -/
def parenthesisedName? : Text → Option DefinedTest
  | '(' :: inner =>
      match Text.takeIdentifier? (Text.trimStart inner) with
      | none => none
      | some (name, tail) =>
          match Text.trimStart tail with
          | ')' :: rest => some ⟨name, ')', rest⟩
          | _ => none
  | _ => none

/-- The name at the start of the text. -/
def bareName? (text : Text) : Option DefinedTest :=
  (Text.takeIdentifier? text).map fun (name, rest) => ⟨name, name.getLastD ' ', rest⟩

/-- A test at the start of the text: the word `defined` and a name with or without parentheses. The
word needs nothing but its own letters, so a name may follow it at once. -/
def definedTest? (text : Text) : Option DefinedTest :=
  match Text.dropLeading? "defined".toList text with
  | none => none
  | some tail =>
      let operand := Text.trimStart tail
      (parenthesisedName? operand).or (bareName? operand)

theorem length_lt_of_parenthesisedName? {text : Text} {test : DefinedTest}
    (found : parenthesisedName? text = some test) : test.rest.length < text.length := by
  unfold parenthesisedName? at found
  split at found
  · next inner =>
      split at found
      · simp at found
      · next name tail taken =>
          have split_name := (Text.takeIdentifier?_eq_some taken).2
          split at found
          · next rest closes =>
              simp only [Option.some.injEq] at found
              subst found
              have first := Text.trimStart_length_le inner
              have second := Text.trimStart_length_le tail
              rw [split_name, List.length_append] at first
              rw [closes] at second
              simp only [List.length_cons] at second ⊢
              omega
          · simp at found
  · simp at found

theorem length_le_of_bareName? {text : Text} {test : DefinedTest}
    (found : bareName? text = some test) : test.rest.length ≤ text.length := by
  obtain ⟨⟨name, rest⟩, taken, pair⟩ := Option.map_eq_some_iff.mp found
  subst pair
  rw [(Text.takeIdentifier?_eq_some taken).2, List.length_append]
  exact Nat.le_add_left _ _

theorem length_lt_of_definedTest? {text : Text} {test : DefinedTest}
    (found : definedTest? text = some test) : test.rest.length < text.length := by
  unfold definedTest? at found
  split at found
  · simp at found
  · next tail dropped =>
      have split_word := Text.dropLeading?_eq_some_iff.mp dropped
      have shorter := Text.trimStart_length_le tail
      rw [split_word, List.length_append]
      simp only [String.reduceToList, List.length_cons]
      rcases Option.or_eq_some_iff.mp found with found | ⟨-, found⟩
      · have inner := length_lt_of_parenthesisedName? found
        omega
      · have inner := length_le_of_bareName? found
        omega

/-- Replaces every test for a definition by one or zero. A test starts where a word starts. -/
def answerTestsFrom (definitions : Definitions) (previous : Option Char) (text : Text) : Text :=
  match text with
  | [] => []
  | char :: tail =>
      match _test : if Expansion.isBoundary previous (some char) then definedTest? (char :: tail)
          else none with
      | none => char :: answerTestsFrom definitions (some char) tail
      | some test =>
          (if definitions.contains test.name then '1' else '0') ::
            answerTestsFrom definitions (some test.last) test.rest
termination_by text.length
decreasing_by
  · simp
  · split at _test
    · exact length_lt_of_definedTest? _test
    · simp at _test

/-- Replaces every test for a definition by one or zero. -/
def answerTests (definitions : Definitions) (expression : Text) : Text :=
  answerTestsFrom definitions none expression

/-- Whether a condition holds under the definitions, expanding it within a number of passes. -/
def evaluate (definitions : Definitions) (passLimit : Nat) (expression : Text) :
    Except DefinitionError Bool := do
  let expanded ← Expansion.ofCondition definitions passLimit
    (answerTests definitions expression)
  let value ← reduce expanded
  return value != 0

end GlslBuild.Condition
