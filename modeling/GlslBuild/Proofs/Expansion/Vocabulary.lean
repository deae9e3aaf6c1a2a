import GlslBuild.Condition.Evaluation
import GlslBuild.Proofs.Expansion.Substitution

/-!
# What expansion asks of definitions

Expansion and conditions put a few questions to the definitions: what a name stands for, whether it
is defined, and which names stand for templates. Definitions that are kept in any other way lead to
the same results if they give the same answers.
-/

namespace GlslBuild

/-- What is answered about names. -/
@[ext] structure Vocabulary where
  text? : Text → Option Text
  template? : Text → Option Template
  contains : Text → Bool
  templateNames : List Text
  hasTemplates : Bool

/-- What a table of definitions answers. -/
def Definitions.vocabulary (definitions : Definitions) : Vocabulary :=
  ⟨definitions.text?, definitions.template?, definitions.contains, definitions.templateNames,
    definitions.hasTemplates⟩

namespace Definitions

variable (definitions : Definitions) (name : Text)

theorem template?_vocabulary :
    definitions.vocabulary.template? name = definitions.template? name := rfl

theorem contains_vocabulary :
    definitions.vocabulary.contains name = definitions.contains name := rfl

end Definitions

namespace Vocabulary

/-! ## Expansion with a vocabulary -/

/-- Replaces the calls of the given names in one sweep, going on after each call. -/
def sweepFrom (vocabulary : Vocabulary) (names : List Text) (previous : Option Char)
    (text : Text) : Except DefinitionError Text :=
  match text with
  | [] => .ok []
  | char :: tail =>
      match _call : Expansion.callAt? names previous (char :: tail) with
      | none => (sweepFrom vocabulary names (some char) tail).map (char :: ·)
      | some (opening, rest) =>
          let name := Expansion.calledName opening
          match vocabulary.template? name with
          | none => .ok (char :: tail)
          | some template =>
              match _arguments : Arguments.read? rest with
              | none => .error (.unterminatedCall name)
              | some (arguments, after) =>
                  match template.invoke name arguments with
                  | .error error => .error error
                  | .ok replaced =>
                      (sweepFrom vocabulary names (some ')') after).map (replaced ++ ·)
termination_by text.length
decreasing_by
  · simp
  · have shorter := Expansion.length_lt_of_callAt? _call
    have shortest := Arguments.length_lt_of_read? _arguments
    omega

/-- Replaces every call of a template. Without templates there is nothing to look for. -/
def sweep (vocabulary : Vocabulary) (text : Text) : Except DefinitionError Text :=
  if vocabulary.hasTemplates then vocabulary.sweepFrom vocabulary.templateNames none text
  else .ok text

/-- One pass: the calls, then the names that stand for text. -/
def pass (vocabulary : Vocabulary) (inCondition : Bool) (text : Text) :
    Except DefinitionError Text :=
  (vocabulary.sweep text).map (Text.mapIdentifiers fun name =>
    (vocabulary.text? name).getD (Expansion.unboundName inCondition name))

/-- Repeats passes until one changes nothing, with `remaining` of at most `limit` passes left. -/
def settle (vocabulary : Vocabulary) (inCondition : Bool) (limit : Nat) :
    Nat → Text → Except DefinitionError Text
  | 0, _ => .error (.expansionLimit limit)
  | remaining + 1, text =>
      match vocabulary.pass inCondition text with
      | .error error => .error error
      | .ok next =>
          if next = text then .ok text else vocabulary.settle inCondition limit remaining next

/-- Expands ordinary text. -/
def ofText (vocabulary : Vocabulary) (passLimit : Nat) (text : Text) :
    Except DefinitionError Text :=
  vocabulary.settle false passLimit passLimit text

/-- Expands a condition. -/
def ofCondition (vocabulary : Vocabulary) (passLimit : Nat) (text : Text) :
    Except DefinitionError Text :=
  vocabulary.settle true passLimit passLimit text

/-- Replaces every test for a definition by one or zero. -/
def answerTestsFrom (vocabulary : Vocabulary) (previous : Option Char) (text : Text) : Text :=
  match text with
  | [] => []
  | char :: tail =>
      match _test : if Expansion.isBoundary previous (some char) then
          Condition.definedTest? (char :: tail) else none with
      | none => char :: answerTestsFrom vocabulary (some char) tail
      | some test =>
          (if vocabulary.contains test.name then '1' else '0') ::
            answerTestsFrom vocabulary (some test.last) test.rest
termination_by text.length
decreasing_by
  · simp
  · split at _test
    · exact Condition.length_lt_of_definedTest? _test
    · simp at _test

/-- Whether a condition holds. -/
def evaluate (vocabulary : Vocabulary) (passLimit : Nat) (expression : Text) :
    Except DefinitionError Bool := do
  let expanded ← vocabulary.ofCondition passLimit (vocabulary.answerTestsFrom none expression)
  let value ← Condition.reduce expanded
  return value != 0

/-! ## The vocabulary of a table -/

variable (definitions : Definitions)

theorem sweepFrom_vocabulary (names : List Text) (previous : Option Char) (text : Text) :
    definitions.vocabulary.sweepFrom names previous text =
      Expansion.sweepFrom definitions names previous text := by
  fun_induction Expansion.sweepFrom definitions names previous text <;>
    grind [sweepFrom, Definitions.template?_vocabulary]

theorem sweep_vocabulary (text : Text) :
    definitions.vocabulary.sweep text = Expansion.sweep definitions text := by
  rw [sweep]
  split
  · exact sweepFrom_vocabulary definitions definitions.templateNames none text
  · next textual => rw [Expansion.sweep_of_textual (Bool.eq_false_iff.mpr textual)]

theorem pass_vocabulary (inCondition : Bool) (text : Text) :
    definitions.vocabulary.pass inCondition text = Expansion.pass definitions inCondition text := by
  rw [pass, sweep_vocabulary]
  rfl

theorem settle_vocabulary (inCondition : Bool) (limit remaining : Nat) (text : Text) :
    definitions.vocabulary.settle inCondition limit remaining text =
      Expansion.settle definitions inCondition limit remaining text := by
  induction remaining generalizing text with
  | zero => rfl
  | succ remaining induction =>
      rw [settle, Expansion.settle, pass_vocabulary]
      cases Expansion.pass definitions inCondition text with
      | error error => rfl
      | ok next => simp only [induction]

theorem answerTestsFrom_vocabulary (previous : Option Char) (text : Text) :
    definitions.vocabulary.answerTestsFrom previous text =
      Condition.answerTestsFrom definitions previous text := by
  fun_induction Condition.answerTestsFrom definitions previous text <;>
    grind [answerTestsFrom, Definitions.contains_vocabulary]

/-- With the vocabulary of a table texts become what they become under the table. -/
theorem ofText_vocabulary (passLimit : Nat) (text : Text) :
    definitions.vocabulary.ofText passLimit text = Expansion.ofText definitions passLimit text :=
  settle_vocabulary definitions false passLimit passLimit text

theorem ofCondition_vocabulary (passLimit : Nat) (text : Text) :
    definitions.vocabulary.ofCondition passLimit text =
      Expansion.ofCondition definitions passLimit text :=
  settle_vocabulary definitions true passLimit passLimit text

theorem evaluate_vocabulary (passLimit : Nat) (expression : Text) :
    definitions.vocabulary.evaluate passLimit expression =
      Condition.evaluate definitions passLimit expression := by
  rw [evaluate, answerTestsFrom_vocabulary, ofCondition_vocabulary]
  rfl

end Vocabulary

end GlslBuild
