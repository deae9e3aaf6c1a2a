import GlslBuild.Condition.Evaluation
import GlslBuild.Proofs.Word
import Mathlib.Data.List.Basic

/-!
# Tests inside words

The word `defined` begins a test for a definition wherever a word begins with it, not only where it
is the whole word. If no word of a condition is `defined` itself, the tests lie inside words: a word
that goes on with a letter or an underscore after `defined` is taken for a test of the identifier
that follows. All other words reach the expansion as they are written.
-/

namespace GlslBuild.Condition

/-- The word that begins a test. -/
def testWord : Text := "defined".toList

/-- The identifier that a word is a test of, if it begins with one, and what is left of the word. -/
def testedName? (word : Text) : Option (Text × Text) :=
  (Text.dropLeading? testWord word).bind Text.takeIdentifier?

/-- What a test for a definition gives way to. -/
def answer (definitions : Definitions) (name : Text) : Char :=
  if definitions.contains name then '1' else '0'

/-- A word with the test in it answered. -/
def answerWord (definitions : Definitions) (word : Text) : Text :=
  match testedName? word with
  | none => word
  | some (name, rest) => answer definitions name :: rest

/-- A piece of a condition with the test in it answered. -/
def answerPiece (definitions : Definitions) : Text.Piece → Text
  | .word word => answerWord definitions word
  | .gap char => [char]

/-- A condition with the tests inside its words answered. -/
def answerWords (definitions : Definitions) (expression : Text) : Text :=
  (Text.pieces expression).flatMap (answerPiece definitions)

/-- Whether a condition holds in which no tests are left, expanding it within a number of passes. -/
def evaluatePlain (definitions : Definitions) (passLimit : Nat) (expression : Text) :
    Except DefinitionError Bool := do
  let expanded ← Expansion.ofCondition definitions passLimit expression
  let value ← reduce expanded
  return value != 0

/-! ## Tests at the start of a word -/

@[simp] theorem length_testWord : testWord.length = 7 := by decide

theorem isWord_of_mem_testWord {char : Char} (member : char ∈ testWord) :
    Text.isWord char = true :=
  List.all_eq_true.mp (by decide) char member

/-- What follows a word that ends does not make it begin with `defined`. -/
theorem dropLeading?_testWord_append {rest : Text}
    (ends : ∀ char ∈ rest.head?, Text.isWord char = false) (word : Text) :
    Text.dropLeading? testWord (word ++ rest) =
      (Text.dropLeading? testWord word).map (· ++ rest) := by
  apply Text.dropLeading?_append
  intro char head member
  have letter := isWord_of_mem_testWord member
  rw [ends char head] at letter
  contradiction

/-- A word that is a test goes on with an identifier after `defined`. -/
theorem testedName?_eq_some {word name rest : Text}
    (tested : testedName? word = some (name, rest)) :
    Text.isIdentifier name = true ∧ word = testWord ++ name ++ rest := by
  obtain ⟨tail, begins, taken⟩ := Option.bind_eq_some_iff.mp tested
  obtain ⟨valid, split⟩ := Text.takeIdentifier?_eq_some taken
  exact ⟨valid, by rw [Text.dropLeading?_eq_some_iff.mp begins, split, List.append_assoc]⟩

/-- A test that starts where a word starts lies inside the word. -/
theorem definedTest?_append {word rest : Text} (other : word ≠ testWord)
    (all : ∀ char ∈ word, Text.isWord char = true)
    (ends : ∀ char ∈ rest.head?, Text.isWord char = false) :
    definedTest? (word ++ rest) =
      (testedName? word).map fun (name, tail) => ⟨name, name.getLastD ' ', tail ++ rest⟩ := by
  have begins := dropLeading?_testWord_append ends word
  rw [definedTest?, show "defined".toList = testWord from rfl, begins, testedName?]
  cases found : Text.dropLeading? testWord word with
  | none => rfl
  | some tail =>
      have split := Text.dropLeading?_eq_some_iff.mp found
      cases tail with
      | nil => exact absurd (by simpa using split) other
      | cons first tail =>
          have first_word := all first (by simp [split])
          have not_parenthesis : first ≠ '(' := by
            rintro rfl
            exact absurd first_word (by decide)
          have taken := Text.takeIdentifier?_append (List.cons_ne_nil first tail) ends
          rw [List.cons_append] at taken
          simp only [Option.map_some, List.cons_append, Text.trimStart_of_isWord first_word,
            Option.bind_some]
          rw [parenthesisedName?.eq_2, Option.none_or, bareName?, taken]
          · cases Text.takeIdentifier? (first :: tail) <;> rfl
          · rintro inner same
            exact not_parenthesis (List.cons.inj same).1

/-! ## Answers -/

/-- The test that begins after a character, if a test can begin there. -/
def testAt? (previous : Option Char) (text : Text) : Option DefinedTest :=
  if Expansion.isBoundary previous text.head? then definedTest? text else none

theorem answerTestsFrom_of_none {previous : Option Char} {char : Char} {tail : Text}
    (absent : testAt? previous (char :: tail) = none) (definitions : Definitions) :
    answerTestsFrom definitions previous (char :: tail) =
      char :: answerTestsFrom definitions (some char) tail := by
  rw [answerTestsFrom]
  split
  · rfl
  · next found =>
      rw [testAt?, List.head?_cons, found] at absent
      contradiction

theorem answerTestsFrom_of_some {previous : Option Char} {char : Char} {tail : Text}
    {test : DefinedTest} (found : testAt? previous (char :: tail) = some test)
    (definitions : Definitions) :
    answerTestsFrom definitions previous (char :: tail) =
      answer definitions test.name :: answerTestsFrom definitions (some test.last) test.rest := by
  rw [answerTestsFrom]
  split
  · next absent =>
      rw [testAt?, List.head?_cons, absent] at found
      contradiction
  · next other same =>
      rw [testAt?, List.head?_cons, same] at found
      obtain rfl := Option.some.inj found
      rfl

theorem testAt?_of_not_isWord {char : Char} (gap : Text.isWord char = false)
    (previous : Option Char) (rest : Text) : testAt? previous (char :: rest) = none := by
  have other : 'd' ≠ char := by
    rintro rfl
    exact absurd gap (by decide)
  have absent : Text.dropLeading? "defined".toList (char :: rest) = none := if_neg other
  rw [testAt?, definedTest?, absent, ite_self]

/-- Inside a word no test begins. -/
theorem answerTestsFrom_inside (definitions : Definitions) {previous : Char} {word : Text}
    (inside : Text.isWord previous = true) (all : ∀ char ∈ word, Text.isWord char = true)
    (rest : Text) :
    ∃ last, Text.isWord last = true ∧
      answerTestsFrom definitions (some previous) (word ++ rest) =
        word ++ answerTestsFrom definitions (some last) rest := by
  induction word generalizing previous with
  | nil => exact ⟨previous, inside, rfl⟩
  | cons char word induction =>
      have here := all char List.mem_cons_self
      have absent : testAt? (some previous) (char :: (word ++ rest)) = none := by
        simp [testAt?, Expansion.isBoundary, inside, here]
      obtain ⟨last, last_word, same⟩ :=
        induction here fun other member => all other (List.mem_cons_of_mem char member)
      refine ⟨last, last_word, ?_⟩
      rw [List.cons_append, answerTestsFrom_of_none absent, same, List.cons_append]

/-- A word is answered on its own, up to the state in which the rest of the text is read. -/
theorem answerTestsFrom_word (definitions : Definitions) {previous : Option Char}
    {word rest : Text} (word_ne_nil : word ≠ []) (other : word ≠ testWord)
    (all : ∀ char ∈ word, Text.isWord char = true)
    (ends : ∀ char ∈ rest.head?, Text.isWord char = false)
    (apart : previous.any Text.isWord = false) :
    ∃ last, answerTestsFrom definitions previous (word ++ rest) =
      answerWord definitions word ++ answerTestsFrom definitions (some last) rest := by
  obtain ⟨char, tail, rfl⟩ := List.exists_cons_of_ne_nil word_ne_nil
  have here := all char List.mem_cons_self
  have later := fun other member => all other (List.mem_cons_of_mem char member)
  have begins : testAt? previous (char :: (tail ++ rest)) =
      (testedName? (char :: tail)).map fun (name, left) =>
        ⟨name, name.getLastD ' ', left ++ rest⟩ := by
    rw [← List.cons_append, ← definedTest?_append other all ends, testAt?, List.cons_append,
      List.head?_cons, Expansion.isBoundary, apart, Option.any_some, here]
    rfl
  rw [List.cons_append, answerWord]
  cases tested : testedName? (char :: tail) with
  | none =>
      rw [tested] at begins
      obtain ⟨last, -, same⟩ := answerTestsFrom_inside definitions here later rest
      exact ⟨last, by rw [answerTestsFrom_of_none begins, same, List.cons_append]⟩
  | some pair =>
      obtain ⟨name, left⟩ := pair
      rw [tested] at begins
      obtain ⟨valid, split⟩ := testedName?_eq_some tested
      have last_word : Text.isWord (name.getLastD ' ') = true := by
        obtain ⟨name_ne_nil, continues⟩ := Text.all_of_isIdentifier valid
        apply Text.isWord_of_continuesIdentifier
        rw [List.getLastD_eq_getLast?, List.getLast?_eq_some_getLast name_ne_nil, Option.getD_some]
        exact continues _ (List.getLast_mem name_ne_nil)
      have left_word : ∀ other ∈ left, Text.isWord other = true := by
        intro other member
        apply all other
        rw [split]
        exact List.mem_append_right _ member
      obtain ⟨last, -, same⟩ := answerTestsFrom_inside definitions last_word left_word rest
      exact ⟨last, by rw [answerTestsFrom_of_some begins, same, List.cons_append]⟩

/-- If `defined` is no word of a condition, its tests are answered word by word. -/
theorem answerTestsFrom_eq (definitions : Definitions) (text : Text) :
    ∀ previous : Option Char,
      (∀ char ∈ text.head?, Text.isWord char = true → previous.any Text.isWord = false) →
      .word testWord ∉ Text.pieces text →
        answerTestsFrom definitions previous text = answerWords definitions text := by
  induction text using Text.word_induction with
  | nil =>
      intro previous _ _
      rw [answerTestsFrom]
      rfl
  | gap char rest gap induction =>
      intro previous _ whole
      rw [Text.pieces_cons_of_not_isWord gap] at whole
      have later := induction (some char) (by simp [gap]) (List.not_mem_of_not_mem_cons whole)
      rw [answerTestsFrom_of_none (testAt?_of_not_isWord gap previous rest), answerWords,
        Text.pieces_cons_of_not_isWord gap, List.flatMap_cons, later]
      rfl
  | word word rest word_ne_nil all ends induction =>
      intro previous apart whole
      rw [Text.pieces_append word_ne_nil all ends] at whole
      rw [List.mem_cons, not_or] at whole
      have other : word ≠ testWord := fun same => whole.1 (by rw [same])
      obtain ⟨first, tail, rfl⟩ := List.exists_cons_of_ne_nil word_ne_nil
      have boundary := apart first rfl (all first List.mem_cons_self)
      obtain ⟨last, same⟩ :=
        answerTestsFrom_word definitions word_ne_nil other all ends boundary
      have later := induction (some last)
        (fun char head word => absurd word (by simp [ends char head])) whole.2
      rw [same, later, answerWords, answerWords, Text.pieces_append word_ne_nil all ends,
        List.flatMap_cons]
      rfl

/-! ## Conditions -/

theorem length_answerWord_le (definitions : Definitions) (word : Text) :
    (answerWord definitions word).length ≤ word.length := by
  rw [answerWord]
  split
  · exact Nat.le_refl _
  · next name rest tested =>
      rw [(testedName?_eq_some tested).2]
      simp only [List.length_cons, List.length_append, length_testWord]
      omega

theorem length_answerWord_lt (definitions : Definitions) {word : Text}
    (tested : testedName? word ≠ none) : (answerWord definitions word).length < word.length := by
  obtain ⟨⟨name, rest⟩, found⟩ := Option.ne_none_iff_exists'.mp tested
  rw [answerWord, found, (testedName?_eq_some found).2]
  simp only [List.length_cons, List.length_append, length_testWord]
  omega

theorem answerWord_of_none (definitions : Definitions) {word : Text}
    (untested : testedName? word = none) : answerWord definitions word = word := by
  rw [answerWord, untested]

theorem length_answerPieces_le (definitions : Definitions) (pieces : List Text.Piece) :
    (pieces.flatMap (answerPiece definitions)).length ≤
      (pieces.flatMap Text.Piece.toText).length := by
  induction pieces with
  | nil => exact Nat.le_refl _
  | cons piece rest induction =>
      have first : (answerPiece definitions piece).length ≤ piece.toText.length := by
        cases piece with
        | word word => exact length_answerWord_le definitions word
        | gap char => exact Nat.le_refl _
      rw [List.flatMap_cons, List.flatMap_cons, List.length_append, List.length_append]
      exact Nat.add_le_add first induction

/-- Answering leaves a condition as it is exactly if there is no test in it: each answer is shorter
than its test. -/
theorem answerWords_eq_iff (definitions : Definitions) (expression : Text) :
    answerWords definitions expression = expression ↔
      ∀ word, .word word ∈ Text.pieces expression → testedName? word = none := by
  constructor
  · intro same word member
    by_contra tested
    obtain ⟨front, back, split⟩ := List.append_of_mem member
    have before := length_answerPieces_le definitions front
    have here := length_answerWord_lt definitions tested
    have after := length_answerPieces_le definitions back
    have kept : (answerWords definitions expression).length =
        ((Text.pieces expression).flatMap Text.Piece.toText).length := by
      rw [same, Text.flatMap_pieces]
    rw [answerWords, split] at kept
    simp only [List.flatMap_append, List.flatMap_cons, List.length_append, answerPiece,
      Text.Piece.toText] at kept
    omega
  · intro untested
    conv_rhs => rw [← Text.flatMap_pieces expression]
    apply List.flatMap_congr
    intro piece member
    cases piece with
    | word word => exact answerWord_of_none definitions (untested word member)
    | gap char => rfl

/-- A condition without the word `defined` holds if it holds with the tests inside its words
answered. It is expanded as it is written exactly if none of its words begins with `defined` and
goes on with an identifier. -/
theorem evaluate_of_testWord_notMem (definitions : Definitions) (passLimit : Nat)
    {expression : Text} (whole : .word testWord ∉ Text.pieces expression) :
    evaluate definitions passLimit expression =
        evaluatePlain definitions passLimit (answerWords definitions expression) ∧
      (answerWords definitions expression = expression ↔
        ∀ word, .word word ∈ Text.pieces expression → testedName? word = none) := by
  have answered : answerTests definitions expression = answerWords definitions expression :=
    answerTestsFrom_eq definitions expression none (fun _ _ _ => rfl) whole
  refine ⟨?_, answerWords_eq_iff definitions expression⟩
  rw [evaluate, answered]
  rfl

/-- A condition about `defined_lights` is not one about the name that is left without `defined`. -/
theorem evaluate_of_testWord_notMem_lights :
    let definitions := Table.empty.insert "_lights".toList (.text "4".toList)
    let expression := "defined_lights && _lights > 2".toList
    .word testWord ∉ Text.pieces expression ∧
      answerWords definitions expression = "1 && _lights > 2".toList ∧
      (evaluate definitions 512 expression).toOption = some true := by
  intro definitions expression
  have whole : .word testWord ∉ Text.pieces expression := by decide +kernel
  have answered : answerWords definitions expression = "1 && _lights > 2".toList := by
    decide +kernel
  refine ⟨whole, answered, ?_⟩
  rw [(evaluate_of_testWord_notMem definitions 512 whole).1, answered]
  decide +kernel

/-- A name that merely begins with `defined` is not looked up: with `defined_lights` bound to four,
the condition that it is more than two fails, and expanding it as it is written would hold. -/
theorem evaluate_ne_of_longer_name :
    let definitions := Table.empty.insert "defined_lights".toList (.text "4".toList)
    let expression := "defined_lights > 2".toList
    .word testWord ∉ Text.pieces expression ∧
      (evaluate definitions 512 expression).toOption = some false ∧
      (evaluatePlain definitions 512 expression).toOption = some true := by
  decide +kernel

end GlslBuild.Condition
