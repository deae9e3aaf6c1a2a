import GlslBuild.Proofs.Condition.DefinedTest
import GlslBuild.Proofs.Condition.Row

/-!
# Answering tests between spaces

Where single spaces stand between the words of a condition, its tests are answered independently of
each other: what becomes of a word depends neither on the words in front of it nor on those behind
it, unless it is `defined`, which takes the words of its test with it.
-/

namespace GlslBuild

theorem Text.Apart.ends {rest : Text} (apart : rest.Apart) :
    ∀ char ∈ rest.head?, Text.isWord char = false := by
  cases apart with
  | nil => exact nofun
  | space rest =>
      rintro char ⟨⟩
      decide

/-- An identifier is taken whole from the start of a text. -/
theorem Text.Apart.takeIdentifier? {name rest : Text} (apart : rest.Apart)
    (identifier : Text.isIdentifier name = true) :
    Text.takeIdentifier? (name ++ rest) = some (name, rest) := by
  cases name with
  | nil => contradiction
  | cons first name =>
      rw [Text.isIdentifier, Bool.and_eq_true, List.all_eq_true] at identifier
      obtain ⟨taken, dropped⟩ := Text.takeWhile_append_of_blank
        (fun _ => Text.isBlank_eq_false_of_continuesIdentifier) identifier.2 apart.blank
      rw [List.cons_append, Text.takeIdentifier?, if_pos identifier.1, taken, dropped]

namespace Condition

/-! ## Words behind spaces -/

/-- The words, each behind a space. -/
def spaced (words : List Text) : Text := words.flatMap (' ' :: ·)

theorem spaced_append (first second : List Text) :
    spaced (first ++ second) = spaced first ++ spaced second :=
  List.flatMap_append

theorem spaced_cons_append (word : Text) (words : List Text) (rest : Text) :
    spaced (word :: words) ++ rest = ' ' :: (word ++ (spaced words ++ rest)) := by
  rw [spaced, List.flatMap_cons, List.append_assoc, List.cons_append]
  rfl

theorem spaced_eq_cons {words : List Text} (words_ne_nil : words ≠ []) :
    spaced words = ' ' :: [' '].intercalate words := by
  induction words with
  | nil => contradiction
  | cons word words induction =>
      cases words with
      | nil => rw [spaced, List.flatMap_singleton, List.intercalate_singleton]
      | cons next words =>
          rw [List.intercalate_cons_cons, spaced, List.flatMap_cons, ← spaced,
            induction (List.cons_ne_nil next words)]
          simp

theorem apart_spaced_append (words : List Text) {rest : Text} (apart : rest.Apart) :
    (spaced words ++ rest).Apart := by
  cases words with
  | nil => exact apart
  | cons word words =>
      rw [spaced_cons_append]
      exact .space _

/-! ## Answers word by word -/

section Answers

variable {definitions : Definitions}

theorem isWord_space : Text.isWord ' ' = false := by decide

theorem answerTestsFrom_space (previous : Option Char) (rest : Text) :
    answerTestsFrom definitions previous (' ' :: rest) =
      ' ' :: answerTestsFrom definitions (some ' ') rest :=
  answerTestsFrom_of_none (testAt?_of_not_isWord isWord_space previous rest) definitions

/-- What is apart from the text in front of it is answered without regard to that text. -/
theorem answerTestsFrom_of_apart {rest : Text} (apart : rest.Apart) (previous : Option Char) :
    answerTestsFrom definitions previous rest = answerTestsFrom definitions none rest := by
  cases apart with
  | nil => rw [answerTestsFrom, answerTestsFrom]
  | space rest => rw [answerTestsFrom_space, answerTestsFrom_space]

/-- Behind a space a text is answered as at the start. -/
theorem answerTestsFrom_behind_space (text : Text) :
    answerTestsFrom definitions (some ' ') text = answerTestsFrom definitions none text := by
  cases text with
  | nil => rw [answerTestsFrom, answerTestsFrom]
  | cons char tail =>
      have same : testAt? (some ' ') (char :: tail) = testAt? none (char :: tail) := by
        simp [testAt?, Expansion.isBoundary, isWord_space]
      cases found : testAt? none (char :: tail) with
      | none => rw [answerTestsFrom_of_none found, answerTestsFrom_of_none (same.trans found)]
      | some test => rw [answerTestsFrom_of_some found, answerTestsFrom_of_some (same.trans found)]

variable (definitions) in
/-- Wherever the old words stand behind spaces, answering tests makes them the new ones. -/
def Answers (old new : List Text) : Prop :=
  ∀ (previous : Option Char) {rest : Text}, rest.Apart →
    answerTestsFrom definitions previous (spaced old ++ rest) =
      spaced new ++ answerTestsFrom definitions none rest

theorem Answers.append {first second first_new second_new : List Text}
    (first_answers : Answers definitions first first_new)
    (second_answers : Answers definitions second second_new) :
    Answers definitions (first ++ second) (first_new ++ second_new) := by
  intro previous rest apart
  rw [spaced_append, spaced_append, List.append_assoc, List.append_assoc,
    first_answers previous (apart_spaced_append second apart), second_answers none apart]

theorem Answers.of_word {word new : Text}
    (answered : ∀ {rest : Text}, rest.Apart →
      answerTestsFrom definitions (some ' ') (word ++ rest) =
        new ++ answerTestsFrom definitions none rest) :
    Answers definitions [word] [new] := by
  intro previous rest apart
  rw [spaced_cons_append, spaced_cons_append, answerTestsFrom_space]
  exact congrArg _ (answered apart)

theorem answers_gaps {word : Text} (gaps : ∀ char ∈ word, Text.isWord char = false) :
    Answers definitions [word] [word] := by
  apply Answers.of_word
  intro rest apart
  generalize some ' ' = previous
  induction word generalizing previous with
  | nil => exact answerTestsFrom_of_apart apart previous
  | cons char word induction =>
      have absent := testAt?_of_not_isWord (gaps char List.mem_cons_self) previous (word ++ rest)
      have later := induction (fun other member => gaps other (List.mem_cons_of_mem char member))
        (some char)
      rw [List.cons_append, answerTestsFrom_of_none absent, later, List.cons_append]

/-- A word that does not begin like a test is kept. -/
theorem answers_word {word : Text} (word_ne_nil : word ≠ [])
    (all : ∀ char ∈ word, Text.isWord char = true) (not_test : ¬testWord <+: word) :
    Answers definitions [word] [word] := by
  apply Answers.of_word
  intro rest apart
  have other : word ≠ testWord := by
    rintro rfl
    exact not_test List.prefix_rfl
  have untested : testedName? word = none := by
    rw [testedName?]
    cases found : Text.dropLeading? testWord word with
    | none => rfl
    | some tail => exact absurd ⟨tail, (Text.dropLeading?_eq_some_iff.mp found).symm⟩ not_test
  obtain ⟨last, same⟩ :=
    answerTestsFrom_word definitions word_ne_nil other all apart.ends
      (show Option.any Text.isWord (some ' ') = false from isWord_space)
  rw [same, answerWord_of_none definitions untested, answerTestsFrom_of_apart apart]

theorem answers_of_definedTest? {words : List Text} {name : Text}
    (found : ∀ {rest : Text}, rest.Apart →
      ∃ last, definedTest? (testWord ++ (spaced words ++ rest)) = some ⟨name, last, rest⟩) :
    Answers definitions (testWord :: words) [[answer definitions name]] := by
  intro previous rest apart
  obtain ⟨last, found⟩ := found apart
  obtain ⟨first, tail, spelled⟩ : ∃ first tail, testWord = first :: tail :=
    List.exists_cons_of_ne_nil (by decide)
  have letter : Text.isWord first = true := isWord_of_mem_testWord (by simp [spelled])
  have starts : testAt? (some ' ') (first :: (tail ++ (spaced words ++ rest))) =
      some ⟨name, last, rest⟩ := by
    rw [← found, spelled, testAt?, List.cons_append, List.head?_cons, Expansion.isBoundary,
      Option.any_some, Option.any_some, letter]
    rfl
  rw [spaced_cons_append, answerTestsFrom_space, spelled, List.cons_append,
    answerTestsFrom_of_some starts, answerTestsFrom_of_apart apart]
  rfl

theorem definedTest?_testWord_append (tail : Text) :
    definedTest? (testWord ++ tail) =
      (parenthesisedName? (Text.trimStart tail)).or (bareName? (Text.trimStart tail)) := by
  have begins : Text.dropLeading? testWord (testWord ++ tail) = some tail :=
    Text.dropLeading?_eq_some_iff.mpr rfl
  rw [definedTest?, show "defined".toList = testWord from rfl, begins]

theorem trimStart_space_append {name : Text} (identifier : Text.isIdentifier name = true)
    (rest : Text) : Text.trimStart (' ' :: (name ++ rest)) = name ++ rest := by
  obtain ⟨name_ne_nil, continues⟩ := Text.all_of_isIdentifier identifier
  obtain ⟨first, others, rfl⟩ := List.exists_cons_of_ne_nil name_ne_nil
  have letter := Text.isWord_of_continuesIdentifier (continues first List.mem_cons_self)
  rw [Text.trimStart, List.dropWhile_cons_of_pos (by decide)]
  exact Text.trimStart_of_isWord letter _

/-- An identifier does not begin with a parenthesis. -/
theorem parenthesisedName?_append {name : Text} (identifier : Text.isIdentifier name = true)
    (rest : Text) : parenthesisedName? (name ++ rest) = none := by
  cases name with
  | nil => contradiction
  | cons first name =>
      rw [Text.isIdentifier, Bool.and_eq_true] at identifier
      rw [List.cons_append, parenthesisedName?.eq_2]
      rintro inner ⟨⟩
      exact absurd identifier.1 (by decide)

/-- A test of an identifier is answered, with and without parentheses around the identifier. -/
theorem answers_test {name : Text} (identifier : Text.isIdentifier name = true) (enclosed : Bool) :
    Answers definitions (testWord :: if enclosed then [['('], name, [')']] else [name])
      [[answer definitions name]] := by
  apply answers_of_definedTest?
  intro rest apart
  cases enclosed with
  | false =>
      have taken := apart.takeIdentifier? identifier
      refine ⟨name.getLastD ' ', ?_⟩
      rw [definedTest?_testWord_append, if_neg Bool.false_ne_true, spaced_cons_append,
        trimStart_space_append identifier, parenthesisedName?_append identifier,
        Option.none_or]
      exact congrArg (Option.map _) taken
  | true =>
      have taken := (Text.Apart.space (')' :: rest)).takeIdentifier? identifier
      refine ⟨')', ?_⟩
      have opened : parenthesisedName? ('(' :: ' ' :: (name ++ ' ' :: ')' :: rest)) =
          some ⟨name, ')', rest⟩ := by
        rw [parenthesisedName?, trimStart_space_append identifier, taken]
        rfl
      rw [definedTest?_testWord_append, if_pos rfl, spaced_cons_append, spaced_cons_append,
        spaced_cons_append]
      exact congrArg (Option.or · _) opened

end Answers

end Condition

end GlslBuild
