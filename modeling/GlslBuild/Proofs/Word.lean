import GlslBuild.Proofs.Identifier
import Mathlib.Data.List.TakeWhile

/-!
# Words in texts

A text is read word by word: a longest run of word characters, or a single character between words.
Identifiers are made of word characters, and white space belongs to no word.
-/

namespace GlslBuild.Text

/-! ## Word characters -/

theorem isWord_of_continuesIdentifier {char : Char} (continues : continuesIdentifier char = true) :
    isWord char = true := by
  have visible := toNat_of_continuesIdentifier continues
  rw [isWord, if_pos (by omega)]
  exact continues

theorem disjoint_whiteSpace_words :
    (CharClass.whiteSpace.all fun blank => CharClass.wordsBeyondASCII.all fun word =>
      decide (blank.2 < word.1) || decide (word.2 < blank.1)) = true := by
  decide +kernel

/-- White space belongs to no word. -/
theorem isBlank_eq_false_of_isWord {char : Char} (word : isWord char = true) :
    isBlank char = false := by
  rw [isWord] at word
  split at word
  · exact isBlank_eq_false_of_continuesIdentifier word
  · obtain ⟨inside, member, low, high⟩ := (CharClass.contains_iff _ char).mp word
    rw [isBlank, Bool.eq_false_iff, ne_eq, CharClass.contains_iff]
    rintro ⟨blank, blank_member, blank_low, blank_high⟩
    have apart := List.all_eq_true.mp
      (List.all_eq_true.mp disjoint_whiteSpace_words blank blank_member) inside member
    simp only [Bool.or_eq_true, decide_eq_true_eq] at apart
    omega

theorem trimStart_of_isWord {char : Char} (word : isWord char = true) (rest : Text) :
    trimStart (char :: rest) = char :: rest := by
  simp [trimStart, isBlank_eq_false_of_isWord word]

/-- A class of word characters sees nothing of what follows a word. -/
theorem takeWhile_append_of_ends {belongs : Char → Bool} {rest : Text}
    (words : ∀ char, belongs char = true → isWord char = true)
    (ends : ∀ char ∈ rest.head?, isWord char = false) (word : Text) :
    (word ++ rest).takeWhile belongs = word.takeWhile belongs ∧
      (word ++ rest).dropWhile belongs = word.dropWhile belongs ++ rest := by
  induction word with
  | nil =>
      cases rest with
      | nil => exact ⟨rfl, rfl⟩
      | cons char rest =>
          have stops : belongs char = false := by
            rw [Bool.eq_false_iff]
            intro inside
            have word := words char inside
            rw [ends char rfl] at word
            contradiction
          simp [stops]
  | cons char word induction =>
      cases here : belongs char with
      | false => simp [here]
      | true => simp [here, induction.1, induction.2]

/-- A word in front of something else is all of the word at its place. -/
theorem takeWhile_isWord_append {word rest : Text} (all : ∀ char ∈ word, isWord char = true)
    (ends : ∀ char ∈ rest.head?, isWord char = false) : (word ++ rest).takeWhile isWord = word := by
  rw [(takeWhile_append_of_ends (fun _ word => word) ends word).1,
    List.takeWhile_eq_self_iff.mpr all]

/-- Dropping a lead sees nothing behind a character that does not occur in it. -/
theorem dropLeading?_append {lead rest : Text} (ends : ∀ char ∈ rest.head?, char ∉ lead)
    (text : Text) :
    dropLeading? lead (text ++ rest) = (dropLeading? lead text).map (· ++ rest) := by
  fun_induction dropLeading? lead text with
  | case1 text => rw [dropLeading?, Option.map_some]
  | case2 expected lead =>
      cases rest with
      | nil => rfl
      | cons char rest =>
          have other : expected ≠ char := by
            rintro rfl
            exact ends expected rfl List.mem_cons_self
          rw [List.nil_append, dropLeading?, if_neg other, Option.map_none]
  | case3 lead expected text induction =>
      have later := induction fun char head member =>
        ends char head (List.mem_cons_of_mem expected member)
      rw [List.cons_append, dropLeading?, if_pos rfl, later]
  | case4 expected lead char text other =>
      rw [List.cons_append, dropLeading?, if_neg other, Option.map_none]

/-- An identifier at the start of a word sees nothing of what follows the word. -/
theorem takeIdentifier?_append {word rest : Text} (word_ne_nil : word ≠ [])
    (ends : ∀ char ∈ rest.head?, isWord char = false) :
    takeIdentifier? (word ++ rest) =
      (takeIdentifier? word).map fun (name, tail) => (name, tail ++ rest) := by
  cases word with
  | nil => contradiction
  | cons char word =>
      have unseen := takeWhile_append_of_ends (fun _ => isWord_of_continuesIdentifier) ends word
      rw [List.cons_append, takeIdentifier?, takeIdentifier?, unseen.1, unseen.2]
      split <;> rfl

/-! ## Words -/

theorem pieces_cons_of_not_isWord {char : Char} (gap : isWord char = false) (rest : Text) :
    pieces (char :: rest) = .gap char :: pieces rest := by
  rw [pieces, gap]
  rfl

/-- A run of word characters that ends where the text does, or before a character of another kind,
is a word of the text. -/
theorem pieces_append {word rest : Text} (word_ne_nil : word ≠ [])
    (all : ∀ char ∈ word, isWord char = true) (ends : ∀ char ∈ rest.head?, isWord char = false) :
    pieces (word ++ rest) = .word word :: pieces rest := by
  have first_piece : ∀ char, Piece.consWord char (pieces rest) = .word [char] :: pieces rest := by
    cases rest with
    | nil => intro char; rfl
    | cons next after =>
        intro char
        rw [pieces_cons_of_not_isWord (ends next rfl)]
        rfl
  induction word with
  | nil => contradiction
  | cons char word induction =>
      have here := all char List.mem_cons_self
      have later := fun other member => all other (List.mem_cons_of_mem char member)
      rw [List.cons_append, pieces, if_pos here]
      cases word with
      | nil => exact first_piece char
      | cons next word =>
          rw [induction (List.cons_ne_nil _ _) later]
          rfl

/-- Induction over the words of a text and the characters between them. -/
@[elab_as_elim]
theorem word_induction {motive : Text → Prop} (nil : motive [])
    (gap : ∀ char rest, isWord char = false → motive rest → motive (char :: rest))
    (word : ∀ word rest, word ≠ [] → (∀ char ∈ word, isWord char = true) →
      (∀ char ∈ rest.head?, isWord char = false) → motive rest → motive (word ++ rest))
    (text : Text) : motive text := by
  induction count : text.length using Nat.strongRecOn generalizing text with
  | _ count induction =>
      subst count
      cases text with
      | nil => exact nil
      | cons char rest =>
          cases here : isWord char with
          | false => exact gap char rest here (induction _ (by simp) rest rfl)
          | true =>
              have split := List.takeWhile_append_dropWhile (p := isWord) (l := char :: rest)
              have taken : (char :: rest).takeWhile isWord ≠ [] := by
                simp [here]
              have shorter : ((char :: rest).dropWhile isWord).length < (char :: rest).length := by
                have positive := List.length_pos_iff.mpr taken
                have total := congrArg List.length split
                rw [List.length_append] at total
                omega
              rw [← split]
              refine word _ _ taken ?_ ?_ (induction _ shorter _ rfl)
              · intro other member
                exact List.all_eq_true.mp List.all_takeWhile other member
              · intro other first
                have stopped := List.head?_dropWhile_not isWord (char :: rest)
                rw [Option.mem_def.mp first] at stopped
                simpa using stopped

end GlslBuild.Text
