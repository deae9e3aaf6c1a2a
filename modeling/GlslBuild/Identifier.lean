import GlslBuild.Text.Basic
import GlslBuild.Text.Word

/-!
# Identifiers

An identifier is an ASCII letter or underscore followed by ASCII letters, digits and underscores. In
a text it counts as a token only where it is a whole word, so a neighbour from another script hides
it. A text is the concatenation of its words and the single characters between them.
-/

namespace GlslBuild

namespace Text

/-- A character that may start an identifier. -/
def startsIdentifier (char : Char) : Bool := char.isAlpha || char == '_'

/-- A character that may continue an identifier. -/
def continuesIdentifier (char : Char) : Bool := char.isAlphanum || char == '_'

/-- The whole text is one identifier. -/
def isIdentifier : Text → Bool
  | [] => false
  | char :: rest => startsIdentifier char && rest.all continuesIdentifier

/-- The longest identifier at the start of the text, and what follows it. -/
def takeIdentifier? : Text → Option (Text × Text)
  | [] => none
  | char :: rest =>
      if startsIdentifier char then
        some (char :: rest.takeWhile continuesIdentifier, rest.dropWhile continuesIdentifier)
      else none

/-- A piece of a text: a longest run of word characters, or one character between words. -/
inductive Piece where
  | word (text : Text)
  | gap (char : Char)
  deriving DecidableEq, Repr

/-- The text that a piece stands for. -/
def Piece.toText : Piece → Text
  | .word text => text
  | .gap char => [char]

/-- Puts a character in front of pieces, as part of the word they start with if there is one. -/
def Piece.consWord (char : Char) : List Piece → List Piece
  | .word text :: pieces => .word (char :: text) :: pieces
  | pieces => .word [char] :: pieces

/-- The words of a text and the characters between them. -/
def pieces : Text → List Piece
  | [] => []
  | char :: rest =>
      if isWord char then Piece.consWord char (pieces rest) else .gap char :: pieces rest

/-- What becomes of a piece when identifiers are replaced. -/
def Piece.substitute (replacement : Text → Text) : Piece → Text
  | .word text => if isIdentifier text then replacement text else text
  | .gap char => [char]

/-- The text with each identifier token replaced, all at once. -/
def mapIdentifiers (replacement : Text → Text) (text : Text) : Text :=
  (pieces text).flatMap (Piece.substitute replacement)

theorem Piece.toText_consWord (char : Char) (rest : List Piece) :
    (Piece.consWord char rest).flatMap Piece.toText = char :: rest.flatMap Piece.toText := by
  unfold Piece.consWord
  split <;> simp [Piece.toText]

/-- The pieces of a text make up the text. -/
theorem flatMap_pieces (text : Text) : (pieces text).flatMap Piece.toText = text := by
  induction text with
  | nil => rfl
  | cons char rest induction =>
      unfold pieces
      split
      · rw [Piece.toText_consWord, induction]
      · simp [Piece.toText, induction]

/-- Replacing each identifier by itself changes nothing. -/
theorem mapIdentifiers_id (text : Text) : mapIdentifiers (fun name => name) text = text := by
  have same : Piece.substitute (fun name => name) = Piece.toText := by
    funext piece
    cases piece <;> simp [Piece.substitute, Piece.toText]
  rw [mapIdentifiers, same, flatMap_pieces]

/-- What is taken from the start of a text is an identifier, and nothing is lost. -/
theorem takeIdentifier?_eq_some {text name rest : Text}
    (taken : takeIdentifier? text = some (name, rest)) :
    isIdentifier name = true ∧ text = name ++ rest := by
  cases text with
  | nil => simp [takeIdentifier?] at taken
  | cons char tail =>
      simp only [takeIdentifier?, Option.ite_none_right_eq_some, Option.some.injEq,
        Prod.mk.injEq] at taken
      obtain ⟨starts, rfl, rfl⟩ := taken
      have continues := List.all_takeWhile (p := continuesIdentifier) (l := tail)
      exact ⟨by simp [isIdentifier, starts, continues],
        by rw [List.cons_append, List.takeWhile_append_dropWhile]⟩

end Text

end GlslBuild
