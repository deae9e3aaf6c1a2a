import GlslBuild.Expansion
import GlslBuild.Proofs.Word

/-!
# Substitution in words

Replacing the identifiers of a text neither joins its words nor splits them: a word stands between
gaps, and the gaps stay. Without templates a pass of the expansion is such a replacement.
-/

namespace GlslBuild

namespace Text

/-! ## Pieces of texts that are put together -/

theorem consWord_append (char : Char) (piece : Piece) (first second : List Piece) :
    Piece.consWord char (piece :: first ++ second) =
      Piece.consWord char (piece :: first) ++ second := by
  cases piece <;> rfl

theorem pieces_ne_nil (char : Char) (rest : Text) : pieces (char :: rest) ≠ [] := by
  rw [pieces]
  split
  · unfold Piece.consWord
    split <;> simp
  · simp

theorem consWord_of_ends {rest : Text} (ends : ∀ char ∈ rest.head?, isWord char = false)
    (char : Char) : Piece.consWord char (pieces rest) = .word [char] :: pieces rest := by
  cases rest with
  | nil => rfl
  | cons next after =>
      rw [pieces_cons_of_not_isWord (ends next rfl)]
      rfl

/-- No word goes on behind a text that ends in front of a gap. -/
theorem pieces_append_of_ends {rest : Text} (ends : ∀ char ∈ rest.head?, isWord char = false)
    (text : Text) : pieces (text ++ rest) = pieces text ++ pieces rest := by
  induction text with
  | nil => rfl
  | cons char text induction =>
      rw [List.cons_append, pieces, pieces, induction]
      split
      · cases text with
        | nil => exact consWord_of_ends ends char
        | cons next text =>
            obtain ⟨piece, others, split⟩ := List.exists_cons_of_ne_nil (pieces_ne_nil next text)
            rw [split, ← consWord_append, List.cons_append]
      · rfl

/-- The pieces of a text are words and gaps. -/
def Piece.Proper : Piece → Prop
  | .word text => text ≠ [] ∧ ∀ char ∈ text, isWord char = true
  | .gap char => isWord char = false

theorem proper_of_mem_pieces {text : Text} {piece : Piece} (member : piece ∈ pieces text) :
    piece.Proper := by
  induction text using word_induction with
  | nil => contradiction
  | gap char rest gap induction =>
      rw [pieces_cons_of_not_isWord gap] at member
      rcases List.mem_cons.mp member with rfl | member
      · exact gap
      · exact induction member
  | word word rest word_ne_nil all ends induction =>
      rw [pieces_append word_ne_nil all ends] at member
      rcases List.mem_cons.mp member with rfl | member
      · exact ⟨word_ne_nil, all⟩
      · exact induction member

/-- A word on its own is one piece. -/
theorem pieces_of_word {word : Text} (word_ne_nil : word ≠ [])
    (all : ∀ char ∈ word, isWord char = true) : pieces word = [.word word] := by
  rw [← List.append_nil word, pieces_append word_ne_nil all (by simp), List.append_nil]
  rfl

theorem Piece.Proper.pieces_toText {piece : Piece} (proper : piece.Proper) :
    pieces piece.toText = [piece] := by
  cases piece with
  | word text => exact pieces_of_word proper.1 proper.2
  | gap char => exact pieces_cons_of_not_isWord proper []

/-! ## Replacing identifiers -/

section MapIdentifiers

variable (replacement : Text → Text)

theorem mapIdentifiers_append_of_ends {rest : Text}
    (ends : ∀ char ∈ rest.head?, isWord char = false) (text : Text) :
    mapIdentifiers replacement (text ++ rest) =
      mapIdentifiers replacement text ++ mapIdentifiers replacement rest := by
  rw [mapIdentifiers, pieces_append_of_ends ends, List.flatMap_append]
  rfl

theorem mapIdentifiers_cons_of_not_isWord {char : Char} (gap : isWord char = false) (rest : Text) :
    mapIdentifiers replacement (char :: rest) = char :: mapIdentifiers replacement rest := by
  rw [mapIdentifiers, pieces_cons_of_not_isWord gap]
  rfl

theorem mapIdentifiers_of_word {word : Text} (word_ne_nil : word ≠ [])
    (all : ∀ char ∈ word, isWord char = true) :
    mapIdentifiers replacement word = if isIdentifier word then replacement word else word := by
  rw [mapIdentifiers, pieces_of_word word_ne_nil all, List.flatMap_singleton]
  rfl

theorem mapIdentifiers_of_gaps {text : Text} (gaps : ∀ char ∈ text, isWord char = false) :
    mapIdentifiers replacement text = text := by
  induction text with
  | nil => rfl
  | cons char rest induction =>
      have here := gaps char List.mem_cons_self
      rw [mapIdentifiers_cons_of_not_isWord replacement here,
        induction fun other member => gaps other (List.mem_cons_of_mem char member)]

/-- What begins with a gap does so still. -/
theorem head?_mapIdentifiers {rest : Text} (ends : ∀ char ∈ rest.head?, isWord char = false) :
    ∀ char ∈ (mapIdentifiers replacement rest).head?, isWord char = false := by
  cases rest with
  | nil => exact ends
  | cons next rest =>
      rw [mapIdentifiers_cons_of_not_isWord replacement (ends next rfl)]
      exact ends

/-- The pieces of a text in which identifiers are replaced are those of the replacements. -/
theorem pieces_mapIdentifiers (text : Text) :
    pieces (mapIdentifiers replacement text) =
      (pieces text).flatMap fun piece => pieces (piece.substitute replacement) := by
  induction text using word_induction with
  | nil => rfl
  | gap char rest gap induction =>
      rw [mapIdentifiers_cons_of_not_isWord replacement gap, pieces_cons_of_not_isWord gap,
        pieces_cons_of_not_isWord gap, List.flatMap_cons, induction, Piece.substitute,
        pieces_cons_of_not_isWord gap]
      rfl
  | word word rest word_ne_nil all ends induction =>
      rw [mapIdentifiers_append_of_ends replacement ends,
        pieces_append_of_ends (head?_mapIdentifiers replacement ends), induction,
        pieces_append word_ne_nil all ends, List.flatMap_cons, mapIdentifiers,
        pieces_of_word word_ne_nil all, List.flatMap_singleton]

end MapIdentifiers

end Text

namespace Expansion

/-! ## Passes without templates -/

section WithoutTemplates

variable {definitions : Definitions} (textual : definitions.hasTemplates = false)

include textual

theorem sweep_of_textual (text : Text) : sweep definitions text = .ok text := by
  have no_names : definitions.templateNames = [] := by
    simpa [Definitions.hasTemplates] using textual
  have unchanged : ∀ previous, sweepFrom definitions [] previous text = .ok text := by
    induction text with
    | nil =>
        intro previous
        rw [sweepFrom]
    | cons char rest induction =>
        intro previous
        have no_call : callAt? [] previous (char :: rest) = none := by
          rw [callAt?, openCall?, List.findSome?_nil, ite_self]
        rw [sweepFrom]
        split
        · rw [induction (some char)]
          rfl
        · next opening after found =>
            rw [no_call] at found
            contradiction
  rw [sweep, no_names, unchanged]

theorem pass_of_textual (inCondition : Bool) (text : Text) :
    pass definitions inCondition text = .ok (substitute definitions inCondition text) := by
  rw [pass, sweep_of_textual textual]
  rfl

/-- A pass that changes nothing is the last one. -/
theorem settle_succ_of_textual (inCondition : Bool) (limit remaining : Nat) (text : Text) :
    settle definitions inCondition limit (remaining + 1) text =
      if substitute definitions inCondition text = text then .ok text
      else settle definitions inCondition limit remaining
        (substitute definitions inCondition text) := by
  rw [settle, pass_of_textual textual]

end WithoutTemplates

end Expansion

end GlslBuild
