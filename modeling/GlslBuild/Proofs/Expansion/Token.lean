import GlslBuild.Proofs.Expansion.CallSite
import GlslBuild.Proofs.Expansion.Substitution

/-!
# Identifier tokens

An identifier is a token of a text where it has no word character next to it. Replacing identifiers
piece by piece is replacing the tokens: they are taken from left to right in the text as it was, and
what stands between them is copied. What a token gives way to is not looked at again.
-/

namespace GlslBuild.Text

/-- The identifier is a token somewhere in the text. -/
def HasToken (text name : Text) : Prop :=
  ∃ before after, text = before ++ (name ++ after) ∧ IsToken before name after

/-- The last text is the one before with its tokens replaced. The first text stands in front of
it. -/
inductive Replaced (replacement : Text → Text) : Text → Text → Text → Prop where
  | nil {behind : Text} : Replaced replacement behind [] []
  | token {behind name after result : Text} (token : IsToken behind name after)
      (further : Replaced replacement (behind ++ name) after result) :
      Replaced replacement behind (name ++ after) (replacement name ++ result)
  | copy {behind rest result : Text} {char : Char}
      (none_here : ∀ name after, char :: rest = name ++ after → ¬IsToken behind name after)
      (further : Replaced replacement (behind ++ [char]) rest result) :
      Replaced replacement behind (char :: rest) (char :: result)

variable {replacement : Text → Text}

/-! ## Tokens at a place -/

/-- A token is the whole word that begins at its place. -/
theorem IsToken.takeWhile_eq {before name after : Text} (token : IsToken before name after) :
    (name ++ after).takeWhile isWord = name :=
  takeWhile_isWord_append (Expansion.isWord_of_isIdentifier token.identifier) token.ends

/-- At a place there is at most one token. -/
theorem IsToken.unique {before name after other otherAfter : Text}
    (token : IsToken before name after) (other_token : IsToken before other otherAfter)
    (same : name ++ after = other ++ otherAfter) : name = other ∧ after = otherAfter := by
  have names : name = other := by
    rw [← token.takeWhile_eq, same, other_token.takeWhile_eq]
  subst names
  exact ⟨rfl, List.append_cancel_left same⟩

theorem not_isToken_of_gap {char : Char} {before rest name after : Text}
    (gap : isWord char = false) (split : char :: rest = name ++ after) :
    ¬IsToken before name after := by
  intro token
  obtain ⟨first, more, rfl⟩ := List.exists_cons_of_ne_nil (all_of_isIdentifier token.identifier).1
  obtain ⟨rfl, -⟩ := List.cons.inj split
  have word := Expansion.isWord_of_isIdentifier token.identifier char List.mem_cons_self
  rw [gap] at word
  contradiction

/-! ## Replacing tokens -/

namespace Replaced

/-- Behind its first character a word is copied. -/
theorem of_inside {word rest result behind : Text} (all : ∀ char ∈ word, isWord char = true)
    (inside : ∃ last ∈ behind.getLast?, isWord last = true)
    (further : Replaced replacement (behind ++ word) rest result) :
    Replaced replacement behind (word ++ rest) (word ++ result) := by
  induction word generalizing behind with
  | nil => rwa [List.append_nil] at further
  | cons char word induction =>
      have later : ∃ last ∈ (behind ++ [char]).getLast?, isWord last = true :=
        ⟨char, by simp, all char List.mem_cons_self⟩
      refine .copy ?_ (induction (fun other member => all other (List.mem_cons_of_mem char member))
        later (by rwa [List.append_assoc]))
      intro name after split token
      obtain ⟨last, behind_last, word⟩ := inside
      rw [token.starts last behind_last] at word
      contradiction

/-- Replacing identifiers piece by piece replaces the tokens of a text that begins no word which has
begun before. -/
theorem of_mapIdentifiers (text : Text) {behind : Text}
    (apart : ∀ next ∈ text.head?, isWord next = true →
      ∀ last ∈ behind.getLast?, isWord last = false) :
    Replaced replacement behind text (mapIdentifiers replacement text) := by
  induction text using word_induction generalizing behind with
  | nil => exact .nil
  | gap char rest gap induction =>
      rw [mapIdentifiers_cons_of_not_isWord replacement gap]
      refine .copy (fun name after split => not_isToken_of_gap gap split) (induction ?_)
      simpa using fun _ _ _ => gap
  | word word rest word_ne_nil all ends induction =>
      have further :
          Replaced replacement (behind ++ word) rest (mapIdentifiers replacement rest) := by
        apply induction
        intro next head word
        rw [ends next head] at word
        contradiction
      obtain ⟨char, tail, rfl⟩ := List.exists_cons_of_ne_nil word_ne_nil
      have starts := apart char rfl (all char List.mem_cons_self)
      rw [mapIdentifiers_append_of_ends replacement ends,
        mapIdentifiers_of_word replacement word_ne_nil all]
      split
      · next identifier => exact .token ⟨identifier, starts, ends⟩ further
      · next other =>
          rw [← List.singleton_append, ← List.append_assoc] at further
          have all_tail : ∀ other ∈ tail, Text.isWord other = true :=
            fun other member => all other (List.mem_cons_of_mem char member)
          refine .copy ?_ (of_inside all_tail ⟨char, by simp, all char List.mem_cons_self⟩ further)
          intro name after split token
          have whole := takeWhile_isWord_append all ends
          obtain rfl : char :: tail = name :=
            (whole.symm.trans (congrArg (List.takeWhile isWord) split)).trans token.takeWhile_eq
          exact other token.identifier

theorem unique {behind text first second : Text} (replaced : Replaced replacement behind text first)
    (same : Replaced replacement behind text second) : first = second := by
  induction replaced generalizing second with
  | nil =>
      generalize nothing : ([] : Text) = text at same
      cases same with
      | nil => rfl
      | token token further =>
          obtain ⟨rfl, -⟩ := List.append_eq_nil_iff.mp nothing.symm
          exact absurd rfl (all_of_isIdentifier token.identifier).1
      | copy => contradiction
  | @token behind name after result token further induction =>
      generalize split : name ++ after = text at same
      cases same with
      | nil =>
          obtain ⟨rfl, -⟩ := List.append_eq_nil_iff.mp split
          exact absurd rfl (all_of_isIdentifier token.identifier).1
      | token other_token other_further =>
          obtain ⟨rfl, rfl⟩ := token.unique other_token split
          rw [induction other_further]
      | copy none_here => exact absurd token (none_here name after split.symm)
  | @copy behind rest result char none_here further induction =>
      generalize split : char :: rest = text at same
      cases same with
      | nil => contradiction
      | token other_token => exact absurd other_token (none_here _ _ split)
      | copy other_none other_further =>
          obtain ⟨rfl, rfl⟩ := List.cons.inj split
          rw [induction other_further]

end Replaced

/-- Replacing identifiers piece by piece is replacing tokens. -/
theorem replaced_iff {text result : Text} :
    Replaced replacement [] text result ↔ result = mapIdentifiers replacement text := by
  have mapped : Replaced replacement [] text (mapIdentifiers replacement text) :=
    .of_mapIdentifiers text (by simp)
  constructor
  · exact fun replaced => replaced.unique mapped
  · rintro rfl
    exact mapped

/-! ## Which tokens matter -/

/-- An identifier among the words of a text is a token. -/
theorem hasToken_of_mem_pieces {text name : Text} (member : .word name ∈ pieces text)
    (identifier : isIdentifier name = true) : HasToken text name := by
  induction text using word_induction with
  | nil => contradiction
  | gap char rest gap induction =>
      rw [pieces_cons_of_not_isWord gap, List.mem_cons] at member
      obtain ⟨before, after, rfl, token⟩ := induction (member.resolve_left nofun)
      refine ⟨char :: before, after, rfl, identifier, ?_, token.ends⟩
      intro last before_last
      cases before with
      | nil =>
          obtain rfl := Option.some.inj before_last
          exact gap
      | cons first before => exact token.starts last (by simpa using before_last)
  | word word rest word_ne_nil all ends induction =>
      rw [pieces_append word_ne_nil all ends, List.mem_cons] at member
      rcases member with here | later
      · cases here
        exact ⟨[], rest, rfl, identifier, by simp, ends⟩
      · obtain ⟨before, after, rfl, token⟩ := induction later
        refine ⟨word ++ before, after, by simp, identifier, ?_, token.ends⟩
        cases before with
        | nil =>
            -- The token would begin right behind the word, which ends in front of a gap.
            obtain ⟨first, more, rfl⟩ :=
              List.exists_cons_of_ne_nil (all_of_isIdentifier identifier).1
            have inside := Expansion.isWord_of_isIdentifier identifier first List.mem_cons_self
            rw [ends first rfl] at inside
            contradiction
        | cons first before =>
            intro last before_last
            exact token.starts last (by simpa using before_last)

/-- Replacements that agree on the tokens of a text make the same of it. -/
theorem mapIdentifiers_congr {first second : Text → Text} {text : Text}
    (same : ∀ name, HasToken text name → first name = second name) :
    mapIdentifiers first text = mapIdentifiers second text := by
  apply List.flatMap_congr
  intro piece member
  cases piece with
  | gap char => rfl
  | word word =>
      rw [Piece.substitute, Piece.substitute]
      split
      · next identifier => exact same word (hasToken_of_mem_pieces member identifier)
      · rfl

/-- Identifiers that give way to identifiers can be replaced once more in the same places. -/
theorem mapIdentifiers_mapIdentifiers {inner outer : Text → Text}
    (identifiers : ∀ name, isIdentifier name = true → isIdentifier (inner name) = true)
    (text : Text) :
    mapIdentifiers outer (mapIdentifiers inner text) =
      mapIdentifiers (fun name => outer (inner name)) text := by
  rw [mapIdentifiers, pieces_mapIdentifiers, List.flatMap_assoc]
  apply List.flatMap_congr
  intro piece member
  have proper := proper_of_mem_pieces member
  cases piece with
  | gap char => exact congrArg (List.flatMap _) proper.pieces_toText
  | word word =>
      simp only [Piece.substitute]
      split
      · next identifier =>
          have valid := identifiers word identifier
          rw [pieces_of_word (all_of_isIdentifier valid).1 (Expansion.isWord_of_isIdentifier valid),
            List.flatMap_singleton, Piece.substitute, if_pos valid]
      · next other =>
          rw [pieces_of_word proper.1 proper.2, List.flatMap_singleton, Piece.substitute,
            if_neg other]

end GlslBuild.Text
