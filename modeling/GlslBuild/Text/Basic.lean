/-!
# Texts

Source text, names and listings are lists of characters. Everything the library reads or produces
is such a text; strings appear only where a message is worded.
-/

namespace GlslBuild

/-- A text is the list of its characters, each a Unicode scalar value. -/
abbrev Text := List Char

namespace Text

/-- The text without the longest run of characters of one class at its end. -/
def dropEndWhile (drops : Char → Bool) (text : Text) : Text :=
  (text.reverse.dropWhile drops).reverse

/-- The text with every occurrence of one character replaced by another. -/
def replaceChar (old new : Char) (text : Text) : Text :=
  text.map fun char => if char = old then new else char

/-- The two sides of the first separator, if there is one. -/
def splitOnce (isSeparator : Char → Bool) : Text → Option (Text × Text)
  | [] => none
  | char :: rest =>
      if isSeparator char then some ([], rest)
      else (splitOnce isSeparator rest).map fun (before, after) => (char :: before, after)

/-- What follows the given beginning, if the text begins so. -/
def dropLeading? : Text → Text → Option Text
  | [], text => some text
  | _ :: _, [] => none
  | expected :: lead, char :: rest => if expected = char then dropLeading? lead rest else none

@[simp] theorem dropEndWhile_nil (drops : Char → Bool) : dropEndWhile drops [] = [] := rfl

/-- What is dropped from the end belongs to the class. -/
theorem dropEndWhile_append (drops : Char → Bool) (text : Text) :
    ∃ dropped : Text, text = dropEndWhile drops text ++ dropped ∧ ∀ char ∈ dropped, drops char := by
  refine ⟨(text.reverse.takeWhile drops).reverse, ?_, ?_⟩
  · rw [dropEndWhile, ← List.reverse_append, List.takeWhile_append_dropWhile, List.reverse_reverse]
  · intro char member
    have all := List.all_takeWhile (p := drops) (l := text.reverse)
    rw [List.all_eq_true] at all
    exact all char (List.mem_reverse.mp member)

/-- A beginning is dropped exactly from the texts that have it. -/
theorem dropLeading?_eq_some_iff {lead text rest : Text} :
    dropLeading? lead text = some rest ↔ text = lead ++ rest := by
  fun_induction dropLeading? lead text with
  | case1 text => simp [eq_comm]
  | case2 => simp
  | case3 expected lead rest' induction => simp [induction]
  | case4 expected lead char rest' different =>
      simp only [List.cons_append, List.cons.injEq, reduceCtorEq, false_iff, not_and]
      exact fun same => absurd same.symm different

/-- A text splits at its first separator: the part before it holds none. -/
theorem splitOnce_eq_some {isSeparator : Char → Bool} {text before after : Text}
    (split : splitOnce isSeparator text = some (before, after)) :
    ∃ separator, isSeparator separator = true ∧ text = before ++ separator :: after ∧
      ∀ char ∈ before, isSeparator char = false := by
  induction text generalizing before with
  | nil => simp [splitOnce] at split
  | cons char rest induction =>
      unfold splitOnce at split
      split at split
      · next holds =>
          simp only [Option.some.injEq, Prod.mk.injEq] at split
          obtain ⟨rfl, rfl⟩ := split
          exact ⟨char, holds, rfl, by simp⟩
      · next fails =>
          obtain ⟨⟨inner, tail⟩, inner_split, pair⟩ := Option.map_eq_some_iff.mp split
          simp only [Prod.mk.injEq] at pair
          obtain ⟨rfl, rfl⟩ := pair
          obtain ⟨separator, holds, rfl, clean⟩ := induction inner_split
          refine ⟨separator, holds, rfl, ?_⟩
          intro member inside
          rcases List.mem_cons.mp inside with rfl | inside
          · simpa using fails
          · exact clean member inside

end Text

end GlslBuild
