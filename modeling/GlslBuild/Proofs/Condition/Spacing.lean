import GlslBuild.Proofs.Condition.Row

/-!
# Tokens with white space between them

A token may be spelled in several ways: a number in three radices, with a suffix, or as a truth
value. Whatever white space stands between the spellings, their tokens are read back one by one, up
to the first number that no signed word can hold.
-/

namespace GlslBuild.Condition

/-! ## Spellings -/

/-- How a token is written. -/
inductive Spelling where
  | integer (numeral : Numeral)
  | constant (holds : Bool)
  | symbol (mark : Symbol)

namespace Spelling

/-- The characters of the spelling. -/
def text : Spelling → Text
  | .integer numeral => numeral.text
  | .constant holds => if holds then "true".toList else "false".toList
  | .symbol mark => mark.text

/-- The token of a spelling: a number has the value that the numeral stands for. -/
inductive Means : Spelling → Token → Prop where
  | integer {numeral : Numeral} {value : Int64} (counted : value.toInt = numeral.number) :
      Means (.integer numeral) (.number value)
  | constant (holds : Bool) : Means (.constant holds) (.number (truth holds))
  | symbol (mark : Symbol) : Means (.symbol mark) (.symbol mark)

/-- The number of a numeral is one that a signed word can hold. -/
def Fits : Spelling → Prop
  | .integer numeral => numeral.number ≤ 2 ^ 63 - 1
  | .constant _ | .symbol _ => True

instance : DecidablePred Fits
  | .integer numeral => inferInstanceAs (Decidable (numeral.number ≤ 2 ^ 63 - 1))
  | .constant _ | .symbol _ => .isTrue trivial

/-- The spellings are written one after the other with white space between any two of them, and
white space or nothing around them. -/
inductive Spread : List Spelling → Text → Prop where
  | nil : Spread [] []
  | blank {spellings : List Spelling} {text : Text} {char : Char}
      (blank : Text.isBlank char = true) (behind : Spread spellings text) :
      Spread spellings (char :: text)
  | cons {spellings : List Spelling} {text : Text} (spelling : Spelling)
      (ends : ∀ char ∈ text.head?, Text.isBlank char = true) (behind : Spread spellings text) :
      Spread (spelling :: spellings) (spelling.text ++ text)

/-! ## Reading one spelling -/

/-- A spelling that fits is read as its token. -/
theorem exists_tokenize_append {spelling : Spelling} (fits : spelling.Fits) {rest : Text}
    (ends : ∀ char ∈ rest.head?, Text.isBlank char = true) :
    ∃ token, spelling.Means token ∧
      tokenize (spelling.text ++ rest) = (tokenize rest).map (token :: ·) := by
  cases spelling with
  | integer numeral =>
      have small : numeral.number < 2 ^ 63 := Nat.lt_of_le_sub_one (by decide) fits
      refine ⟨_, .integer (Int64.toInt_ofNat_of_lt small), ?_⟩
      exact (tokenize_numeral ends numeral).trans (if_pos small)
  | constant holds => exact ⟨_, .constant holds, tokenize_constant ends holds⟩
  | symbol mark => exact ⟨_, .symbol mark, tokenize_symbol ends mark⟩

/-! ## Reading them all -/

namespace Spread

/-- A spelling is set apart by the white space behind it. -/
theorem cons_blank {spellings : List Spelling} {text : Text} {char : Char} (spelling : Spelling)
    (blank : Text.isBlank char = true) (behind : Spread spellings text) :
    Spread (spelling :: spellings) (spelling.text ++ char :: text) := by
  refine .cons spelling ?_ (.blank blank behind)
  rintro other ⟨⟩
  exact blank

/-- Spellings that fit are read as their tokens. -/
theorem exists_tokenize_eq {spellings : List Spelling} {text : Text}
    (spread : Spread spellings text) (fits : ∀ spelling ∈ spellings, spelling.Fits) :
    ∃ tokens, tokenize text = .ok tokens ∧ List.Forall₂ Means spellings tokens := by
  induction spread with
  | nil => exact ⟨[], tokenize_nil, .nil⟩
  | blank blank _ induction =>
      obtain ⟨tokens, read, means⟩ := induction fits
      exact ⟨tokens, (tokenize_blank blank _).trans read, means⟩
  | cons spelling ends _ induction =>
      obtain ⟨here, others⟩ := List.forall_mem_cons.mp fits
      obtain ⟨token, token_means, split⟩ := exists_tokenize_append here ends
      obtain ⟨tokens, read, means⟩ := induction others
      exact ⟨token :: tokens, by rw [split, read]; rfl, .cons token_means means⟩

/-- The first number that is too large is an error. -/
theorem tokenize_eq_error {before after : List Spelling} {numeral : Numeral} {text : Text}
    (spread : Spread (before ++ .integer numeral :: after) text)
    (fits : ∀ spelling ∈ before, spelling.Fits) (large : 2 ^ 63 - 1 < numeral.number) :
    tokenize text = .error (.invalidLiteral numeral.text) := by
  generalize split : before ++ .integer numeral :: after = spellings at spread
  induction spread generalizing before with
  | nil => simp at split
  | blank blank _ induction => exact (tokenize_blank blank _).trans (induction fits split)
  | cons spelling ends _ induction =>
      cases before with
      | nil =>
          obtain ⟨rfl, -⟩ := List.cons.inj split
          exact (tokenize_numeral ends numeral).trans (if_neg (by omega))
      | cons first before =>
          obtain ⟨rfl, others_split⟩ := List.cons.inj split
          obtain ⟨here, others⟩ := List.forall_mem_cons.mp fits
          obtain ⟨token, -, read⟩ := exists_tokenize_append here ends
          rw [read, induction others others_split]
          rfl

end Spread

end Spelling

/-- Spellings with white space between them are read as exactly their tokens if all numbers fit a
signed word. Otherwise the first number that does not is an invalid literal. -/
theorem tokenize_of_spread {spellings : List Spelling} {text : Text}
    (spread : Spelling.Spread spellings text) :
    ((∀ spelling ∈ spellings, spelling.Fits) →
        ∃ tokens, tokenize text = .ok tokens ∧ List.Forall₂ Spelling.Means spellings tokens) ∧
      ∀ before numeral after, spellings = before ++ .integer numeral :: after →
        (∀ spelling ∈ before, spelling.Fits) → 2 ^ 63 - 1 < numeral.number →
          tokenize text = .error (.invalidLiteral numeral.text) := by
  refine ⟨spread.exists_tokenize_eq, ?_⟩
  rintro before numeral after rfl fits large
  exact spread.tokenize_eq_error fits large

namespace Sample

/-- The numeral `0X0fFlU` for two hundred fifty-five. -/
def ones : Numeral where
  radix := .hexadecimal true
  digits := [⟨⟨0, by decide⟩, false⟩, ⟨⟨15, by decide⟩, false⟩, ⟨⟨15, by decide⟩, true⟩]
  suffix := ['l', 'U']
  digits_ne_nil := by simp
  zero_alone := nofun
  suffix_letters := by simp

/-- The octal numeral for two to the power of sixty-three. -/
def tooLarge : Numeral where
  radix := .octal
  digits := ⟨⟨1, by decide⟩, false⟩ :: List.replicate 21 ⟨⟨0, by decide⟩, false⟩
  suffix := []
  digits_ne_nil := List.cons_ne_nil _ _
  zero_alone := nofun
  suffix_letters := nofun

end Sample

/-- White space of several kinds between the tokens, and a number that is too large in front of
another one. -/
theorem tokenize_of_spread_mixed :
    let spellings : List Spelling := [.integer Sample.ones, .symbol .lessLess, .constant true]
    let text := " 0X0fFlU \t<<\u3000true".toList
    let large := [.symbol .less, .integer Sample.tooLarge, .integer Sample.tooLarge]
    let largeText := "< 01000000000000000000000\n01000000000000000000000".toList
    Spelling.Spread spellings text ∧ (∀ spelling ∈ spellings, spelling.Fits) ∧
      (∃ tokens, tokenize text = .ok tokens ∧ List.Forall₂ Spelling.Means spellings tokens) ∧
      Spelling.Spread large largeText ∧ 2 ^ 63 - 1 < Sample.tooLarge.number ∧
      tokenize largeText = .error (.invalidLiteral Sample.tooLarge.text) := by
  intro spellings text large largeText
  have spread : Spelling.Spread spellings text := by
    have written : text = ' ' :: (Sample.ones.text ++ (' ' :: '\t' ::
        (Symbol.lessLess.text ++ ('\u3000' :: ("true".toList ++ []))))) := by decide +kernel
    rw [written]
    refine .blank (by decide) (.cons_blank (.integer _) (by decide) (.blank (by decide) ?_))
    exact .cons_blank (.symbol _) (by decide) (.cons (.constant true) nofun .nil)
  have large_spread : Spelling.Spread large largeText := by
    have written : largeText = Symbol.less.text ++ (' ' :: (Sample.tooLarge.text ++
        ('\n' :: (Sample.tooLarge.text ++ [])))) := by decide +kernel
    rw [written]
    refine .cons_blank (.symbol _) (by decide) (.cons_blank (.integer _) (by decide) ?_)
    exact .cons (.integer _) nofun .nil
  have fits : ∀ spelling ∈ spellings, spelling.Fits := by decide +kernel
  have too_large : 2 ^ 63 - 1 < Sample.tooLarge.number := by decide +kernel
  refine ⟨spread, fits, (tokenize_of_spread spread).1 fits, large_spread, too_large, ?_⟩
  exact (tokenize_of_spread large_spread).2 [.symbol .less] Sample.tooLarge _ rfl (by decide)
    too_large

end GlslBuild.Condition
