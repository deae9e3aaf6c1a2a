import GlslBuild.Condition.Reduction
import GlslBuild.Proofs.Condition.Literal
import GlslBuild.Proofs.Word

/-!
# Rows of words

A text without parentheses whose words stand apart from each other is the row of their tokens. Rows
are put together from words, and the value of a group makes a row of its own.
-/

namespace GlslBuild

/-- What follows a word: nothing, or a space and more. -/
inductive Text.Apart : Text → Prop where
  | nil : Text.Apart []
  | space (rest : Text) : Text.Apart (' ' :: rest)

/-- White space ends the visible characters in front of it. -/
theorem Text.takeWhile_append_of_blank {belongs : Char → Bool} {word rest : Text}
    (visible : ∀ char, belongs char = true → isBlank char = false)
    (all : ∀ char ∈ word, belongs char = true) (ends : ∀ char ∈ rest.head?, isBlank char = true) :
    (word ++ rest).takeWhile belongs = word ∧ (word ++ rest).dropWhile belongs = rest := by
  rw [List.takeWhile_append_of_pos all, List.dropWhile_append_of_pos all]
  cases rest with
  | nil => simp
  | cons char rest =>
      have stops : ¬belongs char = true := fun inside =>
        absurd (ends char rfl) (by simp [visible char inside])
      rw [List.takeWhile_cons_of_neg stops, List.dropWhile_cons_of_neg stops, List.append_nil]
      exact ⟨rfl, rfl⟩

theorem Text.Apart.blank {rest : Text} (apart : rest.Apart) :
    ∀ char ∈ rest.head?, isBlank char = true := by
  cases apart with
  | nil => exact nofun
  | space rest =>
      rintro char ⟨⟩
      decide

namespace Condition

/-! ## Tokens of single words -/

theorem isBlank_eq_false_of_isDigit {char : Char} (digit : char.isDigit = true) :
    Text.isBlank char = false :=
  Text.isBlank_eq_false_of_continuesIdentifier
    (by simp [Text.continuesIdentifier, Char.isAlphanum, digit])

theorem isFlatChar_eq_false {char : Char} (parenthesis : ¬isFlatChar char = true) :
    char = '(' ∨ char = ')' := by
  simpa [isFlatChar, or_iff_not_imp_left] using parenthesis

theorem isFlatChar_of_continuesIdentifier {char : Char}
    (continues : Text.continuesIdentifier char = true) : isFlatChar char = true := by
  by_contra parenthesis
  rcases isFlatChar_eq_false parenthesis with rfl | rfl <;> contradiction

theorem isFlatChar_of_isAlphanum {char : Char} (alphanum : char.isAlphanum = true) :
    isFlatChar char = true :=
  isFlatChar_of_continuesIdentifier (Text.continuesIdentifier_of_isAlphanum alphanum)

@[simp] theorem tokenize_nil : tokenize [] = .ok [] := by
  rw [tokenize]

theorem tokenize_blank {char : Char} (blank : Text.isBlank char = true) (rest : Text) :
    tokenize (char :: rest) = tokenize rest := by
  rw [tokenize, if_pos blank]

@[simp] theorem tokenize_space (rest : Text) : tokenize (' ' :: rest) = tokenize rest :=
  tokenize_blank (by decide) rest

/-- A character that begins neither a literal nor a name begins a symbol. -/
theorem tokenize_of_take? {char : Char} {tail rest : Text} {symbol : Symbol}
    (blank : Text.isBlank char = false) (digit : char.isDigit = false)
    (starts : Text.startsIdentifier char = false)
    (taken : Symbol.take? (char :: tail) = some (symbol, rest)) :
    tokenize (char :: tail) = (tokenize rest).map (.symbol symbol :: ·) := by
  rw [tokenize, if_neg (by simp [blank]), if_neg (by simp [digit]), if_neg (by simp [starts])]
  split
  · next failed => simp [taken] at failed
  · next other after found =>
      rw [taken] at found
      cases found
      rfl

section Words

variable {rest : Text} (ends : ∀ char ∈ rest.head?, Text.isBlank char = true)

include ends

/-- A numeral is a token if a signed word can hold its number, and an error otherwise. -/
theorem tokenize_numeral (numeral : Numeral) :
    tokenize (numeral.text ++ rest) =
      if numeral.number < 2 ^ 63 then
        (tokenize rest).map (.number (Int64.ofNat numeral.number) :: ·)
      else .error (.invalidLiteral numeral.text) := by
  obtain ⟨char, tail, spelled, digit, alphanum⟩ := numeral.exists_text_eq_cons
  have value := numeral.literal?_text
  have visible (other : Char) (inside : other.isAlphanum = true) : Text.isBlank other = false :=
    Text.isBlank_eq_false_of_continuesIdentifier (Text.continuesIdentifier_of_isAlphanum inside)
  obtain ⟨taken, dropped⟩ := Text.takeWhile_append_of_blank visible alphanum ends
  rw [spelled] at value ⊢
  rw [List.cons_append, tokenize, if_neg (by simp [isBlank_eq_false_of_isDigit digit]),
    if_pos digit, taken, dropped]
  split at value
  · next small => simp only [value, if_pos small]
  · next large => simp only [value, if_neg large]

theorem tokenize_literal (literal : Literal) :
    tokenize (literal.text ++ rest) =
      (tokenize rest).map (.number (Int64.ofNat literal.number) :: ·) :=
  (tokenize_numeral ends literal.numeral).trans (if_pos literal.number_lt)

theorem tokenize_constant (holds : Bool) :
    tokenize ((if holds then "true".toList else "false".toList) ++ rest) =
      (tokenize rest).map (.number (truth holds) :: ·) := by
  obtain ⟨char, tail, spelled, blank, digit, starts, continues, value⟩ :
      ∃ char tail, (if holds then "true".toList else "false".toList) = char :: tail ∧
        Text.isBlank char = false ∧ char.isDigit = false ∧ Text.startsIdentifier char = true ∧
        (∀ other ∈ tail, Text.continuesIdentifier other = true) ∧
        constant? (char :: tail) = some (truth holds) := by
    cases holds with
    | true =>
        exact ⟨'t', "rue".toList, rfl, by decide, by decide, by decide,
          List.all_eq_true.mp (by decide), by decide⟩
    | false =>
        exact ⟨'f', "alse".toList, rfl, by decide, by decide, by decide,
          List.all_eq_true.mp (by decide), by decide⟩
  obtain ⟨taken, dropped⟩ := Text.takeWhile_append_of_blank
    (fun _ => Text.isBlank_eq_false_of_continuesIdentifier) continues ends
  rw [spelled, List.cons_append, tokenize, if_neg (by simp [blank]), if_neg (by simp [digit]),
    if_pos starts, taken, dropped]
  simp only [value]

/-- White space does not belong to the symbol in front of it. -/
theorem Symbol.take?_append (text : Text) :
    Symbol.take? (text ++ rest) =
      (Symbol.take? text).map fun (symbol, after) => (symbol, after ++ rest) := by
  have apart (symbol : Symbol) : ∀ char ∈ rest.head?, char ∉ symbol.text := by
    intro char head inside
    have visible : symbol.text.all (!Text.isBlank ·) = true := by cases symbol <;> decide
    simpa [ends char head] using List.all_eq_true.mp visible char inside
  rw [Symbol.take?, Symbol.take?, List.map_findSome?]
  congr 1
  funext symbol
  rw [Text.dropLeading?_append (apart symbol), Function.comp_apply, Option.map_map, Option.map_map]
  rfl

theorem tokenize_symbol (symbol : Symbol) :
    tokenize (symbol.text ++ rest) = (tokenize rest).map (.symbol symbol :: ·) := by
  have alone : Symbol.take? symbol.text = some (symbol, []) := by cases symbol <;> rfl
  have taken : Symbol.take? (symbol.text ++ rest) = some (symbol, rest) := by
    rw [Symbol.take?_append ends, alone]
    rfl
  obtain ⟨char, tail, spelled, blank, digit, starts⟩ : ∃ char tail, symbol.text = char :: tail ∧
      Text.isBlank char = false ∧ char.isDigit = false ∧
      Text.startsIdentifier char = false := by
    cases symbol <;> exact ⟨_, _, rfl, by decide, by decide, by decide⟩
  rw [spelled] at taken ⊢
  exact tokenize_of_take? blank digit starts taken

end Words

/-- A minus sign in front of a numeral is a symbol of its own. -/
theorem tokenize_minus (rest : Text) :
    tokenize ('-' :: rest) = (tokenize rest).map (.symbol .minus :: ·) :=
  tokenize_of_take? (by decide) (by decide) (by decide) rfl

/-- The decimal numeral of a number is its token. -/
theorem tokenize_decimal {number : Nat} (small : number < 2 ^ 63) {rest : Text}
    (apart : rest.Apart) :
    tokenize (Text.decimal number ++ rest) =
      (tokenize rest).map (.number (Int64.ofNat number) :: ·) := by
  obtain ⟨literal, spelled, counted⟩ := Literal.exists_text_eq_decimal small
  rw [← spelled, ← counted]
  exact tokenize_literal apart.blank literal

theorem isFlatChar_of_mem_decimal {number : Nat} {char : Char}
    (inside : char ∈ Text.decimal number) : isFlatChar char = true := by
  have digit := Nat.isDigit_of_mem_toDigits (by decide) (by decide) inside
  exact isFlatChar_of_isAlphanum (by simp [Char.isAlphanum, digit])

/-- The tokens of the numeral of a word, in which a minus sign is a token of its own. -/
def numeralTokens (value : Int64) : List Token :=
  if value.toInt < 0 then [.symbol .minus, .number (-value)] else [.number value]

theorem numeralTokens_ne_nil (value : Int64) : numeralTokens value ≠ [] := by
  rw [numeralTokens]
  split <;> simp

theorem isFlatChar_of_mem_signedDecimal {number : Int} {char : Char}
    (inside : char ∈ Text.signedDecimal number) : isFlatChar char = true := by
  rw [Text.signedDecimal] at inside
  split at inside
  · rcases List.mem_cons.mp inside with rfl | inside
    · rfl
    · exact isFlatChar_of_mem_decimal inside
  · exact isFlatChar_of_mem_decimal inside

/-- The numeral of a word is read as its tokens, unless its digits alone are too large a number. -/
theorem tokenize_signedDecimal {value : Int64} (fits : value.toInt ≠ -2 ^ 63) {rest : Text}
    (apart : rest.Apart) :
    tokenize (Text.signedDecimal value.toInt ++ rest) =
      (tokenize rest).map (numeralTokens value ++ ·) := by
  have least := value.le_toInt
  have most := value.toInt_lt
  have small : value.toInt.natAbs < 2 ^ 63 := by omega
  rw [Text.signedDecimal, numeralTokens]
  split
  · next negative =>
      have opposite : Int64.ofNat value.toInt.natAbs = -value := by
        rw [← Int64.toInt_inj, Int64.toInt_ofNat_of_lt small, Int64.toInt_neg,
          Int.bmod_eq_of_le (by omega) (by omega)]
        omega
      rw [List.cons_append, tokenize_minus, tokenize_decimal small apart, opposite]
      cases tokenize rest <;> rfl
  · next nonnegative =>
      have same : Int64.ofNat value.toInt.natAbs = value := by
        rw [← Int64.toInt_inj, Int64.toInt_ofNat_of_lt small]
        omega
      rw [tokenize_decimal small apart, same]
      rfl

/-! ## Rows -/

/-- A text without parentheses and the tokens that it consists of, whatever follows it apart. -/
structure Row where
  text : Text
  tokens : List Token
  tokens_ne_nil : tokens ≠ []
  isFlat : ∀ char ∈ text, isFlatChar char = true
  tokenize_append : ∀ {rest : Text}, rest.Apart →
    tokenize (text ++ rest) = (tokenize rest).map (tokens ++ ·)

namespace Row

theorem tokenize_text (row : Row) : tokenize row.text = .ok row.tokens := by
  have alone := row.tokenize_append .nil
  rwa [List.append_nil, tokenize_nil, Except.map, List.append_nil] at alone

/-- A literal on its own. -/
def literal (literal : Literal) : Row where
  text := literal.text
  tokens := [.number (Int64.ofNat literal.number)]
  tokens_ne_nil := by simp
  isFlat := by
    obtain ⟨char, tail, spelled, digit, alphanum⟩ := literal.exists_text_eq_cons
    rw [spelled]
    intro other inside
    apply isFlatChar_of_isAlphanum
    rcases List.mem_cons.mp inside with rfl | inside
    · simp [Char.isAlphanum, digit]
    · exact alphanum other inside
  tokenize_append apart := tokenize_literal apart.blank literal

/-- A truth value on its own. -/
def constant (holds : Bool) : Row where
  text := if holds then "true".toList else "false".toList
  tokens := [.number (truth holds)]
  tokens_ne_nil := by simp
  isFlat := List.all_eq_true.mp (by cases holds <;> decide)
  tokenize_append apart := tokenize_constant apart.blank holds

/-- A symbol on its own. -/
def symbol (symbol : Symbol) : Row where
  text := symbol.text
  tokens := [.symbol symbol]
  tokens_ne_nil := by simp
  isFlat := List.all_eq_true.mp (by cases symbol <;> decide)
  tokenize_append apart := tokenize_symbol apart.blank symbol

/-- One row after another, with a space between them. -/
def next (first second : Row) : Row where
  text := first.text ++ ' ' :: second.text
  tokens := first.tokens ++ second.tokens
  tokens_ne_nil := by simp [first.tokens_ne_nil]
  isFlat := by
    intro char inside
    rcases List.mem_append.mp inside with inside | inside
    · exact first.isFlat char inside
    · rcases List.mem_cons.mp inside with rfl | inside
      · rfl
      · exact second.isFlat char inside
  tokenize_append := by
    intro rest apart
    rw [List.append_assoc, List.cons_append, first.tokenize_append (.space _), tokenize_space,
      second.tokenize_append apart]
    cases tokenize rest <;> simp [Except.map]

/-- The row with a space on either side. -/
def padded (row : Row) : Row where
  text := ' ' :: row.text ++ [' ']
  tokens := row.tokens
  tokens_ne_nil := row.tokens_ne_nil
  isFlat := by
    intro char inside
    rw [List.cons_append, List.mem_cons, List.mem_append, List.mem_singleton] at inside
    rcases inside with rfl | inside | rfl
    · rfl
    · exact row.isFlat char inside
    · rfl
  tokenize_append := by
    intro rest apart
    rw [List.append_assoc, List.cons_append, tokenize_space, List.singleton_append,
      row.tokenize_append (.space _), tokenize_space]

/-- The numeral of a word on its own. -/
def numeral (value : Int64) (fits : value.toInt ≠ -2 ^ 63) : Row where
  text := Text.signedDecimal value.toInt
  tokens := numeralTokens value
  tokens_ne_nil := numeralTokens_ne_nil value
  isFlat _ inside := isFlatChar_of_mem_signedDecimal inside
  tokenize_append := tokenize_signedDecimal fits

theorem text_padded_numeral (value : Int64) (fits : value.toInt ≠ -2 ^ 63) :
    (numeral value fits).padded.text = groupValue value := rfl

end Row

end Condition

end GlslBuild
