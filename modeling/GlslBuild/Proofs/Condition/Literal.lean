import GlslBuild.Condition.Token
import Mathlib.Data.Nat.Digits.Lemmas
import Mathlib.Tactic.Ring

/-!
# Integer literals

An integer literal has a radix, digits and a suffix, and stands for the number that the digits
spell. Read as part of a condition, a numeral of this form has its number as its value exactly if
the number is not too large. Those that are not too large are the literals, and the decimal numeral
of a number is a literal for it.
-/

namespace GlslBuild.Condition

/-! ## Literals and their numbers -/

/-- How the digits of a literal count. The letter in front of hexadecimal ones may be a capital. -/
inductive Radix where
  | decimal
  | octal
  | hexadecimal (capital : Bool)
  deriving DecidableEq

/-- The base of the digits. -/
def Radix.base : Radix → Nat
  | .decimal => 10
  | .octal => 8
  | .hexadecimal _ => 16

theorem Radix.base_le (radix : Radix) : radix.base ≤ 16 := by
  cases radix <;> simp [Radix.base]

/-- What stands in front of the digits. -/
def Radix.lead : Radix → Text
  | .decimal => []
  | .octal => ['0']
  | .hexadecimal capital => ['0', if capital then 'X' else 'x']

/-- A digit, which may be a capital if it is a letter. -/
structure Digit (base : Nat) where
  value : Fin base
  capital : Bool

/-- How a digit of a value is written. -/
def Digit.spell (value : Nat) (capital : Bool) : Char :=
  if capital then (Nat.digitChar value).toUpper else Nat.digitChar value

/-- How the digit is written. -/
def Digit.char {base : Nat} (digit : Digit base) : Char := spell digit.value digit.capital

/-- The number that digits spell, the most significant one first. -/
def Digit.number {base : Nat} (digits : List (Digit base)) : Nat :=
  Nat.ofDigits base (digits.reverse.map fun digit => digit.value.val)

/-- An integer literal for a number of any size. -/
structure Numeral where
  radix : Radix
  digits : List (Digit radix.base)
  suffix : Text
  digits_ne_nil : digits ≠ []
  /-- A zero with further digits would make a decimal numeral octal. -/
  zero_alone : radix = .decimal →
    ∀ digit rest, digits = digit :: rest → digit.value.val = 0 → rest = []
  suffix_letters : ∀ char ∈ suffix, char ∈ ['u', 'U', 'l', 'L']

namespace Numeral

/-- The number that the numeral stands for. -/
def number (numeral : Numeral) : Nat := Digit.number numeral.digits

/-- The numeral without its suffix. -/
def stem (numeral : Numeral) : Text := numeral.radix.lead ++ numeral.digits.map Digit.char

/-- How the numeral is written. -/
def text (numeral : Numeral) : Text := numeral.stem ++ numeral.suffix

end Numeral

/-- An integer literal for a number below two to the power of sixty-three. -/
structure Literal where
  radix : Radix
  digits : List (Digit radix.base)
  suffix : Text
  digits_ne_nil : digits ≠ []
  /-- A zero with further digits would make a decimal literal octal. -/
  zero_alone : radix = .decimal →
    ∀ digit rest, digits = digit :: rest → digit.value.val = 0 → rest = []
  suffix_letters : ∀ char ∈ suffix, char ∈ ['u', 'U', 'l', 'L']
  number_lt : Digit.number digits < 2 ^ 63

namespace Literal

/-- The literal as a numeral of any size. -/
def numeral (literal : Literal) : Numeral where
  radix := literal.radix
  digits := literal.digits
  suffix := literal.suffix
  digits_ne_nil := literal.digits_ne_nil
  zero_alone := literal.zero_alone
  suffix_letters := literal.suffix_letters

/-- The number that the literal stands for. -/
def number (literal : Literal) : Nat := Digit.number literal.digits

/-- How the literal is written. -/
def text (literal : Literal) : Text :=
  literal.radix.lead ++ literal.digits.map Digit.char ++ literal.suffix

end Literal

/-! ## Digits are read as they are written -/

namespace Digit

variable {base : Nat}

theorem number_cons (digit : Digit base) (rest : List (Digit base)) :
    number (digit :: rest) = digit.value * base ^ rest.length + number rest := by
  simp only [number, List.reverse_cons, List.map_append, List.map_cons, List.map_nil,
    Nat.ofDigits_append, List.length_map, List.length_reverse, Nat.ofDigits_singleton]
  ring

theorem number_append_singleton (digits : List (Digit base)) (last : Digit base) :
    number (digits ++ [last]) = number digits * base + last.value := by
  simp only [number, List.reverse_append, List.reverse_cons, List.reverse_nil, List.nil_append,
    List.map_cons, List.singleton_append, Nat.ofDigits_cons]
  ring

/-- What reading a literal asks of the character of a digit. -/
structure Legible (value : Nat) (char : Char) : Prop where
  digitValue_eq : Text.digitValue char = some value
  isAlphanum : char.isAlphanum = true
  not_suffix : isSuffixLetter char = false
  ne_x : char ≠ 'x'
  ne_X : char ≠ 'X'
  eq_zero : char = '0' → value = 0
  isDigit : value < 10 → char.isDigit = true

/-- The digits of all radices are among those up to fifteen. -/
theorem legible (digit : Digit base) (small : base ≤ 16) : Legible digit.value digit.char := by
  have checked : ∀ value < 16, ∀ capital, Text.digitValue (spell value capital) = some value ∧
      (spell value capital).isAlphanum = true ∧ isSuffixLetter (spell value capital) = false ∧
      spell value capital ≠ 'x' ∧ spell value capital ≠ 'X' ∧
      (spell value capital = '0' → value = 0) ∧
      (value < 10 → (spell value capital).isDigit = true) := by
    decide
  obtain ⟨value, alphanum, kept, no_x, no_X, zero, decimal⟩ :=
    checked digit.value (Nat.lt_of_lt_of_le digit.value.isLt small) digit.capital
  exact ⟨value, alphanum, kept, no_x, no_X, zero, decimal⟩

theorem foldlM_appendDigit (digits : List (Digit base)) (small : base ≤ 16) (start : Nat) :
    (digits.map char).foldlM (Text.appendDigit base) start =
      some (start * base ^ digits.length + number digits) := by
  induction digits generalizing start with
  | nil => simp [number]
  | cons digit rest induction =>
      have value := (digit.legible small).digitValue_eq
      have appended : Text.appendDigit base start digit.char =
          some (start * base + digit.value) := by
        simp [Text.appendDigit, value]
      rw [List.map_cons, List.foldlM_cons, appended, Option.bind_eq_bind, Option.bind_some,
        induction, number_cons, List.length_cons]
      congr 1
      ring

/-- Digits are read as the number that they spell. -/
theorem number?_map_char {digits : List (Digit base)} (small : base ≤ 16)
    (digits_ne_nil : digits ≠ []) :
    Text.number? base (digits.map char) = some (number digits) := by
  rw [Text.number?, List.isEmpty_map, List.isEmpty_eq_false_iff.mpr digits_ne_nil,
    if_neg Bool.false_ne_true, foldlM_appendDigit digits small, Nat.zero_mul, Nat.zero_add]

end Digit

/-! ## Literals are read as they are written -/

theorem magnitude?_singleton (char : Char) :
    magnitude? [char] = Text.number? 10 [char] := by
  simp [magnitude?]

theorem magnitude?_of_ne_zero {char : Char} (nonzero : char ≠ '0') (rest : Text) :
    magnitude? (char :: rest) = Text.number? 10 (char :: rest) := by
  simp [magnitude?, nonzero]

theorem magnitude?_zero_cons {char : Char} (no_x : char ≠ 'x') (no_X : char ≠ 'X') (rest : Text) :
    magnitude? ('0' :: char :: rest) = Text.number? 8 (char :: rest) := by
  simp [magnitude?]

namespace Numeral

variable (numeral : Numeral)

theorem dropEndWhile_text : numeral.text.dropEndWhile isSuffixLetter = numeral.stem := by
  obtain ⟨last, before, reversed⟩ :=
    List.exists_cons_of_ne_nil (mt List.reverse_eq_nil_iff.mp numeral.digits_ne_nil)
  have suffix_dropped : ∀ char ∈ numeral.suffix.reverse, isSuffixLetter char = true := by
    intro char inside
    have letter := numeral.suffix_letters char (List.mem_reverse.mp inside)
    simpa [isSuffixLetter, or_assoc] using letter
  have stem_reversed : numeral.stem.reverse =
      last.char :: (before.map Digit.char ++ numeral.radix.lead.reverse) := by
    rw [stem, List.reverse_append, ← List.map_reverse, reversed, List.map_cons, List.cons_append]
  have last_kept := (last.legible numeral.radix.base_le).not_suffix
  rw [text, Text.dropEndWhile, List.reverse_append, List.dropWhile_append_of_pos suffix_dropped,
    stem_reversed, List.dropWhile_cons_of_neg (by simp [last_kept]), ← stem_reversed,
    List.reverse_reverse]

theorem magnitude?_stem : magnitude? numeral.stem = some numeral.number := by
  obtain ⟨radix, digits, suffix, digits_ne_nil, zero_alone, suffix_letters⟩ := numeral
  have read := Digit.number?_map_char radix.base_le digits_ne_nil
  obtain ⟨first, rest, rfl⟩ := List.exists_cons_of_ne_nil digits_ne_nil
  have legible := first.legible radix.base_le
  cases radix with
  | decimal =>
      by_cases zero_first : first.char = '0'
      · obtain rfl := zero_alone rfl first rest rfl (legible.eq_zero zero_first)
        exact (magnitude?_singleton _).trans read
      · exact (magnitude?_of_ne_zero zero_first _).trans read
  | octal => exact (magnitude?_zero_cons legible.ne_x legible.ne_X _).trans read
  | hexadecimal capital => cases capital <;> exact read

/-- A numeral is read as the number that it stands for, if a signed word can hold it. -/
theorem literal?_text : literal? numeral.text =
    if numeral.number < 2 ^ 63 then some (Int64.ofNat numeral.number) else none := by
  rw [literal?, dropEndWhile_text, magnitude?_stem, Option.bind_some]
  rfl

/-- A numeral begins with a digit, and goes on with digits and letters. -/
theorem exists_text_eq_cons : ∃ char rest, numeral.text = char :: rest ∧ char.isDigit = true ∧
    ∀ other ∈ rest, other.isAlphanum = true := by
  have digits_alphanum : ∀ char ∈ numeral.digits.map Digit.char, char.isAlphanum = true := by
    intro char inside
    obtain ⟨digit, -, rfl⟩ := List.mem_map.mp inside
    exact (digit.legible numeral.radix.base_le).isAlphanum
  have suffix_alphanum : ∀ char ∈ numeral.suffix, char.isAlphanum = true := by
    intro char inside
    have letter := numeral.suffix_letters char inside
    simp only [List.mem_cons, List.not_mem_nil, or_false] at letter
    rcases letter with rfl | rfl | rfl | rfl <;> decide
  obtain ⟨radix, digits, suffix, digits_ne_nil, zero_alone, suffix_letters⟩ := numeral
  have tail_alphanum : ∀ char ∈ digits.map Digit.char ++ suffix, char.isAlphanum = true := by
    intro char inside
    exact (List.mem_append.mp inside).elim (digits_alphanum char) (suffix_alphanum char)
  cases radix with
  | decimal =>
      obtain ⟨first, rest, rfl⟩ := List.exists_cons_of_ne_nil digits_ne_nil
      have decimal := (first.legible (by decide)).isDigit first.value.isLt
      refine ⟨first.char, rest.map Digit.char ++ suffix, rfl, decimal, ?_⟩
      intro char inside
      exact tail_alphanum char (List.mem_cons_of_mem _ inside)
  | octal => exact ⟨'0', digits.map Digit.char ++ suffix, rfl, rfl, tail_alphanum⟩
  | hexadecimal capital =>
      refine ⟨'0', _, rfl, rfl, ?_⟩
      intro char inside
      rcases List.mem_cons.mp inside with rfl | inside
      · cases capital <;> decide
      · exact tail_alphanum char inside

end Numeral

/-- A literal begins with a digit, and goes on with digits and letters. -/
theorem Literal.exists_text_eq_cons (literal : Literal) :
    ∃ char rest, literal.text = char :: rest ∧ char.isDigit = true ∧
      ∀ other ∈ rest, other.isAlphanum = true :=
  literal.numeral.exists_text_eq_cons

/-! ## Decimal numerals are literals -/

/-- A decimal digit for a number below ten. -/
def Digit.ofNat (number : Nat) (small : number < 10) : Digit 10 := ⟨⟨number, small⟩, false⟩

@[simp] theorem Digit.char_ofNat {number : Nat} (small : number < 10) :
    (Digit.ofNat number small).char = Nat.digitChar number := rfl

/-- The digits of a positive number do not begin with zero. -/
theorem Digit.exists_map_char_eq (number : Nat) (positive : 0 < number) :
    ∃ (first : Digit 10) (rest : List (Digit 10)),
      (first :: rest).map Digit.char = Nat.toDigits 10 number ∧
        Digit.number (first :: rest) = number ∧ first.value.val ≠ 0 := by
  induction number using Nat.strong_induction_on with
  | _ number induction =>
      rcases Nat.lt_or_ge number 10 with small | large
      · refine ⟨.ofNat number small, [], ?_, ?_, Nat.ne_of_gt positive⟩
        · simp [Nat.toDigits_of_lt_base small]
        · simp [Digit.number, Digit.ofNat]
      · obtain ⟨first, rest, spelled, counted, nonzero⟩ :=
          induction (number / 10) (by omega) (by omega)
        refine ⟨first, rest ++ [.ofNat (number % 10) (by omega)], ?_, ?_, nonzero⟩
        · rw [← List.cons_append, List.map_append, spelled,
            Nat.toDigits_of_base_le (by decide) large]
          rfl
        · rw [← List.cons_append, Digit.number_append_singleton, counted]
          exact Nat.div_add_mod' number 10

/-- The decimal numeral of a number is a literal for it. -/
theorem Literal.exists_text_eq_decimal {number : Nat} (small : number < 2 ^ 63) :
    ∃ literal : Literal, literal.text = Text.decimal number ∧ literal.number = number := by
  rcases Nat.eq_zero_or_pos number with rfl | positive
  · refine ⟨⟨.decimal, [.ofNat 0 (by decide)], [], by simp, ?_, by simp, by decide⟩, rfl, rfl⟩
    rintro - digit others same -
    exact (List.cons.inj same).2.symm
  · obtain ⟨first, rest, spelled, counted, nonzero⟩ := Digit.exists_map_char_eq number positive
    refine ⟨⟨.decimal, first :: rest, [], by simp, ?_, by simp, counted ▸ small⟩, ?_, counted⟩
    · rintro - digit others same zero
      obtain ⟨rfl, -⟩ := List.cons.inj same
      exact absurd zero nonzero
    · exact (List.append_nil _).trans spelled

end GlslBuild.Condition
