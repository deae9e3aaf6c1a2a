import GlslBuild.Text.Basic

/-!
# Numerals

Writing natural numbers and integers in decimal, and reading natural numbers in any base up to
thirty-six.
-/

namespace GlslBuild.Text

/-- The decimal numeral of a natural number. -/
def decimal (number : Nat) : Text := Nat.toDigits 10 number

/-- The decimal numeral of an integer, with a minus sign in front of a negative one. -/
def signedDecimal (number : Int) : Text :=
  if number < 0 then '-' :: decimal number.natAbs else decimal number.natAbs

/-- The value of a digit: the letters of either case count on from ten. -/
def digitValue (char : Char) : Option Nat :=
  if char.isDigit then some (char.toNat - '0'.toNat)
  else if char.isLower then some (char.toNat - 'a'.toNat + 10)
  else if char.isUpper then some (char.toNat - 'A'.toNat + 10)
  else none

/-- One more digit at the end of a numeral of the given value. -/
def appendDigit (base value : Nat) (char : Char) : Option Nat :=
  (digitValue char).bind fun digit => if digit < base then some (value * base + digit) else none

/-- The number that a nonempty row of digits stands for. -/
def number? (base : Nat) (digits : Text) : Option Nat :=
  if digits.isEmpty then none else digits.foldlM (appendDigit base) 0

@[simp] theorem number?_nil (base : Nat) : number? base [] = none := rfl

end GlslBuild.Text
