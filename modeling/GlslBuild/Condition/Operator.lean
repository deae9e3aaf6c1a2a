import GlslBuild.Text.Basic

/-!
# Operators of conditions

The symbols that conditions are written with, the unary and binary operators they stand for, and
what the operators do to wrapping 64-bit integers. Truth values are one and zero.
-/

namespace GlslBuild.Condition

/-- A symbol of a condition. Plus and minus are written the same as unary and as binary
operators. -/
inductive Symbol where
  | barBar | ampAmp | equalEqual | bangEqual | lessEqual | greaterEqual | lessLess
  | greaterGreater | bar | caret | amp | less | greater | plus | minus | star | slash | percent
  | bang | tilde
  deriving DecidableEq, Repr

/-- How a symbol is written. -/
def Symbol.text : Symbol → Text
  | .barBar => ['|', '|']
  | .ampAmp => ['&', '&']
  | .equalEqual => ['=', '=']
  | .bangEqual => ['!', '=']
  | .lessEqual => ['<', '=']
  | .greaterEqual => ['>', '=']
  | .lessLess => ['<', '<']
  | .greaterGreater => ['>', '>']
  | .bar => ['|']
  | .caret => ['^']
  | .amp => ['&']
  | .less => ['<']
  | .greater => ['>']
  | .plus => ['+']
  | .minus => ['-']
  | .star => ['*']
  | .slash => ['/']
  | .percent => ['%']
  | .bang => ['!']
  | .tilde => ['~']

/-- All symbols, the longer ones first. -/
def Symbol.longestFirst : List Symbol :=
  [.barBar, .ampAmp, .equalEqual, .bangEqual, .lessEqual, .greaterEqual, .lessLess,
   .greaterGreater, .bar, .caret, .amp, .less, .greater, .plus, .minus, .star, .slash, .percent,
   .bang, .tilde]

/-- The longest symbol at the start of the text, and what follows it. -/
def Symbol.take? (text : Text) : Option (Symbol × Text) :=
  Symbol.longestFirst.findSome? fun symbol =>
    (Text.dropLeading? symbol.text text).map fun rest => (symbol, rest)

/-- An operator in front of its operand. -/
inductive UnaryOperator where
  | not | complement | negate | plus
  deriving DecidableEq, Repr

/-- An operator between its operands. -/
inductive BinaryOperator where
  | or | and | bitOr | bitXor | bitAnd | equal | notEqual | less | greater | lessEqual
  | greaterEqual | shiftLeft | shiftRight | add | subtract | multiply | divide | remainder
  deriving DecidableEq, Repr

/-- The unary operator that a symbol stands for in front of an operand. -/
def Symbol.unary? : Symbol → Option UnaryOperator
  | .bang => some .not
  | .tilde => some .complement
  | .minus => some .negate
  | .plus => some .plus
  | _ => none

/-- The binary operator that a symbol stands for after an operand. -/
def Symbol.binary? : Symbol → Option BinaryOperator
  | .barBar => some .or
  | .ampAmp => some .and
  | .bar => some .bitOr
  | .caret => some .bitXor
  | .amp => some .bitAnd
  | .equalEqual => some .equal
  | .bangEqual => some .notEqual
  | .less => some .less
  | .greater => some .greater
  | .lessEqual => some .lessEqual
  | .greaterEqual => some .greaterEqual
  | .lessLess => some .shiftLeft
  | .greaterGreater => some .shiftRight
  | .plus => some .add
  | .minus => some .subtract
  | .star => some .multiply
  | .slash => some .divide
  | .percent => some .remainder
  | .bang | .tilde => none

/-- How tightly a binary operator binds, from the loosest at zero. -/
def BinaryOperator.level : BinaryOperator → Nat
  | .or => 0
  | .and => 1
  | .bitOr => 2
  | .bitXor => 3
  | .bitAnd => 4
  | .equal | .notEqual => 5
  | .less | .greater | .lessEqual | .greaterEqual => 6
  | .shiftLeft | .shiftRight => 7
  | .add | .subtract => 8
  | .multiply | .divide | .remainder => 9

/-- One for true and zero for false. -/
def truth (holds : Bool) : Int64 := if holds then 1 else 0

/-- The value of a unary operator at an operand. -/
def UnaryOperator.apply : UnaryOperator → Int64 → Int64
  | .not, value => truth (value == 0)
  | .complement, value => ~~~value
  | .negate, value => -value
  | .plus, value => value

/-- The value of a binary operator at its operands: none for a zero divisor. Shift amounts count
modulo sixty-four, and division rounds toward zero. -/
def BinaryOperator.apply : BinaryOperator → Int64 → Int64 → Option Int64
  | .or, left, right => some (truth (left != 0 || right != 0))
  | .and, left, right => some (truth (left != 0 && right != 0))
  | .bitOr, left, right => some (left ||| right)
  | .bitXor, left, right => some (left ^^^ right)
  | .bitAnd, left, right => some (left &&& right)
  | .equal, left, right => some (truth (left == right))
  | .notEqual, left, right => some (truth (left != right))
  | .less, left, right => some (truth (left < right))
  | .greater, left, right => some (truth (left > right))
  | .lessEqual, left, right => some (truth (left ≤ right))
  | .greaterEqual, left, right => some (truth (left ≥ right))
  | .shiftLeft, left, right => some (left <<< right)
  | .shiftRight, left, right => some (left >>> right)
  | .add, left, right => some (left + right)
  | .subtract, left, right => some (left - right)
  | .multiply, left, right => some (left * right)
  | .divide, left, right => if right = 0 then none else some (left / right)
  | .remainder, left, right => if right = 0 then none else some (left % right)

theorem Symbol.text_ne_nil (symbol : Symbol) : symbol.text ≠ [] := by
  cases symbol <;> simp [Symbol.text]

/-- Every symbol is tried. -/
theorem Symbol.mem_longestFirst (symbol : Symbol) : symbol ∈ Symbol.longestFirst := by
  cases symbol <;> decide

/-- A symbol is taken from the start of the text, and nothing is lost. -/
theorem Symbol.take?_eq_some {text rest : Text} {symbol : Symbol}
    (taken : Symbol.take? text = some (symbol, rest)) : text = symbol.text ++ rest := by
  obtain ⟨candidate, -, found⟩ := List.exists_of_findSome?_eq_some taken
  obtain ⟨tail, dropped, pair⟩ := Option.map_eq_some_iff.mp found
  simp only [Prod.mk.injEq] at pair
  obtain ⟨rfl, rfl⟩ := pair
  exact Text.dropLeading?_eq_some_iff.mp dropped

theorem Symbol.length_lt_of_take? {text rest : Text} {symbol : Symbol}
    (taken : Symbol.take? text = some (symbol, rest)) : rest.length < text.length := by
  rw [Symbol.take?_eq_some taken, List.length_append]
  have positive := List.length_pos_iff.mpr symbol.text_ne_nil
  omega

/-- A binary operator fails exactly at a zero divisor. -/
theorem BinaryOperator.apply_eq_none_iff {operator : BinaryOperator} {left right : Int64} :
    operator.apply left right = none ↔
      (operator = .divide ∨ operator = .remainder) ∧ right = 0 := by
  cases operator <;> simp [BinaryOperator.apply]

end GlslBuild.Condition
