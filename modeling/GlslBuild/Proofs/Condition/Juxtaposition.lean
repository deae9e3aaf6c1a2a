import GlslBuild.Proofs.Condition.Lexeme
import GlslBuild.Proofs.Condition.Phrase
import Mathlib.Data.List.Chain

/-!
# Groups behind operands

The lexemes of an expression never have a group directly behind an operand. A row of lexemes may
have one all the same: the value of a group is written back as a numeral, and the minus sign of a
negative one makes an operator. Such a row is read as an expression with two more signs.
-/

namespace GlslBuild.Condition

open BinaryOperator (ranks)

/-- Whether the lexeme ends an operand. -/
def Lexeme.endsOperand : Lexeme → Bool
  | .token (.number _) | .closing => true
  | .token (.symbol _) | .opening => false

/-- No group begins directly behind an operand. -/
def Separated (row : List Lexeme) : Prop :=
  row.IsChain fun first second => first.endsOperand = true → second ≠ .opening

instance (row : List Lexeme) : Decidable (Separated row) :=
  inferInstanceAs (Decidable (List.IsChain _ row))

theorem separated_cons_symbol {mark : Symbol} {row : List Lexeme} :
    Separated (.token (.symbol mark) :: row) ↔ Separated row := by
  rw [Separated, List.isChain_cons]
  exact and_iff_right fun next _ operand => absurd operand Bool.false_ne_true

/-- A symbol separates what stands in front of it and behind it. -/
theorem separated_append_symbol {mark : Symbol} {first second : List Lexeme} :
    Separated (first ++ .token (.symbol mark) :: second) ↔ Separated first ∧ Separated second := by
  have behind : Separated (.token (.symbol mark) :: second) ↔ Separated second :=
    separated_cons_symbol
  rw [← behind, Separated, List.isChain_append]
  refine and_congr_right fun _ => and_iff_left ?_
  rintro last _ next ⟨⟩ _
  nofun

theorem separated_group {row : List Lexeme} :
    Separated (.opening :: row ++ [.closing]) ↔ Separated row := by
  rw [Separated, List.isChain_append, List.isChain_cons]
  constructor
  · exact fun separated => separated.1.2
  · intro separated
    refine ⟨⟨fun next _ operand => absurd operand Bool.false_ne_true, separated⟩,
      List.isChain_singleton _, ?_⟩
    rintro last _ next ⟨⟩ _
    nofun

namespace Derivation

variable {depth : Nat}

/-- The lexemes of the expression. -/
def lexemes {depth : Nat} : Derivation depth → List Lexeme
  | .literal numeral => [.token (.number (Int64.ofNat numeral.number))]
  | .constant holds => [.token (.number (truth holds))]
  | .group inner => .opening :: inner.lexemes ++ [.closing]
  | .unary operator operand => .token (.symbol operator.symbol) :: operand.lexemes
  | .single operand => operand.lexemes
  | .binary left operator _ right =>
      left.lexemes ++ .token (.symbol operator.symbol) :: right.lexemes

/-- The expression is what the row is read as. They are the same but for groups of negative values
that stand directly behind an operand in the row: in the expression two minus signs come between
them, the first of which subtracts what the second makes of the group. If the row is `signed`, it
begins with such a group, and only the second sign is in the expression. -/
inductive ReadFrom : {depth : Nat} → Bool → Derivation depth → List Lexeme → Prop where
  | literal (numeral : Literal) :
      ReadFrom false (.literal numeral) [.token (.number (Int64.ofNat numeral.number))]
  | constant (holds : Bool) : ReadFrom false (.constant holds) [.token (.number (truth holds))]
  | group {inner : Derivation ranks.length} {row : List Lexeme}
      (inside : inner.ReadFrom false row) :
      ReadFrom false (.group inner) (.opening :: row ++ [.closing])
  | opposite {inner : Derivation ranks.length} {row : List Lexeme}
      (inside : inner.ReadFrom false row) (negative : ∃ value < 0, inner.value? = some value) :
      ReadFrom true (.unary .negate (.group inner)) (.opening :: row ++ [.closing])
  | unary (operator : UnaryOperator) {operand : Derivation 0} {row : List Lexeme}
      (reads : operand.ReadFrom false row) :
      ReadFrom false (.unary operator operand) (.token (.symbol operator.symbol) :: row)
  | single {signed : Bool} {depth : Nat} {operand : Derivation depth} {row : List Lexeme}
      (reads : operand.ReadFrom signed row) : ReadFrom signed (.single operand) row
  | binary {signed : Bool} {depth : Nat} {left : Derivation (depth + 1)} {operator : BinaryOperator}
      (ranked : operator ∈ ranks.getD depth []) {right : Derivation depth}
      {first second : List Lexeme} (left_reads : left.ReadFrom signed first)
      (right_reads : right.ReadFrom false second) :
      ReadFrom signed (.binary left operator ranked right)
        (first ++ .token (.symbol operator.symbol) :: second)
  | juxtaposed {signed : Bool} {depth : Nat} {left : Derivation (depth + 1)}
      (ranked : .subtract ∈ ranks.getD depth []) {right : Derivation depth}
      {first second : List Lexeme} (left_reads : left.ReadFrom signed first)
      (right_reads : right.ReadFrom true second) :
      ReadFrom signed (.binary left .subtract ranked right) (first ++ second)

namespace ReadFrom

variable {signed : Bool} {expression : Derivation depth} {row : List Lexeme}

/-- What is read as an expression ends as an operand does. -/
theorem endsOperand (reads : expression.ReadFrom signed row) :
    ∃ last ∈ row.getLast?, last.endsOperand = true := by
  induction reads with
  | literal => exact ⟨_, rfl, rfl⟩
  | constant => exact ⟨_, rfl, rfl⟩
  | group => exact ⟨.closing, List.getLast?_concat, rfl⟩
  | opposite => exact ⟨.closing, List.getLast?_concat, rfl⟩
  | unary operator reads induction =>
      obtain ⟨last, ends, operand⟩ := induction
      exact ⟨last, by simp [List.getLast?_cons, Option.mem_def.mp ends], operand⟩
  | single reads induction => exact induction
  | binary ranked left_reads right_reads left_induction right_induction =>
      obtain ⟨last, ends, operand⟩ := right_induction
      exact ⟨last, by simp [List.getLast?_cons, Option.mem_def.mp ends], operand⟩
  | juxtaposed ranked left_reads right_reads left_induction right_induction =>
      obtain ⟨last, ends, operand⟩ := right_induction
      exact ⟨last, by simp [Option.mem_def.mp ends], operand⟩

/-- A signed row begins with a group. -/
theorem head?_eq_opening (reads : expression.ReadFrom true row) : row.head? = some .opening := by
  generalize same : true = signed at reads
  induction reads with
  | literal | constant | group | unary => contradiction
  | opposite => rfl
  | single reads induction => exact induction same
  | binary ranked left_reads right_reads left_induction right_induction =>
      rw [List.head?_append, left_induction same, Option.some_or]
  | juxtaposed ranked left_reads right_reads left_induction right_induction =>
      rw [List.head?_append, left_induction same, Option.some_or]

/-- If no group stands directly behind an operand, a row is read as the expression it is. -/
theorem lexemes_eq (reads : expression.ReadFrom signed row) (separated : Separated row) :
    expression.lexemes = (if signed then [.token (.symbol .minus)] else []) ++ row := by
  induction reads with
  | literal | constant => rfl
  | group inside induction =>
      have same := induction (separated_group.mp separated)
      rw [lexemes, same]
      rfl
  | opposite inside negative induction =>
      have same := induction (separated_group.mp separated)
      rw [lexemes, lexemes, same]
      rfl
  | unary operator reads induction =>
      have same := induction (separated_cons_symbol.mp separated)
      rw [lexemes, same]
      rfl
  | single reads induction => exact induction separated
  | binary ranked left_reads right_reads left_induction right_induction =>
      obtain ⟨first_separated, second_separated⟩ := separated_append_symbol.mp separated
      rw [lexemes, left_induction first_separated, right_induction second_separated,
        List.append_assoc]
      rfl
  | juxtaposed ranked left_reads right_reads left_induction right_induction =>
      -- The second row begins with a group, and the first one ends as an operand does.
      obtain ⟨last, ends, operand⟩ := left_reads.endsOperand
      have apart := (List.isChain_append.mp separated).2.2
      exact absurd rfl (apart last ends .opening right_reads.head?_eq_opening operand)

end ReadFrom

/-- The lexemes of an expression have no group directly behind an operand. -/
theorem separated_lexemes (expression : Derivation depth) : Separated expression.lexemes := by
  induction expression with
  | literal | constant => exact List.isChain_singleton _
  | group inner induction => exact separated_group.mpr induction
  | unary operator operand induction => exact separated_cons_symbol.mpr induction
  | single operand induction => exact induction
  | binary left operator ranked right left_induction right_induction =>
      exact separated_append_symbol.mpr ⟨left_induction, right_induction⟩

end Derivation

end GlslBuild.Condition
