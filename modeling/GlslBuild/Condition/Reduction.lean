import GlslBuild.Condition.Flat
import GlslBuild.Definition.Error

/-!
# Reducing conditions

A condition with parentheses is reduced from the inside: the first group that holds no further
parenthesis is replaced by its value, until no group is left. A parenthesis without a partner stays
in the text and is then a fault.
-/

namespace GlslBuild.Condition

/-- Neither an opening nor a closing parenthesis. -/
def isFlatChar (char : Char) : Bool := char != '(' && char != ')'

/-- The first parenthesised group without a parenthesis inside: what stands before it, inside it
and after it. -/
def firstGroup? : Text → Option (Text × Text × Text)
  | [] => none
  | char :: rest =>
      match char == '(', rest.dropWhile isFlatChar with
      | true, ')' :: after => some ([], rest.takeWhile isFlatChar, after)
      | _, _ => (firstGroup? rest).map fun (before, group) => (char :: before, group)

/-- The value of a group as it is put in the group's place. -/
def groupValue (value : Int64) : Text := ' ' :: Text.signedDecimal value.toInt ++ [' ']

/-- A group stands in the text between its parentheses. -/
theorem eq_of_firstGroup? {text before inside after : Text}
    (found : firstGroup? text = some (before, inside, after)) :
    text = before ++ '(' :: inside ++ ')' :: after := by
  fun_induction firstGroup? text generalizing before with
  | case1 => simp at found
  | case2 char rest tail closes opens =>
      simp only [Option.some.injEq, Prod.mk.injEq] at found
      obtain ⟨rfl, rfl, rfl⟩ := found
      rw [beq_iff_eq] at opens
      subst opens
      have split := List.takeWhile_append_dropWhile (p := isFlatChar) (l := rest)
      rw [closes] at split
      simp [split]
  | case3 char rest _ induction =>
      obtain ⟨⟨inner, group⟩, inner_found, pair⟩ := Option.map_eq_some_iff.mp found
      simp only [Prod.mk.injEq] at pair
      obtain ⟨rfl, rfl⟩ := pair
      simp [induction inner_found]

/-- The value of a group holds no parenthesis. -/
theorem count_groupValue (value : Int64) : (groupValue value).count '(' = 0 := by
  have digits : ∀ number : Nat, '(' ∉ Text.decimal number := by
    intro number member
    have digit := Nat.isDigit_of_mem_toDigits (by decide) (by decide) member
    simp at digit
  rw [List.count_eq_zero]
  simp only [groupValue, Text.signedDecimal]
  split <;> simp [digits]

/-- The value of a text, with every group replaced in turn. -/
def valueOf (text : Text) : Except Reason Int64 :=
  match _found : firstGroup? text with
  | none => valueOfFlat text
  | some (before, inside, after) =>
      match valueOfFlat inside with
      | .error reason => .error reason
      | .ok value => valueOf (before ++ groupValue value ++ after)
termination_by text.count '('
decreasing_by
  rw [eq_of_firstGroup? _found]
  simp only [List.count_append, count_groupValue, List.count_cons, beq_self_eq_true, ↓reduceIte]
  omega

/-- The value of a condition in which nothing is left to expand. -/
def reduce (expression : Text) : Except DefinitionError Int64 :=
  (valueOf expression).mapError (.invalidExpression (Text.trim expression))

end GlslBuild.Condition
