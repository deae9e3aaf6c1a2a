import GlslBuild.Expansion
import GlslBuild.Proofs.Result

/-!
# The limit on passes

A higher limit on passes makes a difference only where the lower one was reached. A text that passes
end with is one that a pass leaves as it is, so it expands to itself.
-/

namespace GlslBuild

/-- Passes were cut off by the limit on them. -/
def DefinitionError.IsLimit (error : DefinitionError) : Prop :=
  ∃ passes, error = .expansionLimit passes

namespace Expansion

variable {definitions : Definitions} {inCondition : Bool}

/-- More passes lead to the same, unless there were too few. -/
theorem sameUnless_settle {remaining more : Nat} (le : remaining ≤ more) (limit higher : Nat)
    (text : Text) :
    SameUnless DefinitionError.IsLimit (settle definitions inCondition limit remaining text)
      (settle definitions inCondition higher more text) := by
  induction remaining generalizing more text with
  | zero => exact .of_excused ⟨limit, rfl⟩
  | succ remaining induction =>
      obtain ⟨more, rfl⟩ := Nat.exists_eq_add_of_lt le
      rw [settle, settle]
      cases passed : pass definitions inCondition text with
      | error error => exact .refl ..
      | ok next =>
          dsimp only
          split
          · exact .refl ..
          · exact induction (Nat.le_add_right remaining more) next

theorem sameUnless_ofText {low high : Nat} (le : low ≤ high) (definitions : Definitions)
    (text : Text) :
    SameUnless DefinitionError.IsLimit (ofText definitions low text)
      (ofText definitions high text) :=
  sameUnless_settle le low high text

theorem sameUnless_ofCondition {low high : Nat} (le : low ≤ high) (definitions : Definitions)
    (text : Text) :
    SameUnless DefinitionError.IsLimit (ofCondition definitions low text)
      (ofCondition definitions high text) :=
  sameUnless_settle le low high text

/-- Passes end with a text that a pass leaves as it is. -/
theorem pass_of_settle {limit remaining : Nat} {text result : Text}
    (settled : settle definitions inCondition limit remaining text = .ok result) :
    pass definitions inCondition result = .ok result := by
  induction remaining generalizing text with
  | zero => contradiction
  | succ remaining induction =>
      rw [settle] at settled
      cases passed : pass definitions inCondition text with
      | error error =>
          rw [passed] at settled
          contradiction
      | ok next =>
          rw [passed] at settled
          dsimp only at settled
          split at settled
          · next unchanged =>
              obtain rfl := Except.ok.inj settled
              rw [passed, unchanged]
          · exact induction settled

/-- What a text expands to expands to itself. -/
theorem settle_of_settle {limit : Nat} {text result : Text}
    (settled : settle definitions inCondition limit limit text = .ok result) :
    settle definitions inCondition limit limit result = .ok result := by
  cases limit with
  | zero => contradiction
  | succ remaining =>
      rw [settle, pass_of_settle settled]
      exact if_pos rfl

end Expansion

end GlslBuild
