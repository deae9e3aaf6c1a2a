import GlslBuild.Conditional.Run
import GlslBuild.Proofs.Expansion.PassLimit
import Mathlib.Data.List.Basic

/-!
# Preprocessing under a higher limit

Every span of code and every condition has the limit on passes for itself, and what comes of them
decides about the definitions and the chains that later ones meet. As long as none of them reaches
the limit, a run under a higher limit takes the same steps.
-/

namespace GlslBuild

/-- The fault is that passes were cut off. -/
def Fault.IsLimit (fault : Fault) : Prop := ∃ passes, fault = .definition (.expansionLimit passes)

theorem DefinitionError.IsLimit.fault {error : DefinitionError} (limit : error.IsLimit) :
    (Fault.definition error).IsLimit := by
  obtain ⟨passes, rfl⟩ := limit
  exact ⟨passes, rfl⟩

namespace Condition

theorem sameUnless_evaluate {low high : Nat} (le : low ≤ high) (definitions : Definitions)
    (expression : Text) :
    SameUnless DefinitionError.IsLimit (evaluate definitions low expression)
      (evaluate definitions high expression) :=
  (Expansion.sameUnless_ofCondition le definitions _).bind fun _ => .refl ..

end Condition

namespace Context

variable {low high : Nat}

theorem sameUnless_expandLine (le : low ≤ high) (context : Context) (text : Text)
    (inComment : Bool) :
    SameUnless DefinitionError.IsLimit (context.expandLine low text inComment)
      (context.expandLine high text inComment) := by
  refine SameUnless.foldlM ?_ _ _
  rintro done (code | comment)
  · exact (Expansion.sameUnless_ofText le context.definitions code).map _
  · exact .refl ..

theorem sameUnless_apply (le : low ≤ high) (context : Context) (directive : Directive) :
    SameUnless (fun error => (Fault.ofDirective error).IsLimit)
      (context.apply low directive) (context.apply high directive) := by
  obtain ⟨keyword, args⟩ := directive
  have evaluated := Condition.sameUnless_evaluate le context.definitions args
  cases keyword with
  | ifExpr =>
      simp only [apply, openIf]
      split
      · refine .map (.mapError (evaluated.map _) ?_) _
        exact fun _ => DefinitionError.IsLimit.fault
      · exact .refl ..
  | elif =>
      simp only [apply, Context.elif]
      refine SameUnless.map ?_ _
      split
      · exact .refl ..
      · split
        · exact .refl ..
        · split
          · rcases evaluated with same | ⟨error, stopped, excuse⟩
            · simp only [test, same]
              exact .refl ..
            · simp only [test, stopped]
              exact .of_excused excuse.fault
          · exact .refl ..
  | _ => exact .refl ..

theorem sameUnless_step (le : low ≤ high) (context : Context) (content : Content) :
    SameUnless Fault.IsLimit (context.step low content) (context.step high content) := by
  cases content with
  | text written inComment =>
      simp only [step]
      split
      · exact ((sameUnless_expandLine le context written inComment).mapError
          fun _ => DefinitionError.IsLimit.fault).map _
      · exact .refl ..
  | directive directive => exact (sameUnless_apply le context directive).mapError fun _ => id
  | _ => exact .refl ..

/-- The limit on passes stopped a run. -/
def Outcome.IsLimited (outcome : Outcome) : Prop :=
  ∃ line fault, outcome.result = .error ⟨line, fault⟩ ∧ fault.IsLimit

/-- A run takes the same steps under a higher limit, unless it reaches the limit. -/
theorem run_eq_of_le (le : low ≤ high) (context : Context) (items : List Item) :
    context.run high items = context.run low items ∨ (context.run low items).IsLimited := by
  induction items generalizing context with
  | nil => exact .inl rfl
  | cons item rest induction =>
      rw [run, run]
      rcases sameUnless_step le context item.content with same | ⟨fault, stopped, excuse⟩
      · rw [same]
        cases context.step low item.content with
        | error fault => exact .inl rfl
        | ok outcome =>
            dsimp only
            rcases induction outcome.1 with same | ⟨line, fault, stopped, excuse⟩
            · exact .inl (by rw [same])
            · exact .inr ⟨line, fault, by rw [stopped]; rfl, excuse⟩
      · rw [stopped]
        exact .inr ⟨item.line, fault, rfl, excuse⟩

theorem processItems_eq_of_le (le : low ≤ high) (context : Context) (items : List Item) :
    context.processItems high items = context.processItems low items ∨
      (context.processItems low items).IsLimited := by
  rcases run_eq_of_le le context items with same | ⟨line, fault, stopped, excuse⟩
  · exact .inl (by rw [processItems, processItems, same])
  · refine .inr ⟨line, fault, ?_, excuse⟩
    simp only [processItems, stopped]

/-- Lines that are preprocessed, or fail for another reason than the limit on passes, come to the
same under any higher limit, and leave the same context. What is expanded within the limit is
expanded for good. -/
theorem process_eq_of_passLimit_le :
    (∀ (low high : Nat) (context : Context) (lines : List Text), low ≤ high →
      (∀ line passes, (context.process low lines).result ≠
        .error ⟨line, .definition (.expansionLimit passes)⟩) →
      context.process high lines = context.process low lines) ∧
      ∀ (definitions : Definitions) (passLimit : Nat) (text expanded : Text),
        (Expansion.ofText definitions passLimit text = .ok expanded →
          Expansion.ofText definitions passLimit expanded = .ok expanded) ∧
        (Expansion.ofCondition definitions passLimit text = .ok expanded →
          Expansion.ofCondition definitions passLimit expanded = .ok expanded) := by
  refine ⟨?_, fun definitions passLimit text expanded =>
    ⟨Expansion.settle_of_settle, Expansion.settle_of_settle⟩⟩
  intro low high context lines le unlimited
  rcases processItems_eq_of_le le context (Item.scan lines) with same |
    ⟨line, _, stopped, passes, rfl⟩
  · exact same
  · exact absurd stopped (unlimited line passes)

/-- Four passes are enough for these definitions and three are not. Three are enough to find that a
condition is wrong. -/
theorem process_eq_of_passLimit_le_chain :
    let definitions := ["#define A B", "#define B 1 + C"].map String.toList
    let lines := definitions ++ ["#if A > 0", "int a = A;", "#endif"].map String.toList
    let wrong := ["#define A B", "#if A +"].map String.toList
    (empty.process 4 lines).result = .ok ["int a = 1 + C;".toList] ∧
      empty.process 512 lines = empty.process 4 lines ∧
      (empty.process 3 lines).result = .error ⟨3, .definition (.expansionLimit 3)⟩ ∧
      (empty.process 3 wrong).result =
        .error ⟨2, .definition (.invalidExpression "false +".toList .missingOperand)⟩ ∧
      empty.process 512 wrong = empty.process 3 wrong ∧
      Expansion.ofCondition (empty.process 4 definitions).context.definitions 4
        "1 + false > 0".toList = .ok "1 + false > 0".toList := by
  intro definitions lines wrong
  have enough : (empty.process 4 lines).result = .ok ["int a = 1 + C;".toList] := by
    decide +kernel
  have failed : (empty.process 3 wrong).result =
      .error ⟨2, .definition (.invalidExpression "false +".toList .missingOperand)⟩ := by
    decide +kernel
  have expanded : Expansion.ofCondition (empty.process 4 definitions).context.definitions 4
      "A > 0".toList = .ok "1 + false > 0".toList := by decide +kernel
  refine ⟨enough, ?_, by decide +kernel, failed, ?_, ?_⟩
  · refine process_eq_of_passLimit_le.1 4 512 empty lines (by decide) ?_
    intro line passes
    rw [enough]
    nofun
  · refine process_eq_of_passLimit_le.1 3 512 empty wrong (by decide) ?_
    intro line passes
    rw [failed]
    nofun
  · exact (process_eq_of_passLimit_le.2 _ 4 _ _).2 expanded

end Context

end GlslBuild
