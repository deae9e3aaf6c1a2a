import GlslBuild.Proofs.Conditional.Block
import GlslBuild.Proofs.Identifier
import Mathlib.Tactic.Core

/-!
# Frames and blocks

Running well nested items through a stack of frames comes to what their tree means. A block where
text is left out is passed over, and so is the rest of a chain that has taken a branch. Where text
is kept the run follows the meaning, with the frames that were open before back in place at the end.
-/

namespace GlslBuild

/-- An identifier is a single name. -/
theorem Directive.singleName_of_isIdentifier {name : Text} (valid : Text.isIdentifier name = true) :
    Directive.singleName name = .ok name := by
  have present : name.isEmpty = false :=
    List.isEmpty_eq_false_iff.mpr (Text.all_of_isIdentifier valid).1
  simp [singleName, Text.splitOnce_isBlank_of_isIdentifier valid, present, valid, Text.trim,
    Text.trimEnd, Text.trimStart]

namespace Context

variable {passLimit : Nat}

/-- The effect of a run on the context. -/
def advance (passLimit : Nat) (items : List Item) (context : Context) : Effect Context :=
  ⟨(context.run passLimit items).context, (context.run passLimit items).result⟩

@[simp] theorem advance_nil (context : Context) :
    advance passLimit [] context = .idle context := rfl

theorem advance_cons (line : Nat) (content : Content) (rest : List Item) (context : Context) :
    advance passLimit (⟨line, content⟩ :: rest) context =
      match context.step passLimit content with
      | .error fault => .stop line fault context
      | .ok (next, emitted) => (advance passLimit rest next).after emitted := by
  simp only [advance, run]
  cases context.step passLimit content <;> rfl

/-- An item that gives no lines only changes the context. -/
theorem advance_cons_of_quiet {context next : Context} {content : Content}
    (stepped : context.step passLimit content = .ok (next, [])) (line : Nat) (rest : List Item) :
    advance passLimit (⟨line, content⟩ :: rest) context = advance passLimit rest next := by
  rw [advance_cons, stepped]
  exact Effect.after_nil _

theorem advance_append (first second : List Item) (context : Context) :
    advance passLimit (first ++ second) context =
      (advance passLimit first context).andThen (advance passLimit second) := by
  induction first generalizing context with
  | nil => simp
  | cons item rest induction =>
      rw [List.cons_append, advance_cons, advance_cons]
      cases context.step passLimit item.content with
      | error fault => rfl
      | ok outcome => simp only [induction, Effect.andThen_after]

/-- A run that fails stops at an item and leaves the context of the items before it. -/
theorem exists_of_advance_eq_error {context after : Context} {items : List Item}
    {error : ProcessError} (failed : advance passLimit items context = ⟨after, .error error⟩) :
    ∃ earlier item later output, items = earlier ++ item :: later ∧
      advance passLimit earlier context = ⟨after, .ok output⟩ ∧
      after.step passLimit item.content = .error error.fault ∧ error.line = item.line := by
  induction items generalizing context with
  | nil => simp [Effect.idle] at failed
  | cons item rest induction =>
      rw [advance_cons] at failed
      cases stepped : context.step passLimit item.content with
      | error fault =>
          rw [stepped] at failed
          obtain ⟨rfl, stopped⟩ := Effect.mk.inj failed
          obtain rfl := Except.error.inj stopped
          exact ⟨[], item, rest, [], rfl, rfl, stepped, rfl⟩
      | ok outcome =>
          rw [stepped] at failed
          rcases ran : advance passLimit rest outcome.1 with ⟨state, inner | lines⟩
          · simp only [ran, Effect.after, Except.map] at failed
            obtain ⟨rfl, stopped⟩ := Effect.mk.inj failed
            obtain rfl := Except.error.inj stopped
            obtain ⟨earlier, blamed, later, output, rfl, passed, refused, number⟩ := induction ran
            refine ⟨item :: earlier, blamed, later, outcome.2 ++ output, rfl, ?_, refused, number⟩
            rw [advance_cons, stepped]
            simp only [passed, Effect.after, Except.map]
          · simp [ran, Effect.after, Except.map] at failed

/-! ## The check at the end -/

/-- The check at the end of a run, which blames a line for open chains. -/
def checkClosed (line : Nat) (context : Context) : Effect Context :=
  match context.finish with
  | .ok () => .idle context
  | .error error => .stop line (.structural error) context

/-- The effect of preprocessing on the context. -/
def Outcome.effect (outcome : Outcome) : Effect Context := ⟨outcome.context, outcome.result⟩

/-- Preprocessing items is a run and a check at its end. -/
theorem effect_processItems (context : Context) (items : List Item) :
    (context.processItems passLimit items).effect =
      (advance passLimit items context).andThen (checkClosed (endLine items)) := by
  rcases ran : context.run passLimit items with ⟨after, result, read⟩
  simp only [processItems, advance, Effect.andThen, checkClosed, Outcome.effect, ran]
  cases result with
  | error error => rfl
  | ok output => cases after.finish <;> simp [Effect.after, Effect.idle, Effect.stop, Except.map]

theorem checkClosed_of_finish {context : Context} (closed : context.finish = .ok ())
    (line : Nat) : checkClosed line context = .idle context := by
  rw [checkClosed, closed]

theorem checkClosed_of_ne_nil {context : Context} (left_open : context.frames ≠ []) (line : Nat) :
    checkClosed line context =
      .stop line (.structural (.unterminated context.frames.length)) context := by
  have unfinished : context.finish = .error (.unterminated context.frames.length) := by
    rw [finish, List.isEmpty_eq_false_iff.mpr left_open]
    rfl
  rw [checkClosed, unfinished]

/-- The check fails if chains are open, and leaves them so. -/
theorem eq_unterminated_of_checkClosed {context after : Context} {output : List Text} {line : Nat}
    {error : ProcessError}
    (failed : (Effect.mk context (.ok output)).andThen (checkClosed line) =
      ⟨after, .error error⟩) :
    context = after ∧ after.frames ≠ [] ∧
      error = ⟨line, .structural (.unterminated after.frames.length)⟩ := by
  rw [Effect.andThen] at failed
  by_cases closed : context.frames = []
  · rw [checkClosed_of_finish ((finish_eq_ok_iff context).mpr closed)] at failed
    exact absurd (Effect.mk.inj failed).2 (by simp [Effect.idle, Except.map])
  · rw [checkClosed_of_ne_nil closed] at failed
    obtain ⟨rfl, stopped⟩ := Effect.mk.inj failed
    exact ⟨rfl, closed, (Except.error.inj stopped).symm⟩

theorem endLine_cases (items : List Item) :
    (items = [] ∧ endLine items = 0) ∨
      ∃ earlier last, items = earlier ++ [last] ∧ endLine items = last.line := by
  rcases List.eq_nil_or_concat items with rfl | ⟨earlier, last, rfl⟩
  · exact .inl ⟨rfl, rfl⟩
  · exact .inr ⟨earlier, last, List.concat_eq_append, by simp [endLine]⟩

/-- A run that succeeds leaves no chain open. -/
theorem advance_of_processItems {context : Context} {items : List Item} {output : List Text}
    (processed : (context.processItems passLimit items).result = .ok output) :
    advance passLimit items context =
        ⟨(context.processItems passLimit items).context, .ok output⟩ ∧
      (context.processItems passLimit items).context.finish = .ok () := by
  rcases ran : context.run passLimit items with ⟨after, result, read⟩
  simp only [processItems, advance, ran] at processed ⊢
  cases result with
  | error error => contradiction
  | ok lines =>
      cases closed : after.finish with
      | error error =>
          rw [closed] at processed
          contradiction
      | ok _ =>
          rw [closed] at processed
          exact ⟨congrArg _ processed, closed⟩

/-! ## Steps -/

theorem step_leaf_of_active {context : Context} (active : context.isActive = true) (leaf : Leaf) :
    context.step passLimit leaf.content =
      (leaf.perform passLimit context.definitions).map fun outcome =>
        (⟨outcome.1, context.frames⟩, outcome.2) := by
  cases leaf with
  | text written inComment =>
      have expanded : expandLine ⟨context.definitions, []⟩ passLimit written inComment =
          context.expandLine passLimit written inComment := rfl
      simp only [step, Leaf.content, Leaf.perform, active, if_true, expanded]
      cases context.expandLine passLimit written inComment <;> rfl
  | passThrough written => simp [step, Leaf.content, Leaf.perform, active, Except.map]
  | define args =>
      simp only [step, apply, Leaf.content, Leaf.perform, active, if_true]
      cases Definition.parse args <;> rfl
  | undef args =>
      simp only [step, apply, Leaf.content, Leaf.perform, active, if_true]
      cases Directive.singleName args <;> rfl
  | includeFile args =>
      simp [step, apply, Leaf.content, Leaf.perform, active, Except.map, Except.mapError]

theorem step_leaf_of_inactive {context : Context} (inactive : context.isActive = false)
    (leaf : Leaf) : context.step passLimit leaf.content = .ok (context, []) := by
  cases leaf <;> simp [step, apply, Leaf.content, inactive, Except.mapError]

theorem step_opening_of_active {context : Context} (active : context.isActive = true)
    (opening : Opening) :
    context.step passLimit (.directive opening.directive) =
      ((opening.test passLimit context.definitions).mapError .definition).map fun holds =>
        (context.push (Frame.opened holds), []) := by
  cases opening with
  | condition expression =>
      simp only [step, apply, Opening.directive, Opening.test, openIf, active, if_true, test]
      cases Condition.evaluate context.definitions passLimit expression <;> rfl
  | defined name valid =>
      simp [step, apply, Opening.directive, Opening.test, openIfDefined, active, Except.map,
        Except.mapError, Directive.singleName_of_isIdentifier valid]
  | undefined name valid =>
      simp [step, apply, Opening.directive, Opening.test, openIfDefined, active, Except.map,
        Except.mapError, Directive.singleName_of_isIdentifier valid]

theorem step_opening_of_inactive {context : Context} (inactive : context.isActive = false)
    (opening : Opening) :
    context.step passLimit (.directive opening.directive) =
      .ok (context.push Frame.dead, []) := by
  cases opening with
  | condition expression =>
      simp [step, apply, Opening.directive, openIf_of_not_isActive inactive, Except.map,
        Except.mapError]
  | defined name valid =>
      simp [step, apply, Opening.directive, openIfDefined, inactive, Except.map,
        Except.mapError, Directive.singleName_of_isIdentifier valid]
  | undefined name valid =>
      simp [step, apply, Opening.directive, openIfDefined, inactive, Except.map,
        Except.mapError, Directive.singleName_of_isIdentifier valid]

theorem step_elif_of_seeking (definitions : Definitions) (outer : List Frame)
    (expression : Text) :
    step ⟨definitions, Frame.opened false :: outer⟩ passLimit
        (.directive ⟨.elif, expression⟩) =
      ((test passLimit expression definitions).mapError .definition).map fun holds =>
        (⟨definitions, Frame.opened holds :: outer⟩, []) := by
  simp only [step, apply, Context.elif, Frame.opened, Frame.awaitsCondition]
  cases test passLimit expression definitions <;> rfl

theorem step_elif_of_settled {frame : Frame} (settled : frame.progress ≠ .seeking)
    (early : frame.elseSeen = false) (definitions : Definitions) (outer : List Frame)
    (expression : Text) :
    step ⟨definitions, frame :: outer⟩ passLimit (.directive ⟨.elif, expression⟩) =
      .ok (⟨definitions, frame.finish :: outer⟩, []) := by
  simp [step, apply, Context.elif, Frame.awaitsCondition, settled, early, Except.map,
    Except.mapError]

theorem step_otherwise {frame : Frame} (early : frame.elseSeen = false)
    (definitions : Definitions) (outer : List Frame) (args : Text) :
    step ⟨definitions, frame :: outer⟩ passLimit (.directive ⟨.otherwise, args⟩) =
      .ok (⟨definitions, frame.otherwise :: outer⟩, []) := by
  simp [step, apply, Context.otherwise, early, Except.map, Except.mapError]

theorem step_endif (definitions : Definitions) (frame : Frame) (outer : List Frame)
    (args : Text) :
    step ⟨definitions, frame :: outer⟩ passLimit (.directive ⟨.endif, args⟩) =
      .ok (⟨definitions, outer⟩, []) := by
  simp [step, apply, Context.endif, Except.map, Except.mapError]

end Context

/-! ## Blocks that are left out -/

mutual

/-- Where text is left out, a block changes nothing. -/
theorem Block.advance_of_inactive {passLimit : Nat} {context : Context}
    (inactive : context.isActive = false) : (block : Block) →
      context.advance passLimit block.items = .idle context
  | .nil => rfl
  | .plain line leaf rest => by
      rw [Block.items, Context.advance_cons_of_quiet (Context.step_leaf_of_inactive inactive leaf)]
      exact Block.advance_of_inactive inactive rest
  | .chain line opening body tail rest => by
      have dead : (context.push Frame.dead).isActive = false := by simp
      rw [Block.items, Context.advance_append,
        Context.advance_cons_of_quiet (Context.step_opening_of_inactive inactive opening),
        Context.advance_append, Block.advance_of_inactive dead body, Effect.idle_andThen,
        Context.push, Tail.advance_of_settled (by decide) (by decide) tail, Effect.idle_andThen]
      exact Block.advance_of_inactive inactive rest

/-- A chain that has taken a branch, or can take none, only comes to its end. -/
theorem Tail.advance_of_settled {passLimit : Nat} {definitions : Definitions} {frame : Frame}
    {outer : List Frame} (settled : frame.progress ≠ .seeking) (early : frame.elseSeen = false) :
    (tail : Tail) → Context.advance passLimit tail.items ⟨definitions, frame :: outer⟩ =
      .idle ⟨definitions, outer⟩
  | .elif line expression body rest => by
      have left_out : Context.isActive ⟨definitions, frame.finish :: outer⟩ = false := rfl
      rw [Tail.items, Context.advance_cons_of_quiet (Context.step_elif_of_settled settled early ..),
        Context.advance_append, Block.advance_of_inactive left_out body, Effect.idle_andThen]
      have finished : frame.finish.progress ≠ .seeking := by simp [Frame.finish]
      exact Tail.advance_of_settled finished early rest
  | .otherwise line args body endLine endArgs => by
      have left_out : Context.isActive ⟨definitions, frame.otherwise :: outer⟩ = false := by
        simp [Context.isActive, Frame.otherwise, Frame.isTaking, settled]
      rw [Tail.items, Context.advance_cons_of_quiet (Context.step_otherwise early ..),
        Context.advance_append, Block.advance_of_inactive left_out body, Effect.idle_andThen,
        Context.advance_cons_of_quiet (Context.step_endif ..), Context.advance_nil]
  | .endif line args => by
      rw [Tail.items, Context.advance_cons_of_quiet (Context.step_endif ..), Context.advance_nil]

end

/-! ## Blocks that are taken -/

/-- A run comes to the same as a meaning, and ends with these frames if it does not fail. -/
structure Follows (frames : List Frame) (flat : Effect Context) (tree : Effect Definitions) :
    Prop where
  result_eq : flat.result = tree.result
  definitions_eq : flat.state.definitions = tree.state
  frames_eq : ∀ output, tree.result = .ok output → flat.state.frames = frames

namespace Follows

variable {frames outer : List Frame} {flat : Effect Context} {tree : Effect Definitions}

theorem idle (definitions : Definitions) (frames : List Frame) :
    Follows frames (.idle ⟨definitions, frames⟩) (.idle definitions) :=
  ⟨rfl, rfl, fun _ _ => rfl⟩

theorem stop (context : Context) (frames : List Frame) (line : Nat) (fault : Fault) :
    Follows frames (.stop line fault context) (.stop line fault context.definitions) :=
  ⟨rfl, rfl, fun _ absurd => nomatch absurd⟩

theorem after (follows : Follows frames flat tree) (emitted : List Text) :
    Follows frames (flat.after emitted) (tree.after emitted) := by
  refine ⟨?_, follows.definitions_eq, ?_⟩
  · rw [Effect.after, follows.result_eq, Effect.after]
  · intro output done
    cases result : tree.result with
    | error error => simp [Effect.after, result, Except.map] at done
    | ok lines => exact follows.frames_eq lines result

theorem andThen (follows : Follows frames flat tree) {next : Context → Effect Context}
    {meaning : Definitions → Effect Definitions}
    (later : ∀ definitions, Follows outer (next ⟨definitions, frames⟩) (meaning definitions)) :
    Follows outer (flat.andThen next) (tree.andThen meaning) := by
  have same := follows.result_eq
  cases result : tree.result with
  | error error =>
      rw [result] at same
      rw [Effect.andThen, same, Effect.andThen, result]
      refine ⟨follows.result_eq, follows.definitions_eq, ?_⟩
      intro output done
      rw [result] at done
      contradiction
  | ok emitted =>
      rw [result] at same
      have state_eq : flat.state = ⟨tree.state, frames⟩ := by
        rw [← follows.definitions_eq, ← follows.frames_eq emitted result]
      rw [Effect.andThen, same, Effect.andThen, result]
      exact state_eq ▸ (later tree.state).after emitted

/-- The end of a chain changes nothing in what was done before. -/
theorem andThen_idle (follows : Follows frames flat tree) {next : Context → Effect Context}
    (last : ∀ definitions, next ⟨definitions, frames⟩ = .idle ⟨definitions, outer⟩) :
    Follows outer (flat.andThen next) tree := by
  have closed := follows.andThen fun definitions => (last definitions).symm ▸ idle definitions outer
  rwa [Effect.andThen_idle] at closed

/-- A step that asks for a condition goes on as its answer says. -/
theorem choose {passLimit line : Nat} {content : Content} {context : Context}
    {test : Condition.Test} {entered : Bool → Context} {rest : List Item}
    {whenTrue whenFalse : Definitions → Effect Definitions}
    (asked : context.step passLimit content =
      ((test context.definitions).mapError .definition).map fun holds => (entered holds, []))
    (taken : Follows frames ((entered true).advance passLimit rest)
      (whenTrue context.definitions))
    (passed : Follows frames ((entered false).advance passLimit rest)
      (whenFalse context.definitions)) :
    Follows frames (context.advance passLimit (⟨line, content⟩ :: rest))
      (Effect.choose line test whenTrue whenFalse context.definitions) := by
  rw [Effect.choose]
  cases answer : test context.definitions with
  | error error =>
      rw [answer] at asked
      rw [Context.advance_cons, asked]
      exact stop context frames line (.definition error)
  | ok holds =>
      rw [answer] at asked
      rw [Context.advance_cons_of_quiet asked]
      cases holds with
      | true => exact taken
      | false => exact passed

/-- Of a chain only the block that is taken matters: the rest comes to its end. -/
theorem taken {passLimit : Nat} {definitions : Definitions} {frame : Frame} {body : Block}
    (settled : frame.progress ≠ .seeking) (early : frame.elseSeen = false)
    (inside : Follows (frame :: outer)
      (Context.advance passLimit body.items ⟨definitions, frame :: outer⟩) tree) (tail : Tail) :
    Follows outer
      (Context.advance passLimit (body.items ++ tail.items) ⟨definitions, frame :: outer⟩)
      tree := by
  rw [Context.advance_append]
  exact inside.andThen_idle fun _ => Tail.advance_of_settled settled early tail

/-- Of a chain that seeks only what comes after the block that is left out matters. -/
theorem passed {passLimit : Nat} {definitions : Definitions} {body : Block} {tail : Tail}
    (later : Follows outer
      (Context.advance passLimit tail.items ⟨definitions, Frame.opened false :: outer⟩) tree) :
    Follows outer
      (Context.advance passLimit (body.items ++ tail.items)
        ⟨definitions, Frame.opened false :: outer⟩) tree := by
  have left_out : Context.isActive ⟨definitions, Frame.opened false :: outer⟩ = false := rfl
  rw [Context.advance_append, Block.advance_of_inactive left_out body, Effect.idle_andThen]
  exact later

theorem leaf {passLimit : Nat} {context : Context} (active : context.isActive = true)
    (line : Nat) (leaf : Leaf) :
    Follows context.frames (context.advance passLimit [⟨line, leaf.content⟩])
      (leaf.interpret passLimit line context.definitions) := by
  rw [Context.advance_cons, Context.step_leaf_of_active active, Leaf.interpret]
  cases leaf.perform passLimit context.definitions with
  | error fault => exact stop context context.frames line fault
  | ok outcome => exact (idle outcome.1 context.frames).after outcome.2

end Follows

mutual

/-- Where text is kept, running a block comes to what it means. -/
theorem Block.follows {passLimit : Nat} {frames : List Frame}
    (active : frames.all Frame.isTaking = true) (definitions : Definitions) : (block : Block) →
      Follows frames (Context.advance passLimit block.items ⟨definitions, frames⟩)
        (block.interpret passLimit definitions)
  | .nil => .idle definitions frames
  | .plain line leaf rest => by
      have kept : Context.isActive ⟨definitions, frames⟩ = true := active
      rw [Block.items, ← List.singleton_append, Context.advance_append, Block.interpret]
      refine (Follows.leaf kept line leaf).andThen ?_
      intro next
      exact Block.follows active next rest
  | .chain line opening body tail rest => by
      have kept : Context.isActive ⟨definitions, frames⟩ = true := active
      have inside : (Frame.opened true :: frames).all Frame.isTaking = true := active
      rw [Block.items, Context.advance_append, Block.interpret]
      refine Follows.andThen (.choose (Context.step_opening_of_active kept opening) ?_ ?_)
        fun next => Block.follows active next rest
      · exact .taken (by decide) rfl (Block.follows inside definitions body) tail
      · exact .passed (Tail.follows active definitions tail)

/-- Running the rest of a chain that seeks comes to what it means. -/
theorem Tail.follows {passLimit : Nat} {outer : List Frame}
    (active : outer.all Frame.isTaking = true) (definitions : Definitions) : (tail : Tail) →
      Follows outer
        (Context.advance passLimit tail.items ⟨definitions, Frame.opened false :: outer⟩)
        (tail.interpret passLimit definitions)
  | .elif line expression body rest => by
      have inside : (Frame.opened true :: outer).all Frame.isTaking = true := active
      rw [Tail.items, Tail.interpret]
      refine .choose (Context.step_elif_of_seeking definitions outer expression) ?_ ?_
      · exact .taken (by decide) rfl (Block.follows inside definitions body) rest
      · exact .passed (Tail.follows active definitions rest)
  | .otherwise line args body endLine endArgs => by
      have taken : ((Frame.opened false).otherwise :: outer).all Frame.isTaking = true := active
      rw [Tail.items, Tail.interpret, Context.advance_cons_of_quiet (Context.step_otherwise rfl ..),
        Context.advance_append]
      refine (Block.follows taken definitions body).andThen_idle ?_
      intro next
      rw [Context.advance_cons_of_quiet (Context.step_endif ..), Context.advance_nil]
  | .endif line args => by
      rw [Tail.items, Tail.interpret, Context.advance_cons_of_quiet (Context.step_endif ..),
        Context.advance_nil]
      exact .idle definitions outer

end

/-- Preprocessing well nested items gives the lines, the definitions and the first error that their
tree means: of each chain that is reached, the conditions up to the first that holds are evaluated,
and nothing but the block after this one is applied. -/
theorem Block.processItems_eq_interpret (block : Block) (passLimit : Nat)
    (definitions : Definitions) :
    let outcome := Context.processItems ⟨definitions, []⟩ passLimit block.items
    let effect := block.interpret passLimit definitions
    outcome.result = effect.result ∧ outcome.context.definitions = effect.state := by
  have follows : Follows [] (Context.advance passLimit block.items ⟨definitions, []⟩)
      (block.interpret passLimit definitions) := Block.follows rfl definitions block
  have result_eq := follows.result_eq
  have definitions_eq := follows.definitions_eq
  simp only [Context.advance] at result_eq definitions_eq
  intro outcome effect
  have unchanged : outcome = Context.run ⟨definitions, []⟩ passLimit block.items := by
    simp only [outcome, Context.processItems]
    cases done : effect.result with
    | error error => rw [result_eq, done]
    | ok output =>
        have closed := follows.frames_eq output done
        have finished := (Context.finish_eq_ok_iff _).mpr closed
        simp only [Context.advance] at finished
        rw [result_eq, done, finished]
  rw [unchanged]
  exact ⟨result_eq, definitions_eq⟩

end GlslBuild
