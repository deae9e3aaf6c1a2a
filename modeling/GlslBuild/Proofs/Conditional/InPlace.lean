import GlslBuild.Proofs.Conditional.Nesting
import GlslBuild.Proofs.Scanning
import GlslBuild.Proofs.Table

/-!
# Preprocessing in place

Preprocessing holds one context and changes it as it goes. What fails on the way leaves behind what
it has changed so far. Written so, an item is still applied as a whole or not at all, since whatever
can go wrong with it is found before the context is touched, and a run that fails leaves the context
that the items before the failing one have made.
-/

namespace GlslBuild

/-- A computation that changes a context, and leaves it as it is by then if it fails. -/
abbrev InPlace (Failure Value : Type) : Type := EStateM Failure Context Value

namespace InPlace

variable {Failure Value : Type}

/-- A step that is taken as a whole or not at all. -/
def atomically (step : Context → Except Failure (Context × Value)) : InPlace Failure Value :=
  fun context =>
    match step context with
    | .error failure => .error failure context
    | .ok (next, value) => .ok value next

/-- Replaces the innermost frame. -/
def setTop (frame : Frame) : InPlace Fault Unit :=
  modify fun context => { context with frames := frame :: context.frames.tail }

/-- Opens a chain with a condition. -/
def openIf (test : Condition.Test) : InPlace Fault Unit := do
  let context ← get
  let mut frame := Frame.dead
  if context.isActive then
    frame := Frame.opened (← ofExcept ((test context.definitions).mapError .definition))
  modify (·.push frame)

/-- Reads the single name in the arguments of a directive, and makes a change with it. -/
def changeByName (args : Text) (change : Context → Text → Context) : InPlace Fault Unit := do
  let name ← ofExcept ((Directive.singleName args).mapError .definition)
  modify (change · name)

/-- Goes on to a further branch with a condition. -/
def elif (test : Condition.Test) : InPlace Fault Unit := do
  let context ← get
  match context.frames with
  | [] => throw (.structural .unmatchedElif)
  | top :: _ =>
      if top.elseSeen then throw (.structural .elifAfterElse)
      if top.awaitsCondition then
        setTop (.opened (← ofExcept ((test context.definitions).mapError .definition)))
      else setTop top.finish

/-- Goes on to the branch for all other cases. -/
def otherwise : InPlace Fault Unit := do
  match (← get).frames with
  | [] => throw (.structural .unmatchedElse)
  | top :: _ =>
      if top.elseSeen then throw (.structural .duplicateElse)
      setTop top.otherwise

/-- Closes the innermost chain, and finds out afterwards whether there was one. -/
def endif : InPlace Fault Unit := do
  let frames := (← get).frames
  modify fun context => { context with frames := frames.tail }
  if frames.isEmpty then throw (.structural .unmatchedEndif)

/-- Makes room for a definition, and then adds it. -/
def define (args : Text) : InPlace Fault Unit := do
  let definition ← ofExcept ((Definition.parse args).mapError .definition)
  modify (·.undefine definition.name)
  modify (·.define definition)

/-- Applies a directive. The name that opens a chain is read even where text is left out. -/
def apply (passLimit : Nat) (directive : Directive) : InPlace Fault (List Text) := do
  match directive.keyword with
  | .ifExpr => openIf (Context.test passLimit directive.args)
  | .ifdef => changeByName directive.args (·.openIfDefined · true)
  | .ifndef => changeByName directive.args (·.openIfDefined · false)
  | .elif => elif (Context.test passLimit directive.args)
  | .otherwise => otherwise
  | .endif => endif
  | .define => if (← get).isActive then define directive.args
  | .undef => if (← get).isActive then changeByName directive.args (·.undefine ·)
  | .includeFile => if (← get).isActive then return [directive.toLine]
  return []

/-- Takes one item. -/
def perform (passLimit : Nat) : Content → InPlace Fault (List Text)
  | .text written inComment => do
      let context ← get
      unless context.isActive do return []
      return [← ofExcept ((context.expandLine passLimit written inComment).mapError .definition)]
  | .passThrough written => return if (← get).isActive then [written] else []
  | .directive directive => apply passLimit directive
  | .unknown keyword => throw (.unknownDirective keyword)

/-! ## Whole steps -/

theorem ext_run {first second : InPlace Failure Value}
    (same : ∀ context, first.run context = second.run context) : first = second :=
  funext same

@[simp] theorem run_ofExcept (result : Except Failure Value) (context : Context) :
    (ofExcept result : InPlace Failure Value).run context =
      match result with
      | .error failure => .error failure context
      | .ok value => .ok value context := by
  cases result <;> rfl

@[simp] theorem run_map {Other : Type} (function : Value → Other) (action : InPlace Failure Value)
    (context : Context) :
    (function <$> action).run context =
      match action.run context with
      | .error failure after => .error failure after
      | .ok value after => .ok (function value) after := by
  change EStateM.map function action context = _
  unfold EStateM.map EStateM.run
  cases action context <;> rfl

@[simp] theorem run_atomically (step : Context → Except Failure (Context × Value))
    (context : Context) :
    (atomically step).run context =
      match step context with
      | .error failure => .error failure context
      | .ok (next, value) => .ok value next := rfl

@[simp] theorem run_setTop (frame : Frame) (context : Context) :
    (setTop frame).run context =
      .ok () { context with frames := frame :: context.frames.tail } := rfl

theorem openIf_eq (test : Condition.Test) :
    openIf test = atomically fun context =>
      ((context.openIf test).mapError .definition).map (·, ()) := by
  refine ext_run fun context => ?_
  cases active : context.isActive with
  | false => simp [openIf, active, Context.openIf, Except.map, Except.mapError]
  | true =>
      cases asked : test context.definitions <;>
        simp [openIf, active, Context.openIf, Except.map, Except.mapError, asked]

theorem changeByName_eq (args : Text) (change : Context → Text → Context) :
    changeByName args change = atomically fun context =>
      ((Directive.singleName args).mapError .definition).map fun name =>
        (change context name, ()) := by
  refine ext_run fun context => ?_
  cases read : Directive.singleName args <;>
    simp [changeByName, read, Except.map, Except.mapError]

theorem elif_eq (test : Condition.Test) :
    elif test = atomically fun context =>
      ((context.elif test).mapError Fault.ofDirective).map (·, ()) := by
  refine ext_run fun ⟨definitions, frames⟩ => ?_
  cases frames with
  | nil => simp [elif, Context.elif, Except.map, Except.mapError, Fault.ofDirective]
  | cons top outer =>
      cases late : top.elseSeen with
      | true =>
          simp [elif, Context.elif, Except.map, Except.mapError, Fault.ofDirective, late]
      | false =>
          cases awaits : top.awaitsCondition with
          | false => simp [elif, Context.elif, Except.map, Except.mapError, late, awaits]
          | true =>
              cases asked : test definitions <;>
                simp [elif, Context.elif, Except.map, Except.mapError, Fault.ofDirective, late,
                  awaits, asked]

theorem otherwise_eq :
    otherwise = atomically fun context =>
      (context.otherwise.mapError .structural).map (·, ()) := by
  refine ext_run fun ⟨definitions, frames⟩ => ?_
  cases frames with
  | nil => simp [otherwise, Context.otherwise, Except.map, Except.mapError]
  | cons top outer =>
      cases late : top.elseSeen <;>
        simp [otherwise, Context.otherwise, Except.map, Except.mapError, late]

/-- Without a chain there is nothing to close, so the check may come after it. -/
theorem endif_eq :
    endif = atomically fun context => (context.endif.mapError .structural).map (·, ()) := by
  refine ext_run fun ⟨definitions, frames⟩ => ?_
  cases frames <;> simp [endif, Context.endif, Except.map, Except.mapError]

theorem define_eq (args : Text) :
    define args = atomically fun context =>
      ((Definition.parse args).mapError .definition).map fun definition =>
        (context.define definition, ()) := by
  refine ext_run fun context => ?_
  cases read : Definition.parse args <;>
    simp [define, read, Except.map, Except.mapError, Context.define, Context.undefine,
      Definitions.define, Definitions.undefine, Table.insert_erase]

theorem apply_eq (passLimit : Nat) (directive : Directive) :
    apply passLimit directive = atomically fun context =>
      (context.apply passLimit directive).mapError Fault.ofDirective := by
  refine ext_run fun context => ?_
  obtain ⟨keyword, args⟩ := directive
  cases keyword with
  | ifExpr =>
      cases opened : context.openIf (Context.test passLimit args) <;>
        simp [apply, openIf_eq, Context.apply, opened, Except.map, Except.mapError,
          Fault.ofDirective]
  | ifdef | ifndef =>
      cases read : Directive.singleName args <;>
        simp [apply, changeByName_eq, Context.apply, read, Except.map, Except.mapError,
          Fault.ofDirective]
  | elif =>
      cases moved : context.elif (Context.test passLimit args) <;>
        simp [apply, elif_eq, Context.apply, moved, Except.map, Except.mapError,
          Fault.ofDirective]
  | otherwise =>
      cases moved : context.otherwise <;>
        simp [apply, otherwise_eq, Context.apply, moved, Except.map, Except.mapError,
          Fault.ofDirective]
  | endif =>
      cases moved : context.endif <;>
        simp [apply, endif_eq, Context.apply, moved, Except.map, Except.mapError,
          Fault.ofDirective]
  | define =>
      cases active : context.isActive <;> cases read : Definition.parse args <;>
        simp [apply, define_eq, Context.apply, active, read, Except.map, Except.mapError,
          Fault.ofDirective]
  | undef =>
      cases active : context.isActive <;> cases read : Directive.singleName args <;>
        simp [apply, changeByName_eq, Context.apply, active, read, Except.map, Except.mapError,
          Fault.ofDirective]
  | includeFile =>
      cases active : context.isActive <;> simp [apply, Context.apply, active, Except.mapError]

/-- Every item is applied as a whole or not at all. -/
theorem perform_eq (passLimit : Nat) (content : Content) :
    perform passLimit content = atomically fun context => context.step passLimit content := by
  refine ext_run fun context => ?_
  cases content with
  | text written inComment =>
      cases active : context.isActive with
      | false => simp [perform, Context.step, active]
      | true =>
          cases expanded : context.expandLine passLimit written inComment <;>
            simp [perform, Context.step, active, expanded, Except.map, Except.mapError]
  | passThrough written => simp [perform, Context.step]
  | directive directive => rw [perform, apply_eq]; rfl
  | unknown keyword => rfl

/-! ## Runs -/

/-- Takes items one after the other. -/
def performAll (passLimit : Nat) : List Item → InPlace ProcessError (List Text)
  | [] => return []
  | item :: rest => do
      let emitted ← (perform passLimit item.content).adaptExcept (ProcessError.mk item.line)
      return emitted ++ (← performAll passLimit rest)

/-- Preprocesses lines. -/
def process (passLimit : Nat) (lines : List Text) : InPlace ProcessError (List Text) := do
  let items := Item.scan lines
  let output ← performAll passLimit items
  ofExcept ((← get).finish.mapError fun error => ⟨Context.endLine items, .structural error⟩)
  return output

/-- An effect on the context as what a computation comes to. -/
def outcome (effect : Effect Context) : EStateM.Result ProcessError Context (List Text) :=
  match effect.result with
  | .error error => .error error effect.state
  | .ok output => .ok output effect.state

theorem run_performAll (passLimit : Nat) (items : List Item) (context : Context) :
    (performAll passLimit items).run context = outcome (context.advance passLimit items) := by
  induction items generalizing context with
  | nil => rfl
  | cons item rest induction =>
      rw [performAll, Context.advance_cons]
      cases stepped : context.step passLimit item.content with
      | error fault => simp [perform_eq, stepped, outcome, Effect.stop]
      | ok next =>
          have later := induction next.1
          rcases ran : Context.advance passLimit rest next.1 with ⟨state, error | output⟩ <;>
            simp [perform_eq, stepped, later, ran, outcome, Effect.after, Except.map]

/-- The context is the same as if the items before a failing one were all there are. -/
theorem run_process (passLimit : Nat) (lines : List Text) (context : Context) :
    (process passLimit lines).run context = outcome (context.process passLimit lines).effect := by
  rw [Context.process, Context.effect_processItems, process]
  rcases ran : context.advance passLimit (Item.scan lines) with ⟨after, error | output⟩
  · simp [run_performAll, ran, outcome, Effect.andThen]
  · cases closed : after.finish <;>
      simp [run_performAll, ran, outcome, Effect.andThen, Context.checkClosed, closed,
        Except.mapError, Effect.idle, Effect.stop, Effect.after, Except.map]

end InPlace

namespace Context

/-- Where lines cannot be preprocessed, there are two ways. Either an item fails: the context is
what the items before it make of it, the item does nothing to it, and the error has the number of
the first line that the item is read from. Or all items are applied and chains are open at the end,
those of earlier lines included: the error has their number, and that of the line where the last
item begins. -/
theorem failure_of_process {context : Context} {passLimit : Nat} {lines : List Text}
    {error : ProcessError} (failed : (context.process passLimit lines).result = .error error) :
    let after := (context.process passLimit lines).context
    (InPlace.process passLimit lines).run context = .error error after ∧
      ((∃ earlier item later output, Item.scan lines = earlier ++ item :: later ∧
          context.advance passLimit earlier = ⟨after, .ok output⟩ ∧
          (InPlace.perform passLimit item.content).run after = .error error.fault after ∧
          error.line = item.line ∧ Item.ReadFrom lines earlier item) ∨
        (∃ output, context.advance passLimit (Item.scan lines) = ⟨after, .ok output⟩ ∧
          after.frames ≠ [] ∧ error.fault = .structural (.unterminated after.frames.length) ∧
          ((Item.scan lines = [] ∧ error.line = 0) ∨
            ∃ earlier last, Item.scan lines = earlier ++ [last] ∧ error.line = last.line ∧
              Item.ReadFrom lines earlier last))) := by
  intro after
  have effect_eq : (context.process passLimit lines).effect = ⟨after, .error error⟩ :=
    congrArg (Effect.mk after) failed
  refine ⟨?_, ?_⟩
  · rw [InPlace.run_process, effect_eq]
    rfl
  · rw [process, effect_processItems] at effect_eq
    rcases ran : context.advance passLimit (Item.scan lines) with ⟨state, inner | output⟩
    · left
      rw [ran] at effect_eq
      obtain ⟨rfl, same⟩ := Effect.mk.inj effect_eq
      obtain rfl := Except.error.inj same
      obtain ⟨earlier, item, later, output, split, passed, refused, number⟩ :=
        exists_of_advance_eq_error ran
      refine ⟨earlier, item, later, output, split, passed, ?_, number,
        Item.readFrom_of_scan_eq_append split⟩
      rw [InPlace.perform_eq, InPlace.run_atomically, refused]
    · right
      rw [ran] at effect_eq
      obtain ⟨rfl, left_open, rfl⟩ := eq_unterminated_of_checkClosed effect_eq
      refine ⟨output, rfl, left_open, rfl, ?_⟩
      rcases endLine_cases (Item.scan lines) with ⟨none, number⟩ | ⟨earlier, last, split, number⟩
      · exact .inl ⟨none, number⟩
      · exact .inr ⟨earlier, last, split, number, Item.readFrom_of_scan_eq_append split⟩

/-- A name that is none stands on the second line of a directive, inside a chain and behind a
comment. The session goes on with the chain and the definition in place, and ends with the chain
open. -/
theorem failure_of_process_lamp :
    let lines := ["#define LAMP 1", "#ifdef LAMP", "/* lamp", "*/ int a;", "#undef \\", "LAMP+",
      "#endif"].map String.toList
    let after := (empty.process 8 lines).context
    let error : ProcessError := ⟨5, .definition (.invalidName "LAMP+".toList)⟩
    let next := ["int b = LAMP;".toList]
    let later := (after.process 8 next).context
    (empty.process 8 lines).result = .error error ∧
      (∃ earlier item rest output, Item.scan lines = earlier ++ item :: rest ∧
        empty.advance 8 earlier = ⟨after, .ok output⟩ ∧
        (InPlace.perform 8 item.content).run after = .error error.fault after ∧ item.line = 5) ∧
      after.frames = [.opened true] ∧ after.definitions.contains "LAMP".toList = true ∧
      (InPlace.process 8 next).run after = .error ⟨1, .structural (.unterminated 1)⟩ later := by
  intro lines after error next later
  have failed : (empty.process 8 lines).result = .error error := by decide +kernel
  have unclosed : (after.process 8 next).result = .error ⟨1, .structural (.unterminated 1)⟩ := by
    decide +kernel
  refine ⟨failed, ?_, by decide +kernel, by decide +kernel, (failure_of_process unclosed).1⟩
  rcases (failure_of_process failed).2 with
    ⟨earlier, item, rest, output, split, passed, refused, number, -⟩ | ⟨-, -, -, absurd, -⟩
  · exact ⟨earlier, item, rest, output, split, passed, refused, number.symm⟩
  · contradiction

end Context

end GlslBuild
