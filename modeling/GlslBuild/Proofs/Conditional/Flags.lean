import GlslBuild.Conditional.Context
import Mathlib.Data.List.Basic

/-!
# Flags of chains

An open chain can be kept as three flags: its current branch is taken, one of its branches was
taken, and it is in its branch for all other cases. A chain that is opened where text is left out
has the second flag set from the beginning, so that none of its conditions is run. Calls change such
flags in place, and a call that fails leaves behind what it has changed by then. Still a call does
to the flags of frames what it does to the frames, and it runs a condition exactly where the outcome
depends on it.
-/

namespace GlslBuild.Chain

/-! ## Flags -/

/-- An open chain by its flags. -/
structure Flags where
  active : Bool
  hadActive : Bool
  hadElse : Bool
  deriving DecidableEq, Repr

namespace Flags

/-- The flags of a chain opened where text is kept. -/
def opened (active : Bool) : Flags := ⟨active, active, false⟩

/-- The flags of a chain opened where text is left out. -/
def dead : Flags := ⟨false, true, false⟩

/-- The flags in a further branch. -/
def elif (flags : Flags) (active : Bool) : Flags :=
  { flags with active, hadActive := flags.hadActive || active }

/-- The flags in the branch for all other cases. -/
def otherwise (flags : Flags) : Flags := ⟨!flags.hadActive, true, true⟩

end Flags

/-- The flags of the open chains, those of the innermost one first, and the number of conditions
that were run. -/
structure Board where
  definitions : Definitions
  chains : List Flags
  asked : Nat

namespace Board

/-- The board without open chains. -/
def start (definitions : Definitions) : Board := ⟨definitions, [], 0⟩

/-- Text is kept. -/
def isActive (board : Board) : Bool := board.chains.all Flags.active

/-- What changes a board, and leaves it as it is by then if it fails. -/
abbrev Action : Type → Type := EStateM DirectiveError Board

/-- Runs a condition. -/
def ask (test : Condition.Test) : Action Bool := do
  modify fun board => { board with asked := board.asked + 1 }
  match test (← get).definitions with
  | .ok holds => return holds
  | .error error => throw (.definition error)

/-- Puts a chain on the board. -/
def push (flags : Flags) : Action Unit :=
  modify fun board => { board with chains := flags :: board.chains }

/-- Replaces the flags of the innermost chain. -/
def setTop (flags : Flags) : Action Unit :=
  modify fun board => { board with chains := flags :: board.chains.tail }

/-- Opens a chain with a condition. -/
def openIf (test : Condition.Test) : Action Unit := do
  if (← get).isActive then push (.opened (← ask test)) else push .dead

/-- Opens a chain by whether a name is defined. -/
def openIfDefined (name : Text) (expected : Bool) : Action Unit := do
  let board ← get
  if board.isActive then push (.opened (board.definitions.contains name == expected))
  else push .dead

/-- Goes on to a further branch, whose condition is only run if no branch was taken. -/
def elif (test : Condition.Test) : Action Unit := do
  match (← get).chains with
  | [] => throw (.structural .unmatchedElif)
  | top :: _ =>
      if top.hadElse then throw (.structural .elifAfterElse)
      let active ← if top.hadActive then pure false else ask test
      setTop (top.elif active)

/-- Goes on to the branch for all other cases. -/
def otherwise : Action Unit := do
  match (← get).chains with
  | [] => throw (.structural .unmatchedElse)
  | top :: _ =>
      if top.hadElse then throw (.structural .duplicateElse)
      setTop top.otherwise

/-- Closes the innermost chain. -/
def endif : Action Unit := do
  match (← get).chains with
  | [] => throw (.structural .unmatchedEndif)
  | _ :: outer => modify fun board => { board with chains := outer }

@[simp] theorem run_push (flags : Flags) (board : Board) :
    (push flags).run board = .ok () { board with chains := flags :: board.chains } := rfl

@[simp] theorem run_setTop (flags : Flags) (board : Board) :
    (setTop flags).run board = .ok () { board with chains := flags :: board.chains.tail } := rfl

@[simp] theorem run_ask (test : Condition.Test) (board : Board) :
    (ask test).run board =
      match test board.definitions with
      | .ok holds => .ok holds { board with asked := board.asked + 1 }
      | .error error => .error (.definition error) { board with asked := board.asked + 1 } := by
  cases answer : test board.definitions with
  | ok holds => simp [ask, answer]
  | error error =>
      simp [ask, answer]
      rfl

theorem run_openIf (test : Condition.Test) (board : Board) :
    (openIf test).run board =
      if board.isActive then
        match test board.definitions with
        | .ok holds => .ok () ⟨board.definitions, .opened holds :: board.chains, board.asked + 1⟩
        | .error error => .error (.definition error) { board with asked := board.asked + 1 }
      else .ok () { board with chains := .dead :: board.chains } := by
  cases active : board.isActive with
  | false => simp [openIf, active]
  | true => cases answer : test board.definitions <;> simp [openIf, active, answer]

theorem run_openIfDefined (name : Text) (expected : Bool) (board : Board) :
    (openIfDefined name expected).run board =
      let flags :=
        if board.isActive then Flags.opened (board.definitions.contains name == expected) else .dead
      .ok () { board with chains := flags :: board.chains } := by
  cases active : board.isActive <;> simp [openIfDefined, active]

theorem run_elif (test : Condition.Test) (definitions : Definitions) (top : Flags)
    (outer : List Flags) (asked : Nat) :
    (elif test).run ⟨definitions, top :: outer, asked⟩ =
      if top.hadElse then .error (.structural .elifAfterElse) ⟨definitions, top :: outer, asked⟩
      else if top.hadActive then .ok () ⟨definitions, top.elif false :: outer, asked⟩
      else
        match test definitions with
        | .ok holds => .ok () ⟨definitions, top.elif holds :: outer, asked + 1⟩
        | .error error => .error (.definition error) ⟨definitions, top :: outer, asked + 1⟩ := by
  cases late : top.hadElse with
  | true => simp [elif, late]
  | false =>
      cases taken : top.hadActive with
      | true => simp [elif, late, taken]
      | false => cases answer : test definitions <;> simp [elif, late, taken, answer]

theorem run_otherwise (definitions : Definitions) (top : Flags) (outer : List Flags) (asked : Nat) :
    otherwise.run ⟨definitions, top :: outer, asked⟩ =
      if top.hadElse then .error (.structural .duplicateElse) ⟨definitions, top :: outer, asked⟩
      else .ok () ⟨definitions, top.otherwise :: outer, asked⟩ := by
  cases late : top.hadElse <;> simp [otherwise, late]

end Board

/-! ## Calls -/

/-- A call about chains. Its condition may come to anything, or fail. -/
inductive Call where
  | openIf (test : Condition.Test)
  | openIfDefined (name : Text) (expected : Bool)
  | elif (test : Condition.Test)
  | otherwise
  | endif

namespace Call

/-- The call made on a board. -/
def action : Call → Board.Action Unit
  | openIf test => Board.openIf test
  | openIfDefined name expected => Board.openIfDefined name expected
  | elif test => Board.elif test
  | otherwise => Board.otherwise
  | endif => Board.endif

/-- The call made on a context. -/
def apply (context : Context) : Call → Except DirectiveError Context
  | openIf test => (context.openIf test).mapError .definition
  | openIfDefined name expected => .ok (context.openIfDefined name expected)
  | elif test => context.elif test
  | otherwise => context.otherwise.mapError .structural
  | endif => context.endif.mapError .structural

/-- The call with another condition in place of its own. -/
def withTest (test : Condition.Test) : Call → Call
  | openIf _ => openIf test
  | elif _ => elif test
  | call => call

/-- The call runs its condition on the board. -/
def asksOn (board : Board) : Call → Bool
  | openIf _ => board.isActive
  | elif _ => board.chains.head?.any fun top => !top.hadElse && !top.hadActive
  | _ => false

/-- The context after calls. One that fails changes nothing. -/
def context (definitions : Definitions) (calls : List Call) : Context :=
  calls.foldl (fun context call => (call.apply context).toOption.getD context) ⟨definitions, []⟩

end Call

/-! ## Frames and their flags -/

namespace Flags

/-- The flags of a frame. -/
def ofFrame (frame : Frame) : Flags :=
  ⟨frame.isTaking, frame.progress != .seeking, frame.elseSeen⟩

@[simp] theorem active_ofFrame (frame : Frame) : (ofFrame frame).active = frame.isTaking := rfl

@[simp] theorem hadActive_ofFrame (frame : Frame) :
    (ofFrame frame).hadActive = (frame.progress != .seeking) := rfl

@[simp] theorem hadElse_ofFrame (frame : Frame) : (ofFrame frame).hadElse = frame.elseSeen := rfl

@[simp] theorem ofFrame_dead : ofFrame .dead = dead := rfl

@[simp] theorem ofFrame_opened (holds : Bool) : ofFrame (.opened holds) = opened holds := by
  cases holds <;> rfl

/-- A chain that seeks is as if it were opened with its next condition. -/
theorem elif_ofFrame_seeking (holds : Bool) :
    (ofFrame ⟨.seeking, false⟩).elif holds = opened holds := by
  cases holds <;> rfl

end Flags

/-- The board of a context, with the number of conditions run. -/
def Board.ofContext (context : Context) (asked : Nat) : Board :=
  ⟨context.definitions, context.frames.map Flags.ofFrame, asked⟩

theorem Board.isActive_ofContext (context : Context) (asked : Nat) :
    (ofContext context asked).isActive = context.isActive := by
  rw [isActive, ofContext, List.all_map]
  rfl

namespace Call

/-- On the board of a context a call does what it does to the context, and the conditions that it
runs are counted. -/
theorem run_action_ofContext (call : Call) (context : Context) (asked : Nat) :
    call.action.run (.ofContext context asked) =
      let counted := asked + if call.asksOn (.ofContext context asked) then 1 else 0
      match call.apply context with
      | .error error => .error error (.ofContext context counted)
      | .ok next => .ok () (.ofContext next counted) := by
  obtain ⟨definitions, frames⟩ := context
  have same := Board.isActive_ofContext ⟨definitions, frames⟩ asked
  cases call with
  | openIf test =>
      rw [action, Board.run_openIf, asksOn, same]
      cases active : Context.isActive ⟨definitions, frames⟩ with
      | false =>
          simp [apply, Context.openIf, active, Board.ofContext, Context.push, Except.mapError]
      | true =>
          cases answer : test definitions <;>
            simp [apply, Context.openIf, active, answer, Board.ofContext, Context.push, Except.map,
              Except.mapError]
  | openIfDefined name expected =>
      rw [action, Board.run_openIfDefined, same]
      cases active : Context.isActive ⟨definitions, frames⟩ <;>
        simp [apply, asksOn, Context.openIfDefined, active, Board.ofContext, Context.push]
  | elif test =>
      cases frames with
      | nil => rfl
      | cons frame outer =>
          obtain ⟨progress, elseSeen⟩ := frame
          rw [action, Board.ofContext, List.map_cons, Board.run_elif]
          cases elseSeen with
          | true => rfl
          | false =>
              cases progress with
              | taking | finished => rfl
              | seeking =>
                  cases answer : test definitions <;>
                    simp [apply, asksOn, Context.elif, Frame.awaitsCondition, answer,
                      Board.ofContext, Flags.elif_ofFrame_seeking]
  | otherwise =>
      cases frames with
      | nil => rfl
      | cons frame outer =>
          obtain ⟨progress, elseSeen⟩ := frame
          cases elseSeen <;> cases progress <;> rfl
  | endif => cases frames <;> rfl

theorem asksOn_elif_ofContext (test : Condition.Test) (context : Context) (asked : Nat) :
    (elif test).asksOn (.ofContext context asked) = context.awaitsCondition := by
  obtain ⟨definitions, frames⟩ := context
  cases frames with
  | nil => rfl
  | cons frame outer =>
      obtain ⟨progress, elseSeen⟩ := frame
      cases elseSeen <;> cases progress <;> rfl

/-- A condition that is not run can be any other one. -/
theorem apply_withTest_of_not_asksOn {call : Call} {context : Context} {asked : Nat}
    (unasked : call.asksOn (.ofContext context asked) = false) (test : Condition.Test) :
    (call.withTest test).apply context = call.apply context := by
  cases call with
  | openIf own =>
      rw [asksOn, Board.isActive_ofContext] at unasked
      rw [withTest, apply, apply, Context.openIf_of_not_isActive unasked,
        Context.openIf_of_not_isActive unasked]
  | elif own =>
      rw [asksOn_elif_ofContext] at unasked
      obtain ⟨definitions, frames⟩ := context
      cases frames with
      | nil => rfl
      | cons frame outer =>
          have closed : frame.awaitsCondition = false := by
            simpa [Context.awaitsCondition] using unasked
          simp [withTest, apply, Context.elif, closed]
  | _ => rfl

/-- If a condition that is run fails, the call fails with its error. -/
theorem apply_withTest_of_asksOn {call : Call} {context : Context} {asked : Nat}
    (asks : call.asksOn (.ofContext context asked) = true) (error : DefinitionError) :
    (call.withTest fun _ => .error error).apply context = .error (.definition error) := by
  cases call with
  | openIf own =>
      rw [asksOn, Board.isActive_ofContext] at asks
      simp [withTest, apply, Context.openIf, asks, Except.map, Except.mapError]
  | elif own =>
      rw [asksOn_elif_ofContext] at asks
      obtain ⟨definitions, frames⟩ := context
      cases frames with
      | nil => contradiction
      | cons frame outer =>
          have awaits : frame.awaitsCondition = true := by
            simpa [Context.awaitsCondition] using asks
          have early : frame.elseSeen = false := by
            simpa using (Bool.and_eq_true_iff.mp awaits).2
          simp [withTest, apply, Context.elif, awaits, early]
  | _ => contradiction

end Call

end GlslBuild.Chain
