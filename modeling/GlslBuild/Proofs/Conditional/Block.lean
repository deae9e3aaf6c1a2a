import GlslBuild.Conditional.Run

/-!
# Blocks

Well nested items as a tree: a block is a sequence of chains and of items without a part in any. It
has a meaning that knows of no frames. A chain asks for its conditions one after the other up to the
first that holds, and means what the block after this one means.
-/

namespace GlslBuild

/-- What a run leads to: the state at its end, and its output lines or what stopped it. -/
structure Effect (State : Type) where
  state : State
  result : Except ProcessError (List Text)

namespace Effect

variable {State : Type}

/-- The state stays, and nothing comes of it. -/
def idle (state : State) : Effect State := ⟨state, .ok []⟩

/-- The state stays, and the run stops at a line. -/
def stop (line : Nat) (fault : Fault) (state : State) : Effect State :=
  ⟨state, .error ⟨line, fault⟩⟩

/-- The effect with lines in front of its output. -/
def after (emitted : List Text) (effect : Effect State) : Effect State :=
  ⟨effect.state, effect.result.map (emitted ++ ·)⟩

/-- One effect after another, unless the first one failed. -/
def andThen (first : Effect State) (next : State → Effect State) : Effect State :=
  match first.result with
  | .error _ => first
  | .ok emitted => (next first.state).after emitted

/-- Asks for a condition, and goes on in one of two ways. -/
def choose (line : Nat) (test : Condition.Test)
    (whenTrue whenFalse : Definitions → Effect Definitions) (definitions : Definitions) :
    Effect Definitions :=
  match test definitions with
  | .error error => .stop line (.definition error) definitions
  | .ok true => whenTrue definitions
  | .ok false => whenFalse definitions

@[simp] theorem after_nil (effect : Effect State) : effect.after [] = effect := by
  obtain ⟨state, result⟩ := effect
  cases result <;> rfl

@[simp] theorem idle_andThen (state : State) (next : State → Effect State) :
    (idle state).andThen next = next state :=
  after_nil (next state)

@[simp] theorem andThen_idle (effect : Effect State) : effect.andThen idle = effect := by
  obtain ⟨state, result⟩ := effect
  cases result <;> simp [andThen, after, idle, Except.map]

theorem andThen_after (emitted : List Text) (first : Effect State)
    (next : State → Effect State) :
    (first.after emitted).andThen next = (first.andThen next).after emitted := by
  obtain ⟨state, result⟩ := first
  cases result with
  | error error => rfl
  | ok lines =>
      simp only [after, andThen, Except.map]
      cases (next state).result with
      | error error => rfl
      | ok more => simp

end Effect

/-- An item that has no part in a chain. -/
inductive Leaf where
  | text (written : Text) (inComment : Bool)
  | passThrough (written : Text)
  | define (args : Text)
  | undef (args : Text)
  | includeFile (args : Text)

namespace Leaf

/-- The leaf as an item has it. -/
def content : Leaf → Content
  | .text written inComment => .text written inComment
  | .passThrough written => .passThrough written
  | .define args => .directive ⟨.define, args⟩
  | .undef args => .directive ⟨.undef, args⟩
  | .includeFile args => .directive ⟨.includeFile, args⟩

/-- The definitions after a leaf and the lines that it gives. -/
def perform (passLimit : Nat) (definitions : Definitions) :
    Leaf → Except Fault (Definitions × List Text)
  | .text written inComment =>
      ((Context.expandLine ⟨definitions, []⟩ passLimit written inComment).mapError .definition).map
        fun expanded => (definitions, [expanded])
  | .passThrough written => .ok (definitions, [written])
  | .define args =>
      ((Definition.parse args).mapError .definition).map fun definition =>
        (definitions.define definition, [])
  | .undef args =>
      ((Directive.singleName args).mapError .definition).map fun name =>
        (definitions.undefine name, [])
  | .includeFile args => .ok (definitions, [Directive.toLine ⟨.includeFile, args⟩])

/-- What a leaf on a line means. -/
def interpret (passLimit line : Nat) (leaf : Leaf) (definitions : Definitions) :
    Effect Definitions :=
  match leaf.perform passLimit definitions with
  | .error fault => .stop line fault definitions
  | .ok (next, emitted) => (Effect.idle next).after emitted

end Leaf

/-- What opens a chain. The names that are tested are identifiers. -/
inductive Opening where
  | condition (expression : Text)
  | defined (name : Text) (valid : Text.isIdentifier name = true)
  | undefined (name : Text) (valid : Text.isIdentifier name = true)

namespace Opening

/-- The directive that opens a chain so. -/
def directive : Opening → Directive
  | .condition expression => ⟨.ifExpr, expression⟩
  | .defined name _ => ⟨.ifdef, name⟩
  | .undefined name _ => ⟨.ifndef, name⟩

/-- The condition of the first block. -/
def test (passLimit : Nat) : Opening → Condition.Test
  | .condition expression => Context.test passLimit expression
  | .defined name _ => fun definitions => .ok (definitions.contains name)
  | .undefined name _ => fun definitions => .ok !definitions.contains name

end Opening

mutual

/-- Well nested items. -/
inductive Block where
  | nil
  | plain (line : Nat) (leaf : Leaf) (rest : Block)
  | chain (line : Nat) (opening : Opening) (body : Block) (tail : Tail) (rest : Block)

/-- A chain from the end of one of its blocks on: further blocks with conditions, possibly one for
all other cases, and the end. -/
inductive Tail where
  | elif (line : Nat) (expression : Text) (body : Block) (rest : Tail)
  | otherwise (line : Nat) (args : Text) (body : Block) (endLine : Nat) (endArgs : Text)
  | endif (line : Nat) (args : Text)

end

mutual

/-- The items of a block in order. -/
def Block.items : Block → List Item
  | .nil => []
  | .plain line leaf rest => ⟨line, leaf.content⟩ :: rest.items
  | .chain line opening body tail rest =>
      (⟨line, .directive opening.directive⟩ :: (body.items ++ tail.items)) ++ rest.items

/-- The items of the rest of a chain in order. -/
def Tail.items : Tail → List Item
  | .elif line expression body rest =>
      ⟨line, .directive ⟨.elif, expression⟩⟩ :: (body.items ++ rest.items)
  | .otherwise line args body endLine endArgs =>
      ⟨line, .directive ⟨.otherwise, args⟩⟩ ::
        (body.items ++ [⟨endLine, .directive ⟨.endif, endArgs⟩⟩])
  | .endif line args => [⟨line, .directive ⟨.endif, args⟩⟩]

end

mutual

/-- What a block means. -/
def Block.interpret (passLimit : Nat) : Block → Definitions → Effect Definitions
  | .nil, definitions => .idle definitions
  | .plain line leaf rest, definitions =>
      (leaf.interpret passLimit line definitions).andThen (rest.interpret passLimit)
  | .chain line opening body tail rest, definitions =>
      (Effect.choose line (opening.test passLimit) (body.interpret passLimit)
        (tail.interpret passLimit) definitions).andThen (rest.interpret passLimit)

/-- What the rest of a chain means if no condition held so far. -/
def Tail.interpret (passLimit : Nat) : Tail → Definitions → Effect Definitions
  | .elif line expression body rest, definitions =>
      Effect.choose line (Context.test passLimit expression) (body.interpret passLimit)
        (rest.interpret passLimit) definitions
  | .otherwise _ _ body _ _, definitions => body.interpret passLimit definitions
  | .endif _ _, definitions => .idle definitions

end

end GlslBuild
