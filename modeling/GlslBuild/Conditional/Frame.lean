/-!
# Conditional chains

A chain runs from the directive that opens it to its end and has one branch after another. A frame
says how far an open chain has come: at most one of its branches is ever taken.
-/

namespace GlslBuild

/-- How far a chain has come. -/
inductive Progress where
  /-- No branch was taken so far, and the current one is left out. -/
  | seeking
  /-- The current branch is taken. -/
  | taking
  /-- The current branch and all that follow are left out. -/
  | finished
  deriving DecidableEq, Repr

/-- An open chain. -/
structure Frame where
  progress : Progress
  elseSeen : Bool
  deriving DecidableEq, Repr

namespace Frame

/-- The frame of a chain opened where text is kept, by whether its first branch is taken. -/
def opened (holds : Bool) : Frame := ⟨if holds then .taking else .seeking, false⟩

/-- The frame of a chain opened where text is left out: none of its branches can be taken. -/
def dead : Frame := ⟨.finished, false⟩

/-- The current branch is taken. -/
def isTaking (frame : Frame) : Bool := frame.progress == .taking

/-- A further branch would be taken if its condition held. -/
def awaitsCondition (frame : Frame) : Bool := frame.progress == .seeking && !frame.elseSeen

/-- The frame with no branch left to take. -/
def finish (frame : Frame) : Frame := ⟨.finished, frame.elseSeen⟩

/-- The frame in its branch for all other cases. -/
def otherwise (frame : Frame) : Frame :=
  ⟨if frame.progress = .seeking then .taking else .finished, true⟩

@[simp] theorem isTaking_opened (holds : Bool) : (opened holds).isTaking = holds := by
  cases holds <;> rfl

@[simp] theorem isTaking_dead : dead.isTaking = false := rfl

@[simp] theorem awaitsCondition_dead : dead.awaitsCondition = false := rfl

end Frame

end GlslBuild
