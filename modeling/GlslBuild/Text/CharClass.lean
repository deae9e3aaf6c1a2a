/-!
# Character classes

A property of characters given by a table of ranges of code points.
-/

namespace GlslBuild

/-- A set of code points: ranges, each with its first and its last member. -/
abbrev CharClass := List (Nat × Nat)

/-- The character lies in one of the ranges. -/
def CharClass.contains (ranges : CharClass) (char : Char) : Bool :=
  ranges.any fun (first, last) => first ≤ char.toNat && char.toNat ≤ last

@[simp] theorem CharClass.contains_iff (ranges : CharClass) (char : Char) :
    ranges.contains char = true ↔
      ∃ range ∈ ranges, range.1 ≤ char.toNat ∧ char.toNat ≤ range.2 := by
  simp [CharClass.contains]

end GlslBuild
