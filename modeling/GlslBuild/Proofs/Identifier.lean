import GlslBuild.Identifier
import GlslBuild.Text.Blank

/-!
# Identifiers and white space

The characters of identifiers are visible ASCII characters, so white space never splits one.
-/

namespace GlslBuild.Text

theorem toNat_of_continuesIdentifier {char : Char} (continues : continuesIdentifier char = true) :
    33 ≤ char.toNat ∧ char.toNat < 127 := by
  change ((decide (char.val ≥ 'A'.val ∧ char.val ≤ 'Z'.val) ||
    (char.val ≥ 'a'.val && char.val ≤ 'z'.val)) ||
    (char.val ≥ '0'.val && char.val ≤ '9'.val) || char == '_') = true at continues
  simp only [Bool.or_eq_true, Bool.and_eq_true, decide_eq_true_eq, beq_iff_eq, ge_iff_le,
    UInt32.le_iff_toNat_le, Char.toNat_val, Char.reduceToNat] at continues
  rcases continues with ((⟨low, high⟩ | ⟨low, high⟩) | ⟨low, high⟩) | rfl
  · omega
  · omega
  · omega
  · decide

theorem isBlank_eq_false_of_continuesIdentifier {char : Char}
    (continues : continuesIdentifier char = true) : isBlank char = false := by
  have visible := toNat_of_continuesIdentifier continues
  rw [isBlank, Bool.eq_false_iff, ne_eq, CharClass.contains_iff]
  rintro ⟨range, member, low, high⟩
  simp only [CharClass.whiteSpace, List.mem_cons, List.not_mem_nil, or_false] at member
  rcases member with rfl | rfl | rfl | rfl | rfl | rfl | rfl | rfl | rfl | rfl <;> omega

theorem continuesIdentifier_of_isAlphanum {char : Char} (alphanum : char.isAlphanum = true) :
    continuesIdentifier char = true := by
  simp [continuesIdentifier, alphanum]

theorem continuesIdentifier_of_startsIdentifier {char : Char}
    (starts : startsIdentifier char = true) : continuesIdentifier char = true := by
  rw [startsIdentifier, Bool.or_eq_true] at starts
  rw [continuesIdentifier, Char.isAlphanum, Bool.or_eq_true, Bool.or_eq_true]
  exact starts.imp_left .inl

/-- An identifier is not empty and made of characters that may continue one. -/
theorem all_of_isIdentifier {name : Text} (valid : isIdentifier name = true) :
    name ≠ [] ∧ ∀ char ∈ name, continuesIdentifier char = true := by
  cases name with
  | nil => contradiction
  | cons first rest =>
      rw [isIdentifier, Bool.and_eq_true, List.all_eq_true] at valid
      refine ⟨List.cons_ne_nil first rest, ?_⟩
      intro char member
      rcases List.mem_cons.mp member with rfl | member
      · exact continuesIdentifier_of_startsIdentifier valid.1
      · exact valid.2 char member

theorem splitOnce_eq_none {isSeparator : Char → Bool} {text : Text}
    (absent : ∀ char ∈ text, isSeparator char = false) : splitOnce isSeparator text = none := by
  induction text with
  | nil => rfl
  | cons char rest induction =>
      have first := absent char List.mem_cons_self
      have others := induction fun other member => absent other (List.mem_cons_of_mem char member)
      simp [splitOnce, first, others]

theorem splitOnce_isBlank_of_isIdentifier {name : Text} (valid : isIdentifier name = true) :
    splitOnce isBlank name = none := by
  apply splitOnce_eq_none
  intro char member
  exact isBlank_eq_false_of_continuesIdentifier ((all_of_isIdentifier valid).2 char member)

end GlslBuild.Text
