import GlslBuild.Proofs.Expansion.Token

/-!
# Names of parameters

A template means the same under other names of its parameters, whatever the arguments say. All
parameters are replaced at once, each token of the body on its own, so an argument is put in as it
is: a name in it is no parameter any more, and neither does it matter where its ends come to stand.
-/

namespace GlslBuild.Template

/-- The function takes each of the names to the text at the same place in the list of values, and
everything else to itself. -/
structure Assigns (names values : List Text) (function : Text → Text) : Prop where
  listed : ∀ pair ∈ names.zip values, function pair.1 = pair.2
  other : ∀ name, name ∉ names → function name = name

/-- The second template has the names as its parameters, and its body is that of the first one with
the tokens that are parameters renamed. -/
def Renamed (template : Template) (names : List Text) (renamed : Template) : Prop :=
  renamed.params = names ∧ ∃ function, Assigns template.params names function ∧
    Text.Replaced function [] template.body renamed.body

variable {template : Template} {names values : List Text}

/-! ## Assignments -/

namespace Assigns

variable {function : Text → Text}

theorem getElem {index : Nat} (assigns : Assigns names values function)
    (inside : index < names.length) (inside_values : index < values.length) :
    function names[index] = values[index] := by
  have both : index < (names.zip values).length := by
    rw [List.length_zip]
    omega
  have listed := assigns.listed _ (List.getElem_mem both)
  rwa [List.getElem_zip] at listed

/-- With a value for every name there is only one assignment. -/
theorem unique {same : Text → Text} (assigns : Assigns names values function)
    (other_assigns : Assigns names values same) (enough : values.length = names.length) :
    function = same := by
  funext name
  by_cases member : name ∈ names
  · obtain ⟨index, inside, rfl⟩ := List.getElem_of_mem member
    rw [assigns.getElem inside (by omega), other_assigns.getElem inside (by omega)]
  · rw [assigns.other name member, other_assigns.other name member]

theorem isIdentifier (assigns : Assigns names values function)
    (enough : values.length = names.length)
    (identifiers : ∀ value ∈ values, Text.isIdentifier value = true) (name : Text)
    (identifier : Text.isIdentifier name = true) :
    Text.isIdentifier (function name) = true := by
  by_cases member : name ∈ names
  · obtain ⟨index, inside, rfl⟩ := List.getElem_of_mem member
    rw [assigns.getElem inside (by omega)]
    exact identifiers _ (List.getElem_mem _)
  · rwa [assigns.other name member]

end Assigns

theorem lookup_zip_of_mem (distinct : names.Nodup) {pair : Text × Text}
    (member : pair ∈ names.zip values) : (names.zip values).lookup pair.1 = some pair.2 := by
  induction names generalizing values with
  | nil => contradiction
  | cons first names induction =>
      cases values with
      | nil => contradiction
      | cons value values =>
          obtain ⟨absent, distinct⟩ := List.nodup_cons.mp distinct
          rw [List.zip_cons_cons, List.mem_cons] at member
          rw [List.zip_cons_cons]
          rcases member with rfl | later
          · exact List.lookup_cons_self
          · have other : pair.1 ≠ first := by
              rintro rfl
              exact absent (List.of_mem_zip later).1
            rw [List.lookup_cons, beq_false_of_ne other]
            exact induction distinct later

/-- The identifiers of a body are assigned the arguments. -/
theorem assigns_argumentFor (distinct : template.params.Nodup) (arguments : Arguments) :
    Assigns template.params arguments (template.argumentFor arguments) where
  listed pair member := by rw [argumentFor, lookup_zip_of_mem distinct member, Option.getD_some]
  other name absent := by
    have unlisted : (template.params.zip arguments).lookup name = none := by
      rw [List.lookup_eq_none_iff]
      rintro ⟨param, argument⟩ member
      rw [bne_iff_ne]
      rintro rfl
      exact absent (List.of_mem_zip member).1
    rw [argumentFor, unlisted, Option.getD_none]

/-! ## Invocations -/

/-- As many arguments are counted as are given, but for the empty one between parentheses that a
template without parameters is called with. -/
theorem length_eq_of_countArguments {arguments : Arguments}
    (counted : template.countArguments arguments = template.params.length) :
    arguments.length = template.params.length ∨ template.params = [] := by
  rw [countArguments] at counted
  split at counted
  · exact .inr (List.eq_nil_of_length_eq_zero counted.symm)
  · exact .inl counted

/-- How many arguments are counted depends on the number of the parameters. -/
theorem countArguments_congr {renamed : Template}
    (length_eq : renamed.params.length = template.params.length) (arguments : Arguments) :
    renamed.countArguments arguments = template.countArguments arguments := by
  have empty : renamed.params.isEmpty = template.params.isEmpty := by
    rw [Bool.eq_iff_iff, List.isEmpty_iff_length_eq_zero, List.isEmpty_iff_length_eq_zero,
      length_eq]
  rw [countArguments, countArguments, empty]

/-- A parameter is assigned the same argument under its new name. -/
theorem argumentFor_argumentFor {renamed : Template} {arguments : Arguments}
    (length_eq : renamed.params.length = template.params.length)
    (distinct : template.params.Nodup) (different : renamed.params.Nodup)
    (given : arguments.length = template.params.length ∨ template.params = []) {name : Text}
    (fresh : name ∈ renamed.params → name ∈ template.params) :
    renamed.argumentFor arguments (template.argumentFor renamed.params name) =
      template.argumentFor arguments name := by
  have renames := assigns_argumentFor distinct renamed.params
  have fills := assigns_argumentFor distinct arguments
  have fills_renamed := assigns_argumentFor different arguments
  by_cases param : name ∈ template.params
  · obtain ⟨index, inside, rfl⟩ := List.getElem_of_mem param
    have some_params : template.params ≠ [] := List.ne_nil_of_mem param
    have enough := given.resolve_right some_params
    rw [renames.getElem inside (by omega), fills_renamed.getElem (by omega) (by omega),
      fills.getElem inside (by omega)]
  · rw [renames.other name param, fills.other name param,
      fills_renamed.other name fun member => param (fresh member)]

/-- A template with distinct parameters can be given other names for them, distinct identifiers that
are no tokens of its body unless they name parameters already. It is then invoked with the same
result: it fails for another number of arguments than it has parameters, and else each token of the
body that is a parameter gives way to its argument, as it is, before markers are pasted. -/
theorem invoke_renamed (distinct : template.params.Nodup)
    (length_eq : names.length = template.params.length) (different : names.Nodup)
    (identifiers : ∀ name ∈ names, Text.isIdentifier name = true)
    (fresh : ∀ name ∈ names, Text.HasToken template.body name → name ∈ template.params) :
    (∃ renamed, Renamed template names renamed) ∧
      ∀ name arguments,
        (∀ renamed, Renamed template names renamed →
          renamed.invoke name arguments = template.invoke name arguments) ∧
        (template.countArguments arguments ≠ template.params.length →
          template.invoke name arguments = .error (.arityMismatch name template.params.length
            (template.countArguments arguments))) ∧
        (template.countArguments arguments = template.params.length →
          ∃ function filled, Assigns template.params arguments function ∧
            Text.Replaced function [] template.body filled ∧
            template.invoke name arguments = .ok (paste filled)) := by
  have renames := assigns_argumentFor distinct names
  refine ⟨⟨⟨names, _⟩, rfl, _, renames, Text.replaced_iff.mpr rfl⟩, fun name arguments => ?_⟩
  refine ⟨?same, ?_, ?_⟩
  case same =>
    rintro renamed ⟨rfl, function, assigns, replaced⟩
    have body_eq := Text.replaced_iff.mp replaced
    rw [assigns.unique renames length_eq] at body_eq
    rw [invoke, invoke, countArguments_congr length_eq, length_eq]
    split
    · next counted =>
        have given := length_eq_of_countArguments counted
        have filled := Text.mapIdentifiers_congr fun token occurs =>
          argumentFor_argumentFor length_eq distinct different given
            fun member => fresh token member occurs
        rw [body_eq, Text.mapIdentifiers_mapIdentifiers
          (renames.isIdentifier length_eq identifiers), filled]
    · rfl
  · intro other
    exact invoke_eq_error_iff.mpr ⟨other, rfl⟩
  · intro counted
    refine ⟨_, _, assigns_argumentFor distinct arguments, Text.replaced_iff.mpr rfl, ?_⟩
    rw [invoke, if_pos counted]

/-- A new name that was the other parameter, arguments that name parameters and hold a marker, and a
parameter next to a letter of another script. -/
theorem invoke_renamed_swapped :
    let template : Template := ⟨["x".toList, "y".toList], "x ## y_ + éx y".toList⟩
    let names := ["y".toList, "z".toList]
    let renamed : Template := ⟨names, "y ## y_ + éx z".toList⟩
    let arguments := ["y".toList, "x ## z".toList]
    template.params.Nodup ∧ names.length = template.params.length ∧ names.Nodup ∧
      (∀ name ∈ names, Text.isIdentifier name = true) ∧
      (∀ name ∈ names, Text.HasToken template.body name → name ∈ template.params) ∧
      Renamed template names renamed ∧
      renamed.invoke "GLOW".toList arguments = template.invoke "GLOW".toList arguments ∧
      template.invoke "GLOW".toList arguments = .ok "yy_ + éx xz".toList ∧
      template.invoke "GLOW".toList names.tail = .error (.arityMismatch "GLOW".toList 2 1) := by
  intro template names renamed arguments
  have distinct : template.params.Nodup := by decide
  have length_eq : names.length = template.params.length := rfl
  have different : names.Nodup := by decide
  have identifiers : ∀ name ∈ names, Text.isIdentifier name = true := by decide
  have fresh : ∀ name ∈ names, Text.HasToken template.body name → name ∈ template.params := by
    intro name member
    rcases List.mem_pair.mp member with rfl | rfl
    · exact fun _ => by decide
    · rintro ⟨before, after, split, -⟩
      have inside : 'z' ∈ template.body := by simp [split]
      exact absurd inside (by decide)
  have is_renamed : Renamed template names renamed :=
    ⟨rfl, _, assigns_argumentFor distinct names, Text.replaced_iff.mpr (by decide +kernel)⟩
  obtain ⟨-, invoked⟩ := invoke_renamed distinct length_eq different identifiers fresh
  have refused := (invoked "GLOW".toList names.tail).2.1 (by decide)
  exact ⟨distinct, length_eq, different, identifiers, fresh, is_renamed,
    (invoked "GLOW".toList arguments).1 renamed is_renamed, by decide +kernel, refused⟩

end GlslBuild.Template
