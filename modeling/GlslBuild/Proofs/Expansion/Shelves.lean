import GlslBuild.Proofs.Expansion.Vocabulary
import Mathlib.Data.List.AList
import Mathlib.Data.List.Induction
import Mathlib.Data.List.Sort

/-!
# Definitions on two shelves

Texts and templates can be kept on two shelves, each in no particular order. A definition clears its
name from both before it is put on one of them, and a name is taken from the second one only if it
is not on the first. So a name is never on both, and together they are one map in which the last
change of a name counts. Nothing that is asked of them shows in which order they are.
-/

namespace GlslBuild

/-! ## Changes -/

/-- What can be done to definitions. -/
inductive Change where
  | define (definition : Definition)
  | undefine (name : Text)

namespace Change

/-- The name that is changed. -/
def name : Change → Text
  | define definition => definition.name
  | undefine name => name

/-- What the name stands for afterwards. -/
def replacement? : Change → Option Replacement
  | define definition => some definition.replacement
  | undefine _ => none

/-- What a name stands for after changes: what the last one of it says. -/
def meaning (changes : List Change) (name : Text) : Option Replacement :=
  (changes.filter fun change => change.name == name).getLast?.bind replacement?

theorem meaning_append_singleton (changes : List Change) (change : Change) (name : Text) :
    meaning (changes ++ [change]) name =
      if name = change.name then change.replacement? else meaning changes name := by
  unfold meaning
  rw [List.filter_append]
  by_cases same : name = change.name
  · simp [same]
  · rw [if_neg same, List.filter_singleton, beq_false_of_ne (Ne.symm same)]
    simp

/-- Changes of different names can be made in any order. -/
theorem meaning_eq_of_perm {first second : List Change} (perm : first.Perm second)
    (distinct : (first.map name).Nodup) (query : Text) :
    meaning first query = meaning second query := by
  have once : (first.filter fun change => change.name == query).length ≤ 1 := by
    have counted := List.nodup_iff_count_le_one.mp distinct query
    rwa [List.count_eq_countP, List.countP_map, List.countP_eq_length_filter] at counted
  have filtered := perm.filter fun change => change.name == query
  unfold meaning
  rcases found : first.filter fun change => change.name == query with
    _ | ⟨change, _ | ⟨other, rest⟩⟩
  · rw [found] at filtered
    rw [found, List.nil_perm.mp filtered]
  · rw [found] at filtered
    rw [found, List.singleton_perm.mp filtered]
  · rw [found] at once
    simp at once

end Change

/-- The table with a change made. -/
def Definitions.take (definitions : Definitions) : Change → Definitions
  | .define definition => definitions.define definition
  | .undefine name => definitions.undefine name

/-- The table after changes. -/
def Definitions.after (changes : List Change) : Definitions :=
  changes.foldl Definitions.take Table.empty

theorem Definitions.find?_take (definitions : Definitions) (change : Change) (name : Text) :
    (definitions.take change).find? name =
      if name = change.name then change.replacement? else definitions.find? name := by
  cases change with
  | define definition => exact Table.find?_insert definitions definition.name _ name
  | undefine undefined => exact Table.find?_erase definitions undefined name

/-- In the table the last change of a name counts. -/
theorem Definitions.find?_after (changes : List Change) (name : Text) :
    (Definitions.after changes).find? name = Change.meaning changes name := by
  induction changes using List.reverseRecOn with
  | nil => rfl
  | append_singleton changes change induction =>
      rw [after, List.foldl_append, List.foldl_cons, List.foldl_nil, find?_take, ← after, induction,
        Change.meaning_append_singleton]

/-! ## Shelves -/

/-- The texts that names stand for, and the templates, each in any order. -/
structure Shelves where
  texts : AList fun _ : Text => Text
  templates : AList fun _ : Text => Template

namespace Shelves

/-- The shelves without definitions. -/
def empty : Shelves := ⟨∅, ∅⟩

/-- Clears a name from both shelves and puts its replacement on one. -/
def define (shelves : Shelves) (definition : Definition) : Shelves :=
  let texts := shelves.texts.erase definition.name
  let templates := shelves.templates.erase definition.name
  match definition.replacement with
  | .text value => ⟨texts.insert definition.name value, templates⟩
  | .template made => ⟨texts, templates.insert definition.name made⟩

/-- Takes a name from the first shelf, or from the second one if it is not there. -/
def undefine (shelves : Shelves) (name : Text) : Shelves :=
  match shelves.texts.extract name with
  | (some _, texts) => ⟨texts, shelves.templates⟩
  | (none, texts) => ⟨texts, shelves.templates.erase name⟩

/-- The shelves with a change made. -/
def take (shelves : Shelves) : Change → Shelves
  | .define definition => shelves.define definition
  | .undefine name => shelves.undefine name

/-- The shelves hold the same in another order. -/
def Shuffled (first second : Shelves) : Prop :=
  first.texts.entries.Perm second.texts.entries ∧
    first.templates.entries.Perm second.templates.entries

/-- The shelves come from changes, after each of which they may have been put in another order. -/
inductive Reached : List Change → Shelves → Prop where
  | empty : Reached [] empty
  | take {changes : List Change} {shelves later : Shelves} (change : Change)
      (reached : Reached changes shelves) (shuffled : (shelves.take change).Shuffled later) :
      Reached (changes ++ [change]) later

/-- What the shelves answer. The names of templates are put in order first. -/
def vocabulary (shelves : Shelves) : Vocabulary where
  text? name := shelves.texts.lookup name
  template? name := shelves.templates.lookup name
  contains name := (shelves.texts.lookup name).isSome || (shelves.templates.lookup name).isSome
  templateNames := shelves.templates.keys.mergeSort fun first second => !decide (second < first)
  hasTemplates := !shelves.templates.entries.isEmpty

end Shelves

/-- The text, unless it is a template. -/
def Replacement.text? : Replacement → Option Text
  | text value => some value
  | template _ => none

/-- The template, unless it is a text. -/
def Replacement.template? : Replacement → Option Template
  | text _ => none
  | template made => some made

namespace Shelves

variable {shelves later : Shelves} {meaning : Text → Option Replacement}

/-! ## The map on the shelves -/

/-- The shelves hold a map: on each of them are its replacements of one kind. -/
structure Holds (shelves : Shelves) (meaning : Text → Option Replacement) : Prop where
  texts : ∀ name, shelves.texts.lookup name = (meaning name).bind Replacement.text?
  templates : ∀ name, shelves.templates.lookup name = (meaning name).bind Replacement.template?

theorem holds_empty : Holds empty fun _ => none := ⟨fun _ => rfl, fun _ => rfl⟩

theorem lookup_erase_eq {Value : Type} (shelf : AList fun _ : Text => Value) (name query : Text) :
    (shelf.erase name).lookup query = if query = name then none else shelf.lookup query := by
  split
  · next same => rw [same, AList.lookup_erase]
  · next other => rw [AList.lookup_erase_ne other]

theorem lookup_insert_eq {Value : Type} (shelf : AList fun _ : Text => Value) (name query : Text)
    (value : Value) :
    (shelf.insert name value).lookup query =
      if query = name then some value else shelf.lookup query := by
  split
  · next same => rw [same, AList.lookup_insert]
  · next other => rw [AList.lookup_insert_ne other]

theorem Holds.define (holds : Holds shelves meaning) (definition : Definition) :
    Holds (shelves.define definition) fun name =>
      if name = definition.name then some definition.replacement else meaning name := by
  obtain ⟨name, value | made⟩ := definition <;> constructor <;> intro query <;>
    simp only [Shelves.define, lookup_insert_eq, lookup_erase_eq, holds.texts, holds.templates] <;>
    split <;> rfl

theorem eq_text_of_bind {replacement : Option Replacement} {value : Text}
    (found : replacement.bind Replacement.text? = some value) :
    replacement = some (.text value) := by
  obtain ⟨_ | _, rfl, same⟩ := Option.bind_eq_some_iff.mp found
  · rw [Option.some.inj same]
  · contradiction

/-- A name on the first shelf is not on the second, so that it is enough to take it from there. -/
theorem Holds.undefine (holds : Holds shelves meaning) (name : Text) :
    Holds (shelves.undefine name) fun query => if query = name then none else meaning query := by
  have texts_left (query : Text) : (shelves.texts.erase name).lookup query =
      (if query = name then none else meaning query).bind Replacement.text? := by
    rw [lookup_erase_eq, holds.texts]
    split <;> rfl
  rw [Shelves.undefine, AList.extract_eq_lookup_erase]
  cases found : shelves.texts.lookup name with
  | some value =>
      refine ⟨texts_left, fun query => ?_⟩
      -- The second shelf is left as it is, which is right because it does not have the name.
      have is_text := eq_text_of_bind ((holds.texts name).symm.trans found)
      rw [holds.templates]
      split
      · next same =>
          rw [same, is_text]
          rfl
      · rfl
  | none =>
      refine ⟨texts_left, fun query => ?_⟩
      rw [lookup_erase_eq, holds.templates]
      split <;> rfl

theorem Holds.take (holds : Holds shelves meaning) (change : Change) :
    Holds (shelves.take change) fun name =>
      if name = change.name then change.replacement? else meaning name := by
  cases change with
  | define definition => exact holds.define definition
  | undefine name => exact holds.undefine name

theorem Holds.of_shuffled (holds : Holds shelves meaning) (shuffled : shelves.Shuffled later) :
    Holds later meaning :=
  ⟨fun name => (AList.perm_lookup shuffled.1).symm.trans (holds.texts name),
    fun name => (AList.perm_lookup shuffled.2).symm.trans (holds.templates name)⟩

/-- After any changes the shelves hold what the last change of each name says. -/
theorem Reached.holds {changes : List Change} (reached : Reached changes shelves) :
    Holds shelves (Change.meaning changes) := by
  induction reached with
  | empty => exact holds_empty
  | take change reached shuffled induction =>
      have taken := (induction.take change).of_shuffled shuffled
      simpa only [← Change.meaning_append_singleton] using taken

/-- Every list of changes leads to shelves. -/
theorem reached_foldl (changes : List Change) : Reached changes (changes.foldl take empty) := by
  induction changes using List.reverseRecOn with
  | nil => exact .empty
  | append_singleton changes change induction =>
      rw [List.foldl_append, List.foldl_cons, List.foldl_nil]
      exact .take change induction ⟨.refl _, .refl _⟩

/-- A name is never on both shelves. -/
theorem Holds.exclusive (holds : Holds shelves meaning) (name : Text) :
    shelves.texts.lookup name = none ∨ shelves.templates.lookup name = none := by
  rw [holds.texts, holds.templates]
  rcases meaning name with _ | _ | _
  · exact .inl rfl
  · exact .inr rfl
  · exact .inl rfl

theorem Holds.contains_eq (holds : Holds shelves meaning) (name : Text) :
    shelves.vocabulary.contains name = (meaning name).isSome := by
  simp only [vocabulary, holds.texts, holds.templates]
  rcases meaning name with _ | _ | _ <;> rfl

theorem mem_templateNames_iff (shelves : Shelves) (name : Text) :
    name ∈ shelves.vocabulary.templateNames ↔ (shelves.templates.lookup name).isSome = true := by
  rw [vocabulary, List.mem_mergeSort, ← AList.mem_keys, AList.lookup_isSome]

/-- The names of templates are in increasing order, in whatever order the templates are. -/
theorem pairwise_templateNames (shelves : Shelves) :
    shelves.vocabulary.templateNames.Pairwise (· < ·) := by
  have ordered : shelves.vocabulary.templateNames.Pairwise
      fun first second => (!decide (second < first)) = true := by
    apply List.pairwise_mergeSort
    · intro first second third below above
      simp only [Bool.not_eq_true', decide_eq_false_iff_not] at below above ⊢
      exact List.not_lt.mpr (List.le_trans (List.not_lt.mp below) (List.not_lt.mp above))
    · intro first second
      simp only [Bool.or_eq_true, Bool.not_eq_true', decide_eq_false_iff_not]
      by_cases below : second < first
      · exact .inr (List.lt_asymm below)
      · exact .inl below
  have distinct : shelves.vocabulary.templateNames.Nodup :=
    (List.mergeSort_perm _ _).nodup_iff.mpr shelves.templates.keys_nodup
  refine (ordered.and distinct).imp ?_
  rintro first second ⟨not_above, different⟩
  rw [Bool.not_eq_true', decide_eq_false_iff_not] at not_above
  by_contra not_below
  exact different (Table.key_eq_of_not_lt not_below not_above)

/-! ## The vocabulary of shelves -/

theorem Holds.text?_eq {definitions : Definitions} (holds : Holds shelves definitions.find?)
    (name : Text) : shelves.vocabulary.text? name = definitions.text? name := by
  simp only [vocabulary, holds.texts, Definitions.text?]
  rcases definitions.find? name with _ | _ | _ <;> rfl

theorem Holds.template?_eq {definitions : Definitions} (holds : Holds shelves definitions.find?)
    (name : Text) : shelves.vocabulary.template? name = definitions.template? name := by
  simp only [vocabulary, holds.templates, Definitions.template?]
  rcases definitions.find? name with _ | _ | _ <;> rfl

theorem Holds.templateNames_eq {definitions : Definitions}
    (holds : Holds shelves definitions.find?) :
    shelves.vocabulary.templateNames = definitions.templateNames := by
  refine shelves.pairwise_templateNames.eq_of_mem_iff definitions.sorted_templateNames ?_
  intro name
  rw [mem_templateNames_iff, definitions.mem_templateNames_iff, ← holds.template?_eq]
  rfl

theorem hasTemplates_eq (shelves : Shelves) :
    shelves.vocabulary.hasTemplates = !shelves.vocabulary.templateNames.isEmpty := by
  simp only [vocabulary, (List.mergeSort_perm _ _).isEmpty_eq, AList.keys, List.keys,
    List.isEmpty_map]

/-- Shelves that hold what a table does have the vocabulary of the table. -/
theorem Holds.vocabulary_eq {definitions : Definitions} (holds : Holds shelves definitions.find?) :
    shelves.vocabulary = definitions.vocabulary := by
  have names_eq := holds.templateNames_eq
  refine Vocabulary.ext (funext holds.text?_eq) (funext holds.template?_eq)
    (funext holds.contains_eq) names_eq ?_
  rw [hasTemplates_eq, names_eq]
  rfl

/-- Shelves that changes led to answer as the table after the same changes. -/
theorem Reached.vocabulary_eq {changes : List Change} (reached : Reached changes shelves) :
    shelves.vocabulary = (Definitions.after changes).vocabulary := by
  have holds := reached.holds
  rw [← funext (Definitions.find?_after changes)] at holds
  exact holds.vocabulary_eq

theorem after_eq {first second : List Change}
    (same : ∀ name, Change.meaning first name = Change.meaning second name) :
    Definitions.after first = Definitions.after second := by
  ext name : 1
  rw [Definitions.find?_after, Definitions.find?_after, same]

/-- Shelves that changes led to, in whatever order they are, act as one map in which the last change
of each name counts. Other changes that lead to the same map make no difference to any result, and
changes of different names lead to the same map in any order. -/
theorem one_map_of_reached {changes : List Change} {shelves : Shelves}
    (reached : Reached changes shelves) :
    (∀ name, shelves.texts.lookup name = none ∨ shelves.templates.lookup name = none) ∧
      (∀ name, let replacement := Change.meaning changes name
        shelves.vocabulary.text? name = replacement.bind Replacement.text? ∧
          shelves.vocabulary.template? name = replacement.bind Replacement.template? ∧
          shelves.vocabulary.contains name = replacement.isSome) ∧
      shelves.vocabulary.templateNames.Pairwise (· < ·) ∧
      (∀ name, name ∈ shelves.vocabulary.templateNames ↔
        ∃ made, Change.meaning changes name = some (.template made)) ∧
      (∀ limit text, let definitions := Definitions.after changes
        shelves.vocabulary.ofText limit text = Expansion.ofText definitions limit text ∧
          shelves.vocabulary.ofCondition limit text = Expansion.ofCondition definitions limit text ∧
          shelves.vocabulary.evaluate limit text = Condition.evaluate definitions limit text) ∧
      (∀ others other, Reached others other →
        (∀ name, Change.meaning changes name = Change.meaning others name) → ∀ limit text,
          shelves.vocabulary.ofText limit text = other.vocabulary.ofText limit text ∧
            shelves.vocabulary.ofCondition limit text = other.vocabulary.ofCondition limit text ∧
            shelves.vocabulary.evaluate limit text = other.vocabulary.evaluate limit text) ∧
      ∀ others, changes.Perm others → (changes.map Change.name).Nodup →
        ∀ name, Change.meaning changes name = Change.meaning others name := by
  have holds := reached.holds
  refine ⟨holds.exclusive, ?names, shelves.pairwise_templateNames, ?templates, ?table, ?others,
    fun others perm distinct => Change.meaning_eq_of_perm perm distinct⟩
  case names =>
    exact fun name => ⟨holds.texts name, holds.templates name, holds.contains_eq name⟩
  case templates =>
    intro name
    rw [mem_templateNames_iff, holds.templates]
    rcases Change.meaning changes name with _ | _ | _ <;>
      simp [Replacement.template?]
  case table =>
    intro limit text
    rw [reached.vocabulary_eq]
    exact ⟨Vocabulary.ofText_vocabulary _ limit text,
      Vocabulary.ofCondition_vocabulary _ limit text,
      Vocabulary.evaluate_vocabulary _ limit text⟩
  case others =>
    intro others other other_reached same limit text
    rw [reached.vocabulary_eq, other_reached.vocabulary_eq, after_eq same]
    exact ⟨rfl, rfl, rfl⟩

/-- Two templates that come to stand in either order. -/
theorem one_map_of_reached_lamps :
    let glow := Change.define ⟨"GLOW".toList, .template ⟨["x".toList], "x".toList⟩⟩
    let lamp := Change.define ⟨"LAMP".toList, .template ⟨[], "1".toList⟩⟩
    let shelves := [glow, lamp].foldl take empty
    let other := [lamp, glow].foldl take empty
    shelves.templates.keys = ["LAMP".toList, "GLOW".toList] ∧
      other.templates.keys = ["GLOW".toList, "LAMP".toList] ∧
      ∀ limit text, shelves.vocabulary.ofText limit text = other.vocabulary.ofText limit text := by
  intro glow lamp shelves other
  have reached : Reached [glow, lamp] shelves := reached_foldl [glow, lamp]
  have other_reached : Reached [lamp, glow] other := reached_foldl [lamp, glow]
  obtain ⟨-, -, -, -, -, same_results, same_map⟩ := one_map_of_reached reached
  have swapped := same_map [lamp, glow] (.swap lamp glow []) (by decide)
  exact ⟨by decide, by decide, fun limit text =>
    (same_results [lamp, glow] other other_reached swapped limit text).1⟩

end Shelves

end GlslBuild
