import GlslBuild.Table

/-!
# Compiler options

What is compiled depends on a language version, on a set of definitions and on a list of includes.
The set forgets order and repetition; the list keeps both.
-/

namespace GlslBuild

/-- A finite set of texts. -/
abbrev TextSet := Table Unit

namespace TextSet

/-- The set with one more member. -/
def add (set : TextSet) (text : Text) : TextSet := set.insert text ()

/-- The set of the texts in a list. -/
def ofList (texts : List Text) : TextSet := texts.foldl add Table.empty

/-- The members in increasing order. -/
def toList (set : TextSet) : List Text := set.keys

theorem contains_add (set : TextSet) (text query : Text) :
    (set.add text).contains query = (query == text || set.contains query) := by
  simp only [add, Table.contains, Table.find?_insert]
  by_cases same : query = text <;> simp [same]

/-- A set made from a list has the members of the list. -/
theorem contains_ofList (texts : List Text) (query : Text) :
    (ofList texts).contains query = texts.contains query := by
  have extended : ∀ set : TextSet,
      (texts.foldl add set).contains query = (texts.contains query || set.contains query) := by
    induction texts with
    | nil => simp
    | cons text rest induction =>
        intro set
        rw [List.foldl_cons, induction, contains_add, List.contains_cons, Bool.or_left_comm,
          Bool.or_assoc]
  rw [ofList, extended]
  simp [Table.contains]

end TextSet

/-- The options of a compilation. -/
structure Options where
  version : Nat
  defines : TextSet
  includes : List Text
  deriving DecidableEq

namespace Options

/-- The options for a version, without definitions and includes. -/
def ofVersion (version : Nat) : Options := ⟨version, Table.empty, []⟩

/-- The options that hold unless others are given. -/
def standard : Options := ofVersion 150

instance : Inhabited Options := ⟨standard⟩

/-- The options with one more definition. -/
def addDefine (options : Options) (definition : Text) : Options :=
  { options with defines := options.defines.add definition }

/-- The options with one more include at the end. -/
def addInclude (options : Options) (identifier : Text) : Options :=
  { options with includes := options.includes ++ [identifier] }

/-- Neither the order of two definitions nor their repetition counts. -/
theorem addDefine_comm (options : Options) (first second : Text) :
    (options.addDefine first).addDefine second =
      (options.addDefine second).addDefine first := by
  unfold addDefine TextSet.add
  congr 1
  ext query : 1
  simp only [Table.find?_insert]
  by_cases same_first : query = first <;> by_cases same_second : query = second <;>
    simp [same_first, same_second]

end Options

end GlslBuild
