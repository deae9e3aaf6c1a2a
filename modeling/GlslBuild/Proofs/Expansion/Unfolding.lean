import GlslBuild.Proofs.Expansion.Substitution
import Mathlib.Data.List.Chain
import Mathlib.Data.List.Perm.Subperm
import Mathlib.Logic.Relation

/-!
# Unfolding definitions

A text is unfolded by putting in place of every name its unfolded value. If no name depends on
itself, repeated passes come to the unfolded text: a name that is left after some number of passes
has as many names above it, which are all different. The passes do not stop before, because a text
that a pass leaves as it is has the same names after any number of passes.
-/

namespace GlslBuild.Expansion

variable {definitions : Definitions}

/-! ## Dependencies -/

/-- The identifier is a word of the text. -/
def Mentions (text name : Text) : Prop :=
  .word name ∈ Text.pieces text ∧ Text.isIdentifier name = true

/-- The first name stands for a text that mentions the second one. -/
def DependsOn (definitions : Definitions) (first second : Text) : Prop :=
  ∃ value, definitions.text? first = some value ∧ Mentions value second

/-- No name depends on itself, directly or through others. -/
def Acyclic (definitions : Definitions) : Prop :=
  ∀ name, ¬Relation.TransGen (DependsOn definitions) name name

/-- The text mentions a name that stands for a text. -/
def Outstanding (definitions : Definitions) (text name : Text) : Prop :=
  Mentions text name ∧ (definitions.text? name).isSome = true

/-- Ranks that fall along dependencies leave no room for a cycle. -/
theorem acyclic_of_rank (rank : Text → Nat)
    (falls : ∀ first second, DependsOn definitions first second → rank second < rank first) :
    Acyclic definitions := by
  intro name cycle
  have below : ∀ last, Relation.TransGen (DependsOn definitions) name last →
      rank last < rank name := by
    intro last path
    induction path with
    | single step => exact falls _ _ step
    | tail _ step induction => exact Nat.lt_trans (falls _ _ step) induction
  exact Nat.lt_irrefl _ (below name cycle)

/-- Without cycles there are no more names in a chain of dependencies than in the definitions. -/
theorem length_le_size_of_isChain (acyclic : Acyclic definitions) {chain : List Text}
    (links : chain.IsChain fun first second => DependsOn definitions second first)
    (bound : ∀ name ∈ chain, (definitions.text? name).isSome = true) :
    chain.length ≤ definitions.size := by
  have path : chain.reverse.Pairwise (Relation.TransGen (DependsOn definitions)) := by
    have upward : chain.reverse.IsChain (DependsOn definitions) := List.isChain_reverse.mpr links
    exact (upward.imp fun _ _ => Relation.TransGen.single).pairwise
  have different : chain.reverse.Nodup := by
    refine path.imp ?_
    rintro name _ cycle rfl
    exact acyclic name cycle
  have inside : chain.reverse ⊆ definitions.keys := by
    intro name member
    have stands := bound name (List.mem_reverse.mp member)
    rw [Table.mem_keys_iff, Table.contains]
    rw [Definitions.text?] at stands
    split at stands
    · next found => rw [found, Option.isSome_some]
    · contradiction
  have shorter := (List.subperm_of_subset different inside).length_le
  rwa [List.length_reverse, Table.keys, List.length_map] at shorter

/-! ## Passes -/

/-- A text without outstanding names stays as it is. -/
theorem substitute_of_not_outstanding {text : Text}
    (settled : ∀ name, ¬Outstanding definitions text name) :
    substitute definitions false text = text := by
  conv_rhs => rw [← Text.flatMap_pieces text]
  apply List.flatMap_congr
  intro piece member
  cases piece with
  | gap char => rfl
  | word word =>
      rw [Text.Piece.substitute, Text.Piece.toText]
      split
      · next identifier =>
          have free : definitions.text? word = none := by
            rw [← Option.not_isSome_iff_eq_none]
            exact fun stands => settled word ⟨⟨member, identifier⟩, stands⟩
          rw [free]
          rfl
      · rfl

/-- What a pass makes of a piece: its value if it is a name that stands for a text. -/
theorem substitute_piece_cases (definitions : Definitions) (piece : Text.Piece) :
    (∃ name value, piece = .word name ∧ Text.isIdentifier name = true ∧
      definitions.text? name = some value ∧
      piece.substitute (fun name => (definitions.text? name).getD (unboundName false name)) =
        value) ∨
    ((∀ name, piece = .word name → Text.isIdentifier name = true →
        definitions.text? name = none) ∧
      piece.substitute (fun name => (definitions.text? name).getD (unboundName false name)) =
        piece.toText) := by
  cases piece with
  | gap char => exact .inr ⟨nofun, rfl⟩
  | word word =>
      rw [Text.Piece.substitute, Text.Piece.toText]
      split
      · next identifier =>
          cases found : definitions.text? word with
          | some value => exact .inl ⟨word, value, rfl, identifier, found, rfl⟩
          | none =>
              refine .inr ⟨?_, rfl⟩
              rintro name ⟨⟩ _
              exact found
      · next other =>
          refine .inr ⟨?_, rfl⟩
          rintro name ⟨⟩ identifier
          exact absurd identifier other

/-- A name that is outstanding after a pass comes from one that was outstanding before it. -/
theorem exists_dependsOn_of_outstanding {text name : Text}
    (outstanding : Outstanding definitions (substitute definitions false text) name) :
    ∃ above, Outstanding definitions text above ∧ DependsOn definitions above name := by
  obtain ⟨⟨member, identifier⟩, stands⟩ := outstanding
  rw [substitute, Text.pieces_mapIdentifiers, List.mem_flatMap] at member
  obtain ⟨piece, piece_member, inside⟩ := member
  rcases substitute_piece_cases definitions piece with
    ⟨above, value, rfl, above_identifier, found, replaced⟩ | ⟨free, kept⟩
  · rw [replaced] at inside
    exact ⟨above, ⟨⟨piece_member, above_identifier⟩, by rw [found, Option.isSome_some]⟩,
      value, found, inside, identifier⟩
  · rw [kept, (Text.proper_of_mem_pieces piece_member).pieces_toText, List.mem_singleton] at inside
    rw [free name inside.symm identifier] at stands
    contradiction

/-- Above a name that is outstanding after some passes there are as many others. -/
theorem exists_chain_of_outstanding {passes : Nat} {text name : Text}
    (outstanding : Outstanding definitions ((substitute definitions false)^[passes] text) name) :
    ∃ chain : List Text, chain.length = passes ∧
      (name :: chain).IsChain (fun first second => DependsOn definitions second first) ∧
      ∀ other ∈ name :: chain, (definitions.text? other).isSome = true := by
  induction passes generalizing name with
  | zero =>
      refine ⟨[], rfl, .singleton name, ?_⟩
      rintro other ⟨⟩
      · exact outstanding.2
      · contradiction
  | succ passes induction =>
      rw [Function.iterate_succ_apply'] at outstanding
      obtain ⟨above, above_outstanding, depends⟩ := exists_dependsOn_of_outstanding outstanding
      obtain ⟨chain, length, links, bound⟩ := induction above_outstanding
      exact ⟨above :: chain, by rw [List.length_cons, length], .cons_cons depends links,
        List.forall_mem_cons.mpr ⟨outstanding.2, bound⟩⟩

/-- Without cycles as many passes as there are definitions leave no name outstanding. -/
theorem not_outstanding_iterate (acyclic : Acyclic definitions) (text name : Text) :
    ¬Outstanding definitions ((substitute definitions false)^[definitions.size] text) name := by
  intro outstanding
  obtain ⟨chain, length, links, bound⟩ := exists_chain_of_outstanding outstanding
  have bounded := length_le_size_of_isChain acyclic links bound
  rw [List.length_cons, length] at bounded
  exact Nat.not_succ_le_self _ bounded

/-! ## Unfolding -/

/-- The pieces unfold to a text: a name that stands for a text gives way to its value, unfolded in
turn, and everything else is kept. -/
inductive Unfolds (definitions : Definitions) : List Text.Piece → Text → Prop where
  | nil : Unfolds definitions [] []
  | replaced {name value inner rest : Text} {behind : List Text.Piece}
      (identifier : Text.isIdentifier name = true) (found : definitions.text? name = some value)
      (inside : Unfolds definitions (Text.pieces value) inner)
      (after : Unfolds definitions behind rest) :
      Unfolds definitions (.word name :: behind) (inner ++ rest)
  | kept {piece : Text.Piece} {rest : Text} {behind : List Text.Piece}
      (free : ∀ name, piece = .word name → Text.isIdentifier name = true →
        definitions.text? name = none)
      (after : Unfolds definitions behind rest) :
      Unfolds definitions (piece :: behind) (piece.toText ++ rest)

namespace Unfolds

/-- There is one text that pieces unfold to. -/
theorem unique {pieces : List Text.Piece} {first second : Text}
    (unfolds : Unfolds definitions pieces first) (other : Unfolds definitions pieces second) :
    first = second := by
  induction unfolds generalizing second with
  | nil =>
      cases other
      rfl
  | replaced identifier found inside after inside_induction after_induction =>
      cases other with
      | replaced _ other_found other_inside other_after =>
          obtain rfl := Option.some.inj (found.symm.trans other_found)
          rw [inside_induction other_inside, after_induction other_after]
      | kept free _ =>
          rw [free _ rfl identifier] at found
          contradiction
  | kept free after induction =>
      cases other with
      | replaced identifier found _ _ =>
          rw [free _ rfl identifier] at found
          contradiction
      | kept _ other_after => rw [induction other_after]

theorem exists_of_append {first second : List Text.Piece} {result : Text}
    (unfolds : Unfolds definitions (first ++ second) result) :
    ∃ front back, result = front ++ back ∧ Unfolds definitions first front ∧
      Unfolds definitions second back := by
  induction first generalizing result with
  | nil => exact ⟨[], result, rfl, .nil, unfolds⟩
  | cons piece first induction =>
      cases unfolds with
      | replaced identifier found inside after =>
          obtain ⟨front, back, rfl, first_unfolds, second_unfolds⟩ := induction after
          exact ⟨_, back, (List.append_assoc _ _ _).symm,
            .replaced identifier found inside first_unfolds, second_unfolds⟩
      | kept free after =>
          obtain ⟨front, back, rfl, first_unfolds, second_unfolds⟩ := induction after
          exact ⟨_, back, (List.append_assoc _ _ _).symm, .kept free first_unfolds,
            second_unfolds⟩

/-- A text without outstanding names is unfolded. -/
theorem of_not_outstanding {text : Text} (settled : ∀ name, ¬Outstanding definitions text name) :
    Unfolds definitions (Text.pieces text) text := by
  have free : ∀ piece ∈ Text.pieces text, ∀ name, piece = .word name →
      Text.isIdentifier name = true → definitions.text? name = none := by
    rintro piece member name rfl identifier
    rw [← Option.not_isSome_iff_eq_none]
    exact fun stands => settled name ⟨⟨member, identifier⟩, stands⟩
  conv => arg 3; rw [← Text.flatMap_pieces text]
  generalize Text.pieces text = pieces at free
  induction pieces with
  | nil => exact .nil
  | cons piece pieces induction =>
      exact .kept (free piece List.mem_cons_self)
        (induction fun other member => free other (List.mem_cons_of_mem piece member))

/-- A text unfolds to what it unfolds to after a pass. -/
theorem of_substitute {text result : Text}
    (unfolds : Unfolds definitions (Text.pieces (substitute definitions false text)) result) :
    Unfolds definitions (Text.pieces text) result := by
  have proper : ∀ piece ∈ Text.pieces text, piece.Proper :=
    fun piece => Text.proper_of_mem_pieces
  rw [substitute, Text.pieces_mapIdentifiers] at unfolds
  generalize Text.pieces text = pieces at unfolds proper
  induction pieces generalizing result with
  | nil => exact unfolds
  | cons piece pieces induction =>
      rw [List.flatMap_cons] at unfolds
      obtain ⟨front, back, rfl, first, second⟩ := unfolds.exists_of_append
      have after := induction second fun other member =>
        proper other (List.mem_cons_of_mem piece member)
      rcases substitute_piece_cases definitions piece with
        ⟨name, value, rfl, identifier, found, replaced⟩ | ⟨free, kept⟩
      · rw [replaced] at first
        exact .replaced identifier found first after
      · have alone : Unfolds definitions [piece] piece.toText := by
          simpa using Unfolds.kept free .nil
        rw [kept, (proper piece List.mem_cons_self).pieces_toText] at first
        rw [first.unique alone]
        exact .kept free after

end Unfolds

/-- Passes come to the unfolded text if they leave no name outstanding in the end. A pass that
changes nothing ends them early, but then the last text is the same. -/
theorem settle_of_not_outstanding (textual : definitions.hasTemplates = false) (limit : Nat)
    {passes remaining : Nat} {text : Text}
    (settled : ∀ name, ¬Outstanding definitions ((substitute definitions false)^[passes] text) name)
    (enough : passes < remaining) :
    ∃ result, settle definitions false limit remaining text = .ok result ∧
      Unfolds definitions (Text.pieces text) result ∧
      ∀ name, ¬Outstanding definitions result name := by
  induction passes generalizing remaining text with
  | zero =>
      obtain ⟨remaining, rfl⟩ := Nat.exists_eq_succ_of_ne_zero (Nat.ne_zero_of_lt enough)
      rw [Function.iterate_zero_apply] at settled
      refine ⟨text, ?_, .of_not_outstanding settled, settled⟩
      rw [settle_succ_of_textual textual, if_pos (substitute_of_not_outstanding settled)]
  | succ passes induction =>
      obtain ⟨remaining, rfl⟩ := Nat.exists_eq_succ_of_ne_zero (Nat.ne_zero_of_lt enough)
      rw [settle_succ_of_textual textual]
      split
      · next fixed =>
          rw [Function.iterate_fixed fixed] at settled
          exact ⟨text, rfl, .of_not_outstanding settled, settled⟩
      · rw [Function.iterate_succ_apply] at settled
        obtain ⟨result, ends, unfolds, last⟩ := induction settled (Nat.lt_of_succ_lt_succ enough)
        exact ⟨result, ends, unfolds.of_substitute, last⟩

/-! ## The order of definitions -/

section Order

variable {made : List Definition}

theorem find?_foldl_define_of_notMem {name : Text} (absent : name ∉ made.map Definition.name)
    (start : Definitions) :
    (made.foldl Definitions.define start).find? name = start.find? name := by
  induction made generalizing start with
  | nil => rfl
  | cons definition made induction =>
      rw [List.map_cons, List.mem_cons, not_or] at absent
      rw [List.foldl_cons, induction absent.2, Definitions.define, Table.find?_insert,
        if_neg absent.1]

theorem find?_foldl_define_of_mem (different : (made.map Definition.name).Nodup)
    {definition : Definition} (member : definition ∈ made) (start : Definitions) :
    (made.foldl Definitions.define start).find? definition.name =
      some definition.replacement := by
  induction made generalizing start with
  | nil => contradiction
  | cons first made induction =>
      obtain ⟨absent, different⟩ := List.nodup_cons.mp different
      rw [List.foldl_cons]
      rcases List.mem_cons.mp member with rfl | member
      · rw [find?_foldl_define_of_notMem absent, Definitions.define, Table.find?_insert,
          if_pos rfl]
      · exact induction different member _

/-- Definitions of different names make the same table in any order. -/
theorem foldl_define_eq (different : (made.map Definition.name).Nodup)
    (same : ∀ definition, definition ∈ made ↔
      definitions.find? definition.name = some definition.replacement) :
    made.foldl Definitions.define Table.empty = definitions := by
  ext name : 1
  by_cases member : name ∈ made.map Definition.name
  · obtain ⟨definition, inside, rfl⟩ := List.mem_map.mp member
    rw [find?_foldl_define_of_mem different inside, (same definition).mp inside]
  · rw [find?_foldl_define_of_notMem member, Table.find?_empty, eq_comm,
      Option.eq_none_iff_forall_ne_some]
    intro replacement found
    exact member (List.mem_map.mpr ⟨⟨name, replacement⟩, (same ⟨name, replacement⟩).mpr found, rfl⟩)

end Order

/-! ## Expansion without cycles -/

/-- Definitions of texts without cycles are unfolded by any number of passes that exceeds theirs,
whatever the order in which they were made, and no name that stands for a text is left. -/
theorem ofText_unfolds (textual : definitions.hasTemplates = false)
    (acyclic : Acyclic definitions) {passLimit : Nat} (enough : definitions.size < passLimit)
    (text : Text) :
    ∃ result, ofText definitions passLimit text = .ok result ∧
      (∀ other, Unfolds definitions (Text.pieces text) other ↔ other = result) ∧
      (∀ name, Mentions result name → definitions.text? name = none) ∧
      ∀ made : List Definition, (made.map Definition.name).Nodup →
        (∀ definition, definition ∈ made ↔
          definitions.find? definition.name = some definition.replacement) →
        ofText (made.foldl Definitions.define Table.empty) passLimit text = .ok result := by
  obtain ⟨result, ends, unfolds, settled⟩ := settle_of_not_outstanding textual passLimit
    (not_outstanding_iterate acyclic text) enough
  refine ⟨result, ends, fun other => ⟨fun unfolded => unfolded.unique unfolds, ?_⟩, ?_, ?_⟩
  · rintro rfl
    exact unfolds
  · intro name mentioned
    rw [← Option.not_isSome_iff_eq_none]
    exact fun stands => settled name ⟨mentioned, stands⟩
  · intro made different same
    rw [foldl_define_eq different same]
    exact ends

namespace Sample

/-- Three definitions, each of which is used by the one before; the last value is empty. -/
def stairs : Definitions :=
  ((Table.empty.insert "A".toList (.text "B + B".toList)).insert "B".toList
    (.text "[C]".toList)).insert "C".toList (.text [])

theorem text?_insert (definitions : Definitions) (key value name : Text) :
    Definitions.text? (definitions.insert key (.text value)) name =
      if name = key then some value else definitions.text? name := by
  rw [Definitions.text?, Table.find?_insert]
  by_cases same : name = key
  · rw [if_pos same, if_pos same]
  · rw [if_neg same, if_neg same, Definitions.text?]

/-- How many steps there are below a name. -/
def height (name : Text) : Nat :=
  if name = "A".toList then 2 else if name = "B".toList then 1 else 0

theorem acyclic_stairs : Acyclic stairs := by
  refine acyclic_of_rank height ?_
  rintro first second ⟨value, found, member, -⟩
  rw [stairs, text?_insert, text?_insert, text?_insert] at found
  split at found
  · cases found
    contradiction
  · split at found
    · next same =>
        have pieces : Text.pieces "[C]".toList = [.gap '[', .word ['C'], .gap ']'] := by
          decide +kernel
        cases found
        rw [pieces] at member
        obtain rfl : second = ['C'] := by simpa using member
        rw [same]
        decide
    · split at found
      · next same =>
          have pieces : Text.pieces "B + B".toList =
              [.word ['B'], .gap ' ', .gap '+', .gap ' ', .word ['B']] := by decide +kernel
          cases found
          rw [pieces] at member
          obtain rfl : second = ['B'] := by simpa using member
          rw [same]
          decide
      · contradiction

end Sample

/-- An empty value joins no words, and no pass can be spared. -/
theorem ofText_unfolds_stairs :
    Sample.stairs.hasTemplates = false ∧ Acyclic Sample.stairs ∧ Sample.stairs.size < 4 ∧
      Unfolds Sample.stairs (Text.pieces "A-xC C;".toList) "[] + []-xC ;".toList ∧
      ofText Sample.stairs 4 "A-xC C;".toList = .ok "[] + []-xC ;".toList ∧
      (ofText Sample.stairs 3 "A-xC C;".toList).toOption = none := by
  have textual : Sample.stairs.hasTemplates = false := by decide +kernel
  have few : Sample.stairs.size < 4 := by decide +kernel
  obtain ⟨result, ends, unfolds, -⟩ :=
    ofText_unfolds textual Sample.acyclic_stairs few "A-xC C;".toList
  have computed : (ofText Sample.stairs 4 "A-xC C;".toList).toOption =
      some "[] + []-xC ;".toList := by decide +kernel
  rw [ends] at computed
  obtain rfl := Option.some.inj computed
  exact ⟨textual, Sample.acyclic_stairs, few, (unfolds _).mpr rfl, ends, by decide +kernel⟩

end GlslBuild.Expansion
