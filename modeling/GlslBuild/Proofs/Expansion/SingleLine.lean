import GlslBuild.Expansion
import GlslBuild.Proofs.Expansion.Arguments
import GlslBuild.Proofs.Identifier
import GlslBuild.Proofs.Result
import GlslBuild.Text.Lines

/-!
# Texts on one line

A text without newlines stands on one line. Every replacement that is read from a text stands on one
line, whatever the text holds, and what stands on one line does so still when calls and names in it
are replaced.
-/

namespace GlslBuild

namespace Text

/-- The text holds no newline. -/
def SingleLine (text : Text) : Prop := '\n' ∉ text

instance (text : Text) : Decidable (SingleLine text) := inferInstanceAs (Decidable ('\n' ∉ text))

theorem SingleLine.of_subset {part whole : Text} (single : SingleLine whole)
    (subset : part ⊆ whole) : SingleLine part :=
  fun newline => single (subset newline)

theorem singleLine_append_iff {first second : Text} :
    SingleLine (first ++ second) ↔ SingleLine first ∧ SingleLine second := by
  rw [SingleLine, List.mem_append, not_or]
  rfl

theorem singleLine_cons_iff {char : Char} {rest : Text} :
    SingleLine (char :: rest) ↔ char ≠ '\n' ∧ SingleLine rest := by
  rw [SingleLine, List.mem_cons, not_or, ne_comm]
  rfl

theorem dropEndWhile_subset (drops : Char → Bool) (text : Text) :
    dropEndWhile drops text ⊆ text := by
  intro char member
  have kept := List.dropWhile_subset drops (List.mem_reverse.mp member)
  exact List.mem_reverse.mp kept

theorem trimStart_subset (text : Text) : trimStart text ⊆ text := List.dropWhile_subset isBlank

theorem trimEnd_subset (text : Text) : trimEnd text ⊆ text := dropEndWhile_subset isBlank text

theorem trim_subset (text : Text) : trim text ⊆ text :=
  List.Subset.trans (trimEnd_subset _) (trimStart_subset text)

theorem singleLine_replaceChar (text : Text) : SingleLine (replaceChar '\n' ' ' text) := by
  intro newline
  obtain ⟨char, -, replaced⟩ := List.mem_map.mp newline
  split at replaced <;> contradiction

theorem singleLine_of_isIdentifier {name : Text} (identifier : isIdentifier name = true) :
    SingleLine name := by
  intro newline
  have continues := (all_of_isIdentifier identifier).2 '\n' newline
  contradiction

/-! ## Lines and their text -/

theorem lines_cons (char : Char) (rest : Text) :
    lines (char :: rest) =
      if char = '\n' then [] :: lines rest else (lines rest).modifyHead (char :: ·) := by
  rw [lines, List.splitOn_cons_eq_if_modifyHead]
  simp only [beq_iff_eq, lines]

theorem singleLine_of_mem_lines {text line : Text} (member : line ∈ lines text) :
    SingleLine line := by
  induction text generalizing line with
  | nil =>
      obtain rfl : line = [] := by simpa [lines] using member
      exact List.not_mem_nil
  | cons char rest induction =>
      rw [lines_cons] at member
      split at member
      · rcases List.mem_cons.mp member with rfl | member
        · exact List.not_mem_nil
        · exact induction member
      · next other =>
          cases split : lines rest with
          | nil => simp [split] at member
          | cons first later =>
              rw [split] at induction member
              rcases List.mem_cons.mp member with rfl | member
              · exact singleLine_cons_iff.mpr ⟨other, induction List.mem_cons_self⟩
              · exact induction (List.mem_cons_of_mem first member)

/-- Lines without newlines are those of the text that they make, behind which nothing follows. -/
theorem lines_ofLines {written : List Text} (single : ∀ line ∈ written, SingleLine line) :
    lines (ofLines written) = written ++ [[]] := by
  induction written with
  | nil => rfl
  | cons line rest induction =>
      have here := single line List.mem_cons_self
      have later := induction fun other member => single other (List.mem_cons_of_mem line member)
      rw [ofLines_cons, lines, List.splitOn_append_cons_self_of_not_mem here, ← lines, later,
        List.cons_append]

/-! ## Replacing identifiers -/

theorem singleLine_mapIdentifiers {replacement : Text → Text}
    (replacements : ∀ name, isIdentifier name = true → SingleLine (replacement name)) {text : Text}
    (single : SingleLine text) : SingleLine (mapIdentifiers replacement text) := by
  intro newline
  obtain ⟨piece, member, inside⟩ := List.mem_flatMap.mp newline
  have absent : '\n' ∉ piece.toText := by
    intro kept
    apply single
    rw [← flatMap_pieces text]
    exact List.mem_flatMap.mpr ⟨piece, member, kept⟩
  cases piece with
  | gap char => exact absent inside
  | word word =>
      rw [Piece.substitute] at inside
      split at inside
      · next identifier => exact replacements word identifier inside
      · exact absent inside

end Text

/-! ## Definitions -/

/-- What the name is replaced by, arguments aside, stands on one line. -/
def Replacement.SingleLine : Replacement → Prop
  | .text value => Text.SingleLine value
  | .template made => Text.SingleLine made.body

/-- All replacements stand on one line. -/
def Definitions.SingleLine (definitions : Definitions) : Prop :=
  ∀ name replacement, definitions.find? name = some replacement → replacement.SingleLine

/-- A definition is not read from a text with a newline in the replacement. -/
theorem Definition.singleLine_of_parse {text : Text} {definition : Definition}
    (parsed : Definition.parse text = .ok definition) : definition.replacement.SingleLine := by
  simp only [Definition.parse] at parsed
  generalize splitParams ((Text.trim text).dropWhile fun char => !endsName char) = parts at parsed
  split at parsed
  · contradiction
  · next present =>
      have single : Text.SingleLine (Text.trim parts.2) := by
        have kept : Text.SingleLine (Text.trimStart parts.2) := by
          simpa [Text.SingleLine] using fun newline => present (by simp [newline])
        exact kept.of_subset (Text.trimEnd_subset _)
      split at parsed
      · contradiction
      · split at parsed
        · obtain rfl := Except.ok.inj parsed
          exact single
        · obtain ⟨params, -, rfl⟩ := exists_of_map_eq_ok parsed
          exact single

namespace Definitions.SingleLine

variable {definitions : Definitions}

theorem empty : Definitions.SingleLine Table.empty := nofun

theorem define (single : definitions.SingleLine) {definition : Definition}
    (replacement_single : definition.replacement.SingleLine) :
    (definitions.define definition).SingleLine := by
  intro name replacement found
  rw [Definitions.define, Table.find?_insert] at found
  split at found
  · exact Option.some.inj found ▸ replacement_single
  · exact single name replacement found

theorem undefine (single : definitions.SingleLine) (name : Text) :
    (definitions.undefine name).SingleLine := by
  intro other replacement found
  rw [Definitions.undefine, Table.find?_erase] at found
  split at found
  · contradiction
  · exact single other replacement found

theorem of_text? (single : definitions.SingleLine) {name value : Text}
    (found : definitions.text? name = some value) : Text.SingleLine value := by
  rw [Definitions.text?] at found
  split at found
  · next bound =>
      obtain rfl := Option.some.inj found
      exact single name _ bound
  · contradiction

theorem of_template? (single : definitions.SingleLine) {name : Text} {template : Template}
    (found : definitions.template? name = some template) : Text.SingleLine template.body := by
  rw [Definitions.template?] at found
  split at found
  · next bound =>
      obtain rfl := Option.some.inj found
      exact single name _ bound
  · contradiction

end Definitions.SingleLine

/-! ## Calls -/

/-- The arguments and what follows them are parts of the text. -/
theorem Arguments.subset_of_read? {text after : Text} {arguments : Arguments}
    (read : Arguments.read? text = some (arguments, after)) :
    (∀ argument ∈ arguments, argument ⊆ text) ∧ after ⊆ text := by
  obtain ⟨inner, pieces, rfl, list, rfl⟩ := read?_eq_some_iff.mp read
  refine ⟨?_, fun char member => by simp [member]⟩
  intro argument member
  obtain ⟨piece, inside, rfl⟩ := List.mem_map.mp member
  exact List.Subset.trans (Text.trim_subset piece)
    (List.subset_append_of_subset_left _ (list.subset piece inside))

namespace Template

theorem afterMarker?_subset {text after : Text} (found : afterMarker? text = some after) :
    after ⊆ text := by
  rw [afterMarker?] at found
  split at found
  · next rest marker =>
      obtain rfl := Option.some.inj found
      have inner : rest ⊆ Text.trimStart text := by simp [marker]
      exact List.Subset.trans (Text.trimStart_subset rest)
        (List.Subset.trans inner (Text.trimStart_subset text))
  · contradiction

theorem paste_subset (text : Text) : paste text ⊆ text := by
  fun_induction paste text with
  | case1 => exact List.nil_subset _
  | case2 char rest after marker induction =>
      exact List.Subset.trans induction (afterMarker?_subset marker)
  | case3 char rest absent induction => exact List.cons_subset_cons char induction

theorem singleLine_of_invoke {template : Template} {name replaced : Text} {arguments : Arguments}
    (invoked : template.invoke name arguments = .ok replaced)
    (body_single : Text.SingleLine template.body)
    (arguments_single : ∀ argument ∈ arguments, Text.SingleLine argument) :
    Text.SingleLine replaced := by
  have filled : ∀ name, Text.isIdentifier name = true →
      Text.SingleLine (template.argumentFor arguments name) := by
    intro name identifier
    rw [argumentFor]
    cases found : (template.params.zip arguments).lookup name with
    | none => exact Text.singleLine_of_isIdentifier identifier
    | some argument =>
        obtain ⟨before, after, zipped, -⟩ := List.lookup_eq_some_iff.mp found
        have member : (name, argument) ∈ template.params.zip arguments := by simp [zipped]
        exact arguments_single argument (List.of_mem_zip member).2
  simp only [invoke] at invoked
  split at invoked
  · obtain rfl := Except.ok.inj invoked
    exact (Text.singleLine_mapIdentifiers filled body_single).of_subset (paste_subset _)
  · contradiction

end Template

/-! ## Expansion -/

namespace Expansion

/-- A call that is opened has one of the names first, and white space up to its parenthesis. -/
theorem exists_of_openCall? {names : List Text} {text opening rest : Text}
    (found : openCall? names text = some (opening, rest)) :
    ∃ name ∈ names, ∃ blanks, (∀ char ∈ blanks, Text.isBlank char = true) ∧
      text = name ++ (blanks ++ '(' :: rest) ∧ opening = name ++ blanks ++ ['('] := by
  obtain ⟨name, member, here⟩ := List.exists_of_findSome?_eq_some found
  split at here
  · contradiction
  · next tail dropped =>
      split at here
      · next after opens =>
          obtain ⟨rfl, rfl⟩ := Prod.mk.inj (Option.some.inj here)
          refine ⟨name, member, tail.takeWhile Text.isBlank,
            List.all_eq_true.mp List.all_takeWhile, ?_, rfl⟩
          rw [Text.dropLeading?_eq_some_iff.mp dropped, ← opens, List.takeWhile_append_dropWhile]
      · contradiction

theorem openCall?_subset {names : List Text} {text opening rest : Text}
    (found : openCall? names text = some (opening, rest)) : rest ⊆ text := by
  obtain ⟨name, -, blanks, -, rfl, -⟩ := exists_of_openCall? found
  intro char member
  simp [member]

theorem callAt?_subset {names : List Text} {previous : Option Char} {text opening rest : Text}
    (found : callAt? names previous text = some (opening, rest)) : rest ⊆ text := by
  rw [callAt?] at found
  split at found
  · exact openCall?_subset found
  · contradiction

variable {definitions : Definitions} (definitions_single : definitions.SingleLine)

include definitions_single

theorem singleLine_of_sweepFrom {names : List Text} {previous : Option Char} {text result : Text}
    (swept : sweepFrom definitions names previous text = .ok result)
    (single : Text.SingleLine text) : Text.SingleLine result := by
  fun_induction sweepFrom definitions names previous text generalizing result with
  | case1 =>
      obtain rfl := Except.ok.inj swept
      exact single
  | case2 previous char tail absent induction =>
      obtain ⟨later, rest_swept, rfl⟩ := exists_of_map_eq_ok swept
      obtain ⟨other, tail_single⟩ := Text.singleLine_cons_iff.mp single
      exact Text.singleLine_cons_iff.mpr ⟨other, induction rest_swept tail_single⟩
  | case3 =>
      obtain rfl := Except.ok.inj swept
      exact single
  | case4 => contradiction
  | case5 => contradiction
  | case6 previous char tail opening rest call name template found arguments after read replaced
      invoked =>
      rename_i induction
      obtain ⟨later, rest_swept, rfl⟩ := exists_of_map_eq_ok swept
      have rest_single := single.of_subset (callAt?_subset call)
      obtain ⟨arguments_subset, after_subset⟩ := Arguments.subset_of_read? read
      have replaced_single := Template.singleLine_of_invoke invoked
        (definitions_single.of_template? found)
        fun argument member => rest_single.of_subset (arguments_subset argument member)
      exact Text.singleLine_append_iff.mpr
        ⟨replaced_single, induction rest_swept (rest_single.of_subset after_subset)⟩

theorem singleLine_substitute {text : Text} (single : Text.SingleLine text) :
    Text.SingleLine (substitute definitions false text) := by
  refine Text.singleLine_mapIdentifiers ?_ single
  intro name identifier
  cases found : definitions.text? name with
  | none => exact Text.singleLine_of_isIdentifier identifier
  | some value => exact definitions_single.of_text? found

theorem singleLine_of_settle {limit remaining : Nat} {text result : Text}
    (settled : settle definitions false limit remaining text = .ok result)
    (single : Text.SingleLine text) : Text.SingleLine result := by
  induction remaining generalizing text with
  | zero => contradiction
  | succ remaining induction =>
      rw [settle] at settled
      split at settled
      · contradiction
      · next next passed =>
          obtain ⟨swept, swept_eq, rfl⟩ := exists_of_map_eq_ok passed
          have next_single := singleLine_substitute definitions_single
            (singleLine_of_sweepFrom definitions_single swept_eq single)
          split at settled
          · obtain rfl := Except.ok.inj settled
            exact single
          · exact induction settled next_single

/-- Ordinary text on one line is expanded to text on one line. -/
theorem singleLine_of_ofText {passLimit : Nat} {text result : Text}
    (expanded : ofText definitions passLimit text = .ok result) (single : Text.SingleLine text) :
    Text.SingleLine result :=
  singleLine_of_settle definitions_single expanded single

end Expansion

end GlslBuild
