import GlslBuild.Proofs.Trimming
import Mathlib.Data.List.Forall2

/-!
# Lists of parameters

What stands between the parentheses of a template lists its parameters: commas stand between them,
and any white space around them. The lists that are read are exactly those of different identifiers.
-/

namespace GlslBuild

namespace Text

/-- The first text is the second one with any white space on either side. -/
def Pads (padded text : Text) : Prop :=
  ∃ lead blanks, (∀ char ∈ lead, isBlank char = true) ∧ (∀ char ∈ blanks, isBlank char = true) ∧
    padded = lead ++ text ++ blanks

theorem Pads.refl (text : Text) : Pads text text := ⟨[], [], by simp, by simp, by simp⟩

theorem Pads.trim_eq {padded text : Text} (pads : Pads padded text) : trim padded = trim text := by
  obtain ⟨lead, blanks, lead_blank, blank, rfl⟩ := pads
  rw [trim_append_of_blank blank, trim, trimStart, List.dropWhile_append_of_pos lead_blank, trim,
    trimStart]

theorem Pads.mem_of_mem {padded text : Text} (pads : Pads padded text) {char : Char}
    (member : char ∈ padded) (visible : isBlank char = false) : char ∈ text := by
  obtain ⟨lead, blanks, lead_blank, blank, rfl⟩ := pads
  rcases List.mem_append.mp member with member | member
  · rcases List.mem_append.mp member with in_lead | inside
    · rw [lead_blank char in_lead] at visible
      contradiction
    · exact inside
  · rw [blank char member] at visible
    contradiction

theorem isBlank_eq_false_of_isIdentifier {name : Text} (identifier : isIdentifier name = true) :
    ∀ char ∈ name, isBlank char = false := fun char member =>
  isBlank_eq_false_of_continuesIdentifier ((all_of_isIdentifier identifier).2 char member)

theorem trim_of_isIdentifier {name : Text} (identifier : isIdentifier name = true) :
    trim name = name :=
  trim_eq_self
    (fun char head => isBlank_eq_false_of_isIdentifier identifier char (List.mem_of_head? head))
    fun char last => isBlank_eq_false_of_isIdentifier identifier char (List.mem_of_getLast? last)

end Text

/-! ## Lists of parameters -/

namespace Template

/-- What stands between parentheses lists parameters: each of them with any white space around it
and commas between them, or nothing but white space if there are none. -/
inductive Lists : List Text → Text → Prop where
  | blank {list : Text} (blank : Text.isBlankText list = true) : Lists [] list
  | separated {parts params : List Text} (params_ne_nil : params ≠ [])
      (pads : List.Forall₂ Text.Pads parts params) : Lists params ([','].intercalate parts)

theorem foldlM_addParam_eq_ok_iff {names known params : List Text} (distinct : known.Nodup) :
    names.foldlM addParam known = .ok params ↔
      params = known ++ names ∧ (∀ name ∈ names, Text.isIdentifier name = true) ∧
        (known ++ names).Nodup := by
  induction names generalizing known with
  | nil =>
      rw [List.foldlM_nil, List.append_nil]
      change Except.ok known = Except.ok params ↔ _
      rw [Except.ok.injEq, eq_comm, and_iff_left ⟨List.forall_mem_nil _, distinct⟩]
  | cons name names induction =>
      rw [List.foldlM_cons, addParam]
      split
      · next fresh =>
          obtain ⟨identifier, absent⟩ : Text.isIdentifier name = true ∧ name ∉ known := by
            simpa using fresh
          have longer : (known ++ [name]).Nodup :=
            List.nodup_append.mpr ⟨distinct, by simp, by
              rintro other member last same rfl
              obtain rfl := List.mem_singleton.mp same
              exact absent member⟩
          change names.foldlM addParam (known ++ [name]) = _ ↔ _
          rw [induction longer, List.append_assoc, List.singleton_append, List.forall_mem_cons,
            and_iff_right identifier]
      · next refused =>
          refine iff_of_false nofun ?_
          rintro ⟨-, identifiers, different⟩
          have absent : name ∉ known := fun member =>
            (List.nodup_append.mp different).2.2 name member name List.mem_cons_self rfl
          exact refused (by simp [identifiers name List.mem_cons_self, absent])

theorem exists_intercalate_cons (part : Text) (parts : List Text) :
    ∃ later, [','].intercalate (part :: parts) = part ++ later := by
  cases parts with
  | nil => exact ⟨[], by simp⟩
  | cons next parts =>
      exact ⟨[','] ++ [','].intercalate (next :: parts), by
        rw [List.intercalate_cons_cons, List.append_assoc]⟩

theorem map_trim_of_pads {parts params : List Text} (pads : List.Forall₂ Text.Pads parts params)
    (identifiers : ∀ param ∈ params, Text.isIdentifier param = true) :
    parts.map Text.trim = params := by
  induction pads with
  | nil => rfl
  | cons first rest induction =>
      rw [List.forall_mem_cons] at identifiers
      rw [List.map_cons, first.trim_eq, Text.trim_of_isIdentifier identifiers.1,
        induction identifiers.2]

theorem exists_pads_of_mem {parts params : List Text} (pads : List.Forall₂ Text.Pads parts params)
    {part : Text} (member : part ∈ parts) : ∃ param ∈ params, Text.Pads part param := by
  induction pads with
  | nil => contradiction
  | cons first rest induction =>
      rcases List.mem_cons.mp member with rfl | member
      · exact ⟨_, List.mem_cons_self, first⟩
      · obtain ⟨param, found, padded⟩ := induction member
        exact ⟨param, List.mem_cons_of_mem _ found, padded⟩

theorem comma_notMem_of_pads {parts params : List Text}
    (pads : List.Forall₂ Text.Pads parts params)
    (identifiers : ∀ param ∈ params, Text.isIdentifier param = true) :
    ∀ part ∈ parts, ',' ∉ part := by
  intro part member comma
  obtain ⟨param, found, padded⟩ := exists_pads_of_mem pads member
  have inside := padded.mem_of_mem comma (by decide)
  exact absurd ((Text.all_of_isIdentifier (identifiers param found)).2 ',' inside) (by decide)

theorem exists_mem_of_mem_intercalate {parts : List Text} {char : Char}
    (member : char ∈ [','].intercalate parts) (no_comma : char ≠ ',') :
    ∃ part ∈ parts, char ∈ part := by
  induction parts with
  | nil => contradiction
  | cons part parts induction =>
      cases parts with
      | nil =>
          rw [List.intercalate_singleton] at member
          exact ⟨part, List.mem_cons_self, member⟩
      | cons next parts =>
          rw [List.intercalate_cons_cons, List.append_assoc, List.mem_append, List.mem_append,
            List.mem_singleton] at member
          rcases member with inside | comma | later
          · exact ⟨part, List.mem_cons_self, inside⟩
          · exact absurd comma no_comma
          · obtain ⟨other, found, inside⟩ := induction later
            exact ⟨other, List.mem_cons_of_mem part found, inside⟩

/-- A list holds only white space, its parameters and the commas between them. -/
theorem Lists.exists_mem {params : List Text} {list : Text} (lists : Lists params list)
    {char : Char} (member : char ∈ list) (visible : Text.isBlank char = false)
    (no_comma : char ≠ ',') : ∃ param ∈ params, char ∈ param := by
  cases lists with
  | blank blank =>
      rw [List.all_eq_true.mp blank char member] at visible
      contradiction
  | @separated parts _ _ pads =>
      obtain ⟨part, found, inside⟩ := exists_mem_of_mem_intercalate member no_comma
      obtain ⟨param, param_found, padded⟩ := exists_pads_of_mem pads found
      exact ⟨param, param_found, padded.mem_of_mem inside visible⟩

/-- A list of identifiers holds no characters but theirs, white space and commas. -/
theorem Lists.notMem {params : List Text} {list : Text} (lists : Lists params list)
    (identifiers : ∀ param ∈ params, Text.isIdentifier param = true) {char : Char}
    (visible : Text.isBlank char = false) (other : Text.continuesIdentifier char = false)
    (no_comma : char ≠ ',') : char ∉ list := by
  intro member
  obtain ⟨param, found, inside⟩ := lists.exists_mem member visible no_comma
  rw [(Text.all_of_isIdentifier (identifiers param found)).2 char inside] at other
  contradiction

/-- A list that names a parameter is not blank. -/
theorem Lists.eq_nil_of_isBlankText {params : List Text} {list : Text} (lists : Lists params list)
    (identifiers : ∀ param ∈ params, Text.isIdentifier param = true)
    (blank : Text.isBlankText list = true) : params = [] := by
  cases lists with
  | blank => rfl
  | separated params_ne_nil pads =>
      cases pads with
      | nil => rfl
      | @cons part param parts params first rest =>
          obtain ⟨lead, blanks, -, -, padded⟩ := first
          obtain ⟨later, split⟩ := exists_intercalate_cons part parts
          have identifier := identifiers param List.mem_cons_self
          obtain ⟨char, name, rfl⟩ :=
            List.exists_cons_of_ne_nil (Text.all_of_isIdentifier identifier).1
          have visible := Text.isBlank_eq_false_of_isIdentifier identifier char List.mem_cons_self
          have inside : char ∈ [','].intercalate (part :: parts) := by
            rw [split, padded]
            simp
          rw [List.all_eq_true.mp blank char inside] at visible
          contradiction

/-- The lists that are read are those that name different identifiers. -/
theorem readParams_eq_ok_iff {list : Text} {params : List Text} :
    readParams list = .ok params ↔
      Lists params list ∧ (∀ param ∈ params, Text.isIdentifier param = true) ∧ params.Nodup := by
  rw [readParams]
  split
  · next blank =>
      constructor
      · rintro ⟨⟩
        exact ⟨.blank blank, by simp, List.nodup_nil⟩
      · rintro ⟨lists, identifiers, -⟩
        rw [lists.eq_nil_of_isBlankText identifiers blank]
  · next visible =>
      rw [foldlM_addParam_eq_ok_iff List.nodup_nil, List.nil_append]
      constructor
      · rintro ⟨rfl, identifiers, distinct⟩
        refine ⟨?_, identifiers, distinct⟩
        have pads : List.Forall₂ Text.Pads (list.splitOn ',')
            ((list.splitOn ',').map Text.trim) :=
          List.forall₂_map_right_iff.mpr
            (List.forall₂_same.mpr fun part _ => Text.exists_eq_append_trim part)
        have params_ne_nil : (list.splitOn ',').map Text.trim ≠ [] := by
          simp [List.splitOn_ne_nil]
        have lists := Lists.separated params_ne_nil pads
        rwa [List.intercalate_splitOn] at lists
      · rintro ⟨lists, identifiers, distinct⟩
        cases lists with
        | blank blank => exact absurd blank visible
        | @separated parts _ params_ne_nil pads =>
            have parts_ne_nil : parts ≠ [] := by
              rintro rfl
              exact params_ne_nil (List.forall₂_nil_left_iff.mp pads)
            rw [List.splitOn_intercalate _ (comma_notMem_of_pads pads identifiers) parts_ne_nil,
              map_trim_of_pads pads identifiers]
            exact ⟨rfl, identifiers, distinct⟩

/-- With a space behind each comma parameters are listed. -/
theorem lists_intercalate (params : List Text) : Lists params (", ".toList.intercalate params) := by
  cases params with
  | nil => exact .blank rfl
  | cons param params =>
      have spaced : ", ".toList.intercalate (param :: params) =
          [','].intercalate (param :: params.map (' ' :: ·)) := by
        induction params generalizing param with
        | nil => simp
        | cons next params induction =>
            rw [List.intercalate_cons_cons, induction, List.map_cons, List.intercalate_cons_cons]
            simp
      have pads : List.Forall₂ Text.Pads (params.map (' ' :: ·)) params :=
        List.forall₂_map_left_iff.mpr (List.forall₂_same.mpr fun name _ =>
          ⟨[' '], [], List.all_eq_true.mp rfl, by simp, by simp⟩)
      rw [spaced]
      exact .separated (List.cons_ne_nil _ _) (.cons (.refl param) pads)

end Template

end GlslBuild
