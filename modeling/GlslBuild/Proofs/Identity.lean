import GlslBuild.Identity
import Mathlib.Tactic.Tauto

/-!
# Requests as they are written

What is digested for an identity can be read back: a zero byte ends each field, and the lists of
definitions and of includes come after their lengths. So two requests without zero characters are
written alike exactly if they are the same request, whatever their texts look like. A zero character
in a field ends it early; then only the texts between zero characters are written for certain.
-/

namespace GlslBuild

/-- Numbers with the same numeral are equal. -/
theorem Text.decimal_injective {first second : Nat} (same : decimal first = decimal second) :
    first = second := by
  have value := congrArg (Nat.ofDigitChars 10 · 0) same
  simpa [decimal] using value

/-- Sets with the same members are equal. -/
theorem TextSet.eq_of_contains_eq {first second : TextSet}
    (same : ∀ text, first.contains text = second.contains text) : first = second := by
  ext text : 1
  have bound := same text
  rw [Table.contains, Table.contains] at bound
  cases found : first.find? text <;> cases found' : second.find? text <;> simp_all

/-- A set is determined by the listing of its members. -/
theorem TextSet.eq_of_toList_eq {first second : TextSet} (same : first.toList = second.toList) :
    first = second := by
  apply eq_of_contains_eq
  intro text
  rw [Bool.eq_iff_iff, ← Table.mem_keys_iff, ← Table.mem_keys_iff]
  exact iff_of_eq (congrArg (text ∈ ·) same)

namespace Options

/-- The options with more definitions, given one after the other. -/
def addDefines (options : Options) (definitions : List Text) : Options :=
  definitions.foldl addDefine options

@[simp] theorem version_addDefines (options : Options) (definitions : List Text) :
    (options.addDefines definitions).version = options.version := by
  induction definitions generalizing options with
  | nil => rfl
  | cons definition rest induction => exact induction (options.addDefine definition)

@[simp] theorem includes_addDefines (options : Options) (definitions : List Text) :
    (options.addDefines definitions).includes = options.includes := by
  induction definitions generalizing options with
  | nil => rfl
  | cons definition rest induction => exact induction (options.addDefine definition)

/-- Only the set of the definitions counts. -/
theorem contains_addDefines (options : Options) (definitions : List Text) (query : Text) :
    (options.addDefines definitions).defines.contains query = true ↔
      query ∈ definitions ∨ options.defines.contains query = true := by
  induction definitions generalizing options with
  | nil => simp [addDefines]
  | cons definition rest induction =>
      have added : (options.addDefine definition).defines.contains query =
          (query == definition || options.defines.contains query) :=
        TextSet.contains_add options.defines definition query
      have later := induction (options.addDefine definition)
      rw [added, Bool.or_eq_true, beq_iff_eq] at later
      refine later.trans ?_
      rw [List.mem_cons]
      tauto

/-- Options are what they say: a version, the members of a set and a list. -/
theorem eq_iff {first second : Options} :
    first = second ↔ first.version = second.version ∧
      (∀ text, first.defines.contains text = true ↔ second.defines.contains text = true) ∧
      first.includes = second.includes := by
  constructor
  · rintro rfl
    exact ⟨rfl, fun _ => Iff.rfl, rfl⟩
  · rintro ⟨version, defines, includes⟩
    have same := TextSet.eq_of_contains_eq fun text => Bool.eq_iff_iff.mpr (defines text)
    obtain ⟨_, _, _⟩ := first
    obtain ⟨_, _, _⟩ := second
    subst version same includes
    rfl

end Options

namespace Identity

/-! ## Fields and their bytes -/

theorem utf8_injective {first second : Text} (same : utf8 first = utf8 second) :
    first = second := by
  have bytes : (String.ofList first).toByteArray = (String.ofList second).toByteArray := by
    rw [String.toByteArray_ofList, String.toByteArray_ofList, List.utf8Encode, List.utf8Encode]
    exact congrArg List.toByteArray same
  exact String.ofList_inj.mp (String.toByteArray_inj.mp bytes)

/-- The texts between the zero characters of a row of fields, each of which ends in one. -/
def segments (fields : List Text) : List Text :=
  fields.flatMap fun field => field.splitOn '\x00'

/-- The number of zero characters in each field. -/
def zeros (fields : List Text) : List Nat := fields.map (List.count '\x00')

theorem segments_append (first second : List Text) :
    segments (first ++ second) = segments first ++ segments second :=
  List.flatMap_append

/-- Fields without zero characters are what stands between them. -/
theorem segments_of_zero_free {fields : List Text}
    (zero_free : ∀ field ∈ fields, '\x00' ∉ field) : segments fields = fields := by
  induction fields with
  | nil => rfl
  | cons field rest induction =>
      obtain ⟨here, later⟩ := List.forall_mem_cons.mp zero_free
      rw [segments, List.flatMap_cons, List.splitOn_eq_singleton here, ← segments,
        induction later, List.singleton_append]

theorem flatMap_encodeField (fields : List Text) :
    fields.flatMap encodeField = utf8 (fields.flatMap fun field => field ++ ['\x00']) := by
  induction fields with
  | nil => rfl
  | cons field rest induction =>
      rw [List.flatMap_cons, List.flatMap_cons, induction, utf8, utf8, List.flatMap_append,
        List.flatMap_append]
      rfl

theorem splitOn_flatMap (fields : List Text) :
    (fields.flatMap fun field => field ++ ['\x00']).splitOn '\x00' = segments fields ++ [[]] := by
  induction fields with
  | nil => rfl
  | cons field rest induction =>
      rw [List.flatMap_cons, List.append_assoc, List.singleton_append,
        List.splitOn_append_cons_self, induction, segments, segments, List.flatMap_cons,
        List.append_assoc]

/-- Rows of fields are written alike exactly if the same texts stand between their zero
characters. -/
theorem flatMap_encodeField_eq_iff {first second : List Text} :
    first.flatMap encodeField = second.flatMap encodeField ↔ segments first = segments second := by
  rw [flatMap_encodeField, flatMap_encodeField]
  constructor
  · intro same
    have split := congrArg (List.splitOn '\x00') (utf8_injective same)
    rw [splitOn_flatMap, splitOn_flatMap] at split
    exact List.append_cancel_right split
  · intro same
    have joined := congrArg (fun texts => ['\x00'].intercalate (texts ++ [[]])) same
    simp only [← splitOn_flatMap, List.intercalate_splitOn] at joined
    rw [joined]

/-- Rows of fields without zero characters are written differently. -/
theorem flatMap_encodeField_injective {first second : List Text}
    (zero_free : ∀ field ∈ first, '\x00' ∉ field) (zero_free' : ∀ field ∈ second, '\x00' ∉ field)
    (same : first.flatMap encodeField = second.flatMap encodeField) : first = second := by
  have texts := flatMap_encodeField_eq_iff.mp same
  rwa [segments_of_zero_free zero_free, segments_of_zero_free zero_free'] at texts

theorem length_splitOn (text : Text) :
    (text.splitOn '\x00').length = text.count '\x00' + 1 := by
  induction text with
  | nil => rfl
  | cons char rest induction =>
      rw [List.splitOn_cons_eq_if_modifyHead, List.count_cons]
      split <;> simp [induction]

/-- Fields can be told apart by what stands between their zero characters and where these stand. -/
theorem eq_of_segments_eq {first second : List Text} (texts : segments first = segments second)
    (places : zeros first = zeros second) : first = second := by
  have lengths (fields : List Text) :
      (fields.map fun field => field.splitOn '\x00').map List.length =
        (zeros fields).map (· + 1) := by
    rw [zeros, List.map_map, List.map_map]
    exact List.map_congr_left fun field _ => length_splitOn field
  have split : (first.map fun field => field.splitOn '\x00') =
      second.map fun field => field.splitOn '\x00' := by
    refine List.eq_iff_flatten_eq.mpr ⟨?_, by rw [lengths, lengths, places]⟩
    rw [← List.flatMap_def, ← List.flatMap_def]
    exact texts
  refine (List.map_inj_right fun field field' same => ?_).mp split
  calc field
    _ = ['\x00'].intercalate (field.splitOn '\x00') := (List.intercalate_splitOn '\x00').symm
    _ = field' := by rw [same, List.intercalate_splitOn]

/-! ## Requests -/

/-- The texts that a request is made of. -/
def texts (identifier stageName : Text) (options : Options) : List Text :=
  identifier :: stageName :: (options.defines.toList ++ options.includes)

theorem zero_notMem_decimal (number : Nat) : '\x00' ∉ Text.decimal number := by
  intro zero
  have digit := Nat.isDigit_of_mem_toDigits (by decide) (by decide) zero
  simp at digit

/-- The fields of a request are its texts and some numerals. -/
theorem zero_notMem_of_mem_fields {identifier stageName : Text} {options : Options}
    (zero_free : ∀ text ∈ texts identifier stageName options, '\x00' ∉ text) :
    ∀ field ∈ fields identifier stageName options, '\x00' ∉ field := by
  intro field member
  simp only [fields, List.cons_append, List.nil_append, List.mem_cons, List.mem_append] at member
  rcases member with rfl | rfl | rfl | rfl | defined | rfl | included
  · exact zero_free _ (by simp [texts])
  · exact zero_free _ (by simp [texts])
  · exact zero_notMem_decimal _
  · exact zero_notMem_decimal _
  · exact zero_free field (by simp [texts, defined])
  · exact zero_notMem_decimal _
  · exact zero_free field (by simp [texts, included])

/-- The fields of options behind the number of the definitions. -/
def lists (options : Options) : List Text :=
  options.defines.toList ++ Text.decimal options.includes.length :: options.includes

theorem fields_eq (identifier stageName : Text) (options : Options) :
    fields identifier stageName options =
      [identifier, stageName] ++
        ([Text.decimal options.version, Text.decimal options.defines.toList.length] ++
          lists options) := by
  simp [fields, lists]

/-- The counts tell where the definitions end and the includes start. -/
theorem eq_of_lists_eq {options options' : Options} (versions : options.version = options'.version)
    (counts : options.defines.toList.length = options'.defines.toList.length)
    (same : lists options = lists options') : options = options' := by
  obtain ⟨defines, includes⟩ := List.append_inj same counts
  obtain ⟨_, _, _⟩ := options
  obtain ⟨_, _, _⟩ := options'
  obtain rfl := versions
  obtain rfl := TextSet.eq_of_toList_eq defines
  obtain rfl := (List.cons.inj includes).2
  rfl

theorem fields_injective {identifier stageName identifier' stageName' : Text}
    {options options' : Options}
    (same : fields identifier stageName options = fields identifier' stageName' options') :
    identifier = identifier' ∧ stageName = stageName' ∧ options = options' := by
  simp only [fields_eq, List.cons_append, List.nil_append, List.cons.injEq] at same
  obtain ⟨identifiers, stageNames, versions, counts, behind⟩ := same
  exact ⟨identifiers, stageNames, eq_of_lists_eq (Text.decimal_injective versions)
    (Text.decimal_injective counts) behind⟩

/-- Two requests whose texts hold no zero character are written alike exactly if they are for the
same identifier and stage name under equal options. In the options the version counts, the set of
the definitions, in whatever order and however often they were given, and the list of includes. -/
theorem encode_eq_encode_iff {identifier stageName identifier' stageName' : Text}
    {options options' : Options} {definitions definitions' : List Text}
    (zero_free : ∀ text ∈ texts identifier stageName (options.addDefines definitions),
      '\x00' ∉ text)
    (zero_free' : ∀ text ∈ texts identifier' stageName' (options'.addDefines definitions'),
      '\x00' ∉ text) :
    (encode identifier stageName (options.addDefines definitions) =
        encode identifier' stageName' (options'.addDefines definitions') ↔
      identifier = identifier' ∧ stageName = stageName' ∧
        options.addDefines definitions = options'.addDefines definitions') ∧
    (options.addDefines definitions = options'.addDefines definitions' ↔
      options.version = options'.version ∧
        (∀ text, text ∈ definitions ∨ options.defines.contains text = true ↔
          text ∈ definitions' ∨ options'.defines.contains text = true) ∧
        options.includes = options'.includes) := by
  constructor
  · constructor
    · intro same
      exact fields_injective (flatMap_encodeField_injective
        (zero_notMem_of_mem_fields zero_free) (zero_notMem_of_mem_fields zero_free') same)
    · rintro ⟨rfl, rfl, same⟩
      rw [same]
  · simp only [Options.eq_iff, Options.version_addDefines, Options.includes_addDefines,
      Options.contains_addDefines]

/-- A definition that looks like the number of includes, given twice, against one definition and an
include. -/
theorem encode_ne_encode_of_lookalike :
    (∀ text ∈ texts "lamp".toList "vertex".toList
        ((Options.ofVersion 330).addDefines [['1'], ['A'], ['1']]), '\x00' ∉ text) ∧
      (∀ text ∈ texts "lamp".toList "vertex".toList
        (((Options.ofVersion 330).addInclude ['A']).addDefines [['1']]), '\x00' ∉ text) ∧
      encode "lamp".toList "vertex".toList
          ((Options.ofVersion 330).addDefines [['1'], ['A'], ['1']]) ≠
        encode "lamp".toList "vertex".toList
          (((Options.ofVersion 330).addInclude ['A']).addDefines [['1']]) := by
  have zero_free : ∀ text ∈ texts "lamp".toList "vertex".toList
      ((Options.ofVersion 330).addDefines [['1'], ['A'], ['1']]), '\x00' ∉ text := by decide
  have zero_free' : ∀ text ∈ texts "lamp".toList "vertex".toList
      (((Options.ofVersion 330).addInclude ['A']).addDefines [['1']]), '\x00' ∉ text := by decide
  refine ⟨zero_free, zero_free', ?_⟩
  intro same
  obtain ⟨written, options⟩ := encode_eq_encode_iff zero_free zero_free'
  obtain ⟨-, -, includes⟩ := options.mp (written.mp same).2.2
  contradiction

/-! ## Zero characters -/

theorem segments_fields (identifier stageName : Text) (options : Options) :
    segments (fields identifier stageName options) =
      segments [identifier, stageName] ++
        ([Text.decimal options.version, Text.decimal options.defines.toList.length] ++
          segments (lists options)) := by
  have numerals : segments
      [Text.decimal options.version, Text.decimal options.defines.toList.length] =
        [Text.decimal options.version, Text.decimal options.defines.toList.length] :=
    segments_of_zero_free (by simp [zero_notMem_decimal])
  rw [fields_eq, segments_append, segments_append, numerals]

/-- For one identifier and one stage name, options with any texts are written alike exactly if the
versions and the numbers of definitions are the same, and the texts between the zero characters of
what follows, those that end the fields included. Options that are written alike are equal exactly
if their zero characters are spread over the fields in the same way. -/
theorem encode_options_eq_iff (identifier stageName : Text) (options options' : Options) :
    (encode identifier stageName options = encode identifier stageName options' ↔
      options.version = options'.version ∧
        options.defines.toList.length = options'.defines.toList.length ∧
        segments (lists options) = segments (lists options')) ∧
    (options = options' ↔
      encode identifier stageName options = encode identifier stageName options' ∧
        zeros (lists options) = zeros (lists options')) := by
  have written : encode identifier stageName options = encode identifier stageName options' ↔
      options.version = options'.version ∧
        options.defines.toList.length = options'.defines.toList.length ∧
        segments (lists options) = segments (lists options') := by
    have decimal_inj (first second : Nat) :
        Text.decimal first = Text.decimal second ↔ first = second :=
      ⟨Text.decimal_injective, congrArg Text.decimal⟩
    rw [encode, encode, flatMap_encodeField_eq_iff, segments_fields, segments_fields,
      List.append_cancel_left_eq]
    simp only [List.cons_append, List.nil_append, List.cons.injEq, decimal_inj]
  refine ⟨written, ?_⟩
  constructor
  · rintro rfl
    exact ⟨rfl, rfl⟩
  · rintro ⟨same, places⟩
    obtain ⟨version, count, texts⟩ := written.mp same
    exact eq_of_lists_eq version count (eq_of_segments_eq texts places)

/-- A zero character in a definition ends it early: what follows in it passes for the number of the
includes, and that number for an include. -/
theorem define_passes_for_include :
    let defined := (Options.ofVersion 150).addDefine "A 1\x001".toList
    let included := ((Options.ofVersion 150).addDefine "A 1".toList).addInclude "0".toList
    defined ≠ included ∧
      encode "lamp".toList "vertex".toList defined =
        encode "lamp".toList "vertex".toList included ∧
      ofObject "lamp".toList .vertex defined = ofObject "lamp".toList .vertex included := by
  intro defined included
  have same : encode "lamp".toList "vertex".toList defined =
      encode "lamp".toList "vertex".toList included := flatMap_encodeField_eq_iff.mpr (by decide)
  refine ⟨by decide, same, ?_⟩
  exact congrArg (fun bytes => (Digest.hash bytes).flatMap hexByte) same

end Identity

end GlslBuild
