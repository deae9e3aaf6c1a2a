import GlslBuild.Proofs.Definition.ParameterList
import GlslBuild.Proofs.Expansion.SingleLine

/-!
# How definitions are written

A definition is written as its name, for a template its parameters in parentheses directly behind
the name, and the replacement behind a space. Reading gives back what was written, and it gives
nothing that cannot be written: names are identifiers, parameters are different identifiers, and the
replacement stands on one line without white space at its ends. A parenthesis directly behind the
name opens a list of parameters only if it is closed.
-/

namespace GlslBuild

namespace Text

theorem not_contains_newline_iff {text : Text} :
    ¬text.contains '\n' = true ↔ SingleLine text := by
  rw [List.contains_iff_mem, SingleLine]

/-- A text splits at its first separator. -/
theorem splitOnce_append {isSeparator : Char → Bool} {before : Text} {separator : Char}
    (clean : ∀ char ∈ before, isSeparator char = false) (separates : isSeparator separator = true)
    (after : Text) :
    splitOnce isSeparator (before ++ separator :: after) = some (before, after) := by
  induction before with
  | nil => simp [splitOnce, separates]
  | cons char before induction =>
      rw [List.forall_mem_cons] at clean
      simp [splitOnce, clean.1, induction clean.2]

end Text

/-! ## Reading a definition -/

/-- The parameters of a template. Plain text has none. -/
def Replacement.params : Replacement → List Text
  | .text _ => []
  | .template made => made.params

/-- The replacement before arguments take the place of parameters. -/
def Replacement.body : Replacement → Text
  | .text value => value
  | .template made => made.body

namespace Definition

/-- A list that is closed begins right here. -/
def Listed (tail : Text) : Prop := ∃ list rest, tail = '(' :: list ++ ')' :: rest

/-- What a text without white space at its ends defines: an identifier, behind it the parameters if
a list begins there and is closed, and the replacement on one line. -/
inductive Defines : Text → Definition → Prop where
  | text {name tail : Text} (identifier : Text.isIdentifier name = true)
      (ends : ∀ char ∈ tail.head?, endsName char = true) (unlisted : ¬Listed tail)
      (single : Text.SingleLine (Text.trim tail)) :
      Defines (name ++ tail) ⟨name, .text (Text.trim tail)⟩
  | template {name list rest : Text} {params : List Text}
      (identifier : Text.isIdentifier name = true) (lists : Template.Lists params list)
      (identifiers : ∀ param ∈ params, Text.isIdentifier param = true) (distinct : params.Nodup)
      (single : Text.SingleLine (Text.trim rest)) :
      Defines (name ++ ('(' :: list ++ ')' :: rest)) ⟨name, .template ⟨params, Text.trim rest⟩⟩

theorem splitParams_of_closed {list : Text} (unclosed : ')' ∉ list) (rest : Text) :
    splitParams ('(' :: list ++ ')' :: rest) = (some list, rest) := by
  have clean : ∀ char ∈ list, (char == ')') = false := by
    intro char member
    rw [beq_eq_false_iff_ne]
    rintro rfl
    exact unclosed member
  simp only [splitParams, List.cons_append, Text.splitOnce_append clean (beq_self_eq_true ')')]

theorem splitParams_of_not_listed {tail : Text} (unlisted : ¬Listed tail) :
    splitParams tail = (none, tail) := by
  unfold splitParams
  split
  · split
    · next list rest split =>
        obtain ⟨closing, same, rfl, -⟩ := Text.splitOnce_eq_some split
        obtain rfl : closing = ')' := beq_iff_eq.mp same
        exact absurd ⟨list, rest, rfl⟩ unlisted
    · rfl
  · rfl

/-- A list ends at the first parenthesis that closes. -/
theorem Listed.exists_closed {tail : Text} (listed : Listed tail) :
    ∃ list rest, tail = '(' :: list ++ ')' :: rest ∧ ')' ∉ list := by
  obtain ⟨list, rest, rfl⟩ := listed
  have closes : ')' ∈ list ++ ')' :: rest := by simp
  obtain ⟨first, later, split, unclosed⟩ := List.eq_append_cons_of_mem closes
  exact ⟨first, later, congrArg ('(' :: ·) split, unclosed⟩

/-- The name goes up to the first character that ends it. -/
theorem takeWhile_name {name tail : Text} (identifier : Text.isIdentifier name = true)
    (ends : ∀ char ∈ tail.head?, endsName char = true) :
    (name ++ tail).takeWhile (fun char => !endsName char) = name ∧
      (name ++ tail).dropWhile (fun char => !endsName char) = tail := by
  have plain : ∀ char ∈ name, (!endsName char) = true := by
    intro char member
    have continues := (Text.all_of_isIdentifier identifier).2 char member
    have visible := Text.isBlank_eq_false_of_continuesIdentifier continues
    have other : char ≠ '(' := by
      rintro rfl
      contradiction
    simp [endsName, visible, other]
  rw [List.takeWhile_append_of_pos plain, List.dropWhile_append_of_pos plain]
  cases tail with
  | nil => simp
  | cons char tail =>
      have stops : endsName char = true := ends char rfl
      simp [stops]

/-- Behind an identifier there are parameters or none, and the replacement. -/
theorem parse_of_identifier {text name tail : Text} (split : Text.trim text = name ++ tail)
    (identifier : Text.isIdentifier name = true)
    (ends : ∀ char ∈ tail.head?, endsName char = true) :
    parse text =
      if (Text.trimStart (splitParams tail).2).contains '\n' then .error .missingName
      else
        match (splitParams tail).1 with
        | none => .ok ⟨name, .text (Text.trim (splitParams tail).2)⟩
        | some list => (Template.readParams list).map fun params =>
            ⟨name, .template ⟨params, Text.trim (splitParams tail).2⟩⟩ := by
  obtain ⟨taken, left⟩ := takeWhile_name identifier ends
  have present : name.isEmpty = false :=
    List.isEmpty_eq_false_iff.mpr (Text.all_of_isIdentifier identifier).1
  generalize parts : splitParams tail = listed
  obtain ⟨list, rest⟩ := listed
  cases list <;> simp only [parse, split, taken, left, parts, present, identifier, Bool.false_or,
    Bool.not_true, Bool.false_eq_true, if_false]

theorem parse_of_not_listed {text name tail : Text} (split : Text.trim text = name ++ tail)
    (identifier : Text.isIdentifier name = true)
    (ends : ∀ char ∈ tail.head?, endsName char = true) (unlisted : ¬Listed tail) :
    parse text =
      if (Text.trim tail).contains '\n' then .error .missingName
      else .ok ⟨name, .text (Text.trim tail)⟩ := by
  have trimmed : Text.trim tail = Text.trimStart tail :=
    Text.trim_of_suffix (split ▸ List.suffix_append name tail)
  rw [parse_of_identifier split identifier ends, splitParams_of_not_listed unlisted, trimmed]

theorem parse_of_closed {text name list rest : Text}
    (split : Text.trim text = name ++ ('(' :: list ++ ')' :: rest))
    (identifier : Text.isIdentifier name = true) (unclosed : ')' ∉ list) :
    parse text =
      if (Text.trim rest).contains '\n' then .error .missingName
      else (Template.readParams list).map fun params =>
        ⟨name, .template ⟨params, Text.trim rest⟩⟩ := by
  have suffix : rest <:+ Text.trim text := ⟨name ++ ('(' :: list ++ [')']), by simp [split]⟩
  rw [parse_of_identifier split identifier (by rintro char ⟨⟩; decide),
    splitParams_of_closed unclosed, Text.trim_of_suffix suffix]

theorem exists_name_of_parse {text : Text} {definition : Definition}
    (parsed : parse text = .ok definition) :
    ∃ tail, Text.trim text = definition.name ++ tail ∧
      Text.isIdentifier definition.name = true ∧ ∀ char ∈ tail.head?, endsName char = true := by
  simp only [parse] at parsed
  have name_tail : (Text.trim text).takeWhile (fun char => !endsName char) ++
      (Text.trim text).dropWhile (fun char => !endsName char) = Text.trim text :=
    List.takeWhile_append_dropWhile
  have stops := List.head?_dropWhile_not (fun char => !endsName char) (Text.trim text)
  generalize (Text.trim text).takeWhile (fun char => !endsName char) = name at parsed name_tail
  generalize (Text.trim text).dropWhile (fun char => !endsName char) = tail
    at parsed name_tail stops
  have ends : ∀ char ∈ tail.head?, endsName char = true := by
    intro char head
    rw [Option.mem_def.mp head] at stops
    simpa using stops
  split at parsed
  · contradiction
  split at parsed
  · contradiction
  next identifier =>
    have same_name : definition.name = name := by
      cases list : (splitParams tail).1 with
      | none =>
          rw [list] at parsed
          rw [← Except.ok.inj parsed]
      | some list =>
          rw [list] at parsed
          obtain ⟨params, -, rfl⟩ := exists_of_map_eq_ok parsed
          rfl
    rw [same_name]
    exact ⟨tail, name_tail.symm, by simpa using identifier, ends⟩

/-- Reading gives what the text defines without the white space at its ends. -/
theorem parse_eq_ok_iff {text : Text} {definition : Definition} :
    parse text = .ok definition ↔ Defines (Text.trim text) definition := by
  constructor
  · intro parsed
    obtain ⟨tail, split, identifier, ends⟩ := exists_name_of_parse parsed
    rw [split]
    by_cases listed : Listed tail
    · obtain ⟨list, rest, rfl, unclosed⟩ := listed.exists_closed
      rw [parse_of_closed split identifier unclosed] at parsed
      split at parsed
      · contradiction
      next single =>
        obtain ⟨params, read, same⟩ := exists_of_map_eq_ok parsed
        obtain ⟨lists, identifiers, distinct⟩ := Template.readParams_eq_ok_iff.mp read
        have defines := Defines.template identifier lists identifiers distinct
          (Text.not_contains_newline_iff.mp single)
        rwa [same] at defines
    · rw [parse_of_not_listed split identifier ends listed] at parsed
      split at parsed
      · contradiction
      next single =>
        have defines :=
          Defines.text identifier ends listed (Text.not_contains_newline_iff.mp single)
        rwa [Except.ok.inj parsed] at defines
  · generalize split : Text.trim text = trimmed
    intro defines
    cases defines with
    | text identifier ends unlisted single =>
        rw [parse_of_not_listed split identifier ends unlisted,
          if_neg (Text.not_contains_newline_iff.mpr single)]
    | @template name list rest params identifier lists identifiers distinct single =>
        -- The names in a list hold no parenthesis, so it ends at the first one that closes.
        have unclosed : ')' ∉ list :=
          lists.notMem identifiers (by decide) (by decide) (by decide)
        rw [parse_of_closed split identifier unclosed,
          if_neg (Text.not_contains_newline_iff.mpr single),
          Template.readParams_eq_ok_iff.mpr ⟨lists, identifiers, distinct⟩]
        rfl

/-! ## A parenthesis directly behind the name -/

theorem listed_cons_iff {inner : Text} : Listed ('(' :: inner) ↔ ')' ∈ inner := by
  constructor
  · rintro ⟨list, rest, split⟩
    rw [List.cons_append, List.cons.injEq] at split
    rw [split.2]
    exact List.mem_append_right list List.mem_cons_self
  · intro closes
    obtain ⟨list, rest, rfl⟩ := List.append_of_mem closes
    exact ⟨list, rest, rfl⟩

theorem eq_and_eq_of_append_eq {name other tail rest : Text}
    (identifier : Text.isIdentifier name = true) (other_identifier : Text.isIdentifier other = true)
    (ends : ∀ char ∈ tail.head?, endsName char = true)
    (other_ends : ∀ char ∈ rest.head?, endsName char = true)
    (same : name ++ tail = other ++ rest) : name = other ∧ tail = rest := by
  obtain ⟨name_eq, tail_eq⟩ := takeWhile_name identifier ends
  obtain ⟨other_eq, rest_eq⟩ := takeWhile_name other_identifier other_ends
  rw [same] at name_eq tail_eq
  exact ⟨name_eq.symm.trans other_eq, tail_eq.symm.trans rest_eq⟩

theorem endsName_head?_cons (inner : Text) :
    ∀ char ∈ ('(' :: inner : Text).head?, endsName char = true := by
  rintro char ⟨⟩
  decide

theorem defines_opening_text_iff {name other inner value : Text}
    (identifier : Text.isIdentifier name = true)
    (spaceless : Text.trim ('(' :: inner) = '(' :: inner) :
    Defines (name ++ '(' :: inner) ⟨other, .text value⟩ ↔
      other = name ∧ value = '(' :: inner ∧ ')' ∉ inner ∧ Text.SingleLine inner := by
  constructor
  · generalize split : name ++ '(' :: inner = trimmed
    intro defines
    cases defines with
    | text other_identifier ends unlisted single =>
        obtain ⟨rfl, rfl⟩ := eq_and_eq_of_append_eq identifier other_identifier
          (endsName_head?_cons inner) ends split
        rw [spaceless, Text.singleLine_cons_iff] at single
        exact ⟨rfl, spaceless, listed_cons_iff.not.mp unlisted, single.2⟩
  · rintro ⟨rfl, rfl, unclosed, single⟩
    have defines : Defines (other ++ '(' :: inner) ⟨other, .text (Text.trim ('(' :: inner))⟩ :=
      .text identifier (endsName_head?_cons inner) (listed_cons_iff.not.mpr unclosed)
        (by rw [spaceless]; exact Text.singleLine_cons_iff.mpr ⟨by decide, single⟩)
    rwa [spaceless] at defines

theorem defines_opening_template_iff {name other inner body : Text} {params : List Text}
    (identifier : Text.isIdentifier name = true) :
    Defines (name ++ '(' :: inner) ⟨other, .template ⟨params, body⟩⟩ ↔
      other = name ∧ ∃ list rest, inner = list ++ ')' :: rest ∧ Template.Lists params list ∧
        (∀ param ∈ params, Text.isIdentifier param = true) ∧ params.Nodup ∧
        body = Text.trim rest ∧ Text.SingleLine body := by
  constructor
  · generalize split : name ++ '(' :: inner = trimmed
    intro defines
    cases defines with
    | @template _ list rest _ other_identifier lists identifiers distinct single =>
        obtain ⟨rfl, same⟩ := eq_and_eq_of_append_eq identifier other_identifier
          (endsName_head?_cons inner) (endsName_head?_cons (list ++ ')' :: rest)) split
        rw [List.cons.injEq] at same
        exact ⟨rfl, list, rest, same.2, lists, identifiers, distinct, rfl, single⟩
  · rintro ⟨rfl, list, rest, rfl, lists, identifiers, distinct, rfl, single⟩
    exact .template identifier lists identifiers distinct single

/-- Where a parenthesis opens directly behind the name, the list in it gives the parameters if it is
closed. If it is not, the parenthesis belongs to the text that the name stands for. -/
theorem parse_opening_iff {text name inner : Text} {definition : Definition}
    (identifier : Text.isIdentifier name = true) (opens : Text.trim text = name ++ '(' :: inner) :
    parse text = .ok definition ↔
      definition.name = name ∧
        match definition.replacement with
        | .text value => value = '(' :: inner ∧ ')' ∉ inner ∧ Text.SingleLine inner
        | .template ⟨params, body⟩ =>
            ∃ list rest, inner = list ++ ')' :: rest ∧ Template.Lists params list ∧
              (∀ param ∈ params, Text.isIdentifier param = true) ∧ params.Nodup ∧
              body = Text.trim rest ∧ Text.SingleLine body := by
  have spaceless : Text.trim ('(' :: inner) = '(' :: inner :=
    Text.trim_of_suffix (opens ▸ List.suffix_append name ('(' :: inner))
  obtain ⟨other, value | ⟨params, body⟩⟩ := definition
  · rw [parse_eq_ok_iff, opens, defines_opening_text_iff identifier spaceless]
  · rw [parse_eq_ok_iff, opens, defines_opening_template_iff identifier]

theorem parse_opening_iff_half :
    parse "HALF( x ) x * 0.5".toList =
      .ok ⟨"HALF".toList, .template ⟨["x".toList], "x * 0.5".toList⟩⟩ := by
  have pads : List.Forall₂ Text.Pads [" x ".toList] ["x".toList] :=
    .cons ⟨" ".toList, " ".toList, List.all_eq_true.mp rfl, List.all_eq_true.mp rfl, rfl⟩ .nil
  have lists : Template.Lists ["x".toList] " x ".toList := .separated (by decide) pads
  have identifier : Text.isIdentifier "HALF".toList = true := by decide
  have opens : Text.trim "HALF( x ) x * 0.5".toList =
      "HALF".toList ++ '(' :: " x ) x * 0.5".toList := by decide
  exact (parse_opening_iff identifier opens).mpr
    ⟨rfl, " x ".toList, " x * 0.5".toList, by decide, lists, by decide, by decide, by decide,
      by decide⟩

/-- A list of parameters that is never closed is taken for a text. -/
theorem parse_unclosed_list :
    ¬∀ (text name inner : Text), Text.isIdentifier name = true →
      Text.trim text = name ++ '(' :: inner →
        ∀ definition, parse text = .ok definition →
          ∃ made, definition.replacement = .template made := by
  intro always
  have read : parse "LAMP(a".toList = .ok ⟨"LAMP".toList, .text "(a".toList⟩ := by decide
  obtain ⟨made, same⟩ :=
    always "LAMP(a".toList "LAMP".toList "a".toList (by decide) (by decide) _ read
  contradiction

/-! ## Writing a definition -/

/-- What definitions that are read look like. -/
structure Proper (definition : Definition) : Prop where
  name : Text.isIdentifier definition.name = true
  params : ∀ param ∈ definition.replacement.params, Text.isIdentifier param = true
  distinct : definition.replacement.params.Nodup
  single : Text.SingleLine definition.replacement.body
  trimmed : Text.trim definition.replacement.body = definition.replacement.body

/-- A text that a definition is written as. The space may be left out if nothing follows it. -/
inductive Written : Definition → Text → Prop where
  | bare (name : Text) : Written ⟨name, .text []⟩ name
  | text (name value : Text) : Written ⟨name, .text value⟩ (name ++ ' ' :: value)
  | template (name body : Text) {params : List Text} {list : Text}
      (lists : Template.Lists params list) :
      Written ⟨name, .template ⟨params, body⟩⟩ (name ++ ('(' :: list ++ ')' :: ' ' :: body))

/-- The definition written with a space behind each comma, and none without need. -/
def write (definition : Definition) : Text :=
  match definition.replacement with
  | .text [] => definition.name
  | .text value => definition.name ++ ' ' :: value
  | .template made =>
      definition.name ++ ('(' :: ", ".toList.intercalate made.params ++ ')' :: ' ' :: made.body)

theorem written_write (definition : Definition) : definition.Written definition.write := by
  obtain ⟨name, value | ⟨params, body⟩⟩ := definition
  · cases value with
    | nil => exact .bare name
    | cons char value => exact .text name (char :: value)
  · exact .template name body (Template.lists_intercalate params)

theorem Defines.proper {trimmed : Text} {definition : Definition}
    (defines : Defines trimmed definition) : definition.Proper := by
  cases defines with
  | text identifier ends unlisted single =>
      exact ⟨identifier, by simp [Replacement.params], List.nodup_nil, single, Text.trim_trim _⟩
  | template identifier lists identifiers distinct single =>
      exact ⟨identifier, identifiers, distinct, single, Text.trim_trim _⟩

/-- White space at the end of what is written goes if there is no replacement. -/
theorem trim_append_space {front body : Text} (front_ne_nil : front ≠ [])
    (first : ∀ char ∈ front.head?, Text.isBlank char = false)
    (last : ∀ char ∈ front.getLast?, Text.isBlank char = false)
    (trimmed : Text.trim body = body) :
    Text.trim (front ++ ' ' :: body) = if body = [] then front else front ++ ' ' :: body := by
  split
  · next empty =>
      rw [empty, Text.trim_append_of_blank (List.all_eq_true.mp rfl), Text.trim_eq_self first last]
  · next present =>
      refine Text.trim_eq_self ?_ ?_
      · rwa [List.head?_append_of_ne_nil front front_ne_nil]
      · rw [List.append_cons, List.getLast?_append_of_ne_nil _ present, ← trimmed]
        exact Text.isBlank_getLast?_trimEnd (Text.trimStart body)

theorem trim_space_cons {text : Text} (trimmed : Text.trim text = text) :
    Text.trim (' ' :: text) = text := by
  rw [Text.trim_cons_of_blank (by decide), trimmed]

theorem defines_bare {name : Text} (identifier : Text.isIdentifier name = true) :
    Defines (Text.trim name) ⟨name, .text []⟩ := by
  have defines : Defines (name ++ []) ⟨name, .text (Text.trim [])⟩ :=
    .text identifier (by simp) (by simp [Listed]) (by decide)
  rw [Text.trim_of_isIdentifier identifier]
  rwa [List.append_nil] at defines

theorem defines_text {name value : Text} (identifier : Text.isIdentifier name = true)
    (single : Text.SingleLine value) (trimmed : Text.trim value = value) :
    Defines (Text.trim (name ++ ' ' :: value)) ⟨name, .text value⟩ := by
  have visible := Text.isBlank_eq_false_of_isIdentifier identifier
  rw [trim_append_space (Text.all_of_isIdentifier identifier).1
    (fun char head => visible char (List.mem_of_head? head))
    (fun char last => visible char (List.mem_of_getLast? last)) trimmed]
  split
  · next empty =>
      have defines := defines_bare identifier
      rwa [Text.trim_of_isIdentifier identifier, ← empty] at defines
  · have spaced := trim_space_cons trimmed
    have unlisted : ¬Listed (' ' :: value) := by simp [Listed]
    have defines : Defines (name ++ ' ' :: value) ⟨name, .text (Text.trim (' ' :: value))⟩ :=
      .text identifier (by rintro char ⟨⟩; decide) unlisted (by rwa [spaced])
    rwa [spaced] at defines

theorem defines_template {name list body : Text} {params : List Text}
    (identifier : Text.isIdentifier name = true) (lists : Template.Lists params list)
    (identifiers : ∀ param ∈ params, Text.isIdentifier param = true) (distinct : params.Nodup)
    (single : Text.SingleLine body) (trimmed : Text.trim body = body) :
    Defines (Text.trim (name ++ ('(' :: list ++ ')' :: ' ' :: body)))
      ⟨name, .template ⟨params, body⟩⟩ := by
  have visible := Text.isBlank_eq_false_of_isIdentifier identifier
  have name_ne_nil := (Text.all_of_isIdentifier identifier).1
  have front_split : name ++ ('(' :: list ++ ')' :: ' ' :: body) =
      name ++ ('(' :: list ++ [')']) ++ ' ' :: body := by simp
  have first : ∀ char ∈ (name ++ ('(' :: list ++ [')'])).head?, Text.isBlank char = false := by
    rw [List.head?_append_of_ne_nil name name_ne_nil]
    exact fun char head => visible char (List.mem_of_head? head)
  have last : ∀ char ∈ (name ++ ('(' :: list ++ [')'])).getLast?, Text.isBlank char = false := by
    rw [← List.append_assoc, List.getLast?_append_of_ne_nil _ (List.cons_ne_nil ')' [])]
    rintro char ⟨⟩
    decide
  rw [front_split, trim_append_space (by simp) first last trimmed]
  split
  · next empty =>
      subst empty
      exact .template identifier lists identifiers distinct single
  · have spaced := trim_space_cons trimmed
    have defines : Defines (name ++ ('(' :: list ++ ')' :: ' ' :: body))
        ⟨name, .template ⟨params, Text.trim (' ' :: body)⟩⟩ :=
      .template identifier lists identifiers distinct (by rwa [spaced])
    rwa [spaced, front_split] at defines

/-- What is written defines the definition that it was written from. -/
theorem Proper.defines {definition : Definition} (proper : definition.Proper) {text : Text}
    (written : definition.Written text) : Defines (Text.trim text) definition := by
  obtain ⟨identifier, identifiers, distinct, single, trimmed⟩ := proper
  cases written with
  | bare => exact defines_bare identifier
  | text => exact defines_text identifier single trimmed
  | template name body lists =>
      exact defines_template identifier lists identifiers distinct single trimmed

/-- Reading and writing are inverse: what a proper definition is written as is read as it, and
whatever is read is proper, so that it can be written and read again. -/
theorem parse_of_written (definition : Definition) :
    definition.Written definition.write ∧
      (∀ text, definition.Written text → (parse text = .ok definition ↔ definition.Proper)) ∧
      ∀ text, parse text = .ok definition →
        definition.Proper ∧
          ∀ written, definition.Written written → parse written = .ok definition := by
  have read_of_proper (proper : definition.Proper) (text : Text)
      (written : definition.Written text) : parse text = .ok definition :=
    parse_eq_ok_iff.mpr (proper.defines written)
  have proper_of_read (text : Text) (read : parse text = .ok definition) : definition.Proper :=
    (parse_eq_ok_iff.mp read).proper
  refine ⟨definition.written_write, ?_, ?_⟩
  · intro text written
    exact ⟨proper_of_read text, fun proper => read_of_proper proper text written⟩
  · intro text read
    exact ⟨proper_of_read text read, read_of_proper (proper_of_read text read)⟩

theorem parse_of_written_scale :
    parse "SCALE(x,\ty\n) (x), (y)".toList =
      .ok ⟨"SCALE".toList, .template ⟨["x".toList, "y".toList], "(x), (y)".toList⟩⟩ := by
  have pads : List.Forall₂ Text.Pads ["x".toList, "\ty\n".toList] ["x".toList, "y".toList] :=
    .cons (.refl _) (.cons
      ⟨"\t".toList, "\n".toList, List.all_eq_true.mp rfl, List.all_eq_true.mp rfl, rfl⟩ .nil)
  have lists : Template.Lists ["x".toList, "y".toList] "x,\ty\n".toList :=
    .separated (by decide) pads
  have proper : Proper
      ⟨"SCALE".toList, .template ⟨["x".toList, "y".toList], "(x), (y)".toList⟩⟩ := by
    constructor <;> decide
  exact ((parse_of_written _).2.1 _ (.template _ _ lists)).mpr proper

end Definition

end GlslBuild
