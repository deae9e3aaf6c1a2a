import GlslBuild.Proofs.Definition.Spelling
import GlslBuild.Proofs.Emission

/-!
# Definitions in front of the lines

A name can be defined by a text before lines are preprocessed, or by a directive in front of them
that has the text for its arguments. The directive loses its comments, the text does not. So both
come to the same for the text without its comments, and for the text itself only if it has none or
if it defines nothing either way.
-/

namespace GlslBuild

/-! ## What a definition takes from its text -/

namespace Definition

theorem parse_congr {first second : Text} (same : Text.trim first = Text.trim second) :
    parse first = parse second := by
  rw [parse, parse, same]

/-- The name and the parameters stand in front of the replacement. -/
theorem exists_of_parse {text : Text} {definition : Definition}
    (parsed : parse text = .ok definition) :
    ∃ front rest, Text.trim text = front ++ rest ∧ '/' ∉ front ∧
      definition.replacement.body = Text.trim rest := by
  have slash {name : Text} (identifier : Text.isIdentifier name = true) : '/' ∉ name := by
    intro member
    have continues := (Text.all_of_isIdentifier identifier).2 '/' member
    contradiction
  have defines := parse_eq_ok_iff.mp parsed
  generalize Text.trim text = trimmed at defines
  cases defines with
  | text identifier => exact ⟨_, _, rfl, slash identifier, rfl⟩
  | @template name list rest params identifier lists identifiers =>
      have list_plain : '/' ∉ list := lists.notMem identifiers (by decide) (by decide) (by decide)
      refine ⟨name ++ '(' :: list ++ [')'], rest, by simp, ?_, rfl⟩
      simp [slash identifier, list_plain]

theorem body_infix_of_parse {text : Text} {definition : Definition}
    (parsed : parse text = .ok definition) : definition.replacement.body <:+: text := by
  obtain ⟨front, rest, split, -, body_eq⟩ := exists_of_parse parsed
  rw [body_eq]
  have rest_suffix : rest <:+ Text.trim text := split ▸ List.suffix_append front rest
  exact (Text.trim_infix rest).trans (rest_suffix.isInfix.trans (Text.trim_infix text))

/-- A comment in a text that defines a name is part of the replacement. -/
theorem bare_of_parse {text : Text} {definition : Definition}
    (parsed : parse text = .ok definition) (bare : Comment.Bare definition.replacement.body) :
    Comment.Bare text := by
  obtain ⟨front, rest, split, plain, body_eq⟩ := exists_of_parse parsed
  rw [body_eq] at bare
  have trimmed_bare : Comment.Bare (Text.trim text) := by
    rw [split]
    exact (Comment.bare_of_bare_trim bare).append_left plain
  exact Comment.bare_of_bare_trim trimmed_bare

/-- The line of a directive with a text that defines a name for its arguments. -/
def directiveLine (text : Text) : Text := "#define ".toList ++ text

end Definition

/-! ## The directive of a definition -/

namespace Item

open Definition (directiveLine)

theorem dropReturns_directiveLine (text : Text) :
    Text.dropReturns (directiveLine text) = directiveLine (Text.dropReturns text) :=
  Text.dropReturns_append_space ('#' :: "define".toList) text

/-- A directive that defines something has the text without its comments for its arguments. -/
theorem classify_directiveLine {text : Text} (single : Text.SingleLine text) :
    classify (directiveLine text) =
      .directive ⟨.define, Text.trim (Comment.strip text)⟩ := by
  have plain : '/' ∉ "#define ".toList := by decide
  have stripped : Comment.strip (directiveLine text) = directiveLine (Comment.strip text) :=
    Comment.stripFrom_append plain text
  have unbroken : '\n' ∉ directiveLine (Comment.strip text) := by
    intro newline
    rcases List.mem_append.mp newline with in_keyword | in_text
    · exact absurd in_keyword (by decide)
    · rcases Comment.mem_stripFrom in_text with inside | same
      · exact single inside
      · contradiction
  have keyword_first : said (directiveLine (Comment.strip text)) =
      .directive ⟨.define, Text.trim (' ' :: Comment.strip text)⟩ :=
    said_keyword_append .define (by rintro char ⟨⟩; decide)
  rw [classify_eq, cleaned, stripped, Text.replaceChar_of_notMem unbroken, keyword_first,
    Text.trim_cons_of_blank (by decide)]

/-- A directive that is complete on its line is read on its own. -/
theorem reads_directiveLine {text : Text} (single : Text.SingleLine text)
    (whole : Conclude [] [directiveLine text]) (lines : List Text) :
    Reads false (.directive ⟨.define, Text.trim (Comment.strip text)⟩) [directiveLine text]
      lines := by
  have starts : startsDirective (directiveLine text) = true := rfl
  have read := Reads.directive rfl starts (IsExtent.of_conclude whole lines)
  have ended : continued? (directiveLine text) = none := (conclude_singleton_iff.mp whole).1
  have returned : Text.SingleLine (Text.dropReturns text) :=
    single.of_subset (Text.dropEndWhile_subset _ text)
  rw [joined, ended, Option.getD_none, dropReturns_directiveLine, classify_directiveLine returned,
    Comment.trim_strip_dropReturns] at read
  exact read

theorem scan_directiveLine {text : Text} (single : Text.SingleLine text)
    (whole : Conclude [] [directiveLine text]) (lines : List Text) :
    scan (directiveLine text :: lines) =
      ⟨1, .directive ⟨.define, Text.trim (Comment.strip text)⟩⟩ :: (scan lines).map (shift 1) := by
  have items := Cursor.items_of_reads (reads_directiveLine single whole lines) 1
  change scan (directiveLine text :: lines) = _ :: Cursor.items ⟨1 + 1, false, lines⟩ at items
  rw [items, Cursor.items_add]
  rfl

end Item

/-! ## Definitions and directives -/

/-- The effects differ at most in what they say about a failure. -/
def Effect.Agrees {State : Type} (first second : Effect State) : Prop :=
  first.state = second.state ∧ first.result.toOption = second.result.toOption

theorem Effect.agrees_shift {State : Type} (count : Nat) (effect : Effect State) :
    effect.Agrees (effect.shift count) := by
  obtain ⟨state, result⟩ := effect
  cases result <;> exact ⟨rfl, rfl⟩

namespace Context

open Definition (directiveLine)

variable {passLimit : Nat}

/-- Defines what a text says, and preprocesses lines with it, unless the text cannot be read. -/
def predefine (context : Context) (passLimit : Nat) (text : Text) (lines : List Text) :
    Effect Context :=
  match context.defineText text with
  | .error error => .stop 0 (.definition error) context
  | .ok next => (next.process passLimit lines).effect

theorem predefine_congr {first second : Text} (same : Text.trim first = Text.trim second)
    (context : Context) (lines : List Text) :
    context.predefine passLimit first lines = context.predefine passLimit second lines := by
  rw [predefine, predefine, defineText, defineText, Definition.parse_congr same]

theorem endLine_cons_map_shift (count : Nat) (content : Content) (items : List Item) :
    endLine (⟨count, content⟩ :: items.map (Item.shift count)) = count + endLine items := by
  by_cases none_behind : items = []
  · rw [none_behind]
    rfl
  · exact endLine_append none_behind [⟨count, content⟩] count

/-- The directive does what the definition does that its arguments give. -/
theorem effect_processItems_define {context : Context} (active : context.isActive = true)
    (args : Text) (lines : List Text) :
    (context.processItems passLimit
      (⟨1, .directive ⟨.define, args⟩⟩ :: (Item.scan lines).map (Item.shift 1))).effect =
        (context.predefine passLimit args lines).shift 1 := by
  have stepped : context.step passLimit (Leaf.define args).content = _ :=
    step_leaf_of_active active (.define args)
  rw [effect_processItems, endLine_cons_map_shift, checkClosed_add, predefine, defineText]
  cases read : Definition.parse args with
  | error error =>
      simp only [Leaf.content, Leaf.perform, read] at stepped
      rw [advance_cons, stepped]
      rfl
  | ok definition =>
      simp only [Leaf.content, Leaf.perform, read] at stepped
      rw [advance_cons_of_quiet stepped, advance_map_shift, ← Effect.shift_andThen,
        ← effect_processItems]
      rfl

theorem predefine_of_parse_error {text : Text} {error : DefinitionError}
    (refused : Definition.parse text = .error error) (context : Context) (lines : List Text) :
    context.predefine passLimit text lines = .stop 0 (.definition error) context := by
  rw [predefine, defineText, refused]
  rfl

theorem predefine_of_parse_ok {text : Text} {definition : Definition}
    (parsed : Definition.parse text = .ok definition) (context : Context) (lines : List Text) :
    context.predefine passLimit text lines =
      ((context.define definition).process passLimit lines).effect := by
  rw [predefine, defineText, parsed]
  rfl

/-- Nothing but the definition comes of a definition without lines behind it. -/
theorem process_define_nil (definition : Definition) :
    ((empty.define definition).process passLimit []).effect = .idle (empty.define definition) := by
  rw [process, Item.scan, Item.scanFrom]
  rfl

theorem define_empty_inj {first second : Definition}
    (same : empty.define first = empty.define second) : first = second := by
  obtain ⟨name, replacement⟩ := first
  obtain ⟨other_name, other_replacement⟩ := second
  obtain ⟨tables, -⟩ := Context.mk.inj same
  have entries : [(name, replacement)] = [(other_name, other_replacement)] :=
    congrArg Table.entries tables
  simpa using entries

/-- Two texts come to the same in front of all lines exactly if they define the same or both define
nothing. -/
theorem predefine_agrees_iff (first second : Text) :
    (∀ (context : Context) (passLimit : Nat) (lines : List Text), context.isActive = true →
      (context.predefine passLimit first lines).Agrees
        ((context.predefine passLimit second lines).shift 1)) ↔
      ∀ definition, Definition.parse first = .ok definition ↔
        Definition.parse second = .ok definition := by
  cases first_read : Definition.parse first with
  | error error =>
      cases second_read : Definition.parse second with
      | error other =>
          refine iff_of_true (fun context passLimit lines _ => ?_) (by simp)
          rw [predefine_of_parse_error first_read, predefine_of_parse_error second_read]
          exact ⟨rfl, rfl⟩
      | ok definition =>
          refine iff_of_false (fun agrees => ?_) (fun same => nomatch (same definition).mpr rfl)
          have results := (agrees empty 0 [] rfl).2
          rw [predefine_of_parse_error first_read, predefine_of_parse_ok second_read,
            process_define_nil] at results
          contradiction
  | ok definition =>
      cases second_read : Definition.parse second with
      | error error =>
          refine iff_of_false (fun agrees => ?_) (fun same => nomatch (same definition).mp rfl)
          have results := (agrees empty 0 [] rfl).2
          rw [predefine_of_parse_ok first_read, predefine_of_parse_error second_read,
            process_define_nil] at results
          contradiction
      | ok other =>
          constructor
          · intro agrees
            have states := (agrees empty 0 [] rfl).1
            rw [predefine_of_parse_ok first_read, predefine_of_parse_ok second_read,
              process_define_nil, process_define_nil] at states
            obtain rfl := define_empty_inj states
            exact fun _ => Iff.rfl
          · intro same context passLimit lines _
            obtain rfl := Except.ok.inj ((same definition).mp rfl)
            rw [predefine_of_parse_ok first_read, predefine_of_parse_ok second_read]
            exact Effect.agrees_shift 1 _

/-- A text defines the same without its comments exactly if it has none, or if it defines nothing
with comments or without. -/
theorem parse_strip_iff (text : Text) :
    (∀ definition, Definition.parse text = .ok definition ↔
      Definition.parse (Comment.strip text) = .ok definition) ↔
      Comment.Bare text ∨ ∀ definition, Definition.parse text ≠ .ok definition ∧
        Definition.parse (Comment.strip text) ≠ .ok definition := by
  constructor
  · intro same
    by_cases bare : Comment.Bare text
    · exact .inl bare
    -- A definition from the stripped text has no comment, and one from the text would have it.
    have refused (definition : Definition) :
        Definition.parse (Comment.strip text) ≠ .ok definition := by
      intro parsed
      have stripped_bare : Comment.Bare (Comment.strip text) := Comment.bare_stripFrom false text
      exact bare (Definition.bare_of_parse ((same definition).mpr parsed)
        (stripped_bare.of_infix (Definition.body_infix_of_parse parsed)))
    exact .inr fun definition =>
      ⟨fun parsed => refused definition ((same definition).mp parsed), refused definition⟩
  · rintro (bare | refused) definition
    · rw [Comment.strip_of_bare bare]
    · exact iff_of_false (refused definition).1 (refused definition).2

/-- A directive in front of lines does what its text without the comments does, and what its text
does exactly if no comment begins in it, or if it defines nothing with comments or without. -/
theorem process_directiveLine {text : Text} (single : Text.SingleLine text)
    (whole : Item.Conclude [] [directiveLine text]) :
    (∀ (context : Context) (passLimit : Nat) (lines : List Text), context.isActive = true →
      (context.process passLimit (directiveLine text :: lines)).effect =
        (context.predefine passLimit (Comment.strip text) lines).shift 1) ∧
    ((∀ (context : Context) (passLimit : Nat) (lines : List Text), context.isActive = true →
      (context.predefine passLimit text lines).Agrees
        (context.process passLimit (directiveLine text :: lines)).effect) ↔
      Comment.Bare text ∨ ∀ definition, Definition.parse text ≠ .ok definition ∧
        Definition.parse (Comment.strip text) ≠ .ok definition) := by
  have directive (context : Context) (passLimit : Nat) (lines : List Text)
      (active : context.isActive = true) :
      (context.process passLimit (directiveLine text :: lines)).effect =
        (context.predefine passLimit (Comment.strip text) lines).shift 1 := by
    rw [process, Item.scan_directiveLine single whole, effect_processItems_define active,
      predefine_congr (Text.trim_trim _)]
  refine ⟨directive, ?_⟩
  rw [← parse_strip_iff, ← predefine_agrees_iff]
  refine forall₄_congr fun context passLimit lines active => ?_
  rw [directive context passLimit lines active]

/-- In a branch of a chain that is taken, a comment in a directive is not put in place of a call,
and a definition without a comment may stand in a directive or in front of the lines. -/
theorem process_directiveLine_lamp :
    let context := empty.push (Frame.opened true)
    let commented := "LAMP(a) a /* b */ + 1\r".toList
    let bare := "LAMP(a) a + 1 / 2".toList
    let lines := ["LAMP(2);", "#endif"].map String.toList
    Text.SingleLine commented ∧ Item.Conclude [] [directiveLine commented] ∧
      (context.process 8 (directiveLine commented :: lines)).result = .ok ["2   + 1;".toList] ∧
      Text.SingleLine bare ∧ Item.Conclude [] [directiveLine bare] ∧
      (context.predefine 8 bare lines).Agrees
        (context.process 8 (directiveLine bare :: lines)).effect := by
  intro context commented bare lines
  have commented_single : Text.SingleLine commented := by decide +kernel
  have commented_whole : Item.Conclude [] [directiveLine commented] := by decide +kernel
  have bare_single : Text.SingleLine bare := by decide +kernel
  have bare_whole : Item.Conclude [] [directiveLine bare] := by decide +kernel
  refine ⟨commented_single, commented_whole, ?_, bare_single, bare_whole, ?_⟩
  · have parsed : Definition.parse (Comment.strip commented) =
        .ok ⟨"LAMP".toList, .template ⟨["a".toList], "a   + 1".toList⟩⟩ := by decide +kernel
    have expanded : ((context.define
        ⟨"LAMP".toList, .template ⟨["a".toList], "a   + 1".toList⟩⟩).process 8 lines).result =
          .ok ["2   + 1;".toList] := by decide +kernel
    have effect := (process_directiveLine commented_single commented_whole).1 context 8 lines rfl
    rw [predefine_of_parse_ok parsed] at effect
    exact (congrArg Effect.result effect).trans (congrArg (Except.mapError _) expanded)
  · have no_comment : Comment.Bare bare := by decide +kernel
    exact (process_directiveLine bare_single bare_whole).2.mpr (.inl no_comment) context 8 lines rfl

/-- A comment in a text that defines a name takes the place of the name, too. -/
theorem predefine_puts_comment :
    let text := "LAMP 1 // b".toList
    let lines := ["LAMP".toList]
    Text.SingleLine text ∧ Item.Conclude [] [directiveLine text] ∧
      (empty.predefine 8 text lines).result = .ok ["1 // b".toList] ∧
      (empty.process 8 (directiveLine text :: lines)).result = .ok ["1".toList] := by
  intro text lines
  have single : Text.SingleLine text := by decide +kernel
  have whole : Item.Conclude [] [directiveLine text] := by decide +kernel
  have parsed : Definition.parse text = .ok ⟨"LAMP".toList, .text "1 // b".toList⟩ := by
    decide +kernel
  have read : (empty.process 8 (directiveLine text :: lines)).result = .ok ["1".toList] := by
    decide +kernel
  refine ⟨single, whole, ?_, read⟩
  have used : ((empty.define ⟨"LAMP".toList, .text "1 // b".toList⟩).process 8 lines).result =
      .ok ["1 // b".toList] := by decide +kernel
  rw [predefine_of_parse_ok parsed]
  exact used

end Context

end GlslBuild
