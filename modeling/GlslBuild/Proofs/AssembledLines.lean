import GlslBuild.Diagnostic
import GlslBuild.Proofs.CommentRemoval
import GlslBuild.Proofs.Expansion.SingleLine
import GlslBuild.Proofs.VersionLines

/-!
# Lines that compilers see

Sources and options may hold newlines anywhere, and directives join lines. Still every assembled
line stands on one line, so compilers count the lines of the text as they were assembled, and an
annotated log shows the lines that the compiler complains about.
-/

namespace GlslBuild

/-! ## Items on one line -/

/-- What the item hands on stands on one line. -/
def Content.SingleLine : Content → Prop
  | .text written _ => Text.SingleLine written
  | .passThrough written => Text.SingleLine written
  | .directive said => Text.SingleLine said.args
  | .unknown _ => True

namespace Item

/-- The lines of a directive are joined to one. -/
theorem singleLine_classify (logical : Text) : (classify logical).SingleLine := by
  have cleaned := Text.singleLine_replaceChar (Comment.strip logical)
  simp only [classify]
  generalize Text.replaceChar '\n' ' ' (Comment.strip logical) = text at cleaned
  split
  · exact cleaned.of_subset (Text.trimEnd_subset text)
  · next keyword args taken =>
      split
      · exact cleaned.of_subset (Text.trimEnd_subset text)
      · split
        · have subset : keyword ++ args ⊆ text := by
            rw [← (Text.takeIdentifier?_eq_some taken).2]
            exact List.Subset.trans (Text.trimStart_subset _)
              (List.Subset.trans (List.drop_subset 1 _) (Text.trimStart_subset text))
          have args_single := (Text.singleLine_append_iff.mp (cleaned.of_subset subset)).2
          exact args_single.of_subset (Text.trim_subset args)
        · trivial

/-- From the first line on that begins no directive, every line is single. -/
def SingleBehindDirectives (lines : List Text) : Prop :=
  ∀ before line after, lines = before ++ line :: after →
    startsDirective (Text.dropReturns line) = false →
      ∀ other ∈ line :: after, Text.SingleLine other

theorem SingleBehindDirectives.of_append {read left : List Text}
    (behind : SingleBehindDirectives (read ++ left)) : SingleBehindDirectives left := by
  intro before line after split
  exact behind (read ++ before) line after (by rw [split, List.append_assoc])

/-- Ordinary lines are scanned as they are, and directives are joined. -/
theorem singleLine_of_mem_scanFrom {start : Nat} {inComment : Bool} {lines : List Text}
    (behind : SingleBehindDirectives lines)
    (inside : inComment = true → ∀ line ∈ lines, Text.SingleLine line) {item : Item}
    (member : item ∈ scanFrom start inComment lines) : item.content.SingleLine := by
  fun_induction scanFrom start inComment lines with
  | case1 => contradiction
  | case2 start inComment raw rest line ordinary induction =>
      have single : ∀ other ∈ raw :: rest, Text.SingleLine other := by
        rcases Bool.or_eq_true_iff.mp ordinary with open_comment | plain
        · exact inside open_comment
        · exact behind [] raw rest rfl (by simpa using plain)
      rcases List.mem_cons.mp member with rfl | member
      · exact (single raw List.mem_cons_self).of_subset (Text.dropEndWhile_subset _ raw)
      · exact induction (@behind.of_append [raw] rest)
          (fun _ other inside => single other (List.mem_cons_of_mem raw inside)) member
  | case3 start inComment raw rest line not_ordinary logical induction =>
      rcases List.mem_cons.mp member with rfl | member
      · exact singleLine_classify _
      · obtain ⟨read, split, -⟩ : ∃ read, rest = read ++ logical.2 ∧ _ :=
          exists_append_readLogical [] raw rest
        rw [split] at behind
        exact induction (@behind.of_append (raw :: read) logical.2)
          (fun inside => absurd inside Bool.false_ne_true) member

end Item

/-! ## Output on one line -/

theorem Directive.singleLine_toLine {directive : Directive}
    (single : Text.SingleLine directive.args) : Text.SingleLine directive.toLine := by
  have keyword_single : Text.SingleLine ('#' :: directive.keyword.text) := by
    cases directive.keyword <;> decide
  rw [Directive.toLine]
  split
  · exact keyword_single
  · exact Text.singleLine_append_iff.mpr
      ⟨keyword_single, Text.singleLine_cons_iff.mpr ⟨by decide, single⟩⟩

namespace Context

variable {context next : Context} {passLimit : Nat}

theorem singleLine_of_expandLine (definitions_single : context.definitions.SingleLine)
    {text expanded : Text} {inComment : Bool}
    (expands : context.expandLine passLimit text inComment = .ok expanded)
    (single : Text.SingleLine text) : Text.SingleLine expanded := by
  have none_yet : Text.SingleLine [] := List.not_mem_nil
  refine holds_of_foldlM ?_ none_yet expands
  intro span member done later done_single stepped
  have span_single : Text.SingleLine span.toText := by
    intro newline
    apply single
    rw [← Comment.flatMap_spans inComment text]
    exact List.mem_flatMap.mpr ⟨span, member, newline⟩
  cases span with
  | comment comment =>
      obtain rfl := Except.ok.inj stepped
      exact Text.singleLine_append_iff.mpr ⟨done_single, span_single⟩
  | code code =>
      obtain ⟨replaced, expanded_code, rfl⟩ := exists_of_map_eq_ok stepped
      exact Text.singleLine_append_iff.mpr ⟨done_single,
        Expansion.singleLine_of_ofText definitions_single expanded_code span_single⟩

theorem definitions_of_openIf {test : Condition.Test} (opened : context.openIf test = .ok next) :
    next.definitions = context.definitions := by
  rw [openIf] at opened
  split at opened
  · obtain ⟨holds, -, rfl⟩ := exists_of_map_eq_ok opened
    rfl
  · obtain rfl := Except.ok.inj opened
    rfl

theorem definitions_of_elif {test : Condition.Test} (moved : context.elif test = .ok next) :
    next.definitions = context.definitions := by
  rw [elif] at moved
  split at moved
  · contradiction
  · split at moved
    · contradiction
    · split at moved
      · split at moved
        · contradiction
        · obtain rfl := Except.ok.inj moved
          rfl
      · obtain rfl := Except.ok.inj moved
        rfl

theorem definitions_of_otherwise (moved : context.otherwise = .ok next) :
    next.definitions = context.definitions := by
  rw [otherwise] at moved
  split at moved
  · contradiction
  · split at moved
    · contradiction
    · obtain rfl := Except.ok.inj moved
      rfl

theorem definitions_of_endif (closed : context.endif = .ok next) :
    next.definitions = context.definitions := by
  rw [endif] at closed
  split at closed
  · contradiction
  · obtain rfl := Except.ok.inj closed
    rfl

theorem definitions_openIfDefined (context : Context) (name : Text) (expected : Bool) :
    (context.openIfDefined name expected).definitions = context.definitions := by
  rw [openIfDefined]
  split <;> rfl

/-- The directives of a chain leave the definitions as they are and give no lines. -/
theorem definitions_of_apply {directive : Directive} {emitted : List Text}
    (conditional : directive.keyword.isConditional = true)
    (applied : context.apply passLimit directive = .ok (next, emitted)) :
    next.definitions = context.definitions ∧ emitted = [] := by
  obtain ⟨keyword, args⟩ := directive
  cases keyword with
  | define | undef | includeFile => contradiction
  | ifExpr =>
      obtain ⟨opened, tested, pair⟩ := exists_of_map_eq_ok applied
      obtain ⟨rfl, rfl⟩ := Prod.mk.inj pair
      exact ⟨definitions_of_openIf (eq_ok_of_mapError_eq_ok tested), rfl⟩
  | ifdef | ifndef =>
      obtain ⟨name, -, pair⟩ := exists_of_map_eq_ok applied
      obtain ⟨rfl, rfl⟩ := Prod.mk.inj pair
      exact ⟨definitions_openIfDefined context name _, rfl⟩
  | elif =>
      obtain ⟨moved, tested, pair⟩ := exists_of_map_eq_ok applied
      obtain ⟨rfl, rfl⟩ := Prod.mk.inj pair
      exact ⟨definitions_of_elif tested, rfl⟩
  | otherwise =>
      obtain ⟨moved, reached, pair⟩ := exists_of_map_eq_ok applied
      obtain ⟨rfl, rfl⟩ := Prod.mk.inj pair
      exact ⟨definitions_of_otherwise (eq_ok_of_mapError_eq_ok reached), rfl⟩
  | endif =>
      obtain ⟨closed, reached, pair⟩ := exists_of_map_eq_ok applied
      obtain ⟨rfl, rfl⟩ := Prod.mk.inj pair
      exact ⟨definitions_of_endif (eq_ok_of_mapError_eq_ok reached), rfl⟩

/-- Lines that are given only where text is kept are single if they are single there. -/
theorem singleLine_of_mem_ite {isActive : Bool} {line other : Text} (single : Text.SingleLine line)
    (member : other ∈ (if isActive then [line] else [])) : Text.SingleLine other := by
  split at member
  · exact List.mem_singleton.mp member ▸ single
  · contradiction

theorem singleLine_of_apply {directive : Directive} {emitted : List Text}
    (applied : context.apply passLimit directive = .ok (next, emitted))
    (definitions_single : context.definitions.SingleLine)
    (args_single : Text.SingleLine directive.args) :
    next.definitions.SingleLine ∧ ∀ line ∈ emitted, Text.SingleLine line := by
  cases conditional : directive.keyword.isConditional with
  | true =>
      obtain ⟨same, rfl⟩ := definitions_of_apply conditional applied
      exact ⟨same ▸ definitions_single, nofun⟩
  | false =>
      obtain ⟨keyword, args⟩ := directive
      cases keyword with
      | ifExpr | ifdef | ifndef | elif | otherwise | endif => contradiction
      | define =>
          rw [apply] at applied
          dsimp only at applied
          split at applied
          · obtain ⟨definition, parsed, pair⟩ := exists_of_map_eq_ok applied
            obtain ⟨rfl, rfl⟩ := Prod.mk.inj pair
            have replacement_single :=
              Definition.singleLine_of_parse (eq_ok_of_mapError_eq_ok parsed)
            exact ⟨definitions_single.define replacement_single, nofun⟩
          · obtain ⟨rfl, rfl⟩ := Prod.mk.inj (Except.ok.inj applied)
            exact ⟨definitions_single, nofun⟩
      | undef =>
          rw [apply] at applied
          dsimp only at applied
          split at applied
          · obtain ⟨name, -, pair⟩ := exists_of_map_eq_ok applied
            obtain ⟨rfl, rfl⟩ := Prod.mk.inj pair
            exact ⟨definitions_single.undefine name, nofun⟩
          · obtain ⟨rfl, rfl⟩ := Prod.mk.inj (Except.ok.inj applied)
            exact ⟨definitions_single, nofun⟩
      | includeFile =>
          obtain ⟨rfl, rfl⟩ := Prod.mk.inj (Except.ok.inj applied)
          exact ⟨definitions_single, fun line member =>
            singleLine_of_mem_ite (Directive.singleLine_toLine args_single) member⟩

/-- A step keeps all definitions on one line each, and all its lines are single. -/
theorem singleLine_of_step {content : Content} {emitted : List Text}
    (stepped : context.step passLimit content = .ok (next, emitted))
    (definitions_single : context.definitions.SingleLine) (content_single : content.SingleLine) :
    next.definitions.SingleLine ∧ ∀ line ∈ emitted, Text.SingleLine line := by
  cases content with
  | unknown keyword => contradiction
  | passThrough written =>
      obtain ⟨rfl, rfl⟩ := Prod.mk.inj (Except.ok.inj stepped)
      exact ⟨definitions_single, fun line member => singleLine_of_mem_ite content_single member⟩
  | text written inComment =>
      rw [step] at stepped
      split at stepped
      · obtain ⟨expanded, expands, pair⟩ := exists_of_map_eq_ok stepped
        obtain ⟨rfl, rfl⟩ := Prod.mk.inj pair
        have expanded_single := singleLine_of_expandLine definitions_single
          (eq_ok_of_mapError_eq_ok expands) content_single
        refine ⟨definitions_single, fun line member => ?_⟩
        exact List.mem_singleton.mp member ▸ expanded_single
      · obtain ⟨rfl, rfl⟩ := Prod.mk.inj (Except.ok.inj stepped)
        exact ⟨definitions_single, nofun⟩
  | directive said =>
      exact singleLine_of_apply (eq_ok_of_mapError_eq_ok stepped) definitions_single content_single

theorem singleLine_of_run {items : List Item} {lines : List Text}
    (ran : (context.run passLimit items).result = .ok lines)
    (definitions_single : context.definitions.SingleLine)
    (items_single : ∀ item ∈ items, item.content.SingleLine) :
    ∀ line ∈ lines, Text.SingleLine line := by
  induction items generalizing context lines with
  | nil =>
      obtain rfl := Except.ok.inj ran
      exact nofun
  | cons item rest induction =>
      rw [run] at ran
      split at ran
      · contradiction
      · next next emitted stepped =>
          obtain ⟨later, rest_ran, rfl⟩ := exists_of_map_eq_ok ran
          obtain ⟨next_single, emitted_single⟩ := singleLine_of_step stepped definitions_single
            (items_single item List.mem_cons_self)
          intro line member
          rcases List.mem_append.mp member with member | member
          · exact emitted_single line member
          · have rest_single := fun other inside =>
              items_single other (List.mem_cons_of_mem item inside)
            exact induction rest_ran next_single rest_single line member

theorem result_of_processItems {items : List Item} {lines : List Text}
    (processed : (context.processItems passLimit items).result = .ok lines) :
    (context.run passLimit items).result = .ok lines := by
  simp only [processItems] at processed
  split at processed
  · contradiction
  · exact processed

end Context

/-! ## Assembly -/

namespace Assembly

variable {source : Source} {options : Options}

theorem singleLine_of_mem_physicalLines {line : Text} (member : line ∈ source.physicalLines) :
    Text.SingleLine line := by
  obtain ⟨written, -, inside⟩ := List.mem_flatMap.mp member
  obtain ⟨whole, split, rfl⟩ := List.mem_map.mp inside
  exact (Text.singleLine_of_mem_lines split).of_subset (Text.dropEndWhile_subset _ whole)

theorem startsDirective_of_mem_header {line : Text} (member : line ∈ header source options) :
    Item.startsDirective (Text.dropReturns line) = true := by
  obtain ⟨word, rest, -, -, -, same⟩ := (saysOther_of_mem_header member).dropReturns
  rw [same]
  rfl

/-- Only lines of the header may hold newlines, and all of these begin directives. -/
theorem singleBehindDirectives_body (source : Source) (options : Options) :
    Item.SingleBehindDirectives (body source options) := by
  intro before line after split ordinary
  have not_header : line ∉ header source options := by
    intro member
    rw [startsDirective_of_mem_header member] at ordinary
    contradiction
  have behind : ∃ lead, (source.physicalLines.filter fun line => !isVersionDirective line) =
      lead ++ line :: after := by
    rcases List.append_eq_append_iff.mp split with ⟨lead, -, same⟩ | ⟨lead, same, rest⟩
    · exact ⟨lead, same⟩
    · cases lead with
      | nil => exact ⟨[], rest.symm⟩
      | cons first lead =>
          obtain ⟨rfl, -⟩ := List.cons.inj rest
          exact absurd (by simp [same]) not_header
  obtain ⟨lead, same⟩ := behind
  intro other member
  have inside : other ∈ source.physicalLines.filter fun line => !isVersionDirective line := by
    rw [same]
    exact List.mem_append_right lead member
  exact singleLine_of_mem_physicalLines (List.mem_filter.mp inside).1

theorem singleLine_versionDirective {config : Config} (profile_single : '\n' ∉ config.profile)
    (version : Nat) : Text.SingleLine (versionDirective config version) := by
  have number_single : Text.SingleLine (Text.decimal version) := by
    intro newline
    have digit := Nat.isDigit_of_mem_toDigits (by decide) (by decide) newline
    contradiction
  have plain_single : Text.SingleLine ("#version ".toList ++ Text.decimal version) :=
    Text.singleLine_append_iff.mpr ⟨by decide, number_single⟩
  rw [versionDirective]
  split
  · exact Text.singleLine_append_iff.mpr
      ⟨plain_single, Text.singleLine_cons_iff.mpr ⟨by decide, profile_single⟩⟩
  · exact plain_single

/-- All lines of an assembled text are single, wherever there are newlines in the source and the
options. -/
theorem singleLine_of_assemble {config : Config} (profile_single : '\n' ∉ config.profile)
    {identifier : Text} {stage : Stage} {unit : CompilationUnit}
    (assembled : (assemble config identifier stage source options).result = .ok unit) :
    ∀ line ∈ unit.lines, Text.SingleLine line := by
  obtain ⟨processed, preprocessed, lines_eq⟩ := lines_of_assemble assembled
  have processed_single := Context.singleLine_of_run (Context.result_of_processItems preprocessed)
    Definitions.SingleLine.empty fun item (member : item ∈ Item.scanFrom 1 false _) =>
      Item.singleLine_of_mem_scanFrom (singleBehindDirectives_body source options)
        (fun inside => absurd inside Bool.false_ne_true) member
  rw [lines_eq]
  intro line member
  rcases List.mem_cons.mp member with rfl | member
  · exact singleLine_versionDirective profile_single options.version
  · exact processed_single line (List.mem_filter.mp member).1

end Assembly

/-! ## Annotated logs -/

theorem Text.dropReturn_subset (line : Text) : dropReturn line ⊆ line := by
  rw [dropReturn]
  split
  · exact List.dropLast_subset line
  · exact List.Subset.refl line

theorem Text.singleLine_of_mem_logLines {log line : Text} (member : line ∈ logLines log) :
    SingleLine line := by
  rcases List.mem_append.mp member with member | member
  · obtain ⟨whole, ended, rfl⟩ := List.mem_map.mp member
    exact (singleLine_of_mem_lines (List.dropLast_subset _ ended)).of_subset
      (dropReturn_subset whole)
  · split at member
    · contradiction
    · next filled =>
        obtain rfl := List.mem_singleton.mp member
        rw [List.getLastD_eq_getLast?] at filled ⊢
        cases last : (lines log).getLast? with
        | none => exact absurd (by rw [last]; rfl) filled
        | some rest => exact singleLine_of_mem_lines (List.mem_of_getLast? last)

namespace Diagnostic

/-- What an annotated log has under one of its lines, given the lines that the compiler was given:
the line that is complained about, if there is such a line. -/
def shownUnder (compiled : List Text) (logLine : Text) : List Text :=
  match line? logLine with
  | some (index + 1) =>
      (compiled[index]?.map fun line => "    > ".toList ++ Text.trim line).toList
  | _ => []

theorem annotateLine_eq (unit : CompilationUnit) (logLine : Text) :
    annotateLine unit logLine = logLine :: shownUnder unit.lines logLine := by
  rw [annotateLine, shownUnder]
  cases line? logLine with
  | none => rfl
  | some number =>
      cases number with
      | zero => rfl
      | succ index =>
          simp only [Option.bind_some, CompilationUnit.line?]
          cases unit.lines[index]? <;> rfl

/-- An annotated log has the lines of the log, with the lines that they complain about. -/
theorem lines_annotate {unit : CompilationUnit} (single : ∀ line ∈ unit.lines, Text.SingleLine line)
    (log : Text) :
    Text.lines (annotate unit log) =
      ((Text.logLines log).flatMap fun logLine =>
        logLine :: shownUnder unit.lines logLine) ++ [[]] := by
  rw [annotate, List.flatMap_congr fun logLine _ => annotateLine_eq unit logLine]
  apply Text.lines_ofLines
  intro line member
  obtain ⟨logLine, inside, member⟩ := List.mem_flatMap.mp member
  rcases List.mem_cons.mp member with rfl | member
  · exact Text.singleLine_of_mem_logLines inside
  · rw [shownUnder] at member
    split at member
    · next index complains =>
        obtain ⟨compiled, found, rfl⟩ := Option.map_eq_some_iff.mp (Option.mem_toList.mp member)
        have compiled_single := single compiled (List.mem_of_getElem? found)
        exact Text.singleLine_append_iff.mpr
          ⟨by decide, compiled_single.of_subset (Text.trim_subset compiled)⟩
    · contradiction

end Diagnostic

/-! ## The compiled text -/

namespace Assembly

/-- The lines between the newlines of an assembled text are the assembled lines, so the line that a
log complains about by its number is shown under the complaint. -/
theorem compiled_lines_of_assemble {config : Config} (profile_single : '\n' ∉ config.profile)
    {identifier : Text} {stage : Stage} {source : Source} {options : Options}
    {unit : CompilationUnit}
    (assembled : (assemble config identifier stage source options).result = .ok unit) :
    (∀ line ∈ unit.lines, '\n' ∉ line) ∧
      Text.lines unit.text = unit.lines ++ [[]] ∧
      (∀ number, 1 ≤ number → (Text.lines unit.text).dropLast[number - 1]? = unit.line? number) ∧
      ∀ log, Text.lines (Diagnostic.annotate unit log) =
        ((Text.logLines log).flatMap fun logLine =>
          logLine :: Diagnostic.shownUnder (Text.lines unit.text).dropLast logLine) ++ [[]] := by
  have single := singleLine_of_assemble profile_single assembled
  have lines_eq : Text.lines unit.text = unit.lines ++ [[]] := Text.lines_ofLines single
  rw [lines_eq, List.dropLast_concat]
  refine ⟨single, rfl, ?_, Diagnostic.lines_annotate single⟩
  intro number positive
  obtain ⟨index, rfl⟩ := Nat.exists_eq_add_of_le' positive
  rfl

/-- Newlines in an extension, in definitions, inside a comment and behind a backslash. The last line
of the log but one complains about a line that there is not. -/
theorem compiled_lines_of_assemble_newlines :
    let source : Source := ⟨["#define TWICE(x) x + /* again\n*/ x \\\r\n- ONE".toList,
      "int a = TWICE(LAMPS);\nint b;".toList], [⟨"GL_lamp\n".toList, .require⟩]⟩
    let options := (Options.standard.addDefine "LAMPS =\n4".toList).addDefine "ONE\n1".toList
    let log := "ERROR: 0:3: here\r\n0(5) : gone\nWARNING: 0:4: there".toList
    ∃ unit, (assemble {} "lamp".toList .vertex source options).result = .ok unit ∧
      '\n' ∉ ({} : Config).profile ∧
      Text.lines unit.text = ["#version 150 core", "#extension GL_lamp  : require",
        "int a = 4 +   4 - 1;", "int b;", ""].map String.toList ∧
      Text.lines (Diagnostic.annotate unit log) = ["ERROR: 0:3: here",
        "    > int a = 4 +   4 - 1;", "0(5) : gone", "WARNING: 0:4: there", "    > int b;",
        ""].map String.toList := by
  intro source options log
  let lines := ["#version 150 core", "#extension GL_lamp  : require", "int a = 4 +   4 - 1;",
    "int b;"].map String.toList
  have assembled : (assemble {} "lamp".toList .vertex source options).result =
      .ok ⟨"lamp".toList, .vertex, lines⟩ := eq_ok_of_toOption (by decide +kernel)
  have profile_single : '\n' ∉ ({} : Config).profile := by decide
  obtain ⟨-, split, -, annotated⟩ := compiled_lines_of_assemble profile_single assembled
  refine ⟨_, assembled, profile_single, split, ?_⟩
  rw [annotated log, split]
  decide +kernel

end Assembly

end GlslBuild
