import GlslBuild.Assembly
import GlslBuild.Proofs.Result

/-!
# Leaving comment lines out

Whether a line is only a comment is decided on the line alone, but what the native compiler reads
in it also depends on a block comment that an earlier line left open. A comment line that starts in
code holds no code and can be left out. One that starts inside a block comment can be left out only
if it does not end that comment; otherwise the code after it is taken for a comment.
-/

namespace GlslBuild

namespace Comment

/-- The code of a text, stretch by stretch and without the blank ones, given whether a block comment
is open at its start. -/
def codeSpans (isOpen : Bool) (text : Text) : List Text :=
  (spans isOpen text).filterMap fun span =>
    match span with
    | .code code => if Text.isBlankText code then none else some code
    | .comment _ => none

/-- The code of lines that are read one after the other. -/
def codeOfLines : Bool → List Text → List Text
  | _, [] => []
  | isOpen, line :: rest => codeSpans isOpen line ++ codeOfLines (leavesOpen isOpen line) rest

/-- A line without code that leaves a block comment open if one was open before it. -/
def Neutral (isOpen : Bool) (line : Text) : Prop :=
  codeSpans isOpen line = [] ∧ leavesOpen isOpen line = isOpen

instance (isOpen : Bool) (line : Text) : Decidable (Neutral isOpen line) :=
  inferInstanceAs (Decidable (codeSpans isOpen line = [] ∧ leavesOpen isOpen line = isOpen))

/-- The lines without those that only hold comments. -/
def withoutCommentLines (lines : List Text) : List Text :=
  lines.filter fun line => !isCommentLine line

/-- Every comment line is neutral where it stands. -/
def Removable : Bool → List Text → Prop
  | _, [] => True
  | isOpen, line :: rest =>
      (isCommentLine line = true → Neutral isOpen line) ∧ Removable (leavesOpen isOpen line) rest

instance decidableRemovable : (isOpen : Bool) → (lines : List Text) →
    Decidable (Removable isOpen lines)
  | _, [] => .isTrue trivial
  | isOpen, line :: rest =>
      have := decidableRemovable (leavesOpen isOpen line) rest
      inferInstanceAs (Decidable ((isCommentLine line = true → Neutral isOpen line) ∧
        Removable (leavesOpen isOpen line) rest))

/-! ## Neutral lines -/

theorem codeSpans_eq_nil_iff {isOpen : Bool} {text : Text} :
    codeSpans isOpen text = [] ↔
      ∀ code, .code code ∈ spans isOpen text → Text.isBlankText code = true := by
  rw [codeSpans, List.filterMap_eq_nil_iff]
  constructor
  · intro none_left code member
    simpa using none_left _ member
  · intro blank span member
    cases span with
    | code code => simp [blank code member]
    | comment text => rfl

theorem mem_of_mem_consComment {char : Char} {rest : List Span} {code : Text}
    (member : .code code ∈ Span.consComment char rest) : .code code ∈ rest := by
  unfold Span.consComment at member
  split at member
  · simpa using member
  · simpa using member

theorem isBlankText_of_mem_consCode {char : Char} {rest : List Span} {code : Text}
    (blank_char : Text.isBlank char = true)
    (blank : ∀ code, .code code ∈ rest → Text.isBlankText code = true)
    (member : .code code ∈ Span.consCode char rest) : Text.isBlankText code = true := by
  unfold Span.consCode at member
  split at member
  · next text later =>
      rcases List.mem_cons.mp member with same | member
      · obtain rfl := Span.code.inj same
        have tail := blank text List.mem_cons_self
        simpa [Text.isBlankText, blank_char] using tail
      · exact blank code (List.mem_cons_of_mem _ member)
  · rcases List.mem_cons.mp member with same | member
    · obtain rfl := Span.code.inj same
      simpa [Text.isBlankText] using blank_char
    · exact blank code member

/-- Where there are only comments, the code between them is blank, and none is left open. -/
theorem blank_of_onlyComments {isOpen : Bool} {text : Text}
    (only : onlyComments isOpen text = true) :
    (∀ code, .code code ∈ spans isOpen text → Text.isBlankText code = true) ∧
      leavesOpen isOpen text = false := by
  fun_induction onlyComments isOpen text with
  | case1 isOpen => simpa [spans, leavesOpen] using only
  | case2 rest induction =>
      obtain ⟨blank, closed⟩ := induction only
      exact ⟨by simpa [spans] using blank, by simpa [leavesOpen] using closed⟩
  | case3 char rest inside induction =>
      obtain ⟨blank, closed⟩ := induction only
      rw [spans.eq_3 char rest inside, leavesOpen.eq_3 char rest inside]
      exact ⟨fun code member => blank code (mem_of_mem_consComment member), closed⟩
  | case4 rest induction =>
      obtain ⟨blank, closed⟩ := induction only
      rw [spans, leavesOpen]
      refine ⟨?_, closed⟩
      intro code member
      exact blank code (mem_of_mem_consComment (mem_of_mem_consComment member))
  | case5 tail => simp [spans, leavesOpen]
  | case6 char rest not_block not_line induction =>
      rw [Bool.and_eq_true] at only
      obtain ⟨blank, closed⟩ := induction only.2
      rw [spans.eq_6 char rest not_block not_line, leavesOpen.eq_6 char rest not_block not_line]
      exact ⟨fun _ => isBlankText_of_mem_consCode only.1 blank, closed⟩

/-- A comment line that starts in code is neutral. -/
theorem neutral_false_of_isCommentLine {line : Text} (comment : isCommentLine line = true) :
    Neutral false line := by
  rw [isCommentLine, Bool.and_eq_true] at comment
  obtain ⟨blank, closed⟩ := blank_of_onlyComments comment.2
  exact ⟨codeSpans_eq_nil_iff.mpr blank, closed⟩

/-- A line without an end of a comment is neutral inside a comment. -/
theorem neutral_true_of_not_infix {line : Text} (endless : ¬['*', '/'] <:+: line) :
    Neutral true line := by
  have all_comment : (∀ code, .code code ∉ spans true line) ∧ leavesOpen true line = true := by
    induction line with
    | nil => exact ⟨by simp [spans], rfl⟩
    | cons char rest induction =>
        have inside : ∀ tail, char = '*' → rest = '/' :: tail → False := by
          rintro tail rfl rfl
          exact endless ⟨[], tail, rfl⟩
        obtain ⟨no_code, still_open⟩ := induction fun ends => endless (List.infix_cons ends)
        rw [spans.eq_3 char rest inside, leavesOpen.eq_3 char rest inside]
        exact ⟨fun code member => no_code code (mem_of_mem_consComment member), still_open⟩
  refine ⟨codeSpans_eq_nil_iff.mpr ?_, all_comment.2⟩
  intro code member
  exact absurd member (all_comment.1 code)

/-- A line can be left out, whatever follows it, exactly if it is neutral. -/
theorem neutral_iff {isOpen : Bool} {line : Text} :
    Neutral isOpen line ↔
      ∀ rest, codeOfLines isOpen rest = codeOfLines isOpen (line :: rest) := by
  constructor
  · rintro ⟨no_code, same_state⟩ rest
    rw [codeOfLines, no_code, same_state, List.nil_append]
  · intro same
    have no_code : codeSpans isOpen line = [] := by
      simpa [codeOfLines] using (same []).symm
    refine ⟨no_code, ?_⟩
    -- One more line, of a single character, tells code from comment.
    have told : codeSpans isOpen ['x'] = codeSpans (leavesOpen isOpen line) ['x'] := by
      simpa [codeOfLines, no_code] using same [['x']]
    revert told
    cases isOpen <;> cases leavesOpen _ line <;> decide

/-! ## Lines -/

theorem codeOfLines_withoutCommentLines_append {isOpen : Bool} {lines : List Text}
    (removable : Removable isOpen lines) (rest : List Text) :
    codeOfLines isOpen (withoutCommentLines lines ++ rest) =
      codeOfLines isOpen (lines ++ rest) := by
  induction lines generalizing isOpen with
  | nil => rfl
  | cons line later induction =>
      obtain ⟨here, after⟩ := removable
      have continued := induction after
      rw [List.cons_append, withoutCommentLines]
      cases comment : isCommentLine line with
      | true =>
          have neutral := here comment
          rw [neutral.2] at continued
          rw [List.filter_cons_of_neg (by simp [comment]), ← neutral_iff.mp neutral]
          exact continued
      | false =>
          rw [List.filter_cons_of_pos (by simp [comment]), List.cons_append, codeOfLines,
            codeOfLines]
          exact congrArg (codeSpans isOpen line ++ ·) continued

/-- Comment lines can be left out of any beginning of the lines, whatever follows it, exactly if
each of them is neutral where it stands. -/
theorem removable_iff {isOpen : Bool} {lines : List Text} :
    Removable isOpen lines ↔ ∀ front back, lines = front ++ back → ∀ rest,
      codeOfLines isOpen (withoutCommentLines front ++ rest) =
        codeOfLines isOpen (front ++ rest) := by
  constructor
  · rintro removable front back rfl
    apply codeOfLines_withoutCommentLines_append
    induction front generalizing isOpen with
    | nil => trivial
    | cons line front induction => exact ⟨removable.1, induction removable.2⟩
  · intro same
    induction lines generalizing isOpen with
    | nil => trivial
    | cons line later induction =>
        have neutral (comment : isCommentLine line = true) : Neutral isOpen line := by
          apply neutral_iff.mpr
          intro rest
          have alone := same [line] later rfl rest
          simpa [withoutCommentLines, comment] using alone
        refine ⟨neutral, induction ?_⟩
        rintro front back rfl rest
        have longer := same (line :: front) back rfl rest
        rw [List.cons_append, withoutCommentLines] at longer
        cases comment : isCommentLine line with
        | true =>
            have state := (neutral comment).2
            rw [List.filter_cons_of_neg (by simp [comment]),
              ← neutral_iff.mp (neutral comment)] at longer
            rw [state]
            exact longer
        | false =>
            rw [List.filter_cons_of_pos (by simp [comment]), List.cons_append, codeOfLines,
              codeOfLines] at longer
            exact List.append_cancel_left longer

end Comment

namespace Assembly

/-- What is assembled is the version line and what preprocessing left, without comment lines. -/
theorem lines_of_assemble {config : Config} {identifier : Text} {stage : Stage} {source : Source}
    {options : Options} {unit : CompilationUnit}
    (assembled : (assemble config identifier stage source options).result = .ok unit) :
    ∃ processed,
      (Context.empty.process config.passLimit (body source options)).result = .ok processed ∧
        unit.lines = versionDirective config options.version ::
          Comment.withoutCommentLines processed := by
  rw [assemble] at assembled
  dsimp only at assembled
  split at assembled
  · contradiction
  · next processed preprocessed =>
      obtain rfl := Except.ok.inj assembled
      exact ⟨processed, preprocessed, rfl⟩

/-- The native compiler reads the code that preprocessing left, as long as no line that is left out
ends a block comment that was open before it. No weaker condition will do: it holds exactly if
comment lines can be left out of every beginning of what preprocessing left, whatever is read after
it. -/
theorem code_of_assemble {config : Config} {identifier : Text} {stage : Stage} {source : Source}
    {options : Options} {unit : CompilationUnit} {processed : List Text}
    (assembled : (assemble config identifier stage source options).result = .ok unit)
    (preprocessed :
      (Context.empty.process config.passLimit (body source options)).result = .ok processed) :
    (Comment.Removable false processed →
        Comment.codeOfLines false unit.lines.tail = Comment.codeOfLines false processed) ∧
      (Comment.Removable false processed ↔ ∀ front back, processed = front ++ back → ∀ rest,
        Comment.codeOfLines false (Comment.withoutCommentLines front ++ rest) =
          Comment.codeOfLines false (front ++ rest)) := by
  refine ⟨fun removable => ?_, Comment.removable_iff⟩
  obtain ⟨lines, result, lines_eq⟩ := lines_of_assemble assembled
  obtain rfl := Except.ok.inj (preprocessed.symm.trans result)
  have same := Comment.codeOfLines_withoutCommentLines_append removable []
  rw [List.append_nil, List.append_nil] at same
  rw [lines_eq, List.tail_cons, same]

/-- Of the lines left out here one stands inside a block comment and one after it. -/
theorem code_of_assemble_inside :
    let source : Source := ⟨["/* a", "// b", "*/ int c; // d", "/* e */"].map String.toList, []⟩
    ∃ processed unit,
      (assemble {} "lamp".toList .vertex source Options.standard).result = .ok unit ∧
        (Context.empty.process 512 (body source Options.standard)).result = .ok processed ∧
        Comment.Removable false processed ∧
        Comment.codeOfLines false unit.lines.tail = Comment.codeOfLines false processed := by
  intro source
  let processed := ["/* a", "// b", "*/ int c; // d", "/* e */"].map String.toList
  let lines := ["#version 150 core", "/* a", "*/ int c; // d"].map String.toList
  have assembled : (assemble {} "lamp".toList .vertex source Options.standard).result =
      .ok ⟨"lamp".toList, .vertex, lines⟩ := eq_ok_of_toOption (by decide +kernel)
  have preprocessed : (Context.empty.process 512 (body source Options.standard)).result =
      .ok processed := eq_ok_of_toOption (by decide +kernel)
  have removable : Comment.Removable false processed := by decide +kernel
  exact ⟨processed, _, assembled, preprocessed, removable,
    (code_of_assemble assembled preprocessed).1 removable⟩

/-- A line that ends a block comment looks like a comment of its own and is left out. The code after
it is lost in the comment. -/
theorem code_lost_in_comment :
    let source : Source := ⟨["/* a", "/* b */", "int c;"].map String.toList, []⟩
    ∃ processed unit,
      (assemble {} "lamp".toList .vertex source Options.standard).result = .ok unit ∧
        (Context.empty.process 512 (body source Options.standard)).result = .ok processed ∧
        Comment.codeOfLines false processed = ["int c;".toList] ∧
        Comment.codeOfLines false unit.lines.tail = [] := by
  intro source
  let processed := ["/* a", "/* b */", "int c;"].map String.toList
  let lines := ["#version 150 core", "/* a", "int c;"].map String.toList
  have assembled : (assemble {} "lamp".toList .vertex source Options.standard).result =
      .ok ⟨"lamp".toList, .vertex, lines⟩ := eq_ok_of_toOption (by decide +kernel)
  have preprocessed : (Context.empty.process 512 (body source Options.standard)).result =
      .ok processed := eq_ok_of_toOption (by decide +kernel)
  exact ⟨processed, _, assembled, preprocessed, by decide +kernel, by decide +kernel⟩

end Assembly

end GlslBuild
