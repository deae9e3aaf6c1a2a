import GlslBuild.Proofs.CommentRemoval
import GlslBuild.Proofs.DirectiveLine
import Mathlib.Data.List.Chain

/-!
# A lexer for comments

Comments are found by one lexer that knows three modes and the three delimiters that lead from one
mode to another. Spans, the state that a text leaves behind, stripping and the test for comment
lines are readings of their own, and all of them follow the lexer.
-/

namespace GlslBuild.Comment

/-! ## The lexer -/

/-- What is being read: code, a block comment or a line comment. -/
inductive Mode where
  | code
  | block
  | line
  deriving DecidableEq, Repr

namespace Mode

/-- The mode at the start of a text, given whether a block comment is open there. -/
def start (isOpen : Bool) : Mode := if isOpen then .block else .code

/-- The mode that a delimiter leads to. -/
def delimited? : Mode → Char → Char → Option Mode
  | .code, '/', '*' => some .block
  | .code, '/', '/' => some .line
  | .block, '*', '/' => some .code
  | _, _, _ => none

/-- What is read belongs to a comment. -/
def isComment (mode : Mode) : Bool := mode != .code

end Mode

/-- A text that the lexer has read: for each character whether it belongs to a comment, and the mode
at the end. -/
structure Lexed where
  marks : List Bool
  last : Mode
  deriving DecidableEq, Repr

/-- One more character in front. -/
def Lexed.cons (mark : Bool) (lexed : Lexed) : Lexed := { lexed with marks := mark :: lexed.marks }

@[simp] theorem Lexed.marks_cons (mark : Bool) (lexed : Lexed) :
    (lexed.cons mark).marks = mark :: lexed.marks := rfl

@[simp] theorem Lexed.last_cons (mark : Bool) (lexed : Lexed) :
    (lexed.cons mark).last = lexed.last := rfl

/-- Reads a text in a mode. Both characters of a delimiter belong to the comment, and neither is
part of another delimiter. -/
def Mode.read : Mode → Text → Lexed
  | mode, [] => ⟨[], mode⟩
  | mode, [_] => ⟨[mode.isComment], mode⟩
  | mode, first :: second :: rest =>
      match mode.delimited? first second with
      | some next => ((next.read rest).cons true).cons true
      | none => (mode.read (second :: rest)).cons mode.isComment

/-! ## The lexer in each mode -/

namespace Mode

theorem read_cons {mode : Mode} {char : Char} {rest : Text}
    (undelimited : ∀ second ∈ rest.head?, mode.delimited? char second = none) :
    mode.read (char :: rest) = (mode.read rest).cons mode.isComment := by
  cases rest with
  | nil => rfl
  | cons second rest => rw [read, undelimited second rfl]

theorem read_line (text : Text) : read .line text = ⟨text.map fun _ => true, .line⟩ := by
  induction text with
  | nil => rfl
  | cons char rest induction =>
      rw [read_cons fun _ _ => rfl, induction]
      rfl

/-- Inside a block comment only its end is a delimiter. -/
theorem read_block_cons {char : Char} {rest : Text}
    (inside : ∀ tail, char = '*' → rest = '/' :: tail → False) :
    read .block (char :: rest) = (read .block rest).cons true := by
  apply read_cons
  intro second head
  obtain ⟨tail, rfl⟩ := List.head?_eq_some_iff.mp head
  unfold delimited?
  split
  · contradiction
  · contradiction
  · exact (inside tail rfl rfl).elim
  · rfl

/-- In code only the beginnings of comments are delimiters. -/
theorem read_code_cons {char : Char} {rest : Text}
    (not_block : ∀ tail, char = '/' → rest = '*' :: tail → False)
    (not_line : ∀ tail, char = '/' → rest = '/' :: tail → False) :
    read .code (char :: rest) = (read .code rest).cons false := by
  apply read_cons
  intro second head
  obtain ⟨tail, rfl⟩ := List.head?_eq_some_iff.mp head
  unfold delimited?
  split
  · exact (not_block tail rfl rfl).elim
  · exact (not_line tail rfl rfl).elim
  · contradiction
  · rfl

end Mode

/-! ## Spans -/

namespace Span

/-- The span is code. -/
def isCode : Span → Bool
  | .code _ => true
  | .comment _ => false

/-- For each character of the span whether it belongs to a comment. -/
def marks (span : Span) : List Bool := span.toText.map fun _ => !span.isCode

/-- Code as it is, and one space for a comment. -/
def stripped : Span → Text
  | .code text => text
  | .comment _ => [' ']

section Cons

variable (char : Char) (spans : List Span)

theorem marks_consCode :
    (consCode char spans).flatMap marks = false :: spans.flatMap marks := by
  unfold consCode
  split <;> simp [marks, toText, isCode]

theorem marks_consComment :
    (consComment char spans).flatMap marks = true :: spans.flatMap marks := by
  unfold consComment
  split <;> simp [marks, toText, isCode]

theorem stripped_consCode :
    (consCode char spans).flatMap stripped = char :: spans.flatMap stripped := by
  unfold consCode
  split <;> simp [stripped]

/-- A longer comment is one space all the same. -/
theorem stripped_consComment_consComment (other : Char) :
    (consComment char (consComment other spans)).flatMap stripped =
      (consComment other spans).flatMap stripped := by
  conv_rhs => unfold consComment
  conv_lhs => arg 2; arg 2; unfold consComment
  split <;> simp [consComment, stripped]

end Cons

/-- Spans as they may follow each other: none is empty, and code does not follow code. -/
structure Proper (spans : List Span) : Prop where
  ne_nil : ∀ span ∈ spans, span.toText ≠ []
  alternate : spans.IsChain fun first second => ¬(first.isCode = true ∧ second.isCode = true)

namespace Proper

theorem nil : Proper [] := ⟨by simp, .nil⟩

theorem comment_cons {text : Text} {spans : List Span} (text_ne_nil : text ≠ [])
    (proper : Proper spans) : Proper (.comment text :: spans) where
  ne_nil := List.forall_mem_cons.mpr ⟨text_ne_nil, proper.ne_nil⟩
  alternate := List.isChain_cons.mpr
    ⟨fun _ _ both => absurd both.1 Bool.false_ne_true, proper.alternate⟩

theorem consComment {spans : List Span} (char : Char) (proper : Proper spans) :
    Proper (Span.consComment char spans) := by
  unfold Span.consComment
  split
  · next text rest =>
      have tail : Proper rest := ⟨fun span member => proper.ne_nil span
        (List.mem_cons_of_mem _ member), (List.isChain_cons.mp proper.alternate).2⟩
      exact tail.comment_cons (List.cons_ne_nil _ _)
  · exact proper.comment_cons (List.cons_ne_nil _ _)

theorem consCode {spans : List Span} (char : Char) (proper : Proper spans) :
    Proper (Span.consCode char spans) := by
  unfold Span.consCode
  split
  · next text rest =>
      obtain ⟨-, others⟩ := List.forall_mem_cons.mp proper.ne_nil
      exact ⟨List.forall_mem_cons.mpr ⟨List.cons_ne_nil _ _, others⟩,
        List.isChain_cons.mpr (List.isChain_cons.mp proper.alternate)⟩
  · next spans no_code =>
      refine ⟨List.forall_mem_cons.mpr ⟨List.cons_ne_nil _ _, proper.ne_nil⟩,
        List.isChain_cons.mpr ⟨?_, proper.alternate⟩⟩
      rintro span head ⟨-, code⟩
      obtain ⟨rest, rfl⟩ := List.head?_eq_some_iff.mp head
      cases span with
      | code text => exact no_code text rest rfl
      | comment text => contradiction

end Proper

end Span

theorem proper_spans (isOpen : Bool) (text : Text) : Span.Proper (spans isOpen text) := by
  fun_induction spans isOpen text with
  | case1 => exact .nil
  | case2 rest induction => exact induction.comment_cons (List.cons_ne_nil _ _)
  | case3 char rest inside induction => exact induction.consComment char
  | case4 rest induction => exact (induction.consComment '*').consComment '/'
  | case5 rest => exact Span.Proper.nil.comment_cons (List.cons_ne_nil _ _)
  | case6 char rest not_block not_line induction => exact induction.consCode char

/-- The spans of a text mark its characters as the lexer does. -/
theorem flatMap_marks_spans (isOpen : Bool) (text : Text) :
    (spans isOpen text).flatMap Span.marks = ((Mode.start isOpen).read text).marks := by
  fun_induction spans isOpen text with
  | case1 isOpen => rfl
  | case2 rest induction =>
      rw [List.flatMap_cons, induction]
      rfl
  | case3 char rest inside induction =>
      rw [Span.marks_consComment, induction]
      exact congrArg Lexed.marks (Mode.read_block_cons inside).symm
  | case4 rest induction =>
      rw [Span.marks_consComment, Span.marks_consComment, induction]
      rfl
  | case5 rest =>
      have behind : (Mode.code.read ('/' :: '/' :: rest)).marks =
          true :: true :: (Mode.line.read rest).marks := rfl
      rw [show Mode.start false = .code from rfl, behind, Mode.read_line]
      simp [Span.marks, Span.toText, Span.isCode]
  | case6 char rest not_block not_line induction =>
      rw [Span.marks_consCode, induction]
      exact congrArg Lexed.marks (Mode.read_code_cons not_block not_line).symm

/-- A block comment is open behind a text exactly if the lexer ends in one. -/
theorem leavesOpen_iff (isOpen : Bool) (text : Text) :
    leavesOpen isOpen text = true ↔ ((Mode.start isOpen).read text).last = .block := by
  fun_induction leavesOpen isOpen text with
  | case1 isOpen => cases isOpen <;> decide
  | case2 rest induction => exact induction
  | case3 char rest inside induction =>
      rw [induction, show Mode.start true = .block from rfl, Mode.read_block_cons inside]
      rfl
  | case4 rest induction => exact induction
  | case5 rest =>
      have behind : (Mode.code.read ('/' :: '/' :: rest)).last = (Mode.line.read rest).last := rfl
      rw [show Mode.start false = .code from rfl, behind, Mode.read_line]
      simp
  | case6 char rest not_block not_line induction =>
      rw [induction, show Mode.start false = .code from rfl,
        Mode.read_code_cons not_block not_line]
      rfl

/-! ## Stripping -/

/-- Stripping puts one space in place of every comment. The rest of a comment that is open at the
start gives no space, so one is due as soon as anything stands in front of it. -/
theorem stripFrom_eq (isOpen : Bool) (text : Text) :
    (isOpen = false → stripFrom isOpen text = (spans isOpen text).flatMap Span.stripped) ∧
      (isOpen = true → ∀ char, ' ' :: stripFrom isOpen text =
        (Span.consComment char (spans isOpen text)).flatMap Span.stripped) := by
  fun_induction spans isOpen text with
  | case1 isOpen =>
      exact ⟨fun _ => by rw [stripFrom]; rfl, fun _ _ => by rw [stripFrom]; rfl⟩
  | case2 rest induction =>
      refine ⟨fun same => Bool.noConfusion same, fun _ char => ?_⟩
      rw [stripFrom, induction.1 rfl]
      rfl
  | case3 char rest inside induction =>
      refine ⟨fun same => Bool.noConfusion same, fun _ other => ?_⟩
      rw [stripFrom.eq_3 char rest inside, Span.stripped_consComment_consComment]
      exact induction.2 rfl char
  | case4 rest induction =>
      refine ⟨fun _ => ?_, fun same => Bool.noConfusion same⟩
      rw [stripFrom, Span.stripped_consComment_consComment]
      exact induction.2 rfl '*'
  | case5 rest => exact ⟨fun _ => by rw [stripFrom]; rfl, fun same => Bool.noConfusion same⟩
  | case6 char rest not_block not_line induction =>
      refine ⟨fun _ => ?_, fun same => Bool.noConfusion same⟩
      rw [stripFrom.eq_6 char rest not_block not_line, Span.stripped_consCode, induction.1 rfl]

/-- No comment begins in the text. -/
def Bare (text : Text) : Prop := ¬['/', '/'] <:+: text ∧ ¬['/', '*'] <:+: text

instance (text : Text) : Decidable (Bare text) :=
  inferInstanceAs (Decidable (¬['/', '/'] <:+: text ∧ ¬['/', '*'] <:+: text))

theorem bare_cons_iff {char : Char} {rest : Text} :
    Bare (char :: rest) ↔
      (char = '/' → rest.head? ≠ some '/' ∧ rest.head? ≠ some '*') ∧ Bare rest := by
  have begins (second : Char) :
      ['/', second] <+: char :: rest ↔ char = '/' ∧ rest.head? = some second := by
    cases rest <;> simp [eq_comm]
  simp only [Bare, List.infix_cons_iff, begins]
  tauto

theorem bare_stripFrom (isOpen : Bool) (text : Text) : Bare (stripFrom isOpen text) := by
  fun_induction stripFrom isOpen text with
  | case1 => decide
  | case2 rest induction => exact induction
  | case3 char rest inside induction => exact induction
  | case4 rest induction => exact bare_cons_iff.mpr ⟨nofun, induction⟩
  | case5 => decide
  | case6 char rest not_block not_line induction =>
      refine bare_cons_iff.mpr ⟨?_, induction⟩
      -- A slash behind a slash was not there before stripping either.
      rintro rfl
      constructor
      · intro head
        rcases head?_stripFrom rest _ head with same | ⟨-, space⟩
        · obtain ⟨tail, rfl⟩ := List.head?_eq_some_iff.mp same
          exact not_line tail rfl rfl
        · contradiction
      · intro head
        rcases head?_stripFrom rest _ head with same | ⟨-, space⟩
        · obtain ⟨tail, rfl⟩ := List.head?_eq_some_iff.mp same
          exact not_block tail rfl rfl
        · contradiction

/-- Neither delimiter stands at the start of a text in which no comment begins. -/
theorem Bare.not_delimited {char : Char} {rest : Text} (bare : Bare (char :: rest)) :
    (∀ tail, char = '/' → rest = '*' :: tail → False) ∧
      (∀ tail, char = '/' → rest = '/' :: tail → False) ∧ Bare rest := by
  obtain ⟨apart, rest_bare⟩ := bare_cons_iff.mp bare
  refine ⟨fun tail slash star => ?_, fun tail slash second => ?_, rest_bare⟩
  · exact (apart slash).2 (by rw [star]; rfl)
  · exact (apart slash).1 (by rw [second]; rfl)

/-- Where no comment begins there is nothing to strip. -/
theorem strip_of_bare {text : Text} (bare : Bare text) : strip text = text := by
  rw [strip]
  induction text with
  | nil => rfl
  | cons char rest induction =>
      obtain ⟨not_block, not_line, rest_bare⟩ := bare.not_delimited
      rw [stripFrom.eq_6 char rest not_block not_line, induction rest_bare]

/-! ## Comment lines -/

theorem isBlankText_of_consCode {char : Char} {spans : List Span}
    (blank : ∀ code, .code code ∈ Span.consCode char spans → Text.isBlankText code = true) :
    Text.isBlank char = true ∧ ∀ code, .code code ∈ spans → Text.isBlankText code = true := by
  unfold Span.consCode at blank
  split at blank
  · next text rest =>
      have first := blank _ List.mem_cons_self
      rw [Text.isBlankText, List.all_cons, Bool.and_eq_true] at first
      refine ⟨first.1, fun code member => ?_⟩
      rcases List.mem_cons.mp member with same | member
      · obtain rfl := Span.code.inj same
        exact first.2
      · exact blank code (List.mem_cons_of_mem _ member)
  · have first := blank _ List.mem_cons_self
    rw [Text.isBlankText, List.all_cons, Bool.and_eq_true] at first
    exact ⟨first.1, fun code member => blank code (List.mem_cons_of_mem _ member)⟩

theorem mem_consComment_of_mem {char : Char} {spans : List Span} {code : Text}
    (member : .code code ∈ spans) : .code code ∈ Span.consComment char spans := by
  unfold Span.consComment
  split
  · rcases List.mem_cons.mp member with same | member
    · contradiction
    · exact List.mem_cons_of_mem _ member
  · exact List.mem_cons_of_mem _ member

/-- There are only comments exactly if the code between them is blank and none is left open. -/
theorem onlyComments_iff {isOpen : Bool} {text : Text} :
    onlyComments isOpen text = true ↔
      (∀ code, .code code ∈ spans isOpen text → Text.isBlankText code = true) ∧
        leavesOpen isOpen text = false := by
  refine ⟨blank_of_onlyComments, ?_⟩
  rintro ⟨blank, closed⟩
  fun_induction onlyComments isOpen text with
  | case1 isOpen => simpa [leavesOpen] using closed
  | case2 rest induction =>
      rw [leavesOpen] at closed
      exact induction (fun code member => blank code (List.mem_cons_of_mem _ member)) closed
  | case3 char rest inside induction =>
      rw [spans.eq_3 char rest inside] at blank
      rw [leavesOpen.eq_3 char rest inside] at closed
      exact induction (fun code member => blank code (mem_consComment_of_mem member)) closed
  | case4 rest induction =>
      rw [spans] at blank
      rw [leavesOpen] at closed
      exact induction (fun code member => blank code
        (mem_consComment_of_mem (mem_consComment_of_mem member))) closed
  | case5 => rfl
  | case6 char rest not_block not_line induction =>
      rw [spans.eq_6 char rest not_block not_line] at blank
      rw [leavesOpen.eq_6 char rest not_block not_line] at closed
      obtain ⟨blank_char, blank_rest⟩ := isBlankText_of_consCode blank
      rw [blank_char, Bool.true_and]
      exact induction blank_rest closed

theorem mem_of_comment_mem_consCode {char : Char} {spans : List Span} {comment : Text}
    (member : .comment comment ∈ Span.consCode char spans) : .comment comment ∈ spans := by
  unfold Span.consCode at member
  split at member <;> simpa using member

/-- White space holds no comment. -/
theorem comment_notMem_of_isBlankText {text : Text} (blank : Text.isBlankText text = true)
    (comment : Text) : .comment comment ∉ spans false text := by
  induction text with
  | nil => simp [spans]
  | cons char rest induction =>
      rw [Text.isBlankText, List.all_cons, Bool.and_eq_true] at blank
      have no_slash : char ≠ '/' := by
        rintro rfl
        exact absurd blank.1 (by decide)
      rw [spans.eq_6 char rest (fun _ slash _ => no_slash slash) (fun _ slash _ => no_slash slash)]
      exact fun member => induction blank.2 (mem_of_comment_mem_consCode member)

/-- A text of blank code without comments is blank. -/
theorem isBlankText_of_spans {isOpen : Bool} {text : Text}
    (blank : ∀ code, .code code ∈ spans isOpen text → Text.isBlankText code = true)
    (no_comment : ∀ comment, .comment comment ∉ spans isOpen text) :
    Text.isBlankText text = true := by
  rw [← flatMap_spans isOpen text, Text.isBlankText, List.all_flatMap, List.all_eq_true]
  intro span member
  cases span with
  | code code => exact blank code member
  | comment comment => exact absurd member (no_comment comment)

theorem isCommentLine_iff {line : Text} :
    isCommentLine line = true ↔
      (∃ comment, .comment comment ∈ spans false line) ∧
        (∀ code, .code code ∈ spans false line → Text.isBlankText code = true) ∧
          leavesOpen false line = false := by
  rw [isCommentLine, Bool.and_eq_true, Bool.not_eq_true', onlyComments_iff]
  refine and_congr_left fun closed => ?_
  have blank := closed.1
  constructor
  · intro visible
    by_contra no_comment
    rw [isBlankText_of_spans blank (not_exists.mp no_comment)] at visible
    contradiction
  · rintro ⟨comment, member⟩
    rw [Bool.eq_false_iff]
    exact fun all_blank => comment_notMem_of_isBlankText all_blank comment member

/-! ## All readings follow the lexer -/

/-- The spans of a text are proper, make up the text and mark its characters as the lexer does; a
block comment is open behind it exactly if the lexer ends in one; stripping puts one space in place
of each comment, which leaves nothing to strip; and a line is a comment line exactly if it has a
comment, its code is blank and the lexer does not end in a block comment. -/
theorem readings_follow_lexer (text : Text) :
    (∀ isOpen, Span.Proper (spans isOpen text) ∧
      (spans isOpen text).flatMap Span.toText = text ∧
      (spans isOpen text).flatMap Span.marks = ((Mode.start isOpen).read text).marks ∧
      (leavesOpen isOpen text = true ↔ ((Mode.start isOpen).read text).last = .block)) ∧
    (strip text = (spans false text).flatMap Span.stripped ∧ Bare (strip text) ∧
      strip (strip text) = strip text) ∧
    (isCommentLine text = true ↔
      (∃ comment, .comment comment ∈ spans false text) ∧
        (∀ code, .code code ∈ spans false text → Text.isBlankText code = true) ∧
          (Mode.code.read text).last ≠ .block) := by
  have bare : Bare (strip text) := bare_stripFrom false text
  refine ⟨fun isOpen => ⟨proper_spans isOpen text, flatMap_spans isOpen text,
    flatMap_marks_spans isOpen text, leavesOpen_iff isOpen text⟩,
    ⟨(stripFrom_eq false text).1 rfl, bare, strip_of_bare bare⟩, ?_⟩
  have closed : leavesOpen false text = false ↔ (Mode.code.read text).last ≠ .block := by
    rw [← Bool.not_eq_true]
    exact not_congr (leavesOpen_iff false text)
  rw [isCommentLine_iff, closed]

/-- The star that opens a comment does not close it, and a comment may end in two stars. -/
example : (Mode.code.read "a/*/b**/ //".toList).marks =
    [false, true, true, true, true, true, true, true, false, true, true] := by decide

end GlslBuild.Comment
