import GlslBuild.Proofs.Conditional.Nesting
import GlslBuild.Proofs.Result
import GlslBuild.Proofs.Scanning

/-!
# Comments over several lines

Only ordinary lines leave a comment open, and the lines inside it are ordinary whatever they look
like. None of them changes the context. So text is kept in all of them or in none, and a comment is
given as a whole or left out as a whole.
-/

namespace GlslBuild

/-- The item is a line that starts inside a block comment. -/
def Item.startsInside (item : Item) : Bool :=
  match item.content with
  | .text _ inComment => inComment
  | _ => false

theorem Item.isText_of_startsInside {item : Item} (inside : item.startsInside = true) :
    item.content.isText = true := by
  obtain ⟨line, content⟩ := item
  cases content <;> first | rfl | contradiction

theorem Effect.exists_of_andThen_eq_ok {State : Type} {first : Effect State}
    {next : State → Effect State} {state : State} {output : List Text}
    (done : first.andThen next = ⟨state, .ok output⟩) :
    ∃ between before after, first = ⟨between, .ok before⟩ ∧ next between = ⟨state, .ok after⟩ ∧
      output = before ++ after := by
  obtain ⟨between, result⟩ := first
  cases result with
  | error error => exact absurd (congrArg Effect.result done) nofun
  | ok before =>
      obtain ⟨state_eq, result_eq⟩ := Effect.mk.inj done
      obtain ⟨after, ran, rfl⟩ := exists_of_map_eq_ok result_eq
      refine ⟨between, before, after, rfl, ?_, rfl⟩
      rw [← state_eq, ← ran]

namespace Context

variable {context next : Context} {passLimit : Nat}

/-! ## Ordinary lines -/

/-- What a span of a line becomes: a comment stays, code is expanded. -/
def replaceSpan (context : Context) (passLimit : Nat) : Comment.Span → Except DefinitionError Text
  | .code code => Expansion.ofText context.definitions passLimit code
  | .comment comment => .ok comment

/-- What is given for an ordinary line where text is kept: its comments as they are, and its code
expanded. -/
def Keeps (context : Context) (passLimit : Nat) (content : Content) (line : Text) : Prop :=
  ∃ written inComment pieces, content = .text written inComment ∧
    List.Forall₂ (fun span piece => context.replaceSpan passLimit span = .ok piece)
      (Comment.spans inComment written) pieces ∧
    line = pieces.flatten

theorem expandLine_eq (context : Context) (passLimit : Nat) (text : Text) (inComment : Bool) :
    context.expandLine passLimit text inComment =
      (Comment.spans inComment text).foldlM
        (fun done span => (context.replaceSpan passLimit span).map (done ++ ·)) [] := by
  rw [expandLine]
  congr
  funext done span
  cases span <;> rfl

theorem exists_pieces_of_foldlM {spans : List Comment.Span} {done line : Text}
    (folded : spans.foldlM
      (fun done span => (context.replaceSpan passLimit span).map (done ++ ·)) done = .ok line) :
    ∃ pieces, List.Forall₂ (fun span piece => context.replaceSpan passLimit span = .ok piece)
      spans pieces ∧ line = done ++ pieces.flatten := by
  induction spans generalizing done with
  | nil => exact ⟨[], .nil, by simpa using (Except.ok.inj folded).symm⟩
  | cons span spans induction =>
      rw [List.foldlM_cons] at folded
      cases replaced : context.replaceSpan passLimit span with
      | error error =>
          rw [replaced] at folded
          contradiction
      | ok piece =>
          rw [replaced] at folded
          obtain ⟨pieces, later, rfl⟩ := induction folded
          exact ⟨piece :: pieces, .cons replaced later, by simp⟩

theorem keeps_of_expandLine {written line : Text} {inComment : Bool}
    (expanded : context.expandLine passLimit written inComment = .ok line) :
    context.Keeps passLimit (.text written inComment) line := by
  rw [expandLine_eq] at expanded
  obtain ⟨pieces, replaced, rfl⟩ := exists_pieces_of_foldlM expanded
  exact ⟨written, inComment, pieces, rfl, replaced, rfl⟩

/-- An ordinary line changes nothing, and is given as one line or not at all. -/
theorem step_text_eq_ok {content : Content} {emitted : List Text} (ordinary : content.isText = true)
    (stepped : context.step passLimit content = .ok (next, emitted)) :
    next = context ∧ if context.isActive then
        ∃ line, emitted = [line] ∧ context.Keeps passLimit content line
      else emitted = [] := by
  cases content with
  | passThrough | directive | unknown => contradiction
  | text written inComment =>
      rw [step] at stepped
      split at stepped
      · next active =>
          obtain ⟨line, expanded, pair⟩ := exists_of_map_eq_ok stepped
          obtain ⟨rfl, rfl⟩ := Prod.mk.inj pair
          rw [if_pos active]
          exact ⟨rfl, line, rfl, keeps_of_expandLine (eq_ok_of_mapError_eq_ok expanded)⟩
      · next inactive =>
          obtain ⟨rfl, rfl⟩ := Prod.mk.inj (Except.ok.inj stepped)
          rw [if_neg inactive]
          exact ⟨rfl, rfl⟩

/-- So do ordinary lines in a row: all of them are given, or none. -/
theorem advance_text_eq_ok {items : List Item} {kept : List Text}
    (ordinary : ∀ item ∈ items, item.content.isText = true)
    (ran : advance passLimit items context = ⟨next, .ok kept⟩) :
    next = context ∧ if context.isActive then
        List.Forall₂ (fun item line => context.Keeps passLimit item.content line) items kept
      else kept = [] := by
  induction items generalizing context kept with
  | nil =>
      obtain ⟨rfl, none_kept⟩ := Effect.mk.inj ran
      obtain rfl := Except.ok.inj none_kept
      refine ⟨rfl, ?_⟩
      split
      · exact .nil
      · rfl
  | cons item items induction =>
      obtain ⟨item_ordinary, others_ordinary⟩ := List.forall_mem_cons.mp ordinary
      rw [advance_cons] at ran
      cases stepped : context.step passLimit item.content with
      | error fault =>
          rw [stepped] at ran
          exact absurd (congrArg Effect.result ran) nofun
      | ok outcome =>
          obtain ⟨between, emitted⟩ := outcome
          rw [stepped] at ran
          obtain ⟨state_eq, result_eq⟩ := Effect.mk.inj ran
          obtain ⟨behind, later, rfl⟩ := exists_of_map_eq_ok result_eq
          obtain ⟨rfl, given⟩ := step_text_eq_ok item_ordinary stepped
          have ran_items : advance passLimit items between = ⟨next, .ok behind⟩ := by
            rw [← state_eq, ← later]
          obtain ⟨same, others⟩ := induction others_ordinary ran_items
          refine ⟨same, ?_⟩
          split at given
          · next active =>
              obtain ⟨line, rfl, keeps⟩ := given
              rw [if_pos active] at others ⊢
              exact .cons keeps others
          · next inactive =>
              rw [if_neg inactive] at others ⊢
              rw [given, others, List.append_nil]

end Context

/-! ## Lines inside comments -/

namespace Item

/-- A line that starts inside a comment is scanned as it is, and the item before it is the line
before it, which leaves the comment open. -/
theorem exists_of_startsInside {lines : List Text} {earlier later : List Item} {item : Item}
    (split : scan lines = earlier ++ item :: later) (inside : item.startsInside = true) :
    (∃ line, lines[item.line - 1]? = some line ∧
        item.content = .text (Text.dropReturns line) true) ∧
      ∃ front previous written inComment, earlier = front ++ [previous] ∧
        previous.content = .text written inComment ∧
        Comment.leavesOpen inComment written = true ∧ item.line = previous.line + 1 := by
  obtain ⟨read, taken, left, lines_eq, number, reads⟩ := readFrom_of_scan_eq_append split
  obtain ⟨line, rfl, content_eq⟩ := reads.eq_singleton (isText_of_startsInside inside)
  have is_open : openBehind false earlier = true := by
    rwa [startsInside, content_eq] at inside
  rw [is_open] at content_eq
  refine ⟨⟨line, by simp [lines_eq, number], content_eq⟩, ?_⟩
  rcases List.eq_nil_or_concat' earlier with rfl | ⟨front, previous, rfl⟩
  · contradiction
  rw [openBehind, List.foldl_append] at is_open
  change previous.content.leavesOpen (openBehind false front) = true at is_open
  rw [List.append_assoc] at split
  obtain ⟨read, taken, left, -, number, reads, behind⟩ :=
    Cursor.exists_reads_of_items_eq_append split
  have ordinary : previous.content.isText = true := by
    by_contra directive
    rw [Bool.not_eq_true] at directive
    rw [Content.leavesOpen_of_not_isText directive] at is_open
    rw [reads.isText_iff.mpr (.inl is_open)] at directive
    contradiction
  obtain ⟨before, rfl, written_eq⟩ := reads.eq_singleton ordinary
  rw [written_eq] at is_open
  have next_line := Cursor.line_of_head?_items (congrArg List.head? behind.symm)
  exact ⟨front, previous, _, _, rfl, written_eq, is_open, next_line⟩

end Item

namespace Context

/-- A line that starts inside a comment is an ordinary one behind the one that leaves the comment
open. A line and those behind it that start inside a comment leave the context as it is, and either
each of them is given, with its comments as they are, or none. -/
theorem process_keeps_comments {context : Context} {passLimit : Nat} {lines output : List Text}
    (processed : (context.process passLimit lines).result = .ok output) :
    (∀ earlier item later, Item.scan lines = earlier ++ item :: later →
      item.startsInside = true →
        (∃ line, lines[item.line - 1]? = some line ∧
          item.content = .text (Text.dropReturns line) true) ∧
        ∃ front previous written inComment, earlier = front ++ [previous] ∧
          previous.content = .text written inComment ∧
          Comment.leavesOpen inComment written = true ∧ item.line = previous.line + 1) ∧
      ∀ earlier opener inside later,
        Item.scan lines = earlier ++ (opener :: inside ++ later) →
        opener.content.isText = true → (∀ item ∈ inside, item.startsInside = true) →
          ∃ between before kept after,
            advance passLimit earlier context = ⟨between, .ok before⟩ ∧
            advance passLimit (opener :: inside) between = ⟨between, .ok kept⟩ ∧
            advance passLimit later between =
              ⟨(context.process passLimit lines).context, .ok after⟩ ∧
            output = before ++ (kept ++ after) ∧
            if between.isActive then
              List.Forall₂ (fun item line => between.Keeps passLimit item.content line)
                (opener :: inside) kept
            else kept = [] := by
  refine ⟨fun earlier item later => Item.exists_of_startsInside, ?_⟩
  intro earlier opener inside later split opener_ordinary inside_starts
  have ran := (advance_of_processItems processed).1
  rw [split, advance_append] at ran
  obtain ⟨between, before, rest, ran_earlier, ran_rest, rfl⟩ := Effect.exists_of_andThen_eq_ok ran
  rw [advance_append] at ran_rest
  obtain ⟨next, kept, after, ran_comment, ran_later, rfl⟩ :=
    Effect.exists_of_andThen_eq_ok ran_rest
  have ordinary : ∀ item ∈ opener :: inside, item.content.isText = true :=
    List.forall_mem_cons.mpr ⟨opener_ordinary, fun item member =>
      Item.isText_of_startsInside (inside_starts item member)⟩
  obtain ⟨rfl, given⟩ := advance_text_eq_ok ordinary ran_comment
  rw [process, split]
  exact ⟨next, before, kept, after, ran_earlier, ran_comment, ran_later, rfl, given⟩

/-- A comment that a directive takes in, one over three lines with two directives inside where text
is kept, and one with a directive inside where text is left out. -/
theorem process_keeps_comments_lamp :
    let lines := ["#define LAMP 1 /* one", "*/ + 2", "int a = LAMP; /* LAMP", "#undef LAMP",
      "#endif */ int b = LAMP;", "#if 0", "/* off", "#else */", "#endif"].map String.toList
    let output := ["int a = 1   + 2; /* LAMP", "#undef LAMP",
      "#endif */ int b = 1   + 2;"].map String.toList
    let earlier : List Item := [⟨1, .directive ⟨.define, "LAMP 1   + 2".toList⟩⟩]
    let opener : Item := ⟨3, .text "int a = LAMP; /* LAMP".toList false⟩
    let inside : List Item := [⟨4, .text "#undef LAMP".toList true⟩,
      ⟨5, .text "#endif */ int b = LAMP;".toList true⟩]
    let dropped : List Item := [⟨7, .text "/* off".toList false⟩, ⟨8, .text "#else */".toList true⟩]
    let later : List Item := ⟨6, .directive ⟨.ifExpr, "0".toList⟩⟩ :: dropped ++
      [⟨9, .directive ⟨.endif, []⟩⟩]
    (empty.process 8 lines).result = .ok output ∧
      Item.scan lines = earlier ++ (opener :: inside ++ later) ∧
      (∃ between before kept after, advance 8 earlier empty = ⟨between, .ok before⟩ ∧
        advance 8 (opener :: inside) between = ⟨between, .ok kept⟩ ∧
        output = before ++ (kept ++ after)) ∧
      ∃ front previous, earlier ++ opener :: inside ++ later.take 2 = front ++ [previous] ∧
        previous.line + 1 = 8 := by
  intro lines output earlier opener inside dropped later
  have processed : (empty.process 8 lines).result = .ok output := by decide +kernel
  have split : Item.scan lines = earlier ++ (opener :: inside ++ later) := by decide +kernel
  obtain ⟨starts_inside, whole⟩ := process_keeps_comments processed
  refine ⟨processed, split, ?_, ?_⟩
  · obtain ⟨between, before, kept, after, ran_earlier, ran_comment, -, output_eq, -⟩ :=
      whole earlier opener inside later split rfl (by decide)
    exact ⟨between, before, kept, after, ran_earlier, ran_comment, output_eq⟩
  · obtain ⟨-, front, previous, -, -, front_eq, -, -, number⟩ :=
      starts_inside (earlier ++ opener :: inside ++ later.take 2)
        ⟨8, .text "#else */".toList true⟩ [⟨9, .directive ⟨.endif, []⟩⟩] split rfl
    exact ⟨front, previous, front_eq, number.symm⟩

end Context

end GlslBuild
