import GlslBuild.Proofs.Extent
import Mathlib.Data.List.TakeWhile

/-!
# The lines of items

A scan goes through lines item by item. An ordinary line is an item of its own, and a directive
takes the lines that it extends over. So every line belongs to exactly one item, and the number of
an item tells where its lines begin.
-/

namespace GlslBuild

/-- An ordinary line. -/
def Content.isText : Content → Bool
  | .text _ _ => true
  | _ => false

/-- Whether a block comment is open behind an item: only ordinary lines open and close them. -/
def Content.leavesOpen (isOpen : Bool) : Content → Bool
  | .text written _ => Comment.leavesOpen isOpen written
  | _ => isOpen

theorem Content.leavesOpen_of_not_isText {content : Content} (directive : content.isText = false)
    (isOpen : Bool) : content.leavesOpen isOpen = isOpen := by
  cases content with
  | text => contradiction
  | _ => rfl

namespace Item

theorem isText_classify (logical : Text) : (classify logical).isText = false := by
  unfold classify
  dsimp only
  split
  · rfl
  · split
    · rfl
    · split <;> rfl

/-- White space at the end does not count. -/
theorem startsDirective_append_of_blank {blanks : Text}
    (blank : ∀ char ∈ blanks, Text.isBlank char = true) (text : Text) :
    startsDirective (text ++ blanks) = startsDirective text := by
  rw [startsDirective, startsDirective, Text.trimStart, Text.trimStart, List.dropWhile_append]
  split
  · next dropped =>
      rw [List.isEmpty_iff.mp dropped, List.dropWhile_eq_nil_iff.mpr blank]
  · next visible =>
      rw [List.head?_append_of_ne_nil _ (by simpa using visible)]

theorem startsDirective_dropReturns (line : Text) :
    startsDirective (Text.dropReturns line) = startsDirective line := by
  obtain ⟨returns, blank, split⟩ := Text.exists_eq_dropReturns_append line
  conv_rhs => rw [split, startsDirective_append_of_blank blank]

/-! ## Reading one item -/

/-- What the first lines of those ahead say, given whether a block comment is open in front of them,
and what is left. -/
inductive Reads (isOpen : Bool) : Content → List Text → List Text → Prop where
  | text {line : Text} {left : List Text}
      (ordinary : isOpen = true ∨ startsDirective line = false) :
      Reads isOpen (.text (Text.dropReturns line) isOpen) [line] left
  | directive {line : Text} {more left : List Text} (closed : isOpen = false)
      (starts : startsDirective line = true)
      (extent : IsExtent [] (line :: more) (line :: more ++ left)) :
      Reads isOpen (classify (joined (line :: more))) (line :: more) left

namespace Reads

variable {isOpen : Bool} {content : Content} {taken left : List Text}

theorem ne_nil (reads : Reads isOpen content taken left) : taken ≠ [] := by
  cases reads <;> exact List.cons_ne_nil _ _

/-- Whether an item is an ordinary line depends on its first line. -/
theorem isText_iff (reads : Reads isOpen content taken left) :
    content.isText = true ↔
      isOpen = true ∨ ∀ line ∈ taken.head?, startsDirective line = false := by
  cases reads with
  | text ordinary => simpa [Content.isText] using ordinary
  | directive closed starts extent => simp [isText_classify, closed, starts]

/-- An ordinary line is an item of its own. -/
theorem eq_singleton (reads : Reads isOpen content taken left) (ordinary : content.isText = true) :
    ∃ line, taken = [line] ∧ content = .text (Text.dropReturns line) isOpen := by
  cases reads with
  | text => exact ⟨_, rfl, rfl⟩
  | directive =>
      rw [isText_classify] at ordinary
      contradiction

/-- Any other item is a directive, which its lines say together. -/
theorem isExtent (reads : Reads isOpen content taken left) (directive : content.isText = false) :
    IsExtent [] taken (taken ++ left) ∧ content = classify (joined taken) := by
  cases reads with
  | text => contradiction
  | directive closed starts extent => exact ⟨extent, rfl⟩

/-- An item says the same if more lines follow, unless it is a directive that lacks its end. -/
theorem append (reads : Reads isOpen content taken left)
    (whole : content.isText = false → Conclude [] taken) (more : List Text) :
    Reads isOpen content taken (left ++ more) := by
  cases reads with
  | text ordinary => exact .text ordinary
  | directive closed starts extent =>
      refine .directive closed starts ?_
      rw [← List.append_assoc]
      exact extent.append (whole (isText_classify _)) more

end Reads

/-- There is an item wherever there is a line. -/
theorem exists_reads (isOpen : Bool) {ahead : List Text} (ahead_ne_nil : ahead ≠ []) :
    ∃ content taken left, ahead = taken ++ left ∧ Reads isOpen content taken left := by
  obtain ⟨line, rest, rfl⟩ := List.exists_cons_of_ne_nil ahead_ne_nil
  by_cases ordinary : isOpen = true ∨ startsDirective line = false
  · exact ⟨_, [line], rest, rfl, .text ordinary⟩
  · rw [not_or, Bool.not_eq_true, Bool.not_eq_false] at ordinary
    obtain ⟨taken, extent, -⟩ := exists_isExtent [] line rest
    obtain ⟨left, split⟩ := extent.leading
    obtain ⟨first, more, rfl⟩ := List.exists_cons_of_ne_nil extent.ne_nil
    obtain ⟨rfl, -⟩ := List.cons.inj split
    rw [← split] at extent ⊢
    exact ⟨_, _, left, rfl, .directive ordinary.1 ordinary.2 extent⟩

/-! ## Scanning step by step -/

/-- Where a scan stands: the number of the next line, whether a block comment is open in front of
it, and the lines ahead. -/
structure Cursor where
  line : Nat
  inComment : Bool
  ahead : List Text

namespace Cursor

/-- The items ahead. -/
def items (cursor : Cursor) : List Item := scanFrom cursor.line cursor.inComment cursor.ahead

/-- Reads one item: what it says, and where the scan stands behind it. -/
def next? (cursor : Cursor) : Option (Item × Cursor) :=
  match cursor.ahead with
  | [] => none
  | raw :: rest =>
      let text := Text.dropReturns raw
      if cursor.inComment || !startsDirective text then
        some (⟨cursor.line, .text text cursor.inComment⟩,
          ⟨cursor.line + 1, Comment.leavesOpen cursor.inComment text, rest⟩)
      else
        let logical := readLogical [] text rest
        some (⟨cursor.line, classify logical.1⟩,
          ⟨cursor.line + 1 + (rest.length - logical.2.length), false, logical.2⟩)

/-- A scan is made of single steps. -/
theorem items_eq (cursor : Cursor) :
    cursor.items =
      match cursor.next? with
      | none => []
      | some (item, behind) => item :: behind.items := by
  obtain ⟨line, inComment, ahead⟩ := cursor
  cases ahead with
  | nil => rw [items, scanFrom, next?]
  | cons raw rest =>
      rw [items, scanFrom, next?]
      dsimp only
      split <;> rfl

@[simp] theorem items_nil (line : Nat) (inComment : Bool) : items ⟨line, inComment, []⟩ = [] := by
  rw [items, scanFrom]

variable {isOpen : Bool} {content : Content} {taken left : List Text}

/-- A step follows from what is read. -/
theorem next?_of_reads (reads : Reads isOpen content taken left) (line : Nat) :
    next? ⟨line, isOpen, taken ++ left⟩ =
      some (⟨line, content⟩, ⟨line + taken.length, content.leavesOpen isOpen, left⟩) := by
  cases reads with
  | @text first _ ordinary =>
      have directed : (isOpen || !startsDirective (Text.dropReturns first)) = true := by
        rw [startsDirective_dropReturns]
        simpa using ordinary
      rw [List.singleton_append, next?]
      dsimp only
      rw [if_pos directed]
      rfl
  | @directive first more _ closed starts extent =>
      have directed : ¬(isOpen || !startsDirective (Text.dropReturns first)) = true := by
        rw [startsDirective_dropReturns, closed, starts]
        exact Bool.false_ne_true
      have count : (more ++ left).length - left.length = more.length := by
        rw [List.length_append, Nat.add_sub_cancel]
      rw [List.cons_append] at extent
      rw [List.cons_append, next?]
      dsimp only
      rw [if_neg directed, readLogical_of_isExtent extent, List.length_cons, List.drop_succ_cons,
        List.drop_left, List.nil_append, count, Content.leavesOpen_of_not_isText
          (isText_classify _), closed, Nat.add_assoc, Nat.add_comm 1]

theorem items_of_reads (reads : Reads isOpen content taken left) (line : Nat) :
    items ⟨line, isOpen, taken ++ left⟩ =
      ⟨line, content⟩ :: items ⟨line + taken.length, content.leavesOpen isOpen, left⟩ := by
  rw [items_eq, next?_of_reads reads]

/-- A scan ends or reads one item and goes on behind it. -/
@[elab_as_elim] theorem induction {motive : Nat → Bool → List Text → Prop}
    (nil : ∀ line isOpen, motive line isOpen [])
    (reads : ∀ line isOpen content taken left, Reads isOpen content taken left →
      motive (line + taken.length) (content.leavesOpen isOpen) left →
      motive line isOpen (taken ++ left))
    (line : Nat) (isOpen : Bool) (ahead : List Text) : motive line isOpen ahead := by
  induction length : ahead.length using Nat.strong_induction_on generalizing line isOpen ahead with
  | _ count shorter =>
      by_cases none_left : ahead = []
      · rw [none_left]
        exact nil line isOpen
      · obtain ⟨content, taken, left, rfl, read⟩ := exists_reads isOpen none_left
        have positive := List.length_pos_iff.mpr read.ne_nil
        rw [List.length_append] at length
        exact reads _ _ _ _ _ read (shorter left.length (by omega) _ _ _ rfl)

theorem line_le_of_mem_items {line : Nat} {ahead : List Text} {item : Item}
    (member : item ∈ items ⟨line, isOpen, ahead⟩) : line ≤ item.line := by
  induction line, isOpen, ahead using Cursor.induction with
  | nil => simp at member
  | reads line isOpen content taken left reads induction =>
      rw [items_of_reads reads] at member
      rcases List.mem_cons.mp member with rfl | member
      · exact Nat.le_refl line
      · exact Nat.le_trans (Nat.le_add_right line taken.length) (induction member)

theorem line_of_head?_items {line : Nat} {ahead : List Text} {item : Item}
    (head : item ∈ (items ⟨line, isOpen, ahead⟩).head?) : item.line = line := by
  induction line, isOpen, ahead using Cursor.induction with
  | nil => simp at head
  | reads line isOpen content taken left reads _ =>
      rw [items_of_reads reads] at head
      obtain rfl := Option.some.inj head
      rfl

/-- The numbers of items increase. -/
theorem pairwise_line_items (line : Nat) (isOpen : Bool) (ahead : List Text) :
    ((items ⟨line, isOpen, ahead⟩).map Item.line).Pairwise (· < ·) := by
  induction line, isOpen, ahead using Cursor.induction with
  | nil => simp
  | reads line isOpen content taken left reads induction =>
      rw [items_of_reads reads, List.map_cons]
      refine List.pairwise_cons.mpr ⟨?_, induction⟩
      intro number member
      obtain ⟨item, inside, rfl⟩ := List.mem_map.mp member
      have behind := line_le_of_mem_items inside
      have positive := List.length_pos_iff.mpr reads.ne_nil
      dsimp only
      omega

end Cursor

/-- Whether a block comment is open behind items, which ordinary lines among them left open. -/
def openBehind (isOpen : Bool) (items : List Item) : Bool :=
  items.foldl (fun isOpen item => item.content.leavesOpen isOpen) isOpen

namespace Cursor

/-- Where a scan stands in front of an item, and what it reads there. -/
theorem exists_reads_of_items_eq_append {line : Nat} {isOpen : Bool} {ahead : List Text}
    {earlier later : List Item} {item : Item}
    (split : items ⟨line, isOpen, ahead⟩ = earlier ++ item :: later) :
    ∃ read taken left, ahead = read ++ (taken ++ left) ∧ item.line = line + read.length ∧
      Reads (openBehind isOpen earlier) item.content taken left ∧
      later = items ⟨item.line + taken.length,
        item.content.leavesOpen (openBehind isOpen earlier), left⟩ := by
  induction line, isOpen, ahead using Cursor.induction generalizing earlier with
  | nil => simp at split
  | reads line isOpen content taken left reads induction =>
      rw [items_of_reads reads] at split
      cases earlier with
      | nil =>
          obtain ⟨rfl, rfl⟩ := List.cons.inj split
          exact ⟨[], taken, left, rfl, rfl, reads, rfl⟩
      | cons first earlier =>
          obtain ⟨rfl, behind_split⟩ := List.cons.inj split
          obtain ⟨read, others, rest, rfl, number, here, behind⟩ := induction behind_split
          refine ⟨taken ++ read, others, rest, (List.append_assoc _ _ _).symm, ?_, here, behind⟩
          rw [number, List.length_append, Nat.add_assoc]

end Cursor

/-- Behind earlier items an item is read from lines of which the first has its number. -/
def ReadFrom (lines : List Text) (earlier : List Item) (item : Item) : Prop :=
  ∃ front taken left, lines = front ++ (taken ++ left) ∧ item.line = front.length + 1 ∧
    Reads (openBehind false earlier) item.content taken left

theorem readFrom_of_scan_eq_append {lines : List Text} {earlier later : List Item} {item : Item}
    (split : scan lines = earlier ++ item :: later) : ReadFrom lines earlier item := by
  obtain ⟨front, taken, left, lines_eq, number, reads, -⟩ :=
    Cursor.exists_reads_of_items_eq_append split
  exact ⟨front, taken, left, lines_eq, number.trans (Nat.add_comm 1 front.length), reads⟩

/-! ## The partition -/

/-- The lines from the number of an item up to that of the item behind it, or to the end. -/
def extent (lines : List Text) (item : Item) (later : List Item) : List Text :=
  let ahead := lines.drop (item.line - 1)
  match later with
  | [] => ahead
  | next :: _ => ahead.take (next.line - item.line)

/-- The extents of items in order. -/
def extents (lines : List Text) : List Item → List (List Text)
  | [] => []
  | item :: later => extent lines item later :: extents lines later

/-- The lines that are taken by what is read are those from one number up to the next. -/
theorem extent_eq {front taken left : List Text} {item : Item} (isOpen : Bool)
    (here : item.line = 1 + front.length) :
    extent (front ++ (taken ++ left)) item
      (Cursor.items ⟨item.line + taken.length, isOpen, left⟩) = taken := by
  have ahead : (front ++ (taken ++ left)).drop (item.line - 1) = taken ++ left := by
    rw [here, Nat.add_sub_cancel_left, List.drop_left]
  cases left with
  | nil => rw [Cursor.items_nil, extent, ahead, List.append_nil]
  | cons line rest =>
      obtain ⟨content, others, behind, split, reads⟩ :=
        exists_reads isOpen (List.cons_ne_nil line rest)
      rw [split, Cursor.items_of_reads reads, extent, ← split, ahead, Nat.add_sub_cancel_left,
        List.take_left]

/-- The extents of the items ahead make up the lines ahead. -/
theorem flatten_extents (front : List Text) (isOpen : Bool) (ahead : List Text) :
    (extents (front ++ ahead) (Cursor.items ⟨1 + front.length, isOpen, ahead⟩)).flatten =
      ahead := by
  induction number : 1 + front.length, isOpen, ahead using Cursor.induction generalizing front with
  | nil => rw [Cursor.items_nil]; rfl
  | reads line isOpen content taken left reads induction =>
      have place : 1 + (front ++ taken).length = line + taken.length := by
        rw [List.length_append, ← Nat.add_assoc, number]
      have behind := induction (front ++ taken) place
      have starts : (Item.mk line content).line = 1 + front.length := number.symm
      rw [List.append_assoc] at behind
      rw [Cursor.items_of_reads reads, extents, List.flatten_cons]
      exact congrArg₂ (· ++ ·) (extent_eq _ starts) behind

/-- Items partition the lines that they are scanned from. Their numbers increase from one, and the
lines from one number up to the next are those that the item takes. The item is an ordinary line
exactly if an ordinary line before it left a block comment open or its line does not begin with a
number sign, and any other item takes the first lines that end a directive, or all if there are
none. -/
theorem scan_partition (lines : List Text) :
    ((scan lines).map Item.line).Pairwise (· < ·) ∧
      (∀ first ∈ (scan lines).head?, first.line = 1) ∧
      (extents lines (scan lines)).flatten = lines ∧
      ∀ earlier item later, scan lines = earlier ++ item :: later →
        let isOpen := openBehind false earlier
        let ahead := lines.drop (item.line - 1)
        let taken := extent lines item later
        (∃ behind, Cursor.next? ⟨item.line, isOpen, ahead⟩ = some (item, behind) ∧
          ahead = taken ++ behind.ahead ∧ behind.items = later) ∧
        (item.content.isText = true ↔
          isOpen = true ∨ ∀ line ∈ taken.head?, startsDirective line = false) ∧
        (item.content.isText = true →
          ∃ line, taken = [line] ∧ item.content = .text (Text.dropReturns line) isOpen) ∧
        (item.content.isText = false →
          IsExtent [] taken ahead ∧ item.content = classify (joined taken)) := by
  refine ⟨Cursor.pairwise_line_items 1 false lines, fun _ => Cursor.line_of_head?_items,
    flatten_extents [] false lines, ?_⟩
  intro earlier item later split isOpen ahead taken
  obtain ⟨read, run, left, rfl, number, reads, rfl⟩ :=
    Cursor.exists_reads_of_items_eq_append split
  have taken_eq : taken = run := extent_eq _ number
  have ahead_eq : ahead = run ++ left := by
    simp only [ahead]
    rw [number, Nat.add_sub_cancel_left, List.drop_left]
  rw [taken_eq, ahead_eq]
  exact ⟨⟨_, Cursor.next?_of_reads reads item.line, rfl, rfl⟩, reads.isText_iff,
    reads.eq_singleton, reads.isExtent⟩

/-- A continued directive, a comment over two ordinary lines with a directive inside, and a
directive that the lines end in. -/
theorem scan_partition_tangled :
    let lines := ["#define A 1 \\ ", "+ 2\r", "int a; /* A", "#if 0 */ int b;\r",
      " # define B /* two", "#endif", "*/ 3 \\"].map String.toList
    let last : Item := ⟨5, .directive ⟨.define, "B   3".toList⟩⟩
    let earlier : List Item := [⟨1, .directive ⟨.define, "A 1 + 2".toList⟩⟩,
      ⟨3, .text "int a; /* A".toList false⟩, ⟨4, .text "#if 0 */ int b;".toList true⟩]
    scan lines = earlier ++ [last] ∧ extent lines last [] = lines.drop 4 ∧
      IsExtent [] (lines.drop 4) (lines.drop 4) ∧
      last.content = classify (joined (lines.drop 4)) := by
  intro lines last earlier
  have split : scan lines = earlier ++ [last] := by decide +kernel
  obtain ⟨-, -, -, items⟩ := scan_partition lines
  obtain ⟨-, -, -, directive⟩ := items earlier last [] split
  obtain ⟨takes, content⟩ := directive rfl
  exact ⟨split, rfl, takes, content⟩

end Item

end GlslBuild
