import GlslBuild.Proofs.CommentLexer
import GlslBuild.Proofs.Extent
import Mathlib.Data.List.DropRight

/-!
# The ends of texts

Trimming drops white space at the ends of a text. Comments that begin in what is left begin in the
text as well, and where comments are replaced by spaces, white space stays white space.
-/

namespace GlslBuild

namespace Text

/-! ## Trimming -/

/-- Trimming leaves what stands between white space. -/
theorem exists_eq_append_trim (text : Text) :
    ∃ lead blanks, (∀ char ∈ lead, isBlank char = true) ∧ (∀ char ∈ blanks, isBlank char = true) ∧
      text = lead ++ trim text ++ blanks := by
  obtain ⟨blanks, split, blank⟩ := dropEndWhile_append isBlank (trimStart text)
  refine ⟨text.takeWhile isBlank, blanks, List.all_eq_true.mp List.all_takeWhile, blank, ?_⟩
  rw [List.append_assoc, trim, trimEnd, ← split, trimStart, List.takeWhile_append_dropWhile]

theorem trim_infix (text : Text) : trim text <:+: text := by
  obtain ⟨lead, blanks, -, -, split⟩ := exists_eq_append_trim text
  exact ⟨lead, blanks, split.symm⟩

theorem trim_append_of_blank {blanks : Text} (blank : ∀ char ∈ blanks, isBlank char = true)
    (text : Text) : trim (text ++ blanks) = trim text := by
  obtain ⟨rest, rest_blank, split⟩ := exists_trimStart_append blank text
  rw [trim, split, trimEnd_append_of_blank rest_blank, trim]

theorem trim_cons_of_blank {char : Char} (blank : isBlank char = true) (text : Text) :
    trim (char :: text) = trim text := by
  rw [trim, trimStart, List.dropWhile_cons_of_pos blank, trim, trimStart]

/-- Nothing is dropped from an end that does not belong to the class. -/
theorem dropEndWhile_of_getLast? {drops : Char → Bool} {text : Text}
    (kept : ∀ char ∈ text.getLast?, drops char = false) : dropEndWhile drops text = text := by
  refine List.rdropWhile_eq_self_iff.mpr fun text_ne_nil => ?_
  rw [kept _ (List.getLast_mem_getLast? text_ne_nil)]
  exact Bool.false_ne_true

theorem isBlank_getLast?_trimEnd (text : Text) :
    ∀ char ∈ (trimEnd text).getLast?, isBlank char = false := by
  intro char last
  obtain ⟨front, trimmed⟩ := List.getLast?_eq_some_iff.mp last
  have text_ne_nil : trimEnd text ≠ [] := by simp [trimmed]
  have visible : ¬isBlank ((trimEnd text).getLast text_ne_nil) = true :=
    List.rdropWhile_last_not isBlank text text_ne_nil
  simpa [trimmed] using visible

theorem isBlank_head?_trim (text : Text) : ∀ char ∈ (trim text).head?, isBlank char = false := by
  intro char head
  obtain ⟨blanks, split, -⟩ := dropEndWhile_append isBlank (trimStart text)
  change trimStart text = trim text ++ blanks at split
  have first : char ∈ (trimStart text).head? := by
    rw [split, List.head?_append, Option.mem_def.mp head]
    rfl
  exact isBlank_head?_trimStart char first

/-- A text stays as it is if no white space stands at its ends. -/
theorem trim_eq_self {text : Text} (first : ∀ char ∈ text.head?, isBlank char = false)
    (last : ∀ char ∈ text.getLast?, isBlank char = false) : trim text = text := by
  rw [trim, trimStart_of_head? first, trimEnd, dropEndWhile_of_getLast? last]

theorem trim_trim (text : Text) : trim (trim text) = trim text :=
  trim_eq_self (isBlank_head?_trim text) (isBlank_getLast?_trimEnd (trimStart text))

/-- White space is dropped only from the start of a text that is the end of a trimmed one. -/
theorem trim_of_suffix {text rest : Text} (ends : rest <:+ trim text) :
    trim rest = trimStart rest := by
  refine dropEndWhile_of_getLast? fun char last => ?_
  have suffix : trimStart rest <:+ trim text := (List.dropWhile_suffix isBlank).trans ends
  obtain ⟨front, split⟩ := suffix
  have same_last : char ∈ (trim text).getLast? := by
    rw [← split, List.getLast?_append, Option.mem_def.mp last]
    rfl
  exact isBlank_getLast?_trimEnd (trimStart text) char same_last

end Text

/-! ## Comments at the ends of a text -/

namespace Comment

theorem mem_stripFrom {isOpen : Bool} {text : Text} {char : Char}
    (member : char ∈ stripFrom isOpen text) : char ∈ text ∨ char = ' ' := by
  fun_induction stripFrom isOpen text with
  | case1 => contradiction
  | case2 rest induction =>
      exact (induction member).imp_left fun inside =>
        List.mem_cons_of_mem _ (List.mem_cons_of_mem _ inside)
  | case3 first rest inside induction =>
      exact (induction member).imp_left (List.mem_cons_of_mem first)
  | case4 rest induction =>
      rcases List.mem_cons.mp member with space | member
      · exact .inr space
      · exact (induction member).imp_left fun inside =>
          List.mem_cons_of_mem _ (List.mem_cons_of_mem _ inside)
  | case5 => exact .inr (List.mem_singleton.mp member)
  | case6 first rest not_block not_line induction =>
      rcases List.mem_cons.mp member with same | member
      · exact .inl (List.mem_cons.mpr (.inl same))
      · exact (induction member).imp_left (List.mem_cons_of_mem first)

/-- No delimiter begins in white space. -/
theorem exists_eq_cons_of_append {blanks rest tail : Text} {delimiter : Char}
    (blank : ∀ char ∈ blanks, Text.isBlank char = true) (visible : Text.isBlank delimiter = false)
    (split : rest ++ blanks = delimiter :: tail) : ∃ inner, rest = delimiter :: inner := by
  cases rest with
  | nil =>
      rw [List.nil_append] at split
      have blank_delimiter := blank delimiter (by simp [split])
      rw [visible] at blank_delimiter
      contradiction
  | cons first rest => exact ⟨rest, by rw [(List.cons.inj split).1]⟩

/-- Behind a text without its comments white space stays white space. -/
theorem exists_stripFrom_append {blanks : Text} (blank : ∀ char ∈ blanks, Text.isBlank char = true)
    (isOpen : Bool) (text : Text) :
    ∃ rest, (∀ char ∈ rest, Text.isBlank char = true) ∧
      stripFrom isOpen (text ++ blanks) = stripFrom isOpen text ++ rest := by
  have star : Text.isBlank '*' = false := by decide
  have slash : Text.isBlank '/' = false := by decide
  fun_induction stripFrom isOpen text with
  | case1 isOpen =>
      refine ⟨stripFrom isOpen blanks, fun char member => ?_, rfl⟩
      rcases mem_stripFrom member with inside | rfl
      · exact blank char inside
      · decide
  | case2 rest induction => exact induction
  | case3 char rest inside induction =>
      have still_inside (tail : Text) (same : char = '*') (split : rest ++ blanks = '/' :: tail) :
          False := by
        obtain ⟨inner, ends⟩ := exists_eq_cons_of_append blank slash split
        exact inside inner same ends
      rw [List.cons_append, stripFrom.eq_3 char (rest ++ blanks) still_inside]
      exact induction
  | case4 rest induction =>
      obtain ⟨further, further_blank, stripped⟩ := induction
      refine ⟨further, further_blank, ?_⟩
      rw [List.cons_append, List.cons_append, stripFrom, stripped, List.cons_append]
  | case5 rest => exact ⟨[], by simp, rfl⟩
  | case6 char rest not_block not_line induction =>
      obtain ⟨further, further_blank, stripped⟩ := induction
      have still_no_block (tail : Text) (same : char = '/')
          (split : rest ++ blanks = '*' :: tail) : False := by
        obtain ⟨inner, begins⟩ := exists_eq_cons_of_append blank star split
        exact not_block inner same begins
      have still_no_line (tail : Text) (same : char = '/')
          (split : rest ++ blanks = '/' :: tail) : False := by
        obtain ⟨inner, begins⟩ := exists_eq_cons_of_append blank slash split
        exact not_line inner same begins
      refine ⟨further, further_blank, ?_⟩
      rw [List.cons_append, stripFrom.eq_6 char (rest ++ blanks) still_no_block still_no_line,
        stripped, List.cons_append]

theorem trim_strip_dropReturns (text : Text) :
    Text.trim (strip (Text.dropReturns text)) = Text.trim (strip text) := by
  obtain ⟨returns, blank, split⟩ := Text.exists_eq_dropReturns_append text
  obtain ⟨rest, rest_blank, stripped⟩ :=
    exists_stripFrom_append blank false (Text.dropReturns text)
  conv_rhs => rw [split, strip, stripped, Text.trim_append_of_blank rest_blank]
  rfl

/-- Where no comment begins none is left open. -/
theorem leavesOpen_of_bare {text : Text} (bare : Bare text) : leavesOpen false text = false := by
  induction text with
  | nil => rfl
  | cons char rest induction =>
      obtain ⟨not_block, not_line, rest_bare⟩ := bare.not_delimited
      rw [leavesOpen.eq_6 char rest not_block not_line, induction rest_bare]

theorem Bare.of_infix {part whole : Text} (bare : Bare whole) (inside : part <:+: whole) :
    Bare part :=
  ⟨fun line => bare.1 (line.trans inside), fun block => bare.2 (block.trans inside)⟩

theorem Bare.append_left {front rest : Text} (bare : Bare rest) (plain : '/' ∉ front) :
    Bare (front ++ rest) := by
  induction front with
  | nil => exact bare
  | cons char front induction =>
      rw [List.mem_cons, not_or] at plain
      exact bare_cons_iff.mpr ⟨fun slash => absurd slash.symm plain.1, induction plain.2⟩

theorem Bare.append_right {text blanks : Text} (bare : Bare text)
    (blank : ∀ char ∈ blanks, Text.isBlank char = true) : Bare (text ++ blanks) := by
  have apart {rest : Text} {delimiter : Char} (visible : Text.isBlank delimiter = false)
      (other : rest.head? ≠ some delimiter) : (rest ++ blanks).head? ≠ some delimiter := by
    intro head
    obtain ⟨tail, split⟩ := List.head?_eq_some_iff.mp head
    obtain ⟨inner, rfl⟩ := exists_eq_cons_of_append blank visible split
    exact other rfl
  induction text with
  | nil =>
      have plain : '/' ∉ blanks := fun slash => absurd (blank '/' slash) (by decide)
      rw [List.nil_append, ← List.append_nil blanks]
      exact bare.append_left plain
  | cons char rest induction =>
      obtain ⟨begins, rest_bare⟩ := bare_cons_iff.mp bare
      refine bare_cons_iff.mpr ⟨fun slash => ?_, induction rest_bare⟩
      obtain ⟨no_line, no_block⟩ := begins slash
      exact ⟨apart (by decide) no_line, apart (by decide) no_block⟩

/-- White space around a text holds no comment. -/
theorem bare_of_bare_trim {text : Text} (bare : Bare (Text.trim text)) : Bare text := by
  obtain ⟨lead, blanks, lead_blank, blank, split⟩ := Text.exists_eq_append_trim text
  have plain : '/' ∉ lead := fun slash => absurd (lead_blank '/' slash) (by decide)
  rw [split]
  exact (bare.append_left plain).append_right blank

end Comment

end GlslBuild
