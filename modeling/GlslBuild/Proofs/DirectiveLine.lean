import GlslBuild.Assembly
import GlslBuild.Proofs.Word
import Mathlib.Data.List.TakeWhile

/-!
# Keywords of directive lines

The keyword of a directive is found after joining the lines of the directive and dropping its
comments. It can be seen on the first line, as it is written, if neither a continuation nor a
comment stands where the keyword does.
-/

namespace GlslBuild

namespace Text

/-- What follows the number sign that a text begins with, and white space. -/
def afterSign (text : Text) : Text := trimStart ((trimStart text).drop 1)

/-- The keyword after the number sign. -/
def keywordOf (text : Text) : Text := (afterSign text).takeWhile continuesIdentifier

/-- What follows the keyword. -/
def afterKeyword (text : Text) : Text := (afterSign text).dropWhile continuesIdentifier

/-- The keyword ends on the line and is not hidden by a comment in front of it. -/
def showsKeyword (line : Text) : Bool :=
  (afterKeyword line).head?.all fun char =>
    !isWord char && char != '\\' && (char != '/' || !(keywordOf line).isEmpty)

theorem keywordOf_append_afterKeyword (text : Text) :
    keywordOf text ++ afterKeyword text = afterSign text :=
  List.takeWhile_append_dropWhile

theorem keywordOf_of_takeIdentifier? {text keyword args : Text}
    (taken : takeIdentifier? (afterSign text) = some (keyword, args)) :
    keywordOf text = keyword := by
  rw [keywordOf]
  cases tail : afterSign text with
  | nil =>
      rw [tail] at taken
      contradiction
  | cons char rest =>
      simp only [tail, takeIdentifier?, Option.ite_none_right_eq_some, Option.some.injEq,
        Prod.mk.injEq] at taken
      obtain ⟨starts, rfl, -⟩ := taken
      exact List.takeWhile_cons_of_pos (continuesIdentifier_of_startsIdentifier starts)

/-- A line that shows its keyword goes on with something that is neither part of the keyword nor
hides a part of it. -/
theorem apart_of_showsKeyword {line : Text} (shown : showsKeyword line = true) {char : Char}
    (head : char ∈ (afterKeyword line).head?) :
    isWord char = false ∧ char ≠ '\\' ∧ (keywordOf line = [] → char ≠ '/') := by
  rw [showsKeyword, Option.mem_def.mp head] at shown
  simp only [Option.all_some, Bool.and_eq_true, Bool.or_eq_true, Bool.not_eq_true', bne_iff_ne,
    List.isEmpty_eq_false_iff] at shown
  obtain ⟨⟨gap, no_backslash⟩, slash⟩ := shown
  refine ⟨gap, no_backslash, fun empty => ?_⟩
  rcases slash with no_slash | nonempty
  · exact no_slash
  · exact absurd empty nonempty

/-- Where the keyword is shown, a word is the keyword exactly if it comes first and no word goes on
behind it. -/
theorem keywordOf_eq_iff {line word : Text} (shown : showsKeyword line = true)
    (continues : ∀ char ∈ word, continuesIdentifier char = true) :
    keywordOf line = word ↔
      ∃ after, afterSign line = word ++ after ∧ ∀ char ∈ after.head?, isWord char = false := by
  constructor
  · rintro rfl
    exact ⟨afterKeyword line, (keywordOf_append_afterKeyword line).symm,
      fun char head => (apart_of_showsKeyword shown head).1⟩
  · rintro ⟨after, split, ends⟩
    have seen := takeWhile_append_of_ends (fun _ => isWord_of_continuesIdentifier) ends word
    rw [keywordOf, split, seen.1, List.takeWhile_eq_self_iff.mpr continues]

/-! ## The parts of a directive line -/

theorem trimStart_append_of_blank {blanks : Text} (blank : ∀ char ∈ blanks, isBlank char = true)
    (text : Text) : trimStart (blanks ++ text) = trimStart text :=
  List.dropWhile_append_of_pos blank

theorem trimStart_of_head? {text : Text} (visible : ∀ char ∈ text.head?, isBlank char = false) :
    trimStart text = text := by
  cases text with
  | nil => rfl
  | cons char rest => exact List.dropWhile_cons_of_neg (by simp [visible char rfl])

theorem isBlank_head?_trimStart {text : Text} :
    ∀ char ∈ (trimStart text).head?, isBlank char = false := by
  intro char head
  have stops := List.head?_dropWhile_not isBlank text
  rw [trimStart, Option.mem_def] at head
  rw [head] at stops
  exact stops

/-- Without a keyword, what follows is visible. -/
theorem isBlank_of_keywordOf_eq_nil {line : Text} (empty : keywordOf line = []) {char : Char}
    (head : char ∈ (afterKeyword line).head?) : isBlank char = false := by
  have split := keywordOf_append_afterKeyword line
  rw [empty, List.nil_append] at split
  rw [split] at head
  exact isBlank_head?_trimStart char head

theorem afterSign_append {lead blanks : Text} (lead_blank : ∀ char ∈ lead, isBlank char = true)
    (blank : ∀ char ∈ blanks, isBlank char = true) (tail : Text) :
    afterSign (lead ++ '#' :: (blanks ++ tail)) = trimStart tail := by
  have sign : trimStart ('#' :: (blanks ++ tail)) = '#' :: (blanks ++ tail) :=
    trimStart_of_head? (by rintro char ⟨⟩; decide)
  rw [afterSign, trimStart_append_of_blank lead_blank, sign, List.drop_one, List.tail_cons,
    trimStart_append_of_blank blank]

theorem replaceChar_of_notMem {old : Char} {text : Text} (absent : old ∉ text) (new : Char) :
    replaceChar old new text = text := by
  refine (List.map_congr_left fun char member => if_neg ?_).trans (List.map_id text)
  rintro rfl
  exact absent member

/-- The beginning of a directive up to the end of its keyword: a number sign with white space around
it, and the keyword. -/
def IsStem (word stem : Text) : Prop :=
  ∃ lead blanks, (∀ char ∈ lead, isBlank char = true) ∧ (∀ char ∈ blanks, isBlank char = true) ∧
    (∀ char ∈ word, continuesIdentifier char = true) ∧ stem = lead ++ '#' :: (blanks ++ word)

/-- A line that starts a directive starts with the stem of its keyword. -/
theorem exists_isStem {line : Text} (starts : Item.startsDirective line = true) :
    ∃ stem, IsStem (keywordOf line) stem ∧ line = stem ++ afterKeyword line := by
  have split := List.takeWhile_append_dropWhile (p := isBlank) (l := line)
  rw [Item.startsDirective, beq_iff_eq, trimStart] at starts
  obtain ⟨rest, tail⟩ := List.head?_eq_some_iff.mp starts
  have split_rest := List.takeWhile_append_dropWhile (p := isBlank) (l := rest)
  have after_sign : afterSign line = rest.dropWhile isBlank := by
    rw [afterSign, trimStart, trimStart, tail, List.drop_one, List.tail_cons]
  refine ⟨_, ⟨line.takeWhile isBlank, rest.takeWhile isBlank,
    List.all_eq_true.mp List.all_takeWhile, List.all_eq_true.mp List.all_takeWhile,
    List.all_eq_true.mp List.all_takeWhile, rfl⟩, ?_⟩
  rw [List.append_assoc, List.cons_append, List.append_assoc, keywordOf, afterKeyword,
    List.takeWhile_append_dropWhile, after_sign, split_rest, ← tail, split]

namespace IsStem

variable {word stem : Text}

/-- The keyword of what begins with a stem is that of the stem, if nothing belongs to it that comes
next. -/
theorem parts_append (is_stem : IsStem word stem) {after : Text}
    (ends : ∀ char ∈ after.head?, continuesIdentifier char = false)
    (visible : word = [] → ∀ char ∈ after.head?, isBlank char = false) :
    keywordOf (stem ++ after) = word ∧ afterKeyword (stem ++ after) = after := by
  obtain ⟨lead, blanks, lead_blank, blank, continues, rfl⟩ := is_stem
  have shown : trimStart (word ++ after) = word ++ after := by
    apply trimStart_of_head?
    intro char head
    cases word with
    | nil => exact visible rfl char head
    | cons first word =>
        obtain rfl := Option.some.inj head
        exact isBlank_eq_false_of_continuesIdentifier (continues first List.mem_cons_self)
  have after_sign : afterSign (lead ++ '#' :: (blanks ++ word) ++ after) = word ++ after := by
    rw [List.append_assoc, List.cons_append, List.append_assoc, afterSign_append lead_blank blank,
      shown]
  have stops : after.takeWhile continuesIdentifier = [] ∧
      after.dropWhile continuesIdentifier = after := by
    cases after with
    | nil => exact ⟨rfl, rfl⟩
    | cons char after => simp [ends char rfl]
  rw [keywordOf, afterKeyword, after_sign, List.takeWhile_append_of_pos continues,
    List.dropWhile_append_of_pos continues, stops.1, stops.2, List.append_nil]
  exact ⟨rfl, rfl⟩

/-- There is nothing in a stem but white space, the number sign and the keyword. -/
theorem notMem (is_stem : IsStem word stem) {char : Char} (visible : isBlank char = false)
    (other : continuesIdentifier char = false) (unsigned : char ≠ '#') : char ∉ stem := by
  obtain ⟨lead, blanks, lead_blank, blank, continues, rfl⟩ := is_stem
  have not_lead : char ∉ lead := fun member => by simp [lead_blank char member] at visible
  have not_blanks : char ∉ blanks := fun member => by simp [blank char member] at visible
  have not_word : char ∉ word := fun member => by simp [continues char member] at other
  simp [not_lead, not_blanks, not_word, unsigned]

/-- Line breaks in a stem may become spaces. -/
theorem replaceChar (is_stem : IsStem word stem) :
    IsStem word (Text.replaceChar '\n' ' ' stem) := by
  obtain ⟨lead, blanks, lead_blank, blank, continues, rfl⟩ := is_stem
  have keeps_blank {text : Text} (all : ∀ char ∈ text, isBlank char = true) :
      ∀ char ∈ Text.replaceChar '\n' ' ' text, isBlank char = true := by
    intro char member
    obtain ⟨old, old_member, rfl⟩ := List.mem_map.mp member
    split
    · decide
    · exact all old old_member
  have keeps_word : Text.replaceChar '\n' ' ' word = word :=
    replaceChar_of_notMem (fun newline => absurd (continues '\n' newline) (by decide)) ' '
  refine ⟨Text.replaceChar '\n' ' ' lead, Text.replaceChar '\n' ' ' blanks, keeps_blank lead_blank,
    keeps_blank blank, continues, ?_⟩
  simp only [Text.replaceChar, List.map_append, List.map_cons] at keeps_word ⊢
  rw [keeps_word]
  rfl

end IsStem

/-- What a line says that begins with a number sign, a keyword and a space. -/
theorem keywordOf_cons_append {word : Text} (word_ne_nil : word ≠ [])
    (continues : ∀ char ∈ word, continuesIdentifier char = true) (rest : Text) :
    Item.startsDirective ('#' :: word ++ ' ' :: rest) = true ∧
      keywordOf ('#' :: word ++ ' ' :: rest) = word ∧
      showsKeyword ('#' :: word ++ ' ' :: rest) = true := by
  have is_stem : IsStem word ('#' :: word) := ⟨[], [], by simp, by simp, continues, rfl⟩
  have ends : ∀ char ∈ (' ' :: rest).head?, continuesIdentifier char = false := by
    rintro char ⟨⟩
    decide
  have parts := is_stem.parts_append ends fun empty => absurd empty word_ne_nil
  refine ⟨rfl, parts.1, ?_⟩
  rw [showsKeyword, parts.2, parts.1]
  cases word with
  | nil => contradiction
  | cons => rfl

theorem exists_trimStart_append {blanks : Text} (blank : ∀ char ∈ blanks, isBlank char = true)
    (text : Text) : ∃ rest, (∀ char ∈ rest, isBlank char = true) ∧
      trimStart (text ++ blanks) = trimStart text ++ rest := by
  rw [trimStart, trimStart, List.dropWhile_append]
  split
  · next dropped =>
      refine ⟨[], by simp, ?_⟩
      rw [List.dropWhile_eq_nil_iff.mpr blank, List.isEmpty_iff.mp dropped, List.append_nil]
  · exact ⟨blanks, blank, rfl⟩

/-- No word goes on with white space. -/
theorem isWord_head?_of_blank {blanks : Text} (blank : ∀ char ∈ blanks, isBlank char = true) :
    ∀ char ∈ blanks.head?, isWord char = false := by
  intro char head
  have blank_char := blank char (List.mem_of_mem_head? head)
  rw [Bool.eq_false_iff]
  intro word
  rw [isBlank_eq_false_of_isWord word] at blank_char
  contradiction

theorem exists_afterSign_append {blanks : Text} (blank : ∀ char ∈ blanks, isBlank char = true)
    (text : Text) : ∃ rest, (∀ char ∈ rest, isBlank char = true) ∧
      afterSign (text ++ blanks) = afterSign text ++ rest := by
  obtain ⟨first, first_blank, first_eq⟩ := exists_trimStart_append blank text
  obtain ⟨second, second_blank, second_eq⟩ : ∃ rest, (∀ char ∈ rest, isBlank char = true) ∧
      (trimStart text ++ first).drop 1 = (trimStart text).drop 1 ++ rest := by
    cases trimStart text with
    | nil => exact ⟨first.drop 1, fun char member => first_blank char (List.mem_of_mem_drop member),
        rfl⟩
    | cons char tail => exact ⟨first, first_blank, rfl⟩
  obtain ⟨third, third_blank, third_eq⟩ :=
    exists_trimStart_append second_blank ((trimStart text).drop 1)
  refine ⟨third, third_blank, ?_⟩
  rw [afterSign, first_eq, second_eq, third_eq, afterSign]

/-- White space at the end does not count. -/
theorem keywordOf_append_of_blank {blanks : Text} (blank : ∀ char ∈ blanks, isBlank char = true)
    (text : Text) : keywordOf (text ++ blanks) = keywordOf text := by
  obtain ⟨rest, rest_blank, after_sign⟩ := exists_afterSign_append blank text
  rw [keywordOf, after_sign, (takeWhile_append_of_ends (fun _ => isWord_of_continuesIdentifier)
    (isWord_head?_of_blank rest_blank) _).1, keywordOf]

theorem keywordOf_trimEnd (text : Text) : keywordOf (trimEnd text) = keywordOf text := by
  obtain ⟨dropped, split, blank⟩ := dropEndWhile_append isBlank text
  have same := keywordOf_append_of_blank blank (trimEnd text)
  rw [trimEnd, ← split] at same
  exact same.symm

end Text

/-! ## Comments and continuations behind a keyword -/

namespace Comment

theorem stripFrom_append {text : Text} (plain : '/' ∉ text) (rest : Text) :
    stripFrom false (text ++ rest) = text ++ stripFrom false rest := by
  induction text with
  | nil => rfl
  | cons char text induction =>
      rw [List.mem_cons, not_or] at plain
      have other (tail : Text) (delimiter : Char) (same : char = '/')
          (_ : text ++ rest = delimiter :: tail) : False := plain.1 same.symm
      rw [List.cons_append, stripFrom.eq_6 char (text ++ rest) (other · '*') (other · '/'),
        induction plain.2, List.cons_append]

theorem leavesOpen_of_notMem {text : Text} (plain : '/' ∉ text) :
    leavesOpen false text = false := by
  induction text with
  | nil => rfl
  | cons char text induction =>
      rw [List.mem_cons, not_or] at plain
      have other (tail : Text) (delimiter : Char) (same : char = '/')
          (_ : text = delimiter :: tail) : False := plain.1 same.symm
      rw [leavesOpen.eq_6 char text (other · '*') (other · '/'), induction plain.2]

/-- A text without its comments begins as before, unless it begins with a slash. -/
theorem head?_stripFrom (text : Text) :
    ∀ char ∈ (stripFrom false text).head?,
      text.head? = some char ∨ text.head? = some '/' ∧ char = ' ' := by
  intro char head
  generalize isOpen : false = state at head
  fun_cases stripFrom state text with
  | case1 => contradiction
  | case2 => contradiction
  | case3 => contradiction
  | case4 => exact .inr ⟨rfl, (Option.some.inj head).symm⟩
  | case5 => exact .inr ⟨rfl, (Option.some.inj head).symm⟩
  | case6 first rest not_block not_line =>
      rw [stripFrom.eq_6 first rest not_block not_line] at head
      exact .inl head

end Comment

namespace Item

/-- What was already joined stays. -/
theorem exists_readLogical_append (joined line : Text) (rest : List Text) :
    ∃ more, (readLogical joined line rest).1 = joined ++ more := by
  fun_induction readLogical joined line rest with
  | case1 joined line head => exact ⟨head, rfl⟩
  | case2 joined line => exact ⟨line, rfl⟩
  | case3 joined line next rest head continued induction =>
      obtain ⟨more, same⟩ := induction
      exact ⟨head ++ more, by rw [same, List.append_assoc]⟩
  | case4 joined line next rest ends leaves_open induction =>
      obtain ⟨more, same⟩ := induction
      exact ⟨line ++ ['\n'] ++ more, by rw [same]; simp only [List.append_assoc]⟩
  | case5 joined line next rest => exact ⟨line, rfl⟩

theorem exists_of_continued? {line head : Text} (continued : continued? line = some head) :
    ∃ blanks, line = head ++ '\\' :: blanks := by
  rw [continued?] at continued
  split at continued
  · next ends =>
      obtain ⟨front, trimmed⟩ := List.getLast?_eq_some_iff.mp ends
      obtain ⟨blanks, split, -⟩ := Text.dropEndWhile_append Text.isBlank line
      rw [← Text.trimEnd, trimmed] at split
      rw [trimmed, List.dropLast_concat] at continued
      exact ⟨blanks, by rw [← Option.some.inj continued, split, List.append_assoc]; rfl⟩
  · contradiction

/-- A directive begins with its first line up to the backslash that it ends in, or with the whole
line. In the second case a line break comes next, if anything, and a comment is open. -/
theorem exists_readLogical_eq (line : Text) (rest : List Text) :
    ∃ front more, (readLogical [] line rest).1 = front ++ more ∧
      ((∃ blanks, line = front ++ '\\' :: blanks) ∨
        line = front ∧
          ∀ char ∈ more.head?, char = '\n' ∧ Comment.leavesOpen false line = true) := by
  fun_cases readLogical [] line rest with
  | case1 head continued =>
      exact ⟨head, [], by simp, .inl (exists_of_continued? continued)⟩
  | case2 => exact ⟨line, [], by simp, .inr ⟨rfl, by simp⟩⟩
  | case3 next rest head continued =>
      obtain ⟨more, same⟩ := exists_readLogical_append ([] ++ head) (Text.dropReturns next) rest
      exact ⟨head, more, same, .inl (exists_of_continued? continued)⟩
  | case4 next rest ends leaves_open =>
      obtain ⟨more, same⟩ :=
        exists_readLogical_append ([] ++ line ++ ['\n']) (Text.dropReturns next) rest
      refine ⟨line, '\n' :: more, by simpa using same, .inr ⟨rfl, ?_⟩⟩
      rintro char ⟨⟩
      exact ⟨rfl, leaves_open⟩
  | case5 next rest => exact ⟨line, [], by simp, .inr ⟨rfl, by simp⟩⟩

/-! ## The keyword of a directive -/

/-- The lines of a directive are joined behind the keyword if the first one shows it. -/
theorem exists_readLogical_eq_append {word stem after : Text} (is_stem : Text.IsStem word stem)
    (shown : ∀ char ∈ after.head?, char ≠ '\\') (rest : List Text) :
    ∃ later, (readLogical [] (stem ++ after) rest).1 = stem ++ later ∧
      later.head? = after.head? := by
  have no_backslash : '\\' ∉ stem := is_stem.notMem (by decide) (by decide) (by decide)
  have no_slash : '/' ∉ stem := is_stem.notMem (by decide) (by decide) (by decide)
  obtain ⟨front, more, logical, ⟨blanks, split⟩ | ⟨rfl, breaks⟩⟩ :=
    exists_readLogical_eq (stem ++ after) rest
  · rcases List.append_eq_append_iff.mp split with ⟨tail, rfl, after_eq⟩ | ⟨tail, rfl, behind⟩
    · cases tail with
      | nil => exact absurd rfl (shown '\\' (by rw [after_eq]; simp))
      | cons char tail =>
          refine ⟨char :: tail ++ more, by rw [logical, List.append_assoc], ?_⟩
          rw [after_eq]
          rfl
    · cases tail with
      | nil => exact absurd rfl (shown '\\' (by rw [← List.nil_append after, ← behind]; rfl))
      | cons char tail =>
          cases behind
          exact absurd (List.mem_append_right _ List.mem_cons_self) no_backslash
  · refine ⟨after ++ more, by rw [logical, List.append_assoc], ?_⟩
    cases after with
    | nil =>
        -- Nothing opens a comment in a stem, so no further line is read.
        cases more with
        | nil => rfl
        | cons char more =>
            have leaves_open := (breaks char rfl).2
            rw [List.append_nil, Comment.leavesOpen_of_notMem no_slash] at leaves_open
            exact absurd leaves_open Bool.false_ne_true
    | cons char after => rfl

end Item

/-- The keyword of version directives. -/
def versionWord : Text := "version".toList

/-- A directive for the native compiler whose keyword is `version`. -/
def Content.isVersion : Content → Bool
  | .passThrough cleaned => Text.keywordOf cleaned == versionWord
  | _ => false

namespace Item

theorem isVersion_passThrough_trimEnd {text : Text} :
    (Content.passThrough (Text.trimEnd text)).isVersion = true ↔
      Text.keywordOf text = versionWord := by
  rw [Content.isVersion, Text.keywordOf_trimEnd, beq_iff_eq]

/-- Classification goes by the keyword of the directive without its comments. -/
theorem isVersion_classify {logical cleaned : Text}
    (cleaned_eq : cleaned = Text.replaceChar '\n' ' ' (Comment.strip logical)) :
    (classify logical).isVersion = true ↔ Text.keywordOf cleaned = versionWord := by
  subst cleaned_eq
  rw [classify]
  split
  · exact isVersion_passThrough_trimEnd
  · next keyword args taken =>
      split
      · exact isVersion_passThrough_trimEnd
      · next unlisted =>
          -- The keyword is not one of those for the native compiler, of which `version` is one.
          have keyword_eq := Text.keywordOf_of_takeIdentifier? taken
          have other : keyword ≠ versionWord := by
            rintro rfl
            exact unlisted (by decide)
          rw [keyword_eq]
          split
          · exact ⟨nofun, fun same => absurd same other⟩
          · exact ⟨nofun, fun same => absurd same other⟩

/-- A directive without its comments and line breaks begins as before, or with a space in place of a
comment or a line break. -/
theorem head?_cleaned (text : Text) :
    ∀ char ∈ (Text.replaceChar '\n' ' ' (Comment.strip text)).head?,
      text.head? = some char ∨
        char = ' ' ∧ (text.head? = some '\n' ∨ text.head? = some '/') := by
  intro char head
  rw [Text.replaceChar, List.head?_map] at head
  obtain ⟨old, old_head, rfl⟩ := Option.map_eq_some_iff.mp head
  rcases Comment.head?_stripFrom text old old_head with kept | ⟨slash, rfl⟩
  · split
    · next line_break => exact .inr ⟨rfl, .inl (line_break ▸ kept)⟩
    · exact .inl kept
  · exact .inr ⟨rfl, .inr slash⟩

/-- What is shown of the keyword is what is left of it when the comments are dropped. -/
theorem keywordOf_cleaned {line : Text} (starts : startsDirective line = true)
    (shown : Text.showsKeyword line = true) (rest : List Text) :
    Text.keywordOf (Text.replaceChar '\n' ' ' (Comment.strip (readLogical [] line rest).1)) =
      Text.keywordOf line := by
  obtain ⟨stem, is_stem, split⟩ := Text.exists_isStem starts
  have no_slash : '/' ∉ stem := is_stem.notMem (by decide) (by decide) (by decide)
  obtain ⟨later, logical, same_head⟩ := exists_readLogical_eq_append is_stem
    (fun char head => (Text.apart_of_showsKeyword shown head).2.1) rest
  have cleaned : Text.replaceChar '\n' ' ' (Comment.strip (readLogical [] line rest).1) =
      Text.replaceChar '\n' ' ' stem ++ Text.replaceChar '\n' ' ' (Comment.strip later) := by
    rw [← split] at logical
    rw [logical, Comment.strip, Comment.stripFrom_append no_slash, Text.replaceChar,
      List.map_append]
    rfl
  rw [cleaned]
  refine (is_stem.replaceChar.parts_append ?ends ?visible).1
  case ends =>
    intro char head
    rw [Bool.eq_false_iff]
    intro continues
    rcases head?_cleaned later char head with kept | ⟨rfl, -⟩
    · have gap := (Text.apart_of_showsKeyword shown (same_head ▸ kept)).1
      rw [Text.isWord_of_continuesIdentifier continues] at gap
      contradiction
    · exact absurd continues (by decide)
  case visible =>
    intro empty char head
    rw [← Bool.not_eq_true]
    rcases head?_cleaned later char head with kept | ⟨rfl, line_break | slash⟩
    · rw [Text.isBlank_of_keywordOf_eq_nil empty (same_head ▸ kept)]
      exact Bool.false_ne_true
    · have visible := Text.isBlank_of_keywordOf_eq_nil empty (same_head ▸ line_break)
      exact absurd visible (by decide)
    · exact absurd rfl ((Text.apart_of_showsKeyword shown (same_head ▸ slash)).2.2 empty)

end Item

namespace Assembly

theorem isVersionDirective_iff {line : Text} (shown : Text.showsKeyword line = true) :
    isVersionDirective line = true ↔
      Item.startsDirective line = true ∧ Text.keywordOf line = versionWord := by
  have continues : ∀ char ∈ versionWord, Text.continuesIdentifier char = true :=
    List.all_eq_true.mp (by decide)
  rw [isVersionDirective, Item.startsDirective, beq_iff_eq, Text.keywordOf_eq_iff shown continues]
  split
  · next rest tail =>
      have after_sign : Text.afterSign line = Text.trimStart rest := by
        rw [Text.afterSign, tail, List.drop_one, List.tail_cons]
      rw [tail, List.head?_cons, after_sign]
      split
      · next after dropped =>
          rw [Text.dropLeading?_eq_some_iff.mp dropped]
          constructor
          · intro gap
            refine ⟨rfl, after, rfl, fun char head => ?_⟩
            rw [Option.mem_def.mp head] at gap
            simpa using gap
          · rintro ⟨-, other, same, ends⟩
            obtain rfl := List.append_cancel_left same
            cases head : after.head? with
            | none => rfl
            | some char => simp [ends char head]
      · next undropped =>
          refine ⟨nofun, fun ⟨_, after, begins, _⟩ => ?_⟩
          cases undropped.symm.trans (Text.dropLeading?_eq_some_iff.mpr begins)
  · next other =>
      refine ⟨nofun, fun ⟨starts, _⟩ => ?_⟩
      obtain ⟨rest, tail⟩ := List.head?_eq_some_iff.mp starts
      exact absurd tail (other rest)

end Assembly

end GlslBuild
