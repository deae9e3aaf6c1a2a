import GlslBuild.Proofs.AssembledLines
import GlslBuild.Proofs.Conditional.Concatenation
import GlslBuild.Proofs.Trimming

/-!
# Directives written out

A directive is written out on one line, without its comments and without the white space around
them. Scanned again, the line says the same and is all that the directive takes, unless it ends in a
backslash: then the next line is joined to it. A backslash that continued nothing comes to stand at
the end where the comment or the backslash behind it is gone.
-/

namespace GlslBuild

namespace Text

theorem takeIdentifier?_append_of_blank {blanks : Text}
    (blank : ∀ char ∈ blanks, isBlank char = true) (text : Text) :
    takeIdentifier? (text ++ blanks) =
      (takeIdentifier? text).map fun (name, tail) => (name, tail ++ blanks) := by
  have ends := isWord_head?_of_blank blank
  cases text with
  | nil =>
      cases blanks with
      | nil => rfl
      | cons char rest =>
          have stops : startsIdentifier char = false := by
            rw [Bool.eq_false_iff]
            intro starts
            have continues := continuesIdentifier_of_startsIdentifier starts
            have gap := ends char rfl
            rw [isWord_of_continuesIdentifier continues] at gap
            contradiction
          simp [takeIdentifier?, stops]
  | cons char rest => exact takeIdentifier?_append (List.cons_ne_nil char rest) ends

/-- A beginning without a character stands in front of the first such character. -/
theorem prefix_of_notMem {stem front rest : Text} {char : Char}
    (leads : stem <+: front ++ char :: rest) (absent : char ∉ stem) : stem <+: front := by
  rcases List.prefix_or_prefix_of_prefix leads (List.prefix_append front (char :: rest)) with
    shorter | longer
  · exact shorter
  · obtain ⟨behind, rfl⟩ := longer
    cases behind with
    | nil => simp
    | cons other behind =>
        rw [List.prefix_append_right_inj, List.cons_prefix_cons] at leads
        exact absurd (by simp [leads.1]) absent

/-- What begins with the stem of a keyword starts a directive. -/
theorem IsStem.startsDirective {word stem text : Text} (is_stem : IsStem word stem)
    (leads : stem <+: text) : Item.startsDirective text = true := by
  obtain ⟨lead, blanks, lead_blank, -, -, rfl⟩ := is_stem
  obtain ⟨rest, rfl⟩ := leads
  rw [Item.startsDirective, List.append_assoc, trimStart_append_of_blank lead_blank,
    List.cons_append, trimStart_of_head? (by rintro char ⟨⟩; decide)]
  rfl

end Text

theorem Keyword.isBlank_of_mem_stem (keyword : Keyword) {char : Char}
    (member : char ∈ '#' :: keyword.text) : Text.isBlank char = false := by
  have visible : ('#' :: keyword.text).all (fun char => !Text.isBlank char) = true := by
    cases keyword <;> decide
  simpa using List.all_eq_true.mp visible char member

namespace Comment

/-- No comment comes to begin where another character than its delimiters is put. -/
theorem Bare.replaceChar {text : Text} (bare : Bare text) {old new : Char} (no_slash : new ≠ '/')
    (no_star : new ≠ '*') : Bare (Text.replaceChar old new text) := by
  have kept {char delimiter : Char} (other : new ≠ delimiter)
      (same : (if char = old then new else char) = delimiter) : char = delimiter := by
    split at same
    · exact absurd same other
    · exact same
  have kept_head {rest : Text} {delimiter : Char} (other : new ≠ delimiter)
      (head : (Text.replaceChar old new rest).head? = some delimiter) :
      rest.head? = some delimiter := by
    rw [Text.replaceChar, List.head?_map, Option.map_eq_some_iff] at head
    obtain ⟨char, first, same⟩ := head
    rw [first, kept other same]
  induction text with
  | nil => exact bare
  | cons char rest induction =>
      obtain ⟨begins, rest_bare⟩ := bare_cons_iff.mp bare
      refine bare_cons_iff.mpr ⟨fun slash => ?_, induction rest_bare⟩
      obtain ⟨no_line, no_block⟩ := begins (kept no_slash slash)
      exact ⟨fun head => no_line (kept_head no_slash head),
        fun head => no_block (kept_head no_star head)⟩

end Comment

/-- The line that is written out for a directive, be it meant for the native compiler or not. -/
def Content.emitted? : Content → Option Text
  | .passThrough written => some written
  | .directive said => some said.toLine
  | _ => none

namespace Item

/-! ## Directives without comments -/

/-- A joined directive without its comments and line breaks. -/
def cleaned (logical : Text) : Text := Text.replaceChar '\n' ' ' (Comment.strip logical)

/-- What a directive says that has no comments and no line breaks. -/
def said (text : Text) : Content :=
  match Text.takeIdentifier? (Text.afterSign text) with
  | none => .passThrough (Text.trimEnd text)
  | some (keyword, args) =>
      if passThroughKeywords.contains keyword then .passThrough (Text.trimEnd text)
      else
        match Keyword.ofText? keyword with
        | some keyword => .directive ⟨keyword, Text.trim args⟩
        | none => .unknown keyword

theorem classify_eq (logical : Text) : classify logical = said (cleaned logical) := rfl

/-- A directive on one line in which no comment begins. -/
structure Clean (text : Text) : Prop where
  starts : startsDirective text = true
  single : Text.SingleLine text
  bare : Comment.Bare text

theorem Clean.cleaned_eq {text : Text} (clean : Clean text) : cleaned text = text := by
  rw [cleaned, Comment.strip_of_bare clean.bare, Text.replaceChar_of_notMem clean.single]

theorem Clean.classify_eq {text : Text} (clean : Clean text) : classify text = said text := by
  rw [Item.classify_eq, clean.cleaned_eq]

theorem said_append_of_blank {blanks : Text} (blank : ∀ char ∈ blanks, Text.isBlank char = true)
    (text : Text) : said (text ++ blanks) = said text := by
  obtain ⟨rest, rest_blank, after_sign⟩ := Text.exists_afterSign_append blank text
  rw [said, said, after_sign, Text.takeIdentifier?_append_of_blank rest_blank,
    Text.trimEnd_append_of_blank blank]
  cases Text.takeIdentifier? (Text.afterSign text) with
  | none => rfl
  | some taken => simp only [Option.map_some, Text.trim_append_of_blank rest_blank]

theorem said_trimEnd (text : Text) : said (Text.trimEnd text) = said text := by
  obtain ⟨blanks, split, blank⟩ := Text.dropEndWhile_append Text.isBlank text
  conv_rhs => rw [split, said_append_of_blank blank]
  rfl

theorem said_keyword_append (keyword : Keyword) {rest : Text}
    (ends : ∀ char ∈ rest.head?, Text.isWord char = false) :
    said ('#' :: keyword.text ++ rest) = .directive ⟨keyword, Text.trim rest⟩ := by
  have none_blank : ∀ char ∈ ([] : Text), Text.isBlank char = true := nofun
  have keyword_ne_nil : keyword.text ≠ [] := by cases keyword <;> decide
  have visible : ∀ char ∈ (keyword.text ++ rest).head?, Text.isBlank char = false := by
    rw [List.head?_append_of_ne_nil _ keyword_ne_nil]
    exact fun char first => keyword.isBlank_of_mem_stem
      (List.mem_cons_of_mem _ (List.mem_of_mem_head? first))
  have signed : Text.afterSign ('#' :: keyword.text ++ rest) = keyword.text ++ rest := by
    have behind := Text.afterSign_append none_blank none_blank (keyword.text ++ rest)
    rwa [Text.trimStart_of_head? visible] at behind
  have alone : Text.takeIdentifier? keyword.text = some (keyword.text, []) := by
    cases keyword <;> decide
  have own : passThroughKeywords.contains keyword.text = false := by cases keyword <;> decide
  rw [said, signed, Text.takeIdentifier?_append keyword_ne_nil ends, alone]
  simp only [Option.map_some, own, Bool.false_eq_true, if_false, Keyword.ofText?_text,
    List.nil_append]

theorem eq_trimEnd_of_said {text written : Text} (reads : said text = .passThrough written) :
    written = Text.trimEnd text := by
  rw [said] at reads
  split at reads
  · exact (Content.passThrough.inj reads).symm
  · split at reads
    · exact (Content.passThrough.inj reads).symm
    · split at reads <;> contradiction

theorem exists_args_of_said {text : Text} {directive : Directive}
    (reads : said text = .directive directive) :
    ∃ args, args <:+ text ∧ directive.args = Text.trim args := by
  rw [said] at reads
  split at reads
  · contradiction
  · next word args taken =>
      split at reads
      · contradiction
      · split at reads
        · next keyword known =>
            refine ⟨args, ?_, by rw [← Content.directive.inj reads]⟩
            have behind : args <:+ Text.afterSign text :=
              ⟨word, (Text.takeIdentifier?_eq_some taken).2.symm⟩
            exact behind.trans ((List.dropWhile_suffix Text.isBlank).trans
              ((List.drop_suffix 1 _).trans (List.dropWhile_suffix Text.isBlank)))
        · contradiction

/-! ## The beginning of a directive -/

theorem startsDirective_append {front : Text} (starts : startsDirective front = true)
    (rest : Text) : startsDirective (front ++ rest) = true := by
  obtain ⟨stem, is_stem, split⟩ := Text.exists_isStem starts
  refine is_stem.startsDirective ⟨Text.afterKeyword front ++ rest, ?_⟩
  rw [← List.append_assoc, ← split]

theorem startsDirective_of_append_backslash {front rest : Text}
    (starts : startsDirective (front ++ '\\' :: rest) = true) : startsDirective front = true := by
  obtain ⟨stem, is_stem, split⟩ := Text.exists_isStem starts
  have no_backslash : '\\' ∉ stem := is_stem.notMem (by decide) (by decide) (by decide)
  exact is_stem.startsDirective (Text.prefix_of_notMem ⟨_, split.symm⟩ no_backslash)

theorem startsDirective_cleaned {logical : Text} (starts : startsDirective logical = true) :
    startsDirective (cleaned logical) = true := by
  obtain ⟨stem, is_stem, split⟩ := Text.exists_isStem starts
  have no_slash : '/' ∉ stem := is_stem.notMem (by decide) (by decide) (by decide)
  refine is_stem.replaceChar.startsDirective ?_
  conv_rhs => rw [cleaned, split, Comment.strip, Comment.stripFrom_append no_slash]
  exact (List.prefix_append stem _).map _

/-- Joined lines begin as the first of them does. -/
theorem startsDirective_joined {line : Text} (starts : startsDirective line = true)
    (more : List Text) : startsDirective (joined (line :: more)) = true := by
  obtain ⟨rest, split⟩ : ∃ rest, joined (line :: more) =
      (continued? line).getD (Text.dropReturns line) ++ rest := by
    cases more with
    | nil => exact ⟨[], (List.append_nil _).symm⟩
    | cons next more =>
        rw [joined, joint]
        cases continued? line with
        | none => exact ⟨'\n' :: joined (next :: more), by simp⟩
        | some head => exact ⟨joined (next :: more), rfl⟩
  rw [split]
  apply startsDirective_append
  cases continued : continued? line with
  | none => rwa [Option.getD_none, startsDirective_dropReturns]
  | some head =>
      obtain ⟨blanks, rfl⟩ := exists_of_continued? continued
      exact startsDirective_of_append_backslash starts

theorem clean_cleaned {logical : Text} (starts : startsDirective logical = true) :
    Clean (cleaned logical) where
  starts := startsDirective_cleaned starts
  single := Text.singleLine_replaceChar (Comment.strip logical)
  bare := (Comment.bare_stripFrom false logical).replaceChar (by decide) (by decide)

/-! ## The line of a directive -/

/-- A directive as it is written out: on one line, with no comment and no white space at its end. -/
structure Written (line : Text) : Prop extends Clean line where
  visible : ∀ char ∈ line.getLast?, Text.isBlank char = false

theorem Clean.written_trimEnd {text : Text} (clean : Clean text) :
    Written (Text.trimEnd text) where
  starts := by
    obtain ⟨blanks, split, blank⟩ := Text.dropEndWhile_append Text.isBlank text
    have starts := clean.starts
    rwa [split, startsDirective_append_of_blank blank] at starts
  single := clean.single.of_subset (Text.trimEnd_subset text)
  bare := clean.bare.of_infix (List.rdropWhile_prefix Text.isBlank text).isInfix
  visible := Text.isBlank_getLast?_trimEnd text

/-- Behind its keyword a directive has nothing, or its arguments behind a space. -/
theorem exists_toLine_eq (directive : Directive) :
    ∃ rest, directive.toLine = '#' :: directive.keyword.text ++ rest ∧
      (rest = [] ∧ directive.args = [] ∨ rest = ' ' :: directive.args ∧ directive.args ≠ []) := by
  rw [Directive.toLine]
  split
  · next empty => exact ⟨[], (List.append_nil _).symm, .inl ⟨rfl, List.isEmpty_iff.mp empty⟩⟩
  · next filled => exact ⟨_, rfl, .inr ⟨rfl, fun empty => filled (List.isEmpty_iff.mpr empty)⟩⟩

theorem said_toLine {directive : Directive} (trimmed : Text.trim directive.args = directive.args) :
    said directive.toLine = .directive directive := by
  obtain ⟨rest, line_eq, ⟨rfl, empty⟩ | ⟨rfl, -⟩⟩ := exists_toLine_eq directive
  · rw [line_eq, said_keyword_append _ (by simp), ← empty, trimmed]
  · rw [line_eq, said_keyword_append _ (by rintro char ⟨⟩; decide),
      Text.trim_cons_of_blank (by decide), trimmed]

theorem written_toLine {directive : Directive} (trimmed : Text.trim directive.args = directive.args)
    (single : Text.SingleLine directive.args) (bare : Comment.Bare directive.args) :
    Written directive.toLine where
  starts := by
    obtain ⟨rest, line_eq, -⟩ := exists_toLine_eq directive
    rw [line_eq]
    rfl
  single := Directive.singleLine_toLine single
  bare := by
    have plain : '/' ∉ '#' :: directive.keyword.text := by cases directive.keyword <;> decide
    obtain ⟨rest, line_eq, ⟨rfl, -⟩ | ⟨rfl, -⟩⟩ := exists_toLine_eq directive
    · exact line_eq ▸ Comment.Bare.append_left (by decide) plain
    · have spaced : Comment.Bare ([' '] ++ directive.args) := bare.append_left (by decide)
      exact line_eq ▸ spaced.append_left plain
  visible := by
    obtain ⟨rest, line_eq, ⟨rfl, -⟩ | ⟨rfl, args_ne_nil⟩⟩ := exists_toLine_eq directive
    · rw [line_eq, List.append_nil]
      exact fun char last => directive.keyword.isBlank_of_mem_stem (List.mem_of_getLast? last)
    · have last : directive.toLine.getLast? = directive.args.getLast? := by
        rw [line_eq, List.append_cons, List.getLast?_append_of_ne_nil _ args_ne_nil]
      rw [last, ← trimmed]
      exact Text.isBlank_getLast?_trimEnd _

theorem count_toLine (directive : Directive) :
    directive.toLine.count '\\' = directive.args.count '\\' := by
  have plain : ('#' :: directive.keyword.text).count '\\' = 0 := by
    cases directive.keyword <;> decide
  obtain ⟨rest, line_eq, ⟨rfl, empty⟩ | ⟨rfl, -⟩⟩ := exists_toLine_eq directive
  · rw [line_eq, List.count_append, plain, empty, Nat.zero_add]
  · rw [line_eq, List.count_append, plain, Nat.zero_add, List.count_cons_of_ne (by decide)]

/-- What is written out for a directive without comments says the same, and has no backslash that
the directive does not have. -/
theorem Clean.of_emitted {text line : Text} (clean : Clean text)
    (emitted : (said text).emitted? = some line) :
    Written line ∧ said line = said text ∧ line.count '\\' ≤ text.count '\\' := by
  cases reads : said text with
  | text | unknown =>
      rw [reads] at emitted
      contradiction
  | passThrough written =>
      rw [reads] at emitted
      obtain rfl : Text.trimEnd text = line :=
        (eq_trimEnd_of_said reads).symm.trans (Option.some.inj emitted)
      exact ⟨clean.written_trimEnd, (said_trimEnd text).trans reads,
        (List.rdropWhile_prefix Text.isBlank text).sublist.count_le _⟩
  | directive directive =>
      rw [reads] at emitted
      obtain rfl : directive.toLine = line := Option.some.inj emitted
      obtain ⟨args, behind, args_eq⟩ := exists_args_of_said reads
      have trimmed : Text.trim directive.args = directive.args := by rw [args_eq, Text.trim_trim]
      have inside : directive.args <:+: text := by
        rw [args_eq]
        exact (Text.trim_infix args).trans behind.isInfix
      have written := written_toLine trimmed (clean.single.of_subset inside.subset)
        (clean.bare.of_infix inside)
      exact ⟨written, said_toLine trimmed, count_toLine directive ▸ inside.sublist.count_le '\\'⟩

/-! ## Scanning the line again -/

namespace Written

variable {line : Text}

theorem continued?_eq (written : Written line) :
    continued? line = if line.getLast? = some '\\' then some line.dropLast else none := by
  rw [continued?, Text.trimEnd, Text.dropEndWhile_of_getLast? written.visible]

theorem dropReturns_eq (written : Written line) : Text.dropReturns line = line := by
  refine Text.dropEndWhile_of_getLast? fun char last => ?_
  rw [beq_eq_false_iff_ne]
  rintro rfl
  exact absurd (written.visible '\r' last) (by decide)

theorem conclude_iff (written : Written line) :
    Conclude [] [line] ↔ line.getLast? ≠ some '\\' := by
  rw [conclude_singleton_iff, written.continued?_eq, written.dropReturns_eq, List.nil_append,
    Comment.leavesOpen_of_bare written.bare]
  simp

/-- The line is all that is read, and what it says is what is read. -/
theorem scan_cons (written : Written line) (ends : line.getLast? ≠ some '\\')
    (further : List Text) :
    scan (line :: further) = ⟨1, said line⟩ :: (scan further).map (shift 1) := by
  have reads := Reads.directive rfl written.starts
    (IsExtent.of_conclude (written.conclude_iff.mpr ends) further)
  have joined_eq : joined [line] = line := by
    rw [joined, written.continued?_eq, if_neg ends, Option.getD_none, written.dropReturns_eq]
  have directive : (said line).isText = false := written.classify_eq ▸ isText_classify line
  rw [joined_eq, written.classify_eq] at reads
  have items := Cursor.items_of_reads reads 1
  rw [Content.leavesOpen_of_not_isText directive, List.length_singleton, Cursor.items_add] at items
  exact items

/-- Before the backslash that the line ends in there is a directive without comments. -/
theorem exists_of_backslash (written : Written line) (ends : line.getLast? = some '\\') :
    ∃ front, line = front ++ ['\\'] ∧ Clean front ∧
      scan [line] = [⟨1, said front⟩] := by
  obtain ⟨front, rfl⟩ := List.getLast?_eq_some_iff.mp ends
  have inside : front <:+: front ++ ['\\'] := (List.prefix_append front ['\\']).isInfix
  have clean : Clean front := ⟨startsDirective_of_append_backslash written.starts,
    written.single.of_subset inside.subset, written.bare.of_infix inside⟩
  have joined_eq : joined [front ++ ['\\']] = front := by
    rw [joined, written.continued?_eq, if_pos ends, Option.getD_some, List.dropLast_concat]
  have reads : Reads false (said front) [front ++ ['\\']] [] := by
    have reads := Reads.directive rfl written.starts (IsExtent.last [] (front ++ ['\\']))
    rwa [joined_eq, clean.classify_eq] at reads
  refine ⟨front, rfl, clean, ?_⟩
  have items := Cursor.items_of_reads reads 1
  rw [Cursor.items_nil] at items
  exact items

/-- The line behind a backslash belongs to the same item. -/
theorem scan_cons_ne (written : Written line) (ends : line.getLast? = some '\\') (content : Content)
    (next : Text) (further : List Text) :
    scan (line :: next :: further) ≠ ⟨1, content⟩ :: (scan (next :: further)).map (shift 1) := by
  intro scanned
  obtain ⟨other, taken, left, split, reads⟩ :=
    exists_reads false (List.cons_ne_nil line (next :: further))
  obtain ⟨first, more, rfl⟩ := List.exists_cons_of_ne_nil reads.ne_nil
  obtain ⟨rfl, behind⟩ := List.cons.inj split
  have more_ne_nil : more ≠ [] := by
    rintro rfl
    cases reads with
    | text ordinary => simp [written.starts] at ordinary
    | directive closed starts extent =>
        rcases extent.ends with concludes | all
        · exact written.conclude_iff.mp concludes ends
        · rw [List.self_eq_append_right.mp all] at behind
          contradiction
  -- The item behind has the number of its line, which is not the second one.
  obtain ⟨_, others, rest, next_split, next_reads⟩ :=
    exists_reads false (List.cons_ne_nil next further)
  have next_items := Cursor.items_of_reads next_reads (1 + 1)
  rw [← next_split] at next_items
  have items := Cursor.items_of_reads reads 1
  rw [← split] at items
  have same := (List.cons.inj (items.symm.trans scanned)).2.trans (Cursor.items_add 1 1 _ _).symm
  rw [next_items] at same
  have number := Cursor.line_of_head?_items (congrArg List.head? same)
  have positive := List.length_pos_iff.mpr more_ne_nil
  dsimp only [List.length_cons] at number
  omega

end Written

theorem exists_clean_of_mem_scan {lines : List Text} {item : Item} (member : item ∈ scan lines)
    {line : Text} (emitted : item.content.emitted? = some line) :
    ∃ text, Clean text ∧ item.content = said text := by
  obtain ⟨earlier, later, split⟩ := List.append_of_mem member
  obtain ⟨-, taken, left, -, -, reads⟩ := readFrom_of_scan_eq_append split
  generalize item.content = content at reads emitted ⊢
  cases reads with
  | text => contradiction
  | directive closed starts extent =>
      exact ⟨_, clean_cleaned (startsDirective_joined starts _), classify_eq _⟩

/-- A directive that is written out is scanned again as the same item, and what follows on its own,
exactly if the line does not end in a backslash. -/
theorem scan_emitted_iff {lines : List Text} {item : Item} (member : item ∈ scan lines)
    {line : Text} (emitted : item.content.emitted? = some line) (further : List Text) :
    scan (line :: further) = ⟨1, item.content⟩ :: (scan further).map (shift 1) ↔
      line.getLast? ≠ some '\\' := by
  obtain ⟨text, clean, content_eq⟩ := exists_clean_of_mem_scan member emitted
  rw [content_eq] at emitted ⊢
  obtain ⟨written, same, -⟩ := clean.of_emitted emitted
  rw [← same]
  constructor
  · intro scanned ends
    cases further with
    | nil =>
        obtain ⟨front, rfl, front_clean, alone⟩ := written.exists_of_backslash ends
        have front_same : said front = said text := by
          rw [← same, ← (Item.mk.inj (List.cons.inj (alone.symm.trans scanned)).1).2]
        -- What is left of the line has one backslash less, so it is not written out as the line.
        have fewer := (front_clean.of_emitted (front_same ▸ emitted)).2.2
        rw [List.count_append, List.count_singleton_self] at fewer
        omega
    | cons next further => exact written.scan_cons_ne ends _ next further scanned
  · intro ends
    exact written.scan_cons ends further

/-- A directive for the native compiler over three lines, with a comment over two of them, stands in
front of a line that would open a comment. -/
theorem scan_emitted_lamp :
    let lines := [" # pragma lamp(/* on", "*/dim) \\", " glow // off \\", ""].map String.toList
    let item : Item := ⟨1, .passThrough " # pragma lamp( dim)  glow".toList⟩
    let line := " # pragma lamp( dim)  glow".toList
    let further := ["/* int a;", "#if 0"].map String.toList
    item ∈ scan lines ∧ item.content.emitted? = some line ∧ line.getLast? ≠ some '\\' ∧
      scan (line :: further) = ⟨1, item.content⟩ :: (scan further).map (shift 1) := by
  intro lines item line further
  have member : item ∈ scan lines := by decide +kernel
  have emitted : item.content.emitted? = some line := rfl
  have ends : line.getLast? ≠ some '\\' := by decide
  exact ⟨member, emitted, ends, (scan_emitted_iff member emitted further).mpr ends⟩

/-- The comment in a directive hides that no line follows on its backslash. Without the comment the
next line becomes a part of its arguments. -/
theorem emitted_takes_next_line :
    let item : Item := ⟨1, .directive ⟨.includeFile, "\"lamp\" \\".toList⟩⟩
    let line := "#include \"lamp\" \\".toList
    scan ["#include \"lamp\" \\ // glow".toList] = [item] ∧ item.content.emitted? = some line ∧
      scan [line, "int a;".toList] =
        [⟨1, .directive ⟨.includeFile, "\"lamp\" int a;".toList⟩⟩] := by
  decide +kernel

end Item

end GlslBuild
