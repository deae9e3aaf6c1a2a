import GlslBuild.Proofs.CommentRemoval
import GlslBuild.Proofs.DirectiveLine
import GlslBuild.Proofs.Scanning

/-!
# Leaving version lines out

Assembly looks at every line of a source on its own to find the version directives of the source.
Scanning finds them with the comments and continuations in view. Both find the same ones if every
line that looks like a version directive begins a directive, and every line that begins a directive
shows the keyword of the directive.
-/

namespace GlslBuild

theorem Content.isText_of_isVersion {content : Content} (version : content.isVersion = true) :
    content.isText = false := by
  cases content with
  | text => contradiction
  | _ => rfl

namespace Item

/-- The numbers of the lines at which directives begin. -/
def directiveLines (items : List Item) : List Nat :=
  (items.filter fun item => !item.content.isText).map Item.line

/-- The numbers of the lines at which version directives begin. -/
def versionLines (items : List Item) : List Nat :=
  (items.filter fun item => item.content.isVersion).map Item.line

theorem mem_directiveLines {items : List Item} {number : Nat} :
    number ∈ directiveLines items ↔
      ∃ item ∈ items, item.content.isText = false ∧ item.line = number := by
  simp [directiveLines, and_assoc]

theorem mem_versionLines {items : List Item} {number : Nat} :
    number ∈ versionLines items ↔
      ∃ item ∈ items, item.content.isVersion = true ∧ item.line = number := by
  simp [versionLines, and_assoc]

/-! ## Where items begin -/

/-- A directive that takes no line but its own. -/
def standsAlone (line : Text) : Bool :=
  (continued? line).isNone && !Comment.leavesOpen false line

theorem readLogical_of_standsAlone {line : Text} (alone : standsAlone line = true)
    (rest : List Text) : readLogical [] line rest = (line, rest) := by
  rw [standsAlone, Bool.and_eq_true, Option.isNone_iff_eq_none, Bool.not_eq_true'] at alone
  cases rest with
  | nil => exact readLogical.eq_2 [] line alone.1
  | cons next rest =>
      rw [readLogical.eq_4 [] line next rest alone.1, List.nil_append, if_neg (by simp [alone.2])]

/-- A directive is what the line that it begins at says together with the lines after it. -/
theorem exists_of_mem_scanFrom {start : Nat} {inComment : Bool} {lines : List Text} {item : Item}
    (member : item ∈ scanFrom start inComment lines) (directive : item.content.isText = false) :
    ∃ front raw rest, lines = front ++ raw :: rest ∧ item.line = start + front.length ∧
      startsDirective (Text.dropReturns raw) = true ∧
        item.content = classify (readLogical [] (Text.dropReturns raw) rest).1 := by
  fun_induction scanFrom start inComment lines with
  | case1 => contradiction
  | case2 start inComment raw rest line ordinary induction =>
      rcases List.mem_cons.mp member with rfl | member
      · contradiction
      · obtain ⟨front, other, later, rfl, number, starts, content⟩ := induction member
        refine ⟨raw :: front, other, later, rfl, ?_, starts, content⟩
        rw [number, List.length_cons]
        omega
  | case3 start inComment raw rest line not_ordinary logical induction =>
      rcases List.mem_cons.mp member with rfl | member
      · have outside : inComment = false ∧ startsDirective line = true := by
          simpa using not_ordinary
        exact ⟨[], raw, rest, rfl, rfl, outside.2, rfl⟩
      · obtain ⟨front, other, later, left_over, number, starts, content⟩ := induction member
        obtain ⟨read, split, -⟩ : ∃ read, rest = read ++ logical.2 ∧ _ :=
          exists_append_readLogical [] raw rest
        refine ⟨raw :: (read ++ front), other, later, ?_, ?_, starts, content⟩
        · rw [split, left_over, List.cons_append, List.append_assoc]
        · have count := congrArg List.length split
          rw [List.length_append] at count
          rw [number, List.length_cons, List.length_append]
          omega

theorem content_of_mem_scan {lines : List Text} {entry : Text × Nat}
    (numbered : entry ∈ lines.zipIdx 1) {item : Item} (member : item ∈ scan lines)
    (directive : item.content.isText = false) (number : item.line = entry.2) :
    startsDirective (Text.dropReturns entry.1) = true ∧
      ∃ rest, item.content = classify (readLogical [] (Text.dropReturns entry.1) rest).1 := by
  obtain ⟨front, raw, rest, split, line_number, starts, content⟩ :=
    exists_of_mem_scanFrom member directive
  obtain ⟨-, found⟩ := List.mem_zipIdx_iff_le_and_getElem?_sub.mp numbered
  have same_line : raw = entry.1 := by
    have index : entry.2 - 1 = front.length := by omega
    rw [split, index, List.getElem?_append_right (Nat.le_refl _), Nat.sub_self,
      List.getElem?_cons_zero] at found
    exact Option.some.inj found
  rw [← same_line]
  exact ⟨starts, rest, content⟩

/-- If its keyword is in sight, a line looks like a version directive exactly if it is one. -/
theorem isVersionDirective_iff_of_mem_scan {lines : List Text} {entry : Text × Nat}
    (numbered : entry ∈ lines.zipIdx 1) {item : Item} (member : item ∈ scan lines)
    (directive : item.content.isText = false) (number : item.line = entry.2)
    (shown : Text.showsKeyword (Text.dropReturns entry.1) = true) :
    Assembly.isVersionDirective (Text.dropReturns entry.1) = true ↔
      item.content.isVersion = true := by
  obtain ⟨starts, rest, content⟩ := content_of_mem_scan numbered member directive number
  rw [Assembly.isVersionDirective_iff shown, content, isVersion_classify rfl,
    keywordOf_cleaned starts shown]
  exact and_iff_right starts

theorem le_of_mem_versionLines {start number : Nat} {inComment : Bool} {lines : List Text}
    (member : number ∈ versionLines (scanFrom start inComment lines)) : start ≤ number := by
  obtain ⟨item, item_member, version, rfl⟩ := mem_versionLines.mp member
  obtain ⟨front, raw, rest, -, number, -⟩ :=
    exists_of_mem_scanFrom item_member (Content.isText_of_isVersion version)
  omega

theorem mem_versionLines_cons {line number : Nat} {content : Content} {items : List Item} :
    number ∈ versionLines (⟨line, content⟩ :: items) ↔
      content.isVersion = true ∧ line = number ∨ number ∈ versionLines items := by
  simp [mem_versionLines]

/-- If exactly the lines of version directives are dropped from an item and the lines after it, then
the line that it begins at if it is one, none of the others that it takes, and of the lines after
it those of version directives. -/
theorem drops_of_mem_versionLines {drops : Text → Bool} {start : Nat} {raw : Text}
    {read left : List Text} {content : Content} {inComment : Bool}
    (agree : ∀ entry ∈ (raw :: (read ++ left)).zipIdx start, drops entry.1 = true ↔
      entry.2 ∈ versionLines
        (⟨start, content⟩ :: scanFrom (start + 1 + read.length) inComment left)) :
    drops raw = content.isVersion ∧ (∀ line ∈ read, drops line = false) ∧
      ∀ entry ∈ left.zipIdx (start + 1 + read.length), drops entry.1 = true ↔
        entry.2 ∈ versionLines (scanFrom (start + 1 + read.length) inComment left) := by
  rw [List.zipIdx_cons, List.zipIdx_append] at agree
  refine ⟨?_, ?_, ?_⟩
  · rw [Bool.eq_iff_iff, agree (raw, start) List.mem_cons_self, mem_versionLines_cons, and_comm]
    refine or_iff_left_of_imp (fun later => ?_) |>.trans (and_iff_right rfl)
    have below := le_of_mem_versionLines later
    omega
  · intro line member
    obtain ⟨index, found⟩ := List.mem_iff_getElem?.mp member
    have above := (List.getElem?_eq_some_iff.mp found).1
    have numbered : (line, start + 1 + index) ∈ read.zipIdx (start + 1) := by
      rw [List.mem_zipIdx_iff_le_and_getElem?_sub]
      exact ⟨Nat.le_add_right _ _, by rw [Nat.add_sub_cancel_left, found]⟩
    rw [Bool.eq_false_iff, ne_eq,
      agree _ (List.mem_cons_of_mem _ (List.mem_append_left _ numbered)), mem_versionLines_cons]
    rintro (⟨-, same⟩ | later)
    · omega
    · have below := le_of_mem_versionLines later
      omega
  · intro entry member
    have behind := List.le_snd_of_mem_zipIdx member
    rw [agree entry (List.mem_cons_of_mem _ (List.mem_append_right _ member)),
      mem_versionLines_cons]
    exact or_iff_right fun version => by omega

/-- If exactly the lines of version directives are dropped, and these take no other lines, the other
items stay as they are. -/
theorem contents_scanFrom_filter {drops : Text → Bool} {start : Nat} {inComment : Bool}
    {lines : List Text}
    (agree : ∀ entry ∈ lines.zipIdx start,
      drops entry.1 = true ↔ entry.2 ∈ versionLines (scanFrom start inComment lines))
    (alone : ∀ line ∈ lines, drops line = true → standsAlone (Text.dropReturns line) = true)
    (other : Nat) :
    (scanFrom other inComment (lines.filter fun line => !drops line)).map content =
      ((scanFrom start inComment lines).map content).filter fun content => !content.isVersion := by
  fun_induction scanFrom start inComment lines generalizing other with
  | case1 =>
      rw [List.filter_nil, scanFrom]
      rfl
  | case2 start inComment raw rest line ordinary induction =>
      obtain ⟨kept, -, later_agree⟩ : drops raw = false ∧ _ :=
        @drops_of_mem_versionLines drops start raw [] rest _ _ agree
      have later := induction later_agree
        (fun other member => alone other (List.mem_cons_of_mem raw member)) (other + 1)
      rw [List.filter_cons_of_pos (by simp [kept]), scanFrom, if_pos ordinary, List.map_cons,
        List.map_cons, List.filter_cons_of_pos rfl, later]
  | case3 start inComment raw rest line not_ordinary logical induction =>
      obtain ⟨read, split, same⟩ : ∃ read, rest = read ++ logical.2 ∧ ∀ others,
          (logical.2 = [] → others = []) → readLogical [] line (read ++ others) =
            (logical.1, others) := exists_append_readLogical [] raw rest
      have next_line : start + 1 + (rest.length - logical.2.length) = start + 1 + read.length := by
        have count := congrArg List.length split
        rw [List.length_append] at count
        omega
      rw [next_line] at agree induction ⊢
      rw [split] at agree
      obtain ⟨here, read_kept, later_agree⟩ := drops_of_mem_versionLines agree
      have later_alone : ∀ line ∈ logical.2,
          drops line = true → standsAlone (Text.dropReturns line) = true := by
        intro other member
        apply alone other
        rw [split]
        exact List.mem_cons_of_mem raw (List.mem_append_right _ member)
      have later := induction later_agree later_alone
      rw [List.map_cons]
      cases dropped : drops raw with
      | true =>
          have outside : inComment = false ∧ startsDirective line = true := by
            simpa using not_ordinary
          have whole : logical = (line, rest) :=
            readLogical_of_standsAlone (alone raw List.mem_cons_self dropped) rest
          rw [List.filter_cons_of_neg (by simp [dropped]),
            List.filter_cons_of_neg (by simp [← here, dropped]), outside.1, ← later other, whole]
      | false =>
          have rest_kept : (rest.filter fun line => !drops line) =
              read ++ logical.2.filter fun line => !drops line := by
            have all_kept : read.filter (fun line => !drops line) = read :=
              List.filter_eq_self.mpr fun line member => by rw [read_kept line member]; rfl
            rw [split, List.filter_append, all_kept]
          have joined := same (logical.2.filter fun line => !drops line)
            fun none_left => by rw [none_left, List.filter_nil]
          rw [List.filter_cons_of_pos (by simp [dropped]), rest_kept, scanFrom,
            if_neg not_ordinary, joined, List.map_cons,
            List.filter_cons_of_pos (by simp [← here, dropped]), later]

end Item

/-! ## Lines by number -/

/-- The lines without those of the given numbers, counted from `first`. -/
def withoutLines (numbers : List Nat) (first : Nat) (lines : List Text) : List Text :=
  ((lines.zipIdx first).filter fun entry => !numbers.contains entry.2).map Prod.fst

theorem filter_eq_withoutLines {drops : Text → Bool} {numbers : List Nat} {first : Nat}
    {lines : List Text}
    (agree : ∀ entry ∈ lines.zipIdx first, drops entry.1 = true ↔ entry.2 ∈ numbers) :
    (lines.filter fun line => !drops line) = withoutLines numbers first lines := by
  have same : (lines.zipIdx first).filter (fun entry => !drops entry.1) =
      (lines.zipIdx first).filter fun entry => !numbers.contains entry.2 := by
    apply List.filter_congr
    intro entry member
    rw [Bool.not_inj_iff, Bool.eq_iff_iff, List.contains_iff_mem]
    exact agree entry member
  calc
    lines.filter (fun line => !drops line) =
        ((lines.zipIdx first).map Prod.fst).filter fun line => !drops line := by
      rw [List.zipIdx_map_fst]
    _ = ((lines.zipIdx first).filter fun entry => !drops entry.1).map Prod.fst := by
      rw [List.filter_map]
      rfl
    _ = withoutLines numbers first lines := by rw [same, withoutLines]

namespace Assembly

variable (source : Source) (options : Options)

/-- All lines of the header and the source. -/
def allLines : List Text := header source options ++ source.physicalLines

/-- The lines of the source, numbered behind those of the header. -/
def numberedLines : List (Text × Nat) :=
  source.physicalLines.zipIdx ((header source options).length + 1)

variable {source : Source} {options : Options}

theorem dropReturns_of_mem_physicalLines {line : Text} (member : line ∈ source.physicalLines) :
    Text.dropReturns line = line := by
  obtain ⟨written, -, inside⟩ := List.mem_flatMap.mp member
  obtain ⟨whole, -, rfl⟩ := List.mem_map.mp inside
  exact Text.dropReturns_dropReturns whole

theorem mem_zipIdx_allLines {entry : Text × Nat} (numbered : entry ∈ numberedLines source options) :
    entry ∈ (allLines source options).zipIdx 1 := by
  rw [allLines, List.zipIdx_append, Nat.add_comm 1]
  exact List.mem_append_right _ numbered

/-- Keywords are found where they are: every line that looks like a version directive begins a
directive, and every line that begins a directive shows its keyword. -/
structure KeywordsInSight (source : Source) (options : Options) : Prop where
  visible : ∀ entry ∈ numberedLines source options, isVersionDirective entry.1 = true →
    entry.2 ∈ Item.directiveLines (Item.scan (allLines source options))
  shown : ∀ entry ∈ numberedLines source options,
    entry.2 ∈ Item.directiveLines (Item.scan (allLines source options)) →
      Text.showsKeyword entry.1 = true

instance : Decidable (KeywordsInSight source options) :=
  decidable_of_iff
    ((∀ entry ∈ numberedLines source options, isVersionDirective entry.1 = true →
        entry.2 ∈ Item.directiveLines (Item.scan (allLines source options))) ∧
      ∀ entry ∈ numberedLines source options,
        entry.2 ∈ Item.directiveLines (Item.scan (allLines source options)) →
          Text.showsKeyword entry.1 = true)
    ⟨fun both => ⟨both.1, both.2⟩, fun sight => ⟨sight.visible, sight.shown⟩⟩

theorem isVersionDirective_iff_mem (sight : KeywordsInSight source options) {entry : Text × Nat}
    (numbered : entry ∈ numberedLines source options) :
    isVersionDirective entry.1 = true ↔
      entry.2 ∈ Item.versionLines (Item.scan (allLines source options)) := by
  have line_member : entry.1 ∈ source.physicalLines := List.fst_mem_of_mem_zipIdx numbered
  have agree {item : Item} (member : item ∈ Item.scan (allLines source options))
      (directive : item.content.isText = false) (number : item.line = entry.2) :
      isVersionDirective entry.1 = true ↔ item.content.isVersion = true := by
    have shown := sight.shown entry numbered
      (Item.mem_directiveLines.mpr ⟨item, member, directive, number⟩)
    have looks := Item.isVersionDirective_iff_of_mem_scan (mem_zipIdx_allLines numbered) member
      directive number
    rw [dropReturns_of_mem_physicalLines line_member] at looks
    exact looks shown
  rw [Item.mem_versionLines]
  constructor
  · intro looks
    obtain ⟨item, member, directive, number⟩ :=
      Item.mem_directiveLines.mp (sight.visible entry numbered looks)
    exact ⟨item, member, (agree member directive number).mp looks, number⟩
  · rintro ⟨item, member, version, number⟩
    exact (agree member (Content.isText_of_isVersion version) number).mpr version

/-! ## The header -/

/-- A line that begins with a number sign, another keyword than `version`, and a space. -/
def SaysOther (line : Text) : Prop :=
  ∃ word rest, word ≠ [] ∧ (∀ char ∈ word, Text.continuesIdentifier char = true) ∧
    word ≠ versionWord ∧ line = '#' :: word ++ ' ' :: rest

theorem SaysOther.dropReturns {line : Text} (other_word : SaysOther line) :
    SaysOther (Text.dropReturns line) := by
  obtain ⟨word, rest, word_ne_nil, continues, other, rfl⟩ := other_word
  exact ⟨word, _, word_ne_nil, continues, other, Text.dropReturns_append_space _ _⟩

theorem SaysOther.isVersionDirective_eq_false {line : Text} (other_word : SaysOther line) :
    Text.showsKeyword line = true ∧ isVersionDirective line = false := by
  obtain ⟨word, rest, word_ne_nil, continues, other, rfl⟩ := other_word
  obtain ⟨-, keyword, shown⟩ := Text.keywordOf_cons_append word_ne_nil continues rest
  refine ⟨shown, ?_⟩
  rw [Bool.eq_false_iff, ne_eq, isVersionDirective_iff shown, keyword]
  exact fun same => other same.2

theorem saysOther_extension (rest : Text) : SaysOther ("#extension ".toList ++ rest) := by
  have literal : "#extension ".toList = '#' :: "extension".toList ++ [' '] := by decide
  refine ⟨"extension".toList, rest, by decide, List.all_eq_true.mp (by decide), by decide, ?_⟩
  rw [literal, List.append_assoc, List.singleton_append]

theorem saysOther_define (rest : Text) : SaysOther ("#define ".toList ++ rest) := by
  have literal : "#define ".toList = '#' :: "define".toList ++ [' '] := by decide
  refine ⟨"define".toList, rest, by decide, List.all_eq_true.mp (by decide), by decide, ?_⟩
  rw [literal, List.append_assoc, List.singleton_append]

theorem saysOther_toLine (extension : Extension) : SaysOther extension.toLine := by
  unfold Extension.toLine
  rw [List.append_assoc, List.append_assoc]
  exact saysOther_extension _

theorem saysOther_defineDirective (definition : Text) :
    SaysOther (defineDirective definition) := by
  unfold defineDirective
  split
  · exact saysOther_define _
  · dsimp only
    split
    · exact saysOther_define _
    · rw [List.append_assoc]
      exact saysOther_define _

theorem saysOther_of_mem_header {line : Text} (member : line ∈ header source options) :
    SaysOther line := by
  rcases List.mem_append.mp member with member | member
  · obtain ⟨extension, -, rfl⟩ := List.mem_map.mp member
    exact saysOther_toLine extension
  · obtain ⟨definition, -, rfl⟩ := List.mem_map.mp member
    exact saysOther_defineDirective definition

/-- A line of the header neither looks like a version directive nor begins one. -/
theorem header_iff_mem {entry : Text × Nat} (numbered : entry ∈ (header source options).zipIdx 1) :
    isVersionDirective entry.1 = true ↔
      entry.2 ∈ Item.versionLines (Item.scan (allLines source options)) := by
  have other_word := saysOther_of_mem_header (List.fst_mem_of_mem_zipIdx numbered)
  have inside : entry ∈ (allLines source options).zipIdx 1 := by
    rw [allLines, List.zipIdx_append]
    exact List.mem_append_left _ numbered
  obtain ⟨shown, other⟩ := other_word.dropReturns.isVersionDirective_eq_false
  rw [other_word.isVersionDirective_eq_false.2, Item.mem_versionLines]
  refine ⟨nofun, ?_⟩
  rintro ⟨item, member, version, number⟩
  have looks := Item.isVersionDirective_iff_of_mem_scan inside member
    (Content.isText_of_isVersion version) number shown
  rw [other] at looks
  exact looks.mpr version

/-! ## What is assembled -/

theorem body_eq_filter :
    body source options =
      (allLines source options).filter fun line => !isVersionDirective line := by
  have header_kept : (header source options).filter (fun line => !isVersionDirective line) =
      header source options := by
    rw [List.filter_eq_self]
    intro line member
    rw [(saysOther_of_mem_header member).isVersionDirective_eq_false.2]
    rfl
  rw [allLines, List.filter_append, header_kept, body]

/-- If the version directives take no other lines, leaving them out changes nothing else. -/
theorem contents_scan_body (sight : KeywordsInSight source options)
    (alone : ∀ line ∈ source.physicalLines,
      isVersionDirective line = true → Item.standsAlone line = true) :
    (Item.scan (body source options)).map Item.content =
      ((Item.scan (allLines source options)).map Item.content).filter
        fun content => !content.isVersion := by
  rw [body_eq_filter]
  apply Item.contents_scanFrom_filter
  · intro entry member
    rw [allLines, List.zipIdx_append, Nat.add_comm 1] at member
    rcases List.mem_append.mp member with numbered | numbered
    · exact header_iff_mem numbered
    · exact isVersionDirective_iff_mem sight numbered
  · intro line member looks
    rcases List.mem_append.mp member with member | member
    · rw [(saysOther_of_mem_header member).isVersionDirective_eq_false.2] at looks
      contradiction
    · rw [dropReturns_of_mem_physicalLines member]
      exact alone line member looks

/-- The line that is put in front is a version directive, whatever follows. -/
theorem one_mem_versionLines (config : Config) (version : Nat) (rest : List Text) :
    1 ∈ Item.versionLines (Item.scan (versionDirective config version :: rest)) := by
  obtain ⟨tail, written⟩ : ∃ tail,
      versionDirective config version = '#' :: versionWord ++ ' ' :: tail := by
    have literal : "#version ".toList = '#' :: versionWord ++ [' '] := by decide
    unfold versionDirective
    dsimp only
    rw [literal]
    split
    · exact ⟨Text.decimal version ++ ' ' :: config.profile, by simp⟩
    · exact ⟨Text.decimal version, by simp⟩
  have dropped := Text.dropReturns_append_space ('#' :: versionWord) tail
  have word_ne_nil : versionWord ≠ [] := by decide
  obtain ⟨starts, keyword, shown⟩ := Text.keywordOf_cons_append word_ne_nil
    (List.all_eq_true.mp (by decide)) (Text.dropReturns tail)
  rw [← dropped, ← written] at starts keyword shown
  have version_item := (Item.isVersion_classify rfl).mpr
    ((Item.keywordOf_cleaned starts shown rest).trans keyword)
  rw [Item.scan, Item.scanFrom, if_neg (by simp [starts]), Item.mem_versionLines_cons]
  exact .inl ⟨version_item, rfl⟩

/-- A line that is taken over from the body is no version directive wherever it comes to stand, if
its keyword is in sight. -/
theorem notMem_versionLines_of_mem_body {lines : List Text} {entry : Text × Nat}
    (numbered : entry ∈ lines.zipIdx 1) (taken_over : entry.1 ∈ body source options)
    (sight : Item.startsDirective entry.1 = true → Text.showsKeyword entry.1 = true) :
    entry.2 ∉ Item.versionLines (Item.scan lines) := by
  rw [Item.mem_versionLines]
  rintro ⟨item, member, version, number⟩
  have directive := Content.isText_of_isVersion version
  obtain ⟨starts, -⟩ := Item.content_of_mem_scan numbered member directive number
  have looks := Item.isVersionDirective_iff_of_mem_scan numbered member directive number
  rw [body_eq_filter, List.mem_filter, Bool.not_eq_true'] at taken_over
  rcases List.mem_append.mp taken_over.1 with in_header | in_source
  · have other_word := (saysOther_of_mem_header in_header).dropReturns
    obtain ⟨shown, other⟩ := other_word.isVersionDirective_eq_false
    rw [other] at looks
    exact Bool.false_ne_true ((looks shown).mpr version)
  · rw [dropReturns_of_mem_physicalLines in_source] at looks starts
    rw [taken_over.2] at looks
    exact Bool.false_ne_true ((looks (sight starts)).mpr version)

/-- Before preprocessing exactly the version directives are left out of the source, by scanning as
well as by looks, if keywords are in sight. The text for the native compiler begins with a version
directive, and no line that it takes over is another one. -/
theorem version_lines_of_assemble {config : Config} {identifier : Text} {stage : Stage}
    {unit : CompilationUnit}
    (assembled : (assemble config identifier stage source options).result = .ok unit)
    (sight : KeywordsInSight source options) :
    body source options = header source options ++
        withoutLines (Item.versionLines (Item.scan (allLines source options)))
          ((header source options).length + 1) source.physicalLines ∧
      ((∀ line ∈ source.physicalLines,
          isVersionDirective line = true → Item.standsAlone line = true) →
        (Item.scan (body source options)).map Item.content =
          ((Item.scan (allLines source options)).map Item.content).filter
            fun content => !content.isVersion) ∧
      1 ∈ Item.versionLines (Item.scan unit.lines) ∧
      ∀ entry ∈ unit.lines.zipIdx 1, entry.1 ∈ body source options →
        (Item.startsDirective entry.1 = true → Text.showsKeyword entry.1 = true) →
          entry.2 ∉ Item.versionLines (Item.scan unit.lines) := by
  refine ⟨?_, contents_scan_body sight, ?_, fun entry numbered taken_over in_sight =>
    notMem_versionLines_of_mem_body numbered taken_over in_sight⟩
  · have agree : ∀ entry ∈ numberedLines source options, isVersionDirective entry.1 = true ↔
        entry.2 ∈ Item.versionLines (Item.scan (allLines source options)) :=
      fun _ numbered => isVersionDirective_iff_mem sight numbered
    rw [body, filter_eq_withoutLines agree]
  · obtain ⟨processed, -, lines_eq⟩ := lines_of_assemble assembled
    rw [lines_eq]
    exact one_mem_versionLines config options.version _

/-- Two version directives among the lines of a source with a comment, a continued definition and
white space, behind a header of two lines. -/
theorem version_lines_of_assemble_header :
    let source : Source := ⟨["#version 100 // old", "/* lamp", "*/ int a;", "  # version 300 es",
      "#define B 1 + \\", "  2", "int c = B;"].map String.toList, [⟨"GL_lamp".toList, .require⟩]⟩
    let options := Options.standard.addDefine "LAMP=1".toList
    ∃ unit, (assemble {} "lamp".toList .vertex source options).result = .ok unit ∧
      KeywordsInSight source options ∧
      body source options = header source options ++
        withoutLines (Item.versionLines (Item.scan (allLines source options))) 3
          source.physicalLines ∧
      Item.versionLines (Item.scan (allLines source options)) = [3, 6] ∧
      1 ∈ Item.versionLines (Item.scan unit.lines) := by
  intro source options
  let lines := ["#version 150 core", "#extension GL_lamp : require", "/* lamp", "*/ int a;",
    "int c = 1 +   2;"].map String.toList
  have assembled : (assemble {} "lamp".toList .vertex source options).result =
      .ok ⟨"lamp".toList, .vertex, lines⟩ := eq_ok_of_toOption (by decide +kernel)
  have sight : KeywordsInSight source options := by decide +kernel
  obtain ⟨left_out, -, first, -⟩ := version_lines_of_assemble assembled sight
  exact ⟨_, assembled, sight, left_out, by decide +kernel, first⟩

/-- Looks deceive in both directions: a line inside a comment is left out, and a version directive
with a comment in front of its keyword stays. -/
theorem version_lines_deceive :
    let source : Source := ⟨["/*", "#version 100", "*/", "# /* */ version 300"].map String.toList,
      []⟩
    ∃ unit, (assemble {} "lamp".toList .vertex source Options.standard).result = .ok unit ∧
      Item.versionLines (Item.scan (allLines source Options.standard)) = [4] ∧
      body source Options.standard =
        ["/*", "*/", "# /* */ version 300"].map String.toList ∧
      Item.versionLines (Item.scan unit.lines) = [1, 4] := by
  intro source
  let lines := ["#version 150 core", "/*", "*/", "#   version 300"].map String.toList
  have assembled : (assemble {} "lamp".toList .vertex source Options.standard).result =
      .ok ⟨"lamp".toList, .vertex, lines⟩ := eq_ok_of_toOption (by decide +kernel)
  exact ⟨_, assembled, by decide +kernel, by decide +kernel, by decide +kernel⟩

end Assembly

end GlslBuild
