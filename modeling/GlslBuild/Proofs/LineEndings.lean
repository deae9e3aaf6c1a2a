import GlslBuild.Proofs.Expansion.SingleLine
import GlslBuild.Proofs.VersionLines

/-!
# Line endings

A source is a list of texts with newlines in them. Where the list is cut, and how many carriage
returns stand in front of a newline or at an end, is an accident of how the source was loaded:
assembly answers alike for all spellings of the same physical lines, with the same text or the same
error, and with the same messages.
-/

namespace GlslBuild

namespace Text

/-! ## Spellings of lines -/

/-- The text with a carriage return in front of every newline. -/
def returnNewlines (text : Text) : Text :=
  text.flatMap fun char => if char = '\n' then ['\r', '\n'] else [char]

/-- The text with carriage returns at the end of every line, as many as the counts say for the line
of that index. -/
def appendReturns (counts : Nat → Nat) : Text → Text
  | [] => List.replicate (counts 0) '\r'
  | char :: rest =>
      if char = '\n' then
        List.replicate (counts 0) '\r' ++
          '\n' :: appendReturns (fun index => counts (index + 1)) rest
      else char :: appendReturns counts rest

/-- The lines between newlines, without the carriage returns at their ends. -/
def bareLines (text : Text) : List Text := (lines text).map dropReturns

theorem dropEndWhile_cons (drops : Char → Bool) (char : Char) (rest : Text) :
    dropEndWhile drops (char :: rest) =
      if dropEndWhile drops rest = [] then dropEndWhile drops [char]
      else char :: dropEndWhile drops rest := by
  simp only [dropEndWhile, List.reverse_cons, List.dropWhile_append, List.isEmpty_iff,
    List.reverse_eq_nil_iff]
  split
  · rfl
  · rw [List.reverse_append]
    rfl

theorem dropReturns_replicate (count : Nat) : dropReturns (List.replicate count '\r') = [] := by
  simp [dropReturns, dropEndWhile]

theorem singleLine_replicate (count : Nat) : SingleLine (List.replicate count '\r') := by
  intro newline
  exact absurd (List.eq_of_mem_replicate newline) (by decide)

/-- What is left of a line depends on what is left behind its first character. -/
theorem dropReturns_cons_congr (char : Char) {first second : Text}
    (same : dropReturns first = dropReturns second) :
    dropReturns (char :: first) = dropReturns (char :: second) := by
  have unfolded (rest : Text) : dropReturns (char :: rest) =
      if dropReturns rest = [] then dropReturns [char] else char :: dropReturns rest :=
    dropEndWhile_cons _ char rest
  rw [unfolded first, unfolded second, same]

/-- The lines that are left stay alike when the same character is put in front of both texts. -/
theorem bareLines_cons_congr (char : Char) {first second : Text}
    (same : bareLines first = bareLines second) :
    bareLines (char :: first) = bareLines (char :: second) := by
  rw [bareLines, bareLines] at same ⊢
  rw [lines_cons, lines_cons]
  split
  · rw [List.map_cons, List.map_cons, same]
  · cases first_split : lines first with
    | nil => exact absurd first_split (List.splitOn_ne_nil _ _)
    | cons line later =>
        cases second_split : lines second with
        | nil => exact absurd second_split (List.splitOn_ne_nil _ _)
        | cons line' later' =>
            rw [first_split, second_split, List.map_cons, List.map_cons, List.cons.injEq] at same
            rw [List.modifyHead_cons, List.modifyHead_cons, List.map_cons, List.map_cons, same.2,
              dropReturns_cons_congr char same.1]

theorem bareLines_replicate_append (count : Nat) (rest : Text) :
    bareLines (List.replicate count '\r' ++ '\n' :: rest) = [] :: bareLines rest := by
  rw [bareLines, lines, List.splitOn_append_cons_self_of_not_mem (singleLine_replicate count),
    List.map_cons, dropReturns_replicate, ← lines, ← bareLines]

theorem bareLines_newline (rest : Text) : bareLines ('\n' :: rest) = [] :: bareLines rest :=
  bareLines_replicate_append 0 rest

theorem bareLines_returnNewlines (text : Text) :
    bareLines (returnNewlines text) = bareLines text := by
  induction text with
  | nil => rfl
  | cons char rest induction =>
      rw [returnNewlines, List.flatMap_cons, ← returnNewlines]
      split
      · next newline =>
          rw [newline, bareLines_newline, ← induction]
          exact bareLines_replicate_append 1 (returnNewlines rest)
      · exact bareLines_cons_congr char induction

theorem bareLines_appendReturns (counts : Nat → Nat) (text : Text) :
    bareLines (appendReturns counts text) = bareLines text := by
  induction text generalizing counts with
  | nil =>
      rw [appendReturns, bareLines, lines,
        List.splitOn_eq_singleton (singleLine_replicate (counts 0)), List.map_singleton,
        dropReturns_replicate]
      rfl
  | cons char rest induction =>
      rw [appendReturns]
      split
      · next newline => rw [bareLines_replicate_append, newline, bareLines_newline, induction]
      · exact bareLines_cons_congr char (induction counts)

/-- Joining texts by newlines keeps their lines. -/
theorem bareLines_intercalate {texts : List Text} (texts_ne_nil : texts ≠ []) :
    bareLines (['\n'].intercalate texts) = texts.flatMap bareLines := by
  induction texts with
  | nil => contradiction
  | cons text rest induction =>
      cases rest with
      | nil => simp
      | cons next rest =>
          rw [List.flatMap_cons, ← induction (List.cons_ne_nil next rest),
            List.intercalate_cons_cons, List.append_assoc, List.singleton_append, bareLines, lines,
            List.splitOn_append_cons_self, List.map_append]
          rfl

/-- A line that is left is its own only line. -/
theorem bareLines_of_mem {text line : Text} (member : line ∈ bareLines text) :
    bareLines line = [line] := by
  obtain ⟨whole, inside, rfl⟩ := List.mem_map.mp member
  have single : SingleLine (dropReturns whole) := fun newline =>
    singleLine_of_mem_lines inside (dropEndWhile_subset _ _ newline)
  rw [bareLines, lines, List.splitOn_eq_singleton single, List.map_singleton,
    dropReturns_dropReturns]

end Text

/-! ## Assembling other spellings -/

namespace Source

/-- The physical lines of a source spell themselves. -/
theorem physicalLines_physicalLines (lines : List Text) (extensions : List Extension) :
    physicalLines ⟨physicalLines ⟨lines, extensions⟩, extensions⟩ =
      physicalLines ⟨lines, extensions⟩ := by
  have each : ∀ line ∈ physicalLines ⟨lines, extensions⟩, Text.bareLines line = [line] := by
    intro line member
    obtain ⟨text, -, inside⟩ := List.mem_flatMap.mp member
    exact Text.bareLines_of_mem inside
  calc physicalLines ⟨physicalLines ⟨lines, extensions⟩, extensions⟩
      = (physicalLines ⟨lines, extensions⟩).flatMap Text.bareLines := rfl
    _ = (physicalLines ⟨lines, extensions⟩).flatMap fun line => [line] := List.flatMap_congr each
    _ = physicalLines ⟨lines, extensions⟩ := List.flatMap_singleton' _

/-- Texts joined by newlines have the same physical lines. -/
theorem physicalLines_intercalate {lines : List Text} (lines_ne_nil : lines ≠ [])
    (extensions : List Extension) :
    physicalLines ⟨[['\n'].intercalate lines], extensions⟩ = physicalLines ⟨lines, extensions⟩ :=
  (List.flatMap_singleton ..).trans (Text.bareLines_intercalate lines_ne_nil)

theorem physicalLines_map_returnNewlines (lines : List Text) (extensions : List Extension) :
    physicalLines ⟨lines.map Text.returnNewlines, extensions⟩ = physicalLines ⟨lines, extensions⟩ :=
  calc physicalLines ⟨lines.map Text.returnNewlines, extensions⟩
      = lines.flatMap (fun line => Text.bareLines (Text.returnNewlines line)) := List.flatMap_map ..
    _ = lines.flatMap Text.bareLines :=
      List.flatMap_congr fun line _ => Text.bareLines_returnNewlines line

theorem physicalLines_mapIdx_appendReturns (counts : Nat → Nat → Nat) (lines : List Text)
    (extensions : List Extension) :
    physicalLines ⟨lines.mapIdx fun index => Text.appendReturns (counts index), extensions⟩ =
      physicalLines ⟨lines, extensions⟩ := by
  induction lines generalizing counts with
  | nil => rfl
  | cons line rest induction =>
      rw [List.mapIdx_cons]
      exact congrArg₂ (· ++ ·) (Text.bareLines_appendReturns (counts 0) line)
        (induction fun index => counts (index + 1))

end Source

namespace Assembly

/-- Assembly sees the physical lines of a source and its extensions. -/
theorem assemble_congr {first second : List Text} {extensions : List Extension}
    (same : Source.physicalLines ⟨first, extensions⟩ = Source.physicalLines ⟨second, extensions⟩)
    (config : Config) (identifier : Text) (stage : Stage) (options : Options) :
    assemble config identifier stage ⟨first, extensions⟩ options =
      assemble config identifier stage ⟨second, extensions⟩ options := by
  have headers : header ⟨first, extensions⟩ options = header ⟨second, extensions⟩ options := rfl
  simp only [assemble, body, droppedMessages, same, headers]

/-- Every source that spells the same physical lines is assembled alike: one with each of the lines
on its own, the text of the lines joined by newlines, and both of them with a carriage return in
front of every newline, or with any number of carriage returns at the end of each physical line. -/
theorem assemble_of_line_endings (config : Config) (identifier : Text) (stage : Stage)
    (options : Options) (extensions : List Extension) {lines : List Text}
    (lines_ne_nil : lines ≠ []) :
    let outcome := fun spelling => assemble config identifier stage ⟨spelling, extensions⟩ options
    let whole : Text := ['\n'].intercalate lines
    outcome (Source.physicalLines ⟨lines, extensions⟩) = outcome lines ∧
      outcome [whole] = outcome lines ∧
      outcome (lines.map Text.returnNewlines) = outcome lines ∧
      outcome [Text.returnNewlines whole] = outcome lines ∧
      (∀ counts : Nat → Nat → Nat,
        outcome (lines.mapIdx fun index => Text.appendReturns (counts index)) = outcome lines) ∧
      ∀ counts : Nat → Nat, outcome [Text.appendReturns counts whole] = outcome lines := by
  intro outcome whole
  have alike {first second : List Text}
      (same : Source.physicalLines ⟨first, extensions⟩ =
        Source.physicalLines ⟨second, extensions⟩) : outcome first = outcome second :=
    assemble_congr same config identifier stage options
  have joined : outcome [whole] = outcome lines :=
    alike (Source.physicalLines_intercalate lines_ne_nil extensions)
  have returned (first : List Text) : outcome (first.map Text.returnNewlines) = outcome first :=
    alike (Source.physicalLines_map_returnNewlines first extensions)
  have appended (counts : Nat → Nat → Nat) (first : List Text) :
      outcome (first.mapIdx fun index => Text.appendReturns (counts index)) = outcome first :=
    alike (Source.physicalLines_mapIdx_appendReturns counts first extensions)
  exact ⟨alike (Source.physicalLines_physicalLines lines extensions), joined,
    returned lines, (returned [whole]).trans joined, fun counts => appended counts lines,
    fun counts => (appended (fun _ => counts) [whole]).trans joined⟩

/-- A version line, a continued definition, an empty text, a return inside an argument and a comment
over two lines of a directive. -/
theorem assemble_of_line_endings_lamp :
    let lines := ["#version 300 es\n#define SUM(a, b) a + \\\n  b\r", "", "int x = SUM(1,\r 2);",
      "#if SUM(1, 1) == 2 /* open\nstill */\nint y;\n#endif"].map String.toList
    let outcome := fun spelling => assemble {} "lamp".toList .vertex ⟨spelling, []⟩ Options.standard
    let whole : Text := ['\n'].intercalate lines
    let padded : Text := ['\n'].intercalate (["#version 300 es", "#define SUM(a, b) a + \\\r",
      "  b\r\r\r", "", "int x = SUM(1,\r 2);\r", "#if SUM(1, 1) == 2 /* open\r\r", "still */",
      "int y;\r", "#endif\r\r"].map String.toList)
    lines ≠ [] ∧
      (outcome lines).result = .ok ⟨"lamp".toList, .vertex,
        ["#version 150 core", "", "int x = 1 +   2;", "int y;"].map String.toList⟩ ∧
      Text.appendReturns (· % 3) whole = padded ∧ outcome [padded] = outcome lines ∧
      outcome [whole] = outcome lines ∧ outcome [Text.returnNewlines whole] = outcome lines ∧
      outcome (lines.map Text.returnNewlines) = outcome lines := by
  intro lines outcome whole padded
  have lines_ne_nil : lines ≠ [] := by decide
  have assembled : (outcome lines).result = .ok ⟨"lamp".toList, .vertex,
      ["#version 150 core", "", "int x = 1 +   2;", "int y;"].map String.toList⟩ :=
    eq_ok_of_toOption (by decide +kernel)
  have spelled : Text.appendReturns (· % 3) whole = padded := by decide +kernel
  obtain ⟨-, joined, returned, returned_whole, -, appended⟩ :=
    assemble_of_line_endings {} "lamp".toList .vertex Options.standard [] lines_ne_nil
  exact ⟨lines_ne_nil, assembled, spelled, spelled ▸ appended (· % 3), joined, returned_whole,
    returned⟩

/-- No texts are no line, and joined they are an empty one. -/
example :
    let outcome := fun spelling => assemble {} "lamp".toList .vertex ⟨spelling, []⟩ Options.standard
    (outcome [['\n'].intercalate []]).result.toOption ≠ (outcome []).result.toOption := by
  decide +kernel

end Assembly

end GlslBuild
