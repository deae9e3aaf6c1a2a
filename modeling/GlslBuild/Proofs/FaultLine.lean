import GlslBuild.Proofs.Conditional.Nesting
import GlslBuild.Proofs.VersionLines

/-!
# The line in an error

Preprocessing stops at one item, and the error has the number of the line where that item begins.
Assembly leaves version lines out before it numbers the lines. So the number is that of the line in
the source if no version line stands in front of it, and each one that does makes it smaller by one.
-/

namespace GlslBuild

/-! ## Where preprocessing stops -/

namespace Context

/-- Preprocessing stops at an item behind earlier ones: the item is refused, or it is the last one
and chains are open behind it. -/
inductive StopsAt (context : Context) (passLimit : Nat) (items : List Item) :
    List Item → Item → Fault → Prop where
  | refused {earlier later : List Item} {item : Item} {after : Context} {output : List Text}
      {fault : Fault} (split : items = earlier ++ item :: later)
      (passed : advance passLimit earlier context = ⟨after, .ok output⟩)
      (refused : after.step passLimit item.content = .error fault) :
      StopsAt context passLimit items earlier item fault
  | leftOpen {earlier : List Item} {last : Item} {after : Context} {output : List Text}
      (split : items = earlier ++ [last])
      (passed : advance passLimit items context = ⟨after, .ok output⟩)
      (frames_ne_nil : after.frames ≠ []) :
      StopsAt context passLimit items earlier last (.structural (.unterminated after.frames.length))

variable {context : Context} {passLimit : Nat} {items earlier : List Item} {item : Item}

theorem StopsAt.exists_split {fault : Fault}
    (stops : StopsAt context passLimit items earlier item fault) :
    ∃ later, items = earlier ++ item :: later := by
  cases stops with
  | refused split => exact ⟨_, split⟩
  | leftOpen split => exact ⟨[], split⟩

/-- Where no chain is open in front of the lines, a failure stops at one of their items. -/
theorem exists_stopsAt {lines : List Text} {error : ProcessError} (closed : context.frames = [])
    (failed : (context.process passLimit lines).result = .error error) :
    ∃ earlier item, StopsAt context passLimit (Item.scan lines) earlier item error.fault ∧
      error.line = item.line := by
  have effect_eq : (context.process passLimit lines).effect =
      ⟨(context.process passLimit lines).context, .error error⟩ := congrArg (Effect.mk _) failed
  rw [process, effect_processItems] at effect_eq
  rcases ran : context.advance passLimit (Item.scan lines) with ⟨state, inner | output⟩
  · rw [ran] at effect_eq
    obtain rfl := Except.error.inj (Effect.mk.inj effect_eq).2
    obtain ⟨earlier, item, later, output, split, passed, refused, number⟩ :=
      exists_of_advance_eq_error ran
    exact ⟨earlier, item, .refused split passed refused, number⟩
  · rw [ran] at effect_eq
    obtain ⟨same, left_open, rfl⟩ := eq_unterminated_of_checkClosed effect_eq
    rw [← same] at left_open ⊢
    rcases endLine_cases (Item.scan lines) with ⟨none, -⟩ | ⟨earlier, last, split, number⟩
    · rw [none, advance_nil] at ran
      obtain ⟨rfl, -⟩ := Effect.mk.inj ran
      exact absurd closed left_open
    · exact ⟨earlier, last, .leftOpen split ran left_open, number⟩

end Context

/-! ## Numbers among all lines and among those that are kept -/

/-- A line that is kept stands in the whole list behind the lines that the others kept are from. -/
theorem exists_of_filter_eq_append {Line : Type} {keeps : Line → Bool}
    {lines front rest : List Line} {line : Line}
    (split : lines.filter keeps = front ++ line :: rest) :
    ∃ before after, lines = before ++ line :: after ∧ keeps line = true ∧
      before.filter keeps = front := by
  obtain ⟨first, second, rfl, first_kept, second_kept⟩ := List.filter_eq_append_iff.mp split
  obtain ⟨gap, after, rfl, dropped, kept, -⟩ := List.filter_eq_cons_iff.mp second_kept
  refine ⟨first ++ gap, after, (List.append_assoc _ _ _).symm, kept, ?_⟩
  rw [List.filter_append, List.filter_eq_nil_iff.mpr dropped, List.append_nil, first_kept]

theorem length_filter_add_countP {Line : Type} (drops : Line → Bool) (lines : List Line) :
    (lines.filter fun line => !drops line).length + lines.countP drops = lines.length := by
  rw [← List.countP_eq_length_filter, List.length_eq_countP_add_countP drops (l := lines),
    Nat.add_comm]
  simp only [Bool.not_eq_true, Bool.decide_eq_false]

namespace Assembly

variable {config : Config} {identifier : Text} {stage : Stage} {source : Source} {options : Options}
  {error : ProcessError}

theorem process_of_assemble_error
    (failed : (assemble config identifier stage source options).result = .error error) :
    (Context.empty.process config.passLimit (body source options)).result = .error error := by
  unfold assemble at failed
  dsimp only at failed
  split at failed
  · next stopped => rw [stopped, Except.error.inj failed]
  · contradiction

/-- Assembly stops at an item that begins at a line behind others. The item is read from the lines
that are kept, and the error has the number that the line has among these. -/
def StopsBehind (config : Config) (source : Source) (options : Options) (error : ProcessError)
    (before : List Text) (raw : Text) : Prop :=
  ∃ earlier item more left,
    Context.StopsAt .empty config.passLimit (Item.scan (body source options)) earlier item
        error.fault ∧
      error.line = item.line ∧
      body source options =
        (before.filter fun line => !isVersionDirective line) ++ (raw :: more ++ left) ∧
      Item.Reads (Item.openBehind false earlier) item.content (raw :: more) left

/-- The number in an error counts the lines up to the one where the item begins, without the version
lines among them. -/
theorem exists_stopsBehind
    (failed : (assemble config identifier stage source options).result = .error error) :
    ∃ before raw after, allLines source options = before ++ raw :: after ∧
      isVersionDirective raw = false ∧ StopsBehind config source options error before raw ∧
      error.line + before.countP isVersionDirective = before.length + 1 := by
  obtain ⟨earlier, item, stops, number⟩ :=
    Context.exists_stopsAt rfl (process_of_assemble_error failed)
  obtain ⟨later, split⟩ := stops.exists_split
  obtain ⟨front, taken, left, body_split, line_eq, reads⟩ := Item.readFrom_of_scan_eq_append split
  obtain ⟨raw, more, rfl⟩ := List.exists_cons_of_ne_nil reads.ne_nil
  have kept_split : ((allLines source options).filter fun line => !isVersionDirective line) =
      front ++ raw :: (more ++ left) := body_eq_filter.symm.trans body_split
  obtain ⟨before, after, all_split, kept, rfl⟩ := exists_of_filter_eq_append kept_split
  refine ⟨before, raw, after, all_split, by simpa using kept,
    ⟨earlier, item, more, left, stops, number, body_split, reads⟩, ?_⟩
  have counted := length_filter_add_countP isVersionDirective before
  omega

/-- Without extensions and definitions, the number in an error is that of the line in the source
where the item begins, less the version lines in front of it. So it is that of the line only if
there are none. -/
theorem line_of_error (no_extensions : source.extensions = [])
    (no_defines : options.defines.toList = [])
    (failed : (assemble config identifier stage source options).result = .error error) :
    ∃ before raw after, source.physicalLines = before ++ raw :: after ∧
      isVersionDirective raw = false ∧ StopsBehind config source options error before raw ∧
      error.line + before.countP isVersionDirective = before.length + 1 ∧
      (error.line = before.length + 1 ↔ ∀ line ∈ before, isVersionDirective line = false) := by
  obtain ⟨before, raw, after, split, kept, stops, counted⟩ := exists_stopsBehind failed
  have no_header : header source options = [] := by
    rw [header, no_extensions, no_defines]
    rfl
  rw [allLines, no_header, List.nil_append] at split
  refine ⟨before, raw, after, split, kept, stops, counted, ?_⟩
  have none_iff : before.countP isVersionDirective = 0 ↔
      ∀ line ∈ before, isVersionDirective line = false := by
    simp only [List.countP_eq_zero, Bool.not_eq_true]
  rw [← none_iff]
  omega

/-- A chain that a directive on two lines opens behind a version line, and never closed. -/
theorem line_of_error_open :
    let source : Source := ⟨["int a;\n#version 100".toList, "#if \\\n1".toList], []⟩
    (assemble default "lamp".toList .vertex source Options.standard).result =
        .error ⟨2, .structural (.unterminated 1)⟩ ∧
      ∃ before raw after, source.physicalLines = before ++ raw :: after ∧
        2 + before.countP isVersionDirective = before.length + 1 := by
  intro source
  have failed : (assemble default "lamp".toList .vertex source Options.standard).result =
      .error ⟨2, .structural (.unterminated 1)⟩ := by decide +kernel
  obtain ⟨before, raw, after, split, -, -, counted, -⟩ := line_of_error rfl rfl failed
  exact ⟨failed, before, raw, after, split, counted⟩

/-- The only directive that can fail is on the second line, and the error says that it is on the
first one. -/
theorem line_of_error_behind_version :
    let source : Source := ⟨["#version 100".toList, "#endif".toList], []⟩
    (assemble default "lamp".toList .vertex source Options.standard).result =
        .error ⟨1, .structural .unmatchedEndif⟩ ∧
      source.physicalLines = ["#version 100".toList, "#endif".toList] ∧
      Item.scan source.physicalLines =
        [⟨1, .passThrough "#version 100".toList⟩, ⟨2, .directive ⟨.endif, []⟩⟩] := by
  decide +kernel

end Assembly

end GlslBuild
