import GlslBuild.Proofs.Conditional.Nesting
import GlslBuild.Proofs.Scanning

/-!
# Preprocessing in parts

Lines may be preprocessed in parts, one after the other, if no part ends inside a comment or a
directive. The items of a later part are those that it has on its own, further down, and the context
that the parts before it leave behind is all that they hand on.
-/

namespace GlslBuild

namespace Item

/-- The item further down. -/
def shift (count : Nat) (item : Item) : Item := ⟨count + item.line, item.content⟩

/-- Lines end with an item: no block comment is open behind them, and if the last item is a
directive it does not lack its end. -/
structure EndWhole (lines : List Text) : Prop where
  closed : openBehind false (scan lines) = false
  concludes : ∀ last ∈ (scan lines).getLast?, last.content.isText = false →
    Conclude [] (lines.drop (last.line - 1))

instance (lines : List Text) : Decidable (EndWhole lines) :=
  decidable_of_iff
    (openBehind false (scan lines) = false ∧
      ∀ last ∈ (scan lines).getLast?, last.content.isText = false →
        Conclude [] (lines.drop (last.line - 1)))
    ⟨fun both => ⟨both.1, both.2⟩, fun whole => ⟨whole.closed, whole.concludes⟩⟩

namespace Cursor

/-- Further down there are the same items. -/
theorem items_add (count line : Nat) (isOpen : Bool) (ahead : List Text) :
    items ⟨count + line, isOpen, ahead⟩ = (items ⟨line, isOpen, ahead⟩).map (shift count) := by
  induction line, isOpen, ahead using Cursor.induction with
  | nil => rw [items_nil, items_nil, List.map_nil]
  | reads line isOpen content taken left reads induction =>
      rw [items_of_reads reads, items_of_reads reads, List.map_cons, ← induction, Nat.add_assoc]
      rfl

/-- The items of lines and further ones are those of the lines and of the further ones, if the lines
end with an item. -/
theorem items_append {line : Nat} {isOpen : Bool} {ahead : List Text}
    (closed : openBehind isOpen (items ⟨line, isOpen, ahead⟩) = false)
    (concludes : ∀ last ∈ (items ⟨line, isOpen, ahead⟩).getLast?, last.content.isText = false →
      Conclude [] (ahead.drop (last.line - line))) (more : List Text) :
    items ⟨line, isOpen, ahead ++ more⟩ =
      items ⟨line, isOpen, ahead⟩ ++ items ⟨line + ahead.length, false, more⟩ := by
  induction line, isOpen, ahead using Cursor.induction with
  | nil line isOpen =>
      rw [items_nil] at closed ⊢
      obtain rfl : isOpen = false := closed
      rfl
  | reads line isOpen content taken left reads induction =>
      rw [items_of_reads reads] at closed concludes ⊢
      have whole : content.isText = false → Conclude [] taken := by
        intro directive
        rcases (reads.isExtent directive).1.ends with ends | all
        · exact ends
        · obtain rfl : left = [] := by simpa using all
          simpa [directive] using concludes
      have left_concludes : ∀ last ∈ (items ⟨line + taken.length, content.leavesOpen isOpen,
          left⟩).getLast?, last.content.isText = false →
            Conclude [] (left.drop (last.line - (line + taken.length))) := by
        intro last member directive
        have here := concludes last (by rw [List.getLast?_cons, Option.mem_def.mp member]; rfl)
          directive
        have behind := line_le_of_mem_items (List.mem_of_getLast? member)
        have place : last.line - line = taken.length + (last.line - (line + taken.length)) := by
          omega
        rwa [place, ← List.drop_drop, List.drop_left] at here
      rw [List.append_assoc, items_of_reads (reads.append whole more),
        induction closed left_concludes, List.length_append, Nat.add_assoc]
      rfl

end Cursor

/-- The items of lines in two parts. -/
theorem scan_append {first : List Text} (whole : EndWhole first) (second : List Text) :
    scan (first ++ second) = scan first ++ (scan second).map (shift first.length) := by
  have parts : scan (first ++ second) =
      scan first ++ Cursor.items ⟨1 + first.length, false, second⟩ :=
    Cursor.items_append whole.closed whole.concludes second
  rw [parts, Nat.add_comm, Cursor.items_add]
  rfl

end Item

/-- The error further down. -/
def ProcessError.shift (count : Nat) (error : ProcessError) : ProcessError :=
  ⟨count + error.line, error.fault⟩

namespace Effect

variable {State : Type}

/-- The effect further down. -/
def shift (count : Nat) (effect : Effect State) : Effect State :=
  ⟨effect.state, effect.result.mapError (ProcessError.shift count)⟩

theorem shift_after (count : Nat) (emitted : List Text) (effect : Effect State) :
    (effect.after emitted).shift count = (effect.shift count).after emitted := by
  obtain ⟨state, result⟩ := effect
  cases result <;> rfl

theorem shift_andThen (count : Nat) (effect : Effect State) (next : State → Effect State) :
    (effect.andThen next).shift count =
      (effect.shift count).andThen fun state => (next state).shift count := by
  obtain ⟨state, result⟩ := effect
  cases result with
  | error error => rfl
  | ok emitted => exact shift_after count emitted (next state)

end Effect

namespace Context

variable {passLimit : Nat}

/-- Items further down do the same. -/
theorem advance_map_shift (count : Nat) (items : List Item) (context : Context) :
    advance passLimit (items.map (Item.shift count)) context =
      (advance passLimit items context).shift count := by
  induction items generalizing context with
  | nil => rfl
  | cons item rest induction =>
      rw [List.map_cons, advance_cons, Item.shift, advance_cons]
      cases context.step passLimit item.content with
      | error fault => rfl
      | ok outcome =>
          simp only
          rw [induction, Effect.shift_after]

theorem checkClosed_add (count line : Nat) :
    checkClosed (count + line) = fun context => (checkClosed line context).shift count := by
  funext context
  unfold checkClosed
  cases context.finish <;> rfl

theorem endLine_append {second : List Item} (second_ne_nil : second ≠ []) (first : List Item)
    (count : Nat) :
    endLine (first ++ second.map (Item.shift count)) = count + endLine second := by
  have ends := List.getLast?_eq_some_getLast second_ne_nil
  simp [endLine, List.getLast?_append, ends, Item.shift]

/-- Further items of a run that may end here are preprocessed as on their own, further down. -/
theorem effect_processItems_append {context : Context} {first : List Item} {output : List Text}
    (processed : (context.processItems passLimit first).result = .ok output) (second : List Item)
    (count : Nat) :
    (context.processItems passLimit (first ++ second.map (Item.shift count))).effect =
      (((context.processItems passLimit first).context.processItems passLimit second).effect.shift
        count).after output := by
  obtain ⟨ran, closed⟩ := advance_of_processItems processed
  generalize (context.processItems passLimit first).context = between at ran closed ⊢
  rw [effect_processItems, effect_processItems, advance_append, ran, Effect.shift_andThen,
    ← advance_map_shift]
  change ((advance passLimit (second.map (Item.shift count)) between).after output).andThen _ = _
  rw [Effect.andThen_after]
  cases second with
  | nil =>
      -- Nothing follows, so the line that an open chain would be blamed on does not matter.
      rw [List.map_nil, advance_nil, Effect.idle_andThen, Effect.idle_andThen,
        checkClosed_of_finish closed, checkClosed_of_finish closed]
      rfl
  | cons item rest =>
      rw [endLine_append (List.cons_ne_nil item rest), checkClosed_add]

/-- Lines that may end where they end can be preprocessed before what follows them: this goes on
with the definitions that they leave behind, gives its lines after theirs, and its errors have their
place in the whole. -/
theorem process_append {context : Context} {first : List Text} {output : List Text}
    (processed : (context.process passLimit first).result = .ok output)
    (whole : Item.EndWhole first) (second : List Text) :
    let later := (context.process passLimit first).context.process passLimit second
    let outcome := context.process passLimit (first ++ second)
    outcome.context = later.context ∧
      outcome.result =
        (later.result.map (output ++ ·)).mapError (ProcessError.shift first.length) := by
  intro later outcome
  have effect_eq : outcome.effect = (later.effect.shift first.length).after output := by
    simp only [outcome, later, process, Item.scan_append whole]
    exact effect_processItems_append processed (Item.scan second) first.length
  have result_eq := congrArg Effect.result effect_eq
  refine ⟨congrArg Effect.state effect_eq, ?_⟩
  change outcome.result = (later.result.mapError _).map _ at result_eq
  rw [result_eq]
  cases later.result <;> rfl

/-- A continued definition, a comment over two lines and a chain in front of two lines that use the
definition, and in front of two that fail in the second. -/
theorem process_append_lamp :
    let first := ["#define LAMP 1 + \\", "  2", "/* lamp", "*/ #define", "#ifdef GLOW", "int b;",
      "#endif"].map String.toList
    let output := ["/* lamp", "*/ #define"].map String.toList
    let sound := ["int a =", "LAMP;"].map String.toList
    let failing := ["int a = LAMP;", "#elif LAMP"].map String.toList
    (empty.process 8 first).result = .ok output ∧ Item.EndWhole first ∧
      (empty.process 8 (first ++ sound)).result =
        .ok (output ++ ["int a =", "1 +   2;"].map String.toList) ∧
      (empty.process 8 (first ++ failing)).result =
        .error ⟨9, .structural .unmatchedElif⟩ := by
  intro first output sound failing
  have processed : (empty.process 8 first).result = .ok output := by decide +kernel
  have whole : Item.EndWhole first := by decide +kernel
  refine ⟨processed, whole, ?_, ?_⟩
  · have used : ((empty.process 8 first).context.process 8 sound).result =
        .ok (["int a =", "1 +   2;"].map String.toList) := by decide +kernel
    rw [(process_append processed whole sound).2, used]
    rfl
  · have failed : ((empty.process 8 first).context.process 8 failing).result =
        .error ⟨2, .structural .unmatchedElif⟩ := by decide +kernel
    rw [(process_append processed whole failing).2, failed]
    rfl

end Context

end GlslBuild
