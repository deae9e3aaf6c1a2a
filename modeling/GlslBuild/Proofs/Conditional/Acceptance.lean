import GlslBuild.Conditional.Context
import Mathlib.Data.List.Basic

/-!
# Operations on chains

A sequence of operations that open, continue and close chains is accepted exactly if it is well
nested, whatever its conditions come to. All that acceptance depends on is the number of open chains
and whether each of them is in its branch for all other cases. A run over these flags says which
branches are left open, and the sequences that leave some open are those that can be completed.
-/

namespace GlslBuild.Chain

/-- What an operation does to the nesting of chains. -/
inductive Mark where
  | opening | elif | otherwise | endif
  deriving DecidableEq, Repr

/-- An operation on chains. Its condition may come to anything, but it does not fail. -/
inductive Operation where
  | openIf (condition : Definitions → Bool)
  | openIfDefined (name : Text) (expected : Bool)
  | elif (condition : Definitions → Bool)
  | otherwise
  | endif

/-- The part of an operation in the nesting. -/
def Operation.mark : Operation → Mark
  | .openIf _ | .openIfDefined _ _ => .opening
  | .elif _ => .elif
  | .otherwise => .otherwise
  | .endif => .endif

/-- The context after an operation. -/
def Operation.apply (operation : Operation) (context : Context) : Except DirectiveError Context :=
  match operation with
  | .openIf condition =>
      (context.openIf fun definitions => .ok (condition definitions)).mapError .definition
  | .openIfDefined name expected => .ok (context.openIfDefined name expected)
  | .elif condition => context.elif fun definitions => .ok (condition definitions)
  | .otherwise => context.otherwise.mapError .structural
  | .endif => context.endif.mapError .structural

/-- The first operation that failed, by the number of those before it, and its error. -/
structure Failure where
  position : Nat
  error : DirectiveError
  deriving DecidableEq, Repr

/-- The failure seen from one operation earlier. -/
def Failure.later (failure : Failure) : Failure := ⟨failure.position + 1, failure.error⟩

/-- The context after a sequence of operations, up to the first one that fails. -/
def perform (context : Context) : List Operation → Except Failure Context
  | [] => .ok context
  | operation :: rest =>
      match operation.apply context with
      | .error error => .error ⟨0, error⟩
      | .ok next => (perform next rest).mapError Failure.later

/-! ## The grammar -/

/-- Well nested sequences: chains, each with an opening, any number of further branches, possibly a
branch for all other cases, and an end. -/
inductive Nested : List Mark → Prop where
  | nil : Nested []
  | chain {body rest : List Mark} {branches : List (List Mark)} {last : Option (List Mark)}
      (first : Nested body) (others : ∀ branch ∈ branches, Nested branch)
      (final : ∀ block ∈ last, Nested block) (after : Nested rest) :
      Nested (.opening :: body ++ branches.flatMap (.elif :: ·) ++ last.elim [] (.otherwise :: ·) ++
        .endif :: rest)

/-- The sequence can go on to a well nested one. -/
def Extendable (marks : List Mark) : Prop := ∃ suffix, Nested (marks ++ suffix)

/-- The rule that an operation breaks after a sequence. No chain is open after a well nested
sequence, and a chain is in its branch for all other cases if only a well nested sequence follows
the start of that branch. -/
inductive Violates : List Mark → Mark → StructuralError → Prop where
  | unmatchedElif {before : List Mark} (closed : Nested before) :
      Violates before .elif .unmatchedElif
  | unmatchedElse {before : List Mark} (closed : Nested before) :
      Violates before .otherwise .unmatchedElse
  | unmatchedEndif {before : List Mark} (closed : Nested before) :
      Violates before .endif .unmatchedEndif
  | elifAfterElse {before block : List Mark} (inside : Nested block) :
      Violates (before ++ .otherwise :: block) .elif .elifAfterElse
  | duplicateElse {before block : List Mark} (inside : Nested block) :
      Violates (before ++ .otherwise :: block) .otherwise .duplicateElse

theorem Nested.append {first second : List Mark} (nested : Nested first) (other : Nested second) :
    Nested (first ++ second) := by
  induction nested with
  | nil => exact other
  | chain body branches last _ _ _ _ induction =>
      rw [List.append_assoc, List.cons_append]
      exact .chain body branches last induction

/-! ## Flags -/

/-- What a mark does to the open chains. There is a flag for each of them, the innermost one first,
that says whether it is in its branch for all other cases. -/
def Mark.advance : Mark → List Bool → Except StructuralError (List Bool)
  | .opening, flags => .ok (false :: flags)
  | .elif, [] => .error .unmatchedElif
  | .elif, true :: _ => .error .elifAfterElse
  | .elif, false :: outer => .ok (false :: outer)
  | .otherwise, [] => .error .unmatchedElse
  | .otherwise, true :: _ => .error .duplicateElse
  | .otherwise, false :: outer => .ok (true :: outer)
  | .endif, [] => .error .unmatchedEndif
  | .endif, _ :: outer => .ok outer

/-- The open chains after a sequence of marks, up to the first one that is out of place. -/
def read (flags : List Bool) : List Mark → Except Failure (List Bool)
  | [] => .ok flags
  | mark :: rest =>
      match mark.advance flags with
      | .error error => .error ⟨0, .structural error⟩
      | .ok next => (read next rest).mapError Failure.later

/-- The flags of the open chains of a context. -/
def flags (context : Context) : List Bool := context.frames.map Frame.elseSeen

/-- Whether an operation succeeds, and the flags that it leaves, depend on the flags before it. -/
theorem Operation.map_flags_apply (operation : Operation) (context : Context) :
    (operation.apply context).map flags =
      (operation.mark.advance (flags context)).mapError .structural := by
  obtain ⟨definitions, frames⟩ := context
  cases operation with
  | openIf condition =>
      simp only [apply, mark, Mark.advance, Context.openIf]
      split <;> rfl
  | openIfDefined name expected =>
      simp only [apply, mark, Mark.advance, Context.openIfDefined]
      split <;> rfl
  | elif condition =>
      cases frames with
      | nil => rfl
      | cons frame outer =>
          obtain ⟨progress, elseSeen⟩ := frame
          cases elseSeen <;> cases progress <;> rfl
  | otherwise =>
      cases frames with
      | nil => rfl
      | cons frame outer =>
          obtain ⟨progress, elseSeen⟩ := frame
          cases elseSeen <;> rfl
  | endif => cases frames <;> rfl

theorem map_flags_perform (operations : List Operation) (context : Context) :
    (perform context operations).map flags =
      read (flags context) (operations.map Operation.mark) := by
  induction operations generalizing context with
  | nil => rfl
  | cons operation rest induction =>
      have step := operation.map_flags_apply context
      rw [List.map_cons, perform, read]
      cases applied : operation.apply context with
      | error error =>
          rw [applied] at step
          cases advanced : operation.mark.advance (flags context) with
          | error fault =>
              rw [advanced] at step
              obtain rfl : error = .structural fault := Except.error.inj step
              rfl
          | ok next =>
              rw [advanced] at step
              contradiction
      | ok next =>
          rw [applied] at step
          cases advanced : operation.mark.advance (flags context) with
          | error fault =>
              rw [advanced] at step
              contradiction
          | ok advanced_flags =>
              rw [advanced] at step
              obtain rfl : flags next = advanced_flags := Except.ok.inj step
              simp only [← induction next]
              cases perform next rest <;> rfl

/-- Whether chains are left open, and how many, is told by the flags. -/
theorem finish_eq (context : Context) :
    context.finish =
      if (flags context).isEmpty then .ok ()
      else .error (.unterminated (flags context).length) := by
  simp [Context.finish, Context.depth, flags]

theorem read_cons_of_ok {mark : Mark} {before next : List Bool}
    (advanced : mark.advance before = .ok next) (rest : List Mark) :
    read before (mark :: rest) = (read next rest).mapError Failure.later := by
  rw [read, advanced]

theorem read_cons_of_error {mark : Mark} {before : List Bool} {fault : StructuralError}
    (stopped : mark.advance before = .error fault) (rest : List Mark) :
    read before (mark :: rest) = .error ⟨0, .structural fault⟩ := by
  rw [read, stopped]

theorem read_cons_eq_ok_iff {mark : Mark} {rest : List Mark} {before after : List Bool} :
    read before (mark :: rest) = .ok after ↔
      ∃ next, mark.advance before = .ok next ∧ read next rest = .ok after := by
  cases advanced : mark.advance before with
  | error fault => simp [read_cons_of_error advanced]
  | ok next =>
      simp only [read_cons_of_ok advanced, Except.ok.injEq, exists_eq_left']
      cases read next rest <;> simp [Except.mapError]

theorem read_append_eq_ok_iff {first second : List Mark} {before after : List Bool} :
    read before (first ++ second) = .ok after ↔
      ∃ middle, read before first = .ok middle ∧ read middle second = .ok after := by
  induction first generalizing before with
  | nil => simp [read]
  | cons mark rest induction =>
      simp only [List.cons_append, read_cons_eq_ok_iff, induction]
      constructor
      · rintro ⟨next, advanced, middle, front, back⟩
        exact ⟨middle, ⟨next, advanced, front⟩, back⟩
      · rintro ⟨middle, ⟨next, advanced, front⟩, back⟩
        exact ⟨next, advanced, middle, front, back⟩

/-- A run that fails stops at the first mark that is out of place. -/
theorem exists_of_read_eq_error {marks : List Mark} {before : List Bool} {failure : Failure}
    (failed : read before marks = .error failure) :
    ∃ done mark rest now fault, marks = done ++ mark :: rest ∧ done.length = failure.position ∧
      read before done = .ok now ∧ mark.advance now = .error fault ∧
      failure.error = .structural fault := by
  induction marks generalizing before failure with
  | nil => contradiction
  | cons mark rest induction =>
      cases advanced : mark.advance before with
      | error fault =>
          rw [read_cons_of_error advanced] at failed
          obtain rfl := Except.error.inj failed
          exact ⟨[], mark, rest, before, fault, rfl, rfl, rfl, advanced, rfl⟩
      | ok next =>
          rw [read_cons_of_ok advanced] at failed
          cases later : read next rest with
          | ok final =>
              rw [later] at failed
              contradiction
          | error inner =>
              rw [later] at failed
              obtain rfl := Except.error.inj failed
              obtain ⟨done, other, after, now, fault, rfl, length, passed, stopped, same⟩ :=
                induction later
              refine ⟨mark :: done, other, after, now, fault, rfl, ?_, ?_, stopped, same⟩
              · simp [Failure.later, length]
              · exact read_cons_eq_ok_iff.mpr ⟨next, advanced, passed⟩

/-- Every end closes a chain that an opening opened. -/
theorem count_of_read {marks : List Mark} {before after : List Bool}
    (passed : read before marks = .ok after) :
    marks.count .opening + before.length = marks.count .endif + after.length := by
  induction marks generalizing before with
  | nil =>
      obtain rfl := Except.ok.inj passed
      rfl
  | cons mark rest induction =>
      obtain ⟨next, advanced, later⟩ := read_cons_eq_ok_iff.mp passed
      have counted := induction later
      have moved : ([mark].count .opening) + before.length =
          ([mark].count .endif) + next.length := by
        revert advanced
        fun_cases Mark.advance mark before <;> rintro ⟨⟩ <;> simp [Nat.add_comm]
      rw [← List.singleton_append, List.count_append, List.count_append]
      omega

/-! ## Acceptance -/

/-- A well nested sequence leaves the open chains as they are. -/
theorem Nested.read_eq {marks : List Mark} (nested : Nested marks) (before : List Bool) :
    read before marks = .ok before := by
  induction nested generalizing before with
  | nil => rfl
  | @chain body rest branches last _ _ _ _ first others final after =>
      have branches_read : read (false :: before) (branches.flatMap (.elif :: ·)) =
          .ok (false :: before) := by
        clear * - others
        induction branches with
        | nil => rfl
        | cons branch branches induction =>
            have passed := others branch List.mem_cons_self (false :: before)
            have later := induction fun other member => others other (List.mem_cons_of_mem _ member)
            rw [List.flatMap_cons, List.cons_append, read_cons_eq_ok_iff]
            exact ⟨_, rfl, read_append_eq_ok_iff.mpr ⟨_, passed, later⟩⟩
      obtain ⟨flag, last_read⟩ : ∃ flag,
          read (false :: before) (last.elim [] (.otherwise :: ·)) = .ok (flag :: before) := by
        cases last with
        | none => exact ⟨false, rfl⟩
        | some block =>
            exact ⟨true, read_cons_eq_ok_iff.mpr ⟨_, rfl, final block rfl _⟩⟩
      simp only [List.append_assoc, List.cons_append, read_cons_eq_ok_iff, read_append_eq_ok_iff]
      exact ⟨_, rfl, _, first _, _, branches_read, _, last_read, _, rfl, after _⟩

/-- The sequence leaves chains open in branches as the flags say. -/
inductive Opens : List Bool → List Mark → Prop where
  | closed {block : List Mark} (inside : Nested block) : Opens [] block
  | branch {outer : List Bool} {before body : List Mark} {branches : List (List Mark)}
      (around : Opens outer before) (first : Nested body)
      (others : ∀ branch ∈ branches, Nested branch) :
      Opens (false :: outer) (before ++ (.opening :: body ++ branches.flatMap (.elif :: ·)))
  | last {outer : List Bool} {before body block : List Mark} {branches : List (List Mark)}
      (around : Opens outer before) (first : Nested body)
      (others : ∀ branch ∈ branches, Nested branch) (inside : Nested block) :
      Opens (true :: outer)
        (before ++ (.opening :: body ++ branches.flatMap (.elif :: ·) ++ .otherwise :: block))

namespace Opens

variable {flags outer : List Bool} {marks block : List Mark}

theorem append (opens : Opens flags marks) (nested : Nested block) :
    Opens flags (marks ++ block) := by
  cases opens with
  | closed inside => exact .closed (inside.append nested)
  | @branch outer before body branches around first others =>
      rcases branches.eq_nil_or_concat with rfl | ⟨front, back, rfl⟩
      · have longer := Opens.branch around (first.append nested) others
        simpa using longer
      · have extended : ∀ branch ∈ front ++ [back ++ block], Nested branch := by
          intro branch member
          rcases List.mem_append.mp member with member | member
          · exact others branch (by simp [member])
          · obtain rfl := List.mem_singleton.mp member
            exact (others back (by simp)).append nested
        have longer := Opens.branch around first extended
        simpa using longer
  | last around first others inside =>
      have longer := Opens.last around first others (inside.append nested)
      simpa using longer

/-- Closing the innermost chain makes its marks part of a well nested sequence. -/
theorem close {flag : Bool} (opens : Opens (flag :: outer) marks) :
    Opens outer (marks ++ [.endif]) := by
  cases opens with
  | @branch _ before body branches around first others =>
      have no_last : ∀ block ∈ (none : Option (List Mark)), Nested block := by simp
      have chain := Nested.chain first others no_last .nil
      have closed := around.append chain
      simpa using closed
  | @last _ before body block branches around first others inside =>
      have only_last : ∀ other ∈ some block, Nested other := by simpa using inside
      have chain := Nested.chain first others only_last .nil
      have closed := around.append chain
      simpa using closed

/-- A mark that is in place opens, continues or closes a chain. -/
theorem advance {mark : Mark} {next : List Bool} (opens : Opens flags marks)
    (advanced : mark.advance flags = .ok next) : Opens next (marks ++ [mark]) := by
  cases mark with
  | opening =>
      obtain rfl := Except.ok.inj advanced
      have no_branches : ∀ branch ∈ ([] : List (List Mark)), Nested branch := by simp
      simpa using Opens.branch opens .nil no_branches
  | elif =>
      cases opens with
      | closed inside => contradiction
      | last around first others inside => contradiction
      | @branch outer before body branches around first others =>
          obtain rfl := Except.ok.inj advanced
          have extended : ∀ branch ∈ branches ++ [[]], Nested branch := by
            simpa [or_imp, forall_and] using And.intro others Nested.nil
          simpa using Opens.branch around first extended
  | otherwise =>
      cases opens with
      | closed inside => contradiction
      | last around first others inside => contradiction
      | branch around first others =>
          obtain rfl := Except.ok.inj advanced
          simpa using Opens.last around first others .nil
  | endif =>
      cases opens with
      | closed inside => contradiction
      | branch around first others =>
          obtain rfl := Except.ok.inj advanced
          exact (Opens.branch around first others).close
      | last around first others inside =>
          obtain rfl := Except.ok.inj advanced
          exact (Opens.last around first others inside).close

/-- A mark that is out of place breaks a rule. -/
theorem violates {mark : Mark} {fault : StructuralError} (opens : Opens flags marks)
    (stopped : mark.advance flags = .error fault) : Violates marks mark fault := by
  cases opens with
  | closed inside =>
      cases mark with
      | opening => contradiction
      | elif =>
          obtain rfl := Except.error.inj stopped
          exact .unmatchedElif inside
      | otherwise =>
          obtain rfl := Except.error.inj stopped
          exact .unmatchedElse inside
      | endif =>
          obtain rfl := Except.error.inj stopped
          exact .unmatchedEndif inside
  | branch around first others => cases mark <;> contradiction
  | last around first others inside =>
      rw [← List.append_assoc]
      cases mark with
      | opening => contradiction
      | elif =>
          obtain rfl := Except.error.inj stopped
          exact .elifAfterElse inside
      | otherwise =>
          obtain rfl := Except.error.inj stopped
          exact .duplicateElse inside
      | endif => contradiction

/-- A run leaves the chains open that its flags say. -/
theorem read {rest : List Mark} {after : List Bool} (opens : Opens flags marks)
    (passed : read flags rest = .ok after) : Opens after (marks ++ rest) := by
  induction rest generalizing flags marks with
  | nil =>
      obtain rfl := Except.ok.inj passed
      rwa [List.append_nil]
  | cons mark rest induction =>
      obtain ⟨next, advanced, later⟩ := read_cons_eq_ok_iff.mp passed
      have longer := induction (opens.advance advanced) later
      rwa [List.append_assoc, List.singleton_append] at longer

/-- All open chains can be closed. -/
theorem extendable (opens : Opens flags marks) : Extendable marks := by
  induction flags generalizing marks with
  | nil =>
      cases opens with
      | closed inside => exact ⟨[], by rwa [List.append_nil]⟩
  | cons flag outer induction =>
      obtain ⟨suffix, nested⟩ := induction opens.close
      exact ⟨.endif :: suffix, by rwa [List.append_assoc] at nested⟩

end Opens

theorem opens_of_read {marks : List Mark} {after : List Bool} (passed : read [] marks = .ok after) :
    Opens after marks :=
  Opens.read (.closed .nil) passed

theorem nested_iff {marks : List Mark} : Nested marks ↔ read [] marks = .ok [] := by
  refine ⟨fun nested => nested.read_eq [], ?_⟩
  intro passed
  cases opens_of_read passed with
  | closed inside => exact inside

theorem extendable_iff {marks : List Mark} :
    Extendable marks ↔ ∃ after, read [] marks = .ok after := by
  constructor
  · rintro ⟨suffix, nested⟩
    obtain ⟨middle, passed, -⟩ := read_append_eq_ok_iff.mp (nested_iff.mp nested)
    exact ⟨middle, passed⟩
  · rintro ⟨after, passed⟩
    exact (opens_of_read passed).extendable

/-- After a mark that is out of place there is no way to go on. -/
theorem not_extendable_concat {marks : List Mark} {now : List Bool} {mark : Mark}
    {fault : StructuralError} (passed : read [] marks = .ok now)
    (misplaced : mark.advance now = .error fault) : ¬Extendable (marks ++ [mark]) := by
  rw [extendable_iff]
  rintro ⟨final, all_passed⟩
  obtain ⟨middle, front, back⟩ := read_append_eq_ok_iff.mp all_passed
  obtain rfl := Except.ok.inj (passed.symm.trans front)
  obtain ⟨next, advanced, -⟩ := read_cons_eq_ok_iff.mp back
  rw [misplaced] at advanced
  contradiction

/-- What becomes of a sequence of operations that no chain is open before: the first failure, or
what is found at the end. -/
def verdict (definitions : Definitions) (operations : List Operation) :
    Except Failure (Except StructuralError Unit) :=
  (perform ⟨definitions, []⟩ operations).map Context.finish

/-- The verdict on a sequence depends on its marks alone. -/
theorem verdict_eq (definitions : Definitions) (operations : List Operation) :
    verdict definitions operations =
      (read [] (operations.map Operation.mark)).map fun openChains =>
        if openChains.isEmpty then .ok () else .error (.unterminated openChains.length) := by
  have same := map_flags_perform operations ⟨definitions, []⟩
  rw [verdict, show ([] : List Bool) = flags ⟨definitions, []⟩ from rfl, ← same]
  cases perform ⟨definitions, []⟩ operations with
  | error failure => rfl
  | ok context => exact congrArg Except.ok (finish_eq context)

/-- Operations from a context without open chains all succeed and leave none open exactly if they
are well nested. The first one that fails is the first after which the sequence cannot become well
nested any more, and its error names the rule that it breaks. If none fails, the end reports the
number of chains that are open. Nothing of this depends on what conditions come to. -/
theorem accepted_iff_nested (definitions : Definitions) (operations : List Operation) :
    let marks := operations.map Operation.mark
    (verdict definitions operations = .ok (.ok ()) ↔ Nested marks) ∧
      (∀ failure, verdict definitions operations = .error failure →
        ∃ before mark after fault, marks = before ++ mark :: after ∧
          before.length = failure.position ∧ Extendable before ∧ ¬Extendable (before ++ [mark]) ∧
          failure.error = .structural fault ∧ Violates before mark fault) ∧
      (∀ error, verdict definitions operations = .ok (.error error) →
        ∃ depth, 0 < depth ∧ marks.count .opening = marks.count .endif + depth ∧
          error = .unterminated depth) ∧
      ∀ (otherDefinitions : Definitions) (others : List Operation),
        others.map Operation.mark = marks →
          verdict otherDefinitions others = verdict definitions operations := by
  intro marks
  have verdict_marks := verdict_eq definitions operations
  refine ⟨?_, ?_, ?_, ?_⟩
  · rw [verdict_marks, nested_iff]
    cases read [] marks with
    | error failure => simp [Except.map]
    | ok openChains => cases openChains <;> simp [Except.map]
  · intro failure failed
    rw [verdict_marks] at failed
    cases stopped : read [] marks with
    | ok openChains =>
        rw [stopped] at failed
        contradiction
    | error inner =>
        rw [stopped] at failed
        obtain rfl := Except.error.inj failed
        obtain ⟨before, mark, after, now, fault, split, length, passed, misplaced, same⟩ :=
          exists_of_read_eq_error stopped
        exact ⟨before, mark, after, fault, split, length, extendable_iff.mpr ⟨now, passed⟩,
          not_extendable_concat passed misplaced, same, (opens_of_read passed).violates misplaced⟩
  · intro error reported
    rw [verdict_marks] at reported
    cases passed : read [] marks with
    | error failure =>
        rw [passed] at reported
        contradiction
    | ok openChains =>
        rw [passed] at reported
        have counted := count_of_read passed
        cases openChains with
        | nil => exact absurd (Except.ok.inj reported) (by simp)
        | cons flag outer =>
            have told := Except.error.inj (Except.ok.inj reported)
            exact ⟨_, Nat.succ_pos outer.length, by simpa using counted, told.symm⟩
  · intro otherDefinitions others same
    rw [verdict_marks, verdict_eq, same]

end GlslBuild.Chain
