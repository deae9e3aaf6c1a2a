import GlslBuild.Proofs.Conditional.Flags
import Mathlib.Data.List.Induction

/-!
# Histories of chains

What is seen of chains from outside, without a look at their flags: whether text is kept when a
chain is opened and in each of its branches. Whatever calls are made, and whether they fail or not,
at most one branch of a chain is active, and one of them is if the chain can be reached and has a
branch for all other cases. What was seen tells the flags, and where a condition is run.
-/

namespace GlslBuild.Chain

/-! ## Chains seen from outside -/

/-- What is seen of a chain: whether text was kept where it was opened, whether text is kept in each
of its branches, the latest one first, and whether one of them is the branch for all other cases. -/
structure Story where
  reachable : Bool
  branches : List Bool
  hasElse : Bool
  deriving DecidableEq, Repr

/-- A board with the stories of its open chains, that of the innermost one first, and of the chains
that were closed. -/
structure Watch where
  board : Board
  current : List Story
  closed : List Story

/-- What is seen of a call that succeeded, by the board before and the board after it. -/
def Watch.record (watch : Watch) (call : Call) (board : Board) : Watch :=
  match call, watch.current with
  | .openIf _, current | .openIfDefined _ _, current =>
      ⟨board, ⟨watch.board.isActive, [board.isActive], false⟩ :: current, watch.closed⟩
  | .elif _, story :: outer =>
      ⟨board, { story with branches := board.isActive :: story.branches } :: outer, watch.closed⟩
  | .otherwise, story :: outer =>
      ⟨board, ⟨story.reachable, board.isActive :: story.branches, true⟩ :: outer, watch.closed⟩
  | .endif, story :: outer => ⟨board, outer, story :: watch.closed⟩
  | _, [] => { watch with board }

/-- The watch after a call, which may fail. -/
def Watch.observe (watch : Watch) (call : Call) : Watch :=
  match call.action.run watch.board with
  | .error _ board => { watch with board }
  | .ok _ board => watch.record call board

/-- The watch after calls. -/
def Watch.after (definitions : Definitions) (calls : List Call) : Watch :=
  calls.foldl observe ⟨.start definitions, [], []⟩

/-- The call comes where a condition matters: it opens a chain where text is kept, or goes on with
one that was opened there, before its branch for all other cases and while no branch was active. -/
def Call.matters (watch : Watch) : Call → Bool
  | openIf _ => watch.board.isActive
  | elif _ => watch.current.head?.any fun story =>
      story.reachable && !story.hasElse && !story.branches.contains true
  | _ => false

namespace Story

variable {story : Story} {flags : Flags} {outside : Bool}

/-- At most one branch is active, and one of them is if the chain can be reached and has a branch
for all other cases. -/
def Proper (story : Story) : Prop :=
  story.branches.count true ≤ 1 ∧
    (story.reachable = true → story.hasElse = true → story.branches.count true = 1)

/-- What is seen of a chain agrees with its flags, given whether text is kept outside of it. -/
structure Fits (story : Story) (flags : Flags) (outside : Bool) : Prop where
  reachable : story.reachable = outside
  latest : story.branches.head? = some flags.active
  hadElse : flags.hadElse = story.hasElse
  /-- No branch of a chain that cannot be reached is active, though one counts as taken. -/
  count : story.branches.count true = if outside && flags.hadActive then 1 else 0
  unreachable : outside = false → flags.hadActive = true
  settled : story.hasElse = true → flags.hadActive = true

namespace Fits

theorem proper (fits : story.Fits flags outside) : story.Proper := by
  refine ⟨?_, fun reached late => ?_⟩
  · rw [fits.count]
    split <;> simp
  · rw [fits.count, ← fits.reachable, reached, fits.settled late]
    rfl

/-- A branch is only active where text is kept outside, and then it counts as taken. -/
theorem of_active (fits : story.Fits flags outside) (active : flags.active = true) :
    outside = true ∧ flags.hadActive = true := by
  have member : true ∈ story.branches := by
    apply List.mem_of_mem_head?
    rw [fits.latest, active]
    rfl
  have positive := List.count_pos_iff.mpr member
  rw [fits.count] at positive
  split at positive
  · next both => exact Bool.and_eq_true_iff.mp both
  · contradiction

theorem hadActive_eq (fits : story.Fits flags outside) :
    flags.hadActive = (!story.reachable || story.branches.contains true) := by
  have unreachable := fits.unreachable
  rw [Bool.eq_iff_iff, Bool.or_eq_true, List.contains_iff_mem, ← List.count_pos_iff, fits.count,
    fits.reachable]
  cases outside <;> cases taken : flags.hadActive <;> simp_all

/-- The first branch of a chain may be active where text is kept. -/
theorem first (outside holds : Bool) :
    let flags := if outside then Flags.opened holds else .dead
    Fits ⟨outside, [flags.active && outside], false⟩ flags outside := by
  cases outside <;> cases holds <;>
    exact ⟨rfl, rfl, rfl, rfl, by decide, by decide⟩

/-- A further branch may be active if none was before, and counts as taken then. -/
theorem enter (fits : story.Fits flags outside) {next : Flags}
    (hadActive : next.hadActive = (flags.hadActive || next.active))
    (first : next.active = true → flags.hadActive = false)
    (settled : next.hadElse = true → next.hadActive = true) :
    Fits ⟨story.reachable, (next.active && outside) :: story.branches, next.hadElse⟩ next
      outside := by
  have outside_of_active (active : next.active = true) : outside = true := by
    by_contra unreached
    have taken := fits.unreachable (by simpa using unreached)
    rw [first active] at taken
    contradiction
  have seen : (next.active && outside) = next.active := by
    cases active : next.active with
    | false => rfl
    | true => rw [outside_of_active active]; rfl
  refine ⟨fits.reachable, congrArg some seen, rfl, ?_, ?_, settled⟩
  · rw [seen, List.count_cons, fits.count, hadActive]
    cases active : next.active with
    | false => simp
    | true => simp [first active, outside_of_active active]
  · intro unreached
    rw [hadActive, fits.unreachable unreached, Bool.true_or]

theorem elif (fits : story.Fits flags outside) (early : flags.hadElse = false) (active : Bool)
    (first : active = true → flags.hadActive = false) :
    Fits { story with branches := ((flags.elif active).active && outside) :: story.branches }
      (flags.elif active) outside := by
  have unsettled : (flags.elif active).hadElse = true → (flags.elif active).hadActive = true :=
    fun late => absurd (late.symm.trans early) (by decide)
  have entered := fits.enter rfl first unsettled
  rwa [show (flags.elif active).hadElse = story.hasElse from fits.hadElse] at entered

theorem otherwise (fits : story.Fits flags outside) :
    Fits ⟨story.reachable, (flags.otherwise.active && outside) :: story.branches, true⟩
      flags.otherwise outside :=
  fits.enter (Bool.or_not_self flags.hadActive).symm (by simp [Flags.otherwise]) fun _ => rfl

end Fits

end Story

/-! ## Stacks of chains -/

/-- What is seen of the open chains agrees with their flags. -/
inductive Follows : List Story → List Flags → Prop where
  | nil : Follows [] []
  | cons {story : Story} {flags : Flags} {stories : List Story} {chains : List Flags}
      (fits : story.Fits flags (chains.all Flags.active)) (outer : Follows stories chains) :
      Follows (story :: stories) (flags :: chains)

namespace Follows

variable {stories : List Story} {chains : List Flags}

theorem proper (follows : Follows stories chains) : ∀ story ∈ stories, story.Proper := by
  induction follows with
  | nil => simp
  | cons fits _ induction =>
      intro story member
      rcases List.mem_cons.mp member with rfl | member
      · exact fits.proper
      · exact induction story member

theorem latest (follows : Follows stories chains) :
    stories.map (·.branches.head?) = chains.map fun flags => some flags.active := by
  induction follows with
  | nil => rfl
  | cons fits _ induction => rw [List.map_cons, List.map_cons, fits.latest, induction]

theorem hadActive_of_active (follows : Follows stories chains) :
    ∀ flags ∈ chains, flags.active = true → flags.hadActive = true := by
  induction follows with
  | nil => simp
  | cons fits _ induction =>
      intro flags member active
      rcases List.mem_cons.mp member with rfl | member
      · exact (fits.of_active active).2
      · exact induction flags member active

/-- All chains inside one whose branch is left out are left out, and count as taken. -/
theorem dead_above (follows : Follows stories chains) {above below : List Flags} {flags : Flags}
    (split : chains = above ++ flags :: below) (inactive : flags.active = false) :
    ∀ other ∈ above, other.active = false ∧ other.hadActive = true := by
  induction follows generalizing above with
  | nil => simp at split
  | @cons story top stories chains fits outer induction =>
      cases above with
      | nil => simp
      | cons first above =>
          rw [List.cons_append, List.cons.injEq] at split
          obtain ⟨rfl, rfl⟩ := split
          have left_out : (above ++ flags :: below).all Flags.active = false := by simp [inactive]
          intro other member
          rcases List.mem_cons.mp member with rfl | member
          · refine ⟨?_, fits.unreachable left_out⟩
            by_contra active
            have outside := (fits.of_active (by simpa using active)).1
            rw [left_out] at outside
            contradiction
          · exact induction rfl other member

/-- Text is kept exactly if the innermost chain is in a branch that is active. -/
theorem all_active (follows : Follows stories chains) :
    chains.all Flags.active = chains.head?.all Flags.active := by
  cases follows with
  | nil => rfl
  | @cons _ flags _ chains fits _ =>
      rw [List.all_cons, List.head?_cons, Option.all_some]
      cases active : flags.active with
      | false => rfl
      | true => rw [(fits.of_active active).1]; rfl

end Follows

namespace Watch

/-- What is seen agrees with the board. -/
structure Sound (watch : Watch) : Prop where
  current : Follows watch.current watch.board.chains
  closed : ∀ story ∈ watch.closed, story.Proper

theorem observe_of_ok {watch : Watch} {call : Call} {board : Board}
    (succeeded : call.action.run watch.board = .ok () board) :
    watch.observe call = watch.record call board := by
  rw [Watch.observe, succeeded]

theorem observe_of_error {watch : Watch} {call : Call} {error : DirectiveError} {board : Board}
    (failed : call.action.run watch.board = .error error board) :
    watch.observe call = { watch with board } := by
  rw [Watch.observe, failed]

/-- A call that fails leaves the chains as they are. -/
theorem Sound.fail {watch : Watch} (sound : watch.Sound) {call : Call} (error : DirectiveError)
    (asked : Nat)
    (failed : call.action.run watch.board = .error error { watch.board with asked }) :
    (watch.observe call).Sound := by
  rw [observe_of_error failed]
  exact ⟨sound.current, sound.closed⟩

/-- A call that opens a chain, with what its condition comes to where that matters. -/
theorem Sound.push {watch : Watch} (sound : watch.Sound) {call : Call} (holds : Bool) (asked : Nat)
    (opens : ∀ board, watch.record call board =
      ⟨board, ⟨watch.board.isActive, [board.isActive], false⟩ :: watch.current, watch.closed⟩)
    (succeeded : call.action.run watch.board = .ok () ⟨watch.board.definitions,
      (if watch.board.isActive then .opened holds else .dead) :: watch.board.chains, asked⟩) :
    (watch.observe call).Sound := by
  rw [observe_of_ok succeeded, opens]
  exact ⟨.cons (.first watch.board.isActive holds) sound.current, sound.closed⟩

theorem Sound.openIf {watch : Watch} (sound : watch.Sound) (test : Condition.Test) :
    (watch.observe (.openIf test)).Sound := by
  have ran : (Call.openIf test).action.run watch.board = _ := Board.run_openIf test watch.board
  cases outside : watch.board.isActive with
  | false => exact sound.push false watch.board.asked (fun _ => rfl) (by simp [ran, outside])
  | true =>
      cases answer : test watch.board.definitions with
      | error error => exact sound.fail (.definition error) _ (by simp [ran, outside, answer]; rfl)
      | ok holds =>
          exact sound.push holds _ (fun _ => rfl) (by simp [ran, outside, answer]; rfl)

theorem Sound.openIfDefined {watch : Watch} (sound : watch.Sound) (name : Text) (expected : Bool) :
    (watch.observe (.openIfDefined name expected)).Sound :=
  sound.push (watch.board.definitions.contains name == expected) watch.board.asked (fun _ => rfl)
    (Board.run_openIfDefined name expected watch.board)

theorem Sound.elif {watch : Watch} (sound : watch.Sound) (test : Condition.Test) :
    (watch.observe (.elif test)).Sound := by
  obtain ⟨⟨definitions, chains, asked⟩, current, closed⟩ := watch
  have follows := sound.current
  have proper := sound.closed
  cases follows with
  | nil => exact sound
  | @cons story flags stories chains fits outer =>
      have ran : (Call.elif test).action.run ⟨definitions, flags :: chains, asked⟩ = _ :=
        Board.run_elif test definitions flags chains asked
      cases late : flags.hadElse with
      | true => exact sound.fail (.structural .elifAfterElse) asked (by simp [ran, late])
      | false =>
          rw [late] at ran
          cases taken : flags.hadActive with
          | true =>
              rw [taken] at ran
              rw [observe_of_ok ran]
              exact ⟨.cons (fits.elif late false (by simp)) outer, proper⟩
          | false =>
              rw [taken] at ran
              cases answer : test definitions with
              | error error =>
                  rw [answer] at ran
                  exact sound.fail (.definition error) (asked + 1) ran
              | ok holds =>
                  rw [answer] at ran
                  rw [observe_of_ok ran]
                  exact ⟨.cons (fits.elif late holds fun _ => taken) outer, proper⟩

theorem Sound.otherwise {watch : Watch} (sound : watch.Sound) :
    (watch.observe .otherwise).Sound := by
  obtain ⟨⟨definitions, chains, asked⟩, current, closed⟩ := watch
  have follows := sound.current
  have proper := sound.closed
  cases follows with
  | nil => exact sound
  | @cons story flags stories chains fits outer =>
      have ran : Call.otherwise.action.run ⟨definitions, flags :: chains, asked⟩ = _ :=
        Board.run_otherwise definitions flags chains asked
      cases late : flags.hadElse with
      | true => exact sound.fail (.structural .duplicateElse) asked (by simp [ran, late])
      | false =>
          rw [late] at ran
          rw [observe_of_ok ran]
          exact ⟨.cons fits.otherwise outer, proper⟩

theorem Sound.endif {watch : Watch} (sound : watch.Sound) : (watch.observe .endif).Sound := by
  obtain ⟨⟨definitions, chains, asked⟩, current, closed⟩ := watch
  have follows := sound.current
  have proper := sound.closed
  cases follows with
  | nil => exact sound
  | @cons story flags stories chains fits outer =>
      refine ⟨outer, fun other member => ?_⟩
      rcases List.mem_cons.mp member with rfl | member
      · exact fits.proper
      · exact proper other member

/-- Every call, whether it fails or not, keeps what is seen in agreement with the board. -/
theorem Sound.observe {watch : Watch} (sound : watch.Sound) : ∀ call, (watch.observe call).Sound
  | .openIf test => sound.openIf test
  | .openIfDefined name expected => sound.openIfDefined name expected
  | .elif test => sound.elif test
  | .otherwise => sound.otherwise
  | .endif => sound.endif

theorem sound_after (definitions : Definitions) (calls : List Call) :
    (after definitions calls).Sound := by
  induction calls using List.reverseRecOn with
  | nil => exact ⟨.nil, by simp [after]⟩
  | append_singleton calls call induction =>
      rw [after, List.foldl_append]
      exact induction.observe call

/-! ## What holds after calls -/

theorem board_record (watch : Watch) (call : Call) (board : Board) :
    (watch.record call board).board = board := by
  obtain ⟨before, current, closed⟩ := watch
  cases call <;> cases current <;> rfl

/-- What is on the board after calls are the flags of the frames that they leave. -/
theorem board_after (definitions : Definitions) (calls : List Call) :
    (after definitions calls).board =
      .ofContext (Call.context definitions calls) (after definitions calls).board.asked := by
  induction calls using List.reverseRecOn with
  | nil => rfl
  | append_singleton calls call induction =>
      have ran := call.run_action_ofContext (Call.context definitions calls)
        (after definitions calls).board.asked
      rw [← induction] at ran
      rw [after, List.foldl_append, ← after, Call.context, List.foldl_append, ← Call.context,
        List.foldl_cons, List.foldl_nil, List.foldl_cons, List.foldl_nil]
      cases applied : call.apply (Call.context definitions calls) with
      | error error =>
          rw [applied] at ran
          rw [observe_of_error ran]
          rfl
      | ok next =>
          rw [applied] at ran
          rw [observe_of_ok ran, board_record]
          rfl

theorem Sound.asksOn_eq {watch : Watch} (sound : watch.Sound) (call : Call) :
    call.asksOn watch.board = call.matters watch := by
  obtain ⟨⟨definitions, chains, asked⟩, current, closed⟩ := watch
  obtain ⟨follows, -⟩ := sound
  cases call with
  | elif test =>
      cases follows with
      | nil => rfl
      | cons fits _ =>
          simp only [Call.asksOn, Call.matters, List.head?_cons, Option.any_some, fits.hadActive_eq,
            fits.hadElse, Bool.not_or, Bool.not_not]
          rw [← Bool.and_assoc, Bool.and_comm (!_)]
  | _ => rfl

/-- What holds of the flags of all open chains, and of everything that was seen. -/
structure Orderly (watch : Watch) : Prop where
  hadActive_of_active : ∀ flags ∈ watch.board.chains, flags.active = true → flags.hadActive = true
  dead_above : ∀ above flags below, watch.board.chains = above ++ flags :: below →
    flags.active = false → ∀ other ∈ above, other.active = false ∧ other.hadActive = true
  isActive_eq : watch.board.isActive = watch.board.chains.head?.all Flags.active
  /-- The branch that a chain is in stays as it was when it was entered. -/
  latest : watch.current.map (·.branches.head?) =
    watch.board.chains.map fun flags => some flags.active
  atMostOne : ∀ story ∈ watch.current ++ watch.closed, story.branches.count true ≤ 1
  exactlyOne : ∀ story ∈ watch.current ++ watch.closed, story.reachable = true →
    story.hasElse = true → story.branches.count true = 1

theorem Sound.orderly {watch : Watch} (sound : watch.Sound) : watch.Orderly := by
  have proper : ∀ story ∈ watch.current ++ watch.closed, story.Proper := by
    intro story member
    rcases List.mem_append.mp member with member | member
    · exact sound.current.proper story member
    · exact sound.closed story member
  exact ⟨sound.current.hadActive_of_active, fun _ _ _ => sound.current.dead_above,
    sound.current.all_active, sound.current.latest, fun story member => (proper story member).1,
    fun story member => (proper story member).2⟩

end Watch

/-- Whatever calls were made, failed ones too, the flags are those of the frames, and every call
does the same to both. A chain whose current branch is active counts as taken, all chains inside one
whose branch is left out are left out and count as taken, and text is kept exactly if the innermost
chain is in an active branch. At most one branch of a chain is ever active, and exactly one if the
chain was opened where text is kept and has a branch for all other cases. A condition is run exactly
where it matters: its error is then that of the call, and nowhere else does it make a difference. -/
theorem Watch.orderly_after (definitions : Definitions) (calls : List Call) :
    let context := Call.context definitions calls
    let watch := Watch.after definitions calls
    let counted := fun call : Call => watch.board.asked + if call.matters watch then 1 else 0
    watch.board = Board.ofContext context watch.board.asked ∧
      watch.board.isActive = context.isActive ∧ watch.Orderly ∧
      ∀ call : Call,
        (call.action.run watch.board =
          match call.apply context with
          | .error error => .error error (.ofContext context (counted call))
          | .ok next => .ok () (.ofContext next (counted call))) ∧
        (call.matters watch = true → ∀ error,
          (call.withTest fun _ => .error error).apply context = .error (.definition error)) ∧
        (call.matters watch = false → ∀ test,
          (call.withTest test).apply context = call.apply context) := by
  intro context watch counted
  have sound : watch.Sound := Watch.sound_after definitions calls
  have same : watch.board = Board.ofContext context watch.board.asked :=
    Watch.board_after definitions calls
  have active : watch.board.isActive = context.isActive := by rw [same, Board.isActive_ofContext]
  refine ⟨same, active, sound.orderly, fun call => ?_⟩
  have matters := sound.asksOn_eq call
  rw [same] at matters
  refine ⟨?_, fun asks error => ?_, fun unasked test => ?_⟩
  · have ran := call.run_action_ofContext context watch.board.asked
    rwa [matters, ← same] at ran
  · exact Call.apply_withTest_of_asksOn (matters.trans asks) error
  · exact Call.apply_withTest_of_not_asksOn (matters.trans unasked) test

/-- The second branch of a chain is taken. The condition of the third one, which would fail, is not
run, and neither is that of a chain inside it. -/
example :
    let watch := Watch.after Table.empty [.openIf fun _ => .ok false, .elif fun _ => .ok true,
      .elif fun _ => .error .missingName, .openIf fun _ => .ok true, .otherwise, .endif, .otherwise]
    watch.closed = [⟨false, [false, false], true⟩] ∧
      watch.current = [⟨true, [false, false, true, false], true⟩] ∧ watch.board.asked = 2 := by
  decide

end GlslBuild.Chain
