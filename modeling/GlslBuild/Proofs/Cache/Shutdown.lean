import GlslBuild.Proofs.Cache.Provenance
import GlslBuild.Proofs.Result

/-!
# Shutting down in any order

When a cache is shut down its artifacts are visited in no particular order. Whatever it is, programs
are deleted before objects, each artifact once, and as long as callers give back only what they hold
the messages tell of exactly the handles that they still have. What programs hold themselves is
counted first, by going through their members one by one.
-/

namespace GlslBuild

variable {Factory Native : Type}

namespace Cache

/-! ## Counting members -/

/-- The count of a key, which is zero for a key without one. -/
def countOf (counts : Table Nat) (key : Text) : Nat := (counts.find? key).getD 0

/-- The counts after one more occurrence of a key. -/
def tally (counts : Table Nat) (key : Text) : Table Nat :=
  counts.insert key (countOf counts key + 1)

/-- How often each identity is a member of the artifacts visited. -/
def tallyMembers (visited : List (Identity × Artifact Native)) : Table Nat :=
  visited.foldl (fun counts entry => entry.2.members.foldl tally counts) Table.empty

theorem countOf_tally (counts : Table Nat) (key query : Text) :
    countOf (tally counts key) query =
      if query = key then countOf counts query + 1 else countOf counts query := by
  rw [countOf, tally, Table.find?_insert]
  split
  · next same => rw [same, Option.getD_some]
  · rfl

theorem countOf_foldl_tally (counts : Table Nat) (keys : List Text) (query : Text) :
    countOf (keys.foldl tally counts) query = countOf counts query + keys.count query := by
  induction keys generalizing counts with
  | nil => rfl
  | cons key rest induction =>
      rw [List.foldl_cons, induction, countOf_tally, List.count_cons]
      by_cases same : query = key
      · simp only [same, ↓reduceIte, beq_self_eq_true]
        omega
      · simp only [same, Ne.symm same, ↓reduceIte, beq_iff_eq, Nat.add_zero]

/-- Each member counts as often as it occurs. -/
theorem countOf_tallyMembers (visited : List (Identity × Artifact Native)) (identity : Identity) :
    countOf (tallyMembers visited) identity =
      (visited.flatMap fun entry => entry.2.members).count identity := by
  rw [tallyMembers, ← List.foldl_flatMap, countOf_foldl_tally]
  exact Nat.zero_add _

/-! ## Going through the artifacts -/

/-- The message about the references to an artifact that were not counted, if there are any. -/
def uncounted? (counts : Table Nat) (entry : Identity × Artifact Native) : Option Message :=
  let references := entry.2.references - countOf counts entry.1
  if 0 < references then some (.leaked entry.2.kind entry.1 references) else none

/-- Deletes an artifact, after the message about the references that were not counted. -/
def destroyCounted (counts : Table Nat) (cache : Cache Factory Native)
    (entry : Identity × Artifact Native) : Cache Factory Native :=
  (cache.report (uncounted? counts entry).toList).record (.delete entry.2.kind entry.2.native)

/-- The programs among the artifacts visited, and then the objects. -/
def programsFirst (visited : List (Identity × Artifact Native)) :
    List (Identity × Artifact Native) :=
  let (programs, objects) := visited.partition fun entry => entry.2.kind == .program
  programs ++ objects

/-- Shuts the cache down, with its artifacts visited in the order of a list. -/
def shutdownInOrder (cache : Cache Factory Native) (visited : List (Identity × Artifact Native)) :
    Cache Factory Native × Nat :=
  let entries := programsFirst visited
  let counts := tallyMembers entries
  (entries.foldl (destroyCounted counts) { cache with artifacts := Table.empty }, entries.length)

theorem programsFirst_eq (visited : List (Identity × Artifact Native)) :
    programsFirst visited =
      visited.filter (fun entry => entry.2.kind == .program) ++
        visited.filter fun entry => !(entry.2.kind == .program) := by
  simp only [programsFirst, List.partition_eq_filter_filter]
  rfl

theorem programsFirst_perm (visited : List (Identity × Artifact Native)) :
    (programsFirst visited).Perm visited := by
  rw [programsFirst_eq]
  exact List.filter_append_perm _ visited

theorem foldl_destroyCounted (counts : Table Nat) (entries : List (Identity × Artifact Native))
    (cache : Cache Factory Native) :
    entries.foldl (destroyCounted counts) cache =
      ⟨cache.artifacts,
        cache.calls ++ entries.map fun entry => .delete entry.2.kind entry.2.native,
        cache.messages ++ entries.filterMap (uncounted? counts)⟩ := by
  induction entries generalizing cache with
  | nil => simp
  | cons entry rest induction =>
      rw [List.foldl_cons, induction, List.filterMap_cons, destroyCounted]
      cases uncounted? counts entry <;> simp [record, report]

/-- However the artifacts are visited, the messages are about the references that the programs among
them do not hold. -/
theorem shutdownInOrder_eq {cache : Cache Factory Native}
    {visited : List (Identity × Artifact Native)}
    (order : visited.Perm cache.artifacts.entries) :
    cache.shutdownInOrder visited =
      (⟨Table.empty,
        cache.calls ++
          (programsFirst visited).map fun entry => .delete entry.2.kind entry.2.native,
        cache.messages ++ (programsFirst visited).filterMap cache.leak?⟩,
        cache.artifacts.size) := by
  have perm := (programsFirst_perm visited).trans order
  have told : uncounted? (tallyMembers (programsFirst visited)) = cache.leak? := by
    funext entry
    have counted : countOf (tallyMembers (programsFirst visited)) entry.1 =
        cache.programReferences entry.1 := by
      rw [countOf_tallyMembers, programReferences]
      exact (perm.flatMap_right _).count_eq entry.1
    rw [uncounted?, counted]
    rfl
  simp only [shutdownInOrder, foldl_destroyCounted, told, perm.length_eq]
  rfl

/-- The order of the table is one of them. -/
theorem shutdownInOrder_entries (cache : Cache Factory Native) :
    cache.shutdownInOrder cache.artifacts.entries = cache.shutdown := by
  rw [shutdownInOrder_eq (.refl _), shutdown, Table.size, (drained_perm cache).length_eq]
  rfl

/-- In whatever order, a careful shutdown destroys nothing that a program still holds. -/
theorem steps_shutdownInOrder {workshop : Workshop Factory Native} {asked : List Request}
    {careful : Prop} {cache : Cache Factory Native} {visited : List (Identity × Artifact Native)}
    (order : visited.Perm cache.artifacts.entries)
    (attributed : careful → ∀ identity artifact,
      cache.artifacts.find? identity = some artifact → Attributed asked identity artifact)
    (separate : careful → Request.Separate asked) :
    Steps workshop asked careful cache (cache.shutdownInOrder visited).1 := by
  rw [shutdownInOrder_eq order]
  refine steps_of_destroying ((programsFirst_perm visited).trans order).symm rfl rfl fun cared => ?_
  rw [programsFirst_eq]
  exact pairwise_programs_append_objects order (attributed cared) (separate cared)

/-! ## Deletions -/

/-- The native programs that are kept. -/
def nativePrograms (cache : Cache Factory Native) : List Native :=
  (cache.stored.filter fun entry => entry.1 == .program).map Prod.snd

/-- The native objects that are kept. -/
def nativeObjects (cache : Cache Factory Native) : List Native :=
  (cache.stored.filter fun entry => !(entry.1 == .program)).map Prod.snd

/-- Programs are deleted as programs before objects as objects. -/
theorem deletions_programsFirst {cache : Cache Factory Native}
    {visited : List (Identity × Artifact Native)}
    (order : visited.Perm cache.artifacts.entries) :
    ∃ programs objects : List Native, programs.Perm cache.nativePrograms ∧
      objects.Perm cache.nativeObjects ∧
      (programsFirst visited).map (fun entry =>
        (.delete entry.2.kind entry.2.native : Call Factory Native)) =
          programs.map .deleteProgram ++ objects.map .deleteObject := by
  have kept (keeps : ArtifactKind × Native → Bool) :
      ((visited.filter fun entry => keeps (entryOf entry.2)).map fun entry => entry.2.native).Perm
        ((cache.stored.filter keeps).map Prod.snd) := by
    rw [stored, List.filter_map, List.map_map]
    exact (order.filter _).map _
  refine ⟨_, _, kept fun entry => entry.1 == .program, kept fun entry => !(entry.1 == .program), ?_⟩
  rw [programsFirst_eq, List.map_append, List.map_map, List.map_map]
  congr 1
  · refine List.map_congr_left fun entry member => ?_
    have program := (List.mem_filter.mp member).2
    rw [beq_iff_eq.mp program]
    rfl
  · refine List.map_congr_left fun entry member => ?_
    have object := (List.mem_filter.mp member).2
    cases kind : entry.2.kind with
    | object stage => rfl
    | program => simp [kind] at object

/-! ## Messages -/

/-- Under each identity there is one artifact, so there is at most one message about it. -/
theorem nodup_leaks {cache : Cache Factory Native} {entries : List (Identity × Artifact Native)}
    (perm : entries.Perm cache.artifacts.entries) : (entries.filterMap cache.leak?).Nodup := by
  have apart : entries.Pairwise fun first second => first.1 ≠ second.1 :=
    (perm.pairwise_iff Ne.symm).mpr (cache.artifacts.sorted.imp Table.key_ne_of_lt)
  refine List.pairwise_filterMap.mpr (apart.imp ?_)
  intro first second different message first_leaks other second_leaks same
  simp only [leak?, Option.ite_none_right_eq_some, Option.some.injEq] at first_leaks second_leaks
  obtain ⟨-, rfl⟩ := first_leaks
  obtain ⟨-, rfl⟩ := second_leaks
  exact different (Message.leaked.inj same).2.1

theorem mem_leaks_iff {cache : Cache Factory Native} {entries : List (Identity × Artifact Native)}
    (perm : entries.Perm cache.artifacts.entries) {owners : List Identity}
    (balanced : Balanced cache owners) (message : Message) :
    message ∈ entries.filterMap cache.leak? ↔ ∃ identity artifact,
      cache.artifacts.find? identity = some artifact ∧ identity ∈ owners ∧
        message = .leaked artifact.kind identity (owners.count identity) := by
  have outstanding_eq {identity : Identity} {artifact : Artifact Native}
      (found : cache.artifacts.find? identity = some artifact) :
      cache.outstanding (identity, artifact) = owners.count identity := by
    rw [outstanding, balanced.references_eq found, Nat.add_sub_cancel]
  rw [List.mem_filterMap]
  constructor
  · rintro ⟨⟨identity, artifact⟩, member, leaks⟩
    have found := (Table.mem_entries_iff ..).mp (perm.mem_iff.mp member)
    rw [leak?, outstanding_eq found, Option.ite_none_right_eq_some, Option.some.injEq] at leaks
    exact ⟨identity, artifact, found, List.count_pos_iff.mp leaks.1, leaks.2.symm⟩
  · rintro ⟨identity, artifact, found, owned, rfl⟩
    refine ⟨(identity, artifact), perm.mem_iff.mpr ((Table.mem_entries_iff ..).mpr found), ?_⟩
    rw [leak?, outstanding_eq found]
    exact if_pos (List.count_pos_iff.mpr owned)

end Cache

/-! ## Sessions -/

namespace Session

/-- The session after a shutdown, with the artifacts visited in some order. -/
def shutDown (session : Session Factory Native) (visited : List (Identity × Artifact Native)) :
    Session Factory Native :=
  { session with cache := (session.cache.shutdownInOrder visited).1, held := [] }

/-- The message that callers still hold handles to an artifact, by one of these handles. -/
def leak (session : Session Factory Native) (handle : Handle Native) : Message :=
  .leaked handle.kind handle.identity
    ((session.held.map Handle.identity).count handle.identity)

/-- The count of every artifact is the number of its owners, and every artifact and every handle
answers a request. -/
structure Accounted (session : Session Factory Native) : Prop extends session.Orderly where
  requested : ∀ handle ∈ session.held, ∃ request ∈ session.asked,
    request.identity = handle.identity ∧ request.kind = handle.kind

theorem Accounted.kind_eq {session : Session Factory Native} (accounted : session.Accounted)
    (distinct : Request.Distinct session.asked) {handle : Handle Native}
    (held : handle ∈ session.held) {artifact : Artifact Native}
    (found : session.cache.artifacts.find? handle.identity = some artifact) :
    handle.kind = artifact.kind := by
  obtain ⟨first, first_asked, first_same, first_kind⟩ := accounted.requested handle held
  obtain ⟨second, second_asked, second_same, second_kind⟩ :=
    (accounted.attributed _ _ found).request
  have same := distinct first first_asked second second_asked (first_same.trans second_same.symm)
  rw [← first_kind, ← second_kind, same]

theorem Accounted.shutDown {session : Session Factory Native}
    {visited : List (Identity × Artifact Native)}
    (order : visited.Perm session.cache.artifacts.entries) :
    (session.shutDown visited).Accounted := by
  have nothing_left : (session.shutDown visited).cache.artifacts = Table.empty := by
    rw [Session.shutDown, Cache.shutdownInOrder_eq order]
  refine ⟨⟨Cache.balanced_empty.congr nothing_left, ?_⟩, nofun⟩
  intro identity artifact found
  rw [nothing_left] at found
  contradiction

variable [DecidableEq Native]

/-- What callers can get a cache to if they give back only what they hold. At a shutdown the
artifacts may be visited in any order. -/
inductive Reachable (workshop : Workshop Factory Native) : Session Factory Native → Prop where
  | start : Reachable workshop (Session.start workshop)
  | perform {session : Session Factory Native} {action : Action Factory Native}
      (reachable : Reachable workshop session) (permitted : session.Permits action) :
      Reachable workshop (session.perform action).1
  | shutDown {session : Session Factory Native} {visited : List (Identity × Artifact Native)}
      (reachable : Reachable workshop session)
      (order : visited.Perm session.cache.artifacts.entries) :
      Reachable workshop (session.shutDown visited)

theorem Reachable.run {workshop : Workshop Factory Native} {session : Session Factory Native}
    (reachable : Reachable workshop session) {actions : List (Action Factory Native)}
    (disciplined : session.Disciplined actions) : Reachable workshop (session.run actions) := by
  induction actions generalizing session with
  | nil => exact reachable
  | cons action rest induction =>
      exact induction (reachable.perform disciplined.1) disciplined.2

theorem Accounted.perform {session : Session Factory Native} {action : Action Factory Native}
    (accounted : session.Accounted) (permitted : session.Permits action)
    (separate : Request.Separate (session.perform action).1.asked) :
    (session.perform action).1.Accounted := by
  have orderly := orderly_perform accounted.toOrderly permitted separate
  refine ⟨orderly, fun handle held => ?_⟩
  have earlier (before : handle ∈ session.held) :
      ∃ request ∈ (session.perform action).1.asked,
        request.identity = handle.identity ∧ request.kind = handle.kind := by
    obtain ⟨request, asked, answers⟩ := accounted.requested handle before
    exact ⟨request, asked_subset_perform session action asked, answers⟩
  cases action with
  | resolve request =>
      rcases List.mem_append.mp held with new | before
      · have answered : session.cache.resolve session.workshop request =
            ((session.cache.resolve session.workshop request).1, .ok handle) :=
          Prod.ext rfl (eq_ok_of_toOption (Option.mem_toList.mp new))
        obtain ⟨artifact, found, rfl⟩ := Cache.stored_of_resolve answered
        exact (orderly.attributed _ _ found).request
      · exact earlier before
  | release other => exact earlier (List.mem_of_mem_erase held)
  | shutdown => contradiction
  | register entry =>
      simp only [Session.perform, held_extendLibrary] at held
      exact earlier held
  | load manifest =>
      simp only [Session.perform, held_extendLibrary] at held
      exact earlier held

theorem Reachable.accounted {workshop : Workshop Factory Native} {session : Session Factory Native}
    (reachable : Reachable workshop session) (separate : Request.Separate session.asked) :
    session.Accounted := by
  induction reachable with
  | start => exact ⟨orderly_start workshop, nofun⟩
  | @perform session action _ permitted induction =>
      have before := separate.of_subset (asked_subset_perform session action)
      exact (induction before).perform permitted separate
  | shutDown _ order => exact .shutDown order

theorem Reachable.grows {workshop : Workshop Factory Native} {session : Session Factory Native}
    (reachable : Reachable workshop session) : workshop.Grows session.workshop := by
  induction reachable with
  | start => exact .refl workshop
  | perform _ _ induction => exact induction.trans (grows_perform _ _)
  | shutDown _ _ induction => exact induction

/-- Whatever callers do, and in whatever order artifacts are visited, the cache goes through steps.
They are careful if identities tell requests apart. -/
theorem Reachable.steps {workshop : Workshop Factory Native} {session : Session Factory Native}
    {careful : Prop} (reachable : Reachable workshop session)
    (separate : careful → Request.Separate session.asked) :
    Cache.Steps session.workshop session.asked careful Cache.empty session.cache := by
  induction reachable with
  | start => exact .refl
  | @perform session action earlier permitted induction =>
      have subset := asked_subset_perform session action
      have before (cared : careful) := (separate cared).of_subset subset
      have grows := session.grows_perform action
      have step : Cache.Steps session.workshop (session.perform action).1.asked careful
          session.cache (session.perform action).1.cache :=
        steps_perform (fun cared => (earlier.accounted (before cared)).toOrderly)
          (fun _ => permitted) before
      exact ((induction before).mono grows subset).trans (step.mono grows (List.Subset.refl _))
  | shutDown earlier order induction =>
      refine (induction separate).trans (Cache.steps_shutdownInOrder order ?_ separate)
      exact fun cared => (earlier.accounted (separate cared)).attributed

/-- Whatever callers did before, as long as they gave back only what they held, and whatever order
the artifacts are visited in: a shutdown destroys all of them and says how many they were. Each is
deleted once by the call for its kind, programs before objects. There is one message for every
artifact that callers still hold handles to, with the number of these handles, and no other. -/
theorem shutdownInOrder_reports {workshop : Workshop Factory Native}
    {session : Session Factory Native} (reachable : Reachable workshop session)
    (distinct : Request.Distinct session.asked) {visited : List (Identity × Artifact Native)}
    (order : visited.Perm session.cache.artifacts.entries) :
    let outcome := session.cache.shutdownInOrder visited
    (visited = session.cache.artifacts.entries → outcome = session.cache.shutdown) ∧
      outcome.2 = session.cache.artifacts.size ∧ outcome.1.artifacts = Table.empty ∧
      (∃ programs objects : List Native, programs.Perm session.cache.nativePrograms ∧
        objects.Perm session.cache.nativeObjects ∧
        outcome.1.calls =
          session.cache.calls ++ (programs.map .deleteProgram ++ objects.map .deleteObject)) ∧
      ∃ warnings, outcome.1.messages = session.cache.messages ++ warnings ∧ warnings.Nodup ∧
        ∀ message, message ∈ warnings ↔ ∃ handle ∈ session.held, message = session.leak handle := by
  intro outcome
  have accounted := reachable.accounted distinct.separate
  have perm := (Cache.programsFirst_perm visited).trans order
  have outcome_eq : outcome = _ := Cache.shutdownInOrder_eq order
  obtain ⟨programs, objects, programs_perm, objects_perm, deletions⟩ :=
    Cache.deletions_programsFirst order
  refine ⟨?_, ?_, ?_, ⟨programs, objects, programs_perm, objects_perm, ?_⟩,
    (Cache.programsFirst visited).filterMap session.cache.leak?, ?_, Cache.nodup_leaks perm, ?_⟩
  · rintro rfl
    exact session.cache.shutdownInOrder_entries
  · rw [outcome_eq]
  · rw [outcome_eq]
  · rw [outcome_eq, ← deletions]
  · rw [outcome_eq]
  · intro message
    rw [Cache.mem_leaks_iff perm accounted.balanced]
    constructor
    · rintro ⟨identity, artifact, found, owned, rfl⟩
      obtain ⟨handle, held, rfl⟩ := List.mem_map.mp owned
      exact ⟨handle, held, by rw [leak, accounted.kind_eq distinct held found]⟩
    · rintro ⟨handle, held, rfl⟩
      have owned : handle.identity ∈ session.held.map Handle.identity :=
        List.mem_map_of_mem held
      obtain ⟨artifact, found⟩ := accounted.balanced.exists_artifact owned
      exact ⟨handle.identity, artifact, found, owned,
        by rw [leak, accounted.kind_eq distinct held found]⟩

/-- A program and one of its objects are still held, the object twice over, and the other one only
by the program. Before, a handle was left behind at another shutdown. -/
theorem shutdownInOrder_reports_lamps :
    let scene : Action Unit Nat := .resolve (Sample.program Sample.scene)
    let lamp : Action Unit Nat := .resolve (Sample.object .vertex Sample.lamp)
    let first := (start Sample.workshop).run [lamp]
    let second := first.shutDown first.cache.artifacts.entries.reverse
    let session := second.run [lamp, scene, lamp]
    let visited := session.cache.artifacts.entries.reverse
    let outcome := session.cache.shutdownInOrder visited
    Reachable Sample.workshop session ∧ Request.Distinct session.asked ∧
      outcome.2 = 3 ∧
      .leaked (.object .vertex) (Sample.object .vertex Sample.lamp).identity 2 ∈
        outcome.1.messages := by
  intro scene lamp first second session visited outcome
  have first_reachable : Reachable Sample.workshop first :=
    Reachable.start.run ⟨trivial, trivial⟩
  have second_reachable : Reachable Sample.workshop second :=
    first_reachable.shutDown (List.reverse_perm _)
  have reachable : Reachable Sample.workshop session :=
    second_reachable.run ⟨trivial, trivial, trivial, trivial⟩
  let handle : Handle Nat :=
    ⟨(Sample.object .vertex Sample.lamp).identity, .object .vertex, 4⟩
  obtain ⟨requested, three, held, twice⟩ :
      session.asked ⊆ Sample.requests ∧ session.cache.artifacts.size = 3 ∧
        handle ∈ session.held ∧
          (session.held.map Handle.identity).count handle.identity = 2 := by decide +kernel
  have distinct := Sample.distinct_requests.of_subset requested
  obtain ⟨-, count, -, -, warnings, messages, -, told⟩ :=
    shutdownInOrder_reports reachable distinct (List.reverse_perm session.cache.artifacts.entries)
  have warned : .leaked (.object .vertex) handle.identity 2 ∈ warnings :=
    (told _).mpr ⟨handle, held, by rw [leak, twice]⟩
  refine ⟨reachable, distinct, count.trans three, ?_⟩
  change _ ∈ (session.cache.shutdownInOrder _).1.messages
  rw [messages]
  exact List.mem_append_right _ warned

end Session

end GlslBuild
