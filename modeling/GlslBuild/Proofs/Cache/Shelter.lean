import GlslBuild.Proofs.Cache.Shutdown

/-!
# Objects outlive their programs

While a program is not deleted, neither are the objects that it was linked from. A program holds
references to them, so that a release destroys it first, and a shutdown destroys all programs before
all objects, in whatever order it visits them.
-/

namespace GlslBuild

variable {Factory Native : Type}

namespace Trace

/-- A program was linked from objects and not deleted since. -/
inductive InForce (calls : List (Call Factory Native)) (objects : List Native)
    (program : Native) : Prop
  | intro {identifier : Text} {output : Output Native} {before after : List (Call Factory Native)}
      (calls_eq : calls = before ++ .link identifier objects output :: after)
      (answer : output.artifact = some program)
      (kept : .deleteProgram program ∉ after)

/-- No object is deleted between a link over it that succeeds and the deletion of the program. -/
def Sheltered (calls : List (Call Factory Native)) : Prop :=
  ∀ before object after, calls = before ++ .deleteObject object :: after →
    ∀ objects program, InForce before objects program → object ∉ objects

/-- A call stands at the end of a trace or before its last call. -/
theorem eq_append_cons_concat {calls before after : List (Call Factory Native)}
    {call last : Call Factory Native} (calls_eq : calls ++ [last] = before ++ call :: after) :
    (before = calls ∧ call = last) ∨ ∃ rest, after = rest ++ [last] ∧
      calls = before ++ call :: rest := by
  rcases List.eq_nil_or_concat after with rfl | ⟨rest, final, rfl⟩
  · obtain ⟨calls_same, last_same⟩ := List.append_inj' calls_eq rfl
    exact .inl ⟨calls_same.symm, (List.singleton_inj.mp last_same).symm⟩
  · rw [List.concat_eq_append, ← List.cons_append, ← List.append_assoc] at calls_eq
    obtain ⟨calls_same, last_same⟩ := List.append_inj' calls_eq rfl
    obtain rfl := List.singleton_inj.mp last_same
    exact .inr ⟨rest, List.concat_eq_append, calls_same⟩

theorem not_inForce_nil (objects : List Native) (program : Native) :
    ¬ InForce ([] : List (Call Factory Native)) objects program := by
  rintro ⟨calls_eq, -, -⟩
  simp at calls_eq

theorem sheltered_nil : Sheltered ([] : List (Call Factory Native)) := by
  intro before object after calls_eq
  simp at calls_eq

/-- A program in force was so before the last call, or was linked by it. -/
theorem InForce.of_concat {calls : List (Call Factory Native)} {last : Call Factory Native}
    {objects : List Native} {program : Native}
    (force : InForce (calls ++ [last]) objects program) :
    (InForce calls objects program ∧ last ≠ .deleteProgram program) ∨
      ∃ identifier output, last = .link identifier objects output ∧
        output.artifact = some program := by
  obtain ⟨calls_eq, answer, kept⟩ := force
  rcases eq_append_cons_concat calls_eq with ⟨-, rfl⟩ | ⟨rest, rfl, earlier_eq⟩
  · exact .inr ⟨_, _, rfl, answer⟩
  · rw [List.mem_append, List.mem_singleton, not_or] at kept
    exact .inl ⟨⟨earlier_eq, answer, kept.1⟩, Ne.symm kept.2⟩

/-- Only a link that succeeds brings a program into force. -/
theorem InForce.of_append {calls more : List (Call Factory Native)} {objects : List Native}
    {program : Native} (force : InForce (calls ++ more) objects program)
    (unlinked : ∀ call ∈ more, ∀ native, call.made? ≠ some (.program, native)) :
    InForce calls objects program := by
  induction more using List.reverseRecOn with
  | nil => rwa [List.append_nil] at force
  | append_singleton more last induction =>
      obtain ⟨earlier, final⟩ := List.forall_mem_append.mp unlinked
      rw [← List.append_assoc] at force
      rcases force.of_concat with ⟨before, -⟩ | ⟨identifier, output, rfl, answer⟩
      · exact induction before earlier
      · exact absurd (by simp [answer]) (final _ List.mem_cons_self program)

theorem Sheltered.concat {calls : List (Call Factory Native)} (sheltered : Sheltered calls)
    {last : Call Factory Native}
    (unused : ∀ object, last = .deleteObject object →
      ∀ objects program, InForce calls objects program → object ∉ objects) :
    Sheltered (calls ++ [last]) := by
  intro before object after calls_eq
  rcases eq_append_cons_concat calls_eq with ⟨rfl, deleted⟩ | ⟨rest, -, earlier_eq⟩
  · exact unused object deleted.symm
  · exact sheltered before object rest earlier_eq

theorem Sheltered.append_of_undeleted {calls more : List (Call Factory Native)}
    (sheltered : Sheltered calls) (undeleted : ∀ call ∈ more, call.deleted? = none) :
    Sheltered (calls ++ more) := by
  induction more using List.reverseRecOn with
  | nil => rwa [List.append_nil]
  | append_singleton more last induction =>
      obtain ⟨earlier, final⟩ := List.forall_mem_append.mp undeleted
      rw [← List.append_assoc]
      apply (induction earlier).concat
      rintro object rfl
      exact absurd (final _ List.mem_cons_self) (by simp [Call.deleted?])

end Trace

namespace Cache

/-- Programs in force are kept, together with the objects that they were linked from. -/
structure Protecting (cache : Cache Factory Native) : Prop where
  sheltered : Trace.Sheltered cache.calls
  kept {objects : List Native} {program : Native} :
    Trace.InForce cache.calls objects program →
      ∃ identity artifact, cache.artifacts.find? identity = some artifact ∧
        artifact.kind = .program ∧ artifact.native = program ∧
        ∀ object ∈ objects, ∃ member ∈ artifact.members, ∃ part,
          cache.artifacts.find? member = some part ∧ part.native = object

theorem protecting_empty : Protecting (empty : Cache Factory Native) :=
  ⟨Trace.sheltered_nil, fun force => absurd force (Trace.not_inForce_nil _ _)⟩

variable {cache next : Cache Factory Native}

/-- What keeps all artifacts, deletes nothing and links nothing is harmless. -/
theorem Protecting.extend (protecting : Protecting cache) {calls : List (Call Factory Native)}
    (keeps : ∀ {identity artifact}, cache.artifacts.find? identity = some artifact →
      ∃ count, next.artifacts.find? identity = some { artifact with references := count })
    (calls_eq : next.calls = cache.calls ++ calls)
    (undeleted : ∀ call ∈ calls, call.deleted? = none)
    (unlinked : ∀ call ∈ calls, ∀ native, call.made? ≠ some (.program, native)) :
    Protecting next := by
  refine ⟨?_, ?_⟩
  · rw [calls_eq]
    exact protecting.sheltered.append_of_undeleted undeleted
  · intro objects program force
    rw [calls_eq] at force
    obtain ⟨identity, artifact, found, kind_eq, native_eq, parts⟩ :=
      protecting.kept (force.of_append unlinked)
    obtain ⟨count, still⟩ := keeps found
    refine ⟨identity, _, still, kind_eq, native_eq, ?_⟩
    intro object listed
    obtain ⟨member, inside, part, part_found, part_eq⟩ := parts object listed
    obtain ⟨part_count, part_still⟩ := keeps part_found
    exact ⟨member, inside, _, part_still, part_eq⟩

theorem Protecting.recount (protecting : Protecting cache) {identity : Identity}
    {artifact : Artifact Native} {count : Nat}
    (found : cache.artifacts.find? identity = some artifact)
    (artifacts_eq : next.artifacts =
      cache.artifacts.insert identity { artifact with references := count })
    (calls_eq : next.calls = cache.calls) : Protecting next := by
  have calls_same : next.calls = cache.calls ++ [] := by rw [calls_eq, List.append_nil]
  exact protecting.extend (keeps_of_recount found artifacts_eq) calls_same (by simp) (by simp)

/-- A new program is linked from what is stored for its members. -/
theorem Protecting.link (protecting : Protecting cache) {identity : Identity} {identifier : Text}
    {members : List (Handle Native)} {output : Output Native} {native : Native}
    (absent : cache.artifacts.find? identity = none)
    (current : ∀ handle ∈ members, ∃ artifact,
      cache.artifacts.find? handle.identity = some artifact ∧ artifact.native = handle.native)
    (answer : output.artifact = some native)
    (artifacts_eq : next.artifacts = cache.artifacts.insert identity
      ⟨native, .program, 1, members.map Handle.identity⟩)
    (calls_eq : next.calls =
      cache.calls ++ [.link identifier (members.map Handle.native) output]) :
    Protecting next := by
  have still {other : Identity} {artifact : Artifact Native}
      (found : cache.artifacts.find? other = some artifact) :
      next.artifacts.find? other = some artifact := by
    rw [artifacts_eq]
    exact Table.find?_insert_of_absent absent found
  refine ⟨?_, ?_⟩
  · rw [calls_eq]
    exact protecting.sheltered.append_of_undeleted (by simp)
  · intro objects program force
    rw [calls_eq] at force
    rcases force.of_concat with ⟨before, -⟩ | ⟨_, _, linked, linked_answer⟩
    · obtain ⟨holder, artifact, found, kind_eq, native_eq, parts⟩ := protecting.kept before
      refine ⟨holder, artifact, still found, kind_eq, native_eq, ?_⟩
      intro object listed
      obtain ⟨member, inside, part, part_found, part_eq⟩ := parts object listed
      exact ⟨member, inside, part, still part_found, part_eq⟩
    · obtain ⟨-, rfl, rfl⟩ := Call.link.inj linked
      obtain rfl := Option.some.inj (answer.symm.trans linked_answer)
      refine ⟨identity, _, by rw [artifacts_eq, Table.find?_insert, if_pos rfl], rfl, rfl, ?_⟩
      intro object listed
      obtain ⟨handle, inside, rfl⟩ := List.mem_map.mp listed
      obtain ⟨part, part_found, part_eq⟩ := current handle inside
      exact ⟨handle.identity, List.mem_map_of_mem inside, part, still part_found, part_eq⟩

variable [DecidableEq Native]

/-- What is destroyed while no program holds it is no object of a program in force. -/
theorem Protecting.destroy (protecting : Protecting cache) (custodial : Custodial cache)
    {identity : Identity} {artifact : Artifact Native}
    (found : cache.artifacts.find? identity = some artifact)
    (free : cache.programReferences identity = 0)
    (artifacts_eq : next.artifacts = cache.artifacts.erase identity)
    (calls_eq : next.calls = cache.calls ++ [.delete artifact.kind artifact.native]) :
    Protecting next := by
  have unheld {holder : Identity} {program : Artifact Native}
      (stored : cache.artifacts.find? holder = some program) : identity ∉ program.members := by
    intro held
    rw [programReferences, List.count_eq_zero, List.mem_flatMap] at free
    exact free ⟨(holder, program), (Table.mem_entries_iff ..).mpr stored, held⟩
  have still {other : Identity} {stored : Artifact Native}
      (other_found : cache.artifacts.find? other = some stored) (different : other ≠ identity) :
      next.artifacts.find? other = some stored := by
    rw [artifacts_eq, Table.find?_erase, if_neg different, other_found]
  refine ⟨?_, ?_⟩
  · rw [calls_eq]
    apply protecting.sheltered.concat
    intro object deleted objects program force listed
    -- The program in force has a member under the identity that is destroyed.
    obtain ⟨holder, stored, stored_found, -, -, parts⟩ := protecting.kept force
    obtain ⟨member, inside, part, part_found, part_eq⟩ := parts object listed
    have native_eq : artifact.native = object := by
      have deletes := congrArg Call.deleted? deleted
      rw [Call.deleted?_delete] at deletes
      exact Option.some.inj deletes
    obtain rfl := custodial.identity_unique part_found found (part_eq.trans native_eq.symm)
    exact unheld stored_found inside
  · intro objects program force
    rw [calls_eq] at force
    rcases force.of_concat with ⟨before, undeleted⟩ | ⟨_, _, linked, -⟩
    · obtain ⟨holder, stored, stored_found, kind_eq, native_eq, parts⟩ := protecting.kept before
      have different : holder ≠ identity := by
        rintro rfl
        obtain rfl := Option.some.inj (found.symm.trans stored_found)
        rw [kind_eq, native_eq] at undeleted
        exact undeleted rfl
      refine ⟨holder, stored, still stored_found different, kind_eq, native_eq, ?_⟩
      intro object listed
      obtain ⟨member, inside, part, part_found, part_eq⟩ := parts object listed
      refine ⟨member, inside, part, still part_found ?_, part_eq⟩
      rintro rfl
      exact unheld stored_found inside
    · have deletes := congrArg Call.deleted? linked
      simp at deletes

/-- A careful step never destroys an object before the programs that were linked from it. -/
theorem Step.protecting {workshop : Workshop Factory Native} {asked : List Request}
    (step : Step workshop asked True cache next) (separate : Request.Separate asked)
    (custodial : Custodial cache) (protecting : Protecting cache) : Protecting next := by
  cases step with
  | idle idle =>
      obtain ⟨calls, calls_eq, all_idle⟩ := idle.calls_eq
      refine protecting.extend ?_ calls_eq (fun call member => (all_idle call member).2) ?_
      · intro identity artifact found
        exact ⟨artifact.references, by rw [idle.artifacts_eq, found]⟩
      · intro call member native
        simp [(all_idle call member).1]
  | recount found positive artifacts_eq calls_eq =>
      exact protecting.recount found artifacts_eq calls_eq
  | take request obtained =>
      have keeps := @obtained.keeps
      cases obtained with
      | hit found artifacts_eq calls_eq => exact protecting.recount found artifacts_eq calls_eq
      | compiled absent provided assembled answer artifacts_eq calls_eq =>
          exact protecting.extend keeps calls_eq (by simp) (by simp)
  | link request registered objects current absent output_eq answer artifacts_eq calls_eq =>
      exact protecting.link (absent separate) (exists_stored_of_current current) answer
        artifacts_eq calls_eq
  | destroy found free artifacts_eq calls_eq =>
      exact protecting.destroy custodial found (free trivial) artifacts_eq calls_eq

/-! ## Shutdowns in any order, seen through a function on artifacts -/

section

variable {Inner Outer : Type} (view : Inner → Outer)

theorem programsFirst_map (visited : List (Identity × Artifact Inner)) :
    programsFirst (visited.map fun entry => (entry.1, entry.2.map view)) =
      (programsFirst visited).map fun entry => (entry.1, entry.2.map view) := by
  simp [programsFirst_eq, List.filter_map, Function.comp_def, Artifact.map]

theorem shutdownInOrder_map {cache : Cache Factory Inner}
    {visited : List (Identity × Artifact Inner)}
    (order : visited.Perm cache.artifacts.entries) :
    (cache.map view).shutdownInOrder (visited.map fun entry => (entry.1, entry.2.map view)) =
      Prod.map (map view) id (cache.shutdownInOrder visited) := by
  have outer_order : (visited.map fun entry => (entry.1, entry.2.map view)).Perm
      (cache.map view).artifacts.entries := order.map _
  rw [shutdownInOrder_eq order, shutdownInOrder_eq outer_order, programsFirst_map]
  simp only [List.map_map, List.filterMap_map, Function.comp_def, leak?_map]
  simp [map, Artifact.map, Table.size]

end

end Cache

namespace Session

/-- Whatever the order in which artifacts are visited in the outer session, the artifacts of the
inner one can be visited in the same. -/
theorem Seen.shutDown {Inner Outer : Type} {view : Inner → Outer}
    {inner : Session Factory Inner} {outer : Session Factory Outer} (seen : Seen view inner outer)
    {visited : List (Identity × Artifact Outer)}
    (order : visited.Perm outer.cache.artifacts.entries) :
    ∃ lifted : List (Identity × Artifact Inner), lifted.Perm inner.cache.artifacts.entries ∧
      Seen view (inner.shutDown lifted) (outer.shutDown visited) := by
  rw [seen.cache_eq] at order
  have lifts := congrFun₂ (List.eq_map_comp_perm fun entry : Identity × Artifact Inner =>
    (entry.1, entry.2.map view)) visited inner.cache.artifacts.entries
  obtain ⟨lifted, rfl, lifted_order⟩ := lifts.mpr order
  refine ⟨lifted, lifted_order, seen.workshop, ?_, .refl _, seen.asked_eq⟩
  have emptied := Cache.shutdownInOrder_map view lifted_order
  rw [← seen.cache_eq] at emptied
  exact congrArg Prod.fst emptied

variable [DecidableEq Native]

/-- Every session that callers got to can be followed with numbers. -/
theorem Reachable.exists_numbered {workshop : Workshop Factory Native}
    {session : Session Factory Native} (reachable : Reachable workshop session) :
    ∃ numbered, Reachable workshop.numbered numbered ∧ Seen Prod.snd numbered session := by
  induction reachable with
  | start => exact ⟨_, .start, seen_start workshop.seen_numbered⟩
  | perform _ permitted induction =>
      obtain ⟨numbered, followed, seen⟩ := induction
      obtain ⟨lifted, -, after, -, permits⟩ := seen.perform Prod.snd_surjective _
      exact ⟨_, followed.perform (permits permitted), after⟩
  | shutDown _ order induction =>
      obtain ⟨numbered, followed, seen⟩ := induction
      obtain ⟨lifted, lifted_order, after⟩ := seen.shutDown order
      exact ⟨_, followed.shutDown lifted_order, after⟩

/-- What is made carries the number of its call, whatever order artifacts are visited in. -/
theorem Reachable.numbered {workshop : Workshop Factory Native}
    {session : Session Factory (ℕ × Native)} (reachable : Reachable workshop.numbered session) :
    Trace.Numbered session.cache.calls := by
  have steps : Cache.Steps session.workshop session.asked False Cache.empty session.cache :=
    reachable.steps False.elim
  exact Cache.numbered_of_steps reachable.grows.toolchain_eq steps Trace.numbered_nil

theorem Reachable.sheltered_of_fresh {workshop : Workshop Factory Native}
    {session : Session Factory Native} (reachable : Reachable workshop session)
    (distinct : Request.Distinct session.asked) (fresh : Trace.Fresh session.cache.calls) :
    Trace.Sheltered session.cache.calls := by
  have separate := distinct.separate
  have steps : Cache.Steps session.workshop session.asked True Cache.empty session.cache :=
    reachable.steps fun _ => separate
  have protecting : Cache.Protecting session.cache :=
    Cache.holds_of_steps Cache.Protecting
      (fun custodial step protecting => step.protecting separate custodial protecting) steps
      separate Cache.custodial_empty fresh Cache.protecting_empty
  exact protecting.sheltered

/-- Callers got to a session by giving back only what they hold, with the artifacts visited in any
order at each shutdown, and go on in the same way. Then no object is deleted between a link over it
and the deletion of the program that was linked, whatever is released or shut down. If the native
compiler returns the same artifact more than once, the numbers tell which one a call means: there is
a numbered session, and every one can go on as the session does and deletes no object too early. If
the compiler never returns what is alive, no numbers are needed. -/
theorem sheltered_run {workshop : Workshop Factory Native} {session : Session Factory Native}
    (reachable : Reachable workshop session) (actions : List (Action Factory Native))
    (disciplined : session.Disciplined actions)
    (distinct : Request.Distinct (session.run actions).asked) :
    let later := session.run actions
    (∃ numbered, Reachable workshop.numbered numbered ∧ Numbers numbered session) ∧
      (∀ numbered, Reachable workshop.numbered numbered → Numbers numbered session →
        ∃ lifted, lifted.map (Action.map Prod.snd) = actions ∧
          Numbers (numbered.run lifted) later ∧
          Trace.Sheltered (numbered.run lifted).cache.calls) ∧
      (Trace.Fresh later.cache.calls → Trace.Sheltered later.cache.calls) := by
  intro later
  refine ⟨?_, ?_, (reachable.run disciplined).sheltered_of_fresh distinct⟩
  · obtain ⟨numbered, followed, seen⟩ := reachable.exists_numbered
    exact ⟨numbered, followed, seen, followed.numbered⟩
  · intro numbered followed numbers
    obtain ⟨lifted, actions_eq, seen, permitted⟩ := numbers.seen.run Prod.snd_surjective actions
    have continued := followed.run (permitted disciplined)
    have lifted_distinct : Request.Distinct (numbered.run lifted).asked := seen.asked_eq ▸ distinct
    exact ⟨lifted, actions_eq, ⟨seen, continued.numbered⟩,
      continued.sheltered_of_fresh lifted_distinct continued.numbered.fresh⟩

/-- After a shutdown that visits the artifacts backwards, a program is made again and released while
one of its objects is held, and the rest is shut down. -/
theorem sheltered_run_cascade :
    let first := (start Sample.workshop).run [.resolve (Sample.program Sample.scene)]
    let session := first.shutDown first.cache.artifacts.entries.reverse
    let scene : Handle Nat := ⟨(Sample.program Sample.scene).identity, .program, 12⟩
    let made : List (Action Unit Nat) :=
      [.resolve (Sample.program Sample.scene), .resolve (Sample.object .vertex Sample.lamp)]
    let actions := made ++ [.release scene, .shutdown]
    let later := session.run actions
    Reachable Sample.workshop session ∧ session.Disciplined actions ∧
      Request.Distinct later.asked ∧ Trace.Fresh later.cache.calls ∧
      Trace.Sheltered later.cache.calls := by
  intro first session scene made actions later
  have first_reachable : Reachable Sample.workshop first := Reachable.start.run ⟨trivial, trivial⟩
  have reachable : Reachable Sample.workshop session :=
    first_reachable.shutDown (List.reverse_perm _)
  obtain ⟨disciplined, requested, made_fresh⟩ : session.Disciplined actions ∧
      later.asked ⊆ Sample.requests ∧ Trace.Fresh (session.run made).cache.calls := by
    decide +kernel
  have distinct := Sample.distinct_requests.of_subset requested
  have moves (earlier : Session Unit Nat) :
      Cache.Moves [] earlier.cache (earlier.run [.release scene, .shutdown]).cache :=
    (Cache.moves_release _ scene.identity).trans (Cache.moves_shutdown _)
  have fresh : Trace.Fresh later.cache.calls := by
    rw [show later = (session.run made).run [.release scene, .shutdown] from List.foldl_append]
    exact Cache.fresh_of_moves (moves _) made_fresh
  obtain ⟨-, -, sheltered⟩ := sheltered_run reachable actions disciplined distinct
  exact ⟨reachable, disciplined, distinct, fresh, sheltered fresh⟩

end Session

end GlslBuild
