import GlslBuild.Proofs.Cache.Numbering

/-!
# Provenance of handles

A cache never looks at a source again once it has compiled it: on a hit it trusts the identity. What
makes this right is an invariant: every artifact that is kept was made for the request with its
identity, from what is still registered, and was not deleted since.
-/

namespace GlslBuild

variable {Factory Native : Type}

/-- An artifact that was compiled for an object, from a source of the factory that is registered for
it, and that was not deleted since. -/
inductive Compiled (workshop : Workshop Factory Native) (calls : List (Call Factory Native))
    (component : Component) (options : Options) (native : Native) : Prop
  | intro {factory : Factory} {source : Source} {unit : CompilationUnit} {output : Output Native}
      {before after : List (Call Factory Native)}
      (provided : workshop.library.lookup component.identifier component.stage = .ok factory)
      (source_eq : source = workshop.toolchain.source before factory)
      (assembled : (Assembly.assemble workshop.config component.identifier component.stage source
        options).result = .ok unit)
      (output_eq : output = workshop.toolchain.compile (before ++ [.source factory source])
        component.stage unit)
      (answer : output.artifact = some native)
      (calls_eq : calls =
        before ++ .source factory source :: .compile component.stage unit output :: after)
      (spared : ∀ call ∈ after, call.deleted? ≠ some native)

/-- An artifact that was linked for a program, from artifacts that were compiled for the objects of
its registered list and not deleted before, and that was not deleted since. -/
inductive Linked (workshop : Workshop Factory Native) (calls : List (Call Factory Native))
    (identifier : Text) (options : Options) (native : Native) : Prop
  | intro {program : Program} {objects : List Native} {output : Output Native}
      {before after : List (Call Factory Native)}
      (registered : workshop.library.program identifier = .ok program)
      (compiled : List.Forall₂ (fun component object =>
        Compiled workshop before component options object) program.components objects)
      (output_eq : output = workshop.toolchain.link before identifier objects)
      (answer : output.artifact = some native)
      (calls_eq : calls = before ++ .link identifier objects output :: after)
      (spared : ∀ call ∈ after, call.deleted? ≠ some native)

/-- An artifact that answers a request. -/
def Sound (workshop : Workshop Factory Native) (calls : List (Call Factory Native))
    (request : Request) (native : Native) : Prop :=
  match request with
  | .object component options => Compiled workshop calls component options native
  | .program identifier options => Linked workshop calls identifier options native

/-- An artifact still answers its request after calls that do not delete it. -/
theorem Sound.append {workshop : Workshop Factory Native} {calls more : List (Call Factory Native)}
    {request : Request} {native : Native} (sound : Sound workshop calls request native)
    (kept : ∀ call ∈ more, call.deleted? ≠ some native) :
    Sound workshop (calls ++ more) request native := by
  cases request with
  | object component options =>
      obtain ⟨provided, source_eq, assembled, output_eq, answer, calls_eq, spared⟩ := sound
      refine ⟨provided, source_eq, assembled, output_eq, answer, ?_,
        List.forall_mem_append.mpr ⟨spared, kept⟩⟩
      rw [calls_eq, List.append_assoc, List.cons_append, List.cons_append]
  | program identifier options =>
      obtain ⟨registered, compiled, output_eq, answer, calls_eq, spared⟩ := sound
      refine ⟨registered, compiled, output_eq, answer, ?_,
        List.forall_mem_append.mpr ⟨spared, kept⟩⟩
      rw [calls_eq, List.append_assoc, List.cons_append]

namespace Cache

/-- Every artifact that is kept answers the request that it is kept for. -/
def Sourced (workshop : Workshop Factory Native) (asked : List Request)
    (cache : Cache Factory Native) : Prop :=
  ∀ identity artifact, cache.artifacts.find? identity = some artifact →
    ∃ request ∈ asked, request.identity = identity ∧ request.kind = artifact.kind ∧
      Sound workshop cache.calls request artifact.native

variable {workshop : Workshop Factory Native} {asked : List Request} {careful : Prop}
  {cache next : Cache Factory Native}

theorem sourced_empty : Sourced workshop asked (empty : Cache Factory Native) := by
  intro identity artifact found
  exact absurd found (by simp [empty])

/-- Different requests have different identities, so it is known which request an artifact is kept
for. -/
theorem Sourced.sound (sourced : Sourced workshop asked cache)
    (distinct : Request.Distinct asked) {request : Request} (requested : request ∈ asked)
    {artifact : Artifact Native}
    (found : cache.artifacts.find? request.identity = some artifact) :
    request.kind = artifact.kind ∧ Sound workshop cache.calls request artifact.native := by
  obtain ⟨other, other_asked, same, sound⟩ := sourced request.identity artifact found
  obtain rfl := distinct other other_asked request requested same
  exact sound

theorem Sourced.append (sourced : Sourced workshop asked cache)
    {calls : List (Call Factory Native)} (artifacts_eq : next.artifacts = cache.artifacts)
    (calls_eq : next.calls = cache.calls ++ calls)
    (undeleted : ∀ call ∈ calls, call.deleted? = none) : Sourced workshop asked next := by
  intro identity artifact found
  rw [artifacts_eq] at found
  obtain ⟨request, requested, same, kind_eq, sound⟩ := sourced identity artifact found
  refine ⟨request, requested, same, kind_eq, ?_⟩
  rw [calls_eq]
  apply sound.append
  intro call member
  simp [undeleted call member]

/-- What is stored anew has to answer a request. -/
theorem Sourced.insert (sourced : Sourced workshop asked cache) {identity : Identity}
    {artifact : Artifact Native} {calls : List (Call Factory Native)}
    (artifacts_eq : next.artifacts = cache.artifacts.insert identity artifact)
    (calls_eq : next.calls = cache.calls ++ calls)
    (undeleted : ∀ call ∈ calls, call.deleted? = none)
    (answers : ∃ request ∈ asked, request.identity = identity ∧ request.kind = artifact.kind ∧
      Sound workshop next.calls request artifact.native) : Sourced workshop asked next := by
  have before : Sourced workshop asked { next with artifacts := cache.artifacts } :=
    sourced.append rfl calls_eq undeleted
  intro query stored found
  rw [artifacts_eq, Table.find?_insert] at found
  split at found
  · next same =>
      obtain rfl := Option.some.inj found
      exact same ▸ answers
  · exact before query stored found

theorem Sourced.recount (sourced : Sourced workshop asked cache) {identity : Identity}
    {artifact : Artifact Native} {count : Nat}
    (found : cache.artifacts.find? identity = some artifact)
    (artifacts_eq : next.artifacts =
      cache.artifacts.insert identity { artifact with references := count })
    (calls_eq : next.calls = cache.calls) : Sourced workshop asked next := by
  refine sourced.insert artifacts_eq (by rw [calls_eq, List.append_nil]) (by simp) ?_
  rw [calls_eq]
  exact sourced identity artifact found

theorem Sourced.take (sourced : Sourced workshop asked cache) {component : Component}
    {options : Options} {handle : Handle Native}
    (request : .object component options ∈ asked)
    (obtained : Obtained workshop cache next component options
      (Request.object component options).identity handle) : Sourced workshop asked next := by
  cases obtained with
  | hit found artifacts_eq calls_eq => exact sourced.recount found artifacts_eq calls_eq
  | compiled absent provided assembled answer artifacts_eq calls_eq source_eq output_eq =>
      refine sourced.insert artifacts_eq calls_eq (by simp) ⟨_, request, rfl, rfl, ?_⟩
      exact ⟨provided, source_eq, assembled, output_eq, answer, calls_eq, by simp⟩

theorem compiled_of_current (sourced : Sourced workshop asked cache)
    (distinct : Request.Distinct asked) {options : Options} {components : List Component}
    {members : List (Handle Native)}
    (requests : ∀ component ∈ components, .object component options ∈ asked)
    (current : List.Forall₂ (Current cache options) components members) :
    List.Forall₂ (fun component object => Compiled workshop cache.calls component options object)
      components (members.map Handle.native) := by
  induction current with
  | nil => exact .nil
  | @cons component handle _ _ first _ induction =>
      obtain ⟨own, others⟩ := List.forall_mem_cons.mp requests
      refine .cons ?_ (induction others)
      obtain ⟨artifact, found, native_eq⟩ := first.stored
      rw [first.identity_eq] at found
      exact native_eq ▸ (sourced.sound distinct own found).2

variable [DecidableEq Native]

/-- What is destroyed is no other artifact that is kept. -/
theorem Sourced.destroy (sourced : Sourced workshop asked cache) (custodial : Custodial cache)
    {identity : Identity} {artifact : Artifact Native}
    (found : cache.artifacts.find? identity = some artifact)
    (artifacts_eq : next.artifacts = cache.artifacts.erase identity)
    (calls_eq : next.calls = cache.calls ++ [.delete artifact.kind artifact.native]) :
    Sourced workshop asked next := by
  intro query stored bound
  rw [artifacts_eq, Table.find?_erase] at bound
  split at bound
  · contradiction
  · next different =>
      obtain ⟨request, requested, same, kind_eq, sound⟩ := sourced query stored bound
      refine ⟨request, requested, same, kind_eq, ?_⟩
      rw [calls_eq]
      apply sound.append
      intro call member
      rw [List.mem_singleton.mp member, Call.deleted?_delete, ne_eq, Option.some.injEq]
      intro native_eq
      exact different (custodial.identity_unique bound found native_eq.symm)

theorem Step.sourced (step : Step workshop asked careful cache next)
    (distinct : Request.Distinct asked) (custodial : Custodial cache)
    (sourced : Sourced workshop asked cache) : Sourced workshop asked next := by
  cases step with
  | idle idle =>
      obtain ⟨calls, calls_eq, all_idle⟩ := idle.calls_eq
      exact sourced.append idle.artifacts_eq calls_eq fun call member => (all_idle call member).2
  | recount found positive artifacts_eq calls_eq =>
      exact sourced.recount found artifacts_eq calls_eq
  | take request obtained => exact sourced.take request obtained
  | link request registered objects current absent output_eq answer artifacts_eq calls_eq =>
      have compiled := compiled_of_current sourced distinct objects current
      refine sourced.insert artifacts_eq calls_eq (by simp) ⟨_, request, rfl, rfl, ?_⟩
      exact ⟨registered, compiled, output_eq, answer, calls_eq, by simp⟩
  | destroy found free artifacts_eq calls_eq =>
      exact sourced.destroy custodial found artifacts_eq calls_eq

theorem sourced_of_steps (steps : Steps workshop asked careful cache next)
    (distinct : Request.Distinct asked) (custodial : Custodial cache)
    (sourced : Sourced workshop asked cache) (fresh : Trace.Fresh next.calls) :
    Sourced workshop asked next :=
  holds_of_steps (Sourced workshop asked)
    (fun custodial step sourced => step.sourced distinct custodial sourced) steps
    distinct.separate custodial fresh sourced

omit [DecidableEq Native] in
/-- The handle that answers a request is that of the artifact under its identity. -/
theorem stored_of_resolve {request : Request} {handle : Handle Native}
    (done : cache.resolve workshop request = (next, .ok handle)) :
    ∃ artifact, next.artifacts.find? request.identity = some artifact ∧
      artifact.handle request.identity = handle := by
  cases request with
  | object component options =>
      rcases requestObject_cases done with ⟨same, equal, obtained⟩ | ⟨⟨error, failed⟩, -⟩
      · obtain rfl := Except.ok.inj equal
        cases obtained with
        | @hit artifact found artifacts_eq calls_eq =>
            refine ⟨artifact.retain, ?_, rfl⟩
            rw [artifacts_eq]
            simp [Request.identity, Table.find?_insert]
        | @compiled factory source unit output native absent provided assembled answer
            artifacts_eq =>
            refine ⟨⟨native, .object component.stage, 1, []⟩, ?_, rfl⟩
            rw [artifacts_eq]
            simp [Request.identity, Table.find?_insert]
      · contradiction
  | program identifier options =>
      cases requestProgram_cases done with
      | @hit artifact found artifacts_eq calls_eq =>
          refine ⟨artifact.retain, ?_, rfl⟩
          rw [artifacts_eq]
          simp [Request.identity, Table.find?_insert]
      | @linked program base middle members output native absent registered idle obtained answer
          artifacts_eq =>
          refine ⟨⟨native, .program, 1, members.map Handle.identity⟩, ?_, rfl⟩
          rw [artifacts_eq]
          simp [Request.identity, Table.find?_insert]

end Cache

namespace Session

variable [DecidableEq Native]

theorem run_concat (session : Session Factory Native) (actions : List (Action Factory Native))
    (action : Action Factory Native) :
    session.run (actions ++ [action]) = ((session.run actions).perform action).1 := by
  simp [run]

/-- Whatever callers do, every artifact that is kept answers the request that it is kept for. -/
theorem sourced_run (workshop : Workshop Factory Native)
    (actions : List (Action Factory Native))
    (distinct : Request.Distinct ((start workshop).run actions).asked)
    (fresh : Trace.Fresh ((start workshop).run actions).cache.calls) :
    Cache.Sourced ((start workshop).run actions).workshop ((start workshop).run actions).asked
      ((start workshop).run actions).cache := by
  let session := (start workshop).run actions
  have steps : Cache.Steps session.workshop session.asked False Cache.empty session.cache :=
    steps_run False.elim False.elim False.elim
  exact Cache.sourced_of_steps steps distinct Cache.custodial_empty Cache.sourced_empty fresh

theorem sound_of_resolved {workshop : Workshop Factory Native}
    {actions : List (Action Factory Native)} {request : Request} {handle : Handle Native}
    {outcome : Session Factory Native × Reply Native}
    (outcome_eq : outcome = ((start workshop).run actions).perform (.resolve request))
    (distinct : Request.Distinct outcome.1.asked) (fresh : Trace.Fresh outcome.1.cache.calls)
    (answered : outcome.2 = .resolved (.ok handle)) :
    request.kind = handle.kind ∧
      Sound outcome.1.workshop outcome.1.cache.calls request handle.native := by
  have requested : request ∈ outcome.1.asked := by
    rw [outcome_eq]
    exact List.mem_append_right _ (Request.mem_closure _ request)
  have session_eq : outcome.1 = (start workshop).run (actions ++ [.resolve request]) := by
    rw [run_concat, outcome_eq]
  have sourced : Cache.Sourced outcome.1.workshop outcome.1.asked outcome.1.cache := by
    rw [session_eq] at distinct fresh ⊢
    exact sourced_run workshop _ distinct fresh
  have resolved : ((start workshop).run actions).cache.resolve
      ((start workshop).run actions).workshop request = (outcome.1.cache, .ok handle) := by
    subst outcome_eq
    exact Prod.ext rfl (Reply.resolved.inj answered)
  obtain ⟨artifact, found, rfl⟩ := Cache.stored_of_resolve resolved
  exact sourced.sound distinct requested found

/-- Whatever callers do, and however the library grows in between, a handle that answers a request
is of the right kind, and what it stands for was made for this very request and is not deleted. If
the native compiler returns the same artifact more than once, its number tells which one the handle
stands for; if it never returns what is alive, the artifact itself does. -/
theorem handle_sound (workshop : Workshop Factory Native)
    (actions : List (Action Factory Native)) (request : Request) (handle : Handle Native)
    (distinct : Request.Distinct
      (((start workshop).run actions).perform (.resolve request)).1.asked)
    (answered : (((start workshop).run actions).perform (.resolve request)).2 =
      .resolved (.ok handle)) :
    let session := (((start workshop).run actions).perform (.resolve request)).1
    handle.kind = request.kind ∧
      (∃ lifted number, lifted.map (Action.map Prod.snd) = actions ∧
        let numbered := ((start workshop.numbered).run lifted).perform (.resolve request)
        Numbers numbered.1 session ∧
          numbered.2 = .resolved (.ok ⟨handle.identity, handle.kind, (number, handle.native)⟩) ∧
          Sound numbered.1.workshop numbered.1.cache.calls request (number, handle.native)) ∧
      (Trace.Fresh session.cache.calls →
        Sound session.workshop session.cache.calls request handle.native) := by
  intro session
  obtain ⟨lifted, actions_eq, numbers⟩ := exists_numbers workshop actions
  obtain ⟨seen, reply_eq⟩ := numbers.seen.resolve request
  let numbered := ((start workshop.numbered).run lifted).perform (.resolve request)
  have calls_numbered : Trace.Numbered numbered.1.cache.calls := by
    have all := numbered_run workshop (lifted ++ [.resolve request])
    rwa [run_concat] at all
  obtain ⟨⟨identity, kind, number, native⟩, numbered_answer, rfl⟩ :=
    Reply.exists_of_map_eq_resolved (reply_eq.symm.trans answered)
  have numbered_distinct : Request.Distinct numbered.1.asked := seen.asked_eq ▸ distinct
  have sound := sound_of_resolved rfl numbered_distinct calls_numbered.fresh numbered_answer
  refine ⟨sound.1.symm, ⟨lifted, number, actions_eq, ⟨seen, calls_numbered⟩, numbered_answer,
    sound.2⟩, ?_⟩
  intro fresh
  exact (sound_of_resolved rfl distinct fresh answered).2

/-- A program is linked after an object of it was destroyed and the library has grown. -/
theorem handle_sound_scene :
    let scene : Handle Nat := ⟨(Sample.program Sample.scene).identity, .program, 7⟩
    let actions : List (Action Unit Nat) :=
      [.resolve (Sample.object .vertex Sample.lamp), .shutdown,
        .register (.object "torch".toList none ())]
    let outcome := ((start Sample.workshop).run actions).perform
      (.resolve (Sample.program Sample.scene))
    Request.Distinct outcome.1.asked ∧ outcome.2 = .resolved (.ok scene) ∧
      Trace.Fresh outcome.1.cache.calls ∧
      Sound outcome.1.workshop outcome.1.cache.calls (Sample.program Sample.scene) 7 := by
  intro scene actions outcome
  have requested : outcome.1.asked ⊆ Sample.requests := by decide +kernel
  have fresh : Trace.Fresh outcome.1.cache.calls := by decide +kernel
  have distinct := Sample.distinct_requests.of_subset requested
  let session := (start Sample.workshop).run actions
  let result := (session.cache.resolve session.workshop (Sample.program Sample.scene)).2
  have found : result.toOption = some scene := by decide +kernel
  have answered : outcome.2 = .resolved (.ok scene) := by
    cases result_eq : result with
    | error error =>
        rw [result_eq] at found
        contradiction
    | ok handle =>
        rw [result_eq] at found
        obtain rfl := Option.some.inj found
        exact congrArg Reply.resolved result_eq
  have sound := handle_sound Sample.workshop actions _ scene distinct answered
  exact ⟨distinct, answered, fresh, sound.2.2 fresh⟩

end Session

end GlslBuild
