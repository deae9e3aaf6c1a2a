import GlslBuild.Cache.Request
import GlslBuild.Proofs.Cache.Trace

/-!
# What the operations of a cache lead to

Each operation is described once by what it can do to the artifacts and to the calls. The messages
are left out. Everything else that is said about caches rests on these descriptions.
-/

namespace GlslBuild.Cache

variable {Factory Native : Type}

/-- Nothing is stored, made or deleted. -/
structure Idle (cache next : Cache Factory Native) : Prop where
  artifacts_eq : next.artifacts = cache.artifacts
  calls_eq : ∃ calls, next.calls = cache.calls ++ calls ∧ ∀ call ∈ calls, call.Idle

theorem Idle.refl (cache : Cache Factory Native) : Idle cache cache :=
  ⟨rfl, [], by simp, by simp⟩

theorem Idle.report (cache : Cache Factory Native) (messages : List Message) :
    Idle cache (cache.report messages) :=
  ⟨rfl, [], (List.append_nil _).symm, by simp⟩

theorem Idle.record {cache : Cache Factory Native} {call : Call Factory Native}
    (idle : call.Idle) : Idle cache (cache.record call) :=
  ⟨rfl, [call], rfl, by simpa using idle⟩

/-- One reference is given back: it was not the last one, or the artifact is destroyed and leaves
the members that it held. -/
inductive Dropped (cache next : Cache Factory Native) (identity : Identity) :
    Released → List Identity → Prop
  | retained {artifact : Artifact Native}
      (found : cache.artifacts.find? identity = some artifact)
      (left : 0 < artifact.references - 1)
      (artifacts_eq : next.artifacts = cache.artifacts.insert identity
        { artifact with references := artifact.references - 1 })
      (calls_eq : next.calls = cache.calls) :
      Dropped cache next identity (.retained (artifact.references - 1)) []
  | destroyed {artifact : Artifact Native}
      (found : cache.artifacts.find? identity = some artifact)
      (last : artifact.references - 1 = 0)
      (artifacts_eq : next.artifacts = cache.artifacts.erase identity)
      (calls_eq : next.calls = cache.calls ++ [.delete artifact.kind artifact.native]) :
      Dropped cache next identity .destroyed artifact.members

theorem dropped_of_dropReference {cache next : Cache Factory Native} {identity : Identity}
    {released : Released} {members : List Identity}
    (done : cache.dropReference identity = .ok (next, released, members)) :
    Dropped cache next identity released members := by
  rw [dropReference] at done
  split at done
  · simp at done
  · next artifact found =>
      dsimp only at done
      split at done
      · next left =>
          simp only [Except.ok.injEq, Prod.mk.injEq] at done
          obtain ⟨rfl, rfl, rfl⟩ := done
          exact .retained found left rfl rfl
      · next last =>
          simp only [Except.ok.injEq, Prod.mk.injEq] at done
          obtain ⟨rfl, rfl, rfl⟩ := done
          exact .destroyed found (by omega) rfl rfl

theorem exists_dropReference {cache : Cache Factory Native} {identity : Identity}
    {artifact : Artifact Native} (found : cache.artifacts.find? identity = some artifact) :
    ∃ next released members,
      cache.dropReference identity = .ok (next, released, members) ∧
        Dropped cache next identity released members := by
  cases done : cache.dropReference identity with
  | error error =>
      simp only [dropReference, found] at done
      split at done <;> contradiction
  | ok triple =>
      obtain ⟨next, released, members⟩ := triple
      exact ⟨next, released, members, rfl, dropped_of_dropReference done⟩

theorem dropAll_cons_of_error {cache : Cache Factory Native} {identity : Identity}
    {error : CacheError} (rest : List Identity)
    (refused : cache.dropReference identity = .error error) :
    cache.dropAll (identity :: rest) = (cache, .error error) := by
  rw [dropAll]
  split
  · next other same =>
      rw [refused] at same
      obtain rfl := Except.error.inj same
      rfl
  · next same =>
      rw [refused] at same
      contradiction

theorem dropAll_cons_of_ok {cache next : Cache Factory Native} {identity : Identity}
    {released : Released} {members : List Identity} (rest : List Identity)
    (done : cache.dropReference identity = .ok (next, released, members)) :
    cache.dropAll (identity :: rest) = next.dropAll (members ++ rest) := by
  rw [dropAll]
  split
  · next same =>
      rw [done] at same
      contradiction
  · next same =>
      rw [done, Except.ok.injEq, Prod.mk.injEq, Prod.mk.injEq] at same
      obtain ⟨rfl, rfl, rfl⟩ := same
      rfl

/-- A reference to an object is taken: its artifact is there, or it is compiled. -/
inductive Obtained (workshop : Workshop Factory Native) (cache next : Cache Factory Native)
    (component : Component) (options : Options) (identity : Identity) : Handle Native → Prop
  | hit {artifact : Artifact Native}
      (found : cache.artifacts.find? identity = some artifact)
      (artifacts_eq : next.artifacts = cache.artifacts.insert identity artifact.retain)
      (calls_eq : next.calls = cache.calls) :
      Obtained workshop cache next component options identity (artifact.handle identity)
  | compiled {factory : Factory} {source : Source} {unit : CompilationUnit}
      {output : Output Native} {native : Native}
      (absent : cache.artifacts.find? identity = none)
      (provided : workshop.library.lookup component.identifier component.stage = .ok factory)
      (assembled : (Assembly.assemble workshop.config component.identifier component.stage source
        options).result = .ok unit)
      (answer : output.artifact = some native)
      (artifacts_eq : next.artifacts =
        cache.artifacts.insert identity ⟨native, .object component.stage, 1, []⟩)
      (calls_eq : next.calls = cache.calls ++
        [.source factory source, .compile component.stage unit output])
      (source_eq : source = workshop.toolchain.source cache.calls factory)
      (output_eq : output = workshop.toolchain.compile (cache.calls ++ [.source factory source])
        component.stage unit) :
      Obtained workshop cache next component options identity
        ⟨identity, .object component.stage, native⟩

theorem Obtained.identity_eq {workshop : Workshop Factory Native}
    {cache next : Cache Factory Native} {component : Component} {options : Options}
    {identity : Identity} {handle : Handle Native}
    (obtained : Obtained workshop cache next component options identity handle) :
    handle.identity = identity := by
  cases obtained <;> rfl

theorem stage_of_assemble {config : Assembly.Config} {identifier : Text} {stage : Stage}
    {source : Source} {options : Options} {unit : CompilationUnit}
    (assembled : (Assembly.assemble config identifier stage source options).result = .ok unit) :
    unit.stage = stage := by
  rw [Assembly.assemble] at assembled
  dsimp only at assembled
  split at assembled
  · simp at assembled
  · obtain rfl := Except.ok.inj assembled
    rfl

theorem buildObject_cases {workshop : Workshop Factory Native}
    {cache next : Cache Factory Native} {component : Component} {options : Options}
    {identity : Identity} {messages : List Message}
    {result : Except CacheError (Handle Native)}
    (absent : cache.artifacts.find? identity = none)
    (done : buildObject workshop (cache.report messages) identity component options =
      (next, result)) :
    (∃ handle, result = .ok handle ∧
        Obtained workshop cache next component options identity handle) ∨
      (∃ error, result = .error error) ∧ Idle cache next := by
  rw [buildObject] at done
  split at done
  · simp only [Prod.mk.injEq] at done
    obtain ⟨rfl, rfl⟩ := done
    exact .inr ⟨⟨_, rfl⟩, .report cache messages⟩
  · next factory provided =>
      dsimp only at done
      split at done
      · simp only [Prod.mk.injEq] at done
        obtain ⟨rfl, rfl⟩ := done
        exact .inr ⟨⟨_, rfl⟩, rfl, _, rfl, by simp [Call.Idle]⟩
      · next unit assembled =>
          have stage_eq := stage_of_assemble assembled
          rw [compileUnit] at done
          dsimp only at done
          split at done
          · next failed =>
              simp only [Prod.mk.injEq] at done
              obtain ⟨rfl, rfl⟩ := done
              refine .inr ⟨⟨_, rfl⟩, rfl, _, List.append_assoc .., ?_⟩
              simpa [Call.Idle] using failed
          · next native answer =>
              simp only [Prod.mk.injEq] at done
              obtain ⟨rfl, rfl⟩ := done
              rw [stage_eq] at answer ⊢
              exact .inl ⟨_, rfl,
                .compiled absent provided assembled answer rfl (List.append_assoc ..) rfl rfl⟩

/-- An object is taken, or nothing is stored, made or deleted. -/
theorem requestObject_cases {workshop : Workshop Factory Native}
    {cache next : Cache Factory Native} {component : Component} {options : Options}
    {result : Except CacheError (Handle Native)}
    (done : requestObject workshop cache component options = (next, result)) :
    (∃ handle, result = .ok handle ∧ Obtained workshop cache next component options
        (Identity.ofObject component.identifier component.stage options) handle) ∨
      (∃ error, result = .error error) ∧ Idle cache next := by
  rw [requestObject, takeReference?] at done
  dsimp only at done
  split at done
  · next taken hit =>
      obtain ⟨artifact, found, pair⟩ := Option.map_eq_some_iff.mp hit
      simp only [Prod.mk.injEq] at pair done
      obtain ⟨rfl, rfl⟩ := pair
      obtain ⟨rfl, rfl⟩ := done
      exact .inl ⟨_, rfl, .hit found rfl rfl⟩
  · next miss =>
      exact buildObject_cases (Option.map_eq_none_iff.mp miss) done

/-- Objects are taken one after the other, until one cannot be. -/
theorem requestEach_cons_cases {workshop : Workshop Factory Native}
    {cache next : Cache Factory Native} {component : Component} {rest : List Component}
    {options : Options} {handles : List (Handle Native)} {result : Except CacheError Unit}
    (done : requestEach workshop options cache (component :: rest) = (next, handles, result)) :
    (handles = [] ∧ (∃ error, result = .error error) ∧ Idle cache next) ∨
      ∃ middle handle later, handles = handle :: later ∧
        Obtained workshop cache middle component options
          (Identity.ofObject component.identifier component.stage options) handle ∧
        requestEach workshop options middle rest = (next, later, result) := by
  rw [requestEach] at done
  split at done
  · next middle error refused =>
      simp only [Prod.mk.injEq] at done
      obtain ⟨rfl, rfl, rfl⟩ := done
      rcases requestObject_cases refused with ⟨handle, absurd, -⟩ | ⟨-, idle⟩
      · contradiction
      · exact .inl ⟨rfl, ⟨error, rfl⟩, idle⟩
  · next middle handle taken =>
      simp only [Prod.mk.injEq] at done
      obtain ⟨rfl, rfl, rfl⟩ := done
      rcases requestObject_cases taken with ⟨same, equal, obtained⟩ | ⟨⟨error, absurd⟩, -⟩
      · obtain rfl := Except.ok.inj equal
        exact .inr ⟨middle, handle, _, rfl, obtained, rfl⟩
      · contradiction

/-- What holds of a cache and the identities that were taken from it still holds after any number of
objects, if it does after each. -/
theorem holds_of_requestEach {workshop : Workshop Factory Native} {options : Options}
    {components : List Component} (property : Cache Factory Native → List Identity → Prop)
    (taken : List Identity)
    (perm : ∀ {cache : Cache Factory Native} {first second : List Identity},
      first.Perm second → property cache first → property cache second)
    (idle : ∀ {cache next : Cache Factory Native} {taken : List Identity},
      Idle cache next → property cache taken → property next taken)
    (taking : ∀ {cache next : Cache Factory Native} {component : Component}
      {handle : Handle Native} {taken : List Identity}, component ∈ components →
      Obtained workshop cache next component options
        (Identity.ofObject component.identifier component.stage options) handle →
      property cache taken → property next (handle.identity :: taken))
    {cache next : Cache Factory Native} {handles : List (Handle Native)}
    {result : Except CacheError Unit} (start : property cache taken)
    (done : requestEach workshop options cache components = (next, handles, result)) :
    property next (handles.map Handle.identity ++ taken) := by
  induction components generalizing cache handles taken with
  | nil =>
      simp only [requestEach, Prod.mk.injEq] at done
      obtain ⟨rfl, rfl, -⟩ := done
      exact start
  | cons component rest induction =>
      rcases requestEach_cons_cases done with
        ⟨rfl, -, unchanged⟩ | ⟨middle, handle, later, rfl, obtained, continued⟩
      · exact idle unchanged start
      · have first := taking List.mem_cons_self obtained start
        have all := induction _ (fun listed => taking (List.mem_cons_of_mem component listed))
          first continued
        exact perm List.perm_middle all

/-- How a request for a program is answered. Before it fails for want of an object or of a link, the
references taken so far are given back. -/
inductive Answered (workshop : Workshop Factory Native) (cache next : Cache Factory Native)
    (identifier : Text) (options : Options) (identity : Identity) :
    Except CacheError (Handle Native) → Prop
  | hit {artifact : Artifact Native}
      (found : cache.artifacts.find? identity = some artifact)
      (artifacts_eq : next.artifacts = cache.artifacts.insert identity artifact.retain)
      (calls_eq : next.calls = cache.calls) :
      Answered workshop cache next identifier options identity
        (.ok (artifact.handle identity))
  | unknown {error : CacheError} (idle : Idle cache next) :
      Answered workshop cache next identifier options identity (.error error)
  | undone {program : Program} {base middle last : Cache Factory Native}
      {members : List (Handle Native)} {outcome : Except CacheError Unit} {error : CacheError}
      (registered : workshop.library.program identifier = .ok program)
      (idle : Idle cache base)
      (obtained : requestEach workshop options base program.components =
        (middle, members, outcome))
      (failed : Idle middle last)
      (given_back : next = last.releaseHandles members) :
      Answered workshop cache next identifier options identity (.error error)
  | linked {program : Program} {base middle : Cache Factory Native}
      {members : List (Handle Native)} {output : Output Native} {native : Native}
      (absent : cache.artifacts.find? identity = none)
      (registered : workshop.library.program identifier = .ok program)
      (idle : Idle cache base)
      (obtained : requestEach workshop options base program.components =
        (middle, members, .ok ()))
      (answer : output.artifact = some native)
      (artifacts_eq : next.artifacts = middle.artifacts.insert identity
        ⟨native, .program, 1, members.map Handle.identity⟩)
      (calls_eq : next.calls =
        middle.calls ++ [.link identifier (members.map Handle.native) output])
      (output_eq : output = workshop.toolchain.link middle.calls identifier
        (members.map Handle.native)) :
      Answered workshop cache next identifier options identity
        (.ok ⟨identity, .program, native⟩)

theorem requestProgram_cases {workshop : Workshop Factory Native}
    {cache next : Cache Factory Native} {identifier : Text} {options : Options}
    {result : Except CacheError (Handle Native)}
    (done : requestProgram workshop cache identifier options = (next, result)) :
    Answered workshop cache next identifier options (Identity.ofProgram identifier options)
      result := by
  rw [requestProgram, takeReference?] at done
  dsimp only at done
  split at done
  · next taken hit =>
      obtain ⟨artifact, found, pair⟩ := Option.map_eq_some_iff.mp hit
      simp only [Prod.mk.injEq] at pair done
      obtain ⟨rfl, rfl⟩ := pair
      obtain ⟨rfl, rfl⟩ := done
      exact .hit found rfl rfl
  · next miss =>
      have absent := Option.map_eq_none_iff.mp miss
      rw [buildProgram] at done
      split at done
      · simp only [Prod.mk.injEq] at done
        obtain ⟨rfl, rfl⟩ := done
        exact .unknown (.report cache _)
      · next program registered =>
          split at done
          · next middle members error obtained =>
              simp only [Prod.mk.injEq] at done
              obtain ⟨rfl, rfl⟩ := done
              exact .undone registered (.report cache _) obtained (.refl middle) rfl
          · next middle members obtained =>
              rw [linkProgram] at done
              dsimp only at done
              split at done
              · next refused =>
                  simp only [Prod.mk.injEq] at done
                  obtain ⟨rfl, rfl⟩ := done
                  refine .undone registered (.report cache _) obtained (.record ?_) rfl
                  exact ⟨Option.map_eq_none_iff.mpr refused, rfl⟩
              · next native answer =>
                  simp only [Prod.mk.injEq] at done
                  obtain ⟨rfl, rfl⟩ := done
                  exact .linked absent registered (.report cache _) obtained answer rfl rfl rfl

end GlslBuild.Cache
