import GlslBuild.Proofs.Cache.Operation
import GlslBuild.Proofs.Cache.Session
import GlslBuild.Proofs.Table

/-!
# Native artifacts are opaque

A cache keeps native artifacts and passes them on, and never looks at them. So if a compiler is seen
through a function on what it makes, then so is everything that a cache does with it.
-/

namespace GlslBuild

variable {Factory Inner Outer : Type}

/-- The answer as it is seen through a function on artifacts. -/
def Output.map (view : Inner → Outer) (output : Output Inner) : Output Outer :=
  ⟨output.artifact.map view, output.log⟩

/-- The call as it is seen through a function on artifacts. -/
def Call.map (view : Inner → Outer) : Call Factory Inner → Call Factory Outer
  | .source factory answer => .source factory answer
  | .compile stage unit output => .compile stage unit (output.map view)
  | .link identifier objects output => .link identifier (objects.map view) (output.map view)
  | .deleteObject native => .deleteObject (view native)
  | .deleteProgram native => .deleteProgram (view native)

/-- The artifact as it is seen through a function. -/
def Artifact.map (view : Inner → Outer) (artifact : Artifact Inner) : Artifact Outer :=
  { artifact with native := view artifact.native }

/-- The handle as it is seen through a function on artifacts. -/
def Handle.map (view : Inner → Outer) (handle : Handle Inner) : Handle Outer :=
  { handle with native := view handle.native }

/-- The cache as it is seen through a function on artifacts. -/
def Cache.map (view : Inner → Outer) (cache : Cache Factory Inner) : Cache Factory Outer :=
  ⟨cache.artifacts.map (Artifact.map view), cache.calls.map (Call.map view), cache.messages⟩

/-- The outer workshop is what is seen of the inner one. -/
structure Workshop.Seen (view : Inner → Outer) (inner : Workshop Factory Inner)
    (outer : Workshop Factory Outer) : Prop where
  library_eq : outer.library = inner.library
  config_eq : outer.config = inner.config
  source_eq (calls : List (Call Factory Inner)) (factory : Factory) :
    outer.toolchain.source (calls.map (Call.map view)) factory =
      inner.toolchain.source calls factory
  compile_eq (calls : List (Call Factory Inner)) (stage : Stage) (unit : CompilationUnit) :
    outer.toolchain.compile (calls.map (Call.map view)) stage unit =
      (inner.toolchain.compile calls stage unit).map view
  link_eq (calls : List (Call Factory Inner)) (identifier : Text) (objects : List Inner) :
    outer.toolchain.link (calls.map (Call.map view)) identifier (objects.map view) =
      (inner.toolchain.link calls identifier objects).map view

variable (view : Inner → Outer)

@[simp] theorem Call.map_delete (kind : ArtifactKind) (native : Inner) :
    (Call.delete kind native : Call Factory Inner).map view = .delete kind (view native) := by
  cases kind <;> rfl

namespace Cache

@[simp] theorem calls_map (cache : Cache Factory Inner) :
    (cache.map view).calls = cache.calls.map (Call.map view) := rfl

@[simp] theorem find?_map (cache : Cache Factory Inner) (identity : Identity) :
    (cache.map view).artifacts.find? identity =
      (cache.artifacts.find? identity).map (Artifact.map view) :=
  Table.find?_map ..

@[simp] theorem report_map (cache : Cache Factory Inner) (messages : List Message) :
    (cache.map view).report messages = (cache.report messages).map view := rfl

theorem record_map (cache : Cache Factory Inner) (call : Call Factory Inner) :
    (cache.map view).record (call.map view) = (cache.record call).map view := by
  simp [record, map]

theorem store_map (cache : Cache Factory Inner) (identity : Identity)
    (artifact : Artifact Inner) :
    (cache.map view).store identity (artifact.map view) =
      (cache.store identity artifact).map view := by
  simp [store, map, Table.map_insert]

theorem discard_map (cache : Cache Factory Inner) (identity : Identity) :
    (cache.map view).discard identity = (cache.discard identity).map view := by
  simp [discard, map, Table.map_erase]

/-! ## Giving references back -/

theorem dropReference_map (cache : Cache Factory Inner) (identity : Identity) :
    (cache.map view).dropReference identity =
      (cache.dropReference identity).map (Prod.map (map view) id) := by
  rw [dropReference, dropReference, find?_map]
  cases cache.artifacts.find? identity with
  | none => rfl
  | some artifact =>
      simp only [Option.map_some, Artifact.map]
      split
      · have stored := store_map view cache identity
          { artifact with references := artifact.references - 1 }
        rw [Artifact.map] at stored
        rw [stored, report_map]
        rfl
      · have recorded := record_map view
          ((cache.discard identity).report [.destroying artifact.kind identity])
          (.delete artifact.kind artifact.native)
        rw [Call.map_delete] at recorded
        rw [discard_map, report_map, recorded]
        rfl

theorem dropAll_map (cache : Cache Factory Inner) (pending : List Identity) :
    (cache.map view).dropAll pending = Prod.map (map view) id (cache.dropAll pending) := by
  fun_induction dropAll cache pending with
  | case1 cache => simp [dropAll]
  | case2 cache identity rest error refused =>
      have dropped := dropReference_map view cache identity
      rw [refused] at dropped
      exact dropAll_cons_of_error rest dropped
  | case3 cache identity rest next released members done induction =>
      have dropped := dropReference_map view cache identity
      rw [done] at dropped
      rw [dropAll_cons_of_ok rest dropped]
      exact induction

theorem release_map (cache : Cache Factory Inner) (identity : Identity) :
    (cache.map view).release identity = Prod.map (map view) id (cache.release identity) := by
  rw [release, release, dropReference_map]
  cases cache.dropReference identity with
  | error error => rfl
  | ok dropped => simp [Except.map, dropAll_map]

theorem releaseHandles_map (cache : Cache Factory Inner) (handles : List (Handle Inner)) :
    (cache.map view).releaseHandles (handles.map (Handle.map view)) =
      (cache.releaseHandles handles).map view := by
  induction handles generalizing cache with
  | nil => rfl
  | cons handle rest induction =>
      have first := congrArg Prod.fst (release_map view cache handle.identity)
      simp only [releaseHandles, List.map_cons, List.foldl_cons] at induction ⊢
      rw [← induction]
      exact congrArg (List.foldl _ · _) first

/-! ## Resolving requests -/

theorem takeReference?_map (cache : Cache Factory Inner) (identity : Identity) :
    (cache.map view).takeReference? identity =
      (cache.takeReference? identity).map (Prod.map (map view) (Handle.map view)) := by
  rw [takeReference?, takeReference?, find?_map]
  cases cache.artifacts.find? identity with
  | none => rfl
  | some artifact =>
      have stored := store_map view cache identity artifact.retain
      simpa [Artifact.handle, Handle.map, Artifact.map, Artifact.retain] using stored

theorem install_map (cache : Cache Factory Inner) (identity : Identity) (kind : ArtifactKind)
    (native : Inner) (members : List Identity) :
    (cache.map view).install identity kind (view native) members =
      Prod.map (map view) (Handle.map view) (cache.install identity kind native members) := by
  have stored := store_map view cache identity ⟨native, kind, 1, members⟩
  simpa [install, Handle.map, Artifact.map] using stored

variable {view} {inner : Workshop Factory Inner} {outer : Workshop Factory Outer}

theorem compileUnit_map (seen : Workshop.Seen view inner outer) (cache : Cache Factory Inner)
    (identity : Identity) (unit : CompilationUnit) :
    compileUnit outer (cache.map view) identity unit =
      Prod.map (map view) (Except.map (Handle.map view))
        (compileUnit inner cache identity unit) := by
  rw [compileUnit, compileUnit, calls_map, seen.compile_eq]
  generalize inner.toolchain.compile cache.calls unit.stage unit = output
  have recorded : (cache.map view).record (.compile unit.stage unit (output.map view)) =
      (cache.record (.compile unit.stage unit output)).map view :=
    record_map view cache (.compile unit.stage unit output)
  dsimp only
  rw [recorded]
  obtain ⟨artifact, log⟩ := output
  cases artifact with
  | none => rfl
  | some native =>
      have installed := install_map view
        ((cache.record (.compile unit.stage unit ⟨some native, log⟩)).report
          (compilerRemarks unit.identifier unit.stage unit ⟨some native, log⟩ ++
            [.compiled unit.identifier unit.stage identity]))
        identity (.object unit.stage) native []
      exact congrArg (Prod.map id Except.ok) installed

theorem buildObject_map (seen : Workshop.Seen view inner outer) (cache : Cache Factory Inner)
    (identity : Identity) (component : Component) (options : Options) :
    buildObject outer (cache.map view) identity component options =
      Prod.map (map view) (Except.map (Handle.map view))
        (buildObject inner cache identity component options) := by
  rw [buildObject, buildObject, seen.library_eq]
  cases inner.library.lookup component.identifier component.stage with
  | error error => rfl
  | ok factory =>
      simp only [calls_map, seen.source_eq, seen.config_eq]
      generalize inner.toolchain.source cache.calls factory = source
      have recorded : (cache.map view).record (.source factory source) =
          (cache.record (.source factory source)).map view :=
        record_map view cache (.source factory source)
      rw [recorded, report_map]
      cases (Assembly.assemble inner.config component.identifier component.stage source
        options).result with
      | error error => rfl
      | ok unit => exact compileUnit_map seen _ identity unit

theorem requestObject_map (seen : Workshop.Seen view inner outer) (cache : Cache Factory Inner)
    (component : Component) (options : Options) :
    requestObject outer (cache.map view) component options =
      Prod.map (map view) (Except.map (Handle.map view))
        (requestObject inner cache component options) := by
  rw [requestObject, requestObject, takeReference?_map]
  cases cache.takeReference? (Identity.ofObject component.identifier component.stage options) with
  | some taken => rfl
  | none =>
      simp only [Option.map_none, report_map]
      exact buildObject_map seen _ _ component options

theorem requestEach_map (seen : Workshop.Seen view inner outer) (options : Options)
    (cache : Cache Factory Inner) (components : List Component) :
    requestEach outer options (cache.map view) components =
      Prod.map (map view) (Prod.map (List.map (Handle.map view)) id)
        (requestEach inner options cache components) := by
  induction components generalizing cache with
  | nil => rfl
  | cons component rest induction =>
      rw [requestEach, requestEach, requestObject_map seen]
      cases requestObject inner cache component options with
      | mk next result =>
          cases result with
          | error error => rfl
          | ok handle => simp [Except.map, induction]

theorem linkProgram_map (seen : Workshop.Seen view inner outer) (cache : Cache Factory Inner)
    (identity : Identity) (identifier : Text) (members : List (Handle Inner)) :
    linkProgram outer (cache.map view) identity identifier (members.map (Handle.map view)) =
      Prod.map (map view) (Except.map (Handle.map view))
        (linkProgram inner cache identity identifier members) := by
  have natives_eq : (members.map (Handle.map view)).map Handle.native =
      (members.map Handle.native).map view := by
    simp [Handle.map]
  have identities_eq : (members.map (Handle.map view)).map Handle.identity =
      members.map Handle.identity := by
    simp [Handle.map]
  rw [linkProgram, linkProgram, natives_eq, calls_map, seen.link_eq, identities_eq]
  generalize inner.toolchain.link cache.calls identifier (members.map Handle.native) = output
  have recorded : (cache.map view).record
      (.link identifier ((members.map Handle.native).map view) (output.map view)) =
        (cache.record (.link identifier (members.map Handle.native) output)).map view :=
    record_map view cache (.link identifier (members.map Handle.native) output)
  dsimp only
  rw [recorded]
  obtain ⟨artifact, log⟩ := output
  cases artifact with
  | none =>
      have released := releaseHandles_map view
        (cache.record (.link identifier (members.map Handle.native) ⟨none, log⟩)) members
      exact congrArg (·, Except.error _) released
  | some native =>
      have installed := install_map view
        ((cache.record (.link identifier (members.map Handle.native) ⟨some native, log⟩)).report
          (linkerRemarks identifier ⟨some native, log⟩ ++ [.linked identifier identity]))
        identity .program native (members.map Handle.identity)
      exact congrArg (Prod.map id Except.ok) installed

theorem requestProgram_map (seen : Workshop.Seen view inner outer)
    (cache : Cache Factory Inner) (identifier : Text) (options : Options) :
    requestProgram outer (cache.map view) identifier options =
      Prod.map (map view) (Except.map (Handle.map view))
        (requestProgram inner cache identifier options) := by
  rw [requestProgram, requestProgram, takeReference?_map]
  cases cache.takeReference? (Identity.ofProgram identifier options) with
  | some taken => rfl
  | none =>
      simp only [Option.map_none, report_map, buildProgram, seen.library_eq]
      cases inner.library.program identifier with
      | error error => rfl
      | ok program =>
          simp only [requestEach_map seen]
          generalize requestEach inner options _ program.components = requested
          obtain ⟨next, members, result⟩ := requested
          cases result with
          | error error => simp [Except.map, releaseHandles_map]
          | ok done => exact linkProgram_map seen next _ identifier members

theorem resolve_map (seen : Workshop.Seen view inner outer) (cache : Cache Factory Inner)
    (request : Request) :
    (cache.map view).resolve outer request =
      Prod.map (map view) (Except.map (Handle.map view)) (cache.resolve inner request) := by
  cases request with
  | object component options => exact requestObject_map seen cache component options
  | program identifier options => exact requestProgram_map seen cache identifier options

/-! ## Shutting down -/

variable (view)

theorem programReferences_map (cache : Cache Factory Inner) (identity : Identity) :
    (cache.map view).programReferences identity = cache.programReferences identity := by
  simp [programReferences, map, Artifact.map, List.flatMap_map]

theorem drained_map (cache : Cache Factory Inner) :
    (cache.map view).drained =
      cache.drained.map fun entry => (entry.1, entry.2.map view) := by
  simp [drained, map, Artifact.map, List.partition_eq_filter_filter, List.filter_map,
    Function.comp_def]

theorem leak?_map (cache : Cache Factory Inner) (entry : Identity × Artifact Inner) :
    (cache.map view).leak? (entry.1, entry.2.map view) = cache.leak? entry := by
  have outstanding_eq :
      (cache.map view).outstanding (entry.1, entry.2.map view) = cache.outstanding entry := by
    simp [outstanding, programReferences_map, Artifact.map]
  simp only [leak?, outstanding_eq]
  rfl

theorem shutdown_map (cache : Cache Factory Inner) :
    (cache.map view).shutdown = Prod.map (map view) id cache.shutdown := by
  simp only [shutdown, drained_map, List.map_map, List.filterMap_map, List.length_map,
    Function.comp_def, leak?_map]
  simp [map, Artifact.map]

end Cache

/-! ## Sessions -/

/-- The action as it is seen through a function on artifacts. -/
def Action.map (view : Inner → Outer) : Action Factory Inner → Action Factory Outer
  | .resolve request => .resolve request
  | .release handle => .release (handle.map view)
  | .shutdown => .shutdown
  | .register entry => .register entry
  | .load manifest => .load manifest

/-- The reply as it is seen through a function on artifacts. -/
def Reply.map (view : Inner → Outer) : Reply Inner → Reply Outer
  | .resolved result => .resolved (result.map (Handle.map view))
  | .released result => .released result
  | .destroyed count => .destroyed count
  | .registered result => .registered result

/-- A handle that is seen is seen of a handle. -/
theorem Reply.exists_of_map_eq_resolved {view : Inner → Outer} {reply : Reply Inner}
    {handle : Handle Outer} (seen_eq : reply.map view = .resolved (.ok handle)) :
    ∃ lifted : Handle Inner, reply = .resolved (.ok lifted) ∧ lifted.map view = handle := by
  cases reply with
  | resolved result =>
      cases result with
      | error error => cases seen_eq
      | ok lifted => exact ⟨lifted, rfl, Except.ok.inj (Reply.resolved.inj seen_eq)⟩
  | released result => cases seen_eq
  | destroyed count => cases seen_eq
  | registered result => cases seen_eq

namespace Session

/-- The outer session is what is seen of the inner one. -/
structure Seen (view : Inner → Outer) (inner : Session Factory Inner)
    (outer : Session Factory Outer) : Prop where
  workshop : Workshop.Seen view inner.workshop outer.workshop
  cache_eq : outer.cache = inner.cache.map view
  held_perm : outer.held.Perm (inner.held.map (Handle.map view))
  asked_eq : outer.asked = inner.asked

theorem seen_start {view : Inner → Outer} {inner : Workshop Factory Inner}
    {outer : Workshop Factory Outer} (seen : Workshop.Seen view inner outer) :
    Seen view (start inner) (start outer) :=
  ⟨seen, rfl, .refl _, rfl⟩

variable {view} {inner : Session Factory Inner} {outer : Session Factory Outer}

theorem Seen.extendLibrary (seen : Seen view inner outer)
    (result : Except LibraryError (Library Factory)) :
    Seen view (inner.extendLibrary result) (outer.extendLibrary result) := by
  cases result with
  | error error => exact seen
  | ok library =>
      obtain ⟨-, config_eq, source_eq, compile_eq, link_eq⟩ := seen.workshop
      exact ⟨⟨rfl, config_eq, source_eq, compile_eq, link_eq⟩, seen.cache_eq, seen.held_perm,
        seen.asked_eq⟩

variable [DecidableEq Inner] [DecidableEq Outer]

theorem Seen.resolve (seen : Seen view inner outer) (request : Request) :
    Seen view (inner.perform (.resolve request)).1 (outer.perform (.resolve request)).1 ∧
      (outer.perform (.resolve request)).2 = (inner.perform (.resolve request)).2.map view := by
  have resolved := Cache.resolve_map seen.workshop inner.cache request
  rw [← seen.cache_eq] at resolved
  simp only [perform, resolved, Reply.map, Prod.map_fst, Prod.map_snd, and_true]
  refine ⟨seen.workshop, rfl, ?_, ?_⟩
  · rw [List.map_append]
    cases (inner.cache.resolve inner.workshop request).2 with
    | error error => exact seen.held_perm
    | ok handle => exact seen.held_perm.cons _
  · rw [seen.asked_eq, seen.workshop.library_eq]

/-- What is held in the outer session is seen of something that is held in the inner one. -/
theorem Seen.exists_handle (seen : Seen view inner outer)
    (surjective : Function.Surjective view) (handle : Handle Outer) :
    ∃ lifted : Handle Inner, lifted.map view = handle ∧
      (handle ∈ outer.held → lifted ∈ inner.held) ∧
      (outer.held.erase handle).Perm ((inner.held.erase lifted).map (Handle.map view)) := by
  by_cases held : handle ∈ outer.held
  · -- Any of the handles that look like this one will do, since order does not matter.
    obtain ⟨lifted, inside, rfl⟩ := List.mem_map.mp (seen.held_perm.mem_iff.mp held)
    have first := (List.perm_cons_erase inside).map (Handle.map view)
    have erased := (seen.held_perm.trans first).erase (lifted.map view)
    rw [List.map_cons, List.erase_cons_head] at erased
    exact ⟨lifted, rfl, fun _ => inside, erased⟩
  · obtain ⟨native, native_eq⟩ := surjective handle.native
    let lifted : Handle Inner := ⟨handle.identity, handle.kind, native⟩
    have seen_eq : lifted.map view = handle := by rw [Handle.map, native_eq]
    have absent : lifted ∉ inner.held := by
      intro inside
      apply held
      rw [seen.held_perm.mem_iff, ← seen_eq]
      exact List.mem_map_of_mem inside
    refine ⟨lifted, seen_eq, fun inside => absurd inside held, ?_⟩
    rw [List.erase_of_not_mem held, List.erase_of_not_mem absent]
    exact seen.held_perm

/-- Whatever is done in the outer session can be done in the inner one, with the same effect. -/
theorem Seen.perform (seen : Seen view inner outer) (surjective : Function.Surjective view)
    (action : Action Factory Outer) :
    ∃ lifted : Action Factory Inner, lifted.map view = action ∧
      Seen view (inner.perform lifted).1 (outer.perform action).1 ∧
      (outer.perform action).2 = (inner.perform lifted).2.map view ∧
      (outer.Permits action → inner.Permits lifted) := by
  cases action with
  | resolve request =>
      obtain ⟨after, reply_eq⟩ := seen.resolve request
      exact ⟨.resolve request, rfl, after, reply_eq, id⟩
  | release handle =>
      obtain ⟨lifted, rfl, permitted, left⟩ := seen.exists_handle surjective handle
      have released := Cache.release_map view inner.cache lifted.identity
      rw [← seen.cache_eq] at released
      refine ⟨.release lifted, rfl, ⟨seen.workshop, ?_, left, seen.asked_eq⟩, ?_, permitted⟩
      · exact congrArg Prod.fst released
      · exact congrArg (Reply.released ∘ Prod.snd) released
  | shutdown =>
      have emptied := Cache.shutdown_map view inner.cache
      rw [← seen.cache_eq] at emptied
      refine ⟨.shutdown, rfl, ⟨seen.workshop, ?_, .refl _, seen.asked_eq⟩, ?_, id⟩
      · exact congrArg Prod.fst emptied
      · exact congrArg (Reply.destroyed ∘ Prod.snd) emptied
  | register entry =>
      have same : outer.workshop.library.insert entry = inner.workshop.library.insert entry := by
        rw [seen.workshop.library_eq]
      refine ⟨.register entry, rfl, ?_, ?_, id⟩
      · simpa only [Session.perform, same] using seen.extendLibrary _
      · simp only [Session.perform, same, Reply.map]
  | load manifest =>
      have same : outer.workshop.library.load manifest = inner.workshop.library.load manifest := by
        rw [seen.workshop.library_eq]
      refine ⟨.load manifest, rfl, ?_, ?_, id⟩
      · simpa only [Session.perform, same] using seen.extendLibrary _
      · simp only [Session.perform, same, Reply.map]

theorem Seen.run (seen : Seen view inner outer) (surjective : Function.Surjective view)
    (actions : List (Action Factory Outer)) :
    ∃ lifted : List (Action Factory Inner), lifted.map (Action.map view) = actions ∧
      Seen view (inner.run lifted) (outer.run actions) ∧
      (outer.Disciplined actions → inner.Disciplined lifted) := by
  induction actions generalizing inner outer with
  | nil => exact ⟨[], rfl, seen, id⟩
  | cons action rest induction =>
      obtain ⟨first, first_eq, after, -, permitted⟩ := seen.perform surjective action
      obtain ⟨later, later_eq, last, disciplined⟩ := induction after
      refine ⟨first :: later, ?_, last, ?_⟩
      · rw [List.map_cons, first_eq, later_eq]
      · exact fun ⟨permits, continued⟩ => ⟨permitted permits, disciplined continued⟩

end Session

end GlslBuild
