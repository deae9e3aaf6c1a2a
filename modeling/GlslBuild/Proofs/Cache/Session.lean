import GlslBuild.Cache.Request
import GlslBuild.Cache.Shutdown
import Mathlib.Data.List.Nodup

/-!
# Sessions

A session is the use of one cache over time. Callers resolve requests, give handles back and shut
the cache down, in any order, while the library may grow. Beside the cache a session keeps the
handles that callers hold and the requests that were made.
-/

namespace GlslBuild

/-- What a caller asks a cache for. -/
inductive Request where
  | object (component : Component) (options : Options)
  | program (identifier : Text) (options : Options)
  deriving DecidableEq

namespace Request

/-- The identity that the artifact of a request is kept under. -/
def identity : Request → Identity
  | .object component options => Identity.ofObject component.identifier component.stage options
  | .program identifier options => Identity.ofProgram identifier options

/-- What a request is for. -/
def kind : Request → ArtifactKind
  | .object component _ => .object component.stage
  | .program .. => .program

/-- The request and those for the objects that it needs. -/
def closure {Factory : Type} (library : Library Factory) (request : Request) : List Request :=
  match request with
  | .object .. => [request]
  | .program identifier options =>
      match library.program identifier with
      | .error _ => [request]
      | .ok found => request :: found.components.map (.object · options)

theorem mem_closure {Factory : Type} (library : Library Factory) (request : Request) :
    request ∈ request.closure library := by
  cases request with
  | object component options => simp [closure]
  | program identifier options =>
      rw [closure]
      split <;> simp

theorem object_mem_closure {Factory : Type} {library : Library Factory} {identifier : Text}
    {options : Options} {found : Program} (registered : library.program identifier = .ok found)
    {component : Component} (listed : component ∈ found.components) :
    .object component options ∈ (program identifier options).closure library := by
  simp only [closure, registered]
  exact List.mem_cons_of_mem _ (List.mem_map_of_mem listed)

/-- Different requests among these are kept under different identities. -/
def Distinct (requests : List Request) : Prop :=
  ∀ first ∈ requests, ∀ second ∈ requests, first.identity = second.identity → first = second

theorem Distinct.of_subset {fewer requests : List Request} (distinct : Distinct requests)
    (subset : fewer ⊆ requests) : Distinct fewer :=
  fun first first_asked second second_asked =>
    distinct first (subset first_asked) second (subset second_asked)

theorem distinct_of_nodup {requests : List Request}
    (nodup : (requests.map identity).Nodup) : Distinct requests :=
  fun _ first_asked _ second_asked => List.inj_on_of_nodup_map nodup first_asked second_asked

end Request

namespace Cache

variable {Factory Native : Type}

/-- Answers a request. -/
def resolve (workshop : Workshop Factory Native) (cache : Cache Factory Native) :
    Request → Cache Factory Native × Except CacheError (Handle Native)
  | .object component options => requestObject workshop cache component options
  | .program identifier options => requestProgram workshop cache identifier options

end Cache

/-- What callers do. -/
inductive Action (Factory Native : Type) where
  | resolve (request : Request)
  | release (handle : Handle Native)
  | shutdown
  | register (entry : Entry Factory)
  | load (manifest : List (Entry Factory))

/-- What callers get in return. -/
inductive Reply (Native : Type) where
  | resolved (result : Except CacheError (Handle Native))
  | released (result : Except CacheError Released)
  /-- So many artifacts were destroyed. -/
  | destroyed (count : Nat)
  | registered (result : Except LibraryError Unit)

/-- A cache in use. -/
structure Session (Factory Native : Type) where
  workshop : Workshop Factory Native
  cache : Cache Factory Native
  /-- The handles given out since the last shutdown and not given back. -/
  held : List (Handle Native)
  /-- All requests so far, those for the objects of programs included. -/
  asked : List Request

namespace Session

variable {Factory Native : Type}

/-- A session before its first action. -/
def start (workshop : Workshop Factory Native) : Session Factory Native :=
  ⟨workshop, Cache.empty, [], []⟩

/-- The session with another library, if there is one. -/
def extendLibrary (session : Session Factory Native)
    (result : Except LibraryError (Library Factory)) : Session Factory Native :=
  match result with
  | .error _ => session
  | .ok library => { session with workshop := { session.workshop with library } }

/-- Does what a caller wants. -/
def perform [DecidableEq Native] (session : Session Factory Native) :
    Action Factory Native → Session Factory Native × Reply Native
  | .resolve request =>
      let outcome := session.cache.resolve session.workshop request
      ({ session with
          cache := outcome.1
          held := outcome.2.toOption.toList ++ session.held
          asked := session.asked ++ request.closure session.workshop.library },
        .resolved outcome.2)
  | .release handle =>
      let outcome := session.cache.release handle.identity
      ({ session with cache := outcome.1, held := session.held.erase handle },
        .released outcome.2)
  | .shutdown =>
      let outcome := session.cache.shutdown
      ({ session with cache := outcome.1, held := [] }, .destroyed outcome.2)
  | .register entry =>
      let result := session.workshop.library.insert entry
      (session.extendLibrary result, .registered (result.map fun _ => ()))
  | .load manifest =>
      let result := (session.workshop.library.load manifest).1
      (session.extendLibrary result, .registered (result.map fun _ => ()))

/-- The session after actions. -/
def run [DecidableEq Native] (session : Session Factory Native)
    (actions : List (Action Factory Native)) : Session Factory Native :=
  actions.foldl (fun session action => (session.perform action).1) session

/-- An action gives back only what a caller holds. -/
def Permits (session : Session Factory Native) : Action Factory Native → Prop
  | .release handle => handle ∈ session.held
  | _ => True

/-- Every handle that is given back was given out since the last shutdown and not given back
before. -/
def Disciplined [DecidableEq Native] (session : Session Factory Native) :
    List (Action Factory Native) → Prop
  | [] => True
  | action :: rest => session.Permits action ∧ (session.perform action).1.Disciplined rest

@[simp] theorem cache_extendLibrary (session : Session Factory Native)
    (result : Except LibraryError (Library Factory)) :
    (session.extendLibrary result).cache = session.cache := by
  cases result <;> rfl

@[simp] theorem held_extendLibrary (session : Session Factory Native)
    (result : Except LibraryError (Library Factory)) :
    (session.extendLibrary result).held = session.held := by
  cases result <;> rfl

@[simp] theorem asked_extendLibrary (session : Session Factory Native)
    (result : Except LibraryError (Library Factory)) :
    (session.extendLibrary result).asked = session.asked := by
  cases result <;> rfl

variable [DecidableEq Native]

instance (session : Session Factory Native) (action : Action Factory Native) :
    Decidable (session.Permits action) :=
  match action with
  | .release handle => inferInstanceAs (Decidable (handle ∈ session.held))
  | .resolve _ | .shutdown | .register _ | .load _ => .isTrue trivial

/-- Discipline can be checked action by action. -/
instance decidableDisciplined (session : Session Factory Native) :
    (actions : List (Action Factory Native)) → Decidable (session.Disciplined actions)
  | [] => .isTrue trivial
  | action :: rest =>
      have := decidableDisciplined (session.perform action).1 rest
      inferInstanceAs (Decidable (session.Permits action ∧
        (session.perform action).1.Disciplined rest))

theorem asked_subset_perform (session : Session Factory Native) (action : Action Factory Native) :
    session.asked ⊆ (session.perform action).1.asked := by
  cases action <;> simp [perform]

/-- Requests are never forgotten. -/
theorem asked_subset_run (session : Session Factory Native)
    (actions : List (Action Factory Native)) : session.asked ⊆ (session.run actions).asked := by
  induction actions generalizing session with
  | nil => exact List.Subset.refl _
  | cons action rest induction =>
      have first := asked_subset_perform session action
      exact List.Subset.trans first (induction (session.perform action).1)

end Session

namespace Sample

/-- An object for any stage. -/
def lamp : Text := "lamp".toList

/-- An object for the fragment stage that does not compile. -/
def shard : Text := "shard".toList

/-- A program that lists one object twice. -/
def scene : Text := "scene".toList

/-- A program whose last object does not compile. -/
def ruin : Text := "ruin".toList

/-- The objects and programs to try sessions out on. -/
def manifest : List (Entry Unit) :=
  [.object lamp none (), .object shard (some .fragment) (),
    .program ⟨scene, [⟨.vertex, lamp⟩, ⟨.fragment, lamp⟩, ⟨.vertex, lamp⟩]⟩,
    .program ⟨ruin, [⟨.vertex, lamp⟩, ⟨.fragment, lamp⟩, ⟨.vertex, lamp⟩, ⟨.fragment, shard⟩]⟩]

/-- A compiler that numbers what it makes by the calls before. -/
def toolchain : Toolchain Unit Nat where
  source _ _ := Source.empty
  compile calls _ unit := ⟨if unit.identifier = shard then none else some calls.length, none⟩
  link calls _ _ := ⟨some calls.length, none⟩

/-- The manifest with that compiler. -/
def workshop : Workshop Unit Nat :=
  ⟨(Library.empty.load manifest).1.toOption.getD Library.empty, toolchain, {}⟩

/-- The options to try sessions out with. -/
def options : Options := Options.standard

/-- The request for an object. -/
def object (stage : Stage) (identifier : Text) : Request := .object ⟨stage, identifier⟩ options

/-- The request for a program. -/
def program (identifier : Text) : Request := .program identifier options

/-- All requests that the samples make. -/
def requests : List Request :=
  [object .vertex lamp, object .fragment lamp, object .fragment shard, program scene, program ruin]

theorem distinct_requests : Request.Distinct requests :=
  Request.distinct_of_nodup (by decide +kernel)

end Sample

end GlslBuild
