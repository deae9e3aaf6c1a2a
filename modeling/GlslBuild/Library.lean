import GlslBuild.Log
import GlslBuild.Table

/-!
# Libraries

A library knows the factories of sources and the programs by identifier. A factory is registered for
one stage or for any of them; an identifier with a factory for any stage has no other one. Nothing
is ever replaced or removed, so an answer that was given once stays the same.
-/

namespace GlslBuild

/-- The factories of one identifier. -/
inductive Provision (Factory : Type) where
  /-- One factory for any stage. -/
  | anyStage (factory : Factory)
  /-- At most one factory for each stage. -/
  | byStage (factory? : Stage → Option Factory)

/-- The factory for a stage. -/
def Provision.factory? {Factory : Type} : Provision Factory → Stage → Option Factory
  | .anyStage factory, _ => some factory
  | .byStage factory?, stage => factory? stage

/-- The stages that have a factory of their own. -/
def Provision.stages {Factory : Type} : Provision Factory → List Stage
  | .anyStage _ => []
  | .byStage factory? => Stage.all.filter fun stage => (factory? stage).isSome

/-- An object that a program is linked from. -/
structure Component where
  stage : Stage
  identifier : Text
  deriving DecidableEq, Repr

/-- A linkable program. -/
structure Program where
  identifier : Text
  components : List Component
  deriving DecidableEq, Repr

/-- Something to be registered. -/
inductive Entry (Factory : Type) where
  | object (identifier : Text) (stage : Option Stage) (factory : Factory)
  | program (program : Program)

/-- What can be wrong with a registration or a query. -/
inductive LibraryError where
  | duplicateIdentifier (identifier : Text) (stage : Option Stage)
  | unknownIdentifier (identifier : Text) (stage : Option Stage)
  | emptyProgram (identifier : Text)
  | alreadyLoaded
  deriving DecidableEq, Repr

/-- The fault in words. -/
def LibraryError.message : LibraryError → String
  | .duplicateIdentifier identifier stage =>
      s!"identifier {Text.quoted identifier} is already registered for {Stage.describe stage}"
  | .unknownIdentifier identifier stage =>
      s!"no library entry for {Text.quoted identifier} ({Stage.describe stage})"
  | .emptyProgram identifier => s!"program {Text.quoted identifier} lists no shader objects"
  | .alreadyLoaded => "the library manifest has already been loaded"

/-- The registered factories and programs, and whether a manifest was loaded. -/
structure Library (Factory : Type) where
  objects : Table (Provision Factory)
  programs : Table Program
  loaded : Bool

namespace Library

variable {Factory : Type}

/-- The library in which nothing is registered. -/
def empty : Library Factory := ⟨Table.empty, Table.empty, false⟩

instance : Inhabited (Library Factory) := ⟨empty⟩

/-- The provision for an identifier with one more factory, unless it is in the way of one that is
there already. -/
def extend? (present : Option (Provision Factory)) (stage : Option Stage) (factory : Factory) :
    Option (Provision Factory) :=
  match present, stage with
  | none, none => some (.anyStage factory)
  | none, some stage => some (.byStage fun other => if other = stage then some factory else none)
  | some (.byStage factory?), some stage =>
      if (factory? stage).isSome then none
      else some (.byStage fun other => if other = stage then some factory else factory? other)
  | some _, _ => none

/-- Registers a factory for one stage, or for any stage. -/
def register (library : Library Factory) (identifier : Text) (stage : Option Stage)
    (factory : Factory) : Except LibraryError (Library Factory) :=
  match extend? (library.objects.find? identifier) stage factory with
  | none => .error (.duplicateIdentifier identifier stage)
  | some provision =>
      .ok { library with objects := library.objects.insert identifier provision }

/-- Registers a program, which has to have components. -/
def addProgram (library : Library Factory) (program : Program) :
    Except LibraryError (Library Factory) :=
  if program.components.isEmpty then .error (.emptyProgram program.identifier)
  else if library.programs.contains program.identifier then
    .error (.duplicateIdentifier program.identifier none)
  else .ok { library with programs := library.programs.insert program.identifier program }

/-- Registers an entry. -/
def insert (library : Library Factory) : Entry Factory → Except LibraryError (Library Factory)
  | .object identifier stage factory => library.register identifier stage factory
  | .program program => library.addProgram program

/-- The messages about an entry that was registered. -/
def messagesOf : Entry Factory → List Message
  | .object identifier stage _ => [.registered identifier stage]
  | .program _ => []

/-- Registers entries in order up to the first one that fails, with the messages about those before
it. -/
def insertAll (library : Library Factory) :
    List (Entry Factory) → Except LibraryError (Library Factory) × List Message
  | [] => (.ok library, [])
  | entry :: rest =>
      match library.insert entry with
      | .error error => (.error error, [])
      | .ok next =>
          let (result, messages) := next.insertAll rest
          (result, messagesOf entry ++ messages)

/-- The message about a manifest that was loaded. -/
def loadedMessage (library : Library Factory) : Message :=
  let provisions := library.objects.entries.map Prod.snd
  let staged := (provisions.flatMap Provision.stages).length
  let generic := provisions.countP fun provision =>
    match provision with
    | .anyStage _ => true
    | .byStage _ => false
  .loaded staged generic library.programs.size

/-- Registers all entries of a manifest. This can succeed once, and registers either all or none. -/
def load (library : Library Factory) (manifest : List (Entry Factory)) :
    Except LibraryError (Library Factory) × List Message :=
  if library.loaded then (.error .alreadyLoaded, [])
  else
    match library.insertAll manifest with
    | (.error error, messages) => (.error error, messages)
    | (.ok next, messages) => (.ok { next with loaded := true }, messages ++ [next.loadedMessage])

/-- The factory for an identifier at a stage. -/
def factory? (library : Library Factory) (identifier : Text) (stage : Stage) : Option Factory :=
  (library.objects.find? identifier).bind fun provision => provision.factory? stage

/-- The factory for an identifier at a stage. There has to be one. -/
def lookup (library : Library Factory) (identifier : Text) (stage : Stage) :
    Except LibraryError Factory :=
  match library.factory? identifier stage with
  | some factory => .ok factory
  | none => .error (.unknownIdentifier identifier (some stage))

/-- The program of an identifier. There has to be one. -/
def program (library : Library Factory) (identifier : Text) : Except LibraryError Program :=
  match library.programs.find? identifier with
  | some program => .ok program
  | none => .error (.unknownIdentifier identifier none)

/-- There is a factory for an identifier at a stage. -/
def contains (library : Library Factory) (identifier : Text) (stage : Stage) : Bool :=
  (library.factory? identifier stage).isSome

/-- A factory that was registered is found at its stage, or at any; nothing else changes. -/
theorem factory?_register {library next : Library Factory} {identifier : Text}
    {stage : Option Stage} {factory : Factory}
    (registered : library.register identifier stage factory = .ok next) (query : Text)
    (at_stage : Stage) :
    next.factory? query at_stage =
      if query = identifier ∧ (stage = none ∨ stage = some at_stage) then some factory
      else library.factory? query at_stage := by
  unfold register at registered
  split at registered
  · simp at registered
  · next provision extended =>
      obtain rfl := Except.ok.inj registered
      simp only [factory?, Table.find?_insert]
      by_cases same : query = identifier
      · subst same
        unfold extend? at extended
        split at extended
        · next absent =>
            obtain rfl := Option.some.inj extended
            simp [Provision.factory?]
        · next own absent =>
            obtain rfl := Option.some.inj extended
            simp only [Provision.factory?, absent, ↓reduceIte, Option.bind_some, Option.bind_none,
              eq_comm, true_and, reduceCtorEq, false_or, Option.some.injEq]
        · next factory? own present =>
            split at extended
            · simp at extended
            · obtain rfl := Option.some.inj extended
              simp only [Provision.factory?, present, ↓reduceIte, Option.bind_some, eq_comm,
                true_and, reduceCtorEq, false_or, Option.some.injEq]
        · simp at extended
      · simp [same]

/-- What is registered for any stage stands alone: a second factory of its identifier is refused. -/
theorem register_of_anyStage {library : Library Factory} {identifier : Text} {present : Factory}
    (found : library.objects.find? identifier = some (.anyStage present)) (stage : Option Stage)
    (factory : Factory) :
    library.register identifier stage factory = .error (.duplicateIdentifier identifier stage) := by
  simp [register, extend?, found]

end Library

end GlslBuild
