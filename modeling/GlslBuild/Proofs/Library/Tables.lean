import GlslBuild.Library
import Mathlib.Data.Finmap

/-!
# Libraries in two tables

The factories for single stages can be kept in one table and those for any stage in another, and
both be changed in place. Before a factory is registered, both are searched for one that is in its
way. The entries of a manifest are registered in a copy, which takes the place of the tables once it
is complete, and is dropped if one of them is refused. Together the tables are always one library:
they accept what it accepts, fail as it fails and tell the same messages, and a manifest that fails
leaves them as they were.
-/

namespace GlslBuild

variable {Factory : Type}

/-- The factories of single stages, those for any stage, and the programs. -/
structure Tables (Factory : Type) where
  staged : Finmap fun _ : Text × Stage => Factory
  generic : Finmap fun _ : Text => Factory
  programs : Finmap fun _ : Text => Program
  loaded : Bool

namespace Tables

/-- The tables in which nothing is registered. -/
def empty : Tables Factory := ⟨∅, ∅, ∅, false⟩

/-- A computation that changes tables and tells messages, and leaves both as they are by then if it
fails. -/
abbrev Action (Factory Value : Type) : Type :=
  EStateM LibraryError (Tables Factory × List Message) Value

/-- A factory is registered that is in the way of one for the stage, or for any stage. -/
def blocks (tables : Tables Factory) (identifier : Text) : Option Stage → Bool
  | some stage => identifier ∈ tables.generic || (identifier, stage) ∈ tables.staged
  | none => identifier ∈ tables.generic || decide (∃ key ∈ tables.staged.keys, key.1 = identifier)

/-- The tables with a factory in the one that it belongs to. -/
def place (tables : Tables Factory) (identifier : Text) (stage : Option Stage)
    (factory : Factory) : Tables Factory :=
  match stage with
  | some own => { tables with staged := tables.staged.insert (identifier, own) factory }
  | none => { tables with generic := tables.generic.insert identifier factory }

/-- Registers a factory for one stage, or for any stage. -/
def insertObject (identifier : Text) (stage : Option Stage) (factory : Factory) :
    Action Factory Unit := do
  if (← get).1.blocks identifier stage then throw (.duplicateIdentifier identifier stage)
  modify fun (tables, told) => (tables, told ++ [.registered identifier stage])
  modify fun (tables, told) => (tables.place identifier stage factory, told)

/-- Registers a program, which has to have components. -/
def insertProgram (program : Program) : Action Factory Unit := do
  if program.components.isEmpty then throw (.emptyProgram program.identifier)
  if program.identifier ∈ (← get).1.programs then
    throw (.duplicateIdentifier program.identifier none)
  modify fun (tables, told) =>
    ({ tables with programs := tables.programs.insert program.identifier program }, told)

/-- Registers an entry. -/
def insert : Entry Factory → Action Factory Unit
  | .object identifier stage factory => insertObject identifier stage factory
  | .program program => insertProgram program

/-- Registers entries one after the other. -/
def insertEach : List (Entry Factory) → Action Factory Unit
  | [] => return
  | entry :: rest => do
      insert entry
      insertEach rest

/-- The message about a manifest that was loaded. -/
def loadedMessage (tables : Tables Factory) : Message :=
  .loaded tables.staged.keys.card tables.generic.keys.card tables.programs.keys.card

/-- Registers the entries of a manifest in a copy, and puts it in place of the tables. -/
def load (manifest : List (Entry Factory)) : Action Factory Unit := do
  let (tables, told) ← get
  if tables.loaded then throw .alreadyLoaded
  match (insertEach manifest).run (tables, told) with
  | .error error (_, told) =>
      set (tables, told)
      throw error
  | .ok () (copy, told) =>
      let complete := { copy with loaded := true }
      set (complete, told ++ [complete.loadedMessage])

/-- The factory for an identifier at a stage, or else for any stage. -/
def lookup (tables : Tables Factory) (identifier : Text) (stage : Stage) :
    Except LibraryError Factory :=
  match (tables.staged.lookup (identifier, stage)).or (tables.generic.lookup identifier) with
  | some factory => .ok factory
  | none => .error (.unknownIdentifier identifier (some stage))

/-- The program of an identifier. There has to be one. -/
def program (tables : Tables Factory) (identifier : Text) : Except LibraryError Program :=
  match tables.programs.lookup identifier with
  | some program => .ok program
  | none => .error (.unknownIdentifier identifier none)

end Tables

/-! ## The library in the tables -/

/-- The factory for any stage. -/
def Provision.general? : Provision Factory → Option Factory
  | .anyStage factory => some factory
  | .byStage _ => none

/-- The factory for this stage alone. -/
def Provision.special? (stage : Stage) : Provision Factory → Option Factory
  | .anyStage _ => none
  | .byStage factory? => factory? stage

namespace Tables

variable {tables : Tables Factory} {library : Library Factory}

/-- The tables hold what is registered in the library. -/
structure Holds (tables : Tables Factory) (library : Library Factory) : Prop where
  generic (identifier : Text) : tables.generic.lookup identifier =
    (library.objects.find? identifier).bind Provision.general?
  staged (identifier : Text) (stage : Stage) : tables.staged.lookup (identifier, stage) =
    (library.objects.find? identifier).bind (Provision.special? stage)
  programs (identifier : Text) : tables.programs.lookup identifier =
    library.programs.find? identifier
  loaded : tables.loaded = library.loaded
  /-- Where factories are kept by stage, there is one. -/
  some_stage {identifier : Text} {factory? : Stage → Option Factory}
    (found : library.objects.find? identifier = some (.byStage factory?)) :
    ∃ stage, (factory? stage).isSome = true

theorem holds_empty : Holds (empty : Tables Factory) Library.empty :=
  ⟨fun _ => rfl, fun _ _ => rfl, fun _ => rfl, rfl, nofun⟩

theorem Holds.mem_generic_iff (holds : Holds tables library) (identifier : Text) :
    identifier ∈ tables.generic ↔
      ((library.objects.find? identifier).bind Provision.general?).isSome = true := by
  rw [← Finmap.lookup_isSome, holds.generic]

theorem Holds.mem_staged_iff (holds : Holds tables library) (identifier : Text) (stage : Stage) :
    (identifier, stage) ∈ tables.staged ↔
      ((library.objects.find? identifier).bind (Provision.special? stage)).isSome = true := by
  rw [← Finmap.lookup_isSome, holds.staged]

theorem Holds.mem_programs_iff (holds : Holds tables library) (identifier : Text) :
    identifier ∈ tables.programs ↔ library.programs.contains identifier = true := by
  rw [← Finmap.lookup_isSome, holds.programs, Table.contains]

/-- No identifier is in both tables. -/
theorem Holds.exclusive (holds : Holds tables library) {identifier : Text}
    (general : identifier ∈ tables.generic) (stage : Stage) :
    (identifier, stage) ∉ tables.staged := by
  rw [holds.mem_generic_iff] at general
  rw [holds.mem_staged_iff]
  generalize library.objects.find? identifier = present at general ⊢
  rcases present with _ | _ | factory?
  · simp
  · simp [Provision.special?]
  · simp [Provision.general?] at general

/-- What is in the way in the tables is in the way in the library. -/
theorem Holds.blocks_eq (holds : Holds tables library) (identifier : Text)
    (stage : Option Stage) (factory : Factory) :
    tables.blocks identifier stage =
      (Library.extend? (library.objects.find? identifier) stage factory).isNone := by
  have general := holds.mem_generic_iff identifier
  have special := holds.mem_staged_iff identifier
  have listed : (∃ key ∈ tables.staged.keys, key.1 = identifier) ↔
      ∃ own, (identifier, own) ∈ tables.staged := by
    constructor
    · rintro ⟨⟨_, own⟩, listed, rfl⟩
      exact ⟨own, Finmap.mem_keys.mp listed⟩
    · rintro ⟨own, there⟩
      exact ⟨(identifier, own), Finmap.mem_keys.mpr there, rfl⟩
  have some_stage := @holds.some_stage identifier
  generalize library.objects.find? identifier = present at general special some_stage ⊢
  rw [Bool.eq_iff_iff]
  cases stage with
  | some own =>
      rcases present with _ | _ | factory? <;>
        simp [blocks, general, special, Library.extend?, Provision.general?, Provision.special?,
          Option.isSome_iff_ne_none]
  | none =>
      simp only [blocks, Bool.or_eq_true, decide_eq_true_eq, general, listed, special]
      rcases present with _ | _ | factory?
      · simp [Library.extend?]
      · simp [Library.extend?, Provision.general?]
      · simpa [Library.extend?, Provision.general?, Provision.special?] using some_stage rfl

/-! ## Registration -/

/-- One more factory is the one for any stage, or the one for its stage, and no other is. -/
theorem factories_of_extend? {present : Option (Provision Factory)} {stage : Option Stage}
    {factory : Factory} {provision : Provision Factory}
    (extended : Library.extend? present stage factory = some provision) :
    provision.general? =
        (if stage = none then some factory else present.bind Provision.general?) ∧
      (∀ own, provision.special? own =
        if stage = some own then some factory else present.bind (Provision.special? own)) ∧
      ∀ factory?, provision = .byStage factory? → ∃ own, (factory? own).isSome = true := by
  unfold Library.extend? at extended
  split at extended
  · obtain rfl := Option.some.inj extended
    exact ⟨rfl, fun _ => rfl, nofun⟩
  · next own =>
      obtain rfl := Option.some.inj extended
      refine ⟨rfl, fun other => ?_, ?_⟩
      · simp [Provision.special?, eq_comm]
      · rintro _ ⟨⟩
        exact ⟨own, by simp⟩
  · next factory? own =>
      obtain ⟨-, extended⟩ := Option.ite_none_left_eq_some.mp extended
      obtain rfl := Option.some.inj extended
      refine ⟨rfl, fun other => ?_, ?_⟩
      · simp [Provision.special?, eq_comm]
      · rintro _ ⟨⟩
        exact ⟨own, by simp⟩
  · contradiction

theorem lookup_insert_eq {Key Value : Type} [DecidableEq Key]
    (bound : Finmap fun _ : Key => Value) (key query : Key) (value : Value) :
    (bound.insert key value).lookup query =
      if query = key then some value else bound.lookup query := by
  split
  · next same => rw [same, Finmap.lookup_insert]
  · next other => rw [Finmap.lookup_insert_of_ne _ other]

/-- A factory goes to one of the tables and to the library. -/
theorem Holds.place (holds : Holds tables library) {identifier : Text} {stage : Option Stage}
    {factory : Factory} {provision : Provision Factory}
    (extended : Library.extend? (library.objects.find? identifier) stage factory = some provision) :
    Holds (tables.place identifier stage factory)
      { library with objects := library.objects.insert identifier provision } := by
  obtain ⟨general, special, some_stage⟩ := factories_of_extend? extended
  refine ⟨fun query => ?_, fun query own => ?_, ?_, ?_, ?_⟩
  · rw [Table.find?_insert]
    by_cases same : query = identifier
    · subst same
      rw [if_pos rfl, Option.bind_some, general, ← holds.generic]
      cases stage <;> simp [Tables.place]
    · rw [if_neg same, ← holds.generic]
      cases stage <;> simp [Tables.place, same]
  · rw [Table.find?_insert]
    by_cases same : query = identifier
    · subst same
      rw [if_pos rfl, Option.bind_some, special, ← holds.staged]
      cases stage <;> simp [Tables.place, lookup_insert_eq, eq_comm]
    · rw [if_neg same, ← holds.staged]
      cases stage <;> simp [Tables.place, same]
  · cases stage <;> exact holds.programs
  · cases stage <;> exact holds.loaded
  · intro query factory? found
    rw [Table.find?_insert] at found
    split at found
    · exact some_stage factory? (Option.some.inj found)
    · exact holds.some_stage found

theorem Holds.addProgram (holds : Holds tables library) (program : Program) :
    Holds { tables with programs := tables.programs.insert program.identifier program }
      { library with programs := library.programs.insert program.identifier program } := by
  refine ⟨holds.generic, holds.staged, fun query => ?_, holds.loaded, holds.some_stage⟩
  rw [lookup_insert_eq, Table.find?_insert, holds.programs]

theorem run_insertObject (identifier : Text) (stage : Option Stage) (factory : Factory)
    (told : List Message) :
    (insertObject identifier stage factory).run (tables, told) =
      if tables.blocks identifier stage then
        .error (.duplicateIdentifier identifier stage) (tables, told)
      else
        .ok () (tables.place identifier stage factory, told ++ [.registered identifier stage]) := by
  cases blocked : tables.blocks identifier stage <;> simp [insertObject, blocked]

theorem run_insertProgram (program : Program) (told : List Message) :
    (insertProgram program).run (tables, told) =
      if program.components.isEmpty then .error (.emptyProgram program.identifier) (tables, told)
      else if program.identifier ∈ tables.programs then
        .error (.duplicateIdentifier program.identifier none) (tables, told)
      else .ok () ({ tables with
        programs := tables.programs.insert program.identifier program }, told) := by
  cases empty : program.components.isEmpty with
  | true => simp [insertProgram, empty]
  | false =>
      by_cases known : program.identifier ∈ tables.programs <;>
        simp [insertProgram, empty, known]

/-- An entry is refused by both with one error, or registered in both. -/
theorem Holds.insert_cases (holds : Holds tables library) (entry : Entry Factory)
    (told : List Message) :
    (∃ error, library.insert entry = .error error ∧
        (insert entry).run (tables, told) = .error error (tables, told)) ∨
      ∃ next later, library.insert entry = .ok next ∧ Holds later next ∧
        (insert entry).run (tables, told) = .ok () (later, told ++ Library.messagesOf entry) := by
  cases entry with
  | object identifier stage factory =>
      have blocked := holds.blocks_eq identifier stage factory
      cases extended : Library.extend? (library.objects.find? identifier) stage factory with
      | none =>
          refine .inl ⟨.duplicateIdentifier identifier stage, ?_, ?_⟩
          · simp [Library.insert, Library.register, extended]
          · simp [insert, run_insertObject, blocked, extended]
      | some provision =>
          refine .inr ⟨_, _, ?_, holds.place extended, ?_⟩
          · simp [Library.insert, Library.register, extended]
          · simp [insert, run_insertObject, blocked, extended, Library.messagesOf]
  | program program =>
      have known := holds.mem_programs_iff program.identifier
      cases empty : program.components.isEmpty with
      | true =>
          refine .inl ⟨.emptyProgram program.identifier, ?_, ?_⟩
          · simp [Library.insert, Library.addProgram, empty]
          · simp [insert, run_insertProgram, empty]
      | false =>
          cases taken : library.programs.contains program.identifier with
          | true =>
              refine .inl ⟨.duplicateIdentifier program.identifier none, ?_, ?_⟩
              · simp [Library.insert, Library.addProgram, empty, taken]
              · simp [insert, run_insertProgram, empty, known, taken]
          | false =>
              refine .inr ⟨_, _, ?_, holds.addProgram program, ?_⟩
              · simp [Library.insert, Library.addProgram, empty, taken]
              · simp [insert, run_insertProgram, empty, known, taken, Library.messagesOf]

/-- Entries are refused by both with one error, or registered in both. A refusal leaves the tables
with the entries before it. -/
theorem Holds.insertEach_cases (holds : Holds tables library) (entries : List (Entry Factory))
    (told : List Message) :
    (∃ error messages copy, library.insertAll entries = (.error error, messages) ∧
        (insertEach entries).run (tables, told) = .error error (copy, told ++ messages)) ∨
      ∃ next messages later, library.insertAll entries = (.ok next, messages) ∧
        Holds later next ∧
        (insertEach entries).run (tables, told) = .ok () (later, told ++ messages) := by
  induction entries generalizing tables library told with
  | nil => exact .inr ⟨library, [], tables, rfl, holds, by simp [insertEach]⟩
  | cons entry rest induction =>
      rcases holds.insert_cases entry told with
        ⟨error, refused, failed⟩ | ⟨middle, between, accepted, middle_holds, done⟩
      · exact .inl ⟨error, [], tables, by simp [Library.insertAll, refused],
          by simp [insertEach, failed]⟩
      · rcases induction middle_holds (told ++ Library.messagesOf entry) with
          ⟨error, messages, copy, refused, failed⟩ |
            ⟨next, messages, later, all, next_holds, continued⟩
        · refine .inl ⟨error, Library.messagesOf entry ++ messages, copy, ?_, ?_⟩
          · simp [Library.insertAll, accepted, refused]
          · simp [insertEach, done, failed]
        · refine .inr ⟨next, Library.messagesOf entry ++ messages, later, ?_, next_holds, ?_⟩
          · simp [Library.insertAll, accepted, all]
          · simp [insertEach, done, continued]

/-! ## Manifests -/

theorem card_keys_eq {Key Value : Type} [DecidableEq Key] {bound : Finmap fun _ : Key => Value}
    {listed : List Key} (nodup : listed.Nodup) (same : ∀ key, key ∈ bound ↔ key ∈ listed) :
    bound.keys.card = listed.length := by
  rw [← List.toFinset_card_of_nodup nodup]
  congr 1
  ext key
  rw [Finmap.mem_keys, List.mem_toFinset, same]

theorem nodup_stages (provision : Provision Factory) : provision.stages.Nodup := by
  cases provision with
  | anyStage factory => exact .nil
  | byStage factory? => exact List.Nodup.filter _ (show Stage.all.Nodup by decide)

theorem mem_stages_iff (provision : Provision Factory) (stage : Stage) :
    stage ∈ provision.stages ↔ (provision.special? stage).isSome = true := by
  cases provision with
  | anyStage factory => simp [Provision.stages, Provision.special?]
  | byStage factory? =>
      have listed : stage ∈ Stage.all := by cases stage <;> decide
      simp [Provision.stages, Provision.special?, listed]

theorem Holds.card_generic (holds : Holds tables library) : tables.generic.keys.card =
    (library.objects.entries.map Prod.snd).countP fun provision => provision.general?.isSome := by
  rw [List.countP_map, List.countP_eq_length_filter, ← List.length_map Prod.fst]
  refine card_keys_eq ?_ fun identifier => ?_
  · have distinct : library.objects.keys.Nodup := library.objects.sorted_keys.imp Table.key_ne_of_lt
    exact distinct.sublist (List.filter_sublist.map Prod.fst)
  · rw [holds.mem_generic_iff]
    simp [Table.mem_entries_iff, Option.isSome_bind, Option.any_eq_true]

/-- Each stage of each identifier is counted once. -/
theorem Holds.card_staged (holds : Holds tables library) : tables.staged.keys.card =
    ((library.objects.entries.map Prod.snd).flatMap Provision.stages).length := by
  have length_eq : ((library.objects.entries.map Prod.snd).flatMap Provision.stages).length =
      (library.objects.entries.flatMap fun entry => entry.2.stages.map (entry.1, ·)).length := by
    simp [List.flatMap_map, List.length_flatMap]
  rw [length_eq]
  refine card_keys_eq (List.nodup_flatMap.mpr ⟨?_, ?_⟩) ?_
  · intro entry _
    exact (nodup_stages entry.2).map (Prod.mk_right_injective entry.1)
  · refine library.objects.sorted.imp fun below => ?_
    intro key first second
    obtain ⟨_, -, rfl⟩ := List.mem_map.mp first
    obtain ⟨_, -, same⟩ := List.mem_map.mp second
    exact Table.key_ne_of_lt below (congrArg Prod.fst same).symm
  · rintro ⟨identifier, stage⟩
    rw [holds.mem_staged_iff]
    simp [Table.mem_entries_iff, Option.isSome_bind, Option.any_eq_true, mem_stages_iff]

theorem Holds.loadedMessage_eq (holds : Holds tables library) :
    tables.loadedMessage = library.loadedMessage := by
  have programs : tables.programs.keys.card = library.programs.keys.length := by
    refine card_keys_eq (library.programs.sorted_keys.imp Table.key_ne_of_lt) fun identifier => ?_
    rw [holds.mem_programs_iff, Table.mem_keys_iff]
  rw [loadedMessage, holds.card_staged, holds.card_generic, programs, Table.keys, List.length_map]
  have general : (fun provision : Provision Factory => provision.general?.isSome) =
      fun provision => match provision with
        | .anyStage _ => true
        | .byStage _ => false := by
    funext provision
    cases provision <;> rfl
  rw [general]
  rfl

/-- A manifest is refused by both with one error, and then leaves the tables as they are, or is
registered in both. -/
theorem Holds.load_cases (holds : Holds tables library) (manifest : List (Entry Factory))
    (told : List Message) :
    (∃ error messages, library.load manifest = (.error error, messages) ∧
        (load manifest).run (tables, told) = .error error (tables, told ++ messages)) ∨
      ∃ next messages later, library.load manifest = (.ok next, messages) ∧ Holds later next ∧
        (load manifest).run (tables, told) = .ok () (later, told ++ messages) := by
  cases loaded : library.loaded with
  | true =>
      refine .inl ⟨.alreadyLoaded, [], by simp [Library.load, loaded], ?_⟩
      simp [load, holds.loaded, loaded]
  | false =>
      rcases holds.insertEach_cases manifest told with
        ⟨error, messages, copy, refused, failed⟩ | ⟨next, messages, later, all, filled, done⟩
      · refine .inl ⟨error, messages, by simp [Library.load, loaded, refused], ?_⟩
        simp [load, holds.loaded, loaded, failed]
      · have complete : Holds { later with loaded := true } { next with loaded := true } :=
          ⟨filled.generic, filled.staged, filled.programs, rfl, filled.some_stage⟩
        have message_eq : ({ later with loaded := true } : Tables Factory).loadedMessage =
            next.loadedMessage := complete.loadedMessage_eq
        refine .inr ⟨_, messages ++ [next.loadedMessage], _, ?_, complete, ?_⟩
        · simp [Library.load, loaded, all]
        · simp [load, holds.loaded, loaded, done, message_eq]

/-! ## Queries -/

theorem Holds.lookup_eq (holds : Holds tables library) (identifier : Text) (stage : Stage) :
    tables.lookup identifier stage = library.lookup identifier stage := by
  have same : (tables.staged.lookup (identifier, stage)).or (tables.generic.lookup identifier) =
      library.factory? identifier stage := by
    rw [holds.staged, holds.generic, Library.factory?]
    rcases library.objects.find? identifier with _ | _ | factory?
    · rfl
    · rfl
    · simp [Provision.general?, Provision.special?, Provision.factory?]
  cases found : library.factory? identifier stage <;> simp [lookup, same, Library.lookup, found]

theorem Holds.program_eq (holds : Holds tables library) (identifier : Text) :
    tables.program identifier = library.program identifier := by
  have same := holds.programs identifier
  cases found : library.programs.find? identifier <;>
    simp [program, same, Library.program, found]

end Tables

end GlslBuild
