import GlslBuild.Proofs.Library.Entry
import GlslBuild.Proofs.Library.Growth
import GlslBuild.Proofs.Library.Tables

/-!
# Libraries in use

Entries are registered in a library one by one or as a manifest, and every attempt may fail.
Whatever is tried, the library answers as the entries of the attempts that succeeded say, no two of
which exclude each other. A manifest is loaded as a whole or not at all, and its order does not
matter. All this holds of the two tables that are changed in place as well.
-/

namespace GlslBuild

variable {Factory : Type}

/-- What is done to a library: an entry is registered, or a manifest is loaded. -/
inductive Registration (Factory : Type) where
  | single (entry : Entry Factory)
  | manifest (entries : List (Entry Factory))

namespace Registration

/-- The entries of a registration. -/
def entries : Registration Factory → List (Entry Factory)
  | .single entry => [entry]
  | .manifest entries => entries

/-- The library after a registration, unless this fails. -/
def apply (library : Library Factory) :
    Registration Factory → Except LibraryError (Library Factory)
  | .single entry => library.insert entry
  | .manifest entries => (library.load entries).1

end Registration

/-- A library with the registrations that succeeded. -/
structure Registry (Factory : Type) where
  library : Library Factory
  accepted : List (Registration Factory)

namespace Registry

/-- An empty library before the first registration. -/
def start : Registry Factory := ⟨Library.empty, []⟩

/-- All entries that were accepted, in order. -/
def entries (registry : Registry Factory) : List (Entry Factory) :=
  registry.accepted.flatMap Registration.entries

/-- Tries a registration. -/
def perform (registry : Registry Factory) (registration : Registration Factory) :
    Registry Factory × Except LibraryError Unit :=
  match registration.apply registry.library with
  | .ok library => (⟨library, registry.accepted ++ [registration]⟩, .ok ())
  | .error error => (registry, .error error)

/-- The library after registrations were tried. -/
def run (registry : Registry Factory) (registrations : List (Registration Factory)) :
    Registry Factory :=
  registrations.foldl (fun registry registration => (registry.perform registration).1) registry

/-- A query is answered with the only candidate, or with an error if there is none. -/
def Answers {Value : Type} (missing : LibraryError) (candidates : List Value) :
    Except LibraryError Value → Prop
  | .ok found => candidates = [found]
  | .error error => candidates = [] ∧ error = missing

/-- The library holds what was accepted, and knows whether a manifest was. -/
structure Faithful (registry : Registry Factory) : Prop where
  lists : registry.library.Lists registry.entries
  loaded_iff : registry.library.loaded = true ↔
    ∃ manifest, .manifest manifest ∈ registry.accepted

theorem faithful_start : Faithful (start : Registry Factory) :=
  ⟨Library.lists_empty, by simp [start, Library.empty]⟩

theorem loaded_of_insert {library next : Library Factory} {entry : Entry Factory}
    (inserted : library.insert entry = .ok next) : next.loaded = library.loaded := by
  cases entry with
  | object identifier scope factory =>
      rw [Library.insert, Library.register] at inserted
      split at inserted
      · simp at inserted
      · obtain rfl := Except.ok.inj inserted
        rfl
  | program program =>
      rw [Library.insert, Library.addProgram] at inserted
      split_ifs at inserted
      obtain rfl := Except.ok.inj inserted
      rfl

/-- A manifest is loaded if it is the first one and its entries fit, and else refused for that. -/
theorem Faithful.load_cases {registry : Registry Factory} (faithful : registry.Faithful)
    (manifest : List (Entry Factory)) :
    (registry.library.loaded = true ∧
        (registry.library.load manifest).1 = .error .alreadyLoaded) ∨
      registry.library.loaded = false ∧
        ((∃ next, (registry.library.load manifest).1 = .ok next ∧ next.loaded = true ∧
            Entry.Fit registry.entries manifest ∧ next.Lists (registry.entries ++ manifest)) ∨
          ∃ before entry after, manifest = before ++ entry :: after ∧
            Entry.Fit registry.entries before ∧ entry.Offends (registry.entries ++ before) ∧
            (registry.library.load manifest).1 = .error entry.refusal) := by
  cases loaded : registry.library.loaded with
  | true => exact .inl ⟨rfl, by simp [Library.load, loaded]⟩
  | false =>
      refine .inr ⟨rfl, ?_⟩
      cases done : registry.library.insertAll manifest with
      | mk result messages =>
          rcases faithful.lists.insertAll_cases manifest with
            ⟨next, inserted, fit, lists⟩ | ⟨before, entry, after, split, fit, offends, refused⟩
          · obtain rfl : result = .ok next := by rw [← inserted, done]
            have loaded_next : (registry.library.load manifest).1 =
                .ok { next with loaded := true } := by
              simp [Library.load, loaded, done]
            exact .inl ⟨_, loaded_next, rfl, fit, lists.objects, lists.programs⟩
          · obtain rfl : result = .error entry.refusal := by rw [← refused, done]
            have kept : (registry.library.load manifest).1 = .error entry.refusal := by
              simp [Library.load, loaded, done]
            exact .inr ⟨before, entry, after, split, fit, offends, kept⟩

theorem Faithful.perform {registry : Registry Factory} (faithful : registry.Faithful)
    (registration : Registration Factory) : (registry.perform registration).1.Faithful := by
  rw [Registry.perform]
  split
  · next library applied =>
      cases registration with
      | single entry =>
          rcases faithful.lists.insert_cases entry with
            ⟨refused, -⟩ | ⟨next, inserted, -, lists⟩
          · simp [Registration.apply, refused] at applied
          · obtain rfl := Except.ok.inj (inserted.symm.trans applied)
            refine ⟨by simpa [entries, Registration.entries] using lists, ?_⟩
            simp [loaded_of_insert inserted, faithful.loaded_iff]
      | manifest entries =>
          rcases faithful.load_cases entries with
            ⟨-, refused⟩ | ⟨-, ⟨next, loaded, flag, -, lists⟩ | ⟨_, _, _, -, -, -, refused⟩⟩
          · simp [Registration.apply, refused] at applied
          · obtain rfl := Except.ok.inj (loaded.symm.trans applied)
            refine ⟨by simpa [Registry.entries, Registration.entries] using lists, ?_⟩
            simp [flag]
          · simp [Registration.apply, refused] at applied
  · exact faithful

theorem faithful_run (registrations : List (Registration Factory)) :
    ((start : Registry Factory).run registrations).Faithful := by
  have from_any (registry : Registry Factory) (faithful : registry.Faithful) :
      (registry.run registrations).Faithful := by
    induction registrations generalizing registry with
    | nil => exact faithful
    | cons registration rest induction => exact induction _ (faithful.perform registration)
  exact from_any start faithful_start

theorem extends_perform (registry : Registry Factory) (registration : Registration Factory) :
    registry.library.Extends (registry.perform registration).1.library := by
  rw [perform]
  split
  · next library applied =>
      cases registration with
      | single entry => exact Library.extends_of_insert applied
      | manifest entries => exact Library.extends_of_load applied
  · exact .refl _

theorem extends_run (registry : Registry Factory) (registrations : List (Registration Factory)) :
    registry.library.Extends (registry.run registrations).library := by
  induction registrations generalizing registry with
  | nil => exact .refl _
  | cons registration rest induction =>
      exact (registry.extends_perform registration).trans (induction _)

end Registry

/-! ## In two tables -/

/-- The registration in tables. -/
def Registration.act : Registration Factory → Tables.Action Factory Unit
  | .single entry => Tables.insert entry
  | .manifest entries => Tables.load entries

namespace Tables

/-- Tries a registration. -/
def perform (tables : Tables Factory) (registration : Registration Factory) :
    Tables Factory × Except LibraryError Unit :=
  match registration.act.run (tables, []) with
  | .ok () (next, _) => (next, .ok ())
  | .error error (next, _) => (next, .error error)

/-- The tables after registrations were tried. -/
def run (tables : Tables Factory) (registrations : List (Registration Factory)) : Tables Factory :=
  registrations.foldl (fun tables registration => (tables.perform registration).1) tables

theorem Holds.act_cases {tables : Tables Factory} {library : Library Factory}
    (holds : Holds tables library) (registration : Registration Factory) :
    (∃ error told, registration.apply library = .error error ∧
        registration.act.run (tables, []) = .error error (tables, told)) ∨
      ∃ next later told, registration.apply library = .ok next ∧ Holds later next ∧
        registration.act.run (tables, []) = .ok () (later, told) := by
  cases registration with
  | single entry =>
      rcases holds.insert_cases entry [] with
        ⟨error, refused, failed⟩ | ⟨next, later, inserted, later_holds, done⟩
      · exact .inl ⟨error, [], refused, failed⟩
      · exact .inr ⟨next, later, _, inserted, later_holds, done⟩
  | manifest entries =>
      rcases holds.load_cases entries [] with
        ⟨error, messages, refused, failed⟩ | ⟨next, messages, later, loaded, later_holds, done⟩
      · exact .inl ⟨error, _, congrArg Prod.fst refused, failed⟩
      · exact .inr ⟨next, later, _, congrArg Prod.fst loaded, later_holds, done⟩

/-- The tables take a registration or refuse it with an error just as the library does. If they
refuse it, they are as before. -/
theorem Holds.perform {tables : Tables Factory} {registry : Registry Factory}
    (holds : Holds tables registry.library) (registration : Registration Factory) :
    let result := tables.perform registration
    let outcome := registry.perform registration
    result.2 = outcome.2 ∧ Holds result.1 outcome.1.library ∧
      ∀ error, outcome.2 = .error error → result.1 = tables := by
  intro result outcome
  rcases holds.act_cases registration with
    ⟨error, told, refused, failed⟩ | ⟨next, later, told, applied, later_holds, done⟩
  · have outcome_eq : outcome = (registry, .error error) := by
      simp only [outcome, Registry.perform, refused]
    have result_eq : result = (tables, .error error) := by
      simp only [result, Tables.perform, failed]
    rw [outcome_eq, result_eq]
    exact ⟨rfl, holds, fun _ _ => rfl⟩
  · have outcome_eq : outcome = (⟨next, registry.accepted ++ [registration]⟩, .ok ()) := by
      simp only [outcome, Registry.perform, applied]
    have result_eq : result = (later, .ok ()) := by
      simp only [result, Tables.perform, done]
    rw [outcome_eq, result_eq]
    exact ⟨rfl, later_holds, nofun⟩

/-- Whatever was tried, the tables hold what the library does. -/
theorem holds_run (registrations : List (Registration Factory)) :
    Holds (empty.run registrations) (Registry.start.run registrations).library := by
  have from_any (tables : Tables Factory) (registry : Registry Factory)
      (holds : Holds tables registry.library) :
      Holds (tables.run registrations) (registry.run registrations).library := by
    induction registrations generalizing tables registry with
    | nil => exact holds
    | cons registration rest induction => exact induction _ _ (holds.perform registration).2.1
  exact from_any empty .start holds_empty

end Tables

namespace Registry

/-- Whatever was tried, a query finds the one accepted entry that matches it, and fails if there is
none. No identifier has a factory for any stage beside one for a single stage. What was found once
is found after all further attempts. The tables that are changed in place accept and refuse the
same, have no identifier in both, and answer every query as the library does. -/
theorem queries_answer_accepted (registrations : List (Registration Factory)) :
    let registry := (start : Registry Factory).run registrations
    let tables : Tables Factory := Tables.empty.run registrations
    (∀ identifier stage, Answers (.unknownIdentifier identifier (some stage))
        (registry.entries.filterMap (Entry.factory? identifier stage))
        (registry.library.lookup identifier stage)) ∧
      (∀ identifier, Answers (.unknownIdentifier identifier none)
        (registry.entries.filterMap (Entry.program? identifier))
        (registry.library.program identifier)) ∧
      (∀ identifier general stage special, .object identifier none general ∈ registry.entries →
        .object identifier (some stage) special ∉ registry.entries) ∧
      (∀ later, registry.library.Extends (registry.run later).library) ∧
      (∀ registration,
        (tables.perform registration).2 = (registry.perform registration).2) ∧
      (∀ identifier stage, identifier ∈ tables.generic → (identifier, stage) ∉ tables.staged) ∧
      (∀ identifier stage,
        tables.lookup identifier stage = registry.library.lookup identifier stage) ∧
      ∀ identifier, tables.program identifier = registry.library.program identifier := by
  intro registry tables
  have lists : registry.library.Lists registry.entries := (faithful_run registrations).lists
  have holds : tables.Holds registry.library := Tables.holds_run registrations
  refine ⟨?_, ?_, ?_, registry.extends_run, fun registration => (holds.perform registration).1,
    fun identifier stage general => holds.exclusive general stage, holds.lookup_eq,
    holds.program_eq⟩
  · intro identifier stage
    rw [lists.filterMap_factory?, Library.lookup]
    cases registry.library.factory? identifier stage with
    | none => exact ⟨rfl, rfl⟩
    | some factory => rfl
  · intro identifier
    rw [lists.programs, Library.program]
    cases registry.library.programs.find? identifier with
    | none => exact ⟨rfl, rfl⟩
    | some program => rfl
  · intro identifier general stage special there
    exact lists.scoped_notMem there stage special

/-! ## Manifests -/

/-- What becomes of a manifest: it is late, or accepted, or refused for its first offender. -/
theorem Faithful.perform_manifest_cases {registry : Registry Factory}
    (faithful : registry.Faithful) (manifest : List (Entry Factory)) :
    ((∃ earlier, .manifest earlier ∈ registry.accepted) ∧
        registry.perform (.manifest manifest) = (registry, .error .alreadyLoaded)) ∨
      (∀ earlier, .manifest earlier ∉ registry.accepted) ∧
        ((∃ next : Registry Factory, registry.perform (.manifest manifest) = (next, .ok ()) ∧
            Entry.Fit registry.entries manifest ∧
            next.library.Lists (registry.entries ++ manifest)) ∨
          ∃ before entry after, manifest = before ++ entry :: after ∧
            Entry.Fit registry.entries before ∧ entry.Offends (registry.entries ++ before) ∧
            registry.perform (.manifest manifest) = (registry, .error entry.refusal)) := by
  rcases faithful.load_cases manifest with ⟨loaded, refused⟩ | ⟨unloaded, outcome⟩
  · refine .inl ⟨faithful.loaded_iff.mp loaded, ?_⟩
    simp only [Registry.perform, Registration.apply, refused]
  · rw [← Bool.not_eq_true, faithful.loaded_iff, not_exists] at unloaded
    refine .inr ⟨unloaded, ?_⟩
    rcases outcome with
      ⟨next, accepted, -, fit, lists⟩ | ⟨before, entry, after, split, fit, offends, refused⟩
    · refine .inl ⟨⟨next, registry.accepted ++ [.manifest manifest]⟩, ?_, fit, lists⟩
      simp only [Registry.perform, Registration.apply, accepted]
    · exact .inr ⟨before, entry, after, split, fit, offends,
        by simp only [Registry.perform, Registration.apply, refused]⟩

/-- The first manifest whose entries fit is accepted as a whole. -/
theorem Faithful.perform_of_fit {registry : Registry Factory} (faithful : registry.Faithful)
    {manifest : List (Entry Factory)}
    (first : ∀ earlier, .manifest earlier ∉ registry.accepted)
    (fit : Entry.Fit registry.entries manifest) :
    (registry.perform (.manifest manifest)).2 = .ok () ∧
      (registry.perform (.manifest manifest)).1.library.Lists (registry.entries ++ manifest) := by
  rcases faithful.perform_manifest_cases manifest with
    ⟨⟨earlier, late⟩, -⟩ | ⟨-, ⟨next, accepted, -, lists⟩ | ⟨_, _, _, rfl, -, offends, -⟩⟩
  · exact absurd late (first earlier)
  · rw [accepted]
    exact ⟨rfl, lists⟩
  · exact absurd offends fit.not_offends

/-- A manifest is accepted exactly if none was before and its entries fit, among each other and to
those that are there. If it is refused, the library stays as it was, and the error is that of the
first entry that offends against those before it, unless a manifest was loaded already. In another
order an accepted manifest is accepted too, and every query is answered the same. The tables that
are changed in place accept it just as the library does, and are as before if they refuse it. -/
theorem load_iff_fit (registrations : List (Registration Factory))
    (manifest : List (Entry Factory)) :
    let registry := (start : Registry Factory).run registrations
    let outcome := registry.perform (.manifest manifest)
    (outcome.2 = .ok () ↔
        (∀ earlier, .manifest earlier ∉ registry.accepted) ∧
          Entry.Fit registry.entries manifest) ∧
      (∀ error, outcome.2 = .error error →
        outcome.1 = registry ∧
          ((error = .alreadyLoaded ∧ ∃ earlier, .manifest earlier ∈ registry.accepted) ∨
            (∀ earlier, .manifest earlier ∉ registry.accepted) ∧
              ∃ before entry after, manifest = before ++ entry :: after ∧
                Entry.Fit registry.entries before ∧
                entry.Offends (registry.entries ++ before) ∧ error = entry.refusal)) ∧
      (outcome.2 = .ok () → ∀ other, manifest.Perm other →
        let reordered := registry.perform (.manifest other)
        reordered.2 = .ok () ∧
          (∀ identifier stage, reordered.1.library.lookup identifier stage =
            outcome.1.library.lookup identifier stage) ∧
          ∀ identifier, reordered.1.library.program identifier =
            outcome.1.library.program identifier) ∧
      let tables : Tables Factory := Tables.empty.run registrations
      let result := tables.perform (.manifest manifest)
      result.2 = outcome.2 ∧ (∀ error, outcome.2 = .error error → result.1 = tables) := by
  intro registry outcome
  have faithful : registry.Faithful := faithful_run registrations
  have holds : (Tables.empty.run registrations).Holds registry.library :=
    Tables.holds_run registrations
  have same := holds.perform (.manifest manifest)
  refine ⟨⟨?_, ?_⟩, ?_, ?_, same.1, same.2.2⟩
  · intro accepted
    rcases faithful.perform_manifest_cases manifest with
      ⟨-, refused⟩ | ⟨first, ⟨-, -, fit, -⟩ | ⟨_, _, _, -, -, -, refused⟩⟩
    · simp [outcome, refused] at accepted
    · exact ⟨first, fit⟩
    · simp [outcome, refused] at accepted
  · rintro ⟨first, fit⟩
    exact (faithful.perform_of_fit first fit).1
  · intro error failed
    rcases faithful.perform_manifest_cases manifest with ⟨late, refused⟩ |
      ⟨first, ⟨next, accepted, -⟩ | ⟨before, entry, after, split, fit, offends, refused⟩⟩
    · simp only [outcome, refused, Except.error.injEq] at failed ⊢
      exact ⟨trivial, .inl ⟨failed.symm, late⟩⟩
    · simp [outcome, accepted] at failed
    · simp only [outcome, refused, Except.error.injEq] at failed ⊢
      exact ⟨trivial, .inr ⟨first, before, entry, after, split, fit, offends, failed.symm⟩⟩
  · intro accepted other perm reordered
    rcases faithful.perform_manifest_cases manifest with
      ⟨-, refused⟩ | ⟨first, ⟨next, performed, fit, lists⟩ | ⟨_, _, _, -, -, -, refused⟩⟩
    · simp [outcome, refused] at accepted
    · obtain ⟨also, other_lists⟩ := faithful.perform_of_fit first (fit.perm perm)
      have swapped := perm.symm.append_left registry.entries
      simp only [outcome, performed]
      refine ⟨also, ?_, ?_⟩
      · exact fun identifier stage => other_lists.lookup_eq_of_perm lists swapped identifier stage
      · exact fun identifier => other_lists.program_eq_of_perm lists swapped identifier
    · simp [outcome, refused] at accepted

end Registry

end GlslBuild
