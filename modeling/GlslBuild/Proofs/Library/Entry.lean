import GlslBuild.Library
import Mathlib.Data.List.Basic
import Mathlib.Data.List.Perm.Basic

/-!
# Entries side by side

A library is described by the entries that were registered in it. It takes one more entry exactly if
this stands in the way of none of them, and it takes a manifest exactly if all its entries fit in
together. That no longer depends on the order of the manifest.
-/

namespace GlslBuild

variable {Factory : Type}

namespace Entry

/-- What an entry offers for an identifier: a factory, and the stage that it is for, if only one. -/
def offer? (identifier : Text) : Entry Factory → Option (Option Stage × Factory)
  | .object own scope factory => if own = identifier then some (scope, factory) else none
  | .program _ => none

/-- The factory that an entry provides for an identifier at a stage. -/
def factory? (identifier : Text) (stage : Stage) : Entry Factory → Option Factory
  | .object own scope factory =>
      if own = identifier ∧ (scope = none ∨ scope = some stage) then some factory else none
  | .program _ => none

/-- The program that an entry provides for an identifier. -/
def program? (identifier : Text) : Entry Factory → Option Program
  | .object .. => none
  | .program own => if own.identifier = identifier then some own else none

/-- Two entries that exclude each other. -/
def Conflicts : Entry Factory → Entry Factory → Prop
  | .object first scope _, .object second other _ =>
      first = second ∧ (scope = other ∨ scope = none ∨ other = none)
  | .program first, .program second => first.identifier = second.identifier
  | _, _ => False

/-- A program without components. -/
def IsEmpty : Entry Factory → Prop
  | .object .. => False
  | .program own => own.components = []

/-- The entry cannot be registered after the others. -/
def Offends (entry : Entry Factory) (others : List (Entry Factory)) : Prop :=
  entry.IsEmpty ∨ ∃ other ∈ others, other.Conflicts entry

/-- The error that an entry is refused with. -/
def refusal : Entry Factory → LibraryError
  | .object identifier scope _ => .duplicateIdentifier identifier scope
  | .program own =>
      if own.components = [] then .emptyProgram own.identifier
      else .duplicateIdentifier own.identifier none

theorem Conflicts.symm {first second : Entry Factory} (conflict : first.Conflicts second) :
    second.Conflicts first := by
  cases first with
  | object identifier scope factory =>
      cases second with
      | object other range factory =>
          obtain ⟨same, equal | general | general⟩ := conflict
          · exact ⟨same.symm, .inl equal.symm⟩
          · exact ⟨same.symm, .inr (.inr general)⟩
          · exact ⟨same.symm, .inr (.inl general)⟩
      | program => exact conflict
  | program own =>
      cases second with
      | object => exact conflict
      | program other => exact Eq.symm conflict

/-- Entries that can be registered together after those that are there. -/
structure Fit (present entries : List (Entry Factory)) : Prop where
  nonempty : ∀ entry ∈ entries, ¬entry.IsEmpty
  apart : entries.Pairwise fun first second => ¬first.Conflicts second
  new : ∀ other ∈ present, ∀ entry ∈ entries, ¬other.Conflicts entry

theorem fit_nil (present : List (Entry Factory)) : Fit present [] :=
  ⟨by simp, .nil, by simp⟩

theorem fit_cons {present rest : List (Entry Factory)} {entry : Entry Factory} :
    Fit present (entry :: rest) ↔ ¬entry.Offends present ∧ Fit (present ++ [entry]) rest := by
  constructor
  · rintro ⟨nonempty, apart, new⟩
    rw [List.forall_mem_cons] at nonempty
    rw [List.pairwise_cons] at apart
    refine ⟨?_, nonempty.2, apart.2, ?_⟩
    · rintro (empty | ⟨other, there, conflict⟩)
      · exact nonempty.1 empty
      · exact new other there entry List.mem_cons_self conflict
    · intro other there later listed
      rcases List.mem_append.mp there with there | there
      · exact new other there later (List.mem_cons_of_mem entry listed)
      · exact List.mem_singleton.mp there ▸ apart.1 later listed
  · rintro ⟨inoffensive, nonempty, apart, new⟩
    refine ⟨?_, ?_, ?_⟩
    · exact List.forall_mem_cons.mpr ⟨fun empty => inoffensive (.inl empty), nonempty⟩
    · exact List.pairwise_cons.mpr ⟨new entry (by simp), apart⟩
    · intro other there later listed
      rcases List.mem_cons.mp listed with rfl | listed
      · exact fun conflict => inoffensive (.inr ⟨other, there, conflict⟩)
      · exact new other (List.mem_append_left _ there) later listed

/-- An entry that offends spoils all entries that it is among. -/
theorem Fit.not_offends {present before after : List (Entry Factory)} {entry : Entry Factory}
    (fit : Fit present (before ++ entry :: after)) : ¬entry.Offends (present ++ before) := by
  induction before generalizing present with
  | nil => simpa using (fit_cons.mp fit).1
  | cons first rest induction => simpa using induction (fit_cons.mp fit).2

/-- Whether entries fit does not depend on their order. -/
theorem Fit.perm {present entries others : List (Entry Factory)} (fit : Fit present entries)
    (perm : entries.Perm others) : Fit present others := by
  refine ⟨?_, ?_, ?_⟩
  · exact fun entry listed => fit.nonempty entry (perm.mem_iff.mpr listed)
  · exact (perm.pairwise_iff fun apart conflict => apart conflict.symm).mp fit.apart
  · exact fun other there entry listed => fit.new other there entry (perm.mem_iff.mpr listed)

end Entry

/-! ## Factories of one identifier -/

namespace Provision

/-- What offers for one identifier come to, if they get along. -/
inductive Collects : Option (Provision Factory) → List (Option Stage × Factory) → Prop
  | nothing : Collects none []
  | anyStage (factory : Factory) : Collects (some (.anyStage factory)) [(none, factory)]
  | byStage {factory? : Stage → Option Factory} {offers : List (Option Stage × Factory)}
      (some_offer : offers ≠ [])
      (no_general : ∀ offer ∈ offers, offer.1 ≠ none)
      (each : ∀ stage, (offers.filterMap fun offer =>
        if offer.1 = some stage then some offer.2 else none) = (factory? stage).toList) :
      Collects (some (.byStage factory?)) offers

/-- The offer leaves no room for one of this scope. -/
def Blocks (scope : Option Stage) (offer : Option Stage × Factory) : Prop :=
  offer.1 = scope ∨ offer.1 = none ∨ scope = none

/-- There is one factory at most for each stage, and it is the one that was offered. -/
theorem Collects.factory?_eq {present : Option (Provision Factory)}
    {offers : List (Option Stage × Factory)} (collects : Collects present offers) (stage : Stage) :
    (offers.filterMap fun offer =>
        if offer.1 = none ∨ offer.1 = some stage then some offer.2 else none) =
      (present.bind fun provision => provision.factory? stage).toList := by
  cases collects with
  | nothing => rfl
  | anyStage factory => simp [Provision.factory?]
  | byStage some_offer no_general each =>
      simp only [Option.bind_some, Provision.factory?, ← each stage]
      apply List.filterMap_congr
      intro offer listed
      simp [no_general offer listed]

/-- One more offer is accepted exactly if no other leaves it no room. -/
theorem Collects.extend?_cases {present : Option (Provision Factory)}
    {offers : List (Option Stage × Factory)} (collects : Collects present offers)
    (scope : Option Stage) (factory : Factory) :
    (Library.extend? present scope factory = none ∧ ∃ offer ∈ offers, Blocks scope offer) ∨
      ∃ provision, Library.extend? present scope factory = some provision ∧
        (∀ offer ∈ offers, ¬Blocks scope offer) ∧
          Collects (some provision) (offers ++ [(scope, factory)]) := by
  cases collects with
  | nothing =>
      right
      cases scope with
      | none => exact ⟨_, rfl, by simp, .anyStage factory⟩
      | some own =>
          refine ⟨_, rfl, by simp, .byStage (by simp) (by simp) ?_⟩
          intro stage
          by_cases same : stage = own
          · simp [same]
          · simp [same, Ne.symm same]
  | anyStage known =>
      exact .inl ⟨by cases scope <;> rfl, _, List.mem_singleton_self _, .inr (.inl rfl)⟩
  | @byStage factory? offers some_offer no_general each =>
      cases scope with
      | none =>
          obtain ⟨offer, listed⟩ := List.exists_mem_of_ne_nil offers some_offer
          exact .inl ⟨rfl, offer, listed, .inr (.inr rfl)⟩
      | some own =>
          have own_offers := each own
          cases known : factory? own with
          | some factory =>
              have offered : factory ∈ (factory? own).toList := by simp [known]
              rw [← own_offers, List.mem_filterMap] at offered
              obtain ⟨offer, listed, chosen⟩ := offered
              have same := (Option.ite_none_right_eq_some.mp chosen).1
              exact .inl ⟨by simp [Library.extend?, known], offer, listed, .inl same⟩
          | none =>
              rw [known, Option.toList_none, List.filterMap_eq_nil_iff] at own_offers
              have other : ∀ offer ∈ offers, offer.1 ≠ some own := by
                intro offer listed same
                simpa [same] using own_offers offer listed
              refine .inr ⟨.byStage fun other =>
                  if other = own then some factory else factory? other,
                by simp [Library.extend?, known], ?_, .byStage (by simp) ?_ ?_⟩
              · rintro offer listed (same | general | absurd)
                · exact other offer listed same
                · exact no_general offer listed general
                · contradiction
              · intro offer listed
                rcases List.mem_append.mp listed with listed | listed
                · exact no_general offer listed
                · simp [List.mem_singleton.mp listed]
              · intro stage
                rw [List.filterMap_append, each stage]
                by_cases same : stage = own
                · simp [same, known]
                · simp [same, Ne.symm same]

/-- An offer for any stage stands alone. -/
theorem Collects.eq_singleton {present : Option (Provision Factory)}
    {offers : List (Option Stage × Factory)} (collects : Collects present offers)
    {factory : Factory} (general : (none, factory) ∈ offers) : offers = [(none, factory)] := by
  cases collects with
  | nothing => simp at general
  | anyStage known => simpa [eq_comm] using general
  | byStage some_offer no_general each => exact absurd rfl (no_general _ general)

end Provision

/-! ## Libraries by their entries -/

theorem Entry.mem_offers_iff {identifier : Text} {scope : Option Stage} {factory : Factory}
    {entries : List (Entry Factory)} :
    (scope, factory) ∈ entries.filterMap (Entry.offer? identifier) ↔
      .object identifier scope factory ∈ entries := by
  rw [List.mem_filterMap]
  constructor
  · rintro ⟨entry, listed, offered⟩
    cases entry with
    | object own range known =>
        obtain ⟨rfl, same⟩ := Option.ite_none_right_eq_some.mp offered
        obtain ⟨rfl, rfl⟩ := Prod.mk.inj (Option.some.inj same)
        exact listed
    | program own => simp [Entry.offer?] at offered
  · exact fun listed => ⟨_, listed, by simp [Entry.offer?]⟩

theorem Entry.factory?_eq_bind_offer? (identifier : Text) (stage : Stage)
    (entry : Entry Factory) :
    entry.factory? identifier stage = (entry.offer? identifier).bind fun offer =>
      if offer.1 = none ∨ offer.1 = some stage then some offer.2 else none := by
  cases entry with
  | object own scope factory =>
      by_cases same : own = identifier <;> simp [Entry.factory?, Entry.offer?, same]
  | program own => rfl

/-- An object is in the way of another exactly if it blocks its place among their offers. -/
theorem Entry.exists_conflict_object_iff {entries : List (Entry Factory)} {identifier : Text}
    {scope : Option Stage} {factory : Factory} :
    (∃ other ∈ entries, other.Conflicts (.object identifier scope factory)) ↔
      ∃ offer ∈ entries.filterMap (Entry.offer? identifier), Provision.Blocks scope offer := by
  constructor
  · rintro ⟨other, listed, conflict⟩
    cases other with
    | object own range known =>
        obtain ⟨rfl, blocks⟩ := conflict
        exact ⟨_, mem_offers_iff.mpr listed, blocks⟩
    | program own => exact conflict.elim
  · rintro ⟨⟨range, known⟩, listed, blocks⟩
    exact ⟨_, mem_offers_iff.mp listed, rfl, blocks⟩

theorem Entry.exists_conflict_program_iff {entries : List (Entry Factory)} {program : Program} :
    (∃ other ∈ entries, other.Conflicts (.program program)) ↔
      ∃ known, known ∈ entries.filterMap (Entry.program? program.identifier) := by
  constructor
  · rintro ⟨other, listed, conflict⟩
    cases other with
    | object => exact conflict.elim
    | program own => exact ⟨own, List.mem_filterMap.mpr ⟨_, listed, if_pos conflict⟩⟩
  · rintro ⟨known, found⟩
    obtain ⟨other, listed, found⟩ := List.mem_filterMap.mp found
    cases other with
    | object => simp [Entry.program?] at found
    | program own => exact ⟨_, listed, (Option.ite_none_right_eq_some.mp found).1⟩

namespace Library

/-- What is registered in a library are these entries. -/
structure Lists (library : Library Factory) (entries : List (Entry Factory)) : Prop where
  objects (identifier : Text) : Provision.Collects (library.objects.find? identifier)
    (entries.filterMap (Entry.offer? identifier))
  programs (identifier : Text) :
    entries.filterMap (Entry.program? identifier) = (library.programs.find? identifier).toList

theorem lists_empty : Lists (empty : Library Factory) [] :=
  ⟨fun _ => .nothing, fun _ => rfl⟩

/-- The entries provide the factory that the library finds, and no other. -/
theorem Lists.filterMap_factory? {library : Library Factory} {entries : List (Entry Factory)}
    (lists : Lists library entries) (identifier : Text) (stage : Stage) :
    entries.filterMap (Entry.factory? identifier stage) =
      (library.factory? identifier stage).toList := by
  rw [Library.factory?, ← (lists.objects identifier).factory?_eq stage, List.filterMap_filterMap]
  apply List.filterMap_congr
  intro entry _
  exact Entry.factory?_eq_bind_offer? identifier stage entry

/-- A factory for any stage is the only one of its identifier. -/
theorem Lists.scoped_notMem {library : Library Factory} {entries : List (Entry Factory)}
    (lists : Lists library entries) {identifier : Text} {general : Factory}
    (there : .object identifier none general ∈ entries) (stage : Stage) (special : Factory) :
    .object identifier (some stage) special ∉ entries := by
  intro also
  have alone := (lists.objects identifier).eq_singleton (Entry.mem_offers_iff.mpr there)
  have offered := Entry.mem_offers_iff.mpr also
  simp [alone] at offered

theorem eq_of_toList_perm {Value : Type} {first second : Option Value}
    (perm : first.toList.Perm second.toList) : first = second := by
  cases first <;> cases second <;> simp_all

/-- The order of the entries does not matter to what is found. -/
theorem Lists.lookup_eq_of_perm {library other : Library Factory}
    {entries others : List (Entry Factory)} (lists : Lists library entries)
    (others_lists : Lists other others) (perm : entries.Perm others) (identifier : Text)
    (stage : Stage) : library.lookup identifier stage = other.lookup identifier stage := by
  have same := perm.filterMap (Entry.factory? identifier stage)
  rw [lists.filterMap_factory?, others_lists.filterMap_factory?] at same
  rw [lookup, lookup, eq_of_toList_perm same]

theorem Lists.program_eq_of_perm {library other : Library Factory}
    {entries others : List (Entry Factory)} (lists : Lists library entries)
    (others_lists : Lists other others) (perm : entries.Perm others) (identifier : Text) :
    library.program identifier = other.program identifier := by
  have same := perm.filterMap (Entry.program? identifier)
  rw [lists.programs, others_lists.programs] at same
  rw [Library.program, Library.program, eq_of_toList_perm same]

/-! ### Registration -/

theorem Lists.register_cases {library : Library Factory} {entries : List (Entry Factory)}
    (lists : Lists library entries) (identifier : Text) (scope : Option Stage)
    (factory : Factory) :
    let entry : Entry Factory := .object identifier scope factory
    (library.register identifier scope factory = .error entry.refusal ∧ entry.Offends entries) ∨
      ∃ next, library.register identifier scope factory = .ok next ∧ ¬entry.Offends entries ∧
        Lists next (entries ++ [entry]) := by
  intro entry
  have offends_iff : entry.Offends entries ↔
      ∃ offer ∈ entries.filterMap (Entry.offer? identifier), Provision.Blocks scope offer := by
    rw [Entry.Offends, Entry.exists_conflict_object_iff, or_iff_right]
    exact id
  rcases (lists.objects identifier).extend?_cases scope factory with
    ⟨refused, blocked⟩ | ⟨provision, extended, free, collects⟩
  · exact .inl ⟨by simp [register, refused, entry, Entry.refusal], offends_iff.mpr blocked⟩
  · have registered : library.register identifier scope factory =
        .ok { library with objects := library.objects.insert identifier provision } := by
      simp [register, extended]
    refine .inr ⟨_, registered, ?_, ?_, ?_⟩
    · rw [offends_iff]
      rintro ⟨offer, listed, blocks⟩
      exact free offer listed blocks
    · intro query
      rw [Table.find?_insert, List.filterMap_append]
      by_cases same : query = identifier
      · subst same
        simpa [entry, Entry.offer?] using collects
      · simpa [entry, Entry.offer?, same, Ne.symm same] using lists.objects query
    · intro query
      simpa [entry, List.filterMap_cons, Entry.program?] using lists.programs query

theorem Lists.addProgram_cases {library : Library Factory} {entries : List (Entry Factory)}
    (lists : Lists library entries) (program : Program) :
    let entry : Entry Factory := .program program
    (library.addProgram program = .error entry.refusal ∧ entry.Offends entries) ∨
      ∃ next, library.addProgram program = .ok next ∧ ¬entry.Offends entries ∧
        Lists next (entries ++ [entry]) := by
  intro entry
  have conflict_iff : (∃ other ∈ entries, other.Conflicts entry) ↔
      library.programs.contains program.identifier = true := by
    rw [Entry.exists_conflict_program_iff, lists.programs, Table.contains]
    cases library.programs.find? program.identifier <;> simp
  by_cases empty : program.components = []
  · exact .inl ⟨by simp [addProgram, empty, entry, Entry.refusal], .inl empty⟩
  · by_cases known : library.programs.contains program.identifier = true
    · exact .inl ⟨by simp [addProgram, empty, known, entry, Entry.refusal],
        .inr (conflict_iff.mpr known)⟩
    · have added : library.addProgram program = .ok { library with
          programs := library.programs.insert program.identifier program } := by
        simp [addProgram, empty, known]
      refine .inr ⟨_, added, ?_, ?_, ?_⟩
      · rintro (absurd | conflict)
        · exact empty absurd
        · exact known (conflict_iff.mp conflict)
      · intro query
        simpa [entry, List.filterMap_cons, Entry.offer?] using lists.objects query
      · intro query
        rw [Table.find?_insert, List.filterMap_append, lists.programs]
        by_cases same : query = program.identifier
        · subst same
          simp_all [entry, Entry.program?, Table.contains]
        · simp [entry, Entry.program?, same, Ne.symm same]

/-- An entry is refused if it offends, and else it is listed. -/
theorem Lists.insert_cases {library : Library Factory} {entries : List (Entry Factory)}
    (lists : Lists library entries) (entry : Entry Factory) :
    (library.insert entry = .error entry.refusal ∧ entry.Offends entries) ∨
      ∃ next, library.insert entry = .ok next ∧ ¬entry.Offends entries ∧
        Lists next (entries ++ [entry]) := by
  cases entry with
  | object identifier scope factory => exact lists.register_cases identifier scope factory
  | program program => exact lists.addProgram_cases program

/-- Entries in order are all listed if they fit, and else refused for the first that offends. -/
theorem Lists.insertAll_cases {library : Library Factory} {entries : List (Entry Factory)}
    (lists : Lists library entries) (manifest : List (Entry Factory)) :
    (∃ next, (library.insertAll manifest).1 = .ok next ∧ Entry.Fit entries manifest ∧
        Lists next (entries ++ manifest)) ∨
      ∃ before entry after, manifest = before ++ entry :: after ∧ Entry.Fit entries before ∧
        entry.Offends (entries ++ before) ∧
        (library.insertAll manifest).1 = .error entry.refusal := by
  induction manifest generalizing library entries with
  | nil => exact .inl ⟨library, rfl, Entry.fit_nil entries, by simpa using lists⟩
  | cons entry rest induction =>
      rcases lists.insert_cases entry with
        ⟨refused, offends⟩ | ⟨middle, inserted, inoffensive, middle_lists⟩
      · exact .inr ⟨[], entry, rest, rfl, Entry.fit_nil entries, by simpa using offends,
          by simp [insertAll, refused]⟩
      · rcases induction middle_lists with
          ⟨next, all, fit, next_lists⟩ | ⟨before, offender, after, rfl, fit, offends, refused⟩
        · refine .inl ⟨next, by simp [insertAll, inserted, all], ?_, by simpa using next_lists⟩
          exact Entry.fit_cons.mpr ⟨inoffensive, fit⟩
        · refine .inr ⟨entry :: before, offender, after, rfl, ?_, by simpa using offends, ?_⟩
          · exact Entry.fit_cons.mpr ⟨inoffensive, fit⟩
          · simp [insertAll, inserted, refused]

end Library

end GlslBuild
