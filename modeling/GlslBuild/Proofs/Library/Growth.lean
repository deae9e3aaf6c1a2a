import GlslBuild.Library

/-!
# Growth of libraries

A library only grows: what it found once it finds after all further registrations, whether they
succeed or not.
-/

namespace GlslBuild.Library

variable {Factory : Type}

theorem lookup_eq_ok_iff {library : Library Factory} {identifier : Text} {stage : Stage}
    {factory : Factory} :
    library.lookup identifier stage = .ok factory ↔
      library.factory? identifier stage = some factory := by
  rw [lookup]
  split <;> simp_all

theorem program_eq_ok_iff {library : Library Factory} {identifier : Text} {program : Program} :
    library.program identifier = .ok program ↔
      library.programs.find? identifier = some program := by
  rw [Library.program]
  split <;> simp_all

/-- Everything that the one library finds, the other finds too. -/
structure Extends (library next : Library Factory) : Prop where
  lookup {identifier : Text} {stage : Stage} {factory : Factory} :
    library.lookup identifier stage = .ok factory → next.lookup identifier stage = .ok factory
  program {identifier : Text} {program : Program} :
    library.program identifier = .ok program → next.program identifier = .ok program

theorem Extends.refl (library : Library Factory) : Extends library library :=
  ⟨fun found => found, fun found => found⟩

theorem Extends.trans {library middle next : Library Factory} (first : Extends library middle)
    (second : Extends middle next) : Extends library next :=
  ⟨fun found => second.lookup (first.lookup found),
    fun found => second.program (first.program found)⟩

/-- A factory is never registered where one is found already. -/
theorem factory?_eq_none_of_register {library next : Library Factory} {identifier : Text}
    {scope : Option Stage} {factory : Factory}
    (registered : library.register identifier scope factory = .ok next) {stage : Stage}
    (covered : scope = none ∨ scope = some stage) : library.factory? identifier stage = none := by
  rw [register] at registered
  split at registered
  · simp at registered
  · next provision extended =>
      rw [factory?]
      unfold extend? at extended
      split at extended
      · next absent => simp [absent]
      · next own absent => simp [absent]
      · next factory? own present =>
          obtain rfl := by simpa using covered
          split at extended
          · simp at extended
          · next free => simpa [present, Provision.factory?] using free
      · simp at extended

theorem extends_of_register {library next : Library Factory} {identifier : Text}
    {scope : Option Stage} {factory : Factory}
    (registered : library.register identifier scope factory = .ok next) :
    Extends library next := by
  refine ⟨?_, ?_⟩
  · intro query stage known found
    rw [lookup_eq_ok_iff] at found ⊢
    rw [factory?_register registered, if_neg, found]
    rintro ⟨rfl, covered⟩
    rw [factory?_eq_none_of_register registered covered] at found
    contradiction
  · intro query program found
    rw [register] at registered
    split at registered
    · simp at registered
    · obtain rfl := Except.ok.inj registered
      exact found

theorem extends_of_addProgram {library next : Library Factory} {program : Program}
    (added : library.addProgram program = .ok next) : Extends library next := by
  rw [addProgram] at added
  split at added
  · simp at added
  · split at added
    · simp at added
    · next free =>
        obtain rfl := Except.ok.inj added
        refine ⟨fun found => found, ?_⟩
        intro identifier known found
        rw [program_eq_ok_iff] at found ⊢
        rw [Table.find?_insert, if_neg, found]
        rintro rfl
        exact free (by simp [Table.contains, found])

theorem extends_of_insert {library next : Library Factory} {entry : Entry Factory}
    (inserted : library.insert entry = .ok next) : Extends library next := by
  cases entry with
  | object identifier scope factory => exact extends_of_register inserted
  | program program => exact extends_of_addProgram inserted

theorem extends_of_insertAll {library next : Library Factory} {entries : List (Entry Factory)}
    (inserted : (library.insertAll entries).1 = .ok next) : Extends library next := by
  induction entries generalizing library with
  | nil =>
      obtain rfl := Except.ok.inj inserted
      exact .refl library
  | cons entry rest induction =>
      rw [insertAll] at inserted
      split at inserted
      · simp at inserted
      · next middle first => exact (extends_of_insert first).trans (induction inserted)

theorem extends_of_load {library next : Library Factory} {manifest : List (Entry Factory)}
    (loaded : (library.load manifest).1 = .ok next) : Extends library next := by
  rw [load] at loaded
  split at loaded
  · simp at loaded
  · split at loaded
    · simp at loaded
    · next last messages inserted =>
        obtain rfl := Except.ok.inj loaded
        have all : (library.insertAll manifest).1 = .ok last := by rw [inserted]
        have grown := extends_of_insertAll all
        exact ⟨grown.lookup, grown.program⟩

end GlslBuild.Library
