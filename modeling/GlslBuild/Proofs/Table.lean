import GlslBuild.Table
import Mathlib.Data.List.Perm.Basic

/-!
# Entries of tables up to order

What binding and erasing a key does to the entries as a whole. Counting over a table goes through
these permutations, so that it never depends on where a key stands.
-/

namespace GlslBuild.Table

variable {Value : Type}

theorem nodup_entries (table : Table Value) : table.entries.Nodup :=
  table.sorted.imp fun below same => key_ne_of_lt below (congrArg Prod.fst same)

theorem mem_entries_erase_iff (table : Table Value) (key : Text) (entry : Text × Value) :
    entry ∈ (table.erase key).entries ↔ entry ∈ table.entries ∧ entry.1 ≠ key := by
  simp [erase, List.mem_filter]

/-- A bound key stands in exactly one entry. -/
theorem entries_perm_cons_erase {table : Table Value} {key : Text} {value : Value}
    (found : table.find? key = some value) :
    table.entries.Perm ((key, value) :: (table.erase key).entries) := by
  have absent : (key, value) ∉ (table.erase key).entries := by
    simp [mem_entries_erase_iff]
  have nodup := List.nodup_cons.mpr ⟨absent, nodup_entries (table.erase key)⟩
  apply (List.perm_ext_iff_of_nodup table.nodup_entries nodup).mpr
  rintro ⟨name, bound⟩
  rw [List.mem_cons, mem_entries_erase_iff, Prod.mk.injEq]
  constructor
  · intro member
    by_cases same : name = key
    · subst same
      have unique := ((mem_entries_iff table name bound).mp member).symm.trans found
      exact .inl ⟨rfl, Option.some.inj unique⟩
    · exact .inr ⟨member, same⟩
  · rintro (⟨rfl, rfl⟩ | ⟨member, -⟩)
    · exact (mem_entries_iff table name bound).mpr found
    · exact member

theorem erase_insert (table : Table Value) (key : Text) (value : Value) :
    (table.insert key value).erase key = table.erase key := by
  ext query : 1
  rw [find?_erase, find?_erase, find?_insert]
  split <;> simp_all

theorem insert_erase (table : Table Value) (key : Text) (value : Value) :
    (table.erase key).insert key value = table.insert key value := by
  ext query : 1
  rw [find?_insert, find?_insert, find?_erase]
  split <;> simp_all

theorem erase_of_find?_eq_none {table : Table Value} {key : Text}
    (absent : table.find? key = none) : table.erase key = table := by
  ext query : 1
  rw [find?_erase]
  split <;> simp_all

/-- Binding a key adds its entry to those of the other keys. -/
theorem entries_insert_perm (table : Table Value) (key : Text) (value : Value) :
    (table.insert key value).entries.Perm ((key, value) :: (table.erase key).entries) := by
  have found : (table.insert key value).find? key = some value := by simp [find?_insert]
  simpa only [erase_insert] using entries_perm_cons_erase found

theorem entries_insert_perm_of_absent {table : Table Value} {key : Text}
    (absent : table.find? key = none) (value : Value) :
    (table.insert key value).entries.Perm ((key, value) :: table.entries) := by
  simpa only [erase_of_find?_eq_none absent] using entries_insert_perm table key value

/-- What was bound before an absent key still is. -/
theorem find?_insert_of_absent {table : Table Value} {key other : Text} {value present : Value}
    (absent : table.find? key = none) (found : table.find? other = some present) :
    (table.insert key value).find? other = some present := by
  rw [find?_insert, if_neg, found]
  rintro rfl
  rw [absent] at found
  contradiction

/-- The table with every value replaced by another. -/
def map {Other : Type} (change : Value → Other) (table : Table Value) : Table Other :=
  ⟨table.entries.map fun entry => (entry.1, change entry.2), List.pairwise_map.mpr table.sorted⟩

variable {Other : Type}

@[simp] theorem entries_map (change : Value → Other) (table : Table Value) :
    (table.map change).entries = table.entries.map fun entry => (entry.1, change entry.2) := rfl

@[simp] theorem map_empty (change : Value → Other) : (empty : Table Value).map change = empty :=
  rfl

@[simp] theorem find?_map (change : Value → Other) (table : Table Value) (key : Text) :
    (table.map change).find? key = (table.find? key).map change := by
  obtain ⟨entries, sorted⟩ := table
  simp only [find?, map]
  clear sorted
  induction entries with
  | nil => rfl
  | cons entry rest induction =>
      rw [List.map_cons, lookup_cons_eq, lookup_cons_eq, induction]
      split <;> rfl

theorem map_insert (change : Value → Other) (table : Table Value) (key : Text) (value : Value) :
    (table.insert key value).map change = (table.map change).insert key (change value) := by
  ext query : 1
  rw [find?_map, find?_insert, find?_insert, find?_map]
  split <;> rfl

theorem map_erase (change : Value → Other) (table : Table Value) (key : Text) :
    (table.erase key).map change = (table.map change).erase key := by
  ext query : 1
  rw [find?_map, find?_erase, find?_erase, find?_map]
  split <;> rfl

theorem eq_empty_of_find?_eq_none {table : Table Value}
    (absent : ∀ key, table.find? key = none) : table = empty := by
  ext key : 1
  rw [absent key, find?_empty]

end GlslBuild.Table
