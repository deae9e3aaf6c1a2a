import GlslBuild.Text.Basic

/-!
# Tables

Finite maps from texts. The entries stand in strictly increasing order of their keys, so two tables
with the same bindings are equal, and a listing of the keys is sorted and free of duplicates.
-/

namespace GlslBuild

/-- A finite map from texts. -/
structure Table (Value : Type) where
  entries : List (Text × Value)
  sorted : entries.Pairwise fun first second => first.1 < second.1
  deriving DecidableEq

namespace Table

variable {Value : Type}

/-- The table without entries. -/
def empty : Table Value := ⟨[], .nil⟩

instance : Inhabited (Table Value) := ⟨empty⟩

/-- The value bound to a key. -/
def find? (table : Table Value) (key : Text) : Option Value := table.entries.lookup key

/-- The key is bound. -/
def contains (table : Table Value) (key : Text) : Bool := (table.find? key).isSome

/-- The keys in increasing order. -/
def keys (table : Table Value) : List Text := table.entries.map Prod.fst

/-- The number of keys. -/
def size (table : Table Value) : Nat := table.entries.length

/-- Nothing is bound. -/
def isEmpty (table : Table Value) : Bool := table.entries.isEmpty

/-- Puts an entry in its place, in place of one with the same key. -/
def insertEntry (key : Text) (value : Value) : List (Text × Value) → List (Text × Value)
  | [] => [(key, value)]
  | entry :: rest =>
      if key < entry.1 then (key, value) :: entry :: rest
      else if entry.1 < key then entry :: insertEntry key value rest
      else (key, value) :: rest

theorem key_eq_of_not_lt {first second : Text} (not_below : ¬first < second)
    (not_above : ¬second < first) : first = second :=
  List.le_antisymm (List.not_lt.mp not_above) (List.not_lt.mp not_below)

theorem key_ne_of_lt {first second : Text} (below : first < second) : first ≠ second := by
  rintro rfl
  exact List.lt_irrefl first below

theorem mem_insertEntry {key : Text} {value : Value} {entries : List (Text × Value)}
    {entry : Text × Value} (member : entry ∈ insertEntry key value entries) :
    entry = (key, value) ∨ entry ∈ entries := by
  induction entries with
  | nil => simpa [insertEntry] using member
  | cons head rest induction =>
      unfold insertEntry at member
      split at member
      · simpa using member
      · split at member
        · rcases List.mem_cons.mp member with rfl | member
          · simp
          · rcases induction member with same | member
            · exact .inl same
            · exact .inr (List.mem_cons_of_mem head member)
        · rcases List.mem_cons.mp member with same | member
          · exact .inl same
          · exact .inr (List.mem_cons_of_mem head member)

theorem sorted_insertEntry {key : Text} {value : Value} {entries : List (Text × Value)}
    (sorted : entries.Pairwise fun first second => first.1 < second.1) :
    (insertEntry key value entries).Pairwise fun first second => first.1 < second.1 := by
  induction entries with
  | nil => simp [insertEntry]
  | cons head rest induction =>
      have below := (List.pairwise_cons.mp sorted).1
      have tail := (List.pairwise_cons.mp sorted).2
      unfold insertEntry
      split
      · next first =>
          refine List.pairwise_cons.mpr ⟨?_, sorted⟩
          intro entry member
          rcases List.mem_cons.mp member with rfl | member
          · exact first
          · exact List.lt_trans first (below entry member)
      · next not_first =>
          split
          · next later =>
              refine List.pairwise_cons.mpr ⟨?_, induction tail⟩
              intro entry member
              rcases mem_insertEntry member with rfl | member
              · exact later
              · exact below entry member
          · next not_later =>
              have same := key_eq_of_not_lt not_first not_later
              refine List.pairwise_cons.mpr ⟨?_, tail⟩
              intro entry member
              exact same ▸ below entry member

/-- The table with a key bound to a value, whatever it was bound to before. -/
def insert (table : Table Value) (key : Text) (value : Value) : Table Value :=
  ⟨insertEntry key value table.entries, sorted_insertEntry table.sorted⟩

/-- The table with a key left unbound. -/
def erase (table : Table Value) (key : Text) : Table Value :=
  ⟨table.entries.filter fun entry => entry.1 != key, table.sorted.filter _⟩

@[simp] theorem find?_empty (key : Text) : (empty : Table Value).find? key = none := rfl

theorem lookup_cons_eq (query : Text) (head : Text × Value) (rest : List (Text × Value)) :
    (head :: rest).lookup query = if query = head.1 then some head.2 else rest.lookup query := by
  rw [List.lookup_cons]
  by_cases same : query = head.1
  · simp [same]
  · rw [if_neg same, beq_false_of_ne same]

theorem lookup_eq_none_of_lt {key : Text} {entries : List (Text × Value)}
    (below : ∀ entry ∈ entries, key < entry.1) : entries.lookup key = none := by
  rw [List.lookup_eq_none_iff]
  intro entry member
  simpa using key_ne_of_lt (below entry member)

theorem lookup_insertEntry {key : Text} {value : Value} {entries : List (Text × Value)}
    (sorted : entries.Pairwise fun first second => first.1 < second.1) (query : Text) :
    (insertEntry key value entries).lookup query =
      if query = key then some value else entries.lookup query := by
  induction entries with
  | nil => by_cases same : query = key <;> simp [insertEntry, lookup_cons_eq, same]
  | cons head rest induction =>
      have below := (List.pairwise_cons.mp sorted).1
      unfold insertEntry
      split
      · by_cases same : query = key <;> simp [lookup_cons_eq, same]
      · next not_first =>
          split
          · next later =>
              rw [lookup_cons_eq, lookup_cons_eq, induction (List.pairwise_cons.mp sorted).2]
              by_cases same : query = key
              · subst same
                rw [if_pos rfl, if_pos rfl, if_neg (key_ne_of_lt later).symm]
              · rw [if_neg same, if_neg same]
          · next not_later =>
              have same_key := key_eq_of_not_lt not_first not_later
              by_cases same : query = key <;> simp [lookup_cons_eq, same, ← same_key]

/-- The key inserted last is bound to its value, and the other keys are bound as before. -/
theorem find?_insert (table : Table Value) (key : Text) (value : Value) (query : Text) :
    (table.insert key value).find? query = if query = key then some value else table.find? query :=
  lookup_insertEntry table.sorted query

theorem lookup_filter_ne (entries : List (Text × Value)) (key query : Text) :
    (entries.filter fun entry => entry.1 != key).lookup query =
      if query = key then none else entries.lookup query := by
  induction entries with
  | nil => simp
  | cons head rest induction =>
      by_cases removed : head.1 = key
      · rw [List.filter_cons_of_neg (by simpa using removed), induction, lookup_cons_eq]
        by_cases same : query = key <;> simp [same, removed]
      · rw [List.filter_cons_of_pos (by simpa using removed), lookup_cons_eq, lookup_cons_eq,
          induction]
        by_cases same : query = key
        · subst same
          rw [if_pos rfl, if_pos rfl, if_neg (Ne.symm removed)]
        · rw [if_neg same, if_neg same]

/-- The erased key is unbound, and the other keys are bound as before. -/
theorem find?_erase (table : Table Value) (key query : Text) :
    (table.erase key).find? query = if query = key then none else table.find? query :=
  lookup_filter_ne table.entries key query

theorem mem_entries_iff (table : Table Value) (key : Text) (value : Value) :
    (key, value) ∈ table.entries ↔ table.find? key = some value := by
  obtain ⟨entries, sorted⟩ := table
  simp only [find?]
  induction entries with
  | nil => simp
  | cons head rest induction =>
      have below := (List.pairwise_cons.mp sorted).1
      rw [List.mem_cons, induction (List.pairwise_cons.mp sorted).2, lookup_cons_eq]
      by_cases same : key = head.1
      · subst same
        simp [lookup_eq_none_of_lt below, Prod.ext_iff, eq_comm]
      · simp [Prod.ext_iff, same]

/-- The keys are exactly the bound texts. -/
theorem mem_keys_iff (table : Table Value) (key : Text) :
    key ∈ table.keys ↔ table.contains key = true := by
  simp only [contains, Option.isSome_iff_exists, keys, List.mem_map, Prod.exists, mem_entries_iff]
  constructor
  · rintro ⟨name, value, bound, rfl⟩
    exact ⟨value, bound⟩
  · rintro ⟨value, bound⟩
    exact ⟨key, value, bound, rfl⟩

/-- The keys are listed in increasing order. -/
theorem sorted_keys (table : Table Value) : table.keys.Pairwise (· < ·) :=
  List.pairwise_map.mpr table.sorted

theorem length_insertEntry {key : Text} {value : Value} {entries : List (Text × Value)}
    (bound : ∃ entry ∈ entries, entry.1 = key)
    (sorted : entries.Pairwise fun first second => first.1 < second.1) :
    (insertEntry key value entries).length = entries.length := by
  induction entries with
  | nil => simp at bound
  | cons head rest induction =>
      have below := (List.pairwise_cons.mp sorted).1
      obtain ⟨entry, member, rfl⟩ := bound
      unfold insertEntry
      split
      · next first =>
          rcases List.mem_cons.mp member with rfl | member
          · exact absurd first (List.lt_irrefl _)
          · exact absurd (List.lt_trans first (below entry member)) (List.lt_irrefl _)
      · split
        · next later =>
            rcases List.mem_cons.mp member with rfl | member
            · exact absurd later (List.lt_irrefl _)
            · simp [induction ⟨entry, member, rfl⟩ (List.pairwise_cons.mp sorted).2]
        · rfl

theorem exists_entry_of_contains {table : Table Value} {key : Text}
    (bound : table.contains key = true) : ∃ entry ∈ table.entries, entry.1 = key := by
  obtain ⟨value, found⟩ := Option.isSome_iff_exists.mp bound
  exact ⟨(key, value), (mem_entries_iff table key value).mpr found, rfl⟩

/-- Binding a bound key again leaves the number of keys. -/
theorem size_insert_of_contains {table : Table Value} {key : Text} {value : Value}
    (bound : table.contains key = true) : (table.insert key value).size = table.size :=
  length_insertEntry (exists_entry_of_contains bound) table.sorted

/-- Erasing a bound key leaves fewer keys. -/
theorem size_erase_lt {table : Table Value} {key : Text} (bound : table.contains key = true) :
    (table.erase key).size < table.size := by
  obtain ⟨entry, member, same⟩ := exists_entry_of_contains bound
  refine List.length_filter_lt_length_iff_exists.mpr ⟨entry, member, ?_⟩
  simp [same]

theorem entries_eq_of_lookup_eq {first second : List (Text × Value)}
    (first_sorted : first.Pairwise fun left right => left.1 < right.1)
    (second_sorted : second.Pairwise fun left right => left.1 < right.1)
    (same : ∀ key, first.lookup key = second.lookup key) : first = second := by
  induction first generalizing second with
  | nil =>
      cases second with
      | nil => rfl
      | cons head rest => simpa [lookup_cons_eq] using same head.1
  | cons head rest induction =>
      cases second with
      | nil => simpa [lookup_cons_eq] using same head.1
      | cons head' rest' =>
          have below := (List.pairwise_cons.mp first_sorted).1
          have below' := (List.pairwise_cons.mp second_sorted).1
          have keys_eq : head.1 = head'.1 := by
            apply key_eq_of_not_lt
            · intro smaller
              have absent : (head' :: rest').lookup head.1 = none := by
                apply lookup_eq_none_of_lt
                intro entry member
                rcases List.mem_cons.mp member with rfl | member
                · exact smaller
                · exact List.lt_trans smaller (below' entry member)
              simpa [lookup_cons_eq, absent] using same head.1
            · intro smaller
              have absent : (head :: rest).lookup head'.1 = none := by
                apply lookup_eq_none_of_lt
                intro entry member
                rcases List.mem_cons.mp member with rfl | member
                · exact smaller
                · exact List.lt_trans smaller (below entry member)
              simpa [lookup_cons_eq, absent] using same head'.1
          have values_eq : head.2 = head'.2 := by
            have found := same head.1
            simpa [lookup_cons_eq, keys_eq] using found
          have heads_eq : head = head' := Prod.ext keys_eq values_eq
          subst heads_eq
          rw [induction (List.pairwise_cons.mp first_sorted).2
            (List.pairwise_cons.mp second_sorted).2]
          intro key
          have found := same key
          rw [lookup_cons_eq, lookup_cons_eq] at found
          by_cases query : key = head.1
          · rw [query, lookup_eq_none_of_lt below, lookup_eq_none_of_lt below']
          · simpa [query] using found

/-- Tables with the same bindings are equal. -/
@[ext] theorem ext {first second : Table Value}
    (same : ∀ key, first.find? key = second.find? key) : first = second := by
  obtain ⟨entries, sorted⟩ := first
  obtain ⟨entries', sorted'⟩ := second
  congr
  exact entries_eq_of_lookup_eq sorted sorted' same

end Table

end GlslBuild
