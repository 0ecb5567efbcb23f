import Mathlib

/-!
# Finite maps

A finite map is Mathlib's `AList`. An insertion and a removal change the number of its keys
and the sum of a measure over its values, and what is found under each key; `put` also keeps
the place of a key that is there.
-/

namespace HydraTerm.Lib

open List

universe u v
variable {α : Type u} {β : α → Type v}

/-- The number of keys of a map. -/
def mapSize (map : AList β) : Nat := map.keys.length

theorem mapSize_empty : mapSize (∅ : AList β) = 0 := rfl

variable [DecidableEq α] {key : α} {map : AList β} {γ : Type v} (value : β key)

/-- Overwriting a key keeps the size. -/
theorem mapSize_insert_of_mem (present : key ∈ map) :
    mapSize (map.insert key value) = mapSize map := by
  have nonempty : 0 < map.keys.length := length_pos_of_mem present
  unfold mapSize
  rw [AList.keys_insert, length_cons, length_erase_of_mem present]
  omega

/-- A new key takes one place. -/
theorem mapSize_insert_of_notMem (absent : key ∉ map) :
    mapSize (map.insert key value) = mapSize map + 1 := by
  unfold mapSize
  rw [AList.keys_insert, length_cons, erase_of_not_mem absent]

/-- A removed key frees its place. -/
theorem mapSize_erase_of_mem (present : key ∈ map) : mapSize (map.erase key) + 1 = mapSize map := by
  have nonempty : 0 < map.keys.length := length_pos_of_mem present
  unfold mapSize
  rw [AList.keys_erase, length_erase_of_mem present]
  omega

/-- Removing a key takes no place. -/
theorem mapSize_erase_le (key : α) (map : AList β) : mapSize (map.erase key) ≤ mapSize map := by
  unfold mapSize
  rw [AList.keys_erase]
  exact length_erase_le

/-- A key that is found is present. -/
theorem mem_of_lookup {value : β key} (found : map.lookup key = some value) : key ∈ map :=
  AList.lookup_isSome.mp (by rw [found]; rfl)

theorem dlookup_kreplace {entries : List (Sigma fun _ : α => γ)} {value : γ}
    (listed : key ∈ entries.keys) (other : α) :
    (entries.kreplace key value).dlookup other
      = if other = key then some value else entries.dlookup other := by
  induction entries with
  | nil => simp at listed
  | cons entry rest ih =>
    obtain ⟨first, old⟩ := entry
    by_cases same : key = first
    · subst same
      by_cases isKey : other = key
      · subst isKey
        simp [List.kreplace]
      · simp [List.kreplace, isKey]
    · have later : key ∈ rest.keys := by simpa [same] using listed
      have kept : List.kreplace key value (⟨first, old⟩ :: rest)
          = ⟨first, old⟩ :: rest.kreplace key value := by
        simp [List.kreplace, same]
      rw [kept]
      by_cases isFirst : other = first
      · subst isFirst
        simp [Ne.symm same]
      · simpa [isFirst] using ih later

variable (measure : γ → Nat) (map : AList fun _ : α => γ) (key other : α) (value : γ)

/-- Looking a key up after an insertion. -/
theorem lookup_insert_eq :
    (map.insert key value).lookup other = if other = key then some value else map.lookup other := by
  split
  next same =>
    subst same
    exact AList.lookup_insert map
  next different => exact AList.lookup_insert_ne different

/-- Looking a key up after a removal. -/
theorem lookup_erase_eq :
    (map.erase key).lookup other = if other = key then none else map.lookup other := by
  split
  next same =>
    subst same
    exact AList.lookup_erase _ map
  next different => exact AList.lookup_erase_ne different

/-- A map in the order of its insertions, the latest first: a key that is there keeps its place. -/
def put : AList (fun _ : α => γ) :=
  if key ∈ map then map.replace key value else map.insert key value

theorem lookup_put :
    (put map key value).lookup other = if other = key then some value else map.lookup other := by
  unfold put
  split
  next present => exact dlookup_kreplace present other
  next => exact lookup_insert_eq map key other value

/-- The sum of a measure over the values of a map. -/
def total : Nat := (map.entries.map fun entry => measure entry.2).sum

theorem total_insert :
    total measure (map.insert key value) = measure value + total measure (map.erase key) := rfl

/-- A removed key takes its share. -/
theorem total_erase :
    total measure (map.erase key) + (map.lookup key).elim 0 measure = total measure map := by
  obtain ⟨entries, distinct⟩ := map
  change ((entries.kerase key).map _).sum + (entries.dlookup key).elim 0 measure =
    (entries.map fun entry => measure entry.2).sum
  clear distinct
  induction entries with
  | nil => rfl
  | cons entry _ ih =>
    obtain ⟨first, _⟩ := entry
    by_cases same : key = first
    · subst same
      simp [Nat.add_comm]
    · rw [kerase_cons_ne same, dlookup_cons_ne _ _ same, map_cons, map_cons,
        sum_cons, sum_cons, ← ih, Nat.add_assoc]

end HydraTerm.Lib
