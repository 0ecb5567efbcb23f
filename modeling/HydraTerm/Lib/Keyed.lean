import Mathlib

/-!
# Lists with distinct keys

A table is often a list whose entries carry a key, looked up by the first entry with the
key. When the keys are distinct the lookup finds just the entry listed under it, and two lists
under the same keys can be compared key by key.
-/

namespace HydraTerm.Lib

open List

universe u v
variable {α : Type u} {κ : Type v} [DecidableEq κ] {key : α → κ} {entries : List α} {entry : α}
  {wanted : κ}

/-- The entry found under a key is the one listed with it. -/
theorem find?_key_of_mem (distinct : (entries.map key).Nodup) (member : entry ∈ entries)
    (same : key entry = wanted) : entries.find? (key · = wanted) = some entry := by
  have present : (entries.find? (key · = wanted)).isSome :=
    find?_isSome.mpr ⟨entry, member, by simpa using same⟩
  obtain ⟨found, isFound⟩ := Option.isSome_iff_exists.mp present
  have foundSame : key found = wanted := by simpa using find?_some isFound
  rw [isFound, inj_on_of_nodup_map distinct (mem_of_find?_eq_some isFound) member
    (foundSame.trans same.symm)]

/-- Nothing is found under a key that is not listed. -/
theorem find?_key_of_not_mem (absent : wanted ∉ entries.map key) :
    entries.find? (key · = wanted) = none := by
  refine find?_eq_none.mpr fun entry member same => absent ?_
  exact mem_map.mpr ⟨entry, member, by simpa using same⟩

omit [DecidableEq κ] in
/-- What is found first goes back in front of what is left. -/
theorem cons_eraseP_perm {wanted : α → Bool} (found : entries.find? wanted = some entry) :
    (entry :: entries.eraseP wanted).Perm entries := by
  obtain ⟨same, _, _, rfl, others⟩ := find?_eq_some_iff_append.mp found
  rw [eraseP_append_right _ (by simpa using others), eraseP_cons_of_pos same]
  exact perm_middle.symm

/-- An entry and those under other keys are all entries. -/
theorem cons_filter_key_ne_perm (distinct : (entries.map key).Nodup)
    (member : entry ∈ entries) : (entry :: entries.filter (key · ≠ key entry)).Perm entries := by
  have under : ∀ other ∈ entries, key other = key entry → other = entry := fun other otherMember same =>
    inj_on_of_nodup_map distinct otherMember member same
  have once : entries.Nodup := List.Nodup.of_map key distinct
  refine (perm_ext_iff_of_nodup ?_ once).mpr fun other => ?_
  · refine nodup_cons.mpr ⟨?_, once.filter _⟩
    simp
  · by_cases same : key other = key entry
    · constructor
      · intro listed
        rcases mem_cons.mp listed with rfl | listed
        · exact member
        · exact mem_of_mem_filter listed
      · intro listed
        rw [under other listed same]
        exact mem_cons_self
    · have different : other ≠ entry := fun isEntry => same (isEntry ▸ rfl)
      simp [same, different]

/-- Lists with the same distinct keys, read alike under each key, have the same readings. -/
theorem map_perm_of_keys {β γ : Type*} {others : List β} {otherKey : β → κ} {read : α → γ}
    {otherRead : β → γ} (listed : (others.map otherKey).Perm (entries.map key))
    (distinct : (entries.map key).Nodup)
    (agree : ∀ other ∈ others, ∀ entry ∈ entries, key entry = otherKey other →
      otherRead other = read entry) : (others.map otherRead).Perm (entries.map read) := by
  -- Both readings are read off the keys through one lookup.
  let lookup : κ → Option γ := fun wanted => (entries.find? (key · = wanted)).map read
  have fromEntries : entries.map (lookup ∘ key) = (entries.map read).map some := by
    rw [map_map]
    refine map_congr_left fun entry member => ?_
    simp [lookup, find?_key_of_mem distinct member rfl]
  have fromOthers : others.map (lookup ∘ otherKey) = (others.map otherRead).map some := by
    rw [map_map]
    refine map_congr_left fun other member => ?_
    obtain ⟨entry, entryMember, same⟩ := mem_map.mp
      (listed.mem_iff.mp (mem_map_of_mem member))
    simp [lookup, find?_key_of_mem distinct entryMember same, agree other member entry entryMember
      same]
  rw [← map_perm_map_iff (Option.some_injective γ), ← fromEntries, ← fromOthers,
    ← map_map, ← map_map]
  exact listed.map lookup

end HydraTerm.Lib
