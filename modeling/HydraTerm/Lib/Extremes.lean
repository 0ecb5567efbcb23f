import Mathlib

/-!
# Least and greatest over a list

The least or the greatest of a start value and a measure of the elements of a list, taken as a loop
takes it: it bounds them all, and it is one of them.
-/

namespace HydraTerm.Lib

universe u v
variable {α : Type u} {β : Type v} [LinearOrder β] {values : List β} {start : β} {items : List α}
  {measure : α → β} {one other : β}

theorem min_mem_of_mem (member : one ∈ values) (otherMember : other ∈ values) :
    min one other ∈ values := by
  rcases min_choice one other with same | same <;> rwa [same]

theorem max_mem_of_mem (member : one ∈ values) (otherMember : other ∈ values) :
    max one other ∈ values :=
  @min_mem_of_mem βᵒᵈ _ values one other member otherMember

theorem foldl_min_mem (first : start ∈ values) (rest : ∀ item ∈ items, measure item ∈ values) :
    items.foldl (fun least item => min least (measure item)) start ∈ values := by
  induction items generalizing start with
  | nil => exact first
  | cons _ _ ih =>
    obtain ⟨here, there⟩ := List.forall_mem_cons.mp rest
    exact ih (min_mem_of_mem first here) there

theorem foldl_max_mem (first : start ∈ values) (rest : ∀ item ∈ items, measure item ∈ values) :
    items.foldl (fun most item => max most (measure item)) start ∈ values :=
  @foldl_min_mem α βᵒᵈ _ values start items measure first rest

theorem foldl_min_le : items.foldl (fun least item => min least (measure item)) start ≤ start ∧
    ∀ item ∈ items, items.foldl (fun least item => min least (measure item)) start ≤ measure item := by
  induction items generalizing start with
  | nil => exact ⟨le_rfl, by simp⟩
  | cons item _ ih =>
    obtain ⟨first, rest⟩ := @ih (min start (measure item))
    exact ⟨first.trans (min_le_left _ _),
      List.forall_mem_cons.mpr ⟨first.trans (min_le_right _ _), rest⟩⟩

theorem le_foldl_max : start ≤ items.foldl (fun most item => max most (measure item)) start ∧
    ∀ item ∈ items, measure item ≤ items.foldl (fun most item => max most (measure item)) start :=
  @foldl_min_le α βᵒᵈ _ start items measure

end HydraTerm.Lib
