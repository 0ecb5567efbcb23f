import Mathlib

/-!
# Spans that run end to end

A span is a pair of a start and an end. A list of spans runs from `lo` to `hi` when the
first starts at `lo`, each starts where the one before it ended, and the last ends at `hi`.
Spans sorted by their start that lie apart inside `lo … hi` and leave no point between them
uncovered run from `lo` to `hi`.
-/

namespace HydraTerm.Lib

open List

universe u
variable {α : Type u}

/-- The spans run end to end from `lo` to `hi`. -/
def RunsThrough (lo hi : α) : List (α × α) → Prop
  | [] => lo = hi
  | span :: rest => span.1 = lo ∧ RunsThrough span.2 hi rest

variable [LinearOrder α] {lo hi : α} {spans : List (α × α)}

/-- The ends of a list of proper spans that run end to end bound every span. -/
theorem RunsThrough.bounds (runs : RunsThrough lo hi spans)
    (proper : ∀ span ∈ spans, span.1 < span.2) :
    lo ≤ hi ∧ ∀ span ∈ spans, lo ≤ span.1 ∧ span.2 ≤ hi := by
  induction spans generalizing lo with
  | nil => exact ⟨le_of_eq runs, by simp⟩
  | cons span _ ih =>
    obtain ⟨rfl, later⟩ := runs
    have wide : span.1 < span.2 := proper span mem_cons_self
    obtain ⟨most, bounded⟩ := ih later
      fun other member => proper other (mem_cons_of_mem _ member)
    refine ⟨wide.le.trans most, ?_⟩
    intro other member
    rcases mem_cons.mp member with rfl | member
    · exact ⟨le_rfl, most⟩
    · obtain ⟨first, last⟩ := bounded other member
      exact ⟨wide.le.trans first, last⟩

/-- Sorted spans that lie apart between `lo` and `hi` and cover all that is between them run
end to end. -/
theorem runsThrough_of_covers (order : lo ≤ hi)
    (sorted : spans.Pairwise fun one other => one.1 ≤ other.1)
    (proper : ∀ span ∈ spans, span.1 < span.2)
    (apart : spans.Pairwise fun one other => one.2 ≤ other.1 ∨ other.2 ≤ one.1)
    (inside : ∀ span ∈ spans, lo ≤ span.1 ∧ span.2 ≤ hi)
    (covers : ∀ point, lo ≤ point → point < hi → ∃ span ∈ spans, span.1 ≤ point ∧ point < span.2) :
    RunsThrough lo hi spans := by
  induction spans generalizing lo with
  | nil =>
    by_contra different
    obtain ⟨_, member, _⟩ := covers lo le_rfl (lt_of_le_of_ne order different)
    exact absurd member not_mem_nil
  | cons span rest ih =>
    obtain ⟨earliest, restSorted⟩ := pairwise_cons.mp sorted
    obtain ⟨spanApart, restApart⟩ := pairwise_cons.mp apart
    have wide := proper span mem_cons_self
    obtain ⟨first, last⟩ := inside span mem_cons_self
    -- The span that covers `lo` starts there, and none starts before the head of the list.
    have starts : span.1 = lo := by
      obtain ⟨cover, member, atMost, _⟩ := covers lo le_rfl (first.trans_lt (wide.trans_le last))
      refine le_antisymm ?_ first
      rcases mem_cons.mp member with rfl | member
      · exact atMost
      · exact (earliest cover member).trans atMost
    have later : ∀ other ∈ rest, span.2 ≤ other.1 := by
      intro other member
      rcases spanApart other member with before | before
      · exact before
      · have otherWide := proper other (mem_cons_of_mem _ member)
        exact absurd (earliest other member) (not_le.mpr (otherWide.trans_le before))
    refine ⟨starts, ih last restSorted ?_ restApart ?_ ?_⟩
    · exact fun other member => proper other (mem_cons_of_mem _ member)
    · exact fun other member =>
        ⟨later other member, (inside other (mem_cons_of_mem _ member)).2⟩
    · intro point after before
      obtain ⟨cover, member, atMost, within⟩ :=
        covers point (first.trans (wide.le.trans after)) before
      rcases mem_cons.mp member with rfl | member
      · exact absurd within (not_lt.mpr after)
      · exact ⟨cover, member, atMost, within⟩

end HydraTerm.Lib
