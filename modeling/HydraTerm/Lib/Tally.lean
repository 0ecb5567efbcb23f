import Mathlib

/-!
# Tallies

The sum of a measure over a list, and how it moves when one element is replaced. A count of
resources held by many parties is such a tally; a party's step then moves the count by the
difference it makes to that party alone.
-/

namespace HydraTerm.Lib

universe u
variable {α : Type u}

/-- Sum of `measure` over a list. -/
def tally (measure : α → Nat) (items : List α) : Nat := (items.map measure).sum

@[simp] theorem tally_nil (measure : α → Nat) : tally measure [] = 0 := rfl

@[simp] theorem tally_cons (measure : α → Nat) (item : α) (items : List α) :
    tally measure (item :: items) = measure item + tally measure items := by
  simp [tally]

@[simp] theorem tally_append (measure : α → Nat) (left right : List α) :
    tally measure (left ++ right) = tally measure left + tally measure right := by
  simp [tally]

section

variable (measure : α → Nat) {items : List α} {index : Nat}
include measure

/-- Replacing one element moves the tally by that element's difference. -/
theorem tally_set {old : α} (located : items[index]? = some old) (new : α) :
    tally measure (items.set index new) + measure old = tally measure items + measure new := by
  induction items generalizing index with
  | nil => contradiction
  | cons _ rest ih =>
    cases index with
    | zero =>
      cases Option.some.inj located
      simp only [List.set_cons_zero, tally_cons]
      omega
    | succ later =>
      have inRest : rest[later]? = some old := by simpa using located
      have moved := ih inRest
      simp only [List.set_cons_succ, tally_cons]
      omega

/-- Removing one element lowers the tally by what it measures. -/
theorem tally_eraseIdx {old : α} (located : items[index]? = some old) :
    tally measure (items.eraseIdx index) + measure old = tally measure items := by
  induction items generalizing index with
  | nil => contradiction
  | cons _ rest ih =>
    cases index with
    | zero =>
      cases Option.some.inj located
      simp only [List.eraseIdx_cons_zero, tally_cons]
      omega
    | succ later =>
      have inRest : rest[later]? = some old := by simpa using located
      have moved := ih inRest
      simp only [List.eraseIdx_cons_succ, tally_cons]
      omega

/-- No element measures more than the whole. -/
theorem le_tally {item : α} (member : item ∈ items) : measure item ≤ tally measure items := by
  induction items with
  | nil => contradiction
  | cons _ _ ih =>
    rcases List.mem_cons.mp member with rfl | later
    · exact Nat.le_add_right _ _
    · exact Nat.le_trans (ih later) (Nat.le_add_left _ _)

/-- A tally of nothing is zero. -/
theorem tally_eq_zero (nothing : ∀ item ∈ items, measure item = 0) : tally measure items = 0 := by
  induction items with
  | nil => rfl
  | cons first _ ih =>
    rw [tally_cons, nothing first List.mem_cons_self,
      ih (fun item member => nothing item (List.mem_cons_of_mem first member))]

end

end HydraTerm.Lib
