import Mathlib

/-!
# Overwriting a window of a list

An in-place slice assignment replaces the window that starts at a position and is as
long as the written values. Where two lists of one length agree outside a window,
copying that window from one into the other makes them equal.
-/

namespace HydraTerm.Lib

open List

universe u
variable {α : Type u}

/-- Replace the window of `values.length` positions that starts at `start`. -/
def overwrite (target : List α) (start : Nat) (values : List α) : List α :=
  target.take start ++ values ++ target.drop (start + values.length)

/-- A window inside the target leaves its length alone. -/
theorem length_overwrite {target values : List α} {start : Nat}
    (fits : start + values.length ≤ target.length) :
    (overwrite target start values).length = target.length := by
  simp only [overwrite, length_append, length_take, length_drop]
  omega

/-- Two lists agree at every position outside the half-open window. -/
def AgreeOutside (left right : List α) (start stop : Nat) : Prop :=
  ∀ position, position < start ∨ stop ≤ position → left[position]? = right[position]?

/-- Copying the window in which two lists may differ carries one into the other. -/
theorem overwrite_extract {target source : List α} {start stop : Nat} (ordered : start ≤ stop)
    (bounded : stop ≤ source.length) (agree : AgreeOutside target source start stop) :
    overwrite target start (source.extract start stop) = source := by
  have lead : target.take start = source.take start := by
    apply ext_getElem?
    intro position
    rw [getElem?_take, getElem?_take]
    split
    · next inside => exact agree position (.inl inside)
    · rfl
  have width : (source.extract start stop).length = stop - start := by
    simp only [extract_eq_take_drop, length_take, length_drop]
    omega
  have rest : target.drop stop = source.drop stop := by
    apply ext_getElem?
    intro position
    rw [getElem?_drop, getElem?_drop]
    exact agree (stop + position) (.inr (Nat.le_add_right stop position))
  have stopped : start + (stop - start) = stop := Nat.add_sub_of_le ordered
  rw [overwrite, width, lead, stopped, rest, extract_eq_take_drop, ← take_add, stopped,
    take_append_drop]

end HydraTerm.Lib
