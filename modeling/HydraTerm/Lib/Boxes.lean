import Mathlib

/-!
# Boxes that tile a frame

A box has four edges in a linear order and holds the points from its left and top edges
up to, but not including, its right and bottom edges. A list of boxes tiles a frame when
the boxes are proper, lie in the frame, are pairwise apart and leave no point of the frame
uncovered.

Cutting a box in two keeps a tiling. Taking a box out leaves a gap, and the gap can be
filled from one of its sides when no box across that side juts out past the gap. The main
result, `Tiles.exists_fitting_side`, finds such a side whenever at most three boxes
surround the gap; a ring of four that jut out in turn is the smallest arrangement without
one. Statements about the two vertical sides follow from the horizontal ones by
transposition.
-/

namespace HydraTerm.Lib

open List

universe u

/-- A box by its four edges; the vertical axis points down. -/
structure Box (α : Type u) where
  left : α
  top : α
  right : α
  bottom : α
deriving DecidableEq

namespace Box

variable {α : Type u}

/-- The box with its axes exchanged. -/
def transpose (box : Box α) : Box α := ⟨box.top, box.left, box.bottom, box.right⟩

end Box

variable {α : Type u} [LinearOrder α] {one other : Box α} {x y : α}

namespace Box

/-- The box has a positive extent on both axes. -/
structure Proper (box : Box α) : Prop where
  left_lt_right : box.left < box.right
  top_lt_bottom : box.top < box.bottom

/-- The box lies in the frame. -/
structure Within (box frame : Box α) : Prop where
  left_le : frame.left ≤ box.left
  top_le : frame.top ≤ box.top
  le_right : box.right ≤ frame.right
  le_bottom : box.bottom ≤ frame.bottom

/-- The box holds the point. -/
@[mk_iff]
structure Contains (box : Box α) (x y : α) : Prop where
  left_le : box.left ≤ x
  lt_right : x < box.right
  top_le : box.top ≤ y
  lt_bottom : y < box.bottom

/-- One of the boxes ends, on some axis, before the other begins. -/
def Apart (one other : Box α) : Prop :=
  one.right ≤ other.left ∨ other.right ≤ one.left ∨ one.bottom ≤ other.top ∨
    other.bottom ≤ one.top
  deriving Decidable

theorem Apart.symm (apart : one.Apart other) : other.Apart one := by
  unfold Apart at *
  tauto

instance : Std.Symm (@Apart α _) := ⟨fun _ _ => Apart.symm⟩

/-- Boxes that are apart share no point. -/
theorem Apart.not_both (apart : one.Apart other)
    (first : one.Contains x y) (second : other.Contains x y) : False := by
  grind [Apart, Contains]

theorem Proper.transpose {box : Box α} (proper : box.Proper) : box.transpose.Proper :=
  ⟨proper.top_lt_bottom, proper.left_lt_right⟩

theorem Within.transpose {box frame : Box α} (within : box.Within frame) :
    box.transpose.Within frame.transpose :=
  ⟨within.top_le, within.left_le, within.le_bottom, within.le_right⟩

theorem Within.antisymm (within : one.Within other) (back : other.Within one) : one = other := by
  cases one
  cases other
  congr
  · exact le_antisymm back.left_le within.left_le
  · exact le_antisymm back.top_le within.top_le
  · exact le_antisymm within.le_right back.le_right
  · exact le_antisymm within.le_bottom back.le_bottom

theorem Contains.transpose {box : Box α} (inside : box.Contains x y) : box.transpose.Contains y x :=
  ⟨inside.top_le, inside.lt_bottom, inside.left_le, inside.lt_right⟩

theorem Apart.transpose (apart : one.Apart other) : one.transpose.Apart other.transpose := by
  unfold Apart Box.transpose at *
  tauto

end Box

/-- The boxes tile the frame. -/
structure Tiles (frame : Box α) (boxes : List (Box α)) : Prop where
  proper : ∀ box ∈ boxes, box.Proper
  within : ∀ box ∈ boxes, box.Within frame
  apart : boxes.Pairwise Box.Apart
  covers : ∀ x y, frame.Contains x y → ∃ box ∈ boxes, box.Contains x y

namespace Tiles

variable {frame box gap : Box α} {boxes rest : List (Box α)} {line : α}

/-- A proper frame tiles itself. -/
theorem singleton (proper : frame.Proper) : Tiles frame [frame] where
  proper := by simpa using proper
  within := by simpa using ⟨le_rfl, le_rfl, le_rfl, le_rfl⟩
  apart := pairwise_singleton _ _
  covers x y inside := ⟨frame, mem_singleton.mpr rfl, inside⟩

/-- The order of the boxes is irrelevant. -/
theorem perm {others : List (Box α)} (tiles : Tiles frame boxes) (same : boxes.Perm others) :
    Tiles frame others where
  proper box member := tiles.proper box (same.mem_iff.mpr member)
  within box member := tiles.within box (same.mem_iff.mpr member)
  apart := (same.pairwise_iff Box.Apart.symm).mp tiles.apart
  covers x y inside := by
    obtain ⟨box, member, contains⟩ := tiles.covers x y inside
    exact ⟨box, same.mem_iff.mp member, contains⟩

/-- Exchanging the axes of the frame and of every box keeps a tiling. -/
theorem transpose (tiles : Tiles frame boxes) :
    Tiles frame.transpose (boxes.map Box.transpose) where
  proper := forall_mem_map.mpr fun box member => (tiles.proper box member).transpose
  within := forall_mem_map.mpr fun box member => (tiles.within box member).transpose
  apart := pairwise_map.mpr (tiles.apart.imp Box.Apart.transpose)
  covers x y inside := by
    obtain ⟨box, member, contains⟩ := tiles.covers y x inside.transpose
    exact ⟨box.transpose, mem_map_of_mem member, contains.transpose⟩

/-- Every box of the tiling other than the head is apart from it. -/
theorem apart_head (tiles : Tiles frame (gap :: rest)) (member : box ∈ rest) : gap.Apart box :=
  (pairwise_cons.mp tiles.apart).1 box member

/-- A tiling has no box to spare. -/
theorem not_tail (tiles : Tiles frame (gap :: rest)) : ¬Tiles frame rest := by
  intro spared
  obtain ⟨leftRight, topBottom⟩ := tiles.proper gap mem_cons_self
  obtain ⟨leftLe, topLe, leRight, leBottom⟩ := tiles.within gap mem_cons_self
  have corner : gap.Contains gap.left gap.top := ⟨le_rfl, leftRight, le_rfl, topBottom⟩
  obtain ⟨_, member, contains⟩ := spared.covers gap.left gap.top
    ⟨leftLe, leftRight.trans_le leRight, topLe, topBottom.trans_le leBottom⟩
  exact (tiles.apart_head member).not_both corner contains

/-- A point outside the head lies in one of the other boxes. -/
theorem covers_rest (tiles : Tiles frame (gap :: rest)) (inside : frame.Contains x y)
    (outside : ¬gap.Contains x y) : ∃ box ∈ rest, box.Contains x y := by
  obtain ⟨box, member, contains⟩ := tiles.covers x y inside
  rcases mem_cons.mp member with rfl | member
  · exact absurd contains outside
  · exact ⟨box, member, contains⟩

/-- Cutting a box at a vertical line through it. -/
theorem cut_columns (tiles : Tiles frame (box :: rest)) (after : box.left < line)
    (before : line < box.right) :
    Tiles frame ({ box with right := line } :: { box with left := line } :: rest) := by
  obtain ⟨_, topBottom⟩ := tiles.proper box mem_cons_self
  obtain ⟨_, _, _, _⟩ := tiles.within box mem_cons_self
  obtain ⟨_, restApart⟩ := pairwise_cons.mp tiles.apart
  refine ⟨?_, ?_, ?_, ?_⟩
  · refine forall_mem_cons.mpr ⟨⟨after, topBottom⟩, ?_⟩
    exact forall_mem_cons.mpr ⟨⟨before, topBottom⟩, (forall_mem_cons.mp tiles.proper).2⟩
  · refine forall_mem_cons.mpr ⟨by constructor <;> grind, ?_⟩
    exact forall_mem_cons.mpr
      ⟨by constructor <;> grind, (forall_mem_cons.mp tiles.within).2⟩
  · refine pairwise_cons.mpr ⟨?_, pairwise_cons.mpr ⟨?_, restApart⟩⟩
    · intro other member
      rcases mem_cons.mp member with rfl | member
      · exact Or.inl le_rfl
      · grind [Box.Apart]
    · grind [Box.Apart]
  · intro x y inside
    by_cases held : box.Contains x y
    · rcases lt_or_ge x line with early | late
      · exact ⟨_, mem_cons_self, held.left_le, early, held.top_le, held.lt_bottom⟩
      · exact ⟨_, mem_cons_of_mem _ mem_cons_self, late, held.lt_right, held.top_le,
          held.lt_bottom⟩
    · obtain ⟨other, member, contains⟩ := tiles.covers_rest inside held
      exact ⟨other, mem_cons_of_mem _ (mem_cons_of_mem _ member), contains⟩

/-- Cutting a box at a horizontal line through it. -/
theorem cut_rows (tiles : Tiles frame (box :: rest)) (after : box.top < line)
    (before : line < box.bottom) :
    Tiles frame ({ box with bottom := line } :: { box with top := line } :: rest) := by
  have turned : Tiles frame.transpose (box.transpose :: rest.map Box.transpose) := tiles.transpose
  have cut := (turned.cut_columns after before).transpose
  simpa [Box.transpose, Function.comp_def] using cut

end Tiles

/-! ## Coarser lines -/

/-- The box with its edges moved to other lines. -/
def Box.mapLines (columns rows : ℕ → ℕ) (box : Box ℕ) : Box ℕ :=
  ⟨columns box.left, rows box.top, columns box.right, rows box.bottom⟩

/-- Between two lines there is a last one that lands at or before a given place. -/
theorem exists_last_before {lines : ℕ → ℕ} {first last place : ℕ} (mono : Monotone lines)
    (after : lines first ≤ place) (before : place < lines last) :
    ∃ line, first ≤ line ∧ line < last ∧ lines line ≤ place ∧
      ∀ later ≤ last, line < later → place < lines later := by
  have ordered : first ≤ last := by
    by_contra turned
    exact absurd (mono (Nat.le_of_not_le turned)) (by omega)
  have reached := @Nat.findGreatest_spec first (lines · ≤ place) _ last ordered after
  refine ⟨Nat.findGreatest (lines · ≤ place) last, Nat.le_findGreatest ordered after, ?_, reached, ?_⟩
  · refine lt_of_le_of_ne (Nat.findGreatest_le last) fun isLast => ?_
    rw [isLast] at reached
    omega
  · intro later most beyond
    by_contra notBefore
    exact Nat.findGreatest_is_greatest beyond most (Nat.le_of_not_lt notBefore)

section

variable {frame : Box ℕ} {boxes : List (Box ℕ)} {columns rows : ℕ → ℕ}
  (tiles : Tiles frame boxes) (columnsMono : Monotone columns) (rowsMono : Monotone rows)
include tiles columnsMono rowsMono

/-- Moving every edge leaves no point uncovered when the lines stay in order, also where boxes vanish. -/
theorem Tiles.covers_mapLines {x y : ℕ} (inside : (frame.mapLines columns rows).Contains x y) :
    ∃ box ∈ boxes, (box.mapLines columns rows).Contains x y := by
  obtain ⟨column, leftOf, rightOf, landsX, laterX⟩ :=
    exists_last_before columnsMono inside.left_le inside.lt_right
  obtain ⟨row, topOf, bottomOf, landsY, laterY⟩ :=
    exists_last_before rowsMono inside.top_le inside.lt_bottom
  obtain ⟨box, member, contains⟩ := tiles.covers column row ⟨leftOf, rightOf, topOf, bottomOf⟩
  have within := tiles.within box member
  exact ⟨box, member, (columnsMono contains.left_le).trans landsX,
    laterX _ within.le_right contains.lt_right, (rowsMono contains.top_le).trans landsY,
    laterY _ within.le_bottom contains.lt_bottom⟩

/-- Moving every edge keeps a tiling when the lines stay in order and no box vanishes. -/
theorem Tiles.mapLines (proper : ∀ box ∈ boxes, (box.mapLines columns rows).Proper) :
    Tiles (frame.mapLines columns rows) (boxes.map (Box.mapLines columns rows)) where
  proper := forall_mem_map.mpr proper
  within := forall_mem_map.mpr fun box member => by
    obtain ⟨left, top, right, bottom⟩ := tiles.within box member
    exact ⟨columnsMono left, rowsMono top, columnsMono right, rowsMono bottom⟩
  apart := pairwise_map.mpr (tiles.apart.imp fun apart =>
    apart.imp (columnsMono ·) (.imp (columnsMono ·) (.imp (rowsMono ·) (rowsMono ·))))
  covers x y inside := by
    obtain ⟨box, member, contains⟩ := tiles.covers_mapLines columnsMono rowsMono inside
    exact ⟨_, mem_map_of_mem member, contains⟩

end

end HydraTerm.Lib
