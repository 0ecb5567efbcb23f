import HydraTerm.Lib.Boxes

/-!
# Areas of boxes on a grid

Boxes whose edges are multiples of `1 / scale` are unions of cells of a grid of `scale` by
`scale` cells. Counting the cells ties the two ways to say that boxes fill the unit square:
that they leave no point uncovered, and that their areas sum to one.
-/

namespace HydraTerm.Lib

open List

/-- The unit square. -/
def unitBox : Box ℚ := ⟨0, 0, 1, 1⟩

namespace Box

def area (box : Box ℚ) : ℚ := (box.right - box.left) * (box.bottom - box.top)

/-- The edges of the box are multiples of `1 / scale`. -/
structure OnGrid (scale : ℕ) (box : Box ℚ) : Prop where
  left : ∃ line : ℕ, box.left = line / scale
  top : ∃ line : ℕ, box.top = line / scale
  right : ∃ line : ℕ, box.right = line / scale
  bottom : ∃ line : ℕ, box.bottom = line / scale

instance (box : Box ℚ) (x y : ℚ) : Decidable (box.Contains x y) :=
  decidable_of_iff' _ (contains_iff box x y)

end Box

variable {scale : ℕ} {box : Box ℚ} {boxes : List (Box ℚ)} {a b : ℕ}

/-- The cells of the grid. -/
abbrev allCells (scale : ℕ) : Finset (ℕ × ℕ) := Finset.range scale ×ˢ Finset.range scale

/-- The cells of the grid whose corner the box holds. -/
def cells (scale : ℕ) (box : Box ℚ) : Finset (ℕ × ℕ) :=
  (Finset.range scale ×ˢ Finset.range scale).filter fun cell =>
    box.Contains (cell.1 / scale) (cell.2 / scale)

/-- The lines of the grid are in the order of their numbers. -/
theorem line_le_iff (positive : 0 < scale) : (a / scale : ℚ) ≤ b / scale ↔ a ≤ b := by
  rw [div_le_div_iff_of_pos_right (by exact_mod_cast positive), Nat.cast_le]

theorem line_lt_iff (positive : 0 < scale) : (a / scale : ℚ) < b / scale ↔ a < b := by
  rw [← not_le, line_le_iff positive, not_le]

/-- The numbers of its edges say which corners of cells a box holds. -/
theorem contains_lines {left top right bottom column row : ℕ} (positive : 0 < scale) :
    (⟨left / scale, top / scale, right / scale, bottom / scale⟩ : Box ℚ).Contains
        (column / scale) (row / scale) ↔
      left ≤ column ∧ column < right ∧ top ≤ row ∧ row < bottom := by
  rw [← line_le_iff positive, ← line_lt_iff positive, ← line_le_iff positive,
    ← line_lt_iff positive]
  exact Box.contains_iff ..

theorem Box.OnGrid.lines (grid : box.OnGrid scale) : ∃ left top right bottom : ℕ,
    box = ⟨left / scale, top / scale, right / scale, bottom / scale⟩ := by
  obtain ⟨⟨left, leftEq⟩, ⟨top, topEq⟩, ⟨right, rightEq⟩, ⟨bottom, bottomEq⟩⟩ := grid
  exact ⟨left, top, right, bottom, by rw [← leftEq, ← topEq, ← rightEq, ← bottomEq]⟩

/-- A box on the grid has `scale ^ 2` cells to the unit of area. -/
theorem card_cells (positive : 0 < scale) (grid : box.OnGrid scale) (proper : box.Proper)
    (within : box.Within unitBox) : ((cells scale box).card : ℚ) = box.area * scale ^ 2 := by
  have scaled : (0 : ℚ) < scale := by exact_mod_cast positive
  obtain ⟨left, top, right, bottom, rfl⟩ := grid.lines
  obtain ⟨leftRight, topBottom⟩ := proper
  obtain ⟨_, _, rightLe, bottomLe⟩ := within
  simp only [line_lt_iff positive] at leftRight topBottom
  simp only [unitBox, div_le_one scaled, Nat.cast_le] at rightLe bottomLe
  have shape : cells scale ⟨left / scale, top / scale, right / scale, bottom / scale⟩ =
      Finset.Ico left right ×ˢ Finset.Ico top bottom := by
    ext ⟨column, row⟩
    simp only [cells, Finset.mem_filter, Finset.mem_product, Finset.mem_range,
      contains_lines positive, Finset.mem_Ico]
    omega
  rw [shape, Finset.card_product, Nat.card_Ico, Nat.card_Ico, Nat.cast_mul,
    Nat.cast_sub leftRight.le, Nat.cast_sub topBottom.le, Box.area]
  field_simp

/-- The number of boxes that hold the corner of a cell. -/
def depth (scale : ℕ) (boxes : List (Box ℚ)) (cell : ℕ × ℕ) : ℕ :=
  boxes.countP fun box => box.Contains (cell.1 / scale) (cell.2 / scale)

/-- Counting the cells of every box counts every cell at its depth. -/
theorem sum_depth (scale : ℕ) (boxes : List (Box ℚ)) :
    ∑ cell ∈ allCells scale, depth scale boxes cell =
      (boxes.map fun box => (cells scale box).card).sum := by
  unfold allCells
  induction boxes with
  | nil => simp [depth]
  | cons box rest ih =>
    have head : ∀ cell, depth scale (box :: rest) cell = depth scale rest cell +
        if box.Contains (cell.1 / scale) (cell.2 / scale) then 1 else 0 := by
      intro cell
      simp [depth, countP_cons]
    simp only [head, Finset.sum_add_distrib, ih, map_cons, sum_cons, cells, Finset.card_filter]
    omega

/-- Boxes that are apart hold each point at most once. -/
theorem depth_le_one (apart : boxes.Pairwise Box.Apart) (cell : ℕ × ℕ) :
    depth scale boxes cell ≤ 1 := by
  induction boxes with
  | nil => simp [depth]
  | cons box rest ih =>
    obtain ⟨headApart, restApart⟩ := pairwise_cons.mp apart
    by_cases held : box.Contains (cell.1 / scale) (cell.2 / scale)
    · have alone : rest.countP (fun box => box.Contains (cell.1 / scale) (cell.2 / scale)) = 0 := by
        refine countP_eq_zero.mpr fun other member contains => ?_
        exact (headApart other member).not_both held (of_decide_eq_true contains)
      simp [depth, alone, held]
    · simpa [depth, countP_cons, held] using ih restApart

/-- The cells of all boxes, counted by area. -/
theorem sum_depth_eq_area (positive : 0 < scale) (grid : ∀ box ∈ boxes, box.OnGrid scale)
    (proper : ∀ box ∈ boxes, box.Proper) (within : ∀ box ∈ boxes, box.Within unitBox) :
    ((∑ cell ∈ allCells scale, depth scale boxes cell : ℕ) : ℚ) =
      (boxes.map Box.area).sum * scale ^ 2 := by
  rw [sum_depth]
  induction boxes with
  | nil => simp
  | cons _ _ ih =>
    rw [forall_mem_cons] at grid proper within
    have first := card_cells positive grid.1 proper.1 within.1
    simp only [map_cons, sum_cons, Nat.cast_add, first, ih grid.2 proper.2 within.2]
    ring

theorem sum_one_cells (scale : ℕ) : ∑ _cell ∈ allCells scale, 1 = scale ^ 2 := by
  simp [sq]

/-- The areas of boxes on a grid that tile the unit square sum to one. -/
theorem Tiles.area_eq_one (positive : 0 < scale) (tiles : Tiles unitBox boxes)
    (grid : ∀ box ∈ boxes, box.OnGrid scale) : (boxes.map Box.area).sum = 1 := by
  have scaled : (0 : ℚ) < scale := by exact_mod_cast positive
  have once : ∀ cell ∈ allCells scale, depth scale boxes cell = 1 := by
    intro cell member
    obtain ⟨column, row⟩ := Finset.mem_product.mp member
    have inside : unitBox.Contains (cell.1 / scale) (cell.2 / scale) := by
      rw [Finset.mem_range] at column row
      constructor
      · exact div_nonneg (Nat.cast_nonneg _) scaled.le
      · exact (div_lt_one scaled).mpr (Nat.cast_lt.mpr column)
      · exact div_nonneg (Nat.cast_nonneg _) scaled.le
      · exact (div_lt_one scaled).mpr (Nat.cast_lt.mpr row)
    obtain ⟨box, member, contains⟩ := tiles.covers _ _ inside
    have some : 0 < depth scale boxes cell :=
      countP_pos_iff.mpr ⟨box, member, decide_eq_true contains⟩
    have most : depth scale boxes cell ≤ 1 := depth_le_one tiles.apart cell
    omega
  have counted := sum_depth_eq_area positive grid tiles.proper tiles.within
  rw [Finset.sum_congr rfl once, sum_one_cells] at counted
  push_cast at counted
  have square : (scale : ℚ) ^ 2 ≠ 0 := by positivity
  exact mul_right_cancel₀ square (by linarith)

/-- A box on the grid holds a point as it holds the corner of the point's cell. -/
theorem Box.OnGrid.contains_floor {x y : ℚ} (positive : 0 < scale) (grid : box.OnGrid scale)
    (right : 0 ≤ x) (down : 0 ≤ y)
    (held : box.Contains ((⌊x * scale⌋₊ : ℕ) / scale) ((⌊y * scale⌋₊ : ℕ) / scale)) :
    box.Contains x y := by
  have scaled : (0 : ℚ) < scale := by exact_mod_cast positive
  obtain ⟨_, _, _, _, rfl⟩ := grid.lines
  obtain ⟨a, b, c, d⟩ := (contains_lines positive).mp held
  constructor
  · exact (div_le_iff₀ scaled).mpr ((Nat.le_floor_iff (by positivity)).mp a)
  · exact (lt_div_iff₀ scaled).mpr ((Nat.floor_lt (by positivity)).mp b)
  · exact (div_le_iff₀ scaled).mpr ((Nat.le_floor_iff (by positivity)).mp c)
  · exact (lt_div_iff₀ scaled).mpr ((Nat.floor_lt (by positivity)).mp d)

/-- Boxes on a grid that lie apart in the unit square and whose areas sum to one tile it. -/
theorem tiles_of_area (positive : 0 < scale) (grid : ∀ box ∈ boxes, box.OnGrid scale)
    (proper : ∀ box ∈ boxes, box.Proper) (within : ∀ box ∈ boxes, box.Within unitBox)
    (apart : boxes.Pairwise Box.Apart) (total : (boxes.map Box.area).sum = 1) :
    Tiles unitBox boxes := by
  have scaled : (0 : ℚ) < scale := by exact_mod_cast positive
  refine ⟨proper, within, apart, ?_⟩
  intro x y inside
  obtain ⟨right, xLt, down, yLt⟩ := inside
  simp only [unitBox] at right xLt down yLt
  set cell : ℕ × ℕ := (⌊x * scale⌋₊, ⌊y * scale⌋₊)
  have member : cell ∈ allCells scale := by
    refine Finset.mem_product.mpr ⟨Finset.mem_range.mpr ?_, Finset.mem_range.mpr ?_⟩
    · exact (Nat.floor_lt (by positivity)).mpr (by nlinarith)
    · exact (Nat.floor_lt (by positivity)).mpr (by nlinarith)
  have counted := sum_depth_eq_area positive grid proper within
  rw [total, one_mul] at counted
  have full : ∑ cell ∈ allCells scale, depth scale boxes cell =
      ∑ _cell ∈ allCells scale, 1 := by
    rw [sum_one_cells]
    exact_mod_cast counted
  have once : depth scale boxes cell = 1 :=
    (Finset.sum_eq_sum_iff_of_le fun cell _ => depth_le_one apart cell).mp full cell member
  obtain ⟨box, boxMember, held⟩ := countP_pos_iff.mp (once ▸ one_pos : 0 < depth scale boxes cell)
  exact ⟨box, boxMember, (grid box boxMember).contains_floor positive right down
    (of_decide_eq_true held)⟩

end HydraTerm.Lib
