import HydraTerm.Shell.Records

/-!
# Cell regions of panes

A window's panes tile the unit square in whole per mille, and the terminal grid has whole cells
(`pane_rects.rs`). `regions` sends both ends of every side to the nearest line of the grid and
widens a side that would have no cell to one; `dividers` finds the cells drawn between panes. Both
compute in single precision, where the end of a side is the rounded sum of two rounded numbers.

A side that is not wider than half a cell may vanish or be widened into the next pane, and two
computations of one edge may end on different lines. Where the panes share their lines, the regions
tile the grid exactly if the two lines of every side differ.
-/

namespace HydraTerm.Shell.PaneRects

open Lib List

/-! ## Single precision -/

/-- The nearest integer, halves rounded to the even one. -/
def roundHalfEven (value : ℚ) : ℤ :=
  let below := ⌊value⌋
  if value - below < 1 / 2 then below
  else if 1 / 2 < value - below then below + 1
  else below + below % 2

/-- A number as an `f32`, which has 24 significant bits. The numbers met here are 0 or far from
the ends of the exponent's range. -/
def toF32 (value : ℚ) : ℚ :=
  let unit : ℚ := 2 ^ (Int.log 2 |value| - 23)
  roundHalfEven (value / unit) * unit

/-- `PaneRect.toUnit` in single precision. -/
def toUnitF32 (rect : PaneRect) : UnitRect :=
  ⟨toF32 (rect.x / 1000), toF32 (rect.y / 1000), toF32 (rect.w / 1000), toF32 (rect.h / 1000)⟩

/-! ## Regions -/

structure GridRegion where
  col : Nat
  row : Nat
  cols : Nat
  rows : Nat
deriving DecidableEq

variable (rect : UnitRect)

def rRight : ℚ := toF32 (rect.x + rect.w)

def rBottom : ℚ := toF32 (rect.y + rect.h)

/-- The nearest grid line of a fraction of the extent. -/
def line (frac : ℚ) (extent : UInt16) : Nat :=
  (max 0 (min (roundHalfAway (toF32 (frac * extent.toNat))) extent.toNat)).toNat

/-- Addition of `u16` numbers, which fails on overflow. -/
def addU16 (one other : Nat) : Option Nat :=
  if one + other < 2 ^ 16 then some (one + other) else none

/-- Subtraction of `u16` numbers, which fails below zero. -/
def subU16 (one other : Nat) : Option Nat :=
  if other ≤ one then some (one - other) else none

/-- The region of one pane. -/
def region (cols rows : UInt16) : Option GridRegion := do
  let x0 := line rect.x cols
  let y0 := line rect.y rows
  let x1 := min (max (line (rRight rect) cols) (← addU16 x0 1)) cols.toNat
  let y1 := min (max (line (rBottom rect) rows) (← addU16 y0 1)) rows.toNat
  return ⟨x0, y0, ← subU16 x1 x0, ← subU16 y1 y0⟩

/-- The regions of all panes, or none if the arithmetic overflows. -/
def regions (rects : List (String × UnitRect)) (cols rows : UInt16) :
    Option (List (String × GridRegion)) :=
  rects.mapM fun pane => (region pane.2 cols rows).map (pane.1, ·)

/-! ## Dividers -/

structure GridDivider where
  col : Nat
  row : Nat
  length : Nat
  vertical : Bool
deriving DecidableEq

def near (a b : ℚ) : Bool := |toF32 (a - b)| ≤ toF32 (1 / 10000)

/-- What two panes share along an edge where one ends and the other starts: the cell before the
edge, the first cell along it and their number. -/
def sharedEdge (ends starts low high : ℚ) (across along : UInt16) : Option (Nat × Nat × Nat) :=
  if near ends starts ∧ toF32 (1 / 10000) < toF32 (high - low) then
    some (min (line starts across - 1) (across.toNat - 1), line low along,
      max (line high along - line low along) 1)
  else none

def pushUnique (out : List GridDivider) (divider : GridDivider) : List GridDivider :=
  if divider ∈ out then out else out ++ [divider]

/-- The dividers between panes, each once. -/
def dividers (rects : List (String × UnitRect)) (cols rows : UInt16) : List GridDivider :=
  let between (a b : UnitRect) : List GridDivider :=
    ((sharedEdge (rRight a) b.x (max a.y b.y) (min (rBottom a) (rBottom b)) cols rows).map
      fun (col, row, length) => ⟨col, row, length, true⟩).toList ++
    ((sharedEdge (rBottom a) b.y (max a.x b.x) (min (rRight a) (rRight b)) rows cols).map
      fun (row, col, length) => ⟨col, row, length, false⟩).toList
  (rects.flatMap fun a => rects.flatMap fun b => between a.2 b.2).foldl pushUnique []

/-! ## The partition -/

/-- The cells of a region. -/
def GridRegion.box (region : GridRegion) : Box ℕ :=
  ⟨region.col, region.row, region.col + region.cols, region.row + region.rows⟩

/-- The divider is drawn on the cell. -/
def GridDivider.Covers (divider : GridDivider) (col row : ℕ) : Prop :=
  if divider.vertical then
    col = divider.col ∧ divider.row ≤ row ∧ row < divider.row + divider.length
  else row = divider.row ∧ divider.col ≤ col ∧ col < divider.col + divider.length

/-- The pane's edges in per mille. -/
def paneBox (rect : PaneRect) : Box ℕ := ⟨rect.x, rect.y, rect.x + rect.w, rect.y + rect.h⟩

/-- The panes tile the window in per mille. -/
def TilesWindow (panes : List (String × PaneRect)) : Prop :=
  Tiles ⟨0, 0, 1000, 1000⟩ (panes.map fun pane => paneBox pane.2)

/-- The regions are not empty, lie in the grid and are disjoint, and with the dividers they cover
it. -/
structure Partitions (regions : List GridRegion) (dividers : List GridDivider)
    (cols rows : UInt16) : Prop where
  nonempty : ∀ region ∈ regions, 0 < region.cols ∧ 0 < region.rows
  inside : ∀ region ∈ regions,
    region.col + region.cols ≤ cols.toNat ∧ region.row + region.rows ≤ rows.toNat
  disjoint : regions.Pairwise fun one other => one.box.Apart other.box
  covered : ∀ col < cols.toNat, ∀ row < rows.toNat,
    (∃ region ∈ regions, region.box.Contains col row) ∨
      ∃ divider ∈ dividers, divider.Covers col row

/-- The panes get regions without overflow, one for each in order, which partition the grid. -/
def PartitionGrid (panes : List (String × PaneRect)) (cols rows : UInt16) : Prop :=
  ∃ placed, regions (panes.map fun pane => (pane.1, toUnitF32 pane.2)) cols rows = some placed ∧
    placed.map Prod.fst = panes.map Prod.fst ∧
    Partitions (placed.map Prod.snd)
      (dividers (panes.map fun pane => (pane.1, toUnitF32 pane.2)) cols rows) cols rows

/-- A line of the grid for every edge in per mille, in order and from end to end. -/
structure EdgeLines (extent : UInt16) (lines : ℕ → ℕ) : Prop where
  mono : Monotone lines
  first : lines 0 = 0
  last : lines 1000 = extent.toNat

/-- Single precision finds the lines of both ends of a side. -/
structure HasLines (extent : UInt16) (lines : ℕ → ℕ) (start size : ℕ) : Prop where
  first : line (toF32 (start / 1000)) extent = lines start
  last : line (toF32 (toF32 (start / 1000) + toF32 (size / 1000))) extent = lines (start + size)

section Lines

variable {cols rows : UInt16} {across along : ℕ → ℕ} {panes : List (String × PaneRect)}
  {rect : PaneRect}

/-- The lines of a pane's edges differ on both axes. -/
def KeepsCells (across along : ℕ → ℕ) (rect : PaneRect) : Prop :=
  ((paneBox rect).mapLines across along).Proper

/-- The panes find the same lines for the edges that they share. -/
def ShareLines (cols rows : UInt16) (across along : ℕ → ℕ) (panes : List (String × PaneRect)) : Prop :=
  ∀ pane ∈ panes,
    HasLines cols across pane.2.x pane.2.w ∧ HasLines rows along pane.2.y pane.2.h

theorem line_le (frac : ℚ) (extent : UInt16) : line frac extent ≤ extent.toNat := by
  unfold line
  omega

section Region

variable (isAcross : HasLines cols across rect.x rect.w) (isAlong : HasLines rows along rect.y rect.h)
include isAcross isAlong

/-- The region of a pane begins at the lines of its edges. -/
theorem region_corner {placed : GridRegion} (found : region (toUnitF32 rect) cols rows = some placed) :
    placed.col = across rect.x ∧ placed.row = along rect.y := by
  simp only [region, toUnitF32, isAcross.first, isAlong.first, Option.bind_eq_bind,
    Option.bind_eq_some_iff] at found
  obtain ⟨_, -, _, -, _, -, _, -, isPlaced⟩ := found
  obtain rfl := Option.some.inj isPlaced
  exact ⟨rfl, rfl⟩

/-- The region of a pane that keeps its cells is neither widened nor cut, and nothing overflows. -/
theorem region_of_keepsCells (keeps : KeepsCells across along rect) :
    ∃ placed, region (toUnitF32 rect) cols rows = some placed ∧
      placed.box = (paneBox rect).mapLines across along := by
  obtain ⟨wide, high⟩ := keeps
  simp only [paneBox, Box.mapLines] at wide high
  have side {extent : UInt16} {lines : ℕ → ℕ} {start size : ℕ} (isLines : HasLines extent lines start size)
      (grows : lines start < lines (start + size)) :
      addU16 (lines start) 1 = some (lines start + 1) ∧
        min (max (lines (start + size)) (lines start + 1)) extent.toNat = lines (start + size) ∧
        subU16 (lines (start + size)) (lines start) = some (lines (start + size) - lines start) := by
    have most := isLines.last ▸ line_le (toF32 (toF32 (start / 1000) + toF32 (size / 1000))) extent
    have small := extent.toNat_lt
    exact ⟨if_pos (by omega), by omega, if_pos grows.le⟩
  obtain ⟨addX, minX, subX⟩ := side isAcross wide
  obtain ⟨addY, minY, subY⟩ := side isAlong high
  refine ⟨⟨across rect.x, along rect.y, across (rect.x + rect.w) - across rect.x,
    along (rect.y + rect.h) - along rect.y⟩, ?_, ?_⟩
  · simp only [region, toUnitF32, rRight, rBottom, isAcross.first, isAcross.last, isAlong.first,
      isAlong.last, addX, addY, Option.bind_eq_bind, Option.bind_some, minX, minY, subX, subY]
    rfl
  · simp only [GridRegion.box, paneBox, Box.mapLines, Box.mk.injEq, true_and]
    exact ⟨Nat.add_sub_cancel' wide.le, Nat.add_sub_cancel' high.le⟩

end Region

theorem regions_eq_some {place : String × PaneRect → GridRegion}
    (found : ∀ pane ∈ panes, region (toUnitF32 pane.2) cols rows = some (place pane)) :
    regions (panes.map fun pane => (pane.1, toUnitF32 pane.2)) cols rows =
      some (panes.map fun pane => (pane.1, place pane)) := by
  unfold regions
  induction panes with
  | nil => rfl
  | cons pane _ ih =>
    obtain ⟨isRegion, found⟩ := forall_mem_cons.mp found
    rw [map_cons, mapM_cons, isRegion, ih found]
    rfl

theorem region_of_regions {placed : List (String × GridRegion)}
    (found : regions (panes.map fun pane => (pane.1, toUnitF32 pane.2)) cols rows = some placed) :
    ∀ pane ∈ panes, ∃ placed, region (toUnitF32 pane.2) cols rows = some placed := by
  unfold regions at found
  induction panes generalizing placed with
  | nil => exact forall_mem_nil _
  | cons pane _ ih =>
    rw [map_cons, mapM_cons, Option.bind_eq_bind, Option.bind_eq_some_iff] at found
    obtain ⟨_, isFirst, later⟩ := found
    obtain ⟨first, found, -⟩ := Option.map_eq_some_iff.mp isFirst
    obtain ⟨_, rest, -⟩ := Option.bind_eq_some_iff.mp later
    exact forall_mem_cons.mpr ⟨⟨first, found⟩, ih rest⟩

/-- The regions are one for each pane. -/
theorem partitionGrid_iff : PartitionGrid panes cols rows ↔ ∃ place : String × PaneRect → GridRegion,
    (∀ pane ∈ panes, region (toUnitF32 pane.2) cols rows = some (place pane)) ∧
      Partitions (panes.map place)
        (dividers (panes.map fun pane => (pane.1, toUnitF32 pane.2)) cols rows) cols rows := by
  constructor
  · rintro ⟨placed, found, -, partitions⟩
    have : Nonempty GridRegion := ⟨⟨0, 0, 0, 0⟩⟩
    choose! place isPlace using region_of_regions found
    obtain rfl := Option.some.inj (found.symm.trans (regions_eq_some isPlace))
    rw [map_map] at partitions
    exact ⟨place, isPlace, partitions⟩
  · rintro ⟨place, isPlace, partitions⟩
    refine ⟨_, regions_eq_some isPlace, by simp, ?_⟩
    rwa [map_map]

/-- Where the panes share their lines, the regions partition the grid exactly if every pane keeps its
cells: one that loses them has no cell, or one that belongs to another pane. -/
theorem partitionGrid_iff_keepsCells (tiles : TilesWindow panes) (isAcross : EdgeLines cols across)
    (isAlong : EdgeLines rows along) (share : ShareLines cols rows across along panes) :
    PartitionGrid panes cols rows ↔ ∀ pane ∈ panes, KeepsCells across along pane.2 := by
  have frame : Box.mapLines across along ⟨0, 0, 1000, 1000⟩ = ⟨0, 0, cols.toNat, rows.toNat⟩ := by
    rw [Box.mapLines, isAcross.first, isAcross.last, isAlong.first, isAlong.last]
  rw [partitionGrid_iff]
  constructor
  · rintro ⟨place, isPlace, nonempty, inside, disjoint, -⟩ pane member
    by_contra loses
    obtain ⟨someCols, someRows⟩ := nonempty _ (mem_map_of_mem member)
    obtain ⟨lastCol, lastRow⟩ := inside _ (mem_map_of_mem member)
    obtain ⟨isCol, isRow⟩ := region_corner (share pane member).1 (share pane member).2 (isPlace pane member)
    obtain ⟨_, isBox, contains⟩ := @Tiles.covers_mapLines _ _ across along tiles isAcross.mono isAlong.mono
      (place pane).col (place pane).row (by
        rw [frame]
        exact ⟨Nat.zero_le _, (Nat.lt_add_of_pos_right someCols).trans_le lastCol, Nat.zero_le _,
          (Nat.lt_add_of_pos_right someRows).trans_le lastRow⟩)
    obtain ⟨other, isOther, rfl⟩ := mem_map.mp isBox
    have keeps : KeepsCells across along other.2 :=
      ⟨contains.left_le.trans_lt contains.lt_right, contains.top_le.trans_lt contains.lt_bottom⟩
    obtain ⟨_, found, box⟩ := region_of_keepsCells (share other isOther).1 (share other isOther).2 keeps
    obtain rfl := Option.some.inj (found.symm.trans (isPlace other isOther))
    rw [← box] at contains
    have different : pane ≠ other := fun same => loses (same ▸ keeps)
    have : Std.Symm fun one other => (place one).box.Apart (place other).box :=
      ⟨fun _ _ => Box.Apart.symm⟩
    have apart := (pairwise_map.mp disjoint).forall member isOther different
    exact apart.not_both ⟨le_refl _, Nat.lt_add_of_pos_right someCols, le_refl _,
      Nat.lt_add_of_pos_right someRows⟩ contains
  · intro keep
    have all := fun pane member =>
      region_of_keepsCells (share pane member).1 (share pane member).2 (keep pane member)
    have : Nonempty GridRegion := ⟨⟨0, 0, 0, 0⟩⟩
    choose! place isPlace isBox using all
    have tiled := tiles.mapLines isAcross.mono isAlong.mono (forall_mem_map.mpr keep)
    rw [frame, map_map, Function.comp_def, ← map_congr_left isBox] at tiled
    refine ⟨place, isPlace, forall_mem_map.mpr fun pane member => ?_,
      forall_mem_map.mpr fun pane member => ?_, ?_, fun col left row top => .inl ?_⟩
    · obtain ⟨wide, high⟩ := tiled.proper _ (mem_map_of_mem member)
      exact ⟨Nat.lt_add_right_iff_pos.mp wide, Nat.lt_add_right_iff_pos.mp high⟩
    · obtain ⟨-, -, right, bottom⟩ := tiled.within _ (mem_map_of_mem member)
      exact ⟨right, bottom⟩
    · exact pairwise_map.mpr (pairwise_map.mp tiled.apart)
    · obtain ⟨_, member, contains⟩ := tiled.covers col row ⟨Nat.zero_le _, left, Nat.zero_le _, top⟩
      obtain ⟨_, isPane, rfl⟩ := mem_map.mp member
      exact ⟨_, mem_map_of_mem isPane, contains⟩

end Lines

/-! ## Edges away from the middle between two lines -/

/-- The nearest grid line of an edge in per mille. -/
def nearestLine (extent : UInt16) (edge : ℕ) : ℕ := (2 * (edge * extent.toNat) + 1000) / 2000

/-- The edge is further from the middle between two lines, on either side, than single precision errs:
by more than a four-millionth of the extent. -/
def OffMiddle (extent : UInt16) (edge : ℕ) : Prop :=
  let past := (2 * (edge * extent.toNat) + 1000) % 2000
  extent.toNat < 2000 * past ∧ extent.toNat < 2000 * (2000 - past)

theorem roundHalfEven_error (value : ℚ) : |roundHalfEven value - value| ≤ 1 / 2 := by
  have low := Int.floor_le value
  have high := Int.lt_floor_add_one value
  have even : ((⌊value⌋ % 2 : ℤ) : ℚ) = 0 ∨ ((⌊value⌋ % 2 : ℤ) : ℚ) = 1 := by
    exact_mod_cast Int.emod_two_eq_zero_or_one ⌊value⌋
  rw [abs_le]
  unfold roundHalfEven
  dsimp only
  split_ifs <;> push_cast at * <;> rcases even with even | even <;> constructor <;> linarith

theorem toF32_error (value : ℚ) : |toF32 value - value| ≤ |value| / 2 ^ 24 := by
  by_cases isZero : value = 0
  · simp [isZero, toF32, roundHalfEven]
  · have unit : (0 : ℚ) < 2 ^ (Int.log 2 |value| - 23) := by positivity
    have most : (2 : ℚ) ^ Int.log 2 |value| ≤ |value| :=
      Int.zpow_log_le_self (by norm_num) (abs_pos.mpr isZero)
    have error := roundHalfEven_error (value / 2 ^ (Int.log 2 |value| - 23))
    have scaled : toF32 value - value = (roundHalfEven (value / 2 ^ (Int.log 2 |value| - 23)) -
        value / 2 ^ (Int.log 2 |value| - 23)) * 2 ^ (Int.log 2 |value| - 23) := by
      rw [toF32, sub_mul, div_mul_cancel₀ _ unit.ne']
    calc |toF32 value - value|
      _ ≤ 1 / 2 * 2 ^ (Int.log 2 |value| - 23) := by
        rw [scaled, abs_mul, abs_of_pos unit]
        exact mul_le_mul_of_nonneg_right error unit.le
      _ = 2 ^ Int.log 2 |value| / 2 ^ 24 := by
        rw [zpow_sub₀ (by norm_num)]
        ring
      _ ≤ |value| / 2 ^ 24 := by gcongr

theorem toF32_nonneg {value : ℚ} (nonneg : 0 ≤ value) : 0 ≤ toF32 value := by
  have error := toF32_error value
  rw [abs_of_nonneg nonneg, abs_le] at error
  linarith

/-- A number close to an edge that is off the middle is sent to the line nearest to the edge. -/
theorem line_of_close {frac : ℚ} {extent : UInt16} {edge : ℕ} (nonneg : 0 ≤ frac)
    (close : |frac - edge / 1000| ≤ 21 / 10 / 2 ^ 24) (inside : edge ≤ 1000)
    (off : OffMiddle extent edge) : line frac extent = nearestLine extent edge := by
  obtain ⟨above, below⟩ := off
  have whole := Nat.div_add_mod (2 * (edge * extent.toNat) + 1000) 2000
  have less := Nat.mod_lt (2 * (edge * extent.toNat) + 1000) (show 2000 > 0 by decide)
  have most := Nat.mul_le_mul_right extent.toNat inside
  change line frac extent = (2 * (edge * extent.toNat) + 1000) / 2000
  generalize (2 * (edge * extent.toNat) + 1000) / 2000 = nearest at *
  generalize (2 * (edge * extent.toNat) + 1000) % 2000 = past at *
  have positive : (0 : ℚ) ≤ extent.toNat := Nat.cast_nonneg _
  have scaled := mul_le_mul_of_nonneg_right close positive
  rw [← abs_of_nonneg positive, ← abs_mul, abs_of_nonneg positive, sub_mul, abs_le] at scaled
  have rounded := toF32_error (frac * extent.toNat)
  rw [abs_of_nonneg (mul_nonneg nonneg positive), abs_le] at rounded
  have isFloor : ⌊toF32 (frac * extent.toNat) + 1 / 2⌋ = nearest := by
    qify at whole most above below
    rw [Int.floor_eq_iff]
    push_cast [Nat.cast_sub less.le] at *
    constructor <;> linarith
  rw [line, roundHalfAway, if_pos (toF32_nonneg (mul_nonneg nonneg positive)), isFloor]
  omega

theorem hasLines_nearestLine {extent : UInt16} {start size : ℕ} (inside : start + size ≤ 1000)
    (first : OffMiddle extent start) (last : OffMiddle extent (start + size)) :
    HasLines extent (nearestLine extent) start size := by
  have nonneg (edge : ℕ) : (0 : ℚ) ≤ (edge : ℚ) / 1000 := by positivity
  have error (edge : ℕ) := toF32_error ((edge : ℚ) / 1000)
  have one := error start
  have other := error size
  have sum := toF32_error (toF32 (start / 1000) + toF32 (size / 1000))
  have sumNonneg := add_nonneg (toF32_nonneg (nonneg start)) (toF32_nonneg (nonneg size))
  rw [abs_of_nonneg (nonneg _)] at one other
  rw [abs_of_nonneg sumNonneg] at sum
  have most : (start : ℚ) + size ≤ 1000 := by exact_mod_cast inside
  have sizeNonneg : (0 : ℚ) ≤ size := Nat.cast_nonneg _
  rw [abs_le] at one other sum
  refine ⟨line_of_close (toF32_nonneg (nonneg _)) ?_ (by omega) first,
    line_of_close (toF32_nonneg sumNonneg) ?_ inside last⟩
  · rw [abs_le]
    constructor <;> linarith
  · push_cast
    rw [abs_le]
    constructor <;> linarith

/-- The edges of the panes are off the middle between two lines. -/
def EdgesOffMiddle (cols rows : UInt16) (panes : List (String × PaneRect)) : Prop :=
  ∀ pane ∈ panes, (OffMiddle cols pane.2.x ∧ OffMiddle cols (pane.2.x + pane.2.w)) ∧
    OffMiddle rows pane.2.y ∧ OffMiddle rows (pane.2.y + pane.2.h)

theorem edgeLines_nearestLine (extent : UInt16) : EdgeLines extent (nearestLine extent) := by
  refine ⟨fun one other ordered => ?_, by simp [nearestLine], by unfold nearestLine; omega⟩
  have scaled := Nat.mul_le_mul_right extent.toNat ordered
  exact Nat.div_le_div_right (by omega)

/-- Two columns, which meet at a line given in per mille. -/
def twoColumns (line : Nat) : List (String × PaneRect) :=
  [("left", ⟨0, 0, line, 1000⟩), ("right", ⟨line, 0, 1000 - line, 1000⟩)]

theorem twoColumns_tile {line : Nat} (after : 0 < line) (before : line < 1000) :
    TilesWindow (twoColumns line) := by
  have whole := @Tiles.singleton ℕ _ ⟨0, 0, 1000, 1000⟩ ⟨by decide, by decide⟩
  have cut := whole.cut_columns after before
  simpa [TilesWindow, twoColumns, paneBox, Nat.add_sub_cancel' before.le] using cut

end HydraTerm.Shell.PaneRects
