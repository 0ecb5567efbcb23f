import HydraTerm.Shell.PaneGeometry

/-!
# Settled rectangles

Rectangles are settled when they tile the window exactly and any two of their edges on the
same axis either coincide or lie further apart than the tolerance. On settled rectangles
every comparison with a tolerance is an equality, so the guarded operations decide exactly.
`Exact` adds that the edges lie on the per-mille grid on which rectangles are stored: exact
rectangles pass the tiling guard and are stored without rounding.

Cutting a rectangle keeps this when the new divider falls on a whole per mille and does not
come closer than the tolerance to an edge it does not coincide with (`CutsCleanly`).
-/

namespace HydraTerm.Shell

open Lib List Bool

/-- The positions of the vertical edges. -/
def verticalEdges (rects : List UnitRect) : List ℚ := rects.flatMap fun rect => [rect.x, rect.right]

/-- The positions of the horizontal edges. -/
def horizontalEdges (rects : List UnitRect) : List ℚ := rects.flatMap fun rect => [rect.y,
  rect.bottom]

/-- Positions within the tolerance of each other coincide. -/
def Spread (edges : List ℚ) : Prop :=
  ∀ one ∈ edges, ∀ other ∈ edges, nearlyEq one other = true → one = other
  deriving Decidable

variable {edges : List ℚ} {one other : ℚ}

theorem Spread.subset {others : List ℚ} (spread : Spread others) (included : edges ⊆ others) :
    Spread edges :=
  fun one member other otherMember => spread one (included member) other (included otherMember)

theorem rectEps_pos : 0 < rectEps := by norm_num [rectEps]

theorem nearlyEq_self (value : ℚ) : nearlyEq value value = true := by
  simp [nearlyEq, rectEps]

section

variable (spread : Spread edges) (member : one ∈ edges) (otherMember : other ∈ edges)
include spread member otherMember

/-- Among spread positions the tolerance plays no part. -/
theorem Spread.nearlyEq_iff : nearlyEq one other = true ↔ one = other := by
  constructor
  · exact spread one member other otherMember
  · rintro rfl
    exact nearlyEq_self one

/-- A spread position below another is below it by more than the tolerance. -/
theorem Spread.gap (below : one < other) : one + rectEps < other := by
  by_contra near
  have close : nearlyEq one other = true := by
    rw [nearlyEq, decide_eq_true_eq, abs_le]
    constructor <;> linarith
  exact absurd (spread one member other otherMember close) (ne_of_lt below)

/-- Spread positions compare alike with and without the tolerance. -/
theorem Spread.add_eps_lt_iff : one + rectEps < other ↔ one < other := by
  constructor
  · intro below
    linarith [rectEps_pos]
  · exact spread.gap member otherMember

end

variable {rects others : List UnitRect} {rect : UnitRect} {rest : List UnitRect} {edge : EdgeDir}
  {P : ℚ → Prop}

theorem forall_verticalEdges :
    (∀ edge ∈ verticalEdges rects, P edge) ↔ ∀ rect ∈ rects, P rect.x ∧ P rect.right := by
  rw [verticalEdges, forall_mem_flatMap]
  simp

theorem forall_horizontalEdges :
    (∀ edge ∈ horizontalEdges rects, P edge) ↔ ∀ rect ∈ rects, P rect.y ∧ P rect.bottom := by
  rw [horizontalEdges, forall_mem_flatMap]
  simp

/-- The edges of some rectangles are among given positions. -/
structure EdgesAmong (columns rows : List ℚ) (rect : UnitRect) : Prop where
  left : rect.x ∈ columns
  top : rect.y ∈ rows
  right : rect.right ∈ columns
  bottom : rect.bottom ∈ rows

/-- The edges of a rectangle are edges of given rectangles. -/
abbrev EdgesOf (rects : List UnitRect) : UnitRect → Prop :=
  EdgesAmong (verticalEdges rects) (horizontalEdges rects)

theorem edgesAmong_self (member : rect ∈ rects) : EdgesOf rects rect := by
  obtain ⟨left, right⟩ := forall_verticalEdges.mp (fun _ => id) rect member
  obtain ⟨top, bottom⟩ := forall_horizontalEdges.mp (fun _ => id) rect member
  exact ⟨left, top, right, bottom⟩

section

variable {columns rows : List ℚ} (among : ∀ rect ∈ rects, EdgesAmong columns rows rect)
include among

theorem verticalEdges_subset : verticalEdges rects ⊆ columns :=
  forall_verticalEdges.mpr fun rect member => ⟨(among rect member).left, (among rect member).right⟩

theorem horizontalEdges_subset : horizontalEdges rects ⊆ rows :=
  forall_horizontalEdges.mpr fun rect member => ⟨(among rect member).top, (among rect member).bottom⟩

end

/-- The rectangles tile the window, and their edges are spread on both axes. -/
structure Settled (rects : List UnitRect) : Prop where
  tiles : Tiles unitBox (rects.map UnitRect.box)
  columns : Spread (verticalEdges rects)
  rows : Spread (horizontalEdges rects)

namespace Settled

/-- The order of settled rectangles is irrelevant. -/
theorem perm (settled : Settled rects) (same : rects.Perm others) : Settled others := by
  have among : ∀ rect ∈ others, EdgesOf rects rect := fun rect member =>
    edgesAmong_self (same.mem_iff.mpr member)
  exact ⟨settled.tiles.perm (same.map _), settled.columns.subset (verticalEdges_subset among),
    settled.rows.subset (horizontalEdges_subset among)⟩

theorem proper (settled : Settled rects) (member : rect ∈ rects) : rect.box.Proper :=
  settled.tiles.proper _ (mem_map_of_mem member)

theorem within (settled : Settled rects) (member : rect ∈ rects) : rect.box.Within unitBox :=
  settled.tiles.within _ (mem_map_of_mem member)

/-- Every edge of settled rectangles lies in the window. -/
theorem edge_bounds (settled : Settled rects) :
    (∀ edge ∈ verticalEdges rects, 0 ≤ edge ∧ edge ≤ 1) ∧
      ∀ edge ∈ horizontalEdges rects, 0 ≤ edge ∧ edge ≤ 1 := by
  constructor
  · refine forall_verticalEdges.mpr fun rect member => ?_
    obtain ⟨leftLe, _, leRight, _⟩ := settled.within member
    obtain ⟨wide, _⟩ := settled.proper member
    simp only [unitBox, UnitRect.box_left, UnitRect.box_right] at leftLe leRight wide
    exact ⟨⟨leftLe, by linarith⟩, by linarith, leRight⟩
  · refine forall_horizontalEdges.mpr fun rect member => ?_
    obtain ⟨_, topLe, _, leBottom⟩ := settled.within member
    obtain ⟨_, high⟩ := settled.proper member
    simp only [unitBox, UnitRect.box_top, UnitRect.box_bottom] at topLe leBottom high
    exact ⟨⟨topLe, by linarith⟩, by linarith, leBottom⟩

end Settled

/-- Settled rectangles on the per-mille grid. -/
structure Exact (rects : List UnitRect) : Prop extends Settled rects where
  grid : ∀ rect ∈ rects, rect.box.OnGrid 1000

namespace Exact

theorem perm (exact_ : Exact rects) (same : rects.Perm others) : Exact others :=
  ⟨exact_.toSettled.perm same, fun rect member => exact_.grid rect (same.mem_iff.mpr member)⟩

/-- A position on the per-mille grid. -/
def PerMille (edge : ℚ) : Prop := ∃ line : ℕ, edge = line / (1000 : ℕ)

theorem edges_perMille (exact_ : Exact rects) :
    (∀ edge ∈ verticalEdges rects, PerMille edge) ∧ ∀ edge ∈ horizontalEdges rects, PerMille edge :=
  ⟨forall_verticalEdges.mpr fun rect member =>
      ⟨(exact_.grid rect member).left, (exact_.grid rect member).right⟩,
    forall_horizontalEdges.mpr fun rect member =>
      ⟨(exact_.grid rect member).top, (exact_.grid rect member).bottom⟩⟩

/-- A tiling whose edges are among spread positions on the grid is exact. -/
theorem of_among {columns rows : List ℚ} (tiles : Tiles unitBox (others.map UnitRect.box))
    (among : ∀ rect ∈ others, EdgesAmong columns rows rect)
    (inColumns : Spread columns ∧ ∀ edge ∈ columns, PerMille edge)
    (inRows : Spread rows ∧ ∀ edge ∈ rows, PerMille edge) : Exact others := by
  refine ⟨⟨tiles, inColumns.1.subset (verticalEdges_subset among),
    inRows.1.subset (horizontalEdges_subset among)⟩, fun rect member => ?_⟩
  obtain ⟨left, top, right, bottom⟩ := among rect member
  exact ⟨inColumns.2 _ left, inRows.2 _ top, inColumns.2 _ right, inRows.2 _ bottom⟩

/-- So is one whose edges are among the edges of exact rectangles. -/
theorem of_edges (exact_ : Exact rects) (among : ∀ rect ∈ others, EdgesOf rects rect)
    (tiles : Tiles unitBox (others.map UnitRect.box)) : Exact others :=
  of_among tiles among ⟨exact_.columns, exact_.edges_perMille.1⟩
    ⟨exact_.rows, exact_.edges_perMille.2⟩

/-- Exact rectangles are stored without rounding. -/
theorem stored (exact_ : Exact rects) (member : rect ∈ rects) :
    (PaneRect.fromUnit rect).toUnit = rect :=
  toUnit_fromUnit (exact_.grid rect member) (exact_.proper member) (exact_.within member)

end Exact

/-! ## The guard -/

/-- A rectangle of a settled set is in bounds. -/
theorem Settled.inBounds (settled : Settled rects) (member : rect ∈ rects) :
    inBounds rect = true := by
  obtain ⟨leftLe, topLe, leRight, leBottom⟩ := settled.within member
  obtain ⟨wide, high⟩ := settled.proper member
  obtain ⟨left, top, right, bottom⟩ := edgesAmong_self member
  have width := settled.columns.gap left right wide
  have height := settled.rows.gap top bottom high
  simp only [unitBox, UnitRect.box_left, UnitRect.box_top, UnitRect.box_right,
    UnitRect.box_bottom] at leftLe topLe leRight leBottom
  have positive := rectEps_pos
  simp only [Shell.inBounds, and_eq_true, not_eq_true', or_eq_false_iff,
    decide_eq_false_iff_not, not_le, not_lt]
  simp only [UnitRect.right, UnitRect.bottom] at *
  refine ⟨⟨by linarith, by linarith⟩, ⟨⟨by linarith, by linarith⟩, by linarith⟩, by linarith⟩

/-- Rectangles that are apart do not overlap. -/
theorem rectsOverlap_of_apart {p q : UnitRect} (apart : p.box.Apart q.box) :
    rectsOverlap p q = false := by
  have positive := rectEps_pos
  rw [rectsOverlap, and_eq_false_iff, decide_eq_false_iff_not, decide_eq_false_iff_not, not_lt,
    not_lt]
  rcases apart with before | before | before | before
  all_goals simp only [UnitRect.box_left, UnitRect.box_top, UnitRect.box_right,
    UnitRect.box_bottom] at before
  · exact .inl (((min_le_left _ _).trans before).trans ((le_max_right _ _).trans (by linarith)))
  · exact .inl (((min_le_right _ _).trans before).trans ((le_max_left _ _).trans (by linarith)))
  · exact .inr (((min_le_left _ _).trans before).trans ((le_max_right _ _).trans (by linarith)))
  · exact .inr (((min_le_right _ _).trans before).trans ((le_max_left _ _).trans (by linarith)))

theorem Settled.nonempty (settled : Settled rects) : rects ≠ [] := by
  rintro rfl
  have inside : unitBox.Contains 0 0 := by constructor <;> norm_num [unitBox]
  obtain ⟨_, member, _⟩ := settled.tiles.covers 0 0 inside
  exact absurd member not_mem_nil

/-- Exact rectangles pass the tiling guard. -/
theorem Exact.rectsTile {panes : List AgentRect} (exact_ : Exact (panes.map AgentRect.rect)) :
    rectsTileUnitSquare panes = true := by
  have nonempty : panes ≠ [] := by simpa using exact_.nonempty
  have area : (panes.map fun pane => pane.rect.w * pane.rect.h).sum = 1 := by
    have total := exact_.tiles.area_eq_one (by norm_num : 0 < 1000)
      (forall_mem_map.mpr exact_.grid)
    simpa [map_map, Function.comp_def, UnitRect.box_area] using total
  have apart := pairwise_map.mp (pairwise_map.mp exact_.tiles.apart)
  rw [rectsTileUnitSquare]
  simp only [and_eq_true, not_eq_true', isEmpty_eq_false_iff, all_eq_true, decide_eq_true_eq]
  refine ⟨⟨⟨nonempty, ?_⟩, ?_⟩, ?_⟩
  · exact fun pane member => exact_.inBounds (mem_map_of_mem member)
  · exact apart.imp rectsOverlap_of_apart
  · rw [area]
    norm_num

/-! ## Cutting a rectangle -/

/-- Where an edge direction cuts a rectangle. -/
def midline (rect : UnitRect) (edge : EdgeDir) : ℚ :=
  if edge.isHorizontal then rect.x + rect.w / 2 else rect.y + rect.h / 2

/-- The edges a cut towards an edge direction runs parallel to. -/
def parallelEdges (rects : List UnitRect) (edge : EdgeDir) : List ℚ :=
  if edge.isHorizontal then verticalEdges rects else horizontalEdges rects

/-- Halving the rectangle puts the new divider on a whole per mille, and either on an edge
that is there or further from it than the tolerance. -/
@[mk_iff]
structure CutsCleanly (rects : List UnitRect) (rect : UnitRect) (edge : EdgeDir) : Prop where
  perMille : ∃ line ∈ List.range 1001, midline rect edge = (line : ℚ) / 1000
  clear : ∀ other ∈ parallelEdges rects edge,
    nearlyEq (midline rect edge) other = true → midline rect edge = other

instance (rects : List UnitRect) (rect : UnitRect) (edge : EdgeDir) :
    Decidable (CutsCleanly rects rect edge) :=
  decidable_of_iff' _ (cutsCleanly_iff ..)

/-- The order of the rectangles is irrelevant to a cut. -/
theorem CutsCleanly.perm (clean : CutsCleanly rects rect edge)
    (same : rects.Perm others) : CutsCleanly others rect edge := by
  refine ⟨clean.perMille, fun other member => clean.clear other ?_⟩
  rw [parallelEdges] at member ⊢
  split_ifs at member ⊢ <;> exact (same.flatMap_right _).mem_iff.mpr member

/-- Adding one clear position keeps positions spread. -/
theorem Spread.cons {line : ℚ} (spread : Spread edges)
    (clear : ∀ other ∈ edges, nearlyEq line other = true → line = other) : Spread (line :: edges) := by
  have symmetric : ∀ a b, nearlyEq a b = nearlyEq b a := by
    intro a b
    simp [nearlyEq, abs_sub_comm]
  intro one member other otherMember near
  rcases mem_cons.mp member with rfl | oldOne <;>
    rcases mem_cons.mp otherMember with rfl | oldOther
  · rfl
  · exact clear other oldOther near
  · exact (clear one oldOne (symmetric one other ▸ near)).symm
  · exact spread one oldOne other oldOther near

/-- The two halves of a rectangle of a tiling tile in its place. -/
theorem tiles_split (edge : EdgeDir) (tiles : Tiles unitBox ((rect :: rest).map UnitRect.box)) :
    Tiles unitBox (((splitRectLocal rect edge).1 :: (splitRectLocal rect edge).2 :: rest).map
      UnitRect.box) := by
  obtain ⟨wide, high⟩ := tiles.proper rect.box mem_cons_self
  obtain ⟨x, y, w, h⟩ := rect
  simp only [UnitRect.box, UnitRect.right, UnitRect.bottom] at wide high
  have columns := tiles.cut_columns (show x < x + w / 2 by linarith)
    (show x + w / 2 < x + w by linarith)
  have rows := tiles.cut_rows (show y < y + h / 2 by linarith) (show y + h / 2 < y + h by linarith)
  have halfWidth : x + w / 2 + w / 2 = x + w := by ring
  have halfHeight : y + h / 2 + h / 2 = y + h := by ring
  cases edge
  · refine columns.perm ?_
    simpa [splitRectLocal, UnitRect.box, UnitRect.right, UnitRect.bottom, halfWidth]
      using List.Perm.swap _ _ _
  · simpa [splitRectLocal, UnitRect.box, UnitRect.right, UnitRect.bottom, halfWidth] using columns
  · refine rows.perm ?_
    simpa [splitRectLocal, UnitRect.box, UnitRect.right, UnitRect.bottom, halfHeight]
      using List.Perm.swap _ _ _
  · simpa [splitRectLocal, UnitRect.box, UnitRect.right, UnitRect.bottom, halfHeight] using rows

/-- The vertical edges once the rectangle is cut. -/
def cutColumns (rects : List UnitRect) (rect : UnitRect) (edge : EdgeDir) : List ℚ :=
  if edge.isHorizontal then midline rect edge :: verticalEdges rects else verticalEdges rects

/-- The horizontal edges once the rectangle is cut. -/
def cutRows (rects : List UnitRect) (rect : UnitRect) (edge : EdgeDir) : List ℚ :=
  if edge.isHorizontal then horizontalEdges rects else midline rect edge :: horizontalEdges rects

theorem edgesAmong_cut (edge : EdgeDir) {other : UnitRect} (member : other ∈ rects) :
    EdgesAmong (cutColumns rects rect edge) (cutRows rects rect edge) other := by
  obtain ⟨_, _, _, _⟩ := edgesAmong_self member
  cases edge <;> simp only [cutColumns, cutRows, EdgeDir.isHorizontal] <;> constructor <;> simp_all

/-- The halves of a rectangle have its edges and the new divider. -/
theorem edgesAmong_split (edge : EdgeDir) (member : rect ∈ rects) :
    EdgesAmong (cutColumns rects rect edge) (cutRows rects rect edge) (splitRectLocal rect edge).1 ∧
      EdgesAmong (cutColumns rects rect edge) (cutRows rects rect edge)
        (splitRectLocal rect edge).2 := by
  obtain ⟨_, _, right, bottom⟩ := edgesAmong_self member
  have halfWidth : rect.x + rect.w / 2 + rect.w / 2 = rect.x + rect.w := by ring
  have halfHeight : rect.y + rect.h / 2 + rect.h / 2 = rect.y + rect.h := by ring
  simp only [UnitRect.right, UnitRect.bottom] at right bottom
  cases edge <;> constructor <;> constructor <;>
    simp_all [splitRectLocal, cutColumns, cutRows, midline, EdgeDir.isHorizontal, UnitRect.right,
      UnitRect.bottom]

/-- A clean cut keeps rectangles exact. -/
theorem Exact.split (exact_ : Exact (rect :: rest)) (clean : CutsCleanly (rect :: rest) rect edge) :
    Exact ((splitRectLocal rect edge).1 :: (splitRectLocal rect edge).2 :: rest) := by
  have among : ∀ part ∈ (splitRectLocal rect edge).1 :: (splitRectLocal rect edge).2 :: rest,
      EdgesAmong (cutColumns (rect :: rest) rect edge) (cutRows (rect :: rest) rect edge) part := by
    obtain ⟨kept, inserted⟩ := edgesAmong_split edge (mem_cons_self : rect ∈ rect :: rest)
    intro part member
    rcases mem_cons.mp member with rfl | member
    · exact kept
    rcases mem_cons.mp member with rfl | member
    · exact inserted
    · exact edgesAmong_cut edge (mem_cons_of_mem _ member)
  obtain ⟨⟨line, _, onLine⟩, clear⟩ := clean
  have perMille : Exact.PerMille (midline rect edge) := ⟨line, by rw [onLine]; norm_num⟩
  obtain ⟨columnsGrid, rowsGrid⟩ := exact_.edges_perMille
  refine .of_among (tiles_split edge exact_.tiles) among ?_ ?_ <;>
    by_cases horizontal : edge.isHorizontal <;>
    simp only [cutColumns, cutRows, parallelEdges, horizontal, if_true, false_eq_true,
      if_false] at clear ⊢
  · exact ⟨exact_.columns.cons clear, forall_mem_cons.mpr ⟨perMille, columnsGrid⟩⟩
  · exact ⟨exact_.columns, columnsGrid⟩
  · exact ⟨exact_.rows, rowsGrid⟩
  · exact ⟨exact_.rows.cons clear, forall_mem_cons.mpr ⟨perMille, rowsGrid⟩⟩

/-! ## The fixed arrangements -/

/-- A pane over the whole window is exact. -/
theorem exact_full : Exact [.full] where
  tiles := by
    have proper : unitBox.Proper := by constructor <;> norm_num [unitBox]
    simpa [UnitRect.box_full] using Tiles.singleton proper
  columns := by decide +kernel
  rows := by decide +kernel
  grid := by
    intro rect member
    obtain rfl := mem_singleton.mp member
    exact ⟨⟨0, by norm_num [UnitRect.full]⟩, ⟨0, by norm_num [UnitRect.full]⟩,
      ⟨1000, by norm_num [UnitRect.full, UnitRect.right]⟩,
      ⟨1000, by norm_num [UnitRect.full, UnitRect.bottom]⟩⟩

/-- Two columns. -/
theorem exact_columns : Exact [⟨0, 0, 1 / 2, 1⟩, ⟨1 / 2, 0, 1 / 2, 1⟩] := by
  have halves : Exact _ := exact_full.split (by decide +kernel : CutsCleanly [.full] .full .right)
  simpa [splitRectLocal, UnitRect.full] using halves

/-- Two rows. -/
theorem exact_rows : Exact [⟨0, 0, 1, 1 / 2⟩, ⟨0, 1 / 2, 1, 1 / 2⟩] := by
  have halves : Exact _ := exact_full.split (by decide +kernel : CutsCleanly [.full] .full .bottom)
  simpa [splitRectLocal, UnitRect.full] using halves

/-- Two columns, the left one stacked. -/
theorem exact_left_stack :
    Exact [⟨0, 0, 1 / 2, 1 / 2⟩, ⟨0, 1 / 2, 1 / 2, 1 / 2⟩, ⟨1 / 2, 0, 1 / 2, 1⟩] := by
  have stacked : Exact _ := exact_columns.split (by decide +kernel : CutsCleanly _ _ .bottom)
  simpa [splitRectLocal] using stacked

/-- Two rows, the top one split. -/
theorem exact_top_pair :
    Exact [⟨0, 0, 1 / 2, 1 / 2⟩, ⟨1 / 2, 0, 1 / 2, 1 / 2⟩, ⟨0, 1 / 2, 1, 1 / 2⟩] := by
  have split : Exact _ := exact_rows.split (by decide +kernel : CutsCleanly _ _ .right)
  simpa [splitRectLocal] using split

/-- The rectangles of a grid of four panes, in reading order. -/
def gridRects : List UnitRect :=
  [⟨0, 0, 1 / 2, 1 / 2⟩, ⟨1 / 2, 0, 1 / 2, 1 / 2⟩, ⟨0, 1 / 2, 1 / 2, 1 / 2⟩,
    ⟨1 / 2, 1 / 2, 1 / 2, 1 / 2⟩]

/-- Four panes in a grid. -/
theorem exact_grid : Exact gridRects := by
  have turned : Exact [⟨0, 1 / 2, 1, 1 / 2⟩, ⟨0, 0, 1 / 2, 1 / 2⟩, ⟨1 / 2, 0, 1 / 2, 1 / 2⟩] :=
    exact_top_pair.perm (by decide +kernel)
  have split : Exact _ := turned.split (by decide +kernel : CutsCleanly _ _ .right)
  exact split.perm (by decide +kernel)

end HydraTerm.Shell
