import HydraTerm.Lib.Extremes
import HydraTerm.Lib.Spans
import HydraTerm.Shell.SettledRects

/-!
# Removing a pane from settled rectangles

What `reduceRectsBySpec` does to the survivors when a rectangle is taken out of a settled
set. The neighbour tests and the coverage test of a side decide exactly, so a side that is
accepted fits, and a side that fits is accepted. Since at most three survivors surround the
gap, one of its sides fits: the survivors are never packed anew, and they tile the window
again with edges that were there before.
-/

namespace HydraTerm.Shell

open Lib List

variable {others out : List AgentRect} {removed rect : UnitRect} {side : Side}

/-- The edges a side runs along. -/
def alongEdges (rects : List UnitRect) : Side → List ℚ
  | .left | .right => horizontalEdges rects
  | .top | .bottom => verticalEdges rects

theorem spanAlong_eq (side : Side) (rect : UnitRect) :
    spanAlong side rect = (side.lo rect.box, side.hi rect.box) := by
  cases side <;> rfl

variable {rects : List UnitRect} {edges : List ℚ} {pane : AgentRect} {span : ℚ × ℚ}

theorem spanAlong_mem (side : Side) (member : rect ∈ rects) :
    (spanAlong side rect).1 ∈ alongEdges rects side ∧
      (spanAlong side rect).2 ∈ alongEdges rects side := by
  obtain ⟨left, top, right, bottom⟩ := edgesAmong_self member
  cases side with
  | left | right => exact ⟨top, bottom⟩
  | top | bottom => exact ⟨left, right⟩

theorem Settled.spread_along (settled : Settled rects) (side : Side) :
    Spread (alongEdges rects side) := by
  cases side with
  | left | right => exact settled.rows
  | top | bottom => exact settled.columns

/-- Touching a side, up to the tolerance, is meeting it. -/
theorem touches_iff (settled : Settled rects) (removedMember : removed ∈ rects)
    (member : rect ∈ rects) :
    touches removed side rect = true ↔ match side with
      | .left => rect.box.right = removed.box.left
      | .right => rect.box.left = removed.box.right
      | .top => rect.box.bottom = removed.box.top
      | .bottom => rect.box.top = removed.box.bottom := by
  obtain ⟨left, top, right, bottom⟩ := edgesAmong_self removedMember
  obtain ⟨left', top', right', bottom'⟩ := edgesAmong_self member
  cases side
  · exact settled.columns.nearlyEq_iff right' left
  · exact settled.columns.nearlyEq_iff left' right
  · exact settled.rows.nearlyEq_iff bottom' top
  · exact settled.rows.nearlyEq_iff top' bottom

/-- The neighbours of a side are the boxes across it. -/
theorem neighbors_iff (settled : Settled rects)
    (removedMember : removed ∈ rects) (member : rect ∈ rects) :
    neighbors removed side rect = true ↔ side.Borders removed.box rect.box := by
  obtain ⟨lo, hi⟩ := spanAlong_mem side removedMember
  obtain ⟨lo', hi'⟩ := spanAlong_mem side member
  have exactly := (settled.spread_along side).add_eps_lt_iff (max_mem_of_mem lo' lo)
    (min_mem_of_mem hi' hi)
  rw [neighbors, Bool.and_eq_true, touches_iff settled removedMember member, decide_eq_true_eq,
    lt_sub_iff_add_lt, exactly, spanAlong_eq, spanAlong_eq]
  exact (Side.borders_iff ..).symm

theorem extendOver_box (removed : UnitRect) (side : Side) (rect : UnitRect) :
    (extendOver removed side rect).box = side.grow removed.box rect.box := by
  cases side <;> simp [extendOver, Side.grow, UnitRect.box, UnitRect.right, UnitRect.bottom]

/-- Spread spans that meet up to the tolerance run end to end. -/
theorem meets_iff_runsThrough {lo hi : ℚ} {first : ℚ × ℚ} {rest : List (ℚ × ℚ)}
    (spread : Spread edges) (start : lo ∈ edges) (stop : hi ∈ edges)
    (ends : ∀ span ∈ first :: rest, span.1 ∈ edges ∧ span.2 ∈ edges) :
    (nearlyEq first.1 lo = true ∧ nearlyEq (rest.getLast?.getD first).2 hi = true ∧
      spansMeet (first :: rest) = true) ↔ RunsThrough lo hi (first :: rest) := by
  obtain ⟨firstStart, firstStop⟩ := ends first mem_cons_self
  induction rest generalizing first lo with
  | nil =>
    simp only [getLast?_nil, Option.getD_none, spansMeet, and_true, RunsThrough]
    rw [spread.nearlyEq_iff firstStart start, spread.nearlyEq_iff firstStop stop]
  | cons next rest ih =>
    have nextEnds := ends next (mem_cons_of_mem _ mem_cons_self)
    have later := ih firstStop
      (fun span member => ends span (mem_cons_of_mem _ member)) nextEnds.1 nextEnds.2
    have meet : nearlyEq first.2 next.1 = true ↔ nearlyEq next.1 first.2 = true := by
      rw [spread.nearlyEq_iff firstStop nextEnds.1, spread.nearlyEq_iff nextEnds.1 firstStop, eq_comm]
    have last : (next :: rest).getLast?.getD first = rest.getLast?.getD next := by
      simp [getLast?_cons]
    rw [last, spansMeet, Bool.and_eq_true, meet, spread.nearlyEq_iff firstStart start]
    show _ ↔ first.1 = lo ∧ RunsThrough first.2 hi (next :: rest)
    tauto

/-- A side is covered exactly when its spans run from one end to the other. -/
theorem coversSide_iff {spans : List (ℚ × ℚ)} (spread : Spread edges)
    (start : (spanAlong side removed).1 ∈ edges) (stop : (spanAlong side removed).2 ∈ edges)
    (ends : ∀ span ∈ spans, span.1 ∈ edges ∧ span.2 ∈ edges) (nonempty : spans ≠ []) :
    coversSide removed side spans = true ↔
      RunsThrough (spanAlong side removed).1 (spanAlong side removed).2 spans := by
  cases spans with
  | nil => exact absurd rfl nonempty
  | cons =>
    rw [← meets_iff_runsThrough spread start stop ends]
    simp [coversSide, getLast?_cons, and_assoc]

/-! ## Filling one side -/

section

variable (others removed side)

/-- The panes across a side of the freed rectangle. -/
def acrossSide : List AgentRect :=
  others.filter fun pane => neighbors removed side pane.rect

/-- The spans of the panes across a side, sorted. -/
def acrossSpans : List (ℚ × ℚ) :=
  sortSpans ((acrossSide others removed side).map fun pane => spanAlong side pane.rect)

/-- The panes once those across a side have grown over the freed rectangle. -/
def grownOver : List AgentRect :=
  others.map fun pane =>
    if neighbors removed side pane.rect then { pane with rect := extendOver removed side pane.rect }
    else pane

theorem fillSide_eq :
    fillSide others removed side =
      if (acrossSide others removed side).isEmpty then none
      else if coversSide removed side (acrossSpans others removed side) then
        some (grownOver others removed side)
      else none :=
  rfl

end

theorem mem_acrossSpans : span ∈ acrossSpans others removed side ↔
    ∃ pane ∈ others, neighbors removed side pane.rect = true ∧ spanAlong side pane.rect = span := by
  simp [acrossSpans, sortSpans, acrossSide, and_assoc]

theorem acrossSpans_ne_nil (some : acrossSide others removed side ≠ []) :
    acrossSpans others removed side ≠ [] := by
  obtain ⟨pane, member⟩ := exists_mem_of_ne_nil _ some
  obtain ⟨member, neighbor⟩ := mem_filter.mp member
  exact ne_nil_of_mem (mem_acrossSpans.mpr ⟨pane, member, neighbor, rfl⟩)

theorem survivor_mem (member : pane ∈ others) : pane.rect ∈ removed :: others.map AgentRect.rect :=
  mem_cons_of_mem _ (mem_map_of_mem member)

variable (settled : Settled (removed :: others.map AgentRect.rect))
include settled

/-- The neighbours of the freed rectangle's side, among the survivors. -/
theorem neighbors_iff_borders (member : pane ∈ others) :
    neighbors removed side pane.rect = true ↔ side.Borders removed.box pane.box :=
  neighbors_iff settled mem_cons_self (survivor_mem member)

/-- The survivors and the freed rectangle, by their edges. -/
theorem settled_boxes : Tiles unitBox (removed.box :: others.map AgentRect.box) := by
  have tiles := settled.tiles
  rw [map_cons, map_map] at tiles
  exact tiles

/-- The spans across a side are edges along it, and proper. -/
theorem acrossSpans_ends (member : span ∈ acrossSpans others removed side) :
    (span.1 ∈ alongEdges (removed :: others.map AgentRect.rect) side ∧
      span.2 ∈ alongEdges (removed :: others.map AgentRect.rect) side) ∧ span.1 < span.2 := by
  obtain ⟨pane, paneMember, _, rfl⟩ := mem_acrossSpans.mp member
  rw [spanAlong_eq]
  exact ⟨spanAlong_eq side pane.rect ▸ spanAlong_mem side (survivor_mem paneMember),
    Side.lo_lt_hi (settled.proper (survivor_mem paneMember))⟩

section

variable (some : acrossSide others removed side ≠ [])
include some

/-- The coverage test of a side with neighbours decides whether they run through it. -/
theorem coversSide_acrossSpans :
    coversSide removed side (acrossSpans others removed side) = true ↔
      RunsThrough (spanAlong side removed).1 (spanAlong side removed).2
        (acrossSpans others removed side) := by
  obtain ⟨start, stop⟩ := spanAlong_mem side
    (mem_cons_self : removed ∈ removed :: others.map AgentRect.rect)
  exact coversSide_iff (settled.spread_along side) start stop
    (fun span member => (acrossSpans_ends settled member).1) (acrossSpans_ne_nil some)

/-- An accepted side fits. -/
theorem fits_of_covers (covers : coversSide removed side (acrossSpans others removed side) = true)
    {box : Box ℚ} (member : box ∈ others.map AgentRect.box) (borders : side.Borders removed.box box) :
    side.Fits removed.box box := by
  obtain ⟨pane, paneMember, rfl⟩ := mem_map.mp member
  have runs := (coversSide_acrossSpans settled some).mp covers
  obtain ⟨_, bounded⟩ := runs.bounds fun span member => (acrossSpans_ends settled member).2
  have neighbor := (neighbors_iff_borders settled paneMember).mpr borders
  obtain ⟨first, last⟩ := bounded _ (mem_acrossSpans.mpr ⟨pane, paneMember, neighbor, rfl⟩)
  rw [spanAlong_eq, spanAlong_eq] at first last
  exact ⟨first, last⟩

/-- A side that fits is accepted. -/
theorem covers_of_fits (inner : side.Inner unitBox removed.box)
    (fits : ∀ box ∈ others.map AgentRect.box, side.Borders removed.box box →
      side.Fits removed.box box) :
    coversSide removed side (acrossSpans others removed side) = true := by
  have boxes := settled_boxes settled
  rw [coversSide_acrossSpans settled some, spanAlong_eq]
  have gapProper := settled.proper (mem_cons_self : removed ∈ _)
  have across : ∀ span ∈ acrossSpans others removed side, ∃ box ∈ others.map AgentRect.box,
      side.Borders removed.box box ∧ (side.lo box, side.hi box) = span := by
    intro span member
    obtain ⟨pane, paneMember, neighbor, rfl⟩ := mem_acrossSpans.mp member
    exact ⟨pane.box, mem_map_of_mem paneMember,
      (neighbors_iff_borders settled paneMember).mp neighbor, (spanAlong_eq side pane.rect).symm⟩
  refine runsThrough_of_covers ?_ ?_ ?_ ?_ ?_ ?_
  · exact (Side.lo_lt_hi gapProper).le
  · have : Std.Total fun one other : ℚ × ℚ => one.1 ≤ other.1 := ⟨fun one other => le_total _ _⟩
    exact pairwise_insertionSort _ _
  · exact fun span member => (acrossSpans_ends settled member).2
  · have unsorted : ((acrossSide others removed side).map fun pane => spanAlong side pane.rect).Pairwise
        fun one other => one.2 ≤ other.1 ∨ other.2 ≤ one.1 := by
      have apart := pairwise_map.mp (pairwise_cons.mp boxes.apart).2
      refine pairwise_map.mpr ((apart.filter _).imp_of_mem ?_)
      intro one other oneAcross otherAcross apart
      obtain ⟨member, neighbor⟩ := mem_filter.mp oneAcross
      obtain ⟨otherMember, otherNeighbor⟩ := mem_filter.mp otherAcross
      rw [spanAlong_eq, spanAlong_eq]
      exact Tiles.apart_along ((neighbors_iff_borders settled member).mp neighbor)
        ((neighbors_iff_borders settled otherMember).mp otherNeighbor)
        (boxes.proper _ (mem_cons_of_mem _ (mem_map_of_mem member)))
        (boxes.proper _ (mem_cons_of_mem _ (mem_map_of_mem otherMember))) apart
    exact ((perm_insertionSort _ _).pairwise_iff Or.symm).mpr unsorted
  · intro span member
    obtain ⟨box, boxMember, borders, rfl⟩ := across span member
    obtain ⟨first, last⟩ := fits box boxMember borders
    exact ⟨first, last⟩
  · intro point after before
    obtain ⟨_, boxMember, borders, first, last⟩ := boxes.borders_of_inner inner after before
    obtain ⟨pane, paneMember, rfl⟩ := mem_map.mp boxMember
    refine ⟨spanAlong side pane.rect, ?_, ?_⟩
    · exact mem_acrossSpans.mpr ⟨pane, paneMember,
        (neighbors_iff_borders settled paneMember).mpr borders, rfl⟩
    · rw [spanAlong_eq]
      exact ⟨first, last⟩

end

/-- Growing the panes across a side that fits tiles the window again. -/
theorem tiles_grownOver (inner : side.Inner unitBox removed.box)
    (fits : ∀ box ∈ others.map AgentRect.box, side.Borders removed.box box →
      side.Fits removed.box box) :
    Tiles unitBox (((grownOver others removed side).map AgentRect.rect).map UnitRect.box) := by
  classical
  have filled := (settled_boxes settled).fill inner fits
  have same : ((grownOver others removed side).map AgentRect.rect).map UnitRect.box =
      Tiles.filled side removed.box (others.map AgentRect.box) := by
    simp only [grownOver, Tiles.filled, map_map]
    refine map_congr_left fun pane member => ?_
    simp only [Function.comp_apply, neighbors_iff_borders settled member]
    split
    · exact extendOver_box removed side pane.rect
    · rfl
  rw [same]
  exact filled

omit settled in
/-- Growing panes over the freed rectangle uses edges that were there. -/
theorem edgesAmong_grownOver (member : rect ∈ (grownOver others removed side).map AgentRect.rect) :
    EdgesOf (removed :: others.map AgentRect.rect) rect := by
  obtain ⟨left, top, right, bottom⟩ :=
    edgesAmong_self (mem_cons_self : removed ∈ removed :: others.map AgentRect.rect)
  simp only [grownOver, map_map, mem_map] at member
  obtain ⟨_, paneMember, rfl⟩ := member
  obtain ⟨left', top', right', bottom'⟩ := edgesAmong_self (@survivor_mem _ removed _ paneMember)
  simp only [Function.comp_apply]
  split
  · cases side <;> constructor <;>
      simp only [extendOver, UnitRect.right, UnitRect.bottom, add_sub_cancel] <;>
      first
        | assumption
        | exact min_mem_of_mem left' left
        | exact max_mem_of_mem right' right
        | exact min_mem_of_mem top' top
        | exact max_mem_of_mem bottom' bottom
  · exact ⟨left', top', right', bottom'⟩

/-- Some side of the freed rectangle is filled, and whichever is, the survivors tile the
window with edges that were there. -/
theorem fillFreedByNeighbors_settled (nonempty : others ≠ []) (few : others.length ≤ 3) :
    ∃ side, fillFreedByNeighbors others removed = some (grownOver others removed side) ∧
      Tiles unitBox (((grownOver others removed side).map AgentRect.rect).map UnitRect.box) := by
  have boxes := settled_boxes settled
  obtain ⟨side, inner, fits⟩ := boxes.exists_fitting_side
    (by simpa using nonempty) (by simpa using few)
  have someAcross : acrossSide others removed side ≠ [] := by
    obtain ⟨_, boxMember, borders, _⟩ := boxes.borders_of_inner inner le_rfl
      (Side.lo_lt_hi (settled.proper (mem_cons_self : removed ∈ _)))
    obtain ⟨_, paneMember, rfl⟩ := mem_map.mp boxMember
    exact ne_nil_of_mem (mem_filter.mpr
      ⟨paneMember, (neighbors_iff_borders settled paneMember).mpr borders⟩)
  have accepted : fillSide others removed side = some (grownOver others removed side) := by
    rw [fillSide_eq, if_neg (by simpa using someAcross),
      if_pos (covers_of_fits settled someAcross inner fits)]
  have found : (fillFreedByNeighbors others removed).isSome := by
    refine findSome?_isSome_iff.mpr ⟨side, ?_, by rw [accepted]; rfl⟩
    cases side <;> simp [fillOrder]
  obtain ⟨_, isOut⟩ := Option.isSome_iff_exists.mp found
  obtain ⟨chosen, _, filled⟩ := exists_of_findSome?_eq_some isOut
  rw [fillSide_eq] at filled
  split at filled
  · cases filled
  next someChosen =>
    split at filled
    next covers =>
      cases filled
      have across : acrossSide others removed chosen ≠ [] := by simpa using someChosen
      refine ⟨chosen, isOut, tiles_grownOver settled ?_ fun box => fits_of_covers settled across covers⟩
      obtain ⟨_, member⟩ := exists_mem_of_ne_nil _ across
      obtain ⟨member, neighbor⟩ := mem_filter.mp member
      exact boxes.inner_of_borders (mem_cons_of_mem _ (mem_map_of_mem member))
        ((neighbors_iff_borders settled member).mp neighbor)
    next => cases filled

omit settled in
/-- Taking a pane out of an exact set leaves the survivors exact, each of them still
there. -/
theorem reduce_exact (exact_ : Exact (removed :: others.map AgentRect.rect))
    (nonempty : others ≠ []) (few : others.length ≤ 3) :
    Exact ((reduceRectsBySpec others removed).map AgentRect.rect) ∧
      (reduceRectsBySpec others removed).map AgentRect.agent = others.map AgentRect.agent := by
  by_cases alone : others.length ≤ 1
  · have one : others.length = 1 := le_antisymm alone (length_pos_of_ne_nil nonempty)
    obtain ⟨_, rfl⟩ := length_eq_one_iff.mp one
    exact ⟨exact_full, rfl⟩
  · obtain ⟨side, filled, tiles⟩ := fillFreedByNeighbors_settled exact_.toSettled nonempty few
    have same : reduceRectsBySpec others removed = grownOver others removed side := by
      rw [reduceRectsBySpec, if_neg alone, filled]
    rw [same]
    refine ⟨exact_.of_edges (fun rect member => edgesAmong_grownOver member) tiles, ?_⟩
    simp only [grownOver, map_map]
    refine map_congr_left fun pane _ => ?_
    simp only [Function.comp_apply]
    split <;> rfl

omit settled in
theorem within_extendOver (removed : UnitRect) (side : Side) (rect : UnitRect) :
    rect.box.Within (extendOver removed side rect).box := by
  rw [extendOver_box]
  cases side <;> constructor <;> simp [Side.grow]

omit settled in
/-- Positions that differ by more than twice the tolerance, if at all, are spread. -/
theorem spread_of_twice
    (apart : ∀ one ∈ edges, ∀ other ∈ edges, one ≠ other → 2 * rectEps < |one - other|) :
    Spread edges := by
  intro one member other otherMember near
  by_contra different
  have far := apart one member other otherMember different
  rw [nearlyEq, decide_eq_true_eq] at near
  have positive := rectEps_pos
  linarith

/-- The survivors are changed one by one, into rectangles around their old ones that tile the
window again; a single survivor apart, they are the neighbours' fill. -/
theorem reduce_settled (nonempty : others ≠ []) (few : others.length ≤ 3) :
    ∃ grow : UnitRect → UnitRect, reduceRectsBySpec others removed =
        others.map (fun pane => { pane with rect := grow pane.rect }) ∧
      (∀ pane ∈ others, pane.box.Within (grow pane.rect).box) ∧
      Tiles unitBox ((reduceRectsBySpec others removed).map AgentRect.box) ∧
      (others.length = 1 ∨
        fillFreedByNeighbors others removed = some (reduceRectsBySpec others removed)) := by
  by_cases alone : others.length ≤ 1
  · have one : others.length = 1 := le_antisymm alone (length_pos_of_ne_nil nonempty)
    have isReduced : reduceRectsBySpec others removed =
        others.map fun pane => { pane with rect := .full } := by
      rw [reduceRectsBySpec, if_pos alone]
    refine ⟨fun _ => .full, isReduced, ?_, ?_, .inl one⟩
    · intro pane member
      rw [UnitRect.box_full]
      exact settled.within (survivor_mem member)
    · obtain ⟨_, rfl⟩ := length_eq_one_iff.mp one
      exact exact_full.tiles
  · obtain ⟨side, filled, tilesAgain⟩ := fillFreedByNeighbors_settled settled nonempty few
    have isReduced : reduceRectsBySpec others removed = grownOver others removed side := by
      rw [reduceRectsBySpec, if_neg alone, filled]
    rw [isReduced]
    refine ⟨fun rect => if neighbors removed side rect then extendOver removed side rect else rect,
      ?_, ?_, ?_, .inr filled⟩
    · refine map_congr_left fun pane _ => ?_
      dsimp only
      split
      · rfl
      · rfl
    · intro pane _
      dsimp only
      split
      · exact within_extendOver removed side pane.rect
      · exact ⟨le_rfl, le_rfl, le_rfl, le_rfl⟩
    · rwa [map_map] at tilesAgain

omit settled in
/-- Taking one of two to four rectangles out of an exact tiling: the survivors stay, tile the
window again without being packed anew, none of them shrinks and one grows. -/
theorem reduction_tiles_exactly
    (tiles : Tiles unitBox ((removed :: others.map AgentRect.rect).map UnitRect.box))
    (columns : ∀ one ∈ verticalEdges (removed :: others.map AgentRect.rect),
      ∀ other ∈ verticalEdges (removed :: others.map AgentRect.rect), one ≠ other →
        2 * rectEps < |one - other|)
    (rows : ∀ one ∈ horizontalEdges (removed :: others.map AgentRect.rect),
      ∀ other ∈ horizontalEdges (removed :: others.map AgentRect.rect), one ≠ other →
        2 * rectEps < |one - other|)
    (nonempty : others ≠ []) (few : others.length ≤ 3) :
    (others.length = 1 ∨ fillFreedByNeighbors others removed = some (reduceRectsBySpec others removed)) ∧
    (reduceRectsBySpec others removed).map AgentRect.agent = others.map AgentRect.agent ∧
    Tiles unitBox ((reduceRectsBySpec others removed).map AgentRect.box) ∧
    List.Forall₂ (fun old new : AgentRect => old.box.Within new.box) others
      (reduceRectsBySpec others removed) ∧
    ∃ (position : Nat) (old new : AgentRect), others[position]? = some old ∧
      (reduceRectsBySpec others removed)[position]? = some new ∧ ¬new.box.Within old.box := by
  have settled : Settled (removed :: others.map AgentRect.rect) :=
    ⟨tiles, spread_of_twice columns, spread_of_twice rows⟩
  obtain ⟨grow, isReduced, wider, tilesAgain, filled⟩ := reduce_settled settled nonempty few
  refine ⟨filled, by simp [isReduced, Function.comp_def], tilesAgain, ?_, ?_⟩
  · rw [isReduced]
    exact forall₂_map_right_iff.mpr (forall₂_same.mpr wider)
  · -- Were no survivor larger than before, the freed rectangle would be covered twice.
    by_contra noneGrew
    refine (settled_boxes settled).not_tail ?_
    have unchanged : (reduceRectsBySpec others removed).map AgentRect.box = others.map AgentRect.box := by
      rw [isReduced, map_map]
      refine map_congr_left fun pane member => ?_
      obtain ⟨position, isPane⟩ := getElem?_of_mem member
      by_contra changed
      refine noneGrew ⟨position, pane, { pane with rect := grow pane.rect }, isPane, ?_, ?_⟩
      · rw [isReduced, getElem?_map, isPane]
        rfl
      · exact fun back => changed (back.antisymm (wider pane member))
    rwa [unchanged] at tilesAgain

/-- The panes of a grid other than the top left one. -/
def gridRest : List AgentRect :=
  [⟨"b", ⟨1 / 2, 0, 1 / 2, 1 / 2⟩⟩, ⟨"c", ⟨0, 1 / 2, 1 / 2, 1 / 2⟩⟩, ⟨"d", ⟨1 / 2, 1 / 2, 1 / 2, 1 / 2⟩⟩]

omit settled in
/-- The top left pane of a grid is closed. -/
theorem reduction_tiles_exactly_grid :
    Tiles unitBox ((reduceRectsBySpec gridRest ⟨0, 0, 1 / 2, 1 / 2⟩).map AgentRect.box) := by
  have tiles : Tiles unitBox
      ((⟨0, 0, 1 / 2, 1 / 2⟩ :: gridRest.map AgentRect.rect).map UnitRect.box) := exact_grid.tiles
  exact (reduction_tiles_exactly tiles (by decide +kernel) (by decide +kernel) (by decide)
    (by decide)).2.2.1

end HydraTerm.Shell
