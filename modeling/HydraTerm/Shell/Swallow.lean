import HydraTerm.Lib.Checks
import HydraTerm.Shell.Reduction

/-!
# Swallowing on exact rectangles

A swallow moves the focused pane's edge to the far edge of the panes across it and clips
those panes. Every edge it writes was there before, and every point of the window stays
covered: what a clipped pane gives up lies in the grown one. The guard on the result then
leaves no overlap, because edges that differ differ by more than the tolerance, so a
swallow that passes the guard keeps the rectangles exact.
-/

namespace HydraTerm.Shell

open Lib List

variable {panes out : List AgentRect} {focus : AgentId} {focused : AgentRect} {dir : SwallowDir}

/-- The pane lies across the focused pane's edge. -/
@[mk_iff]
structure Across (focused : AgentRect) (dir : SwallowDir) (pane : AgentRect) : Prop where
  other : pane.agent ≠ focused.agent
  across : liesAcross dir focused.rect pane.rect = true

/-- The panes across the focused pane's edge. -/
def acrossEdge (panes : List AgentRect) (focused : AgentRect) (dir : SwallowDir) : List AgentRect :=
  panes.filter fun pane => pane.agent ≠ focused.agent && liesAcross dir focused.rect pane.rect

variable {pane : AgentRect} {f r part : UnitRect} {columns rows : List ℚ} {x y : ℚ}

theorem mem_acrossEdge :
    pane ∈ acrossEdge panes focused dir ↔ pane ∈ panes ∧ Across focused dir pane := by
  simp [acrossEdge, across_iff]

/-- The focused pane's rectangle after the swallow. -/
def swallowedRect (panes : List AgentRect) (focused : AgentRect) (dir : SwallowDir) : UnitRect :=
  extendFocus dir focused.rect ((acrossEdge panes focused dir).map AgentRect.rect)

variable (panes focused dir) in
/-- What a swallow makes of one pane. -/
inductive Swallowed : AgentRect → AgentRect → Prop
  | focus {pane : AgentRect} (same : pane.agent = focused.agent) :
      Swallowed pane ⟨focused.agent, swallowedRect panes focused dir⟩
  | clipped {pane : AgentRect} {part : UnitRect} (across : Across focused dir pane)
      (clip : clippedParts dir focused.rect pane.rect = [part]) :
      Swallowed pane ⟨pane.agent, part⟩
  | kept {pane : AgentRect} (other : pane.agent ≠ focused.agent)
      (apart : ¬Across focused dir pane) : Swallowed pane pane

/-- A successful swallow relates the panes one by one. -/
theorem swallowed_of_some (swallow : swallowRectLocal panes focus dir = some out) :
    ∃ focused ∈ panes, focused.agent = focus ∧
      List.Forall₂ (Swallowed panes focused dir) panes out := by
  rw [swallowRectLocal] at swallow
  split at swallow
  · cases swallow
  next focused found =>
    have member := mem_of_find?_eq_some found
    have isFocus : focused.agent = focus := by simpa using find?_some found
    subst isFocus
    simp only at swallow
    split at swallow
    · cases swallow
    next =>
      refine ⟨focused, member, rfl, ?_⟩
      refine (forall₂_of_mapM swallow).imp fun pane result computed => ?_
      split at computed
      next same =>
        cases computed
        exact .focus same
      next other =>
        split at computed
        next across =>
          have isAcross : Across focused dir pane := ⟨other, by simpa [other] using across⟩
          split at computed
          next _ clip =>
            cases computed
            exact .clipped isAcross clip
          next => cases computed
        next apart =>
          cases computed
          exact .kept other fun across => apart (by simp [other, across.across])

/-! ## The edge the focused pane moves to -/

theorem edgesAmong_pane (member : pane ∈ panes) : EdgesOf (panes.map AgentRect.rect) pane.rect :=
  edgesAmong_self (mem_map_of_mem member)

/-- The grown rectangle has edges that were there. -/
theorem edgesAmong_swallowedRect (member : focused ∈ panes) :
    EdgesOf (panes.map AgentRect.rect) (swallowedRect panes focused dir) := by
  obtain ⟨left, top, right, bottom⟩ := edgesAmong_pane member
  have others : ∀ rect ∈ (acrossEdge panes focused dir).map AgentRect.rect,
      EdgesOf (panes.map AgentRect.rect) rect := by
    rintro _ across
    obtain ⟨_, paneAcross, rfl⟩ := mem_map.mp across
    exact edgesAmong_pane (mem_acrossEdge.mp paneAcross).1
  cases dir <;> constructor <;>
    simp only [swallowedRect, extendFocus, UnitRect.right, UnitRect.bottom, add_sub_cancel] <;>
    first
      | assumption
      | exact foldl_min_mem left fun rect across => (others rect across).left
      | exact foldl_max_mem right fun rect across => (others rect across).right
      | exact foldl_min_mem top fun rect across => (others rect across).top
      | exact foldl_max_mem bottom fun rect across => (others rect across).bottom

/-- A clipped part has edges of the pane and of the focused one. -/
theorem edgesAmong_clipped
    (focusedEdges : EdgesAmong columns rows f) (edges : EdgesAmong columns rows r)
    (clip : part ∈ clippedParts dir f r) : EdgesAmong columns rows part := by
  obtain ⟨_, _, _, _⟩ := focusedEdges
  obtain ⟨_, _, _, _⟩ := edges
  cases dir <;> simp only [clippedParts, mem_append] at clip <;> rcases clip with clip | clip <;>
    split at clip <;> simp only [mem_singleton, not_mem_nil] at clip <;> subst clip <;>
    constructor <;> simp only [UnitRect.right, UnitRect.bottom, add_sub_cancel] <;> assumption

/-- Every edge a swallow writes was there. -/
theorem Swallowed.edges {result : AgentRect} (swallowed : Swallowed panes focused dir pane result)
    (focusedMember : focused ∈ panes) (member : pane ∈ panes) :
    EdgesOf (panes.map AgentRect.rect) result.rect := by
  cases swallowed with
  | focus => exact edgesAmong_swallowedRect focusedMember
  | clipped _ clip =>
    exact edgesAmong_clipped (edgesAmong_pane focusedMember) (edgesAmong_pane member)
      (clip ▸ mem_singleton_self _)
  | kept => exact edgesAmong_pane member

/-! ## Coverage -/

/-- The grown rectangle moves one edge of the focused one, and reaches as far as every pane
across. -/
theorem swallowedRect_reach :
    match dir with
    | .left => ∃ edge, (swallowedRect panes focused .left).box = { focused.box with left := edge } ∧
        edge ≤ focused.box.left ∧ ∀ pane ∈ acrossEdge panes focused .left, edge ≤ pane.box.left
    | .right => ∃ edge, (swallowedRect panes focused .right).box = { focused.box with right := edge } ∧
        focused.box.right ≤ edge ∧ ∀ pane ∈ acrossEdge panes focused .right, pane.box.right ≤ edge
    | .up => ∃ edge, (swallowedRect panes focused .up).box = { focused.box with top := edge } ∧
        edge ≤ focused.box.top ∧ ∀ pane ∈ acrossEdge panes focused .up, edge ≤ pane.box.top
    | .down => ∃ edge, (swallowedRect panes focused .down).box = { focused.box with bottom := edge } ∧
        focused.box.bottom ≤ edge ∧ ∀ pane ∈ acrossEdge panes focused .down, pane.box.bottom ≤ edge := by
  cases dir
  case' left =>
    obtain ⟨first, rest⟩ := @foldl_min_le _ _ _ focused.rect.x
      ((acrossEdge panes focused .left).map AgentRect.rect) UnitRect.x
  case' right =>
    obtain ⟨first, rest⟩ := @le_foldl_max _ _ _ focused.rect.right
      ((acrossEdge panes focused .right).map AgentRect.rect) UnitRect.right
  case' up =>
    obtain ⟨first, rest⟩ := @foldl_min_le _ _ _ focused.rect.y
      ((acrossEdge panes focused .up).map AgentRect.rect) UnitRect.y
  case' down =>
    obtain ⟨first, rest⟩ := @le_foldl_max _ _ _ focused.rect.bottom
      ((acrossEdge panes focused .down).map AgentRect.rect) UnitRect.bottom
  all_goals
    refine ⟨_, ?_, first, fun pane member => rest pane.rect (mem_map_of_mem member)⟩
    simp [swallowedRect, extendFocus, AgentRect.box, UnitRect.box, UnitRect.right, UnitRect.bottom]

/-- The focused pane only grows. -/
theorem swallowedRect_grows (inside : focused.box.Contains x y) :
    (swallowedRect panes focused dir).box.Contains x y := by
  obtain ⟨_, _, _, _⟩ := inside
  have reach := @swallowedRect_reach panes focused dir
  cases dir <;> obtain ⟨edge, same, most, _⟩ := reach <;> rw [same] <;> constructor <;> grind

/-- Of two parts one is left: the other one's condition fails. -/
theorem eq_of_append_ite {α : Type} {p q : Prop} [Decidable p] [Decidable q] {a b c : α}
    (one : (if p then [a] else []) ++ (if q then [b] else []) = [c]) : a = c ∧ ¬q ∨ b = c ∧ ¬p := by
  split_ifs at one <;> simp_all

variable (settled : Settled (panes.map AgentRect.rect))
include settled

/-- A clipped pane keeps what lies on one side of the focused one, across the swallow. -/
theorem clipped_beside (member : f ∈ panes.map AgentRect.rect)
    (otherMember : r ∈ panes.map AgentRect.rect) (clip : clippedParts dir f r = [part]) :
    match dir with
    | .left | .right => part.box = { r.box with bottom := f.box.top } ∧ r.box.bottom ≤ f.box.bottom ∨
        part.box = { r.box with top := f.box.bottom } ∧ f.box.top ≤ r.box.top
    | .up | .down => part.box = { r.box with right := f.box.left } ∧ r.box.right ≤ f.box.right ∨
        part.box = { r.box with left := f.box.right } ∧ f.box.left ≤ r.box.left := by
  obtain ⟨left, top, right, bottom⟩ := edgesAmong_self member
  obtain ⟨left', top', right', bottom'⟩ := edgesAmong_self otherMember
  have above := settled.rows.add_eps_lt_iff top' top
  have below := settled.rows.add_eps_lt_iff bottom bottom'
  have before := settled.columns.add_eps_lt_iff left' left
  have after := settled.columns.add_eps_lt_iff right right'
  cases dir <;> simp only [clippedParts, lt_sub_iff_add_lt, above, below, before, after] at clip <;>
    rcases eq_of_append_ite clip with ⟨rfl, notPast⟩ | ⟨rfl, notPast⟩
  all_goals
    first
      | exact .inl ⟨by simp [UnitRect.box, UnitRect.right, UnitRect.bottom], not_lt.mp notPast⟩
      | exact .inr ⟨by simp [UnitRect.box, UnitRect.right, UnitRect.bottom], not_lt.mp notPast⟩

/-- The panes across an edge meet it. -/
theorem Across.meets (across : Across focused dir pane)
    (focusedMember : focused ∈ panes) (member : pane ∈ panes) :
    match dir with
    | .left => pane.box.right = focused.box.left
    | .right => pane.box.left = focused.box.right
    | .up => pane.box.bottom = focused.box.top
    | .down => pane.box.top = focused.box.bottom := by
  obtain ⟨left, top, right, bottom⟩ := edgesAmong_pane focusedMember
  obtain ⟨left', top', right', bottom'⟩ := edgesAmong_pane member
  have lies := across.across
  cases dir <;> simp only [liesAcross, Bool.and_eq_true] at lies
  · exact (settled.columns.nearlyEq_iff right' left).mp lies.1
  · exact (settled.columns.nearlyEq_iff left' right).mp lies.1
  · exact (settled.rows.nearlyEq_iff bottom' top).mp lies.1
  · exact (settled.rows.nearlyEq_iff top' bottom).mp lies.1

/-- What a clipped pane gives up lies in the grown rectangle. -/
theorem slice_covered (focusedMember : focused ∈ panes)
    (member : pane ∈ panes) (across : Across focused dir pane)
    (clip : clippedParts dir focused.rect pane.rect = [part]) (inside : pane.box.Contains x y) :
    part.box.Contains x y ∨ (swallowedRect panes focused dir).box.Contains x y := by
  have focusedRect : focused.rect ∈ panes.map AgentRect.rect := mem_map_of_mem focusedMember
  have paneRect : pane.rect ∈ panes.map AgentRect.rect := mem_map_of_mem member
  obtain ⟨_, _⟩ := settled.proper focusedRect
  obtain ⟨_, _, _, _⟩ := inside
  have inAcross : pane ∈ acrossEdge panes focused dir := mem_acrossEdge.mpr ⟨member, across⟩
  have reach := @swallowedRect_reach panes focused dir
  have meets := across.meets settled focusedMember member
  have beside := clipped_beside settled focusedRect paneRect clip
  simp only [AgentRect.box] at *
  cases dir <;> obtain ⟨edge, grown, _, far⟩ := reach <;> have reaches := far pane inAcross <;>
    rcases beside with ⟨same, ends⟩ | ⟨same, ends⟩ <;> rw [same, grown]
  -- The row or column of the point lies in the kept part or in the focused pane's.
  all_goals grind [Box.Contains]

/-! ## Guarded results -/

omit settled in
/-- Rectangles that pass the guard have an extent. -/
theorem proper_of_inBounds {rect : UnitRect} (bounded : inBounds rect = true) :
    rect.box.Proper := by
  have positive := rectEps_pos
  simp only [inBounds, Bool.and_eq_true, Bool.not_eq_true', Bool.or_eq_false_iff,
    decide_eq_false_iff_not, not_le] at bounded
  obtain ⟨⟨_, _⟩, _⟩ := bounded
  constructor
  · simp only [UnitRect.box_left, UnitRect.box_right, UnitRect.right]
    linarith
  · simp only [UnitRect.box_top, UnitRect.box_bottom, UnitRect.bottom]
    linarith

omit settled in
/-- Rectangles with spread edges that do not overlap beyond the tolerance are apart. -/
theorem apart_of_not_overlap {p q : UnitRect} (spreadColumns : Spread columns)
    (spreadRows : Spread rows) (edges : EdgesAmong columns rows p)
    (otherEdges : EdgesAmong columns rows q) (proper : p.box.Proper) (otherProper : q.box.Proper)
    (clear : rectsOverlap p q = false) : p.box.Apart q.box := by
  rw [rectsOverlap, Bool.and_eq_false_iff, decide_eq_false_iff_not, decide_eq_false_iff_not,
    spreadColumns.add_eps_lt_iff (max_mem_of_mem edges.left otherEdges.left)
      (min_mem_of_mem edges.right otherEdges.right),
    spreadRows.add_eps_lt_iff (max_mem_of_mem edges.top otherEdges.top)
      (min_mem_of_mem edges.bottom otherEdges.bottom)] at clear
  obtain ⟨wide, high⟩ := proper
  obtain ⟨otherWide, otherHigh⟩ := otherProper
  simp only [UnitRect.box_left, UnitRect.box_top, UnitRect.box_right, UnitRect.box_bottom]
    at wide high otherWide otherHigh
  simp only [Box.Apart, UnitRect.box_left, UnitRect.box_top, UnitRect.box_right, UnitRect.box_bottom]
  by_contra overlap
  simp only [not_or, not_le] at overlap
  obtain ⟨before, after, above, below⟩ := overlap
  rcases clear with clear | clear
  · exact clear (max_lt (lt_min wide after) (lt_min before otherWide))
  · exact clear (max_lt (lt_min high below) (lt_min above otherHigh))

omit settled in
/-- What the guard checks. -/
theorem rectsTile_spec (guarded : rectsTileUnitSquare panes = true) :
    (∀ pane ∈ panes, inBounds pane.rect = true) ∧
      panes.Pairwise fun p q => rectsOverlap p.rect q.rect = false := by
  simp only [rectsTileUnitSquare, Bool.and_eq_true, all_eq_true, decide_eq_true_eq] at guarded
  exact ⟨guarded.1.1.2, guarded.1.2⟩

omit settled in
/-- Panes with spread edges that pass the guard have an extent and lie apart. -/
theorem guarded_boxes (guarded : rectsTileUnitSquare panes = true) (spreadColumns : Spread columns)
    (spreadRows : Spread rows) (edges : ∀ pane ∈ panes, EdgesAmong columns rows pane.rect) :
    (∀ box ∈ (panes.map AgentRect.rect).map UnitRect.box, box.Proper) ∧
      ((panes.map AgentRect.rect).map UnitRect.box).Pairwise Box.Apart := by
  obtain ⟨bounded, clear⟩ := rectsTile_spec guarded
  have proper := fun pane member => proper_of_inBounds (bounded pane member)
  rw [map_map, forall_mem_map, pairwise_map]
  refine ⟨proper, clear.imp_of_mem fun {one other} member otherMember apart => ?_⟩
  exact apart_of_not_overlap spreadColumns spreadRows (edges one member) (edges other otherMember)
    (proper one member) (proper other otherMember) apart

omit settled in
/-- A swallow that passes the guard keeps exact rectangles exact. -/
theorem swallow_exact (exact_ : Exact (panes.map AgentRect.rect))
    (distinct : (panes.map AgentRect.agent).Nodup)
    (swallow : swallowRectLocal panes focus dir = some out)
    (guarded : rectsTileUnitSquare out = true) :
    Exact (out.map AgentRect.rect) := by
  obtain ⟨focused, focusedMember, rfl, related⟩ := swallowed_of_some swallow
  have among : ∀ result ∈ out, EdgesOf (panes.map AgentRect.rect) result.rect := by
    intro result member
    obtain ⟨_, paneMember, swallowed⟩ := exists_of_forall₂ related.flip member
    exact swallowed.edges focusedMember paneMember
  obtain ⟨proper, apart⟩ := guarded_boxes guarded exact_.columns exact_.rows among
  obtain ⟨columns, rows⟩ := exact_.edge_bounds
  refine exact_.of_edges (forall_mem_map.mpr among) ⟨proper, ?_, apart, ?_⟩
  · simp only [map_map, forall_mem_map, Function.comp_apply]
    intro result member
    obtain ⟨left, top, right, bottom⟩ := among result member
    exact ⟨(columns _ left).1, (rows _ top).1, (columns _ right).2, (rows _ bottom).2⟩
  · intro x y inside
    obtain ⟨_, boxMember, contains⟩ := exact_.tiles.covers x y inside
    simp only [map_map, mem_map, Function.comp_apply] at boxMember
    obtain ⟨pane, paneMember, rfl⟩ := boxMember
    obtain ⟨grown, grownMember, isGrown⟩ := exists_of_forall₂ related focusedMember
    have focusResult : grown.rect = swallowedRect panes focused dir := by
      cases isGrown with
      | focus => rfl
      | clipped across => exact absurd rfl across.other
      | kept other => exact absurd rfl other
    obtain ⟨_, resultMember, swallowed⟩ := exists_of_forall₂ related paneMember
    have held : ∀ kept ∈ out, kept.box.Contains x y →
        ∃ box ∈ (out.map AgentRect.rect).map UnitRect.box, box.Contains x y :=
      fun kept member contains =>
        ⟨_, mem_map_of_mem (mem_map_of_mem member), contains⟩
    cases swallowed with
    | focus same =>
      obtain rfl : pane = focused := inj_on_of_nodup_map distinct paneMember focusedMember same
      refine held _ resultMember ?_
      exact swallowedRect_grows contains
    | clipped across clip =>
      rcases slice_covered exact_.toSettled focusedMember paneMember across clip contains with
        inPart | inGrown
      · exact held _ resultMember inPart
      · refine held grown grownMember ?_
        rw [AgentRect.box, focusResult]
        exact inGrown
    | kept => exact held _ resultMember contains

end HydraTerm.Shell
