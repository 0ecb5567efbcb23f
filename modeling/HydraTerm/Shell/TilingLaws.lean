import HydraTerm.Lib.Runs
import HydraTerm.Shell.PaneOpSpecs

/-!
# The persisted panes tile the window

Rectangles are stored in whole per mille, the position and the extent of each rounded on
their own, and most operations write rectangles that the tiling guard never saw. A window
keeps tiling as long as nothing is rounded: its panes are exact, which a clean cut, a
removal, a swallow and the fixed arrangements of a revive preserve. Seven operations on one
pane reach a rounded cut that the guard refuses.
-/

namespace HydraTerm.Shell

open Lib List
open AgentRect (rect)

variable {layout out : WindowLayout} {tabs : List TabRecord} {panes : List AgentRect} {op : PaneOp}
  {others : List AgentRect} {pane : AgentRect} {edge : EdgeDir} {index : Nat}

/-! ## Reading a layout that was written -/

/-- What a written layout is read as. -/
theorem Readable.of_holds (holds : Holds out tabs) (distinct : DistinctTabs tabs)
    (shown : Placed tabs ∨ LoneRoot tabs) : Readable out := by
  refine ⟨holds.distinct distinct, shown.imp ?_ ?_⟩
  · intro placed tab member
    have rects : ((liveOf out.tabs).map TabRecord.paneRect).Perm
        ((liveOf tabs).map TabRecord.paneRect) :=
      holds.readsLive fun _ => rfl
    obtain ⟨other, otherMember, same⟩ := mem_map.mp
      (rects.mem_iff.mp (mem_map_of_mem member))
    rw [← same]
    exact placed other otherMember
  · rintro ⟨tab, alone, bare, root, named⟩
    have facts : ((liveOf out.tabs).map fun tab => (tab.tabId, tab.paneRect, tab.splitFrom)).Perm
        ((liveOf tabs).map fun tab => (tab.tabId, tab.paneRect, tab.splitFrom)) :=
      holds.readsLive fun _ => rfl
    rw [alone, map_singleton, perm_singleton] at facts
    obtain ⟨other, isOther, same⟩ := map_eq_singleton_iff.mp facts
    simp only [Prod.mk.injEq] at same
    obtain ⟨sameId, sameRect, sameLink⟩ := same
    exact ⟨other, isOther, sameRect.trans bare, sameLink.trans root, sameId ▸ named⟩

/-- The live panes of a window are exact, and at most four. -/
structure Tiled (layout : WindowLayout) : Prop extends Readable layout where
  exact_ : Exact ((livePanes layout).map AgentRect.rect)
  few : (liveOf layout.tabs).length ≤ 4

/-- Exact panes are stored as they are. -/
theorem Exact.map_stored (exact_ : Exact (panes.map rect)) :
    panes.map AgentRect.stored = panes := by
  refine (map_congr_left fun pane member => ?_).trans (map_id panes)
  rw [AgentRect.stored, exact_.stored (mem_map_of_mem member)]
  rfl

namespace Tiled

/-- A layout that holds tiled tabs is tiled. -/
theorem of_holds (holds : Holds out tabs) (distinct : DistinctTabs tabs)
    (shown : Placed tabs ∨ LoneRoot tabs)
    (exact_ : Exact (((liveOf tabs).map TabRecord.pane).map rect))
    (few : (liveOf tabs).length ≤ 4) : Tiled out := by
  have panes : ((liveOf out.tabs).map TabRecord.pane).Perm ((liveOf tabs).map TabRecord.pane) :=
    holds.readsLive fun _ => rfl
  refine ⟨.of_holds holds distinct shown, exact_.perm (panes.map _).symm, ?_⟩
  have count := panes.length_eq
  rw [length_map, length_map] at count
  omega

/-- A layout whose live tabs were given exact rectangles is tiled. -/
theorem of_shows (holds : Holds out tabs) (distinct : DistinctTabs tabs)
    (shows_ : Shows (liveOf tabs) panes) (exact_ : Exact (panes.map rect))
    (few : panes.length ≤ 4) : Tiled out := by
  have same := shows_.panes_perm distinct.live
  rw [exact_.map_stored] at same
  refine of_holds holds distinct (.inl fun tab member => shows_.isSome member)
    (exact_.perm (same.map _)) ?_
  have count := same.length_eq
  rw [length_map] at count
  omega

theorem live_nonempty (tiled : Tiled layout) : liveOf layout.tabs ≠ [] := by
  have nonempty := tiled.exact_.nonempty
  rw [livePanes_eq] at nonempty
  simpa using nonempty

/-- The guard accepts what a tiled window is read as. -/
theorem guard (tiled : Tiled layout) :
    ∃ live, livePaneRects layout = some live ∧ rectsTileUnitSquare live = true := by
  obtain ⟨live, reads, same⟩ := tiled.reads tiled.live_nonempty
  exact ⟨live, reads, (tiled.exact_.perm (same.map _).symm).rectsTile⟩

end Tiled

/-! ## Cuts -/

/-- The panes of a clean cut stay exact. -/
theorem exact_divide {newcomer : TabId} (exact_ : Exact (panes.map rect))
    (isPane : panes[index]? = some pane) (clean : CutsCleanly (panes.map rect) pane.rect edge) :
    Exact ((dividePane panes index edge newcomer).map rect) := by
  obtain ⟨bound, rfl⟩ := List.getElem?_eq_some_iff.mp isPane
  rw [dividePane_eq isPane]
  have taken : (panes[index] :: panes.eraseIdx index).Perm panes :=
    getElem_cons_eraseIdx_perm bound
  have rects := taken.map rect
  have cut : CutsCleanly (panes[index].rect :: (panes.eraseIdx index).map rect)
      panes[index].rect edge := clean.perm rects.symm
  refine ((exact_.perm rects.symm).split cut).perm ?_
  have replaced := (set_perm_cons_eraseIdx bound
    { panes[index] with rect := (splitRectLocal panes[index].rect edge).1 }).map rect
  rw [map_append]
  exact (List.Perm.swap _ _ _).trans ((replaced.symm.cons _).trans (perm_append_singleton _ _).symm)

/-! ## Drags that fit -/

/-- The edges of the panes, with those of the window, coincide or are further apart than the
tolerance, and the areas add up to the whole window. -/
@[mk_iff]
structure FitsExactly (panes : List AgentRect) : Prop where
  columns : Spread (0 :: 1 :: verticalEdges (panes.map AgentRect.rect))
  rows : Spread (0 :: 1 :: horizontalEdges (panes.map AgentRect.rect))
  area : (panes.map fun pane => pane.rect.w * pane.rect.h).sum = 1

instance (panes : List AgentRect) : Decidable (FitsExactly panes) :=
  decidable_of_iff' _ (fitsExactly_iff panes)

theorem FitsExactly.perm (fits : FitsExactly panes)
    (same : panes.Perm others) : FitsExactly others := by
  have rects := (same.map rect).symm
  refine ⟨fits.columns.subset ?_, fits.rows.subset ?_, ?_⟩
  · exact cons_subset_cons _ (cons_subset_cons _ (rects.flatMap_right _).subset)
  · exact cons_subset_cons _ (cons_subset_cons _ (rects.flatMap_right _).subset)
  · rw [← fits.area]
    exact (same.map _).symm.sum_eq

/-- Stored panes that pass the guard and fit exactly are exact. -/
theorem FitsExactly.exact_ (fits : FitsExactly panes) (guarded : rectsTileUnitSquare panes = true)
    (grid : ∀ pane ∈ panes, pane.rect.box.OnGrid 1000) : Exact (panes.map rect) := by
  have columns : Spread (verticalEdges (panes.map rect)) :=
    fits.columns.subset fun edge member => by simp [member]
  have rows : Spread (horizontalEdges (panes.map rect)) :=
    fits.rows.subset fun edge member => by simp [member]
  have edges : ∀ pane ∈ panes, EdgesOf (panes.map rect) pane.rect := fun pane member =>
    edgesAmong_self (mem_map_of_mem member)
  obtain ⟨proper, apart⟩ := guarded_boxes guarded columns rows edges
  refine ⟨⟨tiles_of_area (by norm_num : 0 < 1000) ?_ proper ?_ apart ?_, columns, rows⟩, ?_⟩
  · simpa using grid
  · simp only [map_map, forall_mem_map, Function.comp_apply]
    intro pane member
    obtain ⟨_, _, right, bottom⟩ := edges pane member
    obtain ⟨⟨_, isLeft⟩, ⟨_, isTop⟩, _, _⟩ := grid pane member
    have inside := (rectsTile_spec guarded).1 pane member
    simp only [inBounds, Bool.and_eq_true, Bool.not_eq_true', Bool.or_eq_false_iff,
      decide_eq_false_iff_not, not_lt] at inside
    obtain ⟨_, ⟨_, leRight⟩, leBottom⟩ := inside
    refine ⟨?_, ?_, ?_, ?_⟩
    · rw [isLeft]
      exact div_nonneg (Nat.cast_nonneg _) (Nat.cast_nonneg _)
    · rw [isTop]
      exact div_nonneg (Nat.cast_nonneg _) (Nat.cast_nonneg _)
    · refine not_lt.mp fun beyond => ?_
      exact absurd (fits.columns.gap (by simp [unitBox]) (by simp [right]) beyond)
        (not_lt.mpr leRight)
    · refine not_lt.mp fun beyond => ?_
      exact absurd (fits.rows.gap (by simp [unitBox]) (by simp [bottom]) beyond)
        (not_lt.mpr leBottom)
  · simpa [map_map, Function.comp_def, UnitRect.box_area] using fits.area
  · simpa using grid

/-! ## Steps -/

/-- The pane a split divides. -/
def dividedPane (layout : WindowLayout) (fromTab : TabId) : Option AgentRect :=
  (splitSource (livePanes layout) fromTab).bind fun index => (livePanes layout)[index]?

/-- The operation works on live panes: a split finds at most three, a pane that is closed,
stashed or swallows is live, and a swallow is among three or four. -/
def PaneOp.OnLivePanes (layout : WindowLayout) : PaneOp → Prop
  | .split .. => (liveOf layout.tabs).length ≤ 3
  | .close tabId _ | .stash tabId => IsLive layout.tabs tabId
  | .swallow tabId _ => IsLive layout.tabs tabId ∧
      ((liveOf layout.tabs).length = 3 ∨ (liveOf layout.tabs).length = 4)
  | .revive _ | .setRects _ | .dock .. => True

instance (layout : WindowLayout) : (op : PaneOp) → Decidable (op.OnLivePanes layout)
  | .split .. => inferInstanceAs (Decidable (_ ≤ _))
  | .close .. | .stash _ => inferInstanceAs (Decidable (IsLive _ _))
  | .swallow .. => inferInstanceAs (Decidable (_ ∧ _))
  | .revive _ | .setRects _ | .dock .. => isTrue trivial

/-- The operation rounds nothing: a split or a dock cuts cleanly, a revive does not arrange
thirds and a drag fits exactly. A close leaves a pane. -/
def PaneOp.Clean (layout : WindowLayout) : PaneOp → Prop
  | .split fromTab _ axis => ∀ pane ∈ dividedPane layout fromTab,
      CutsCleanly ((livePanes layout).map AgentRect.rect) pane.rect (edgeFromSplitAxis axis)
  | .close tabId _ => ∃ other ∈ liveOf layout.tabs, other.tabId ≠ tabId
  | .revive tabId => IsLive layout.tabs tabId ∨ ¬InThirds (livePanes layout)
  | .setRects rects => FitsExactly (livePanes (writeDrag layout rects))
  | .stash _ | .swallow .. => True
  | .dock source target edge => ∀ live ∈ livePaneRects (dockTargets layout source),
      ∀ pane ∈ live, pane.agent = target →
        CutsCleanly ((live.filter (·.agent ≠ source)).map AgentRect.rect) pane.rect edge

instance (layout : WindowLayout) : (op : PaneOp) → Decidable (op.Clean layout)
  | .split .. => inferInstanceAs (Decidable (∀ pane ∈ dividedPane _ _, CutsCleanly _ _ _))
  | .close .. => inferInstanceAs (Decidable (∃ other ∈ liveOf _, _ ≠ _))
  | .revive _ => inferInstanceAs (Decidable (_ ∨ _))
  | .setRects _ => inferInstanceAs (Decidable (FitsExactly _))
  | .stash _ | .swallow .. => isTrue trivial
  | .dock .. => inferInstanceAs (Decidable
      (∀ live ∈ livePaneRects _, ∀ pane ∈ live, _ → CutsCleanly _ _ _))

/-- A successful operation on live panes. -/
def PaneStep (layout : WindowLayout) (op : PaneOp) (out : WindowLayout) : Prop :=
  op.OnLivePanes layout ∧ op.apply layout = .ok out

/-- A successful operation on live panes that rounds nothing. -/
def CleanStep (layout : WindowLayout) (op : PaneOp) (out : WindowLayout) : Prop :=
  PaneStep layout op out ∧ op.Clean layout

namespace Tiled

theorem livePanes_length (layout : WindowLayout) :
    (livePanes layout).length = (liveOf layout.tabs).length := by
  rw [livePanes_eq, length_map]

section

variable (tiled : Tiled layout) {live rects : List AgentRect} {tab : TabRecord} {tabId : TabId}
include tiled

theorem split {fromTab : TabId} {added : NewTab} {axis : SplitAxis}
    (room : (liveOf layout.tabs).length ≤ 3)
    (clean : (PaneOp.split fromTab added axis).Clean layout)
    (fresh : added.tabId ∉ layout.tabs.map TabRecord.tabId) (isAdded : tab.tabId = added.tabId)
    (shown : tab.stashed = false) (holds : Holds out
      ((layout.tabs ++ [tab]).map (placedBy (panesAfterSplit layout fromTab added axis)))) :
    Tiled out := by
  have nonempty : livePanes layout ≠ [] := by simpa using tiled.exact_.nonempty
  obtain ⟨index, pane, isIndex, isPane⟩ := splitSource_spec fromTab nonempty
  have divided : panesAfterSplit layout fromTab added axis =
      dividePane (livePanes layout) index (edgeFromSplitAxis axis) added.tabId := by
    rw [panesAfterSplit, splitPanes, isIndex]
  have cut : CutsCleanly ((livePanes layout).map rect) pane.rect (edgeFromSplitAxis axis) := by
    refine clean pane ?_
    rw [Option.mem_def, dividedPane, isIndex, Option.bind_some, isPane]
  have distinct : DistinctTabs (layout.tabs ++ [tab]) := by
    rw [DistinctTabs, map_append]
    exact nodup_append.mpr ⟨tiled.distinct, nodup_singleton _, by simpa [isAdded] using fresh⟩
  have live : liveOf (layout.tabs ++ [tab]) = liveOf layout.tabs ++ [tab] := by
    rw [liveOf, filter_append, filter_cons_of_pos (by simp [shown])]
    rfl
  have agents := @panesAfterSplit_agents layout fromTab added axis
  refine of_shows holds (distinct.map (placedBy_tabId _)) ?_
    (divided ▸ exact_divide tiled.exact_ isPane cut) ?_
  · rw [liveOf_map _ fun _ => placedBy_read fun _ _ => rfl]
    refine .of_edit distinct.live ?_ (placedBy_tabId _) fun _ => rfl
    rw [live, agents, map_append, map_singleton, isAdded]
  · have count := congrArg List.length agents
    rw [length_map, length_append, length_map] at count
    rw [count, length_singleton]
    omega

/-- The survivors of a removal are exact. -/
theorem reduced {removing : TabId} {removed : AgentRect} (isRemoved : removed.agent = removing)
    (same : (removed :: others).Perm (livePanes layout))
    (another : ∃ other ∈ liveOf layout.tabs, other.tabId ≠ removing) :
    Exact ((reduceRectsBySpec others removed.rect).map rect) ∧
      (reduceRectsBySpec others removed.rect).length ≤ 4 := by
  have count := same.length_eq
  rw [livePanes_length, length_cons] at count
  have few := tiled.few
  have some_ : others ≠ [] := by
    obtain ⟨other, member, different⟩ := another
    obtain ⟨listed, _⟩ := survivors_listed tiled.distinct same
    have survivor : other.tabId ∈ others.map AgentRect.agent := by
      refine listed.mem_iff.mpr (mem_map_of_mem (mem_filter.mpr ⟨member, ?_⟩))
      rw [isRemoved]
      exact decide_eq_true different
    exact fun empty => absurd survivor (by simp [empty])
  have reduced := reduce_exact (tiled.exact_.perm (same.map _).symm) some_ (by omega)
  refine ⟨reduced.1, ?_⟩
  have length := congrArg List.length reduced.2
  rw [length_map, length_map] at length
  omega

theorem close (live : IsLive layout.tabs tabId)
    (another : ∃ other ∈ liveOf layout.tabs, other.tabId ≠ tabId)
    (holds : Holds out ((layout.tabs.map (reducedBy layout tabId)).filter (·.tabId ≠ tabId))) :
    Tiled out := by
  obtain ⟨_, _, same, isRemoved, reduces⟩ := reducePaneRects_of_live tiled.toReadable live
  obtain ⟨exact_, few⟩ := tiled.reduced isRemoved same another
  rw [reducedBy_of_some reduces] at holds
  refine of_shows holds ?_ ?_ exact_ few
  · exact (tiled.distinct.map (arrangedBy_tabId _)).sublist (filter_sublist.map _)
  · rw [liveOf_filter_map (arrangedBy_tabId _) (arrangedBy_stashed _), ← isRemoved]
    exact (arranged_of_reduced tiled.distinct same).toShows

theorem stash {closing : TabRecord} (live : IsLive layout.tabs closing.tabId)
    (several : 2 ≤ (liveOf layout.tabs).length)
    (holds : Holds out ((layout.tabs.map (reducedBy layout closing.tabId)).map
      (hiddenAt closing.tabId closing.splitFrom))) : Tiled out := by
  obtain ⟨_, _, same, isRemoved, reduces⟩ := reducePaneRects_of_live tiled.toReadable live
  have another : ∃ other ∈ liveOf layout.tabs, other.tabId ≠ closing.tabId := by
    by_contra none_
    push Not at none_
    have one : (liveOf layout.tabs).map TabRecord.tabId =
        List.replicate (liveOf layout.tabs).length closing.tabId := by
      rw [eq_replicate_iff]
      simpa using none_
    have once := tiled.distinct.live
    rw [DistinctTabs, one, nodup_replicate] at once
    omega
  obtain ⟨exact_, few⟩ := tiled.reduced isRemoved same another
  rw [reducedBy_of_some reduces] at holds
  refine of_shows holds ?_ ?_ exact_ few
  · exact (tiled.distinct.map (arrangedBy_tabId _)).map (hiddenAt_tabId _ _)
  · rw [liveOf_hidden, liveOf_map _ (arrangedBy_stashed _),
      filter_map_of_keeps (arrangedBy_tabId _), ← isRemoved]
    exact (arranged_of_reduced tiled.distinct same).toShows

theorem revive
    (member : tab ∈ layout.tabs) (hidden : tab.stashed = true)
    (room : (liveOf layout.tabs).length < 4) (notThirds : ¬InThirds (livePanes layout))
    (reads : livePaneRects layout = some live)
    (revives : reviveRectsBySpec live tab.tabId = some rects)
    (holds : Holds out ((layout.tabs.map (shownAt tab.tabId)).map (arrangedBy rects))) :
    Tiled out := by
  obtain ⟨same, once⟩ := tiled.agents reads
  have count : live.length = (liveOf layout.tabs).length :=
    same.length_eq.trans (livePanes_length _)
  obtain ⟨listed, exact_⟩ := reviveRectsBySpec_spec once (by omega) revives
  refine of_shows holds ((tiled.distinct.map (shownAt_tabId _)).map (arrangedBy_tabId _))
    (arranged_of_revive tiled.toReadable member hidden room reads revives).toShows
    (exact_ fun thirds => notThirds (thirds.perm same)) ?_
  have length := listed.length_eq
  rw [length_append, length_map, length_map, length_singleton] at length
  omega

theorem setRects {rects : List (TabId × PaneRect)}
    (fits : FitsExactly (livePanes (writeDrag layout rects)))
    (guarded : ∀ live, livePaneRects (writeDrag layout rects) = some live →
      rectsTileUnitSquare live = true)
    (holds : Holds out (writeDrag layout rects).tabs) : Tiled out := by
  have related := writeDrag_dragged layout rects
  have distinct : DistinctTabs (writeDrag layout rects).tabs := by
    rw [DistinctTabs, map_read_of_dragged related fun _ _ => rfl]
    exact tiled.distinct
  have shown := shown_of_dragged related tiled.shown
  have count := liveOf_length_of_dragged related
  have few := tiled.few
  have nonempty : liveOf (writeDrag layout rects).tabs ≠ [] := by
    have before := length_pos_of_ne_nil tiled.live_nonempty
    exact ne_nil_of_length_pos (by omega)
  obtain ⟨live, reads, same⟩ := Readable.reads ⟨distinct, shown⟩ nonempty
  have grid : ∀ pane ∈ livePanes (writeDrag layout rects), pane.rect.box.OnGrid 1000 := by
    intro pane member
    obtain ⟨_, _, rfl⟩ := mem_map.mp member
    split
    · exact toUnit_onGrid _
    · exact exact_full.grid _ (mem_singleton_self _)
  have exactLive := (fits.perm same.symm).exact_ (guarded live reads) fun pane member =>
    grid pane (same.mem_iff.mp member)
  exact of_holds holds distinct shown (exactLive.perm (same.map _)) (by omega)

theorem swallow {dir : SwallowDir}
    (reads : livePaneRects layout = some live)
    (swallows : swallowRectLocal live tabId dir = some rects)
    (guarded : rectsTileUnitSquare rects = true)
    (holds : Holds out (layout.tabs.map (arrangedBy rects))) : Tiled out := by
  obtain ⟨same, once⟩ := tiled.agents reads
  have exact_ := swallow_exact (tiled.exact_.perm (same.map _).symm) once swallows guarded
  have few := tiled.few
  refine of_shows holds (tiled.distinct.map (arrangedBy_tabId _))
    (arranged_of_swallow tiled.toReadable reads swallows).toShows exact_ ?_
  have length := congrArg List.length (swallowRectLocal_agents swallows)
  rw [length_map, length_map, same.length_eq, livePanes_length] at length
  omega

/-- The panes a source docks among are exact. -/
theorem docksAmong {source : TabId} (among : DocksAmong layout source panes)
    (nonempty : panes ≠ []) : Exact (panes.map rect) := by
  cases among with
  | shown _ same => exact tiled.exact_.perm (same.map _).symm
  | @moved others _ _ live same =>
    have count := live.length_eq
    rw [livePanes_length, length_cons] at count
    have few := tiled.few
    have some_ : others ≠ [] := by
      rintro rfl
      exact nonempty (perm_nil.mp same)
    obtain ⟨exact_, _⟩ := reduce_exact (tiled.exact_.perm (live.map _).symm) some_ (by omega)
    rw [exact_.map_stored] at same
    exact exact_.perm (same.map _).symm

theorem dock {source : TabRecord}
    (member : source ∈ layout.tabs)
    (among : DocksAmong layout source.tabId panes) (few : panes.length ≤ 3)
    (isPane : panes[index]? = some pane) (cut : CutsCleanly (panes.map rect) pane.rect edge)
    (holds : Holds out ((layout.tabs.map (shownAt source.tabId)).map
      (arrangedBy (dividePane panes index edge source.tabId)))) : Tiled out := by
  have nonempty : panes ≠ [] := by
    rintro rfl
    cases isPane
  refine of_shows holds ((tiled.distinct.map (shownAt_tabId _)).map (arrangedBy_tabId _))
    (arranged_of_dock tiled.toReadable member among isPane).toShows
    (exact_divide (tiled.docksAmong among nonempty) isPane cut) ?_
  rw [dividePane_eq isPane, length_append, length_set, length_singleton]
  omega

/-- A step that rounds nothing keeps a window tiled. -/
theorem step (taken : CleanStep layout op out) : Tiled out := by
  obtain ⟨⟨onLive, ok⟩, clean⟩ := taken
  cases applied_of_ok tiled.toReadable ok with
  | split _ fresh isTab shown _ holds => exact tiled.split onLive clean fresh isTab.1 shown holds
  | close _ holds => exact tiled.close onLive clean holds
  | stash member others holds =>
    refine tiled.stash onLive (others.resolve_left fun hidden => ?_) holds
    exact not_isLive_of_hidden tiled.distinct member hidden onLive
  | alreadyShown _ _ holds => exact of_holds holds tiled.distinct tiled.shown tiled.exact_ tiled.few
  | revive member hidden room reads revives holds =>
    refine tiled.revive member hidden room (clean.resolve_left ?_) reads revives holds
    exact not_isLive_of_hidden tiled.distinct member hidden
  | reviveAlone _ _ alone => exact absurd alone tiled.live_nonempty
  | setRects guarded holds => exact tiled.setRects clean guarded holds
  | swallow _ reads swallows guarded holds => exact tiled.swallow reads swallows guarded holds
  | dissolve few => exact absurd onLive few
  | dock member reads isPanes among few isPane isTarget _ holds =>
    subst isPanes
    refine tiled.dock member among few isPane (clean _ reads _ ?_ isTarget) holds
    exact mem_of_mem_filter (mem_of_getElem? isPane)

end

end Tiled

/-- A window with one live pane: over the whole window, or a root without a rectangle. -/
structure OnePane (layout : WindowLayout) : Prop where
  distinct : DistinctTabs layout.tabs
  alone : ∃ tab, liveOf layout.tabs = [tab] ∧ (tab.paneRect = some ⟨0, 0, 1000, 1000⟩ ∨
    tab.paneRect = none ∧ tab.splitFrom = none ∧ tab.tabId ≠ "")

theorem OnePane.tiled (one : OnePane layout) : Tiled layout := by
  obtain ⟨tab, alone, shown⟩ := one.alone
  have whole : (PaneRect.mk 0 0 1000 1000).toUnit = .full := by decide +kernel
  refine ⟨⟨one.distinct, ?_⟩, ?_, by simp [alone]⟩
  · refine shown.imp (fun placed other member => ?_) fun ⟨bare, root, named⟩ =>
      ⟨tab, alone, bare, root, named⟩
    rw [alone, mem_singleton] at member
    rw [member, placed]
    rfl
  · rw [livePanes_eq, alone]
    rcases shown with placed | ⟨bare, _⟩
    · simp only [map_cons, map_nil, TabRecord.pane, placed, whole]
      exact exact_full
    · simp only [map_cons, map_nil, TabRecord.pane, bare]
      exact exact_full

/-- However a window with one pane is split, rearranged and reduced, as long as nothing is
rounded its persisted panes pass the tiling guard. -/
theorem persisted_panes_tile {first last : WindowLayout} {ops : List PaneOp} (one : OnePane first)
    (run : Run CleanStep first ops last) :
    ∃ live, livePaneRects last = some live ∧ rectsTileUnitSquare live = true :=
  Tiled.guard (run.invariant one.tiled fun taken tiled => tiled.step taken)

/-! ## A rounded cut -/

/-- Perform an operation on live panes, if it succeeds. -/
def PaneOp.perform (layout : WindowLayout) (op : PaneOp) : Option WindowLayout :=
  if op.OnLivePanes layout then (op.apply layout).toOption else none

/-- Perform an operation that rounds nothing. -/
def PaneOp.performClean (layout : WindowLayout) (op : PaneOp) : Option WindowLayout :=
  if op.Clean layout then op.perform layout else none

theorem paneStep_of_perform (performs : op.perform layout = some out) : PaneStep layout op out := by
  rw [PaneOp.perform, Option.ite_none_right_eq_some] at performs
  exact ⟨performs.1, toOption_eq_some performs.2⟩

theorem cleanStep_of_performClean (performs : op.performClean layout = some out) :
    CleanStep layout op out := by
  rw [PaneOp.performClean, Option.ite_none_right_eq_some] at performs
  exact ⟨paneStep_of_perform performs.2, performs.1⟩

/-- A window with one tab, as it is created. -/
def loneWindow : WindowLayout :=
  ⟨"w", [shellTab "a" 0]⟩

/-- A tab to be added, named by its id. -/
def newShell (tabId : TabId) : NewTab := ⟨tabId, "s" ++ tabId, "shell " ++ tabId⟩

theorem loneWindow_onePane : OnePane loneWindow :=
  ⟨by decide, _, rfl, .inr ⟨rfl, rfl, by decide⟩⟩

/-- Splits and stashes that halve an odd number of per mille. -/
def roundingOps : List PaneOp :=
  [.split "a" (newShell "b") .right, .split "a" (newShell "c") .right,
    .split "a" (newShell "d") .right, .stash "c", .split "a" (newShell "e") .right, .stash "b",
    .split "d" (newShell "f") .right]

/-- A rounded cut leaves panes that the tiling guard refuses. -/
theorem rounded_cut_overlaps : OnePane loneWindow ∧ ∃ last live,
    Run PaneStep loneWindow roundingOps last ∧ livePaneRects last = some live ∧
      rectsTileUnitSquare live = false := by
  refine ⟨loneWindow_onePane, ?_⟩
  have final : ((roundingOps.foldlM PaneOp.perform loneWindow).bind fun last =>
      (livePaneRects last).map rectsTileUnitSquare) = some false := by decide +kernel
  obtain ⟨last, ran, refused⟩ := Option.bind_eq_some_iff.mp final
  obtain ⟨live, reads, isFalse⟩ := Option.map_eq_some_iff.mp refused
  exact ⟨last, live, .of_foldlM (fun _ _ _ => paneStep_of_perform) ran, reads, isFalse⟩

/-- Operations of every kind that round nothing. -/
def cleanOps : List PaneOp :=
  [.split "a" (newShell "b") .right, .split "a" (newShell "c") .down, .dock "c" "b" .bottom,
    .stash "a", .revive "a", .swallow "a" none, .setRects [], .close "b" []]

theorem persisted_panes_tile_of_every_kind : ∃ last live, Run CleanStep loneWindow cleanOps last ∧
    livePaneRects last = some live ∧ rectsTileUnitSquare live = true := by
  have some_ : (cleanOps.foldlM PaneOp.performClean loneWindow).isSome := by decide +kernel
  obtain ⟨last, ran⟩ := Option.isSome_iff_exists.mp some_
  have run : Run CleanStep loneWindow cleanOps last :=
    .of_foldlM (fun _ _ _ => cleanStep_of_performClean) ran
  obtain ⟨live, reads, tiles⟩ := persisted_panes_tile loneWindow_onePane run
  exact ⟨last, live, run, reads, tiles⟩

end HydraTerm.Shell
