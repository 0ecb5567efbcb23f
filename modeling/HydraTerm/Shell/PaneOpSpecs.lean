import HydraTerm.Shell.ArrangedTabs

/-!
# What each pane operation writes

`Applied layout op out` lists every way a pane operation can succeed, with the tabs it
leaves: each is the list of tabs before, edited tab by tab, and for a split or a close with
the named tab added or taken out. The laws about tilings and split trees start from this
list and do not look into the operations again.
-/

namespace HydraTerm.Shell

open Lib List
open Grid (SessionId)

variable {layout : WindowLayout}

/-! ## Docking -/

/-- The panes a source docks among: the live panes when it was hidden, and the panes left
arranged over its place when it is live itself. -/
inductive DocksAmong (layout : WindowLayout) (source : TabId) : List AgentRect → Prop
  | shown {panes : List AgentRect} (hidden : ¬IsLive layout.tabs source)
      (same : panes.Perm (livePanes layout)) : DocksAmong layout source panes
  | moved {panes others : List AgentRect} {removed : AgentRect} (isSource : removed.agent = source)
      (live : (removed :: others).Perm (livePanes layout))
      (same : panes.Perm ((reduceRectsBySpec others removed.rect).map AgentRect.stored)) :
      DocksAmong layout source panes

variable {source : TabRecord} {live panes : List AgentRect} {edge : EdgeDir} {pane : AgentRect}
  {index : Nat}

section

variable {source : TabId} (distinct : DistinctTabs layout.tabs)
  (among : DocksAmong layout source panes)
include distinct among

/-- The panes a source docks among belong to the other live tabs. -/
theorem DocksAmong.agents :
    (panes.map AgentRect.agent).Perm
      (((liveOf layout.tabs).filter (·.tabId ≠ source)).map TabRecord.tabId) := by
  cases among with
  | shown hidden same =>
    refine (same.map _).trans (.of_eq ?_)
    rw [livePanes_agents, filter_eq_self.mpr fun tab member => ?_]
    exact decide_eq_true fun isSource => hidden ⟨tab, member, isSource⟩
  | @moved others removed isSource live same =>
    subst isSource
    refine (same.map AgentRect.agent).trans ?_
    rw [map_map]
    change ((reduceRectsBySpec others removed.rect).map AgentRect.agent).Perm _
    rw [reduceRectsBySpec_agents]
    exact (survivors_listed distinct live).1

/-- The panes once a source took its half belong to the other live tabs and the source. -/
theorem DocksAmong.placed_nodup (isPane : panes[index]? = some pane) :
    ((dividePane panes index edge source).map AgentRect.agent).Nodup := by
  have agents := among.agents distinct
  rw [dividePane_agents isPane, ← concat_eq_append]
  refine .concat (fun listed => ?_) (agents.nodup_iff.mpr (distinct.survivors source))
  obtain ⟨_, member, same⟩ := mem_map.mp (agents.mem_iff.mp listed)
  exact absurd same (by simpa using (mem_filter.mp member).2)

end

/-! ## The operations -/

/-- The panes once a split's new pane took its half. -/
def panesAfterSplit (layout : WindowLayout) (fromTab : TabId) (added : NewTab) (axis : SplitAxis) :
    List AgentRect :=
  splitPanes (livePanes layout) fromTab added.tabId (edgeFromSplitAxis axis)

variable (layout) in
/-- Every way an operation succeeds, with the tabs it leaves. -/
inductive Applied : PaneOp → WindowLayout → Prop
  | split {fromTab : TabId} {added : NewTab} {axis : SplitAxis} {tab : TabRecord} {out : WindowLayout}
      (source : fromTab ∈ layout.tabs.map TabRecord.tabId)
      (fresh : added.tabId ∉ layout.tabs.map TabRecord.tabId)
      (isTab : tab.tabId = added.tabId ∧ tab.sessionId = added.sessionId)
      (shown : tab.stashed = false) (link : tab.splitFrom = some ⟨fromTab, axis, none⟩)
      (holds : Holds out
        ((layout.tabs ++ [tab]).map (placedBy (panesAfterSplit layout fromTab added axis)))) :
      Applied (.split fromTab added axis) out
  | close {tabId : TabId} {out : WindowLayout} (listed : tabId ∈ layout.tabs.map TabRecord.tabId)
      (holds : Holds out ((layout.tabs.map (reducedBy layout tabId)).filter (·.tabId ≠ tabId))) :
      Applied (.close tabId []) out
  | stash {closing : TabRecord} {out : WindowLayout} (member : closing ∈ layout.tabs)
      (others : closing.stashed = true ∨ 2 ≤ (liveOf layout.tabs).length)
      (holds : Holds out ((layout.tabs.map (reducedBy layout closing.tabId)).map
        (hiddenAt closing.tabId closing.splitFrom))) : Applied (.stash closing.tabId) out
  | alreadyShown {tab : TabRecord} {out : WindowLayout} (member : tab ∈ layout.tabs)
      (shown : tab.stashed = false) (holds : Holds out layout.tabs) :
      Applied (.revive tab.tabId) out
  | revive {tab : TabRecord} {live rects : List AgentRect} {out : WindowLayout}
      (member : tab ∈ layout.tabs) (hidden : tab.stashed = true)
      (room : (liveOf layout.tabs).length < 4) (reads : livePaneRects layout = some live)
      (revives : reviveRectsBySpec live tab.tabId = some rects)
      (holds : Holds out ((layout.tabs.map (shownAt tab.tabId)).map (arrangedBy rects))) :
      Applied (.revive tab.tabId) out
  | reviveAlone {tab : TabRecord} {out : WindowLayout} (member : tab ∈ layout.tabs)
      (hidden : tab.stashed = true) (alone : liveOf layout.tabs = [])
      (holds : Holds out ((layout.tabs.map (rootedBy [tab.tabId])).map (shownAt tab.tabId))) :
      Applied (.revive tab.tabId) out
  | setRects {rects : List (TabId × PaneRect)} {out : WindowLayout}
      (guarded : ∀ live, livePaneRects (writeDrag layout rects) = some live →
        rectsTileUnitSquare live = true)
      (holds : Holds out (writeDrag layout rects).tabs) : Applied (.setRects rects) out
  | swallow {tabId : TabId} {direction : Option SwallowDir} {dir : SwallowDir}
      {live rects : List AgentRect} {out : WindowLayout} (target : IsLive layout.tabs tabId)
      (reads : livePaneRects layout = some live)
      (swallows : swallowRectLocal live tabId dir = some rects)
      (guarded : rectsTileUnitSquare rects = true)
      (holds : Holds out (layout.tabs.map (arrangedBy rects))) :
      Applied (.swallow tabId direction) out
  | dissolve {tabId : TabId} {direction : Option SwallowDir} {out : WindowLayout}
      (few : ¬(IsLive layout.tabs tabId ∧
        ((liveOf layout.tabs).length = 3 ∨ (liveOf layout.tabs).length = 4)))
      (dissolves : dissolveSplit layout tabId = .ok out) : Applied (.swallow tabId direction) out
  | dock {source : TabRecord} {target : TabId} {edge : EdgeDir} {live panes : List AgentRect}
      {index : Nat} {pane : AgentRect} {out : WindowLayout} (member : source ∈ layout.tabs)
      (reads : livePaneRects (dockTargets layout source.tabId) = some live)
      (isPanes : panes = live.filter (·.agent ≠ source.tabId))
      (among : DocksAmong layout source.tabId panes) (few : panes.length ≤ 3)
      (isPane : panes[index]? = some pane) (isTarget : pane.agent = target)
      (guarded : rectsTileUnitSquare (dividePane panes index edge source.tabId) = true)
      (holds : Holds out ((layout.tabs.map (shownAt source.tabId)).map
        (arrangedBy (dividePane panes index edge source.tabId)))) :
      Applied (.dock source.tabId target edge) out

variable {out : WindowLayout} {tabId : TabId} {tab : TabRecord}

theorem any_tabId_iff {tabs : List TabRecord} :
    (tabs.any (·.tabId = tabId)) = true ↔ tabId ∈ tabs.map TabRecord.tabId := by
  simp

/-- The panes after a split are those of the live tabs and of the new one. -/
theorem panesAfterSplit_agents (fromTab : TabId) (added : NewTab) (axis : SplitAxis) :
    (panesAfterSplit layout fromTab added axis).map AgentRect.agent =
      (liveOf layout.tabs).map TabRecord.tabId ++ [added.tabId] := by
  rw [← livePanes_agents, panesAfterSplit, splitPanes]
  by_cases empty : livePanes layout = []
  · rw [empty]
    rfl
  · obtain ⟨_, _, isIndex, isPane⟩ := splitSource_spec fromTab empty
    simp only [isIndex]
    exact dividePane_agents isPane

/-- The live tabs other than a hidden one are all live tabs. -/
theorem liveTabs_of_hidden (distinct : DistinctTabs layout.tabs)
    (member : tab ∈ layout.tabs) (hidden : tab.stashed = true) :
    (layout.tabs.filter fun other => !other.stashed && other.tabId ≠ tab.tabId) =
      liveOf layout.tabs := by
  refine filter_congr fun other otherMember => ?_
  by_cases same : other.tabId = tab.tabId
  · rw [distinct.eq_of_mem otherMember member same, hidden]
    rfl
  · simp [same]

theorem setPaneRects_applied {rects : List (TabId × PaneRect)}
    (ok : setPaneRects layout rects = .ok out) : Applied layout (.setRects rects) out := by
  simp only [setPaneRects] at ok
  split at ok
  next unread =>
    cases ok
    refine .setRects (fun live reads => ?_) (holds_renormalize (.refl _))
    rw [unread] at reads
    cases reads
  next _ reads =>
    split at ok
    next _ =>
      cases ok
      refine .setRects (fun other otherReads => ?_) (holds_renormalize (.refl _))
      rwa [Option.some.inj (otherReads.symm.trans reads)]
    next => cases ok

/-- A guarded geometry that is written passed the guard. -/
theorem checkedGeometry_ok {panes : List AgentRect}
    (ok : (match applyPaneGeometryChecked layout panes with
      | .error refused => Except.error refused
      | .ok written => .ok written.renormalize) = .ok out) :
    rectsTileUnitSquare panes = true ∧ out = (applyPaneGeometry layout panes).renormalize := by
  by_cases guarded : rectsTileUnitSquare panes = true
  · simp only [applyPaneGeometryChecked, guarded, if_true, Except.ok.injEq] at ok
    exact ⟨guarded, ok.symm⟩
  · simp [applyPaneGeometryChecked, guarded] at ok

variable (readable : Readable layout) {rects : List AgentRect}
include readable

/-- A hidden tab docks among the live panes. -/
theorem docksAmong_of_hidden (member : source ∈ layout.tabs) (hidden : source.stashed = true)
    (reads : livePaneRects (dockTargets layout source.tabId) = some live) :
    DocksAmong layout source.tabId (live.filter (·.agent ≠ source.tabId)) := by
  have notLive := not_isLive_of_hidden readable.distinct member hidden
  simp only [dockTargets, readable.distinct.find member, hidden, if_true] at reads
  obtain ⟨same, _⟩ := readable.agents reads
  have none_ : live.filter (·.agent ≠ source.tabId) = live := by
    refine filter_eq_self.mpr fun pane paneMember => ?_
    have listed : pane.agent ∈ (liveOf layout.tabs).map TabRecord.tabId := by
      rw [← livePanes_agents]
      exact (same.map _).mem_iff.mp (mem_map_of_mem paneMember)
    refine decide_eq_true fun isSource => notLive (isLive_iff.mpr (isSource ▸ listed))
  rw [none_]
  exact .shown notLive same

/-- A live tab docks among the others once its place is filled. -/
theorem docksAmong_of_live (member : source ∈ layout.tabs) (shown : source.stashed = false)
    (another : ∃ other ∈ liveOf layout.tabs, other.tabId ≠ source.tabId)
    (reads : livePaneRects (dockTargets layout source.tabId) = some live) :
    DocksAmong layout source.tabId (live.filter (·.agent ≠ source.tabId)) := by
  have sourceLive : source ∈ liveOf layout.tabs := mem_liveOf.mpr ⟨member, shown⟩
  have placed : Placed layout.tabs := by
    refine readable.shown.resolve_right ?_
    rintro ⟨tab, alone, _⟩
    obtain ⟨_, otherLive, different⟩ := another
    rw [alone, mem_singleton] at otherLive sourceLive
    exact different (by rw [otherLive, sourceLive])
  obtain ⟨removed, rest, same, isSource, reduces⟩ :=
    reducePaneRects_of_live readable ⟨source, sourceLive, rfl⟩
  have projected := applyReduce_perm readable source.tabId
  rw [reducedBy_of_some reduces] at projected
  simp only [dockTargets, readable.distinct.find member, shown, Bool.false_eq_true,
    if_false] at reads
  -- The projected live tabs are the live tabs, each edited.
  have projectedLive : (liveOf (applyReduce layout source.tabId).tabs).Perm
      ((liveOf layout.tabs).map (arrangedBy (reduceRectsBySpec rest removed.rect))) := by
    rw [← liveOf_map _ (arrangedBy_stashed _)]
    exact projected.filter _
  have projectedPlaced : Placed (applyReduce layout source.tabId).tabs := by
    intro tab tabMember
    obtain ⟨before, beforeMember, rfl⟩ := mem_map.mp (projectedLive.mem_iff.mp tabMember)
    exact arrangedBy_isSome (placed before beforeMember)
  have someLive : liveOf (applyReduce layout source.tabId).tabs ≠ [] :=
    ne_nil_of_mem (projectedLive.mem_iff.mpr (mem_map_of_mem sourceLive))
  rw [livePaneRects_of_placed projectedPlaced someLive, Option.some.injEq] at reads
  subst reads
  have reduced := arranged_of_reduced readable.distinct same
  refine .moved isSource same (List.Perm.trans ?_
    (reduced.panes_perm ((readable.distinct.survivors _).map (arrangedBy_tabId _))).symm)
  have sorted := (liveTabsSorted_perm (applyReduce layout source.tabId)).trans projectedLive
  have others := (sorted.filter (·.tabId ≠ source.tabId)).map TabRecord.pane
  rw [filter_map_of_keeps (arrangedBy_tabId _)] at others
  rw [filter_map, isSource]
  exact others

theorem splitTab_applied {fromTab : TabId} {added : NewTab} {axis : SplitAxis}
    (ok : splitTab layout fromTab added axis = .ok out) :
    Applied layout (.split fromTab added axis) out := by
  simp only [splitTab, check_ok_iff, Bool.not_eq_true', Bool.not_eq_false, any_tabId_iff] at ok
  obtain ⟨source, fresh, ok⟩ := ok
  split at ok
  · cases ok
  next _ _ =>
    cases ok
    refine .split source fresh ?_ ?_ ?_ (holds_renormalize (.of_eq (writeRects_eq ?_ ?_)))
    · exact ⟨rfl, rfl⟩
    · rfl
    · rfl
    · rw [DistinctTabs, map_append, map_singleton, ← concat_eq_append]
      exact .concat fresh readable.distinct
    · rw [← panesAfterSplit, panesAfterSplit_agents, ← concat_eq_append]
      refine .concat (fun member => ?_) readable.distinct.live
      exact fresh ((filter_sublist.map _).subset member)

theorem closePane_applied {unresolved : List SessionId}
    (ok : closePane layout tabId unresolved = .ok out) :
    Applied layout (.close tabId unresolved) out := by
  simp only [closePane, check_ok_iff, Bool.not_eq_true', Bool.not_eq_false, any_tabId_iff] at ok
  obtain ⟨listed, ok⟩ := ok
  split at ok
  · cases ok
    exact .close listed (holds_renormalize ((applyReduce_perm readable tabId).filter _))
  · cases ok

theorem stashPane_applied (ok : stashPane layout tabId = .ok out) : Applied layout
    (.stash tabId) out := by
  rw [stashPane] at ok
  split at ok
  · cases ok
  next closing found =>
    obtain rfl : closing.tabId = tabId := by simpa using find?_some found
    rw [check_ok_iff] at ok
    obtain ⟨others, ok⟩ := ok
    cases ok
    refine .stash (mem_of_find?_eq_some found) ?_ (holds_renormalize ?_)
    · simp only [Bool.and_eq_true, decide_eq_true_eq, Bool.not_eq_true', not_and] at others
      by_cases hidden : closing.stashed = true
      · exact .inl hidden
      · have notAlone : ¬(liveOf layout.tabs).length ≤ 1 := fun alone =>
          others alone (by simpa using hidden)
        exact .inr (by omega)
    · have reduced := applyReduce_perm readable closing.tabId
      have distinct : DistinctTabs (applyReduce layout closing.tabId).tabs :=
        (reduced.map _).nodup_iff.mpr (readable.distinct.map (reducedBy_tabId _ _))
      rw [editTab_eq_map distinct]
      exact reduced.map _

/-- A revive arranges the live panes and its own, or makes its tab the only root. -/
theorem applyRevive_ok {revived : WindowLayout} (member : tab ∈ layout.tabs)
    (hidden : tab.stashed = true)
    (ok : applyRevive layout (layout.liveTabIdsForRevive tab.tabId) tab.tabId = .ok revived) :
    (∃ live rects, livePaneRects layout = some live ∧
        reviveRectsBySpec live tab.tabId = some rects ∧ revived = applyPaneGeometry layout rects) ∨
      liveOf layout.tabs = [] ∧ revived.tabs.Perm (layout.tabs.map (rootedBy [tab.tabId])) := by
  have existing : (layout.liveTabIdsForRevive tab.tabId).Perm
      ((liveOf layout.tabs).map TabRecord.tabId) := by
    rw [WindowLayout.liveTabIdsForRevive, liveTabs_of_hidden readable.distinct member hidden]
    exact (perm_insertionSort _ _).map _
  obtain ⟨_, plans, ok⟩ := bind_ok_iff.mp ok
  rw [revivePaneRects] at plans
  split at plans
  next unread =>
    have empty : liveOf layout.tabs = [] := by
      by_contra nonempty
      obtain ⟨_, reads, _⟩ := readable.reads nonempty
      exact absurd (unread.symm.trans reads) (by simp)
    cases plans
    cases ok
    rw [empty] at existing
    rw [perm_nil.mp existing]
    refine .inr ⟨empty, ?_⟩
    simp only [flatChain, map_cons, map_nil]
    rw [clearRects_eq readable.distinct (nodup_singleton _)]
    refine (applyReviveTopology_perm (readable.distinct.map (clearedBy_tabId _)) (by simp)).trans ?_
    rw [map_map]
    exact .refl _
  next live reads =>
    obtain ⟨same, _⟩ := readable.agents reads
    have agents : (live.map AgentRect.agent).Perm (layout.liveTabIdsForRevive tab.tabId) :=
      (same.map _).trans (livePanes_agents layout ▸ existing.symm)
    have kept : live.filter (fun pane => (layout.liveTabIdsForRevive tab.tabId).contains pane.agent) =
        live := by
      refine filter_eq_self.mpr fun pane paneMember => ?_
      exact contains_iff_mem.mpr (agents.mem_iff.mp (mem_map_of_mem paneMember))
    have count : live.length = (layout.liveTabIdsForRevive tab.tabId).length := by
      rw [← agents.length_eq, length_map]
    simp only [kept, count, ne_eq, not_true_eq_false, if_false] at plans
    split at plans
    next rects revives =>
      cases plans
      exact .inl ⟨live, rects, reads, revives, (Except.ok.inj ok).symm⟩
    next => cases plans

/-- The panes of a revive are those of the live tabs and its own. -/
theorem Readable.revived (reads : livePaneRects layout = some live)
    (room : (liveOf layout.tabs).length < 4) (revives : reviveRectsBySpec live tabId = some rects) :
    (rects.map AgentRect.agent).Perm ((liveOf layout.tabs).map TabRecord.tabId ++ [tabId]) := by
  obtain ⟨same, once⟩ := readable.agents reads
  have few : live.length ≤ 3 := by
    rw [same.length_eq, livePanes_eq, length_map]
    omega
  rw [← livePanes_agents]
  exact (reviveRectsBySpec_spec once few revives).1.trans ((same.map _).append_right _)

theorem revivePane_applied (ok : revivePane layout tabId = .ok out) : Applied layout
    (.revive tabId) out := by
  rw [revivePane] at ok
  split at ok
  · cases ok
  next tab found =>
    obtain rfl : tab.tabId = tabId := by simpa using find?_some found
    have member := mem_of_find?_eq_some found
    split at ok
    next shown =>
      cases ok
      exact .alreadyShown member (by simpa using shown) (holds_renormalize (.refl _))
    next hidden =>
      have hidden : tab.stashed = true := by simpa using hidden
      rw [liveTabs_of_hidden readable.distinct member hidden, check_ok_iff] at ok
      obtain ⟨_, ok⟩ := ok
      split at ok
      · cases ok
      next _ applies =>
        cases ok
        rcases applyRevive_ok readable member hidden applies with
          ⟨live, rects, reads, revives, rfl⟩ | ⟨alone, rooted⟩
        · have added : (rects.map AgentRect.agent).Nodup := by
            rw [(readable.revived reads (by omega) revives).nodup_iff, ← concat_eq_append]
            refine .concat (fun listed => ?_) readable.distinct.live
            exact not_isLive_of_hidden readable.distinct member hidden (isLive_iff.mpr listed)
          have arranged := applyPaneGeometry_perm readable.distinct added
          refine .revive member hidden (by omega) reads revives (holds_renormalize ?_)
          rw [editTab_eq_map ((arranged.map _).nodup_iff.mpr
            (readable.distinct.map (arrangedBy_tabId _)))]
          refine (arranged.map _).trans (.of_eq ?_)
          rw [map_map, map_map]
          exact map_congr_left fun other _ => shownAt_arrangedBy _ _ other
        · refine .reviveAlone member hidden alone (holds_renormalize ?_)
          rw [editTab_eq_map ((rooted.map _).nodup_iff.mpr
            (readable.distinct.map fun tab => rootedBy_read (fun _ _ => rfl) fun _ _ => rfl))]
          exact rooted.map _

theorem swallowSplit_applied {direction : Option SwallowDir}
    (ok : swallowSplitWithDirection layout tabId direction = .ok out) :
    Applied layout (.swallow tabId direction) out := by
  have sorted := liveTabsSorted_perm layout
  have target : (layout.liveTabsSorted.any (·.tabId = tabId)) = true ↔ IsLive layout.tabs tabId := by
    rw [any_tabId_iff, (sorted.map _).mem_iff, isLive_iff]
  simp only [swallowSplitWithDirection, check_ok_iff, sorted.length_eq] at ok
  obtain ⟨_, ok⟩ := ok
  split at ok
  next several =>
    simp only [Bool.and_eq_true, Bool.or_eq_true, decide_eq_true_eq, target] at several
    split at ok
    · cases ok
    next _ reads =>
      split at ok
      · cases ok
      next _ found =>
        obtain ⟨_, _, swallows⟩ := exists_of_findSome?_eq_some found
        obtain ⟨_, _⟩ := readable.agents reads
        obtain ⟨guarded, rfl⟩ := checkedGeometry_ok ok
        refine .swallow several.1 reads swallows guarded (holds_renormalize ?_)
        refine applyPaneGeometry_perm readable.distinct ?_
        rwa [swallowRectLocal_agents swallows]
  next few =>
    refine .dissolve ?_ ok
    simpa [target] using few

/-- The live tabs a dock may place its source among. -/
theorem dockTargets_live {source : TabRecord} (member : source ∈ layout.tabs) :
    ((dockTargets layout source.tabId).tabs.filter fun tab =>
        !tab.stashed && tab.tabId ≠ source.tabId).length =
      ((liveOf layout.tabs).filter (·.tabId ≠ source.tabId)).length := by
  have counts : ∀ tabs : List TabRecord,
      (tabs.filter fun tab => !tab.stashed && tab.tabId ≠ source.tabId).length =
        ((tabs.map fun tab => (tab.stashed, tab.tabId)).filter
          fun (stashed, tabId) => !stashed && tabId ≠ source.tabId).length := by
    intro tabs
    rw [filter_map, length_map]
    rfl
  have same : ((dockTargets layout source.tabId).tabs.map fun tab => (tab.stashed, tab.tabId)).Perm
      (layout.tabs.map fun tab => (tab.stashed, tab.tabId)) := by
    simp only [dockTargets, readable.distinct.find member]
    split
    · exact .refl _
    · refine ((applyReduce_perm readable source.tabId).map _).trans (.of_eq ?_)
      exact map_read_of_keeps (fun tab => reducedBy_read (fun _ _ => rfl) fun _ _ => rfl) _
  rw [counts, (same.filter _).length_eq, ← counts, liveOf, filter_filter]
  simp [Bool.and_comm]

theorem dockTab_applied {source target : TabId}
    (ok : dockTabAtEdge layout source target edge = .ok out) :
    Applied layout (.dock source target edge) out := by
  simp only [dockTabAtEdge, check_ok_iff, Bool.not_eq_true', Bool.not_eq_false, any_tabId_iff] at ok
  obtain ⟨_, sourceListed, _, count, ok⟩ := ok
  obtain ⟨tab, member, rfl⟩ := mem_map.mp sourceListed
  simp only [Bool.or_eq_true, List.isEmpty_iff, decide_eq_true_eq, not_or, not_le] at count
  obtain ⟨someLive, few⟩ := count
  rw [dockTargets_live readable member] at few
  split at ok
  · cases ok
  next live reads =>
    split at ok
    · cases ok
    next _ found =>
      obtain ⟨guarded, rfl⟩ := checkedGeometry_ok ok
      have among : DocksAmong layout tab.tabId (live.filter (·.agent ≠ tab.tabId)) := by
        by_cases hidden : tab.stashed = true
        · exact docksAmong_of_hidden readable member hidden reads
        · refine docksAmong_of_live readable member (by simpa using hidden) ?_ reads
          have others := List.length_pos_of_ne_nil someLive
          rw [dockTargets_live readable member] at others
          obtain ⟨other, otherMember⟩ := exists_mem_of_length_pos others
          obtain ⟨otherLive, otherId⟩ := mem_filter.mp otherMember
          exact ⟨other, otherLive, by simpa using otherId⟩
      obtain ⟨bound, isTarget, _⟩ := findIdx?_eq_some_iff_getElem.mp found
      have isPane := getElem?_eq_getElem bound
      have count := (among.agents readable.distinct).length_eq
      rw [length_map, length_map] at count
      refine .dock member reads rfl among (by omega) isPane (by simpa using isTarget) guarded
        (holds_renormalize ?_)
      rw [editTab_eq_map readable.distinct]
      exact applyPaneGeometry_perm (readable.distinct.map (shownAt_tabId _))
        (among.placed_nodup readable.distinct isPane)

/-- Every successful operation is one of those listed. -/
theorem applied_of_ok {op : PaneOp} (ok : op.apply layout = .ok out) : Applied layout op out := by
  cases op with
  | split => exact splitTab_applied readable ok
  | close => exact closePane_applied readable ok
  | stash => exact stashPane_applied readable ok
  | revive => exact revivePane_applied readable ok
  | setRects => exact setPaneRects_applied ok
  | swallow => exact swallowSplit_applied readable ok
  | dock => exact dockTab_applied readable ok

/-! ## Arrangements the operations leave -/

/-- A revive arranges the live tabs and its own. -/
theorem arranged_of_revive (member : tab ∈ layout.tabs) (hidden : tab.stashed = true)
    (room : (liveOf layout.tabs).length < 4) (reads : livePaneRects layout = some live)
    (revives : reviveRectsBySpec live tab.tabId = some rects) :
    Arranged (liveOf ((layout.tabs.map (shownAt tab.tabId)).map (arrangedBy rects))) rects := by
  have notLive := not_isLive_of_hidden readable.distinct member hidden
  have all : (liveOf layout.tabs).filter (·.tabId ≠ tab.tabId) = liveOf layout.tabs :=
    filter_eq_self.mpr fun other otherMember =>
      decide_eq_true fun isTab => notLive ⟨other, otherMember, isTab⟩
  refine arranged_of_shown readable.distinct member ?_
  rw [all]
  exact readable.revived reads room revives

/-- A swallow arranges the live tabs. -/
theorem arranged_of_swallow {tabId : TabId} {dir : SwallowDir}
    (reads : livePaneRects layout = some live)
    (swallows : swallowRectLocal live tabId dir = some rects) :
    Arranged (liveOf (layout.tabs.map (arrangedBy rects))) rects := by
  obtain ⟨same, _⟩ := readable.agents reads
  rw [liveOf_map _ (arrangedBy_stashed _)]
  refine .of_edit readable.distinct.live ?_ (arrangedBy_tabId _) (fun _ => rfl) fun _ => rfl
  rw [swallowRectLocal_agents swallows, ← livePanes_agents]
  exact same.map _

/-- A dock arranges the live tabs and its source. -/
theorem arranged_of_dock (member : source ∈ layout.tabs)
    (among : DocksAmong layout source.tabId panes) (isPane : panes[index]? = some pane) :
    Arranged (liveOf ((layout.tabs.map (shownAt source.tabId)).map
      (arrangedBy (dividePane panes index edge source.tabId))))
        (dividePane panes index edge source.tabId) := by
  refine arranged_of_shown readable.distinct member ?_
  rw [dividePane_agents isPane]
  exact (among.agents readable.distinct).append_right _

/-- A live tab without a pane, named by its id. -/
def shellTab (tabId : TabId) (index : Nat) : TabRecord :=
  ⟨tabId, "s" ++ tabId, index, "shell " ++ tabId, false, .default, none, none, none, false⟩

end HydraTerm.Shell
