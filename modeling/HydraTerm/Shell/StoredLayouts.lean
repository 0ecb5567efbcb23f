import HydraTerm.Shell.PaneSplits
import HydraTerm.Shell.TopologyLaws

/-!
# Layouts as they are stored

A stored layout need not be one the operations leave: its links may dangle or run in a circle,
and some of its rectangles may be missing. Whatever it holds, the panes it is read as belong to
its live tabs, each at most once. Two operations are followed from any stored layout: taking out
a tab that is already hidden, and the repair of the split tree.

Taking out a hidden tab finds no place to fill, so every live tab loses its rectangle and its
link; the repair has no arrangement for three panes none of which spans the window.
-/

namespace HydraTerm.Shell

open Lib List
open TabRecord (tabId)

variable {layout out : WindowLayout} {tabs : List TabRecord} {edit : TabRecord → TabRecord}
  {model : PaneLayoutModel} {picked : List TabRecord} {agents : List AgentId} {order : List Link}
  {removing : TabId}

/-! ## The panes of any layout -/

/-- The panes of a model are those of its agents. -/
theorem PaneLayoutModel.Seats.panes_agents (seats : model.Seats agents) :
    ((model.layout.slots.zip (slotRects model.layout model.ratios)).filterMap fun (slot, rect) =>
      (model.agentAt slot).map fun agent => (⟨agent, rect⟩ : AgentRect)).map AgentRect.agent =
        agents := by
  have whole : model.layout.slots.length ≤ (slotRects model.layout model.ratios).length := by
    rw [slotRects_length, CanonicalLayout.slots_length]
  rw [← seats.readingOrder, agentsInReadingOrder, map_filterMap]
  conv_rhs => rw [← map_fst_zip whole, filterMap_map]
  refine filterMap_congr fun pair _ => ?_
  simp [Function.comp_def, agentAt]

/-- The tabs a model grows by are its further agents. -/
theorem growFromTabs_seats {model grown : PaneLayoutModel}
    (seats : model.Seats agents) (grows : growFromTabs model tabs = some grown) :
    ∃ order, grown.Seats order ∧ order.Perm (tabs.map tabId ++ agents) := by
  induction tabs generalizing model agents with
  | nil =>
    cases grows
    exact ⟨agents, seats, .refl _⟩
  | cons _ _ ih =>
    rw [growFromTabs] at grows
    split at grows
    · cases grows
    split at grows
    · cases grows
    split at grows
    next isGrown =>
      obtain ⟨_, _, _, _, orderSeats, same, _⟩ := PaneLayoutModel.splitOrdered_seats seats isGrown
      obtain ⟨final, finalSeats, finalSame⟩ := ih orderSeats grows
      refine ⟨final, finalSeats, finalSame.trans ((same.append_left _).trans ?_)⟩
      exact perm_middle
    · cases grows

/-- A model of live tabs seats some of them. -/
theorem canonicalModelFromLiveTabs_seats {live : List TabRecord}
    (isModel : canonicalModelFromLiveTabs live = some model) :
    ∃ order, model.Seats order ∧ ∀ agent ∈ order, agent ∈ live.map tabId := by
  have listed : ∀ {agents prefer}, (PaneLayoutModel.fromAgents agents prefer).toOption =
      some model →
      (∀ agent ∈ agents, agent ∈ live.map tabId) →
      ∃ order, model.Seats order ∧ ∀ agent ∈ order, agent ∈ live.map tabId :=
    fun made among => ⟨_, (PaneLayoutModel.fromAgents_seats (toOption_eq_some made)).1, among⟩
  simp only [canonicalModelFromLiveTabs] at isModel
  split at isModel
  · cases isModel
  cases fromRects : canonicalModelFromRects live with
  | some =>
    rw [fromRects] at isModel
    cases isModel
    simp only [canonicalModelFromRects] at fromRects
    split at fromRects
    · cases fromRects
    split at fromRects
    · refine listed fromRects fun agent member => ?_
      obtain ⟨_, paneMember, rfl⟩ := mem_map.mp member
      have isRead := (perm_insertionSort _ _).mem_iff.mp paneMember
      obtain ⟨_, tabMember, isPane⟩ := mem_filterMap.mp isRead
      obtain ⟨_, _, rfl⟩ := Option.map_eq_some_iff.mp isPane
      exact mem_map_of_mem tabMember
    · cases fromRects
  | none =>
    rw [fromRects] at isModel
    dsimp only at isModel
    split at isModel
    next => exact listed isModel fun agent member => member
    next =>
      split at isModel
      · cases isModel
      next _ isRoot =>
        split at isModel
        · cases isModel
        split at isModel
        · cases isModel
        next _ isSingle =>
          obtain ⟨order, seats, same⟩ :=
            growFromTabs_seats (PaneLayoutModel.fromAgents_seats isSingle).1 isModel
          refine ⟨order, seats, fun agent member => ?_⟩
          rcases mem_append.mp (same.mem_iff.mp member) with grownMember | isFirst
          · obtain ⟨_, tabMember, rfl⟩ := mem_map.mp grownMember
            exact mem_map_of_mem (mem_of_mem_filter tabMember)
          · rw [mem_singleton.mp isFirst]
            exact mem_map_of_mem (mem_of_find?_eq_some isRoot)

/-- The panes any layout is read as belong to live tabs, each to one of its own. -/
theorem livePaneRects_agents {panes : List AgentRect} (distinct : DistinctTabs layout.tabs)
    (reads : livePaneRects layout = some panes) :
    (panes.map AgentRect.agent).Nodup ∧ ∀ agent ∈ panes.map AgentRect.agent,
      IsLive layout.tabs agent := by
  have sorted := (liveTabsSorted_perm layout).map tabId
  have once : (layout.liveTabsSorted.map tabId).Nodup := sorted.nodup_iff.mpr distinct.live
  have live : ∀ agent ∈ layout.liveTabsSorted.map tabId, IsLive layout.tabs agent :=
    fun agent member => isLive_iff.mpr (sorted.mem_iff.mp member)
  simp only [livePaneRects] at reads
  split at reads
  · cases reads
  split at reads
  · cases reads
    have agents : ((layout.liveTabsSorted.filterMap fun tab => tab.paneRect.map fun rect =>
        (⟨tab.tabId, rect.toUnit⟩ : AgentRect)).map AgentRect.agent).Sublist
          (layout.liveTabsSorted.map tabId) := by
      induction layout.liveTabsSorted with
      | nil => exact .slnil
      | cons tab _ ih =>
        cases isRect : tab.paneRect with
        | none => simpa [isRect] using ih.cons tab.tabId
        | some => simpa [isRect] using ih.cons_cons tab.tabId
    exact ⟨once.sublist agents, fun agent member => live agent (agents.subset member)⟩
  · split at reads
    · cases reads
    next _ isModel =>
      cases reads
      obtain ⟨_, seats, among⟩ := canonicalModelFromLiveTabs_seats isModel
      rw [seats.panes_agents]
      exact ⟨seats.distinct, fun agent member => live agent (among agent member)⟩

/-! ## Taking out a hidden tab -/

/-- A tab with its place and its link. -/
def TabRecord.frame (tab : TabRecord) : TabId × Option PaneRect × Option SplitFrom :=
  (tab.tabId, tab.paneRect, tab.splitFrom)

/-- What is shown of the live tabs: each with its rectangle and its link, in order. -/
def liveFrame (layout : WindowLayout) : List (TabId × Option PaneRect × Option SplitFrom) :=
  layout.liveTabsSorted.map TabRecord.frame

/-- No live tab carries a rectangle or a link. -/
def Bare (layout : WindowLayout) : Prop :=
  ∀ tab ∈ liveOf layout.tabs, tab.paneRect = none ∧ tab.splitFrom = none

/-- Listed tabs are taken out in the order of the list. -/
theorem pullTabs_fst (distinct : DistinctTabs tabs) (listed : ∀ tab ∈ picked, tab ∈ tabs)
    (once : (picked.map tabId).Nodup) : (pullTabs (picked.map tabId) tabs).1 = picked := by
  induction picked generalizing tabs with
  | nil => rfl
  | cons tab rest ih =>
    obtain ⟨absent, restOnce⟩ := nodup_cons.mp once
    obtain ⟨tabListed, restListed⟩ := forall_mem_cons.mp listed
    have kept : ∀ other ∈ rest, other ∈ tabs.eraseP (·.tabId = tab.tabId) := by
      intro other member
      refine (mem_eraseP_of_neg ?_).mpr (restListed other member)
      exact fun same => absent (of_decide_eq_true same ▸ mem_map_of_mem member)
    have restDistinct : DistinctTabs (tabs.eraseP (·.tabId = tab.tabId)) :=
      distinct.sublist (eraseP_sublist.map _)
    rw [map_cons, pullTabs, distinct.find tabListed]
    exact congrArg (tab :: ·) (ih restDistinct kept restOnce)

/-- The live tabs of a renumbered layout are shown in the order they stand in. -/
theorem liveFrame_renormalize (layout : WindowLayout) :
    liveFrame layout.renormalize = (liveOf layout.tabs).map TabRecord.frame := by
  have numbered : ∀ (tabs : List TabRecord) (from_ : Nat),
      (liveOf (tabs.mapIdx fun index tab => { tab with index := index + from_ })).Pairwise
        (fun one other => one.index ≤ other.index) ∧
      (liveOf (tabs.mapIdx fun index tab => { tab with index := index + from_ })).map
          TabRecord.frame = (liveOf tabs).map TabRecord.frame := by
    intro tabs
    induction tabs with
    | nil => exact fun _ => ⟨.nil, rfl⟩
    | cons tab _ ih =>
      intro from_
      obtain ⟨sorted, read⟩ := ih (from_ + 1)
      have shifted : (fun index (tab : TabRecord) => { tab with index := index + 1 + from_ }) =
          fun index tab => { tab with index := index + (from_ + 1) } := by
        funext index tab
        rw [add_assoc, add_comm 1]
      rw [mapIdx_cons, shifted]
      by_cases hidden : tab.stashed = true
      · simpa [liveOf, hidden] using ⟨sorted, read⟩
      · simp only [liveOf, filter_cons, hidden, Bool.not_false, if_true, pairwise_cons,
          map_cons] at sorted read ⊢
        refine ⟨⟨fun other member => ?_, sorted⟩, congrArg _ read⟩
        obtain ⟨_, _, rfl⟩ := mem_mapIdx.mp (mem_of_mem_filter member)
        simp only
        omega
  obtain ⟨sorted, read⟩ := numbered layout.tabs 0
  have inOrder : layout.renormalize.liveTabs.Pairwise fun one other => one.index ≤ other.index :=
    sorted
  rw [liveFrame, WindowLayout.liveTabsSorted, WindowLayout.sortByIndex, inOrder.insertionSort_eq]
  exact read

theorem liveOf_append (one other : List TabRecord) : liveOf
    (one ++ other) = liveOf one ++ liveOf other :=
  filter_append ..

theorem liveOf_perm {other : List TabRecord} (same : tabs.Perm other) : (liveOf tabs).Perm
    (liveOf other) :=
  same.filter _

/-- Links for all live tabs leave these in the order of the links, before the hidden ones. -/
theorem liveOf_applyReviveTopology (distinct : DistinctTabs layout.tabs)
    (same : picked.Perm (liveOf layout.tabs)) (ids : order.map Prod.fst = picked.map tabId) :
    liveOf (applyReviveTopology layout order).tabs = picked.map (linkedBy order) := by
  have keepsId : ∀ tab, (linkedBy order tab).tabId = tab.tabId :=
    fun tab => linkedBy_read fun _ _ => rfl
  have once : (order.map Prod.fst).Nodup := by
    rw [ids]
    exact (same.map _).nodup_iff.mpr distinct.live
  have linkedDistinct := distinct.map keepsId
  have live : (picked.map (linkedBy order)).Perm (liveOf (layout.tabs.map (linkedBy order))) := by
    rw [liveOf_map _ fun _ => linkedBy_read fun _ _ => rfl]
    exact same.map _
  have linkedIds : order.map Prod.fst = (picked.map (linkedBy order)).map tabId := by
    rw [map_read_of_keeps keepsId, ids]
  have front := pullTabs_fst linkedDistinct
    (fun tab member => (mem_liveOf.mp (live.mem_iff.mp member)).1) (linkedIds ▸ once)
  have whole := pullTabs_perm (order.map Prod.fst) (layout.tabs.map (linkedBy order))
  rw [applyReviveTopology_tabs distinct once]
  rw [← linkedIds] at front
  rw [front] at whole ⊢
  have shown : liveOf (picked.map (linkedBy order)) = picked.map (linkedBy order) :=
    filter_eq_self.mpr fun tab member => by simpa using (mem_liveOf.mp (live.mem_iff.mp member)).2
  generalize (pullTabs (order.map Prod.fst) (layout.tabs.map (linkedBy order))).2 = rest at whole ⊢
  have hiddenRest : liveOf rest = [] := by
    have kept := (liveOf_perm whole).length_eq
    rw [liveOf_append, shown, length_append, live.length_eq] at kept
    exact length_eq_zero_iff.mp (by omega)
  have hiddenBehind : liveOf (WindowLayout.sortByIndex rest) = [] :=
    perm_nil.mp (hiddenRest ▸ liveOf_perm (perm_insertionSort _ rest))
  rw [liveOf_append, shown, hiddenBehind, append_nil]

/-- A hidden tab has no place, so its removal makes the live tabs roots without rectangles, in
order, and puts the others behind them. -/
theorem applyReduce_hidden (distinct : DistinctTabs layout.tabs)
    (notLive : ¬IsLive layout.tabs removing) :
    liveOf (applyReduce layout removing).tabs =
      layout.liveTabsSorted.map (rootedBy (survivorIds layout removing)) := by
  have reduces : reducePaneRects layout removing = none := by
    rw [reducePaneRects]
    split
    · rfl
    next _ reads =>
      rw [find?_key_of_not_mem fun member =>
        notLive ((livePaneRects_agents distinct reads).2 _ member)]
  have sorted := liveTabsSorted_perm layout
  have survivors : survivorIds layout removing = layout.liveTabsSorted.map tabId := by
    rw [survivorIds, filter_eq_self.mpr]
    exact fun tab member => decide_eq_true fun same => notLive ⟨tab, sorted.mem_iff.mp member, same⟩
  have once := survivorIds_nodup distinct removing
  simp only [applyReduce, reduces]
  rw [← survivorIds, clearRects_eq distinct once]
  have keepsStashed : ∀ tab, (clearedBy (survivorIds layout removing) tab).stashed = tab.stashed :=
    fun tab => writtenBy_read fun _ _ => rfl
  have cleared : (layout.liveTabsSorted.map (clearedBy (survivorIds layout removing))).Perm
      (liveOf (layout.tabs.map (clearedBy (survivorIds layout removing)))) := by
    rw [liveOf_map _ keepsStashed]
    exact sorted.map _
  rw [liveOf_applyReviveTopology (distinct.map (clearedBy_tabId _)) cleared, map_map]
  · rfl
  · rw [map_read_of_keeps (clearedBy_tabId _), ← survivors]
    simp [Function.comp_def]

/-- A tab made a root has neither a rectangle nor a link. -/
theorem frame_rootedBy {tabIds : List TabId} {tab : TabRecord} (once : tabIds.Nodup)
    (listed : tab.tabId ∈ tabIds) : (rootedBy tabIds tab).frame = (tab.tabId, none, none) := by
  have bare : (rootedBy tabIds tab).paneRect = none := by
    have kept : (rootedBy tabIds tab).paneRect = (clearedBy tabIds tab).paneRect :=
      linkedBy_read fun _ _ => rfl
    rw [kept, clearedBy, writtenBy_of_mem (by simpa using once : (tabIds.map id).Nodup) listed rfl]
  have sameId : (rootedBy tabIds tab).tabId = tab.tabId :=
    rootedBy_read (fun _ _ => rfl) fun _ _ => rfl
  rw [TabRecord.frame, sameId, bare, rootedBy_link once listed]

/-- What is left of the live tabs when a hidden one is taken out, whatever is done to it. -/
theorem liveFrame_of_hidden {left : List TabRecord}
    (windowId : WindowId) (distinct : DistinctTabs layout.tabs)
    (notLive : ¬IsLive layout.tabs removing)
    (kept : liveOf left = liveOf (applyReduce layout removing).tabs) :
    liveFrame (WindowLayout.mk windowId left).renormalize = liveFrame layout ↔ Bare layout := by
  have sorted := liveTabsSorted_perm layout
  have once := survivorIds_nodup distinct removing
  have listed : ∀ tab ∈ layout.liveTabsSorted, tab.tabId ∈ survivorIds layout removing := by
    intro tab member
    refine mem_map_of_mem (mem_filter.mpr ⟨member, decide_eq_true fun same => ?_⟩)
    exact notLive ⟨tab, sorted.mem_iff.mp member, same⟩
  rw [liveFrame_renormalize, kept, applyReduce_hidden distinct notLive, liveFrame, map_map,
    map_inj_left]
  refine forall_congr' fun tab => ?_
  rw [sorted.mem_iff]
  refine forall_congr' fun member => ?_
  rw [Function.comp_apply, frame_rootedBy once (listed tab (sorted.mem_iff.mpr member)),
    TabRecord.frame]
  simp [eq_comm]

/-- Hiding a tab that is not live changes no live tab. -/
theorem liveOf_editTab_hidden {tabId : TabId}
    (hides : ∀ tab, (edit tab).stashed = true) (others : ∀ tab ∈ liveOf tabs, tab.tabId ≠ tabId) :
    liveOf (editTab tabId edit tabs) = liveOf tabs := by
  induction tabs with
  | nil => rfl
  | cons tab rest ih =>
    have restOthers : ∀ other ∈ liveOf rest, other.tabId ≠ tabId := fun other member =>
      others other (mem_liveOf.mpr ⟨mem_cons_of_mem _ (mem_liveOf.mp member).1,
        (mem_liveOf.mp member).2⟩)
    rw [editTab]
    split
    next same =>
      have hidden : tab.stashed = true := by
        by_contra shown
        exact others tab (mem_liveOf.mpr ⟨mem_cons_self, by simpa using shown⟩) same
      simp [liveOf, hides, hidden]
    next =>
      have restSame := ih restOthers
      simp only [liveOf, filter_cons] at restSame ⊢
      rw [restSame]

/-- Closing a hidden tab, in each of its variants, and stashing it again: the live tabs keep
their rectangles, links and order exactly when none of them has a rectangle or a link. -/
theorem removing_hidden_keeps_frame_iff {tab : TabRecord} (distinct : DistinctTabs layout.tabs)
    (member : tab ∈ layout.tabs) (hidden : tab.stashed = true) :
    (∀ unresolved out, closePane layout tab.tabId unresolved = .ok out →
      (liveFrame out = liveFrame layout ↔ Bare layout)) ∧
    (∀ unresolved preserve ordinary windows, ∃ out,
      closePaneWithRemoved layout tab.tabId unresolved preserve ordinary windows =
          .ok (.closed out tab unresolved) ∧
        (liveFrame out = liveFrame layout ↔ Bare layout)) ∧
    ∃ out, stashPane layout tab.tabId = .ok out ∧
      (liveFrame out = liveFrame layout ↔ Bare layout) := by
  have notLive := not_isLive_of_hidden distinct member hidden
  have found := distinct.find member
  have others : ∀ other ∈ liveOf (applyReduce layout tab.tabId).tabs, other.tabId ≠ tab.tabId := by
    rw [applyReduce_hidden distinct notLive]
    rintro _ rootedMember same
    obtain ⟨other, otherMember, rfl⟩ := mem_map.mp rootedMember
    refine notLive ⟨other, (liveTabsSorted_perm layout).mem_iff.mp otherMember, Eq.trans ?_ same⟩
    exact (rootedBy_read (fun _ _ => rfl) fun _ _ => rfl).symm
  have closed : liveOf ((applyReduce layout tab.tabId).tabs.filter (·.tabId ≠ tab.tabId)) =
      liveOf (applyReduce layout tab.tabId).tabs := by
    rw [liveOf, filter_comm]
    exact filter_eq_self.mpr fun other otherMember => decide_eq_true (others other otherMember)
  refine ⟨fun unresolved out ok => ?_, fun unresolved preserve ordinary windows => ?_, ?_⟩
  · rw [closePane, if_neg (by simpa using ⟨tab, member, rfl⟩)] at ok
    cases unresolved with
    | nil =>
      cases ok
      exact liveFrame_of_hidden _ distinct notLive closed
    | cons => cases ok
  · refine ⟨_, ?_, liveFrame_of_hidden (applyReduce layout tab.tabId).windowId distinct notLive
      closed⟩
    simp [closePaneWithRemoved, found, hidden]
  · simp only [stashPane, found, hidden, Bool.not_true, Bool.and_false, Bool.false_eq_true,
      if_false]
    exact ⟨_, rfl, liveFrame_of_hidden _ distinct notLive
      (liveOf_editTab_hidden (fun _ => rfl) others)⟩

/-- A live root without a rectangle keeps its frame when the hidden tab beside it goes. -/
theorem removing_hidden_keeps_frame_iff_bare :
    ∃ out, stashPane ⟨"w", [shellTab "a" 0, { shellTab "c" 1 with stashed := true }]⟩ "c" =
      .ok out ∧
      liveFrame out = [("a", none, none)] := by
  obtain ⟨out, stashes, kept⟩ := (@removing_hidden_keeps_frame_iff
    ⟨"w", [shellTab "a" 0, { shellTab "c" 1 with stashed := true }]⟩
    { shellTab "c" 1 with stashed := true } (by decide) (by decide) rfl).2.2
  refine ⟨out, stashes, kept.mpr fun tab member => ?_⟩
  rw [mem_singleton.mp member]
  exact ⟨rfl, rfl⟩

/-- Closing or stashing the hidden tab beside two panes takes their rectangles and makes the
second a root. -/
theorem hidden_removal_clears_frame :
    liveFrame hiddenThird = [("a", some ⟨0, 0, 500, 1000⟩, none),
      ("b", some ⟨500, 0, 500, 1000⟩, some ⟨"a", .right, none⟩)] ∧
    (∃ out, closePane hiddenThird "c" [] = .ok out ∧
      liveFrame out = [("a", none, none), ("b", none, none)]) ∧
    ∃ out, stashPane hiddenThird "c" = .ok out ∧
      liveFrame out = [("a", none, none), ("b", none, none)] := by
  have closes : (closePane hiddenThird "c" []).toOption.map liveFrame =
      some [("a", none, none), ("b", none, none)] := by decide +kernel
  have stashes : (stashPane hiddenThird "c").toOption.map liveFrame =
      some [("a", none, none), ("b", none, none)] := by decide +kernel
  obtain ⟨closed, isClosed, closedFrame⟩ := Option.map_eq_some_iff.mp closes
  obtain ⟨stashed, isStashed, stashedFrame⟩ := Option.map_eq_some_iff.mp stashes
  exact ⟨by decide +kernel, ⟨closed, toOption_eq_some isClosed, closedFrame⟩,
    stashed, toOption_eq_some isStashed, stashedFrame⟩

/-! ## The repair -/

/-- The loop that follows a tab's links never runs out of turns: each turn sees another tab. -/
theorem chainNeedsRepair_settled {liveIds : List TabId} (more : Nat) :
    ∀ (turns : Nat) (seen : List TabId) (current : TabRecord), seen.Nodup →
      seen ⊆ tabs.map tabId → current ∈ tabs → tabs.length < turns + seen.length →
      chainNeedsRepair tabs liveIds (turns + more) seen current =
        chainNeedsRepair tabs liveIds turns seen current := by
  intro turns
  induction turns with
  | zero =>
    intro seen current once among _ enough
    have bound := (once.subperm among).length_le
    rw [length_map] at bound
    omega
  | succ _ ih =>
    intro seen current once among member enough
    rw [add_right_comm, chainNeedsRepair, chainNeedsRepair]
    split
    · rfl
    · split
      · rfl
      next new =>
        split
        · rfl
        split
        · rfl
        next parent found =>
          simp only [Bool.or_eq_true, decide_eq_true_eq, contains_iff_mem, not_or] at new
          refine ih _ parent (nodup_cons.mpr ⟨new.2, once⟩) ?_
            (mem_of_find?_eq_some found) ?_
          · exact cons_subset.mpr ⟨mem_map_of_mem member, among⟩
          · rw [length_cons]
            omega

/-- A revive has no arrangement exactly for three panes none of which spans the window. -/
theorem reviveRectsBySpec_eq_none_iff {existing : List AgentRect} {reviving : AgentId}
    (distinct : (existing.map AgentRect.agent).Nodup) :
    reviveRectsBySpec existing reviving = none ↔
      existing.length = 3 ∧ ∀ pane ∈ existing, fullHeight pane = false ∧
        fullWidth pane = false := by
  have order : (readingOrder existing).Perm existing := perm_insertionSort _ _
  have count := order.length_eq
  rw [reviveRectsBySpec]
  split
  next isOrder => simp [← count, isOrder]
  next isOrder => simp [← count, isOrder]
  next isOrder =>
    rw [isOrder] at count
    split <;> simp [← count]
  next a b c isOrder =>
    rw [isOrder] at order count
    have three : existing.length = 3 := count.symm
    have first : a ∈ existing := order.mem_iff.mp mem_cons_self
    -- An arrangement comes with a pane that spans the window.
    have arranged : ∀ {rects : List AgentRect}, ∀ pane ∈ existing,
        (fullHeight pane = true ∨ fullWidth pane = true) → (some rects = none ↔
          existing.length = 3 ∧ ∀ pane ∈ existing, fullHeight pane = false ∧
            fullWidth pane = false) := by
      refine fun pane member spans => iff_of_false (by simp) fun spanless => ?_
      simp [spanless.2 pane member] at spans
    have among := reviveAmongThree_cases a.agent b.agent c.agent reviving distinct three
    generalize reviveAmongThree existing a.agent b.agent c.agent reviving = result at among ⊢
    cases among with
    | columns columns => exact arranged a first (.inl (all_eq_true.mp columns a first))
    | rows rows => exact arranged a first (.inr (all_eq_true.mp rows a first))
    | column _ tall =>
      exact arranged _ (mem_of_find?_eq_some tall) (.inl (find?_some tall))
    | row _ _ wide =>
      exact arranged _ (mem_of_find?_eq_some wide) (.inr (find?_some wide))
    | stuck notTall notWide =>
      refine iff_of_true rfl ⟨three, fun pane member => ?_⟩
      exact ⟨by simpa using find?_eq_none.mp notTall pane member,
        by simpa using find?_eq_none.mp notWide pane member⟩
  next _ _ _ three =>
    refine iff_of_false (by simp) fun spanless => ?_
    rw [spanless.1] at count
    obtain ⟨a, b, c, isOrder⟩ := length_eq_three.mp count
    exact three a b c isOrder

/-- Links that form one tree of the live tabs make one tree of them. -/
theorem oneTree_of_linked (distinct : DistinctTabs tabs)
    (listed : (order.map Prod.fst).Perm ((liveOf tabs).map tabId))
    (tree : SpanningTree order) : OneTree (tabs.map (linkedBy order)) := by
  have once := listed.nodup_iff.mpr distinct.live
  refine .inr (tree.perm ?_)
  rw [liveOf_map _ fun _ => linkedBy_read fun _ _ => rfl, map_map, ← map_id order]
  refine (map_perm_of_keys listed.symm once fun tab _ link linkMember same => ?_).symm
  have sameId : (linkedBy order tab).tabId = tab.tabId := linkedBy_read fun _ _ => rfl
  obtain ⟨tabId, _⟩ := link
  obtain rfl : tabId = tab.tabId := same
  rw [Function.comp_apply, TabRecord.link, map_id, sameId, linkedBy_link once linkMember]
  rfl

/-- The flat chain lists the panes and links each to the first. -/
theorem flatChain_tree (existing : List TabId) (reviving : TabId) :
    (flatChain existing reviving).map Prod.fst = existing ++ [reviving] ∧
      SpanningTree (flatChain existing reviving) := by
  cases existing with
  | nil => exact ⟨rfl, reviving, [], .refl _, trivial⟩
  | cons first =>
    exact ⟨by simp [flatChain, Function.comp_def], first, _, .refl _,
      linkedAfter_map id _ (mem_singleton_self first)⟩

/-- A tab without its position, rectangle and link. -/
def TabRecord.unplaced (tab : TabRecord) : TabRecord :=
  { tab with index := 0, paneRect := none, splitFrom := none }

/-- The live tabs in stored order, without the last: the panes a repair revives it among. -/
def repairedAmong (layout : WindowLayout) : List TabId :=
  ((liveOf layout.tabs).map TabRecord.tabId).dropLast

/-- The panes of the given tabs are three, and none spans the window. -/
def Spanless (layout : WindowLayout) (among : List TabId) : Prop :=
  ∃ panes ∈ livePaneRects layout, among.length = 3 ∧
    (panes.filter fun pane => among.contains pane.agent).length = 3 ∧
      ∀ pane ∈ panes.filter fun pane => among.contains pane.agent,
        fullHeight pane = false ∧ fullWidth pane = false

/-- The repair of four live tabs whose first three have panes none of which spans the window. -/
def RepairStuck (layout : WindowLayout) : Prop :=
  liveTopologyNeedsRepair layout = true ∧ Spanless layout (repairedAmong layout)

/-- The layout has the same tabs up to their places and links, and these form one tree. -/
def Regrown (layout out : WindowLayout) : Prop :=
  (out.tabs.map TabRecord.unplaced).Perm (layout.tabs.map TabRecord.unplaced) ∧ OneTree out.tabs

/-- A write that is one edit of the tabs, up to their order. -/
theorem Regrown.of_edit (same : out.tabs.Perm (layout.tabs.map edit))
    (keeps : ∀ tab, (edit tab).unplaced = tab.unplaced) (tree : OneTree (layout.tabs.map edit)) :
    Regrown layout out := by
  have holds : Holds out (layout.tabs.map edit) := same.map _
  refine ⟨(same.map _).trans (.of_eq (map_read_of_keeps keeps _)),
    (oneTree_of_holds holds).mpr tree⟩

/-- Panes of just the live tabs arrange them in one tree. -/
theorem regrown_of_geometry {rects : List AgentRect} (distinct : DistinctTabs layout.tabs)
    (listed : (rects.map AgentRect.agent).Perm ((liveOf layout.tabs).map tabId)) :
    Regrown layout (applyPaneGeometry layout rects) := by
  have once := listed.nodup_iff.mpr distinct.live
  have arranged : Arranged (liveOf (layout.tabs.map (arrangedBy rects))) rects := by
    rw [liveOf_map _ (arrangedBy_stashed rects)]
    exact .of_edit distinct.live listed (arrangedBy_tabId _) (fun _ => rfl) fun _ => rfl
  exact .of_edit (applyPaneGeometry_perm distinct once)
    (fun _ => arrangedBy_read (fun _ _ => rfl) fun _ _ => rfl)
    (arranged.oneTree (distinct.map (arrangedBy_tabId rects)).live)

section

variable {existing : List TabId} {reviving : TabId} (distinct : DistinctTabs layout.tabs)
  (live : (liveOf layout.tabs).map tabId = existing ++ [reviving])
include distinct live

/-- A flat chain of just the live tabs makes one tree of them. -/
theorem regrown_of_chain :
    Regrown layout (applyReviveTopology
      { layout with tabs := clearRects ((flatChain existing reviving).map Prod.fst) layout.tabs }
      (flatChain existing reviving)) := by
  obtain ⟨ids, tree⟩ := flatChain_tree existing reviving
  have once : ((flatChain existing reviving).map Prod.fst).Nodup := by
    rw [ids, ← live]
    exact distinct.live
  rw [clearRects_eq distinct once]
  generalize cleared : clearedBy ((flatChain existing reviving).map Prod.fst) = clear
  have keepsId : ∀ tab, (clear tab).tabId = tab.tabId := fun tab => cleared ▸ clearedBy_tabId _ tab
  have keeps : ∀ {γ : Type} {read : TabRecord → γ},
      (∀ tab rect, read { tab with paneRect := rect } = read tab) →
        ∀ tab, read (clear tab) = read tab :=
    fun free tab => cleared ▸ writtenBy_read fun _ _ => free _ _
  have written : (applyReviveTopology { layout with tabs := layout.tabs.map clear }
      (flatChain existing reviving)).tabs.Perm
        (layout.tabs.map (linkedBy (flatChain existing reviving) ∘ clear)) := by
    rw [← map_map]
    exact applyReviveTopology_perm (distinct.map keepsId) once
  refine .of_edit written (fun tab => (linkedBy_read fun _ _ => rfl).trans
    (keeps (fun _ _ => rfl) tab)) ?_
  · rw [← map_map]
    refine oneTree_of_linked (distinct.map keepsId) ?_ tree
    rw [liveOf_map _ (keeps fun _ _ => rfl), map_read_of_keeps keepsId, ids, live]

/-- Reviving the last of the live tabs among the others regrows all of them, unless the others
are three panes none of which spans the window. -/
theorem applyRevive_live (few : existing.length ≤ 3) :
    (Spanless layout existing ∧ applyRevive layout existing reviving = .error .panic) ∨
      (¬Spanless layout existing ∧
        ∃ revived, applyRevive layout existing reviving = .ok revived ∧
          Regrown layout revived) := by
  rw [applyRevive, revivePaneRects]
  cases reads : livePaneRects layout with
  | none =>
    refine .inr ⟨?_, _, rfl, regrown_of_chain distinct live⟩
    rintro ⟨_, isPanes, _⟩
    exact absurd (reads.symm.trans isPanes) (by simp)
  | some panes =>
    have agents := (livePaneRects_agents distinct reads).1
    simp only [Spanless, reads, Option.mem_some, exists_eq_left']
    generalize isKept : (panes.filter fun pane => existing.contains pane.agent) = kept
    split
    next fewer =>
      refine .inr ⟨?_, _, rfl, regrown_of_chain distinct live⟩
      rintro ⟨three, keptThree, _⟩
      exact fewer (keptThree.trans three.symm)
    next all =>
      rw [ne_eq, not_not] at all
      have keptOnce : (kept.map AgentRect.agent).Nodup :=
        agents.sublist (isKept ▸ filter_sublist.map _)
      have among : kept.map AgentRect.agent ⊆ existing := by
        intro agent member
        obtain ⟨_, paneMember, rfl⟩ := mem_map.mp member
        rw [← isKept] at paneMember
        simpa using (mem_filter.mp paneMember).2
      have same : (kept.map AgentRect.agent).Perm existing :=
        (keptOnce.subperm among).perm_of_length_le (by rw [length_map, all])
      have noRects := @reviveRectsBySpec_eq_none_iff kept reviving keptOnce
      cases revives : reviveRectsBySpec kept reviving with
      | none =>
        obtain ⟨three, none_⟩ := noRects.mp revives
        exact .inl ⟨⟨all ▸ three, three, none_⟩, rfl⟩
      | some =>
        refine .inr ⟨?_, _, rfl, regrown_of_geometry distinct ?_⟩
        · rintro ⟨_, three, none_⟩
          exact absurd (revives.symm.trans (noRects.mpr ⟨three, none_⟩)) (by simp)
        · rw [live]
          exact (reviveRectsBySpec_spec keptOnce (all ▸ few) revives).1.trans (same.append_right _)

end

/-- Two live tabs without rectangles, each a root. -/
def twoRoots : WindowLayout :=
  ⟨"w", [shellTab "a" 0, shellTab "b" 1]⟩

/-- Four panes in a grid, each a root. -/
def rootedGrid : WindowLayout :=
  ⟨"w", [{ shellTab "a" 0 with paneRect := some ⟨0, 0, 500, 500⟩ },
    { shellTab "b" 1 with paneRect := some ⟨500, 0, 500, 500⟩ },
    { shellTab "c" 2 with paneRect := some ⟨0, 500, 500, 500⟩ },
    { shellTab "d" 3 with paneRect := some ⟨500, 500, 500, 500⟩ }]⟩

end HydraTerm.Shell
