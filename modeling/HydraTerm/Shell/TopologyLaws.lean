import HydraTerm.Shell.PaneOpSpecs

/-!
# The live tabs stay one split tree

Most operations rewrite the split links of all live tabs from their rectangles, which gives
one tree whatever the rectangles are. A split only adds a link, to the tab it was asked to
split from; and closing or stashing a tab that is already hidden finds no place to fill and
makes every live tab a root. `paneOp_keeps_one_tree` says just when the live tabs stay one
tree, and that no operation loses a tab or changes what identifies one.
-/

namespace HydraTerm.Shell

open Lib List
open TabRecord (label)

variable {layout out : WindowLayout} {tabs : List TabRecord} {panes : List AgentRect}

/-! ## The repair check -/

/-- The live tabs, if any, form one tree of split links. -/
def OneTree (tabs : List TabRecord) : Prop :=
  liveOf tabs = [] ∨ SpanningTree ((liveOf tabs).map TabRecord.link)

theorem map_link_fst (tabs : List TabRecord) :
    (tabs.map TabRecord.link).map Prod.fst = tabs.map TabRecord.tabId :=
  map_map

/-- A chain of links that leads to smaller and smaller ranks ends at a root. -/
theorem chainNeedsRepair_of_rank {rank : TabId → Nat}
    (descends : ∀ tab ∈ liveOf tabs, ∀ parent, tab.splitFrom = some parent →
      IsLive tabs parent.tabId ∧ rank parent.tabId < rank tab.tabId) :
    ∀ (turns : Nat) (seen : List TabId) (current : TabRecord), current ∈ liveOf tabs →
      rank current.tabId < turns → (∀ tabId ∈ seen, rank current.tabId < rank tabId) →
      chainNeedsRepair tabs ((liveOf tabs).map TabRecord.tabId) turns seen current = false := by
  intro turns
  induction turns with
  | zero => exact fun _ _ _ below => absurd below (Nat.not_lt_zero _)
  | succ _ ih =>
    intro seen current member below above
    rw [chainNeedsRepair]
    split
    · rfl
    next split isSplit =>
      obtain ⟨live, lower⟩ := descends current member split isSplit
      have notItself : split.tabId ≠ current.tabId := fun same => by
        rw [same] at lower
        exact absurd lower (lt_irrefl _)
      have unseen : current.tabId ∉ seen := fun listed => absurd (above _ listed) (lt_irrefl _)
      have listed : split.tabId ∈ (liveOf tabs).map TabRecord.tabId := isLive_iff.mp live
      rw [if_neg (by simp [notItself, unseen]), if_neg (by simpa using listed)]
      split
      next none_ =>
        obtain ⟨tab, tabLive, same⟩ := live
        obtain ⟨tabMember, shown⟩ := mem_liveOf.mp tabLive
        exact absurd (find?_eq_none.mp none_ tab tabMember) (by simp [same, shown])
      next parent found =>
        have isParent := find?_some found
        simp only [Bool.and_eq_true, decide_eq_true_eq, Bool.not_eq_true'] at isParent
        obtain ⟨sameId, shown⟩ := isParent
        refine ih _ parent
          (mem_liveOf.mpr ⟨mem_of_find?_eq_some found, shown⟩) ?_ ?_
        · rw [sameId]
          omega
        · intro tabId tabMember
          rw [sameId]
          rcases mem_cons.mp tabMember with rfl | tabMember
          · exact lower
          · exact lower.trans (above tabId tabMember)

/-- One tree needs no repair. -/
theorem OneTree.needs_no_repair (tree : OneTree layout.tabs) (distinct : DistinctTabs layout.tabs) :
    liveTopologyNeedsRepair layout = false := by
  rcases tree with empty | tree
  · have none_ : layout.liveTabs = [] := empty
    simp [liveTopologyNeedsRepair, none_]
  · have ids := map_link_fst (liveOf layout.tabs)
    obtain ⟨rank, bounded, descends⟩ := tree.rank (ids ▸ distinct.live)
    simp only [liveTopologyNeedsRepair]
    split
    · rfl
    · have roots : (layout.tabs.filter fun tab => !tab.stashed && tab.splitFrom.isNone).length = 1 := by
        rw [← tree.root_count, filter_map, length_map, liveOf, filter_filter]
        simp [TabRecord.link, Bool.and_comm]
      have descendsLive : ∀ tab ∈ liveOf layout.tabs, ∀ parent, tab.splitFrom = some parent →
          IsLive layout.tabs parent.tabId ∧ rank parent.tabId < rank tab.tabId := by
        intro tab member parent isParent
        have link : (tab.tabId, some parent) ∈ (liveOf layout.tabs).map TabRecord.link :=
          mem_map.mpr ⟨tab, member, by rw [TabRecord.link, isParent]⟩
        exact ⟨isLive_iff.mpr (ids ▸ tree.parent_mem link), descends _ _ link⟩
      rw [if_neg (by simp [roots])]
      refine any_eq_false.mpr fun tab member => ?_
      rw [Bool.not_eq_true]
      refine chainNeedsRepair_of_rank descendsLive _ [] tab member ?_ (by simp)
      have below := bounded tab.tabId (ids ▸ mem_map_of_mem member)
      rw [length_map] at below
      have fewer : (liveOf layout.tabs).length ≤ layout.tabs.length := length_filter_le _ _
      omega

/-- Only the links of the live tabs matter, in whatever order. -/
theorem OneTree.of_links {others : List TabRecord} (tree : OneTree tabs)
    (links : ((liveOf tabs).map TabRecord.link).Perm ((liveOf others).map TabRecord.link)) :
    OneTree others :=
  tree.imp (fun empty => by simpa [empty] using links) fun tree => tree.perm links

theorem oneTree_of_holds (holds : Holds out tabs) : OneTree out.tabs ↔ OneTree tabs := by
  have links : ((liveOf out.tabs).map TabRecord.link).Perm
      ((liveOf tabs).map TabRecord.link) := holds.readsLive fun _ => rfl
  exact ⟨fun tree => tree.of_links links, fun tree => tree.of_links links.symm⟩

/-! ## What each operation makes of the links -/

/-- Arranged tabs form one tree. -/
theorem Arranged.oneTree (arranged : Arranged (liveOf tabs) panes)
    (distinct : DistinctTabs (liveOf tabs)) : OneTree tabs := by
  have links := arranged.links_perm distinct
  by_cases nonempty : panes = []
  · subst nonempty
    exact .inl (map_eq_nil_iff.mp (perm_nil.mp links))
  · exact .inr ((topologyFromRects_tree nonempty).perm links.symm)

/-- Tabs that are all roots form one tree only if there is at most one of them. -/
theorem oneTree_of_roots (roots : ∀ tab ∈ liveOf tabs, tab.splitFrom = none) :
    OneTree tabs ↔ (liveOf tabs).length ≤ 1 := by
  constructor
  · rintro (empty | tree)
    · simp [empty]
    · have count := tree.root_count
      rw [filter_eq_self.mpr, length_map] at count
      · omega
      · rintro _ member
        obtain ⟨tab, tabMember, rfl⟩ := mem_map.mp member
        simp [TabRecord.link, roots tab tabMember]
  · intro few
    by_cases empty : liveOf tabs = []
    · exact .inl empty
    · have one : (liveOf tabs).length = 1 := le_antisymm few (length_pos_of_ne_nil empty)
      obtain ⟨tab, isTab⟩ := length_eq_one_iff.mp one
      have root : tab.splitFrom = none := roots tab (isTab ▸ mem_cons_self)
      refine .inr ⟨tab.tabId, [], ?_, trivial⟩
      rw [isTab, map_singleton, TabRecord.link, root]

variable {tab : TabRecord} {op : PaneOp} {removing : TabId}

theorem rootedBy_link {tabIds : List TabId} (once : tabIds.Nodup)
    (listed : tab.tabId ∈ tabIds) : (rootedBy tabIds tab).splitFrom = none := by
  refine linkedBy_link (by simpa [Function.comp_def] using once) ?_
  rw [clearedBy_tabId]
  exact mem_map.mpr ⟨tab.tabId, listed, rfl⟩

/-- Without a place to fill, a removal makes every live tab a root. -/
theorem reducedBy_roots (readable : Readable layout) (notLive : ¬IsLive layout.tabs removing)
    (member : tab ∈ liveOf layout.tabs) : (reducedBy layout removing tab).splitFrom = none := by
  rw [reducedBy_of_none (reducePaneRects_of_not_live readable notLive)]
  refine rootedBy_link (survivorIds_nodup readable.distinct removing) ?_
  refine mem_map_of_mem (mem_filter.mpr ⟨(liveTabsSorted_perm layout).mem_iff.mpr member, ?_⟩)
  exact decide_eq_true fun same => notLive ⟨tab, member, same⟩

/-- The live tabs left by a removal form one tree exactly when a live tab was removed, or at
most one is left. -/
theorem oneTree_of_reduced (readable : Readable layout) (left : List TabRecord)
    (isLeft : liveOf left = ((liveOf layout.tabs).filter (·.tabId ≠ removing)).map
      (reducedBy layout removing)) :
    OneTree left ↔ IsLive layout.tabs removing ∨ (liveOf layout.tabs).length ≤ 1 := by
  by_cases live : IsLive layout.tabs removing
  · obtain ⟨_, _, same, rfl, reduces⟩ := reducePaneRects_of_live readable live
    have arranged := arranged_of_reduced readable.distinct same
    rw [reducedBy_of_some reduces] at isLeft
    rw [← isLeft] at arranged
    have distinct : DistinctTabs (liveOf left) := by
      rw [isLeft]
      exact (readable.distinct.survivors _).map (arrangedBy_tabId _)
    exact iff_of_true (arranged.oneTree distinct) (.inl live)
  · have all : (liveOf layout.tabs).filter (·.tabId ≠ removing) = liveOf layout.tabs :=
      filter_eq_self.mpr fun tab member => decide_eq_true fun same => live ⟨tab, member, same⟩
    rw [all] at isLeft
    have roots : ∀ tab ∈ liveOf left, tab.splitFrom = none := by
      intro tab member
      rw [isLeft] at member
      obtain ⟨_, beforeMember, rfl⟩ := mem_map.mp member
      exact reducedBy_roots readable live beforeMember
    rw [oneTree_of_roots roots, isLeft, length_map]
    simp [live]

/-- A split keeps one tree exactly when its source is live. -/
theorem oneTree_of_split {fromTab tabId : TabId} {axis : SplitAxis}
    (tree : OneTree layout.tabs) (source : fromTab ∈ layout.tabs.map TabRecord.tabId)
    (fresh : tabId ∉ layout.tabs.map TabRecord.tabId) (isTab : tab.tabId = tabId)
    (shown : tab.stashed = false) (link : tab.splitFrom = some ⟨fromTab, axis, none⟩) :
    OneTree ((layout.tabs ++ [tab]).map (placedBy panes)) ↔ IsLive layout.tabs fromTab := by
  have live : liveOf ((layout.tabs ++ [tab]).map (placedBy panes)) =
      (liveOf layout.tabs ++ [tab]).map (placedBy panes) := by
    rw [liveOf_map _ fun _ => placedBy_read fun _ _ => rfl, liveOf, filter_append,
      filter_cons_of_pos (by simp [shown])]
    rfl
  have links : (liveOf ((layout.tabs ++ [tab]).map (placedBy panes))).map TabRecord.link =
      (liveOf layout.tabs).map TabRecord.link ++ [(tabId, some ⟨fromTab, axis, none⟩)] := by
    rw [live, map_read_of_keeps fun _ => placedBy_read fun _ _ => rfl, map_append,
      map_singleton, TabRecord.link, isTab, link]
  have ids := map_link_fst (liveOf layout.tabs)
  rw [isLive_iff]
  constructor
  · rintro (empty | tree)
    · rw [live] at empty
      exact absurd empty (by simp)
    · have parent : fromTab ∈ _ := tree.parent_mem (links ▸ mem_append_right _ mem_cons_self)
      rw [links, map_append, ids, mem_append] at parent
      refine parent.resolve_right fun isNew => fresh ?_
      have same : fromTab = tabId := mem_singleton.mp isNew
      exact same ▸ source
  · intro listed
    have nonempty : liveOf layout.tabs ≠ [] := fun empty => by simp [empty] at listed
    rw [OneTree, links]
    exact .inr ((tree.resolve_left nonempty).add (ids ▸ listed))

/-- A tab revived alone is a tree of its own. -/
theorem oneTree_of_alone (distinct : DistinctTabs tabs) (member : tab ∈ tabs)
    (alone : liveOf tabs = []) :
    OneTree ((tabs.map (rootedBy [tab.tabId])).map (shownAt tab.tabId)) := by
  have keepsId : ∀ other, (rootedBy [tab.tabId] other).tabId = other.tabId := fun other =>
    rootedBy_read (fun _ _ => rfl) fun _ _ => rfl
  have stillAlone : liveOf (tabs.map (rootedBy [tab.tabId])) = [] := by
    rw [liveOf_map _ fun _ => rootedBy_read (fun _ _ => rfl) fun _ _ => rfl, alone]
    rfl
  have ids := liveOf_shown (distinct.map keepsId) (mem_map_of_mem member)
  rw [keepsId, stillAlone] at ids
  refine (oneTree_of_roots ?_).mpr ?_
  · intro shown shownMember
    have isTab : shown.tabId = tab.tabId :=
      mem_singleton.mp (ids.mem_iff.mp (mem_map_of_mem shownMember))
    obtain ⟨_, rootedMember, rfl⟩ := mem_map.mp (mem_liveOf.mp shownMember).1
    obtain ⟨_, _, rfl⟩ := mem_map.mp rootedMember
    rw [shownAt_tabId, keepsId] at isTab
    have kept : ∀ other, (shownAt tab.tabId other).splitFrom = other.splitFrom := by
      intro other
      rw [shownAt, editedAt]
      split <;> rfl
    rw [kept]
    exact rootedBy_link (nodup_singleton _) (by rw [isTab]; exact mem_singleton_self _)
  · have count := ids.length_eq
    rw [length_map] at count
    exact count.le

theorem OneTree.of_dragged {dragged : List TabRecord} (tree : OneTree tabs)
    (related : List.Forall₂ Dragged tabs dragged) : OneTree dragged := by
  have links := @liveOf_read_of_dragged _ _ related _ TabRecord.link fun _ _ => rfl
  exact tree.of_links (.of_eq links.symm)

/-! ## Every operation -/

/-- A swallow is among three or four live panes, its own among them. -/
def PaneOp.SwallowsAmongSeveral (layout : WindowLayout) : PaneOp → Prop
  | .swallow tabId _ => IsLive layout.tabs tabId ∧
      ((liveOf layout.tabs).length = 3 ∨ (liveOf layout.tabs).length = 4)
  | _ => True

/-- The tab that is split from is live; a tab that is closed or stashed is live, or leaves at
most one live tab behind. -/
def PaneOp.KeepsTree (layout : WindowLayout) : PaneOp → Prop
  | .split fromTab _ _ => IsLive layout.tabs fromTab
  | .close tabId _ | .stash tabId => IsLive layout.tabs tabId ∨ (liveOf layout.tabs).length ≤ 1
  | _ => True

/-- The tabs are the same but for the one that is added or closed, each with its session,
title, pin and attention. -/
def PaneOp.KeepsLabels (layout out : WindowLayout) : PaneOp → Prop
  | .split _ added _ => ∃ tab : TabRecord, tab.tabId = added.tabId ∧ tab.sessionId = added.sessionId ∧
      (out.tabs.map TabRecord.label).Perm (layout.tabs.map TabRecord.label ++ [tab.label])
  | .close tabId _ => (out.tabs.map TabRecord.label).Perm
      ((layout.tabs.filter (·.tabId ≠ tabId)).map TabRecord.label)
  | _ => (out.tabs.map TabRecord.label).Perm (layout.tabs.map TabRecord.label)

theorem oneTree_applied (readable : Readable layout) (tree : OneTree layout.tabs)
    (several : op.SwallowsAmongSeveral layout) (applied : Applied layout op out) :
    OneTree out.tabs ↔ op.KeepsTree layout := by
  have kept {tabs : List TabRecord} (holds : Holds out tabs) (tree : OneTree tabs) :
      OneTree out.tabs ↔ True := iff_of_true ((oneTree_of_holds holds).mpr tree) trivial
  cases applied with
  | split source fresh isTab shown link holds =>
    rw [oneTree_of_holds holds]
    exact oneTree_of_split tree source fresh isTab.1 shown link
  | close _ holds =>
    rw [oneTree_of_holds holds]
    refine oneTree_of_reduced readable _ ?_
    exact liveOf_filter_map (reducedBy_tabId _ _) fun _ => reducedBy_read (fun _ _ => rfl) fun _ _ => rfl
  | stash _ _ holds =>
    rw [oneTree_of_holds holds]
    refine oneTree_of_reduced readable _ ?_
    rw [liveOf_hidden, liveOf_map _ fun _ => reducedBy_read (fun _ _ => rfl) fun _ _ => rfl,
      filter_map_of_keeps (reducedBy_tabId _ _)]
  | alreadyShown _ _ holds => exact kept holds tree
  | revive member hidden room reads revives holds =>
    refine kept holds ?_
    exact (arranged_of_revive readable member hidden room reads revives).oneTree
      ((readable.distinct.map (shownAt_tabId _)).map (arrangedBy_tabId _)).live
  | reviveAlone member _ alone holds =>
    exact kept holds (oneTree_of_alone readable.distinct member alone)
  | setRects _ holds => exact kept holds (tree.of_dragged (writeDrag_dragged layout _))
  | swallow _ reads swallows _ holds =>
    refine kept holds ?_
    exact (arranged_of_swallow readable reads swallows).oneTree
      (readable.distinct.map (arrangedBy_tabId _)).live
  | dissolve few => exact absurd several few
  | dock member _ _ among _ isPane _ _ holds =>
    refine kept holds ?_
    exact (arranged_of_dock readable member among isPane).oneTree
      ((readable.distinct.map (shownAt_tabId _)).map (arrangedBy_tabId _)).live

theorem keepsLabels_applied (several : op.SwallowsAmongSeveral layout)
    (applied : Applied layout op out) : op.KeepsLabels layout out := by
  have labels {tabs : List TabRecord} {left} (holds : Holds out tabs)
      (same : tabs.map label = left) : (out.tabs.map label).Perm left :=
    (holds.reads fun _ => rfl).trans (.of_eq same)
  have arranged : ∀ (panes : List AgentRect) (tabs : List TabRecord), (tabs.map (arrangedBy panes)).map label =
      tabs.map label := fun panes =>
    map_read_of_keeps fun _ => arrangedBy_read (fun _ _ => rfl) fun _ _ => rfl
  have reduced : ∀ (tabId : TabId) (tabs : List TabRecord), (tabs.map (reducedBy layout tabId)).map label =
      tabs.map label := fun tabId =>
    map_read_of_keeps fun _ => reducedBy_read (fun _ _ => rfl) fun _ _ => rfl
  have shown : ∀ (tabId : TabId) (tabs : List TabRecord), (tabs.map (shownAt tabId)).map label =
      tabs.map label := by
    refine fun tabId => map_read_of_keeps fun tab => ?_
    rw [shownAt, editedAt]
    split <;> rfl
  cases applied with
  | @split _ _ _ tab _ _ _ isTab _ _ holds =>
    refine ⟨tab, isTab.1, isTab.2, labels holds ?_⟩
    rw [map_read_of_keeps fun _ => placedBy_read fun _ _ => rfl, map_append]
    rfl
  | close _ holds =>
    refine labels holds ?_
    rw [filter_map_of_keeps (reducedBy_tabId _ _), reduced]
  | stash _ _ holds =>
    refine labels holds ?_
    refine (map_read_of_keeps (fun tab => ?_) _).trans (reduced _ _)
    rw [hiddenAt, editedAt]
    split <;> rfl
  | alreadyShown _ _ holds => exact labels holds rfl
  | revive _ _ _ _ _ holds => exact labels holds ((arranged _ _).trans (shown _ _))
  | reviveAlone _ _ _ holds =>
    refine labels holds ((shown _ _).trans ?_)
    exact map_read_of_keeps (fun _ => rootedBy_read (fun _ _ => rfl) fun _ _ => rfl) _
  | setRects _ holds =>
    refine labels holds ?_
    exact map_read_of_dragged (writeDrag_dragged layout _) fun _ _ => rfl
  | swallow _ _ _ _ holds => exact labels holds (arranged _ _)
  | dissolve few => exact absurd several few
  | dock _ _ _ _ _ _ _ _ holds => exact labels holds ((arranged _ _).trans (shown _ _))

/-- Every operation leaves tabs with ids of their own. -/
theorem distinct_applied (distinct : DistinctTabs layout.tabs)
    (several : op.SwallowsAmongSeveral layout) (applied : Applied layout op out) :
    DistinctTabs out.tabs := by
  have ids : ∀ list : List TabRecord, list.map TabRecord.tabId = (list.map label).map Prod.fst := by
    intro list
    rw [map_map]
    rfl
  have labels := keepsLabels_applied several applied
  cases op with
  | split =>
    obtain ⟨_, isTab, _, same⟩ := labels
    cases applied with
    | split _ fresh =>
      rw [DistinctTabs, ids, (same.map _).nodup_iff, map_append, ← ids]
      exact nodup_append.mpr ⟨distinct, nodup_singleton _, by simpa [label, isTab] using fresh⟩
  | close =>
    rw [DistinctTabs, ids, (labels.map _).nodup_iff, ← ids]
    exact distinct.sublist (filter_sublist.map _)
  | stash tabId | revive tabId | setRects rects | swallow tabId direction
  | dock => rwa [DistinctTabs, ids, (labels.map _).nodup_iff, ← ids]

/-- A successful operation on a window whose live tabs carry rectangles and form one tree
leaves one tree, that needs no repair, exactly when it splits from a live tab, or closes or
stashes a live tab or one beside at most one live tab. Whatever it does, the tabs are the
same but for the one it names. -/
theorem paneOp_keeps_one_tree {op : PaneOp} (distinct : DistinctTabs layout.tabs)
    (placed : Placed layout.tabs) (tree : OneTree layout.tabs)
    (several : op.SwallowsAmongSeveral layout) (ok : op.apply layout = .ok out) :
    ((OneTree out.tabs ∧ liveTopologyNeedsRepair out = false) ↔ op.KeepsTree layout) ∧
      op.KeepsLabels layout out := by
  have readable : Readable layout := ⟨distinct, .inl placed⟩
  have applied := applied_of_ok readable ok
  have kept := oneTree_applied readable tree several applied
  have labels := keepsLabels_applied several applied
  refine ⟨⟨fun ⟨after, _⟩ => kept.mp after, fun condition => ?_⟩, labels⟩
  have after := kept.mpr condition
  exact ⟨after, after.needs_no_repair (distinct_applied distinct several applied)⟩

/-! ## Hidden tabs -/

/-- Two panes side by side and a hidden tab. -/
def hiddenThird : WindowLayout :=
  ⟨"w", [{ shellTab "a" 0 with paneRect := some ⟨0, 0, 500, 1000⟩ },
    { shellTab "b" 1 with
      splitFrom := some ⟨"a", .right, none⟩, paneRect := some ⟨500, 0, 500, 1000⟩ },
    { shellTab "c" 2 with stashedFrom := some ⟨"a", .down, none⟩, stashed := true }]⟩

theorem hiddenThird_readable : DistinctTabs hiddenThird.tabs ∧ Placed hiddenThird.tabs := by
  refine ⟨by decide, ?_⟩
  have all : ∀ tab ∈ liveOf hiddenThird.tabs, tab.paneRect.isSome := by decide
  exact all

theorem hiddenThird_oneTree : OneTree hiddenThird.tabs :=
  .inr ⟨"a", [("b", some ⟨"a", .right, none⟩)], .refl _, ⟨_, rfl, mem_singleton_self _⟩, trivial⟩

/-- Splitting from the hidden tab, closing it and stashing it again all succeed and leave live
tabs that need repair. -/
theorem hidden_tab_breaks_the_tree :
    (DistinctTabs hiddenThird.tabs ∧ Placed hiddenThird.tabs ∧ OneTree hiddenThird.tabs) ∧
      ∀ op ∈ [PaneOp.split "c" ⟨"d", "sd", "shell 4"⟩ .right, .close "c" [], .stash "c"],
        ∃ out, op.apply hiddenThird = .ok out ∧ liveTopologyNeedsRepair out = true := by
  refine ⟨⟨hiddenThird_readable.1, hiddenThird_readable.2, hiddenThird_oneTree⟩, ?_⟩
  intro op member
  have final : ∀ op ∈ [PaneOp.split "c" ⟨"d", "sd", "shell 4"⟩ .right, .close "c" [], .stash "c"],
      (op.apply hiddenThird).toOption.map liveTopologyNeedsRepair = some true := by decide +kernel
  obtain ⟨out, isOut, repair⟩ := Option.map_eq_some_iff.mp (final op member)
  exact ⟨out, toOption_eq_some isOut, repair⟩

/-- Docking the hidden tab keeps one tree of all three. -/
theorem paneOp_keeps_one_tree_of_dock : ∃ out,
    (PaneOp.dock "c" "b" .bottom).apply hiddenThird = .ok out ∧
    OneTree out.tabs ∧ liveTopologyNeedsRepair out = false := by
  have some_ : ((PaneOp.dock "c" "b" .bottom).apply hiddenThird).toOption.isSome := by decide +kernel
  obtain ⟨out, isOut⟩ := Option.isSome_iff_exists.mp some_
  have applied := toOption_eq_some isOut
  have several : (PaneOp.dock "c" "b" .bottom).SwallowsAmongSeveral hiddenThird := trivial
  have kept := paneOp_keeps_one_tree hiddenThird_readable.1 hiddenThird_readable.2
    hiddenThird_oneTree several applied
  exact ⟨out, applied, kept.1.mpr trivial⟩

end HydraTerm.Shell
