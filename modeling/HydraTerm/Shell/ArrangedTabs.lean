import HydraTerm.Shell.LivePanes

/-!
# Tabs arranged by panes

An operation edits the tabs one by one: it hides or shows one, makes some of them roots, or
arranges them, each with the rectangle of its pane and its link in the split tree of all
panes. `Arranged tabs panes` says what can be read off tabs that were arranged, whichever
operation did it.
-/

namespace HydraTerm.Shell

open Lib List

/-! ## Edits of single tabs -/

/-- Hide the tab with the id, remembering where it was split from. -/
def hiddenAt (tabId : TabId) (link : Option SplitFrom) : TabRecord → TabRecord :=
  editedAt tabId fun tab =>
    { tab with stashed := true, stashedFrom := link, splitFrom := none, paneRect := none }

/-- Show the tab with the id. -/
def shownAt (tabId : TabId) : TabRecord → TabRecord :=
  editedAt tabId fun tab => { tab with stashed := false, stashedFrom := none }

variable (link : Option SplitFrom)

/-- Hiding keeps the id. -/
@[simp]
theorem hiddenAt_tabId (tabId : TabId) (tab : TabRecord) :
    (hiddenAt tabId link tab).tabId = tab.tabId := by
  rw [hiddenAt, editedAt]
  split <;> rfl

/-- Showing keeps the id. -/
@[simp]
theorem shownAt_tabId (tabId : TabId) (tab : TabRecord) :
    (shownAt tabId tab).tabId = tab.tabId := by
  rw [shownAt, editedAt]
  split <;> rfl

/-- Make the listed tabs roots without rectangles. -/
def rootedBy (tabIds : List TabId) (tab : TabRecord) : TabRecord :=
  linkedBy (tabIds.map fun tabId => (tabId, none)) (clearedBy tabIds tab)

/-- The live tabs other than the removed one, by index. -/
def survivorIds (layout : WindowLayout) (removing : TabId) : List TabId :=
  (layout.liveTabsSorted.filter (·.tabId ≠ removing)).map TabRecord.tabId

/-- What a removal makes of the tabs: the survivors arranged over the freed place, or roots
without rectangles when there is no such arrangement. -/
def reducedBy (layout : WindowLayout) (removing : TabId) (tab : TabRecord) : TabRecord :=
  match reducePaneRects layout removing with
  | some rects => arrangedBy rects tab
  | none => rootedBy (survivorIds layout removing) tab

variable {removing : TabId} {layout : WindowLayout} (panes : List AgentRect)

/-- A removal whose place is filled. -/
theorem reducedBy_of_some {rects : List AgentRect}
    (reduces : reducePaneRects layout removing = some rects) :
    reducedBy layout removing = arrangedBy rects := by
  funext tab
  rw [reducedBy, reduces]

/-- One whose place cannot be filled. -/
theorem reducedBy_of_none (reduces : reducePaneRects layout removing = none) :
    reducedBy layout removing = rootedBy (survivorIds layout removing) := by
  funext tab
  rw [reducedBy, reduces]

section Keeps

variable {γ : Type} {read : TabRecord → γ} {tab : TabRecord}
  (rects : ∀ tab rect, read { tab with paneRect := rect } = read tab)
  (links : ∀ tab link, read { tab with splitFrom := link } = read tab)
include rects links

/-- What neither rectangles nor links change is kept by an arrangement. -/
theorem arrangedBy_read {panes : List AgentRect} : read (arrangedBy panes tab) = read tab :=
  (linkedBy_read links).trans (placedBy_read rects)

/-- So is it by making roots. -/
theorem rootedBy_read {tabIds : List TabId} : read (rootedBy tabIds tab) = read tab :=
  (linkedBy_read links).trans (writtenBy_read fun _ _ => rects _ _)

/-- So is it by a removal. -/
theorem reducedBy_read : read (reducedBy layout removing tab) = read tab := by
  rw [reducedBy]
  split
  · exact arrangedBy_read rects links
  · exact rootedBy_read rects links

end Keeps

@[simp]
theorem arrangedBy_tabId (tab : TabRecord) :
    (arrangedBy panes tab).tabId = tab.tabId := arrangedBy_read (fun _ _ => rfl) fun _ _ => rfl

@[simp]
theorem arrangedBy_stashed (tab : TabRecord) : (arrangedBy panes tab).stashed = tab.stashed :=
  @arrangedBy_read _ TabRecord.stashed _ (fun _ _ => rfl) (fun _ _ => rfl) _

@[simp]
theorem reducedBy_tabId (layout : WindowLayout) (removing : TabId) (tab : TabRecord) :
    (reducedBy layout removing tab).tabId = tab.tabId :=
  reducedBy_read (fun _ _ => rfl) fun _ _ => rfl

/-! ## Removing a live pane -/

variable {tab : TabRecord} {tabs : List TabRecord} {edit : TabRecord → TabRecord}

/-- A tab is live. -/
def IsLive (tabs : List TabRecord) (tabId : TabId) : Prop := ∃ tab ∈ liveOf tabs, tab.tabId = tabId
  deriving Decidable

/-- The live ids are those of the live tabs. -/
theorem isLive_iff {tabId : TabId} :
    IsLive tabs tabId ↔ tabId ∈ (liveOf tabs).map TabRecord.tabId := mem_map.symm

/-- A stashed tab is not live under its id. -/
theorem not_isLive_of_hidden (distinct : DistinctTabs tabs) (member : tab ∈ tabs)
    (hidden : tab.stashed = true) : ¬IsLive tabs tab.tabId := by
  rintro ⟨other, otherMember, same⟩
  obtain ⟨otherMember, shown⟩ := mem_liveOf.mp otherMember
  rw [distinct.eq_of_mem otherMember member same, hidden] at shown
  cases shown

/-- Taking a live pane out arranges the panes that are left. -/
theorem reducePaneRects_of_live (readable : Readable layout) (live : IsLive layout.tabs removing) :
    ∃ removed others, (removed :: others).Perm (livePanes layout) ∧ removed.agent = removing ∧
      reducePaneRects layout removing = some (reduceRectsBySpec others removed.rect) := by
  obtain ⟨tab, member, rfl⟩ := live
  obtain ⟨panes, reads, same⟩ := readable.reads (ne_nil_of_mem member)
  obtain ⟨_, distinct⟩ := readable.agents reads
  have listed : tab.pane ∈ panes := same.mem_iff.mpr (mem_map_of_mem member)
  have found : panes.find? (·.agent = tab.tabId) = some tab.pane :=
    find?_key_of_mem distinct listed rfl
  refine ⟨tab.pane, _, (cons_eraseP_perm found).trans same, rfl, ?_⟩
  simp [reducePaneRects, reads, found]

/-- A tab that is not live has no place to take out. -/
theorem reducePaneRects_of_not_live (readable : Readable layout)
    (notLive : ¬IsLive layout.tabs removing) : reducePaneRects layout removing = none := by
  rw [reducePaneRects]
  split
  · rfl
  next panes reads =>
    obtain ⟨same, _⟩ := readable.agents reads
    have absent : removing ∉ panes.map AgentRect.agent := by
      rw [(same.map _).mem_iff, livePanes_agents]
      exact isLive_iff.not.mp notLive
    rw [find?_key_of_not_mem absent]

/-- Each survivor is listed once. -/
theorem survivorIds_nodup (distinct : DistinctTabs layout.tabs) (removing : TabId) :
    (survivorIds layout removing).Nodup := by
  have sorted := ((liveTabsSorted_perm layout).map TabRecord.tabId).nodup_iff.mpr distinct.live
  exact sorted.sublist (filter_sublist.map _)

/-- A removal edits each tab, up to the order of the tabs. -/
theorem applyReduce_perm (readable : Readable layout) (removing : TabId) :
    (applyReduce layout removing).tabs.Perm (layout.tabs.map (reducedBy layout removing)) := by
  by_cases live : IsLive layout.tabs removing
  · obtain ⟨removed, others, same, _, reduces⟩ := reducePaneRects_of_live readable live
    have distinct : ((reduceRectsBySpec others removed.rect).map AgentRect.agent).Nodup := by
      rw [reduceRectsBySpec_agents]
      have all := (same.map AgentRect.agent).nodup_iff.mpr (livePanes_agents layout ▸ readable.distinct.live)
      exact (nodup_cons.mp all).2
    simp only [applyReduce, reduces, reducedBy_of_some reduces]
    exact applyPaneGeometry_perm readable.distinct distinct
  · have reduces := reducePaneRects_of_not_live readable live
    have survivors := survivorIds_nodup readable.distinct removing
    simp only [applyReduce, reduces, reducedBy_of_none reduces]
    rw [← survivorIds, clearRects_eq readable.distinct survivors]
    refine (applyReviveTopology_perm (readable.distinct.map (clearedBy_tabId _)) ?_).trans ?_
    · simpa [Function.comp_def] using survivors
    · rw [map_map]
      exact .refl _

/-! ## Stored panes -/

/-- A pane at its rectangle as it is stored. -/
def AgentRect.stored (pane : AgentRect) : AgentRect :=
  { pane with rect := (PaneRect.fromUnit pane.rect).toUnit }

/-- The tabs belong to the panes and carry their rectangles. -/
structure Shows (tabs : List TabRecord) (panes : List AgentRect) : Prop where
  listed : (panes.map AgentRect.agent).Perm (tabs.map TabRecord.tabId)
  rects : ∀ pane ∈ panes, ∀ tab ∈ tabs, tab.tabId = pane.agent →
    tab.paneRect = some (.fromUnit pane.rect)

namespace Shows

variable {panes}

/-- Tabs that carry the rectangles of some panes show these panes as stored. -/
theorem panes_perm (shows_ : Shows tabs panes) (distinct : DistinctTabs tabs) :
    (panes.map AgentRect.stored).Perm (tabs.map TabRecord.pane) := by
  refine map_perm_of_keys shows_.listed distinct fun pane paneMember tab tabMember same => ?_
  simp [AgentRect.stored, TabRecord.pane, shows_.rects pane paneMember tab tabMember same, same]

/-- A tab that is shown has a rectangle. -/
theorem isSome (shows_ : Shows tabs panes) (member : tab ∈ tabs) : tab.paneRect.isSome := by
  obtain ⟨pane, paneMember, same⟩ := mem_map.mp
    (shows_.listed.mem_iff.mpr (mem_map_of_mem member))
  rw [shows_.rects pane paneMember tab member same.symm]
  rfl

/-- An edit that gives each tab the rectangle of its pane makes the tabs show the panes. -/
theorem of_edit (distinct : DistinctTabs tabs)
    (listed : (panes.map AgentRect.agent).Perm (tabs.map TabRecord.tabId))
    (keeps : ∀ tab, (edit tab).tabId = tab.tabId)
    (places : ∀ tab, (edit tab).paneRect = (placedBy panes tab).paneRect) :
    Shows (tabs.map edit) panes := by
  have once := listed.nodup_iff.mpr distinct
  refine ⟨?_, ?_⟩
  · rw [map_read_of_keeps keeps]
    exact listed
  · intro pane paneMember tab tabMember same
    obtain ⟨before, _, rfl⟩ := mem_map.mp tabMember
    rw [places, placedBy, writtenBy_of_mem once paneMember (keeps before ▸ same.symm)]

end Shows

/-- The tabs carry the rectangles of the panes and the links read off them. -/
structure Arranged (tabs : List TabRecord) (panes : List AgentRect) : Prop extends Shows tabs panes where
  links : ∀ tab ∈ tabs, tab.link ∈ topologyFromRects panes

/-- Links do not move a pane. -/
theorem arrangedBy_rect (tab : TabRecord) :
    (arrangedBy panes tab).paneRect = (placedBy panes tab).paneRect := linkedBy_read fun _ _ => rfl

namespace Arranged

variable {panes}

/-- An edit that arranges each tab, up to what rectangles and links do not show. -/
theorem of_edit (distinct : DistinctTabs tabs)
    (listed : (panes.map AgentRect.agent).Perm (tabs.map TabRecord.tabId))
    (keeps : ∀ tab, (edit tab).tabId = tab.tabId)
    (places : ∀ tab, (edit tab).paneRect = (arrangedBy panes tab).paneRect)
    (links : ∀ tab, (edit tab).splitFrom = (arrangedBy panes tab).splitFrom) :
    Arranged (tabs.map edit) panes := by
  refine ⟨.of_edit distinct listed keeps fun tab => (places tab).trans (arrangedBy_rect panes tab), ?_⟩
  have order := topologyFromRects_once panes
  intro tab tabMember
  obtain ⟨before, member, rfl⟩ := mem_map.mp tabMember
  have inOrder : before.tabId ∈ (topologyFromRects panes).map Prod.fst :=
    (order.trans listed).mem_iff.mpr (mem_map_of_mem member)
  obtain ⟨⟨tabId, link⟩, linkMember, same⟩ := mem_map.mp inOrder
  obtain rfl : tabId = before.tabId := same
  have linked : (edit before).splitFrom = link := by
    rw [links, arrangedBy]
    refine linkedBy_link ((order.trans listed).nodup_iff.mpr distinct) ?_
    rw [placedBy_tabId]
    exact linkMember
  rw [TabRecord.link, keeps, linked]
  exact linkMember

/-- The links of arranged tabs are the split tree of the panes. -/
theorem links_perm (arranged : Arranged tabs panes) (distinct : DistinctTabs tabs) :
    (tabs.map TabRecord.link).Perm (topologyFromRects panes) := by
  have listed := (topologyFromRects_once panes).trans arranged.listed
  have once := listed.nodup_iff.mpr distinct
  rw [← map_id (topologyFromRects panes)]
  refine map_perm_of_keys listed.symm once fun tab member link linkMember same => ?_
  exact inj_on_of_nodup_map once (arranged.links tab member) linkMember same.symm

end Arranged

/-- An arrangement takes no tab's rectangle away. -/
theorem arrangedBy_isSome {panes : List AgentRect}
    (placed : tab.paneRect.isSome) : (arrangedBy panes tab).paneRect.isSome := by
  rw [arrangedBy_rect, placedBy, writtenBy]
  split
  · rfl
  · exact placed

/-- Survivors are distinct. -/
theorem DistinctTabs.survivors (distinct : DistinctTabs tabs)
    (tabId : TabId) : DistinctTabs ((liveOf tabs).filter (·.tabId ≠ tabId)) :=
  distinct.live.sublist (filter_sublist.map _)

section

variable {removed : AgentRect} {others : List AgentRect} (distinct : DistinctTabs layout.tabs)
  (live : (removed :: others).Perm (livePanes layout))
include distinct live

/-- The panes left by a removal belong to the other live tabs. -/
theorem survivors_listed :
    (others.map AgentRect.agent).Perm
        (((liveOf layout.tabs).filter (·.tabId ≠ removed.agent)).map TabRecord.tabId) ∧
      (others.map AgentRect.agent).Nodup := by
  have agents : (removed.agent :: others.map AgentRect.agent).Perm
      ((liveOf layout.tabs).map TabRecord.tabId) := livePanes_agents layout ▸ live.map AgentRect.agent
  obtain ⟨absent, once⟩ := nodup_cons.mp (agents.nodup_iff.mpr distinct.live)
  refine ⟨?_, once⟩
  have others_ : (others.map AgentRect.agent).filter (· ≠ removed.agent) =
      others.map AgentRect.agent := by
    refine filter_eq_self.mpr fun agent member => ?_
    exact decide_eq_true fun same => absent (same ▸ member)
  have filtered := agents.filter (· ≠ removed.agent)
  rw [filter_cons_of_neg (by simp), others_, filter_map] at filtered
  exact filtered

/-- The other live tabs, arranged over the freed place. -/
theorem arranged_of_reduced :
    Arranged (((liveOf layout.tabs).filter (·.tabId ≠ removed.agent)).map
      (arrangedBy (reduceRectsBySpec others removed.rect))) (reduceRectsBySpec others removed.rect) := by
  obtain ⟨listed, _⟩ := survivors_listed distinct live
  rw [← reduceRectsBySpec_agents others removed.rect] at listed
  exact .of_edit (distinct.survivors _) listed (arrangedBy_tabId _) (fun _ => rfl) fun _ => rfl

end

/-! ## The live tabs after an edit -/

variable {tabId : TabId}

/-- The survivors of edited tabs are the edited survivors. -/
theorem liveOf_filter_map (keepsId : ∀ tab, (edit tab).tabId = tab.tabId)
    (keepsStashed : ∀ tab, (edit tab).stashed = tab.stashed) :
    liveOf ((tabs.map edit).filter (·.tabId ≠ tabId)) =
      ((liveOf tabs).filter (·.tabId ≠ tabId)).map edit := by
  simp [liveOf, filter_map, filter_filter, Function.comp_def, keepsId, keepsStashed, Bool.and_comm]

/-- An edit of one tab leaves the other live tabs as they are. -/
theorem liveOf_editedAt_others (keeps : ∀ tab, (edit tab).tabId = tab.tabId) (tabs : List TabRecord)
    (tabId : TabId) : (liveOf (tabs.map (editedAt tabId edit))).filter (·.tabId ≠ tabId) =
      (liveOf tabs).filter (·.tabId ≠ tabId) := by
  induction tabs with
  | nil => rfl
  | cons tab _ ih =>
    simp only [liveOf, map_cons, filter_filter] at ih ⊢
    by_cases same : tab.tabId = tabId
    · have edited : (editedAt tabId edit tab).tabId = tabId :=
        (editedAt_read keeps tab).trans same
      rw [filter_cons_of_neg (by simp [edited]), filter_cons_of_neg (by simp [same]), ih]
    · rw [editedAt, if_neg same, filter_cons, filter_cons, ih]

/-- Hiding a tab leaves the other live tabs. -/
theorem liveOf_hidden (tabs : List TabRecord) (tabId : TabId) :
    liveOf (tabs.map (hiddenAt tabId link)) = (liveOf tabs).filter (·.tabId ≠ tabId) := by
  have others : (liveOf (tabs.map (hiddenAt tabId link))).filter (·.tabId ≠ tabId) =
      liveOf (tabs.map (hiddenAt tabId link)) := by
    refine filter_eq_self.mpr fun tab member => decide_eq_true fun same => ?_
    obtain ⟨member, shown⟩ := mem_liveOf.mp member
    obtain ⟨_, _, rfl⟩ := mem_map.mp member
    rw [hiddenAt_tabId] at same
    rw [hiddenAt, editedAt, if_pos same] at shown
    cases shown
  rw [← others, hiddenAt]
  exact liveOf_editedAt_others (by simp) _ _

/-- Showing a tab puts it among the other live tabs. -/
theorem liveOf_shown (distinct : DistinctTabs tabs) (member : tab ∈ tabs) :
    ((liveOf (tabs.map (shownAt tab.tabId))).map TabRecord.tabId).Perm
      (((liveOf tabs).filter (·.tabId ≠ tab.tabId)).map TabRecord.tabId ++ [tab.tabId]) := by
  have shown : shownAt tab.tabId tab ∈ liveOf (tabs.map (shownAt tab.tabId)) := by
    refine mem_liveOf.mpr ⟨mem_map_of_mem member, ?_⟩
    rw [shownAt, editedAt, if_pos rfl]
  have all := cons_filter_key_ne_perm (distinct.map (shownAt_tabId tab.tabId)).live shown
  have others : (liveOf (tabs.map (shownAt tab.tabId))).filter (·.tabId ≠ tab.tabId) =
      (liveOf tabs).filter (·.tabId ≠ tab.tabId) :=
    liveOf_editedAt_others (by simp) _ _
  rw [shownAt_tabId, others] at all
  have ids := all.map TabRecord.tabId
  rw [map_cons, shownAt_tabId] at ids
  exact ids.symm.trans (perm_append_singleton _ _).symm

/-- Showing a tab and arranging it can be done in either order. -/
theorem shownAt_arrangedBy (tabId : TabId) (tab : TabRecord) :
    shownAt tabId (arrangedBy panes tab) = arrangedBy panes (shownAt tabId tab) := by
  rw [arrangedBy, linkedBy, writtenBy_comm (shownAt_tabId tabId), placedBy,
    writtenBy_comm (shownAt_tabId tabId)]
  · rfl
  -- A link or a rectangle is written alike before and after the tab is shown.
  all_goals
    intros
    simp only [shownAt, editedAt]
    split <;> rfl

/-- The live tabs once a tab is shown and all of them are arranged. -/
theorem arranged_of_shown {panes : List AgentRect} (distinct : DistinctTabs tabs)
    (member : tab ∈ tabs) (listed : (panes.map AgentRect.agent).Perm
      (((liveOf tabs).filter (·.tabId ≠ tab.tabId)).map TabRecord.tabId ++ [tab.tabId])) :
    Arranged (liveOf ((tabs.map (shownAt tab.tabId)).map (arrangedBy panes))) panes := by
  rw [liveOf_map _ (arrangedBy_stashed panes)]
  exact .of_edit (distinct.map (shownAt_tabId _)).live (listed.trans (liveOf_shown distinct member).symm)
    (arrangedBy_tabId _) (fun _ => rfl) fun _ => rfl

/-! ## Drags -/

/-- What a drag makes of a tab: it may get another rectangle. -/
inductive Dragged : TabRecord → TabRecord → Prop
  | kept (tab : TabRecord) : Dragged tab tab
  | placed (tab : TabRecord) (rect : PaneRect) : Dragged tab { tab with paneRect := some rect }

/-- One drag after another. -/
theorem Dragged.trans {one middle other : TabRecord} (first : Dragged one middle)
    (second : Dragged middle other) : Dragged one other := by
  cases second with
  | kept => exact first
  | placed rect =>
    cases first with
    | kept => exact .placed _ rect
    | placed => exact .placed one rect

/-- One rectangle of a drag. -/
theorem editLiveTab_dragged (tabId : TabId) (rect : PaneRect) (tabs : List TabRecord) :
    List.Forall₂ Dragged tabs
      (editLiveTab tabId (fun tab => { tab with paneRect := some rect }) tabs) := by
  induction tabs with
  | nil => exact .nil
  | cons tab _ ih =>
    rw [editLiveTab]
    split
    · exact .cons (.placed tab rect) (forall₂_same.mpr fun other _ => .kept other)
    · exact .cons (.kept tab) ih

/-- A drag gives some tabs other rectangles and changes nothing else. -/
theorem writeDrag_dragged (layout : WindowLayout) (rects : List (TabId × PaneRect)) :
    List.Forall₂ Dragged layout.tabs (writeDrag layout rects).tabs := by
  have fold : ∀ tabs : List TabRecord, List.Forall₂ Dragged layout.tabs tabs →
      List.Forall₂ Dragged layout.tabs (rects.foldl (fun tabs entry =>
        editLiveTab entry.1 (fun tab => { tab with paneRect := some entry.2 }) tabs) tabs) := by
    induction rects with
    | nil => exact fun _ related => related
    | cons entry _ ih =>
      intro tabs related
      refine ih _
        (forall₂_trans ?_ related (editLiveTab_dragged entry.1 entry.2 tabs))
      exact fun _ _ _ first second => first.trans second
  exact fold layout.tabs (forall₂_same.mpr fun tab _ => .kept tab)

section Dragged

variable {dragged : List TabRecord} (related : List.Forall₂ Dragged tabs dragged)

include related

section

variable {γ : Type} {read : TabRecord → γ}
  (keeps : ∀ tab rect, read { tab with paneRect := rect } = read tab)
include keeps

/-- What a drag keeps is read off the tabs as before. -/
theorem map_read_of_dragged : dragged.map read = tabs.map read := by
  have same : List.Forall₂ (fun one other => read one = read other) tabs dragged := by
    refine related.imp fun one other moved => ?_
    cases moved with
    | kept => rfl
    | placed => exact (keeps one _).symm
  exact (map_eq_of_forall₂ same).symm

/-- What a drag leaves of the live tabs. -/
theorem liveOf_read_of_dragged : (liveOf dragged).map read = (liveOf tabs).map read := by
  have reads : ∀ list : List TabRecord, (liveOf list).map read =
      ((list.map fun tab => (tab.stashed, read tab)).filter (! ·.1)).map Prod.snd := by
    intro list
    rw [filter_map, map_map]
    rfl
  rw [reads, reads, map_read_of_dragged related fun tab rect => by rw [keeps]]

end

/-- A drag hides and shows none. -/
theorem liveOf_length_of_dragged : (liveOf dragged).length = (liveOf tabs).length := by
  have ids := @liveOf_read_of_dragged _ _ related _ TabRecord.tabId fun _ _ => rfl
  simpa using congrArg List.length ids

/-- A live tab after a drag was live before it. -/
theorem live_before_drag (member : tab ∈ liveOf dragged) :
    ∃ before ∈ liveOf tabs, Dragged before tab := by
  obtain ⟨listed, shown⟩ := mem_liveOf.mp member
  obtain ⟨before, beforeMember, moved⟩ := exists_of_forall₂ related.flip listed
  refine ⟨before, mem_liveOf.mpr ⟨beforeMember, ?_⟩, moved⟩
  cases moved with
  | kept | placed => exact shown

/-- A drag keeps a layout readable. -/
theorem shown_of_dragged (shown : Placed tabs ∨ LoneRoot tabs) :
    Placed dragged ∨ LoneRoot dragged := by
  rcases shown with placed | ⟨tab, alone, bare, root, named⟩
  · refine .inl fun tab member => ?_
    obtain ⟨_, beforeMember, moved⟩ := live_before_drag related member
    cases moved with
    | kept => exact placed _ beforeMember
    | placed => rfl
  · have one : (liveOf dragged).length = 1 := by
      rw [liveOf_length_of_dragged related, alone]
      rfl
    obtain ⟨after, isAfter⟩ := length_eq_one_iff.mp one
    have afterMember : after ∈ liveOf dragged := isAfter ▸ mem_cons_self
    obtain ⟨_, beforeMember, moved⟩ := live_before_drag related afterMember
    rw [alone, mem_singleton] at beforeMember
    subst beforeMember
    cases moved with
    | kept => exact .inr ⟨_, isAfter, bare, root, named⟩
    | placed =>
      refine .inl fun tab member => ?_
      rw [isAfter, mem_singleton] at member
      rw [member]
      rfl

end Dragged

end HydraTerm.Shell
