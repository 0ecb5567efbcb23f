import HydraTerm.Lib.Keyed
import HydraTerm.Shell.Topology
import HydraTerm.Shell.WindowLayout

/-!
# What a layout write does to the tabs

The operations write rectangles and split links tab by tab, move the written tabs to the
front and renumber them all. When no two tabs share an id, such a write is one map over the
tabs, up to their order and numbering: `Holds layout tabs` says that a layout holds just
these tabs, and what a caller reads off the layout is read off the tabs.
-/

namespace HydraTerm.Shell

open Lib List

namespace TabRecord

variable (tab : TabRecord)

/-- A tab without its position. -/
def unindexed : TabRecord := { tab with index := 0 }

/-- The tab's pane: its rectangle, or the whole window. -/
def pane : AgentRect :=
  ⟨tab.tabId, match tab.paneRect with
    | some rect => rect.toUnit
    | none => .full⟩

/-- The tab with its split link. -/
def link : Link := (tab.tabId, tab.splitFrom)

/-- What identifies a tab to its user, and the session behind it. -/
def label : TabId × HydraTerm.Grid.SessionId × String × Bool × AttentionState :=
  (tab.tabId, tab.sessionId, tab.title, tab.pinned, tab.attention)

end TabRecord

/-- No two tabs share an id. -/
def DistinctTabs (tabs : List TabRecord) : Prop := (tabs.map TabRecord.tabId).Nodup
  deriving Decidable

/-- The tabs that are not stashed. -/
def liveOf (tabs : List TabRecord) : List TabRecord := tabs.filter fun tab => !tab.stashed

variable {tab : TabRecord} {edit : TabRecord → TabRecord} {panes : List AgentRect}
  {order : List Link} {tabs : List TabRecord} {γ : Type} {layout : WindowLayout} {tabId : TabId}
  {read : TabRecord → γ} (tabIds : List TabId)

section

theorem mem_liveOf : tab ∈ liveOf tabs ↔ tab ∈ tabs ∧ tab.stashed = false := by
  simp [liveOf]

theorem DistinctTabs.live (distinct : DistinctTabs tabs) : DistinctTabs (liveOf tabs) :=
  distinct.sublist (filter_sublist.map _)

theorem DistinctTabs.eq_of_mem {one other : TabRecord}
    (distinct : DistinctTabs tabs) (member : one ∈ tabs) (otherMember : other ∈ tabs)
    (same : one.tabId = other.tabId) : one = other :=
  inj_on_of_nodup_map distinct member otherMember same

/-- The first tab with the id of a listed tab is that tab. -/
theorem DistinctTabs.find (distinct : DistinctTabs tabs)
    (member : tab ∈ tabs) : tabs.find? (·.tabId = tab.tabId) = some tab :=
  find?_key_of_mem distinct member rfl

end

/-! ## Edits by id -/

/-- A tab edited if it has the id. -/
def editedAt (tabId : TabId) (edit : TabRecord → TabRecord) (tab : TabRecord) : TabRecord :=
  if tab.tabId = tabId then edit tab else tab

/-- What the edit does not change stays as it was. -/
theorem editedAt_read (keeps : ∀ tab, read (edit tab) = read tab) (tab : TabRecord) :
    read (editedAt tabId edit tab) = read tab := by
  rw [editedAt]
  split
  · exact keeps tab
  · rfl

/-- Without two tabs of one id, editing the first tab of an id edits each tab of that id. -/
theorem editTab_eq_map
    (distinct : DistinctTabs tabs) : editTab tabId edit tabs = tabs.map (editedAt tabId edit) := by
  induction tabs with
  | nil => rfl
  | cons _ rest ih =>
    obtain ⟨absent, restDistinct⟩ := nodup_cons.mp distinct
    rw [editTab, map_cons, editedAt]
    split
    next same =>
      have untouched : rest.map (editedAt tabId edit) = rest := by
        refine (map_congr_left fun other member => ?_).trans (map_id rest)
        refine if_neg fun otherSame => absent ?_
        rw [same, ← otherSame]
        exact mem_map_of_mem member
      rw [untouched]
    next => rw [ih restDistinct]

/-- What every edit keeps is read off the edited tabs as before. -/
theorem map_read_of_keeps (keeps : ∀ tab, read (edit tab) = read tab) (tabs : List TabRecord) :
    (tabs.map edit).map read = tabs.map read := by
  rw [map_map]
  exact map_congr_left fun tab _ => keeps tab

/-- An edit that keeps the ids keeps which tabs are left without one id. -/
theorem filter_map_of_keeps (keeps : ∀ tab, (edit tab).tabId = tab.tabId)
    (tabs : List TabRecord) (tabId : TabId) :
    (tabs.map edit).filter (·.tabId ≠ tabId) = (tabs.filter (·.tabId ≠ tabId)).map edit := by
  rw [filter_map]
  simp [Function.comp_def, keeps]

/-- A map that keeps the ids keeps them distinct. -/
theorem DistinctTabs.map (distinct : DistinctTabs tabs)
    (keeps : ∀ tab, (edit tab).tabId = tab.tabId) : DistinctTabs (tabs.map edit) := by
  rw [DistinctTabs, map_read_of_keeps keeps]
  exact distinct

section Folds

variable {δ : Type} (key : δ → TabId) (write : δ → TabRecord → TabRecord)

/-- A tab with the entry of its id written into it, if there is one. -/
def writtenBy (entries : List δ) (tab : TabRecord) : TabRecord :=
  match entries.find? (key · = tab.tabId) with
  | some entry => write entry tab
  | none => tab

variable {key write} {entries : List δ}

theorem writtenBy_of_mem {entry : δ} (distinct : (entries.map key).Nodup) (member : entry ∈ entries)
    (same : key entry = tab.tabId) : writtenBy key write entries tab = write entry tab := by
  rw [writtenBy, find?_key_of_mem distinct member same]

theorem writtenBy_of_not_mem (absent : tab.tabId ∉ entries.map key) :
    writtenBy key write entries tab = tab := by
  rw [writtenBy, find?_key_of_not_mem absent]

/-- Writing entries for distinct ids in turn is one map over the tabs. -/
theorem foldl_editTab (keeps : ∀ entry tab, (write entry tab).tabId = tab.tabId)
    (distinct : DistinctTabs tabs) (entriesDistinct : (entries.map key).Nodup) :
    entries.foldl (fun tabs entry => editTab (key entry) (write entry) tabs) tabs =
      tabs.map (writtenBy key write entries) := by
  induction entries generalizing tabs with
  | nil => exact (map_id tabs).symm
  | cons entry _ ih =>
    obtain ⟨_, restDistinct⟩ := nodup_cons.mp entriesDistinct
    have keepsEdited : ∀ tab, (editedAt (key entry) (write entry) tab).tabId = tab.tabId :=
      fun tab => editedAt_read (keeps entry) tab
    rw [foldl_cons, editTab_eq_map distinct, ih (distinct.map keepsEdited) restDistinct, map_map]
    refine map_congr_left fun tab _ => ?_
    rw [Function.comp_apply, editedAt]
    split
    next same =>
      rw [writtenBy_of_mem entriesDistinct mem_cons_self same.symm]
      refine writtenBy_of_not_mem ?_
      rwa [keeps, same]
    next other =>
      rw [writtenBy, writtenBy, find?_cons_of_neg (by simpa [eq_comm] using other)]

/-- What no entry changes stays as it was. -/
theorem writtenBy_read (keeps : ∀ entry tab, read (write entry tab) = read tab) :
    read (writtenBy key write entries tab) = read tab := by
  rw [writtenBy]
  split
  · exact keeps _ _
  · rfl

/-- An edit that commutes with each write commutes with all of them. -/
theorem writtenBy_comm {edit : TabRecord → TabRecord} (keeps : ∀ tab, (edit tab).tabId = tab.tabId)
    (comm : ∀ entry tab, edit (write entry tab) = write entry (edit tab)) (tab : TabRecord) :
    edit (writtenBy key write entries tab) = writtenBy key write entries (edit tab) := by
  rw [writtenBy, writtenBy, keeps]
  split
  · exact comm _ _
  · rfl

end Folds

/-! ## Writing rectangles and links -/

/-- A tab with its pane's rectangle, rounded to per mille. -/
def placedBy (panes : List AgentRect) : TabRecord → TabRecord :=
  writtenBy AgentRect.agent
    (fun pane tab => { tab with paneRect := some (.fromUnit pane.rect) }) panes

/-- A tab with its listed split link. -/
def linkedBy (order : List Link) : TabRecord → TabRecord :=
  writtenBy Prod.fst (fun link tab => { tab with splitFrom := link.2 }) order

/-- A tab without its rectangle, if it is listed. -/
def clearedBy (tabIds : List TabId) : TabRecord → TabRecord :=
  writtenBy id (fun _ tab => { tab with paneRect := none }) tabIds

theorem writeRects_eq (distinct : DistinctTabs tabs)
    (panesDistinct : (panes.map AgentRect.agent).Nodup) :
    writeRects panes tabs = tabs.map (placedBy panes) :=
  foldl_editTab (fun _ _ => rfl) distinct panesDistinct

theorem clearRects_eq {tabIds : List TabId} (distinct : DistinctTabs tabs)
    (idsDistinct : tabIds.Nodup) : clearRects tabIds tabs = tabs.map (clearedBy tabIds) :=
  foldl_editTab (fun _ _ => rfl) distinct (by simpa using idsDistinct)

@[simp]
theorem placedBy_tabId (panes : List AgentRect) (tab : TabRecord) :
    (placedBy panes tab).tabId = tab.tabId := writtenBy_read fun _ _ => rfl

@[simp]
theorem clearedBy_tabId (tab : TabRecord) :
    (clearedBy tabIds tab).tabId = tab.tabId := writtenBy_read fun _ _ => rfl

theorem pullTabs_perm (tabs : List TabRecord) :
    ((pullTabs tabIds tabs).1 ++ (pullTabs tabIds tabs).2).Perm tabs := by
  induction tabIds generalizing tabs with
  | nil => exact .refl _
  | cons _ _ ih =>
    rw [pullTabs]
    split
    · exact ih tabs
    next tab found =>
      exact ((ih _).cons tab).trans (cons_eraseP_perm found)

section

variable (distinct : DistinctTabs layout.tabs) (orderDistinct : (order.map Prod.fst).Nodup)
include distinct orderDistinct

theorem applyReviveTopology_tabs :
    (applyReviveTopology layout order).tabs =
      (pullTabs (order.map Prod.fst) (layout.tabs.map (linkedBy order))).1 ++
        WindowLayout.sortByIndex (pullTabs (order.map Prod.fst) (layout.tabs.map (linkedBy order))).2 := by
  have linked : order.foldl (fun tabs (link : Link) =>
      editTab link.1 (fun tab => { tab with splitFrom := link.2 }) tabs) layout.tabs =
        layout.tabs.map (linkedBy order) := foldl_editTab (fun _ _ => rfl) distinct orderDistinct
  simp [applyReviveTopology, linked]

theorem applyReviveTopology_perm :
    (applyReviveTopology layout order).tabs.Perm (layout.tabs.map (linkedBy order)) := by
  rw [applyReviveTopology_tabs distinct orderDistinct]
  exact ((List.Perm.refl _).append (perm_insertionSort _ _)).trans (pullTabs_perm _ _)

end

/-- What neither a rectangle nor a link changes is read off a tab as before. -/
theorem placedBy_read (keeps : ∀ tab rect, read { tab with paneRect := rect } = read tab) :
    read (placedBy panes tab) = read tab := writtenBy_read fun _ _ => keeps _ _

theorem linkedBy_read (keeps : ∀ tab link, read { tab with splitFrom := link } = read tab) :
    read (linkedBy order tab) = read tab := writtenBy_read fun _ _ => keeps _ _

theorem linkedBy_link {link : Option SplitFrom} (distinct : (order.map Prod.fst).Nodup)
    (member : (tab.tabId, link) ∈ order) : (linkedBy order tab).splitFrom = link := by
  rw [linkedBy, writtenBy_of_mem distinct member rfl]

/-- A tab with the rectangle of its pane and the link read off all of them. -/
def arrangedBy (panes : List AgentRect) (tab : TabRecord) : TabRecord :=
  linkedBy (topologyFromRects panes) (placedBy panes tab)

theorem applyPaneGeometry_perm
    (distinct : DistinctTabs layout.tabs) (panesDistinct : (panes.map AgentRect.agent).Nodup) :
    (applyPaneGeometry layout panes).tabs.Perm (layout.tabs.map (arrangedBy panes)) := by
  have order := (topologyFromRects_once panes).nodup_iff.mpr panesDistinct
  rw [applyPaneGeometry, writeRects_eq distinct panesDistinct]
  refine (applyReviveTopology_perm (distinct.map (placedBy_tabId panes)) order).trans ?_
  rw [map_map]
  exact .refl _

/-! ## Reading a layout -/

/-- The layout holds these tabs, in some order and numbering. -/
def Holds (layout : WindowLayout) (tabs : List TabRecord) : Prop :=
  (layout.tabs.map TabRecord.unindexed).Perm (tabs.map TabRecord.unindexed)

theorem holds_renormalize (same : layout.tabs.Perm tabs) : Holds layout.renormalize tabs := by
  have numbered : layout.renormalize.tabs.map TabRecord.unindexed =
      layout.tabs.map TabRecord.unindexed := by
    refine ext_getElem (by simp [WindowLayout.renormalize]) fun index _ _ => ?_
    simp [WindowLayout.renormalize, TabRecord.unindexed]
  rw [Holds, numbered]
  exact same.map _

theorem liveOf_map (tabs : List TabRecord) (keeps : ∀ tab, (edit tab).stashed = tab.stashed) :
    liveOf (tabs.map edit) = (liveOf tabs).map edit := by
  simp [liveOf, filter_map, Function.comp_def, keeps]

namespace Holds

/-- What is read off every tab, regardless of its position. -/
theorem reads (holds : Holds layout tabs) (free : ∀ tab, read tab.unindexed = read tab) :
    (layout.tabs.map read).Perm (tabs.map read) := by
  rw [← map_read_of_keeps free layout.tabs, ← map_read_of_keeps free tabs]
  exact holds.map read

/-- What is read off the live tabs, regardless of their positions. -/
theorem readsLive (holds : Holds layout tabs) (free : ∀ tab, read tab.unindexed = read tab) :
    (layout.liveTabs.map read).Perm ((liveOf tabs).map read) := by
  have liveUnindexed : ∀ list, liveOf (list.map TabRecord.unindexed) =
      (liveOf list).map TabRecord.unindexed := fun list => liveOf_map list fun _ => rfl
  have live : (liveOf (layout.tabs.map TabRecord.unindexed)).Perm
      (liveOf (tabs.map TabRecord.unindexed)) := holds.filter _
  rw [liveUnindexed, liveUnindexed] at live
  have read_ := live.map read
  rw [map_read_of_keeps free, map_read_of_keeps free] at read_
  exact read_

theorem distinct (holds : Holds layout tabs) (distinct : DistinctTabs tabs) :
    DistinctTabs layout.tabs :=
  (holds.reads fun _ => rfl).nodup_iff.mpr distinct

end Holds

end HydraTerm.Shell
