import HydraTerm.Shell.Names
import HydraTerm.Shell.PaneGeometry

/-!
# Operations on window layouts

The pane operations of the window layout service (`window_layout.rs`): splitting, closing,
stashing, reviving, swallowing and docking panes, and persisting a divider drag. Each
operation is a function from the stored layout to the layout it writes back, or to the
error that leaves the stored layout as it was; the service runs it in one transaction and
then renumbers the tabs in order.

The release of a closed tab's session is journaled in the same transaction. The sessions
for which no generation could be resolved there are an argument of the close; the journal
itself is not modelled here.
-/

namespace HydraTerm.Shell

open Lib
open Grid (SessionId)

/-- The debug form of an id in an error text; ids need no escapes. -/
def debugQuoted (text : String) : String := "\"" ++ text ++ "\""

/-! ## Reading the live panes -/

namespace WindowLayout

variable (layout : WindowLayout)

/-- The tabs that are not stashed, in stored order. -/
def liveTabs : List TabRecord := layout.tabs.filter fun tab => !tab.stashed

/-- The tabs sorted by their index. -/
def sortByIndex (tabs : List TabRecord) : List TabRecord :=
  tabs.insertionSort fun one other => one.index ≤ other.index

/-- The live tabs sorted by their index. -/
def liveTabsSorted : List TabRecord := sortByIndex layout.liveTabs

/-- The ids of the live tabs other than the revived one, by index. -/
def liveTabIdsForRevive (reviving : TabId) : List TabId :=
  (sortByIndex (layout.tabs.filter fun tab => !tab.stashed && tab.tabId ≠ reviving)).map
    TabRecord.tabId

/-- Renumber the tabs in order. -/
def renormalize : WindowLayout :=
  { layout with tabs := layout.tabs.mapIdx fun index tab => { tab with index } }

end WindowLayout

/-- Every canonical layout, in the order a set of rectangles is matched against them. -/
def allCanonicalLayouts : List CanonicalLayout :=
  [.oneFull, .twoColumns, .twoRows, .threeColumns, .threeRows, .threeLeftMain, .threeRightMain,
    .threeTopMain, .threeBottomMain, .fourGrid, .fourColumns, .fourRows, .fourLeftSplit,
    .fourTopSplit, .fourLeftMain, .fourRightMain, .fourTopMain, .fourBottomMain]

/-- Which edges of the window a rectangle is flush with. -/
def edgeSignature (rect : UnitRect) : Bool × Bool × Bool × Bool :=
  (nearlyEq rect.x 0, nearlyEq rect.y 0, nearlyEq rect.right 1, nearlyEq rect.bottom 1)

variable (live : List TabRecord)

/-- The canonical layout whose slots are flush with the same edges as the live panes. -/
def canonicalModelFromRects : Option PaneLayoutModel :=
  if live.length < 1 || 4 < live.length || live.any (·.paneRect.isNone) then none
  else
    let panes := readingOrder (live.filterMap fun tab =>
      tab.paneRect.map fun rect => ⟨tab.tabId, rect.toUnit⟩)
    let matching := allCanonicalLayouts.find? fun layout =>
      layout.paneCount = live.length &&
        (slotRects layout fun _ => none).map edgeSignature ==
          panes.map fun pane => edgeSignature pane.rect
    match matching with
    | some layout => (PaneLayoutModel.fromAgents (panes.map AgentRect.agent) (some layout)).toOption
    | none => none

/-- The axis along which one tab was split from another, if it was. -/
def splitAxisBetweenRecords (tabs : List TabRecord) (child parent : TabId) : Option SplitAxis :=
  match tabs.find? (·.tabId = child) with
  | some tab =>
    match tab.splitFrom with
    | some link => if link.tabId = parent then some link.axis else none
    | none => none
  | none => none

def edgeFromSplitAxis : SplitAxis → EdgeDir
  | .right => .right
  | .down => .bottom

/-- Grow a model by the tabs in turn, each split from its parent's slot. -/
def growFromTabs (model : PaneLayoutModel) : List TabRecord → Option PaneLayoutModel
  | [] => some model
  | tab :: rest =>
    match tab.splitFrom with
    | none => none
    | some link =>
      match model.slotOf link.tabId with
      | none => none
      | some slot =>
        match model.splitOrderedFromSlot slot (edgeFromSplitAxis link.axis) tab.tabId with
        | .ok (some grown) => growFromTabs grown rest
        | _ => none

/-- The four-pane layout a chain of splits denotes. -/
def fourPaneChain (a b c d : TabId) : Option CanonicalLayout :=
  let axis := splitAxisBetweenRecords live
  if axis b a = some .right && axis c b = some .right && axis d a = some .down then
    some .fourBottomMain
  else if axis b a = some .down && axis c b = some .right && axis d c = some .right then
    some .fourTopMain
  else if axis b a = some .right && axis c b = some .down && axis d c = some .down then
    some .fourLeftMain
  else if axis b a = some .right && axis c a = some .down && axis d c = some .down then
    some .fourRightMain
  else none

/-- The canonical model of the live tabs, from their rectangles or else from their split
links. -/
def canonicalModelFromLiveTabs : Option PaneLayoutModel :=
  if live.isEmpty || 4 < live.length then none
  else
    match canonicalModelFromRects live with
    | some model => some model
    | none =>
      let ids := live.map TabRecord.tabId
      let chain := match ids with
        | [a, b, c, d] => fourPaneChain live a b c d
        | _ => none
      match chain with
      | some layout => (PaneLayoutModel.fromAgents ids (some layout)).toOption
      | none =>
        match live.find? (·.splitFrom.isNone) with
        | none => none
        | some root =>
          if (live.filter (·.splitFrom.isNone)).length ≠ 1 then none
          else
            match PaneLayoutModel.fromAgents [root.tabId] none with
            | .error _ => none
            | .ok model => growFromTabs model (live.filter (·.tabId ≠ root.tabId))

variable (layout : WindowLayout) (panes : List AgentRect) (tabId : TabId) (existing : List TabId)
  (reviving : TabId)

/-- The live panes' rectangles: as persisted when every live pane has one, else
reconstructed from the split links. -/
def livePaneRects : Option (List AgentRect) :=
  let live := layout.liveTabsSorted
  if live.isEmpty then none
  else if live.all (·.paneRect.isSome) then
    some (live.filterMap fun tab => tab.paneRect.map fun rect => ⟨tab.tabId, rect.toUnit⟩)
  else
    match canonicalModelFromLiveTabs live with
    | none => none
    | some model =>
      some ((model.layout.slots.zip (slotRects model.layout model.ratios)).filterMap
        fun (slot, rect) => (model.agentAt slot).map fun agent => ⟨agent, rect⟩)

/-! ## Writing the geometry back -/

/-- Edit the first tab with the id. -/
def editTab (tabId : TabId) (edit : TabRecord → TabRecord) : List TabRecord → List TabRecord
  | [] => []
  | tab :: rest => if tab.tabId = tabId then edit tab :: rest else tab :: editTab tabId edit rest

/-- Take the first tab of each id out, in the order of the ids. -/
def pullTabs : List TabId → List TabRecord → List TabRecord × List TabRecord
  | [], tabs => ([], tabs)
  | tabId :: rest, tabs =>
    match tabs.find? (·.tabId = tabId) with
    | none => pullTabs rest tabs
    | some tab =>
      let (ordered, left) := pullTabs rest (tabs.eraseP (·.tabId = tabId))
      (tab :: ordered, left)

/-- Write split links, and put the linked tabs first, in the order of the links. -/
def applyReviveTopology (order : List (TabId × Option SplitFrom)) : WindowLayout :=
  let linked := order.foldl (fun tabs (tabId, splitFrom) =>
    editTab tabId (fun tab => { tab with splitFrom }) tabs) layout.tabs
  let (ordered, rest) := pullTabs (order.map Prod.fst) linked
  { layout with tabs := ordered ++ WindowLayout.sortByIndex rest }

/-- Write each pane's rectangle, rounded to per mille. -/
def writeRects (tabs : List TabRecord) : List TabRecord :=
  panes.foldl (fun tabs pane =>
    editTab pane.agent (fun tab => { tab with paneRect := some (.fromUnit pane.rect) }) tabs) tabs

/-- Write the panes' rectangles and the split links read off them. -/
def applyPaneGeometry : WindowLayout :=
  applyReviveTopology { layout with tabs := writeRects panes layout.tabs } (topologyFromRects panes)

/-- Write the geometry only if it tiles the window. The guard sees the rectangles before
they are rounded. -/
def applyPaneGeometryChecked : Except WindowLayoutError WindowLayout :=
  if rectsTileUnitSquare panes then .ok (applyPaneGeometry layout panes)
  else .error (.invalidTabOrder "proposed pane geometry does not tile the window (overlap/gap)")

/-- The survivors' rectangles once a live pane is removed. -/
def reducePaneRects (removing : TabId) : Option (List AgentRect) :=
  match livePaneRects layout with
  | none => none
  | some panes =>
    match panes.find? (·.agent = removing) with
    | none => none
    | some removed => some (reduceRectsBySpec (panes.eraseP (·.agent = removing)) removed.rect)

/-- Clear the rectangles of some tabs. -/
def clearRects (tabIds : List TabId) (tabs : List TabRecord) : List TabRecord :=
  tabIds.foldl (fun tabs tabId => editTab tabId (fun tab => { tab with paneRect := none }) tabs) tabs

/-- Write the survivors' geometry; without one, make every survivor a root without a
rectangle. -/
def applyReduce (removing : TabId) : WindowLayout :=
  match reducePaneRects layout removing with
  | some rects => applyPaneGeometry layout rects
  | none =>
    let survivors := (layout.liveTabsSorted.filter (·.tabId ≠ removing)).map TabRecord.tabId
    applyReviveTopology { layout with tabs := clearRects survivors layout.tabs }
      (survivors.map fun tabId => (tabId, none))

/-- The geometry of the live panes with one revived among them, or none when the live panes
cannot be read. -/
def revivePaneRects : Except WindowLayoutError (Option (List AgentRect)) :=
  match livePaneRects layout with
  | none => .ok none
  | some panes =>
    let kept := panes.filter fun pane => existing.contains pane.agent
    if kept.length ≠ existing.length then .ok none
    else
      match reviveRectsBySpec kept reviving with
      | some rects => .ok (some rects)
      | none => .error .panic

/-- The chain written when a revive has no geometry: every pane right of the first. -/
def flatChain : List (TabId × Option SplitFrom) :=
  match existing with
  | [] => [(reviving, none)]
  | first :: rest =>
    (first, none) :: (rest ++ [reviving]).map fun tabId =>
      (tabId, some (splitFromParent (first, .right)))

/-- Write the geometry of a revive, or a flat chain without rectangles. -/
def applyRevive :
    Except WindowLayoutError WindowLayout := do
  match ← revivePaneRects layout existing reviving with
  | some rects => return applyPaneGeometry layout rects
  | none =>
    let order := flatChain existing reviving
    return applyReviveTopology { layout with tabs := clearRects (order.map Prod.fst) layout.tabs } order

/-! ## The operations -/

/-- The position of the pane with the largest area; the last one on a tie. -/
def largestPane : Option Nat :=
  let area := fun pane : AgentRect => pane.rect.w * pane.rect.h
  (panes.zipIdx.foldl (fun best (pane, index) =>
    match best with
    | none => some (pane, index)
    | some (top, at_) => if area pane < area top then some (top, at_) else some (pane, index))
    none).map Prod.snd

/-- The pane a split divides: the requested one if it is live, else the largest. -/
def splitSource (fromTab : TabId) : Option Nat :=
  match panes.findIdx? (·.agent = fromTab) with
  | some index => some index
  | none => largestPane panes

/-- Divide the pane at a position, the new pane taking the half at the edge. -/
def dividePane (index : Nat) (edge : EdgeDir) (newcomer : TabId) : List AgentRect :=
  match panes[index]? with
  | none => panes
  | some pane =>
    let (kept, inserted) := splitRectLocal pane.rect edge
    panes.set index { pane with rect := kept } ++ [⟨newcomer, inserted⟩]

/-- The live panes, each at its persisted rectangle or else over the whole window. -/
def livePanes : List AgentRect :=
  layout.liveTabs.map fun tab =>
    ⟨tab.tabId, match tab.paneRect with
      | some rect => rect.toUnit
      | none => .full⟩

/-- The panes after a split. -/
def splitPanes (fromTab tabId : TabId) (edge : EdgeDir) : List AgentRect :=
  match splitSource panes fromTab with
  | some index => dividePane panes index edge tabId
  | none => panes ++ [⟨tabId, .full⟩]

/-- A tab to be added by a split. -/
structure NewTab where
  tabId : TabId
  sessionId : SessionId
  title : String
deriving DecidableEq

/-- The index a new tab gets before the tabs are renumbered. -/
def nextIndex (tabs : List TabRecord) : Nat :=
  match (tabs.map TabRecord.index).max? with
  | some most => most + 1
  | none => 0

/-- Add a tab split from another along an axis, halving a live pane for it. -/
def splitTab (fromTab : TabId) (added : NewTab) (axis : SplitAxis) :
    Except WindowLayoutError WindowLayout :=
  if !layout.tabs.any (·.tabId = fromTab) then .error (.tabNotFound layout.windowId fromTab)
  else if layout.tabs.any (·.tabId = added.tabId) then
    .error (.tabAlreadyExists layout.windowId added.tabId)
  else
    match uniqueName added.title (layout.tabs.map TabRecord.title) with
    | none => .error .panic
    | some title =>
      let tab : TabRecord :=
        { tabId := added.tabId, sessionId := added.sessionId, index := nextIndex layout.tabs, title,
          pinned := false, attention := .default, splitFrom := some ⟨fromTab, axis, none⟩,
          paneRect := none, stashedFrom := none, stashed := false }
      let panes := splitPanes (livePanes layout) fromTab added.tabId (edgeFromSplitAxis axis)
      .ok { layout with tabs := writeRects panes (layout.tabs ++ [tab]) }.renormalize

/-- Remove a pane's tab. The close is refused when its session's release cannot be
journaled. -/
def closePane (unresolved : List SessionId) : Except WindowLayoutError WindowLayout :=
  if !layout.tabs.any (·.tabId = tabId) then .error (.tabNotFound layout.windowId tabId)
  else
    let reduced := applyReduce layout tabId
    match unresolved with
    | [] => .ok { reduced with tabs := reduced.tabs.filter (·.tabId ≠ tabId) }.renormalize
    | session :: _ =>
      .error (.store ("tab close has no exact generation for session " ++ debugQuoted session))

/-- What a close that keeps the globally last visible window returns: the layout without the
tab, the tab, and the sessions left unresolved, or its refusal. -/
inductive GuardedWindowTabClose
  | closed (layout : WindowLayout) (removedTab : TabRecord) (unresolved : List SessionId)
  | globallyLastVisible
deriving DecidableEq

/-- Remove a pane's tab and report it, whether or not its session's release can be journaled.
The close that preserves the globally last visible window refuses to take the last live pane of
an ordinary project's window when no other such window is visible. -/
def closePaneWithRemoved (unresolved : List SessionId)
    (preserveGlobalLast wasVisibleOrdinary : Bool) (visibleWindows : Nat) :
    Except WindowLayoutError GuardedWindowTabClose :=
  match layout.tabs.find? (·.tabId = tabId) with
  | none => .error (.tabNotFound layout.windowId tabId)
  | some closing =>
    let reduced := applyReduce layout tabId
    let left : WindowLayout := { reduced with tabs := reduced.tabs.filter (·.tabId ≠ tabId) }
    if preserveGlobalLast && wasVisibleOrdinary && !closing.stashed && left.liveTabs.isEmpty &&
        visibleWindows ≤ 1 then
      .ok .globallyLastVisible
    else .ok (.closed left.renormalize closing unresolved)

/-- Hide a pane without closing its session. The only live pane cannot be stashed. -/
def stashPane : Except WindowLayoutError WindowLayout :=
  match layout.tabs.find? (·.tabId = tabId) with
  | none => .error (.tabNotFound layout.windowId tabId)
  | some closing =>
    if layout.liveTabs.length ≤ 1 && !closing.stashed then
      .error (.cannotStashLastPane layout.windowId tabId)
    else
      let reduced := applyReduce layout tabId
      .ok { reduced with
        tabs := editTab tabId (fun tab => { tab with
          stashed := true, stashedFrom := closing.splitFrom, splitFrom := none,
          paneRect := none }) reduced.tabs }.renormalize

/-- Bring a stashed pane back among the live ones, at most four of them. -/
def revivePane : Except WindowLayoutError WindowLayout :=
  match layout.tabs.find? (·.tabId = tabId) with
  | none => .error (.tabNotFound layout.windowId tabId)
  | some tab =>
    if !tab.stashed then .ok layout.renormalize
    else if 4 ≤ (layout.tabs.filter fun tab => !tab.stashed && tab.tabId ≠ tabId).length then
      .error (.invalidTabOrder ("cannot revive pane " ++ debugQuoted tabId ++
        "; four live panes are already active"))
    else
      match applyRevive layout (layout.liveTabIdsForRevive tabId) tabId with
      | .error refused => .error refused
      | .ok revived =>
        .ok { revived with
          tabs := editTab tabId (fun tab => { tab with stashed := false, stashedFrom := none })
            revived.tabs }.renormalize

/-- Edit the first live tab with the id. -/
def editLiveTab (tabId : TabId) (edit : TabRecord → TabRecord) : List TabRecord → List TabRecord
  | [] => []
  | tab :: rest =>
    if tab.tabId = tabId && !tab.stashed then edit tab :: rest
    else tab :: editLiveTab tabId edit rest

/-- The layout with a drag's rectangles written as they are. -/
def writeDrag (rects : List (TabId × PaneRect)) : WindowLayout :=
  { layout with tabs := rects.foldl (fun tabs (tabId, rect) =>
      editLiveTab tabId (fun tab => { tab with paneRect := some rect }) tabs) layout.tabs }

/-- Persist a settled divider drag, if the live panes still tile the window. -/
def setPaneRects (rects : List (TabId × PaneRect)) : Except WindowLayoutError WindowLayout :=
  let written := writeDrag layout rects
  match livePaneRects written with
  | none => .ok written.renormalize
  | some live =>
    if rectsTileUnitSquare live then .ok written.renormalize
    else .error (.invalidTabOrder "resize would make panes overlap or leave a gap")

/-- The debug form of an optional swallow direction. -/
def debugDirection : Option SwallowDir → String
  | none => "None"
  | some .left => "Some(Left)"
  | some .right => "Some(Right)"
  | some .up => "Some(Up)"
  | some .down => "Some(Down)"

/-- The directions a swallow tries. -/
def swallowCandidates : Option SwallowDir → List SwallowDir
  | some dir => [dir]
  | none => [.up, .down, .left, .right]

/-- Dissolve the divider of a two-pane split: its two panes become whole-window tabs. -/
def dissolveSplit : Except WindowLayoutError WindowLayout :=
  let isChild := fun tab : TabRecord => match tab.splitFrom with
    | some link => tab.tabId = tabId || link.tabId = tabId
    | none => false
  match layout.tabs.findIdx? isChild with
  | none => .error (.invalidTabOrder ("tab " ++ debugQuoted tabId ++
      " is not part of a split; nothing to swallow"))
  | some child =>
    let detached := layout.tabs.modify child fun tab => { tab with splitFrom := none }
    let widened := detached.map fun tab : TabRecord =>
      if tab.stashed then tab else { tab with paneRect := some ⟨0, 0, 1000, 1000⟩ }
    .ok { layout with tabs := widened }.renormalize

/-- Let a pane swallow the slice across one of its edges. With three or four live panes the
geometry decides; with two, the split dissolves. -/
def swallowSplitWithDirection
    (direction : Option SwallowDir) : Except WindowLayoutError WindowLayout :=
  if !layout.tabs.any (·.tabId = tabId) then .error (.tabNotFound layout.windowId tabId)
  else
    let live := layout.liveTabsSorted
    if live.any (·.tabId = tabId) && (live.length = 3 || live.length = 4) then
      match livePaneRects layout with
      | none => .error (.invalidTabOrder "live pane geometry unavailable for swallow")
      | some panes =>
        match (swallowCandidates direction).findSome? (swallowRectLocal panes tabId) with
        | none => .error (.invalidTabOrder ("tab " ++ debugQuoted tabId ++ " has no legal swallow " ++
            debugDirection direction))
        | some rects =>
          match applyPaneGeometryChecked layout rects with
          | .error refused => .error refused
          | .ok written => .ok written.renormalize
    else dissolveSplit layout tabId

/-- The panes a source docks among: the live ones, the source's own place filled first. -/
def dockTargets (source : TabId) : WindowLayout :=
  match layout.tabs.find? (·.tabId = source) with
  | some tab => if tab.stashed then layout else applyReduce layout source
  | none => layout

/-- Dock a pane against an edge of another: it takes the half of the target at that edge. -/
def dockTabAtEdge (source target : TabId) (edge : EdgeDir) :
    Except WindowLayoutError WindowLayout :=
  if source = target then
    .error (.invalidTabOrder ("cannot dock tab " ++ debugQuoted source ++ " beside itself"))
  else if !layout.tabs.any (·.tabId = source) then .error (.tabNotFound layout.windowId source)
  else if !layout.tabs.any (·.tabId = target) then .error (.tabNotFound layout.windowId target)
  else
    let projected := dockTargets layout source
    let live := projected.tabs.filter fun tab => !tab.stashed && tab.tabId ≠ source
    if live.isEmpty || 4 ≤ live.length then
      .error (.invalidTabOrder ("cannot dock tab " ++ debugQuoted source ++ ": live target set has " ++
        toString live.length ++ " panes"))
    else
      match livePaneRects projected with
      | none => .error (.invalidTabOrder "current live pane geometry is unavailable")
      | some panes =>
        let panes := panes.filter (·.agent ≠ source)
        match panes.findIdx? (·.agent = target) with
        | none => .error (.invalidTabOrder ("target tab " ++ debugQuoted target ++ " is not live"))
        | some index =>
          let placed := dividePane panes index edge source
          let unstashed := { layout with
            tabs := editTab source (fun tab => { tab with stashed := false, stashedFrom := none })
              layout.tabs }
          match applyPaneGeometryChecked unstashed placed with
          | .error refused => .error refused
          | .ok written => .ok written.renormalize

/-! ## The split tree of the live tabs -/

/-- Follow the split links of a live tab to a root; a link to itself, to a tab already seen
or to a tab that is not live needs repair. Each turn of the loop sees another live tab, so
as many turns as there are tabs, and one more, are never used up. -/
def chainNeedsRepair (tabs : List TabRecord) (liveIds : List TabId) :
    Nat → List TabId → TabRecord → Bool
  | 0, _, _ => true
  | turns + 1, seen, current =>
    match current.splitFrom with
    | none => false
    | some split =>
      if split.tabId = current.tabId || seen.contains current.tabId then true
      else if !liveIds.contains split.tabId then true
      else
        match tabs.find? fun candidate => candidate.tabId = split.tabId && !candidate.stashed with
        | none => true
        | some parent => chainNeedsRepair tabs liveIds turns (current.tabId :: seen) parent

/-- The live tabs do not form one tree of split links. -/
def liveTopologyNeedsRepair : Bool :=
  let liveIds := layout.liveTabs.map TabRecord.tabId
  if liveIds.length ≤ 1 then false
  else if (layout.tabs.filter fun tab => !tab.stashed && tab.splitFrom.isNone).length ≠ 1 then true
  else layout.liveTabs.any (chainNeedsRepair layout.tabs liveIds (layout.tabs.length + 1) [])

/-- Rewrite the links of live tabs that do not form one tree, as if the last of them were
revived among the others. -/
def repairLiveTopology : Except WindowLayoutError WindowLayout :=
  if !liveTopologyNeedsRepair layout then .ok layout
  else
    let liveIds := layout.liveTabs.map TabRecord.tabId
    if 4 < liveIds.length then
      .error (.invalidTabOrder ("cannot repair window " ++ debugQuoted layout.windowId ++ "; " ++
        toString liveIds.length ++ " live panes exceeds the 4-pane limit"))
    else
      match liveIds.getLast? with
      | none => .ok layout
      | some reviving => do
        let repaired ← applyRevive layout liveIds.dropLast reviving
        return repaired.renormalize

/-! ## Steps -/

/-- A pane operation with its arguments. -/
inductive PaneOp
  | split (fromTab : TabId) (added : NewTab) (axis : SplitAxis)
  | close (tabId : TabId) (unresolved : List SessionId)
  | stash (tabId : TabId)
  | revive (tabId : TabId)
  | setRects (rects : List (TabId × PaneRect))
  | swallow (tabId : TabId) (direction : Option SwallowDir)
  | dock (source target : TabId) (edge : EdgeDir)
deriving DecidableEq

/-- What an operation makes of a layout. -/
def PaneOp.apply : PaneOp → Except WindowLayoutError WindowLayout
  | .split fromTab added axis => splitTab layout fromTab added axis
  | .close tabId unresolved => closePane layout tabId unresolved
  | .stash tabId => stashPane layout tabId
  | .revive tabId => revivePane layout tabId
  | .setRects rects => setPaneRects layout rects
  | .swallow tabId direction => swallowSplitWithDirection layout tabId direction
  | .dock source target edge => dockTabAtEdge layout source target edge

end HydraTerm.Shell
