import HydraTerm.Shell.LayoutWrites
import HydraTerm.Shell.Swallow

/-!
# Which panes an operation works on

A layout is read pane by pane before it is rewritten. When every live tab carries a
rectangle, or the only live tab is a root without one, the reading lists each live tab once,
at the rectangle it is shown at. Every rearrangement of the panes then keeps the list of
their tabs, apart from the one that is taken out or put in.
-/

namespace HydraTerm.Shell

open Lib List

/-! ## Layouts that can be read -/

/-- Every live tab carries a rectangle. -/
def Placed (tabs : List TabRecord) : Prop := ∀ tab ∈ liveOf tabs, tab.paneRect.isSome

/-- The only live tab is a root without a rectangle. -/
def LoneRoot (tabs : List TabRecord) : Prop :=
  ∃ tab, liveOf tabs = [tab] ∧ tab.paneRect = none ∧ tab.splitFrom = none ∧ tab.tabId ≠ ""

/-- The tabs have ids of their own, and the live ones can be read as panes. -/
structure Readable (layout : WindowLayout) : Prop where
  distinct : DistinctTabs layout.tabs
  shown : Placed layout.tabs ∨ LoneRoot layout.tabs

variable (layout : WindowLayout)

theorem livePanes_eq :
    livePanes layout = (liveOf layout.tabs).map TabRecord.pane := rfl

theorem livePanes_agents :
    (livePanes layout).map AgentRect.agent = (liveOf layout.tabs).map TabRecord.tabId := by
  rw [livePanes_eq, map_map]
  rfl

theorem liveTabsSorted_perm :
    layout.liveTabsSorted.Perm (liveOf layout.tabs) := perm_insertionSort _ _

variable {layout} {panes existing : List AgentRect} {rects : List AgentRect} {reviving : TabId}

theorem livePaneRects_of_placed (placed : Placed layout.tabs) (nonempty : liveOf layout.tabs ≠ []) :
    livePaneRects layout = some (layout.liveTabsSorted.map TabRecord.pane) := by
  have sorted := liveTabsSorted_perm layout
  have someSorted : layout.liveTabsSorted ≠ [] := fun empty =>
    nonempty (nil_perm.mp (empty ▸ sorted))
  have all : ∀ tab ∈ layout.liveTabsSorted, tab.paneRect.isSome := fun tab member =>
    placed tab (sorted.mem_iff.mp member)
  have panes : ∀ tabs : List TabRecord, (∀ tab ∈ tabs, tab.paneRect.isSome) →
      (tabs.filterMap fun tab => tab.paneRect.map fun rect => (⟨tab.tabId, rect.toUnit⟩ : AgentRect)) =
        tabs.map TabRecord.pane := by
    intro tabs all
    rw [← filterMap_eq_map]
    refine filterMap_congr fun tab member => ?_
    obtain ⟨_, isRect⟩ := Option.isSome_iff_exists.mp (all tab member)
    simp [TabRecord.pane, isRect]
  simp only [livePaneRects]
  rw [if_neg (by simpa using someSorted), if_pos (by simpa using all), panes _ all]

/-- The model of a single agent. -/
theorem fromAgents_single {agent : AgentId} (named : agent ≠ "") :
    PaneLayoutModel.fromAgents [agent] none =
      .ok ⟨.oneFull, Function.update (fun _ => none) .s0 (some agent), fun _ => none⟩ := by
  have assigned : PaneLayoutModel.assign (fun _ => none) [(.s0, agent)] =
      .ok (Function.update (fun _ => none) .s0 (some agent)) := by
    rw [PaneLayoutModel.assign, if_neg named, if_neg (by simp)]
    rfl
  change (PaneLayoutModel.assign (fun _ => none) [(.s0, agent)] >>= _) = _
  rw [assigned]
  rfl

theorem livePaneRects_of_loneRoot {tab : TabRecord}
    (alone : liveOf layout.tabs = [tab]) (bare : tab.paneRect = none) (root : tab.splitFrom = none)
    (named : tab.tabId ≠ "") : livePaneRects layout = some [tab.pane] := by
  have sorted : layout.liveTabsSorted = [tab] :=
    perm_singleton.mp ((liveTabsSorted_perm layout).trans (alone ▸ .refl _))
  have model : canonicalModelFromLiveTabs [tab] =
      some ⟨.oneFull, Function.update (fun _ => none) .s0 (some tab.tabId), fun _ => none⟩ := by
    simp [canonicalModelFromLiveTabs, canonicalModelFromRects, bare, root, fromAgents_single named,
      growFromTabs]
  simp only [livePaneRects, sorted, model]
  simp [bare, TabRecord.pane, CanonicalLayout.slots, CanonicalLayout.paneCount, SlotId.first,
    SlotId.all, slotRects,
    PaneLayoutModel.agentAt, UnitRect.full]

/-- A readable layout with a live tab is read as the panes it shows. -/
theorem Readable.reads (readable : Readable layout) (nonempty : liveOf layout.tabs ≠ []) :
    ∃ live, livePaneRects layout = some live ∧ live.Perm (livePanes layout) := by
  rcases readable.shown with placed | ⟨tab, alone, bare, root, named⟩
  · exact ⟨_, livePaneRects_of_placed placed nonempty, (liveTabsSorted_perm layout).map _⟩
  · refine ⟨_, livePaneRects_of_loneRoot alone bare root named, ?_⟩
    rw [livePanes_eq, alone]
    exact .refl _

theorem livePaneRects_of_empty (empty : liveOf layout.tabs = []) : livePaneRects layout = none := by
  have sorted : layout.liveTabsSorted = [] :=
    perm_nil.mp ((liveTabsSorted_perm layout).trans (empty ▸ .refl _))
  simp [livePaneRects, sorted]

/-- The panes a readable layout is read as have agents of their own. -/
theorem Readable.agents {live : List AgentRect} (readable : Readable layout)
    (reads : livePaneRects layout = some live) :
    live.Perm (livePanes layout) ∧ (live.map AgentRect.agent).Nodup := by
  have nonempty : liveOf layout.tabs ≠ [] := fun empty => by
    rw [livePaneRects_of_empty empty] at reads
    cases reads
  obtain ⟨same, isSame, perm⟩ := readable.reads nonempty
  obtain rfl : same = live := Option.some.inj (isSame.symm.trans reads)
  refine ⟨perm, (perm.map _).nodup_iff.mpr ?_⟩
  rw [livePanes_agents]
  exact readable.distinct.live

/-! ## The tabs of rearranged panes -/

theorem fillSide_agents {filled : List AgentRect} {removed : UnitRect} {side : Side}
    (fills : fillSide panes removed side = some filled) :
    filled.map AgentRect.agent = panes.map AgentRect.agent := by
  simp only [fillSide] at fills
  split at fills
  · cases fills
  · split at fills
    · cases fills
      rw [map_map]
      refine map_congr_left fun pane _ => ?_
      simp only [Function.comp_apply]
      split <;> rfl
    · cases fills

/-- The survivors of a removal are the panes that were left. -/
theorem reduceRectsBySpec_agents (panes : List AgentRect) (removed : UnitRect) :
    (reduceRectsBySpec panes removed).map AgentRect.agent = panes.map AgentRect.agent := by
  rw [reduceRectsBySpec]
  split
  · rw [map_map]
    rfl
  · split
    next _ fills =>
      obtain ⟨_, _, filledSide⟩ := exists_of_findSome?_eq_some fills
      exact fillSide_agents filledSide
    next =>
      split
      · rw [repackColumns, map_map]
        rfl
      · rw [repackRows, map_map]
        rfl

section

variable {index : Nat} {edge : EdgeDir} {newcomer : TabId} {pane : AgentRect}
  (isPane : panes[index]? = some pane)
include isPane

theorem dividePane_eq :
    dividePane panes index edge newcomer =
      panes.set index { pane with rect := (splitRectLocal pane.rect edge).1 } ++
        [⟨newcomer, (splitRectLocal pane.rect edge).2⟩] := by
  simp [dividePane, isPane]

/-- A divided pane stays, and the newcomer is added. -/
theorem dividePane_agents :
    (dividePane panes index edge newcomer).map AgentRect.agent =
      panes.map AgentRect.agent ++ [newcomer] := by
  obtain ⟨_, rfl⟩ := List.getElem?_eq_some_iff.mp isPane
  rw [dividePane_eq isPane, map_append, map_set]
  congr 1
  refine ext_getElem (by simp) fun other _ _ => ?_
  simp only [getElem_set, getElem_map]
  split
  next same => subst same; rfl
  next => rfl

end

/-- The largest of some panes is one of them. -/
theorem largestPane_spec (nonempty : panes ≠ []) :
    ∃ index pane, largestPane panes = some index ∧ panes[index]? = some pane := by
  -- A fold that keeps either the best so far or the next ends at one of what it has seen.
  have best : ∀ {keep : Option (AgentRect × Nat) → AgentRect × Nat → Option (AgentRect × Nat)},
      (∀ top next, keep (some top) next = some top ∨ keep (some top) next = some next) →
      ∀ pairs first, ∃ top ∈ first :: pairs, pairs.foldl keep (some first) = some top := by
    intro keep either pairs
    induction pairs with
    | nil => exact fun first => ⟨first, mem_cons_self, rfl⟩
    | cons next _ ih =>
      intro first
      rw [foldl_cons]
      rcases either first next with kept | kept <;> rw [kept]
      · obtain ⟨top, _, isTop⟩ := ih first
        exact ⟨top, by grind, isTop⟩
      · obtain ⟨top, member, isTop⟩ := ih next
        exact ⟨top, mem_cons_of_mem _ member, isTop⟩
  cases panes with
  | nil => exact absurd rfl nonempty
  | cons first rest =>
    rw [largestPane, zipIdx_cons, foldl_cons]
    refine (best ?_ (rest.zipIdx 1) (first, 0)).elim fun top found =>
      ⟨top.2, top.1, congrArg (Option.map Prod.snd) found.2, mem_zipIdx_iff_getElem?.mp found.1⟩
    exact fun _ _ => ite_eq_or_eq _ _ _

/-- A split of some panes divides one of them. -/
theorem splitSource_spec (fromTab : TabId) (nonempty : panes ≠ []) :
    ∃ index pane, splitSource panes fromTab = some index ∧ panes[index]? = some pane := by
  rw [splitSource]
  split
  next index found =>
    obtain ⟨bound, _⟩ := findIdx?_eq_some_iff_findIdx_eq.mp found
    exact ⟨index, _, rfl, getElem?_eq_getElem bound⟩
  next => exact largestPane_spec nonempty

theorem swallowRectLocal_agents {out : List AgentRect} {focus : AgentId} {dir : SwallowDir}
    (swallow : swallowRectLocal panes focus dir = some out) :
    out.map AgentRect.agent = panes.map AgentRect.agent := by
  obtain ⟨_, _, _, related⟩ := swallowed_of_some swallow
  refine (map_eq_of_forall₂ (related.imp fun pane result swallowed => ?_)).symm
  cases swallowed with
  | focus same => exact same
  | clipped | kept => rfl

/-! ## Reviving among the live panes -/

/-- A revive among these panes arranges thirds of the window: they are three columns or
three rows. -/
def InThirds (existing : List AgentRect) : Prop :=
  existing.length = 3 ∧ (existing.all fullHeight = true ∨ existing.all fullWidth = true)
  deriving Decidable

/-- The panes beside a main one, sorted. -/
def besideMain (existing : List AgentRect) (main : AgentRect) (order : AgentRect → AgentRect → Prop)
    [DecidableRel order] : List AgentRect :=
  (existing.filter (·.agent ≠ main.agent)).insertionSort order

/-- The order of the panes beside a main column, and beside a main row. -/
def byRow (a b : AgentRect) : Prop := a.rect.y ≤ b.rect.y
  deriving Decidable

def byColumn (a b : AgentRect) : Prop := a.rect.x ≤ b.rect.x
  deriving Decidable

instance : Std.Total byRow := ⟨fun a b => le_total a.rect.y b.rect.y⟩
instance : Std.Total byColumn := ⟨fun a b => le_total a.rect.x b.rect.x⟩
instance : IsTrans AgentRect byRow := ⟨fun a b c => le_trans (a := a.rect.y) (b := b.rect.y) (c := c.rect.y)⟩
instance : IsTrans AgentRect byColumn :=
  ⟨fun a b c => le_trans (a := a.rect.x) (b := b.rect.x) (c := c.rect.x)⟩

/-- Beside one of three panes there are two, in order. -/
theorem besideMain_pair {main : AgentRect}
    (order : AgentRect → AgentRect → Prop) [DecidableRel order] [Std.Total order]
    [IsTrans AgentRect order] (distinct : (existing.map AgentRect.agent).Nodup)
    (three : existing.length = 3) (member : main ∈ existing) :
    ∃ p q, besideMain existing main order = [p, q] ∧ existing.Perm [main, p, q] ∧ order p q := by
  have whole : (main :: besideMain existing main order).Perm existing :=
    ((perm_insertionSort order _).cons main).trans (cons_filter_key_ne_perm distinct member)
  have sorted : (besideMain existing main order).Pairwise order := pairwise_insertionSort _ _
  have count := whole.length_eq
  rw [three, length_cons] at count
  obtain ⟨p, q, isPair⟩ := length_eq_two.mp (Nat.succ.inj count)
  rw [isPair] at whole sorted
  exact ⟨p, q, isPair, whole.symm, (pairwise_cons.mp sorted).1 q (by simp)⟩

section

variable (existing) (first second last reviving : AgentId)

/-- What a revive among three panes does: it arranges thirds, or a grid around a main pane, or
it finds no pane that spans the window. -/
inductive AmongThree : Option (List AgentRect) → Prop
  | columns (columns : existing.all fullHeight = true) :
      AmongThree (some
        [⟨first, ⟨0, 0, third, 1 / 2⟩⟩, ⟨reviving, ⟨0, 1 / 2, third, 1 / 2⟩⟩,
          ⟨second, ⟨third, 0, third, 1⟩⟩, ⟨last, ⟨2 * third, 0, third, 1⟩⟩])
  | rows (rows : existing.all fullWidth = true) :
      AmongThree (some
        [⟨first, ⟨0, 0, 1 / 2, third⟩⟩, ⟨reviving, ⟨1 / 2, 0, 1 / 2, third⟩⟩,
          ⟨second, ⟨0, third, 1, third⟩⟩, ⟨last, ⟨0, 2 * third, 1, third⟩⟩])
  | column {main p q : AgentRect} (notThirds : ¬InThirds existing)
      (tall : existing.find? fullHeight = some main) (pair : besideMain existing main byRow = [p, q])
      (three : existing.Perm [main, p, q]) (sorted : byRow p q) :
      AmongThree (some
        (if main.rect.x < 1 / 2 then grid main.agent p.agent reviving q.agent
          else grid p.agent main.agent q.agent reviving))
  | row {main p q : AgentRect} (notThirds : ¬InThirds existing)
      (notTall : existing.find? fullHeight = none) (wide : existing.find? fullWidth = some main)
      (pair : besideMain existing main byColumn = [p, q]) (three : existing.Perm [main, p, q])
      (sorted : byColumn p q) :
      AmongThree (some
        (if main.rect.y < 1 / 2 then grid main.agent reviving p.agent q.agent
          else grid p.agent q.agent main.agent reviving))
  | stuck (notTall : existing.find? fullHeight = none) (notWide : existing.find? fullWidth = none) : AmongThree none

end

theorem reviveAmongThree_cases (first second last reviving : AgentId)
    (distinct : (existing.map AgentRect.agent).Nodup) (count : existing.length = 3) :
    AmongThree existing first second last reviving
      (reviveAmongThree existing first second last reviving) := by
  rw [reviveAmongThree]
  by_cases columns : existing.all fullHeight = true
  · rw [if_pos columns]
    exact .columns columns
  by_cases rows : existing.all fullWidth = true
  · rw [if_neg columns, if_pos rows]
    exact .rows rows
  rw [if_neg columns, if_neg rows]
  have notThirds : ¬InThirds existing := fun thirds => thirds.2.elim columns rows
  cases tall : existing.find? fullHeight with
  | some main =>
    obtain ⟨p, q, pair, perm, sorted⟩ := besideMain_pair byRow distinct count
      (mem_of_find?_eq_some tall)
    have isPair : (existing.filter (·.agent ≠ main.agent)).insertionSort
        (fun a b => a.rect.y ≤ b.rect.y) = [p, q] := pair
    simp only [isPair, ← apply_ite some]
    exact .column notThirds tall pair perm sorted
  | none =>
    cases wide : existing.find? fullWidth with
    | none => exact .stuck tall wide
    | some main =>
      obtain ⟨p, q, pair, perm, sorted⟩ := besideMain_pair byColumn distinct count
        (mem_of_find?_eq_some wide)
      have isPair : (existing.filter (·.agent ≠ main.agent)).insertionSort
          (fun a b => a.rect.x ≤ b.rect.x) = [p, q] := pair
      simp only [isPair, ← apply_ite some]
      exact .row notThirds tall wide pair perm sorted

/-- The arrangement a revive among three panes leaves: thirds when the three are columns or
rows, and a grid else. -/
theorem AmongThree.spec {a b c : AgentRect}
    (among : AmongThree existing a.agent b.agent c.agent reviving (some rects))
    (three : [a, b, c].Perm existing) :
    (rects.map AgentRect.agent).Perm (existing.map AgentRect.agent ++ [reviving]) ∧
      (¬InThirds existing → rects.map AgentRect.rect = gridRects) := by
  have thirds : (existing.map AgentRect.agent ++ [reviving]).Perm
      (a.agent :: reviving :: [b.agent, c.agent]) :=
    ((perm_append_singleton _ _).trans ((three.symm.map AgentRect.agent).cons reviving)).trans
      (List.Perm.swap _ _ _)
  have beside : ∀ {main p q : AgentRect}, existing.Perm [main, p, q] →
      (existing.map AgentRect.agent ++ [reviving]).Perm [main.agent, p.agent, q.agent, reviving] :=
    fun perm => (perm.map AgentRect.agent).append_right [reviving]
  cases among with
  | columns columns => exact ⟨thirds.symm, fun no => absurd ⟨three.length_eq.symm, .inl columns⟩ no⟩
  | rows rows => exact ⟨thirds.symm, fun no => absurd ⟨three.length_eq.symm, .inr rows⟩ no⟩
  | column _ _ _ perm =>
    split
    · exact ⟨List.Perm.trans (((List.Perm.swap _ _ _).cons _).cons _) (beside perm).symm, fun _ => rfl⟩
    · exact ⟨List.Perm.trans (List.Perm.swap _ _ _) (beside perm).symm, fun _ => rfl⟩
  | row _ _ _ _ perm =>
    split
    · refine ⟨List.Perm.trans ?_ (beside perm).symm, fun _ => rfl⟩
      exact ((List.Perm.swap _ _ _).trans ((List.Perm.swap _ _ _).cons _)).cons _
    · refine ⟨List.Perm.trans ?_ (beside perm).symm, fun _ => rfl⟩
      exact ((List.Perm.swap _ _ _).cons _).trans (List.Perm.swap _ _ _)

theorem InThirds.perm {others : List AgentRect} (thirds : InThirds existing)
    (same : existing.Perm others) : InThirds others := by
  obtain ⟨three, either⟩ := thirds
  simp only [all_eq_true] at either
  refine ⟨same.length_eq ▸ three, ?_⟩
  simp only [all_eq_true]
  exact either.imp (fun all pane member => all pane (same.mem_iff.mpr member))
    fun all pane member => all pane (same.mem_iff.mpr member)

/-- A revive adds its pane to the live ones, and arranges them exactly unless in thirds. -/
theorem reviveRectsBySpec_spec (distinct : (existing.map AgentRect.agent).Nodup)
    (few : existing.length ≤ 3) (revives : reviveRectsBySpec existing reviving = some rects) :
    (rects.map AgentRect.agent).Perm (existing.map AgentRect.agent ++ [reviving]) ∧
      (¬InThirds existing → Exact (rects.map AgentRect.rect)) := by
  have order : (readingOrder existing).Perm existing := perm_insertionSort _ _
  have agents : (existing.map AgentRect.agent ++ [reviving]).Perm
      ((readingOrder existing).map AgentRect.agent ++ [reviving]) :=
    (order.symm.map AgentRect.agent).append_right _
  rw [reviveRectsBySpec] at revives
  split at revives
  next empty =>
    cases revives
    rw [empty] at agents
    exact ⟨agents.symm, fun _ => exact_full⟩
  next _ one =>
    cases revives
    rw [one] at agents
    exact ⟨agents.symm, fun _ => exact_columns⟩
  next _ _ two =>
    rw [two] at agents
    split at revives <;> cases revives
    · exact ⟨((List.Perm.swap _ _ _).cons _).trans agents.symm, fun _ => exact_left_stack⟩
    · exact ⟨((List.Perm.swap _ _ _).cons _).trans agents.symm, fun _ => exact_top_pair⟩
  next a b c three =>
    rw [three] at order
    have among := reviveAmongThree_cases a.agent b.agent c.agent reviving distinct
      order.length_eq.symm
    obtain ⟨perm, gridded⟩ := AmongThree.spec (revives ▸ among) order
    refine ⟨perm, fun notThirds => ?_⟩
    rw [gridded notThirds]
    exact exact_grid
  next none_ one two three =>
    -- Up to three panes are listed by one of the cases above.
    exfalso
    rw [← order.length_eq] at few
    match sorted : readingOrder existing with
    | [] => exact none_ sorted
    | [a] => exact one a sorted
    | [a, b] => exact two a b sorted
    | [a, b, c] => exact three a b c sorted
    | a :: b :: c :: d :: rest =>
      rw [sorted] at few
      simp only [length_cons] at few
      omega

end HydraTerm.Shell
