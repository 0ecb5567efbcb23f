import HydraTerm.Shell.PaneModelLaws
import HydraTerm.Shell.WindowLayout

/-!
# Splitting one pane of a canonical layout

A split at an edge of one pane rearranges the agents in a way that depends on the layout, the
slot and the edge only. `splitPlan` gives it by positions, with the newcomer at the position
after the last, so what a split promises is a finite table: no other agents change their
order, and the newcomer's slot borders the source's slot. The border is the one that was asked
for, except that a pane of the side band of a three-pane main layout can only be split along
its band: the registry has no layout that divides it across.

`canonical_models_stay_valid` collects what every transition does to a valid model.
-/

namespace HydraTerm.Shell

open Lib List

namespace PaneLayoutModel

variable {model out : PaneLayoutModel} {agents : List AgentId}

/-! ## Splitting one pane -/

/-- The layout a split of one pane grows, with the agents of its slots by their positions: the
old agents keep the positions they had, and the newcomer's is the one after the last. -/
def splitPlan (layout : CanonicalLayout) (fromSlot : SlotId) (edge : EdgeDir) :
    Option (CanonicalLayout × List Nat) :=
  let h := edge.isHorizontal
  let newcomer := layout.paneCount
  let source := fromSlot.index
  let p0 := if edge.isAfter then source else newcomer
  let p1 := if edge.isAfter then newcomer else source
  let nearSource := (List.range newcomer).insertIdx (source + if edge.isAfter then 1 else 0) newcomer
  let other := if source = 0 then 1 else 0
  match layout, fromSlot, h with
  | .oneFull, _, _ => some (if h then .twoColumns else .twoRows, nearSource)
  | .twoColumns, _, true => some (.threeColumns, nearSource)
  | .twoRows, _, false => some (.threeRows, nearSource)
  | .twoColumns, .s0, _ => some (.threeRightMain, [p0, other, p1])
  | .twoColumns, _, _ => some (.threeLeftMain, [other, p0, p1])
  | .twoRows, .s0, _ => some (.threeBottomMain, [p0, p1, other])
  | .twoRows, _, _ => some (.threeTopMain, [other, p0, p1])
  | .threeRightMain, .s1, false => some (.fourGrid, [0, p0, 2, p1])
  | .threeLeftMain, .s0, false => some (.fourGrid, [p0, 1, p1, 2])
  | .threeBottomMain, .s2, true => some (.fourGrid, [0, 1, p0, p1])
  | .threeBottomMain, .s2, false => some (.fourTopSplit, [0, 1, p0, p1])
  | .threeRightMain, .s1, true => some (.fourLeftSplit, [0, p0, p1, 2])
  | .threeTopMain, .s0, true => some (.fourGrid, [p0, p1, 1, 2])
  | .threeBottomMain, .s0, _ | .threeBottomMain, .s1, _ => some (.fourBottomMain, nearSource)
  | .threeTopMain, .s1, _ | .threeTopMain, .s2, _ => some (.fourTopMain, nearSource)
  | .threeLeftMain, .s1, _ | .threeLeftMain, .s2, _ => some (.fourLeftMain, nearSource)
  | .threeRightMain, .s0, _ => some (.fourRightMain, [p0, 1, p1, 2])
  | .threeRightMain, .s2, _ => some (.fourRightMain, [0, 1, p0, p1])
  | .threeColumns, _, _ | .threeRows, _, _ | .threeLeftMain, _, _ | .threeRightMain, _, _
  | .threeTopMain, _, _ | .threeBottomMain, _, _ =>
    some (if h then .fourColumns else .fourRows, nearSource)
  | _, _, _ => none

/-- The agents a plan's positions stand for. -/
def planned (agents : List AgentId) (newAgent : AgentId) (order : List Nat) : List AgentId :=
  order.map fun position => (agents ++ [newAgent]).getD position ""

variable {fromSlot : SlotId} {edge : EdgeDir} {newAgent : AgentId}

/-- A split of one pane by an agent that may join follows the plan. -/
theorem splitOrdered_eq {layout : CanonicalLayout} {ratios : Ratios}
    (count : agents.length = layout.paneCount)
    (inside : fromSlot.index < agents.length) (named : newAgent ≠ "")
    (fresh : ¬(SlotId.all.any fun used => seat agents used == some newAgent) = true) :
    splitOrderedFromSlot ⟨layout, seat agents, ratios⟩ fromSlot edge newAgent =
      match splitPlan layout fromSlot edge with
      | none => .ok none
      | some (target, order) => some <$> fromAgents (planned agents newAgent order) (some target) := by
  rw [splitOrderedFromSlot, if_neg named]
  rw [if_neg fresh]
  have few : agents.length ≤ 4 := count ▸ layout.paneCount_bounds.2
  rcases upTo_four few with rfl | ⟨a, rfl⟩ | ⟨a, b, rfl⟩ | ⟨a, b, c, rfl⟩ | ⟨a, b, c, d, rfl⟩ <;>
    cases layout <;> simp [CanonicalLayout.paneCount] at count <;>
    cases fromSlot <;> first | (simp [SlotId.index] at inside; done) | (cases edge <;> rfl)

/-- A split that returns a model was asked for by a named agent that is not seated yet, at an
assigned slot. -/
theorem splitOrdered_checked
    (ok : model.splitOrderedFromSlot fromSlot edge newAgent = .ok (some out)) :
    newAgent ≠ "" ∧ ¬(SlotId.all.any fun used => model.assignment used == some newAgent) = true ∧
      ∃ source, model.assignment fromSlot = some source := by
  rw [splitOrderedFromSlot] at ok
  by_cases named : newAgent = ""
  · rw [if_pos named] at ok
    cases ok
  rw [if_neg named] at ok
  by_cases seated : (SlotId.all.any fun used => model.assignment used == some newAgent) = true
  · rw [if_pos seated] at ok
    cases ok
  rw [if_neg seated] at ok
  refine ⟨named, seated, ?_⟩
  cases held : model.agentAt fromSlot with
  | none =>
    rw [held] at ok
    cases ok
  | some source => exact ⟨source, held⟩

/-- A split of one pane seats its agents as planned. -/
theorem splitOrdered_planned (seats : model.Seats agents)
    (ok : model.splitOrderedFromSlot fromSlot edge newAgent = .ok (some out)) :
    fromSlot.index < agents.length ∧ newAgent ∉ agents ∧
      ∃ target order, splitPlan model.layout fromSlot edge = some (target, order) ∧
        fromAgents (planned agents newAgent order) (some target) = .ok out := by
  obtain ⟨named, fresh, _, held⟩ := splitOrdered_checked ok
  obtain ⟨layout, _, _⟩ := model
  obtain ⟨count, rfl, _, _⟩ := seats
  have inside : fromSlot.index < agents.length := (List.getElem?_eq_some_iff.mp held).1
  refine ⟨inside, ?_, ?_⟩
  · rwa [any_slot_iff, filterMap_seat (count ▸ layout.paneCount_bounds.2)] at fresh
  · rw [splitOrdered_eq count inside named fresh] at ok
    split at ok
    · cases ok
    next target order isPlan => exact ⟨target, order, isPlan, map_fromAgents_ok ok⟩

/-! ## What the plans promise -/

end PaneLayoutModel

/-- The side of a pane that an edge direction names. -/
def EdgeDir.side : EdgeDir → Side
  | left => .left
  | right => .right
  | top => .top
  | bottom => .bottom

/-- The edge on the other axis that comes on the same side in reading order. -/
def EdgeDir.turned : EdgeDir → EdgeDir
  | left => top
  | right => bottom
  | top => left
  | bottom => right

/-- The pane belongs to the side band of a three-pane main layout, and the edge cuts across
that band. -/
def acrossBand : CanonicalLayout → SlotId → EdgeDir → Bool
  | .threeLeftMain, .s1, edge | .threeLeftMain, .s2, edge => edge.isHorizontal
  | .threeRightMain, .s0, edge | .threeRightMain, .s2, edge => edge.isHorizontal
  | .threeTopMain, .s1, edge | .threeTopMain, .s2, edge => !edge.isHorizontal
  | .threeBottomMain, .s0, edge | .threeBottomMain, .s1, edge => !edge.isHorizontal
  | _, _, _ => false

variable (layout : CanonicalLayout) (fromSlot : SlotId) (edge : EdgeDir)

/-- The edge of the source at which the newcomer is placed. -/
def dockedEdge : EdgeDir :=
  if acrossBand layout fromSlot edge then edge.turned else edge

instance (side : Side) (gap box : Box ℚ) : Decidable (side.Borders gap box) :=
  match side with
  | .left | .right | .top | .bottom => decidable_of_iff' (_ = _ ∧ _ < _) (Side.borders_iff _ gap box)

/-- The default rectangle of the slot at a position. -/
def defaultRect (position : Nat) : UnitRect :=
  (slotRects layout fun _ => none).getD position .full

/-- What a plan promises: the target has one more slot, every position is used once, the other
agents keep their order, and the newcomer's slot lies at the docked edge of the source's. -/
def PlanFits (target : CanonicalLayout) (order : List Nat) : Prop :=
  target.paneCount = layout.paneCount + 1 ∧ order.Perm (List.range (layout.paneCount + 1)) ∧
    order.filter (fun position => position ≠ layout.paneCount && position ≠ fromSlot.index) =
      (List.range layout.paneCount).filter (· ≠ fromSlot.index) ∧
    (dockedEdge layout fromSlot edge).side.Borders
      (defaultRect target (order.idxOf fromSlot.index)).box
      (defaultRect target (order.idxOf layout.paneCount)).box
  deriving Decidable

theorem mem_allCanonicalLayouts : layout ∈ allCanonicalLayouts := by
  cases layout <;> decide

/-- Every plan keeps its promise. -/
theorem splitPlan_fits {layout target : CanonicalLayout} {fromSlot : SlotId} {edge : EdgeDir}
    {order : List Nat} (inside : fromSlot.index < layout.paneCount)
    (isPlan : PaneLayoutModel.splitPlan layout fromSlot edge = some (target, order)) :
    PlanFits layout fromSlot edge target order := by
  have table : ∀ layout ∈ allCanonicalLayouts, ∀ fromSlot ∈ SlotId.all,
      ∀ edge ∈ [EdgeDir.left, .right, .top, .bottom], fromSlot.index < layout.paneCount →
      ∀ plan ∈ PaneLayoutModel.splitPlan layout fromSlot edge,
        PlanFits layout fromSlot edge plan.1 plan.2 := by decide +kernel
  have anySlot : fromSlot ∈ SlotId.all := by cases fromSlot <;> decide
  have anyEdge : edge ∈ [EdgeDir.left, .right, .top, .bottom] := by cases edge <;> decide
  exact table layout (mem_allCanonicalLayouts layout) fromSlot anySlot edge anyEdge inside
    (target, order) isPlan

namespace PaneLayoutModel

variable {model out : PaneLayoutModel} {agents : List AgentId} {position : Nat}

/-! ## From positions to agents -/

section Planned

variable {newAgent : AgentId} {order : List Nat} {source : AgentId}

theorem planned_range (agents : List AgentId) (newAgent : AgentId) :
    planned agents newAgent (List.range (agents.length + 1)) = agents ++ [newAgent] := by
  refine ext_getElem (by simp [planned]) fun position _ inside => ?_
  simp only [planned, getElem_map, getElem_range]
  rw [getD_eq_getElem _ _ inside]

/-- A plan that uses every position once lists the old agents and the newcomer. -/
theorem planned_perm (same : order.Perm (List.range (agents.length + 1))) :
    (planned agents newAgent order).Perm (newAgent :: agents) := by
  refine (same.map _).trans ?_
  have listed := planned_range agents newAgent
  rw [planned] at listed
  rw [listed]
  exact perm_append_singleton _ _

/-- Different positions stand for different agents. -/
theorem planned_injective (distinct : agents.Nodup) (fresh : newAgent ∉ agents) {one other : Nat}
    (inside : one < agents.length + 1) (otherInside : other < agents.length + 1) :
    (agents ++ [newAgent]).getD one "" = (agents ++ [newAgent]).getD other "" ↔ one = other := by
  have all : (agents ++ [newAgent]).Nodup := by
    refine nodup_append.mpr ⟨distinct, nodup_singleton _, ?_⟩
    rintro agent member _ isNew rfl
    exact fresh (mem_singleton.mp isNew ▸ member)
  have size : (agents ++ [newAgent]).length = agents.length + 1 := by simp
  rw [getD_eq_getElem _ _ (size ▸ inside), getD_eq_getElem _ _ (size ▸ otherInside)]
  exact all.getElem_inj_iff

theorem planned_newcomer : (agents ++ [newAgent]).getD agents.length "" = newAgent := by
  simp

theorem planned_source (held : agents[position]? = some source) :
    (agents ++ [newAgent]).getD position "" = source := by
  obtain ⟨inside, _⟩ := List.getElem?_eq_some_iff.mp held
  simp [getElem?_append_left inside, held]

/-- A plan that keeps the other positions in order keeps the other agents in order. -/
theorem planned_others (distinct : agents.Nodup)
    (fresh : newAgent ∉ agents) (held : agents[position]? = some source)
    (same : order.Perm (List.range (agents.length + 1)))
    (kept : order.filter (fun place => place ≠ agents.length && place ≠ position) =
      (List.range agents.length).filter (· ≠ position)) :
    (planned agents newAgent order).filter (fun agent => agent ≠ newAgent && agent ≠ source) =
      agents.filter (· ≠ source) := by
  have inside : position < agents.length := (List.getElem?_eq_some_iff.mp held).1
  have isNew : ∀ place < agents.length + 1,
      ((agents ++ [newAgent]).getD place "" = newAgent ↔ place = agents.length) := by
    intro place placeInside
    have same := planned_injective distinct fresh placeInside (Nat.lt_succ_self _)
    rwa [planned_newcomer] at same
  have isSource : ∀ place < agents.length + 1,
      ((agents ++ [newAgent]).getD place "" = source ↔ place = position) := by
    intro place placeInside
    have same := planned_injective distinct fresh placeInside (Nat.lt_succ_of_lt inside)
    rwa [planned_source held] at same
  have read : agents = planned agents newAgent (List.range agents.length) := by
    refine ext_getElem (by simp [planned]) fun place placeInside _ => ?_
    simp only [planned, getElem_map, getElem_range]
    rw [getD_eq_getElem _ _ (by simp; omega), getElem_append_left placeInside]
  calc (planned agents newAgent order).filter (fun agent => agent ≠ newAgent && agent ≠ source)
      = planned agents newAgent
          (order.filter fun place => place ≠ agents.length && place ≠ position) := by
        rw [planned, filter_map, planned]
        refine congrArg _ (filter_congr fun place member => ?_)
        have placeInside : place < agents.length + 1 := mem_range.mp (same.mem_iff.mp member)
        simp only [Function.comp_apply, ne_eq, isNew place placeInside, isSource place placeInside]
    _ = planned agents newAgent ((List.range agents.length).filter (· ≠ position)) := by rw [kept]
    _ = agents.filter (· ≠ source) := by
        conv_rhs => rw [read]
        rw [planned, planned, filter_map]
        refine congrArg _ (filter_congr fun place member => ?_)
        have placeInside : place < agents.length + 1 := Nat.lt_succ_of_lt (mem_range.mp member)
        simp only [Function.comp_apply, ne_eq, isSource place placeInside]

end Planned

/-- The rectangle of an agent's slot. -/
def rectOf (model : PaneLayoutModel) (agent : AgentId) : Option UnitRect :=
  (model.slotOf agent).bind fun slot => (slotRects model.layout model.ratios)[slot.index]?

theorem slotRects_length (layout : CanonicalLayout) (ratios : Ratios) :
    (slotRects layout ratios).length = layout.paneCount := by
  cases layout <;> rfl

/-- The rectangle of the agent at a position of the seating. -/
theorem Seats.rectOf {agent : AgentId} (seats : out.Seats agents)
    (bare : out.ratios = fun _ => none) (held : agents[position]? = some agent) :
    out.rectOf agent = some (defaultRect out.layout position) := by
  have inside : position < agents.length := (List.getElem?_eq_some_iff.mp held).1
  obtain ⟨_, rfl⟩ := SlotId.exists_index (inside.trans_le seats.few)
  rw [PaneLayoutModel.rectOf, seats.slotOf held, bare, Option.bind_some, defaultRect]
  rw [getElem?_eq_getElem (by rw [slotRects_length, ← seats.count]; exact inside), getD_eq_getElem]

/-- A split of one pane seats the old agents and the newcomer, keeps the order of the agents
other than the source, and places the newcomer at the docked edge of the source. -/
theorem splitOrdered_seats {newAgent : AgentId} {fromSlot : SlotId} {edge : EdgeDir}
    (seats : model.Seats agents)
    (ok : model.splitOrderedFromSlot fromSlot edge newAgent = .ok (some out)) :
    ∃ order source sourceRect newRect, out.Seats order ∧ order.Perm (newAgent :: agents) ∧
      model.agentAt fromSlot = some source ∧
      order.filter (fun agent => agent ≠ newAgent && agent ≠ source) = agents.filter (· ≠ source) ∧
      out.rectOf source = some sourceRect ∧ out.rectOf newAgent = some newRect ∧
      (dockedEdge model.layout fromSlot edge).side.Borders sourceRect.box newRect.box := by
  obtain ⟨inside, fresh, target, order, isPlan, made⟩ := splitOrdered_planned seats ok
  obtain ⟨outSeats, bare, isTarget⟩ := fromAgents_seats made
  obtain ⟨source, held⟩ : ∃ source, agents[fromSlot.index]? = some source :=
    ⟨_, getElem?_eq_getElem inside⟩
  obtain ⟨count, same, kept, borders⟩ := splitPlan_fits (seats.count ▸ inside) isPlan
  rw [← seats.count] at count same kept borders
  have isLayout : out.layout = target := by
    refine isTarget target rfl ?_
    rw [planned, length_map, same.length_eq, length_range, count]
  have positioned : ∀ {position : Nat} {agent : AgentId}, position < agents.length + 1 →
      (agents ++ [newAgent]).getD position "" = agent →
      (planned agents newAgent order)[order.idxOf position]? = some agent := by
    intro position agent positionInside isAgent
    have listed : position ∈ order := same.mem_iff.mpr (mem_range.mpr positionInside)
    rw [planned, getElem?_map, getElem?_idxOf listed, Option.map_some, isAgent]
  refine ⟨_, source, defaultRect out.layout (order.idxOf fromSlot.index),
    defaultRect out.layout (order.idxOf agents.length), outSeats, planned_perm same, ?_, ?_, ?_, ?_, ?_⟩
  · rw [agentAt, seats.seated]
    exact held
  · exact planned_others seats.distinct fresh held same kept
  · exact outSeats.rectOf bare (positioned (Nat.lt_succ_of_lt inside) (planned_source held))
  · exact outSeats.rectOf bare (positioned (Nat.lt_succ_self _) planned_newcomer)
  · rw [isLayout]
    exact borders

/-! ## Every transition -/

/-- The model is valid and has these agents, in some order. -/
def HoldsExactly (model : PaneLayoutModel) (agents : List AgentId) : Prop :=
  model.isValid = true ∧ model.agentsInReadingOrder.Perm agents

theorem Seats.holdsExactly {order : List AgentId} (seats : out.Seats order)
    (same : order.Perm agents) : out.HoldsExactly agents := by
  refine ⟨isValid_iff.mpr ⟨order, seats⟩, ?_⟩
  rw [seats.readingOrder]
  exact same

/-- The newcomer is placed beside the source: at the edge that was asked for, or along the
band for a pane of the side band split across it. The agents other than the source keep their
order. -/
structure DocksBeside (model : PaneLayoutModel) (fromSlot : SlotId) (edge : EdgeDir)
    (newAgent : AgentId) (out : PaneLayoutModel) : Prop where
  beside : ∃ source sourceRect newRect, model.agentAt fromSlot = some source ∧
    out.rectOf source = some sourceRect ∧ out.rectOf newAgent = some newRect ∧
    (dockedEdge model.layout fromSlot edge).side.Borders sourceRect.box newRect.box
  order : ∃ source, model.agentAt fromSlot = some source ∧
    out.agentsInReadingOrder.filter (fun agent => agent ≠ newAgent && agent ≠ source) =
      model.agentsInReadingOrder.filter (· ≠ source)

/-- Whatever model a transition of a valid model returns is valid and holds just the agents it
should: the old ones, with the newcomer and without the one that is removed. A split of one
pane places the newcomer beside it and keeps the order of the others. -/
theorem canonical_models_stay_valid (valid : model.isValid = true) :
    (∀ agentA agentB, model.swapAgents agentA agentB = .ok out →
      out.HoldsExactly model.agentsInReadingOrder) ∧
    (∀ slot dir, model.applySwallow slot dir = some out →
      out.HoldsExactly model.agentsInReadingOrder) ∧
    (∀ edge newAgent, model.splitInDirection edge newAgent = .ok (some out) →
      out.HoldsExactly (newAgent :: model.agentsInReadingOrder)) ∧
    (∀ fromSlot edge newAgent, model.splitInDirectionFromSlot fromSlot edge newAgent = .ok (some out) →
      out.HoldsExactly (newAgent :: model.agentsInReadingOrder)) ∧
    (∀ fromSlot edge newAgent, model.splitOrderedFromSlot fromSlot edge newAgent = .ok (some out) →
      out.HoldsExactly (newAgent :: model.agentsInReadingOrder) ∧
        DocksBeside model fromSlot edge newAgent out) ∧
    (∀ revived, model.revive revived = .ok (some out) →
      out.HoldsExactly (revived :: model.agentsInReadingOrder)) ∧
    ∀ agent, model.reduceRemoving agent = .ok (some out) → agent ∈ model.agentsInReadingOrder ∧
      out.HoldsExactly (model.agentsInReadingOrder.filter (· ≠ agent)) := by
  obtain ⟨_, seats⟩ := isValid_iff.mp valid
  rw [seats.readingOrder]
  have holds {kept : List AgentId} : (∃ order, out.Seats order ∧ order.Perm kept) →
      out.HoldsExactly kept := fun ⟨_, outSeats, same⟩ => outSeats.holdsExactly same
  refine ⟨?_, ?_, ?_, ?_, ?_, ?_, ?_⟩
  · intro agentA agentB ok
    exact holds (swapAgents_seats seats ok)
  · intro slot dir ok
    exact holds (applySwallow_seats seats ok)
  · intro edge newAgent ok
    exact holds (splitInDirection_seats seats ok)
  · intro fromSlot edge newAgent ok
    exact holds (splitInDirectionFromSlot_seats seats ok)
  · intro fromSlot edge newAgent ok
    obtain ⟨_, source, sourceRect, newRect, outSeats, same, held, kept, isSource, isNew, borders⟩ :=
      splitOrdered_seats seats ok
    refine ⟨outSeats.holdsExactly same, ⟨source, sourceRect, newRect, held, isSource, isNew, borders⟩,
      source, held, ?_⟩
    rw [outSeats.readingOrder, seats.readingOrder]
    exact kept
  · intro revived ok
    exact holds (revive_seats seats ok)
  · intro agent ok
    obtain ⟨outSeats, member⟩ := reduceRemoving_seats seats ok
    exact ⟨member, outSeats.holdsExactly (.refl _)⟩

/-- A main pane on the left, and two panes stacked beside it. -/
def leftMain : PaneLayoutModel :=
  ⟨.threeLeftMain, seat ["a", "b", "c"], fun _ => none⟩

/-- The model that a split grows, if it grows one. -/
def grown (result : Except PaneLayoutError (Option PaneLayoutModel)) : Option PaneLayoutModel :=
  result.toOption.join

theorem eq_of_grown {result : Except PaneLayoutError (Option PaneLayoutModel)}
    (isGrown : grown result = some out) : result = .ok (some out) := by
  match result, isGrown with
  | .ok (some _), rfl => rfl

/-- Splitting the upper side pane downward. -/
theorem canonical_models_stay_valid_left_main : leftMain.isValid = true ∧
    ∃ out, leftMain.splitOrderedFromSlot .s1 .bottom "n" = .ok (some out) ∧
      out.HoldsExactly ("n" :: leftMain.agentsInReadingOrder) ∧
        DocksBeside leftMain .s1 .bottom "n" out := by
  have valid : leftMain.isValid = true := by decide +kernel
  obtain ⟨out, isGrown⟩ : ∃ out, grown (leftMain.splitOrderedFromSlot .s1 .bottom "n") = some out :=
    Option.isSome_iff_exists.mp (by decide +kernel)
  have splits := eq_of_grown isGrown
  exact ⟨valid, out, splits, (canonical_models_stay_valid valid).2.2.2.2.1 .s1 .bottom "n" splits⟩

/-- Split to the right, the upper side pane gets the newcomer below it. -/
theorem side_band_split_turns : leftMain.isValid = true ∧ leftMain.agentAt .s1 = some "b" ∧
    ∃ out sourceRect newRect, leftMain.splitOrderedFromSlot .s1 .right "n" = .ok (some out) ∧
      out.rectOf "b" = some sourceRect ∧ out.rectOf "n" = some newRect ∧
        ¬Side.right.Borders sourceRect.box newRect.box := by
  have apart : ∃ out ∈ grown (leftMain.splitOrderedFromSlot .s1 .right "n"),
      ∃ sourceRect ∈ out.rectOf "b", ∃ newRect ∈ out.rectOf "n",
        ¬Side.right.Borders sourceRect.box newRect.box := by decide +kernel
  obtain ⟨out, isGrown, sourceRect, isSource, newRect, isNew, notBeside⟩ := apart
  exact ⟨by decide +kernel, by decide +kernel, out, sourceRect, newRect, eq_of_grown isGrown, isSource,
    isNew, notBeside⟩

end PaneLayoutModel
end HydraTerm.Shell
