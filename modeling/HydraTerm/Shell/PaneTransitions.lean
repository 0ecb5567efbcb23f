import HydraTerm.Shell.PaneGeometry

/-!
# Transitions between canonical layouts

The rest of the pane model of `pane_layout.rs`: the validity check, swapping two agents, the
swallow that turns a pane into the main pane of another layout of the same size, the two
splits that grow a layout at an edge of the window or at an edge of one pane, reviving a
stashed agent, and removing one. Each is a function from a model to the model it returns, to
no model where the source returns none, or to the error it reports.

The debug assertions that a target layout has the expected number of panes are left out;
`PaneLayoutModel.isValid` of the outcome covers them.
-/

namespace HydraTerm.Shell

/-- Docking at this edge puts the new pane first in reading order. -/
def EdgeDir.isFront : EdgeDir → Bool
  | left | top => true
  | right | bottom => false

/-- A swallow to the left or to the right makes a main row. -/
def SwallowDir.isHorizontal : SwallowDir → Bool
  | left | right => true
  | up | down => false

/-! ## The tables -/

variable (layout : CanonicalLayout)

/-- The layout a swallow produces, if the pane in the slot may swallow that way. -/
def swallowTarget (slot : SlotId) (dir : SwallowDir) : Option CanonicalLayout :=
  match layout, slot, dir.isHorizontal with
  | .threeLeftMain, .s1, true => some .threeTopMain
  | .threeLeftMain, .s2, true => some .threeBottomMain
  | .threeRightMain, .s0, true => some .threeTopMain
  | .threeRightMain, .s2, true => some .threeBottomMain
  | .threeTopMain, .s1, false => some .threeLeftMain
  | .threeTopMain, .s2, false => some .threeRightMain
  | .threeBottomMain, .s0, false => some .threeLeftMain
  | .threeBottomMain, .s1, false => some .threeRightMain
  | .threeColumns, .s0, false => some .threeLeftMain
  | .threeColumns, .s2, false => some .threeRightMain
  | .threeRows, .s0, true => some .threeTopMain
  | .threeRows, .s2, true => some .threeBottomMain
  | .fourLeftMain, .s1, true => some .fourTopMain
  | .fourLeftMain, .s3, true => some .fourBottomMain
  | .fourRightMain, .s0, true => some .fourTopMain
  | .fourRightMain, .s2, true => some .fourBottomMain
  | .fourTopMain, .s1, false => some .fourLeftMain
  | .fourTopMain, .s3, false => some .fourRightMain
  | .fourBottomMain, .s0, false => some .fourLeftMain
  | .fourBottomMain, .s2, false => some .fourRightMain
  | _, _, _ => none

/-- The slot of the main pane of a layout that has one. -/
def mainSlotForLayout : CanonicalLayout → Option SlotId
  | .threeLeftMain | .threeTopMain => some .s0
  | .threeRightMain => some .s1
  | .threeBottomMain => some .s2
  | .fourLeftMain | .fourTopMain => some .s0
  | .fourRightMain => some .s1
  | .fourBottomMain => some .s3
  | _ => none

/-- The layout a new pane at an edge of the window grows, and whether the pane comes first. -/
def splitGrowthTarget (edge : EdgeDir) : Option (CanonicalLayout × Bool) :=
  let target : Option CanonicalLayout := match layout, edge.isHorizontal with
    | .oneFull, true => some .twoColumns
    | .oneFull, false => some .twoRows
    | .twoColumns, true => some .threeColumns
    | .threeColumns, true => some .fourColumns
    | .twoRows, false => some .threeRows
    | .threeRows, false => some .fourRows
    | _, _ => none
  target.map fun target => (target, edge.isFront)

/-- The layout a split of the pane in one slot grows, if there is a place for the new pane. -/
def splitGrowthTargetFromSlot (fromSlot : SlotId) (edge : EdgeDir) : Option CanonicalLayout :=
  let h := edge.isHorizontal
  match layout, fromSlot, h with
  | .oneFull, .s0, _ => some (if h then .twoColumns else .twoRows)
  | .twoColumns, _, true => some .threeColumns
  | .twoColumns, .s0, _ => some .threeRightMain
  | .twoColumns, .s1, _ => some .threeLeftMain
  | .twoRows, _, false => some .threeRows
  | .twoRows, .s0, _ => some .threeBottomMain
  | .twoRows, .s1, _ => some .threeTopMain
  | .threeColumns, _, true => some .fourColumns
  | .threeColumns, .s0, _ => some .fourLeftSplit
  | .threeRows, _, false => some .fourRows
  | .threeRightMain, .s1, false => some .fourGrid
  | .threeBottomMain, .s2, true => some .fourGrid
  | _, _, _ => none

/-- The layout a revived pane grows. -/
def reviveTarget : CanonicalLayout → Option CanonicalLayout
  | .oneFull => some .twoColumns
  | .twoColumns => some .threeRightMain
  | .twoRows => some .threeBottomMain
  | .threeColumns => some .fourLeftSplit
  | .threeRows => some .fourTopSplit
  | .threeLeftMain | .threeRightMain | .threeTopMain | .threeBottomMain => some .fourGrid
  | .fourGrid | .fourColumns | .fourRows | .fourLeftSplit | .fourTopSplit => none
  | .fourLeftMain | .fourRightMain | .fourTopMain | .fourBottomMain => none

/-! ## The transitions -/

namespace PaneLayoutModel

variable (model : PaneLayoutModel) (agent : AgentId)

/-- Exactly the layout's slots are assigned, and their agents are named and distinct. -/
def isValid : Bool :=
  let agents := SlotId.all.filterMap model.assignment
  decide (agents.length = model.layout.slots.length) &&
    model.layout.slots.all (fun slot => (model.assignment slot).isSome) &&
    agents.all (· ≠ "") && decide agents.Nodup

/-- The slot of an agent, or the error that it is missing. -/
def requireSlot : Except PaneLayoutError SlotId :=
  match model.slotOf agent with
  | some slot => .ok slot
  | none => .error (.agentNotFound agent)

/-- Exchange the slots of two agents. -/
def swapAgents (agentA agentB : AgentId) :
    Except PaneLayoutError PaneLayoutModel := do
  let slotA ← model.requireSlot agentA
  let slotB ← model.requireSlot agentB
  return if slotA = slotB then model
    else { model with
      assignment := Function.update (Function.update model.assignment slotA (some agentB)) slotB
        (some agentA) }

/-- Give the slots their agents in turn; none or some left over on either side fails. -/
def fillSlots (assignment : SlotId → Option AgentId) :
    List SlotId → List AgentId → Option (SlotId → Option AgentId)
  | [], [] => some assignment
  | slot :: slots, agent :: agents =>
    fillSlots (Function.update assignment slot (some agent)) slots agents
  | _, _ => none

/-- The pane in a slot becomes the main pane of another layout of the same size; the others
keep their reading order in the slots that are left. -/
def applySwallow (slot : SlotId) (dir : SwallowDir) :
    Option PaneLayoutModel := do
  let target ← swallowTarget model.layout slot dir
  let selected ← model.assignment slot
  let mainSlot ← mainSlotForLayout target
  let survivors := model.agentsInReadingOrder.filter (· ≠ selected)
  let assignment ← fillSlots (Function.update (fun _ => none) mainSlot (some selected))
    (target.slots.filter (· ≠ mainSlot)) survivors
  return { layout := target, assignment, ratios := fun _ => none }

/-- Refuse an agent without a name or one that is already there. -/
def checkNewcomer : Except PaneLayoutError Unit :=
  if agent = "" then .error .emptyAgentId
  else if SlotId.all.any fun used => model.assignment used == some agent then
    .error (.duplicateAgent agent)
  else .ok ()

/-- Add an agent at an edge of the window. -/
def splitInDirection (edge : EdgeDir) (newAgent : AgentId) :
    Except PaneLayoutError (Option PaneLayoutModel) := do
  model.checkNewcomer newAgent
  match splitGrowthTarget model.layout edge with
  | none => return none
  | some (target, atFront) =>
    let agents := model.agentsInReadingOrder
    let agents := if atFront then newAgent :: agents else agents ++ [newAgent]
    some <$> fromAgents agents (some target)

/-- Split the pane in one slot, the new agent last in reading order; only the top row of two
takes it in second place. -/
def splitInDirectionFromSlot (fromSlot : SlotId) (edge : EdgeDir)
    (newAgent : AgentId) : Except PaneLayoutError (Option PaneLayoutModel) := do
  model.checkNewcomer newAgent
  if (model.assignment fromSlot).isNone then .error (.agentNotFound fromSlot.debug)
  else
    match splitGrowthTargetFromSlot model.layout fromSlot edge with
    | none => return none
    | some target =>
      let agents := model.agentsInReadingOrder
      let agents :=
        if model.layout = .twoRows && fromSlot = .s0 && edge = .right then agents.insertIdx 1 newAgent
        else agents ++ [newAgent]
      some <$> fromAgents agents (some target)

/-- Bring a stashed agent back, last in reading order. -/
def revive (revived : AgentId) :
    Except PaneLayoutError (Option PaneLayoutModel) := do
  model.checkNewcomer revived
  match reviveTarget model.layout with
  | none => return none
  | some target => some <$> fromAgents (model.agentsInReadingOrder ++ [revived]) (some target)

/-- Remove an agent; the others take the default layout of their number. -/
def reduceRemoving :
    Except PaneLayoutError (Option PaneLayoutModel) := do
  let _ ← model.requireSlot agent
  let survivors := model.agentsInReadingOrder.filter (· ≠ agent)
  if survivors.isEmpty then return none
  else some <$> fromAgents survivors none

end PaneLayoutModel
end HydraTerm.Shell
