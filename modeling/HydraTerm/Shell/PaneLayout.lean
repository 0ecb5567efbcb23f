import Mathlib

/-!
# Canonical pane layouts

The bounded registry of named layouts of one to four panes (`pane_layout.rs`): their slots,
the dividers each of them has, the unit-square rectangles of the slots, and the model that
assigns an agent to each slot. Of the transitions between layouts only the one the window
layouts use is here: growing the layout by splitting the pane in one slot towards an edge.

Coordinates are exact rationals where the source has `f32`. A ratio map is a function from
divider names to an optional value; the source's ordered map is only read by key. Indexing
a list of agents past its end panics in the source; here it yields the empty agent id,
which no valid model holds.
-/

namespace HydraTerm.Shell

/-- A rectangle in the unit square: its top left corner and its extent. -/
structure UnitRect where
  x : ℚ
  y : ℚ
  w : ℚ
  h : ℚ
deriving DecidableEq

/-- The nearest integer, halves rounded away from zero. -/
def roundHalfAway (value : ℚ) : ℤ :=
  if 0 ≤ value then ⌊value + 1 / 2⌋ else ⌈value - 1 / 2⌉

/-- The smallest gap between two adjacent dividers of an ordered layout. -/
def minCutGap : ℚ := 1 / 20

/-- The number of decimal places ratios are rounded to. -/
def ratioPrecision : Nat := 2

/-- A position in a layout, in reading order. -/
inductive SlotId
  | s0
  | s1
  | s2
  | s3
deriving DecidableEq

namespace SlotId

def all : List SlotId := [s0, s1, s2, s3]

/-- The first slots in reading order. -/
def first (count : Nat) : List SlotId := all.take count

/-- The name of a slot, as its debug form prints it. -/
def debug : SlotId → String
  | s0 => "S0"
  | s1 => "S1"
  | s2 => "S2"
  | s3 => "S3"

end SlotId

/-- A named divider of a layout. -/
inductive SplitId
  | col0
  | col1
  | col2
  | row0
  | row1
  | row2
  | main
  | side
deriving DecidableEq

inductive CanonicalLayout
  | oneFull
  | twoColumns
  | twoRows
  | threeColumns
  | threeRows
  | threeLeftMain
  | threeRightMain
  | threeTopMain
  | threeBottomMain
  | fourGrid
  | fourColumns
  | fourRows
  | fourLeftSplit
  | fourTopSplit
  | fourLeftMain
  | fourRightMain
  | fourTopMain
  | fourBottomMain
deriving DecidableEq

/-- The edge of a pane that another pane docks against. -/
inductive EdgeDir
  | left
  | right
  | top
  | bottom
deriving DecidableEq

namespace EdgeDir

/-- Left and right edges grow a column. -/
def isHorizontal : EdgeDir → Bool
  | left | right => true
  | top | bottom => false

/-- A pane docked at this edge follows the pane it docks against in reading order. -/
def isAfter : EdgeDir → Bool
  | right | bottom => true
  | left | top => false

end EdgeDir

/-- A divider with its allowed band and its default. -/
structure SplitSpec where
  id : SplitId
  min : ℚ
  max : ℚ
  default : ℚ

namespace CanonicalLayout

/-- The number of panes of the layout. -/
def paneCount : CanonicalLayout → Nat
  | oneFull => 1
  | twoColumns | twoRows => 2
  | threeColumns | threeRows | threeLeftMain | threeRightMain | threeTopMain | threeBottomMain => 3
  | fourGrid | fourColumns | fourRows | fourLeftSplit | fourTopSplit | fourLeftMain
  | fourRightMain | fourTopMain | fourBottomMain => 4

/-- The slots of the layout in reading order. -/
def slots (layout : CanonicalLayout) : List SlotId := SlotId.first layout.paneCount

/-- The dividers that must stay in order along one axis, if the layout has such. -/
def orderedCuts : CanonicalLayout → Option (List SplitId)
  | threeColumns | threeRows => some [.col0, .col1]
  | fourColumns | fourRows => some [.col0, .col1, .col2]
  | fourLeftMain | fourRightMain | fourTopMain | fourBottomMain => some [.col0, .col1]
  | _ => none

/-- The dividers of the layout. The row families reuse the names of the columns. -/
def splitSpecs : CanonicalLayout → List SplitSpec
  | oneFull => []
  | twoColumns | twoRows => [⟨.col0, 1 / 5, 4 / 5, 1 / 2⟩]
  | threeColumns | threeRows => [⟨.col0, 3 / 20, 3 / 5, 1 / 3⟩, ⟨.col1, 2 / 5, 17 / 20, 2 / 3⟩]
  | threeLeftMain | threeRightMain | threeTopMain | threeBottomMain =>
    [⟨.main, 1 / 5, 4 / 5, 3 / 5⟩, ⟨.side, 1 / 5, 4 / 5, 1 / 2⟩]
  | fourGrid => [⟨.col0, 1 / 5, 4 / 5, 1 / 2⟩, ⟨.row0, 1 / 5, 4 / 5, 1 / 2⟩]
  | fourColumns | fourRows =>
    [⟨.col0, 1 / 10, 2 / 5, 1 / 4⟩, ⟨.col1, 7 / 20, 13 / 20, 1 / 2⟩, ⟨.col2, 3 / 5, 9 / 10, 3 / 4⟩]
  | fourLeftSplit =>
    [⟨.col0, 3 / 20, 3 / 5, 1 / 3⟩, ⟨.col1, 2 / 5, 17 / 20, 2 / 3⟩, ⟨.row0, 1 / 5, 4 / 5, 1 / 2⟩]
  | fourTopSplit =>
    [⟨.row0, 3 / 20, 3 / 5, 1 / 3⟩, ⟨.row1, 2 / 5, 17 / 20, 2 / 3⟩, ⟨.col0, 1 / 5, 4 / 5, 1 / 2⟩]
  | fourLeftMain | fourRightMain | fourTopMain | fourBottomMain =>
    [⟨.main, 1 / 5, 4 / 5, 11 / 20⟩, ⟨.col0, 3 / 20, 3 / 5, 1 / 3⟩, ⟨.col1, 2 / 5, 17 / 20, 2 / 3⟩]

end CanonicalLayout

/-- The position of each divider that has one. -/
abbrev Ratios := SplitId → Option ℚ

/-- Round a fraction to the ratio precision. -/
def roundRatio (value : ℚ) : ℚ := roundHalfAway (value * 10 ^ ratioPrecision) / 10 ^ ratioPrecision

/-- Push each divider at least the gap past the one before it. -/
def spreadForward (ratios : Ratios) : List SplitId → Ratios
  | previous :: current :: rest =>
    let before := (ratios previous).getD 0
    let ratios := if (ratios current).getD 0 < before + minCutGap then
      Function.update ratios current (some (before + minCutGap)) else ratios
    spreadForward ratios (current :: rest)
  | _ => ratios

/-- Walk back from the far edge, keeping each divider below `upper`. -/
def spreadBackward (ratios : Ratios) (upper : ℚ) : List SplitId → Ratios
  | [] => ratios
  | current :: rest =>
    let ratios := if upper < (ratios current).getD 0 then
      Function.update ratios current (some upper) else ratios
    spreadBackward ratios ((ratios current).getD 0 - minCutGap) rest

/-- Complete, clamp, order and round the ratios of a layout. -/
def normalizeRatios (layout : CanonicalLayout) (given : Ratios) : Ratios :=
  let clamped : Ratios := layout.splitSpecs.foldl (fun ratios spec =>
    Function.update ratios spec.id
      (some (max spec.min (min ((given spec.id).getD spec.default) spec.max)))) fun _ => none
  let spread := match layout.orderedCuts with
    | some order => spreadBackward (spreadForward clamped order) (1 - minCutGap) order.reverse
    | none => clamped
  fun id => (spread id).map roundRatio

/-- The rectangles of the layout's slots, in reading order. -/
def slotRects (layout : CanonicalLayout) (ratios : Ratios) : List UnitRect :=
  let normal := normalizeRatios layout ratios
  let g := fun id => (normal id).getD 0
  match layout with
  | .oneFull => [⟨0, 0, 1, 1⟩]
  | .twoColumns =>
    let c := g .col0
    [⟨0, 0, c, 1⟩, ⟨c, 0, 1 - c, 1⟩]
  | .twoRows =>
    let c := g .col0
    [⟨0, 0, 1, c⟩, ⟨0, c, 1, 1 - c⟩]
  | .threeColumns =>
    let a := g .col0
    let b := g .col1
    [⟨0, 0, a, 1⟩, ⟨a, 0, b - a, 1⟩, ⟨b, 0, 1 - b, 1⟩]
  | .threeRows =>
    let a := g .col0
    let b := g .col1
    [⟨0, 0, 1, a⟩, ⟨0, a, 1, b - a⟩, ⟨0, b, 1, 1 - b⟩]
  | .threeLeftMain =>
    let m := g .main
    let s := g .side
    [⟨0, 0, m, 1⟩, ⟨m, 0, 1 - m, s⟩, ⟨m, s, 1 - m, 1 - s⟩]
  | .threeRightMain =>
    let m := g .main
    let s := g .side
    let left := 1 - m
    [⟨0, 0, left, s⟩, ⟨left, 0, m, 1⟩, ⟨0, s, left, 1 - s⟩]
  | .threeTopMain =>
    let m := g .main
    let s := g .side
    [⟨0, 0, 1, m⟩, ⟨0, m, s, 1 - m⟩, ⟨s, m, 1 - s, 1 - m⟩]
  | .threeBottomMain =>
    let m := g .main
    let s := g .side
    let top := 1 - m
    [⟨0, 0, s, top⟩, ⟨s, 0, 1 - s, top⟩, ⟨0, top, 1, m⟩]
  | .fourGrid =>
    let c := g .col0
    let r := g .row0
    [⟨0, 0, c, r⟩, ⟨c, 0, 1 - c, r⟩, ⟨0, r, c, 1 - r⟩, ⟨c, r, 1 - c, 1 - r⟩]
  | .fourColumns =>
    let a := g .col0
    let b := g .col1
    let d := g .col2
    [⟨0, 0, a, 1⟩, ⟨a, 0, b - a, 1⟩, ⟨b, 0, d - b, 1⟩, ⟨d, 0, 1 - d, 1⟩]
  | .fourRows =>
    let a := g .col0
    let b := g .col1
    let d := g .col2
    [⟨0, 0, 1, a⟩, ⟨0, a, 1, b - a⟩, ⟨0, b, 1, d - b⟩, ⟨0, d, 1, 1 - d⟩]
  | .fourLeftSplit =>
    let c0 := g .col0
    let c1 := g .col1
    let row := g .row0
    [⟨0, 0, c0, row⟩, ⟨c0, 0, c1 - c0, 1⟩, ⟨c1, 0, 1 - c1, 1⟩, ⟨0, row, c0, 1 - row⟩]
  | .fourTopSplit =>
    let r0 := g .row0
    let r1 := g .row1
    let col := g .col0
    [⟨0, 0, col, r0⟩, ⟨col, 0, 1 - col, r0⟩, ⟨0, r0, 1, r1 - r0⟩, ⟨0, r1, 1, 1 - r1⟩]
  | .fourLeftMain =>
    let m := g .main
    let a := g .col0
    let b := g .col1
    let side := 1 - m
    [⟨0, 0, m, 1⟩, ⟨m, 0, side, a⟩, ⟨m, a, side, b - a⟩, ⟨m, b, side, 1 - b⟩]
  | .fourRightMain =>
    let m := g .main
    let a := g .col0
    let b := g .col1
    let side := 1 - m
    [⟨0, 0, side, a⟩, ⟨side, 0, m, 1⟩, ⟨0, a, side, b - a⟩, ⟨0, b, side, 1 - b⟩]
  | .fourTopMain =>
    let m := g .main
    let a := g .col0
    let b := g .col1
    let side := 1 - m
    [⟨0, 0, 1, m⟩, ⟨0, m, a, side⟩, ⟨a, m, b - a, side⟩, ⟨b, m, 1 - b, side⟩]
  | .fourBottomMain =>
    let m := g .main
    let a := g .col0
    let b := g .col1
    let side := 1 - m
    [⟨0, 0, a, side⟩, ⟨a, 0, b - a, side⟩, ⟨b, 0, 1 - b, side⟩, ⟨0, side, 1, m⟩]

/-- The id of a pane's occupant. -/
abbrev AgentId := String

/-- Why an operation on a pane model could not be performed. -/
inductive PaneLayoutError
  | unsupportedAgentCount (count : Nat)
  | emptyAgentId
  | duplicateAgent (agent : AgentId)
  | agentNotFound (agent : AgentId)

/-- A layout with the agent of each slot and the ratios of its dividers. -/
structure PaneLayoutModel where
  layout : CanonicalLayout
  assignment : SlotId → Option AgentId
  ratios : Ratios

/-- The simplest layout of a number of panes. -/
def defaultLayoutFor : Nat → Option CanonicalLayout
  | 1 => some .oneFull
  | 2 => some .twoColumns
  | 3 => some .threeColumns
  | 4 => some .fourGrid
  | _ => none

namespace PaneLayoutModel

/-- Assign agents to slots, refusing an empty id and an id that is already assigned. -/
def assign (assignment : SlotId → Option AgentId) :
    List (SlotId × AgentId) → Except PaneLayoutError (SlotId → Option AgentId)
  | [] => .ok assignment
  | (slot, agent) :: rest =>
    if agent = "" then .error .emptyAgentId
    else if SlotId.all.any fun used => assignment used == some agent then
      .error (.duplicateAgent agent)
    else assign (Function.update assignment slot (some agent)) rest

/-- A model of the agents in reading order, in the preferred layout when it has their
number and in the default layout otherwise. -/
def fromAgents (agents : List AgentId) (prefer : Option CanonicalLayout) :
    Except PaneLayoutError PaneLayoutModel := do
  let fallback := match defaultLayoutFor agents.length with
    | some layout => Except.ok layout
    | none => .error (.unsupportedAgentCount agents.length)
  let layout ← match prefer with
    | some preferred => if preferred.paneCount = agents.length then .ok preferred else fallback
    | none => fallback
  let assignment ← assign (fun _ => none) (layout.slots.zip agents)
  return { layout, assignment, ratios := fun _ => none }

variable (model : PaneLayoutModel)

/-- The agent in a slot. -/
def agentAt (slot : SlotId) : Option AgentId := model.assignment slot

/-- The slot that holds an agent. -/
def slotOf (agent : AgentId) : Option SlotId :=
  SlotId.all.find? fun slot => model.assignment slot == some agent

/-- The agents in the reading order of the layout. -/
def agentsInReadingOrder : List AgentId :=
  model.layout.slots.filterMap model.assignment

/-- Grow the layout by splitting the pane in one slot towards an edge, the new agent placed
before or after that pane in reading order. Four panes cannot grow. -/
def splitOrderedFromSlot (fromSlot : SlotId) (edge : EdgeDir)
    (newAgent : AgentId) : Except PaneLayoutError (Option PaneLayoutModel) := do
  if newAgent = "" then
    throw .emptyAgentId
  if SlotId.all.any fun used => model.assignment used == some newAgent then
    throw (.duplicateAgent newAgent)
  let source ← match model.agentAt fromSlot with
    | some agent => pure agent
    | none => throw (.agentNotFound fromSlot.debug)
  let agents := model.agentsInReadingOrder
  let sourceIndex ← match model.layout.slots.findIdx? (· = fromSlot) with
    | some index => pure index
    | none => throw (.agentNotFound fromSlot.debug)
  let insertAfter := edge.isAfter
  let h := edge.isHorizontal
  let insertNearSource (target : CanonicalLayout) :=
    fromAgents (agents.insertIdx (sourceIndex + if insertAfter then 1 else 0) newAgent) (some target)
  let p0 := if insertAfter then source else newAgent
  let p1 := if insertAfter then newAgent else source
  let other := agents.getD (if sourceIndex = 0 then 1 else 0) ""
  let agent (index : Nat) := agents.getD index ""
  match model.layout, fromSlot, h with
  | .oneFull, _, _ => some <$> insertNearSource (if h then .twoColumns else .twoRows)
  | .twoColumns, _, true => some <$> insertNearSource .threeColumns
  | .twoRows, _, false => some <$> insertNearSource .threeRows
  | .twoColumns, .s0, _ => some <$> fromAgents [p0, other, p1] (some .threeRightMain)
  | .twoColumns, _, _ => some <$> fromAgents [other, p0, p1] (some .threeLeftMain)
  | .twoRows, .s0, _ => some <$> fromAgents [p0, p1, other] (some .threeBottomMain)
  | .twoRows, _, _ => some <$> fromAgents [other, p0, p1] (some .threeTopMain)
  | .threeRightMain, .s1, false =>
    some <$> fromAgents [agent 0, p0, agent 2, p1] (some .fourGrid)
  | .threeLeftMain, .s0, false =>
    some <$> fromAgents [p0, agent 1, p1, agent 2] (some .fourGrid)
  | .threeBottomMain, .s2, true =>
    some <$> fromAgents [agent 0, agent 1, p0, p1] (some .fourGrid)
  | .threeBottomMain, .s2, false =>
    some <$> fromAgents [agent 0, agent 1, p0, p1] (some .fourTopSplit)
  | .threeRightMain, .s1, true =>
    some <$> fromAgents [agent 0, p0, p1, agent 2] (some .fourLeftSplit)
  | .threeTopMain, .s0, true =>
    some <$> fromAgents [p0, p1, agent 1, agent 2] (some .fourGrid)
  | .threeBottomMain, .s0, _ | .threeBottomMain, .s1, _ =>
    some <$> insertNearSource .fourBottomMain
  | .threeTopMain, .s1, _ | .threeTopMain, .s2, _ => some <$> insertNearSource .fourTopMain
  | .threeLeftMain, .s1, _ | .threeLeftMain, .s2, _ => some <$> insertNearSource .fourLeftMain
  | .threeRightMain, .s0, _ =>
    some <$> fromAgents [p0, agent 1, p1, agent 2] (some .fourRightMain)
  | .threeRightMain, .s2, _ =>
    some <$> fromAgents [agent 0, agent 1, p0, p1] (some .fourRightMain)
  | .threeColumns, _, _ | .threeRows, _, _ | .threeLeftMain, _, _ | .threeRightMain, _, _
  | .threeTopMain, _, _ | .threeBottomMain, _, _ =>
    some <$> insertNearSource (if h then .fourColumns else .fourRows)
  | _, _, _ => return none

end PaneLayoutModel
end HydraTerm.Shell
