import HydraTerm.Lib.Gaps
import HydraTerm.Shell.Records

/-!
# Pane geometry

The rectangle operations behind the panes of a window (`window_layout.rs`): the guard that
says whether rectangles tile the window, the local swallow, the local split, what happens
to the survivors when a pane is removed, where a revived pane goes, and the split tree that
is read off a set of rectangles.

Coordinates are exact rationals where the source has `f32`. Panes are compared by their
rectangle and their agent; the source's sets of list positions are written as conditions
on the pane at that position. The recursion of the tree recovery is bounded by the number
of panes, which every recursive call lowers.
-/

namespace HydraTerm.Shell

open Lib

/-- The rectangle of a pane. -/
structure AgentRect where
  agent : AgentId
  rect : UnitRect
deriving DecidableEq

/-- The pane's rectangle by its edges. -/
def AgentRect.box (pane : AgentRect) : Box ℚ := pane.rect.box

/-- The tolerance of every comparison of edges. -/
def rectEps : ℚ := 1 / 1000

/-- Two coordinates closer than the tolerance. -/
def nearlyEq (a b : ℚ) : Bool := |a - b| ≤ rectEps

def sameHeight (a b : UnitRect) : Bool := nearlyEq a.y b.y && nearlyEq a.h b.h

/-! ## The tiling guard -/

/-- The rectangle has an extent and lies in the window, up to the tolerance. -/
def inBounds (rect : UnitRect) : Bool :=
  !(rect.w ≤ rectEps || rect.h ≤ rectEps) &&
    !(rect.x < -rectEps || rect.y < -rectEps || 1 + rectEps < rect.right ||
      1 + rectEps < rect.bottom)

/-- The rectangles share more than the tolerance on both axes. -/
def rectsOverlap (p q : UnitRect) : Bool :=
  max p.x q.x + rectEps < min p.right q.right && max p.y q.y + rectEps < min p.bottom q.bottom

variable (panes : List AgentRect)

/-- The rectangles tile the window: each lies in it, no two overlap, and their areas sum to
the whole, up to the tolerance. -/
def rectsTileUnitSquare : Bool :=
  !panes.isEmpty && panes.all (fun pane => inBounds pane.rect) &&
    decide (panes.Pairwise fun p q => rectsOverlap p.rect q.rect = false) &&
    decide (|(panes.map fun pane => pane.rect.w * pane.rect.h).sum - 1| ≤ 1 / 1000)

/-! ## Swallow -/

inductive SwallowDir
  | left
  | right
  | up
  | down
deriving DecidableEq

/-- Two intervals overlap by more than the tolerance. -/
def intervalsOverlap (a0 a1 b0 b1 : ℚ) : Bool := min a0 a1 < b1 - rectEps && b0 < a1 - rectEps

variable (dir : SwallowDir) (removed : UnitRect) (side : Side)

/-- The rectangle lies directly across the edge of the focused one. -/
def liesAcross (f r : UnitRect) : Bool :=
  match dir with
  | .up => nearlyEq r.bottom f.y && intervalsOverlap r.x r.right f.x f.right
  | .down => nearlyEq r.y f.bottom && intervalsOverlap r.x r.right f.x f.right
  | .left => nearlyEq r.right f.x && intervalsOverlap r.y r.bottom f.y f.bottom
  | .right => nearlyEq r.x f.right && intervalsOverlap r.y r.bottom f.y f.bottom

/-- The focused rectangle extended to the far edge of the ones across. -/
def extendFocus (f : UnitRect) (across : List UnitRect) : UnitRect :=
  match dir with
  | .up =>
    let top := across.foldl (fun edge r => min edge r.y) f.y
    { f with y := top, h := f.bottom - top }
  | .down =>
    let bottom := across.foldl (fun edge r => max edge r.bottom) f.bottom
    { f with h := bottom - f.y }
  | .left =>
    let left := across.foldl (fun edge r => min edge r.x) f.x
    { f with x := left, w := f.right - left }
  | .right =>
    let right := across.foldl (fun edge r => max edge r.right) f.right
    { f with w := right - f.x }

/-- The parts of a rectangle outside the focused one's span along the swallowed edge. -/
def clippedParts (f r : UnitRect) : List UnitRect :=
  match dir with
  | .left | .right =>
    (if r.y < f.y - rectEps then [{ r with h := f.y - r.y }] else []) ++
      if f.bottom + rectEps < r.bottom then [{ r with y := f.bottom, h := r.bottom - f.bottom }]
      else []
  | .up | .down =>
    (if r.x < f.x - rectEps then [{ r with w := f.x - r.x }] else []) ++
      if f.right + rectEps < r.right then [{ r with x := f.right, w := r.right - f.right }] else []

/-- The focused pane extends across its edge and takes the overlapping slice of the panes
there; a pane that would vanish or fall apart refuses the swallow. -/
def swallowRectLocal (focus : AgentId) (dir : SwallowDir) : Option (List AgentRect) :=
  match panes.find? (·.agent = focus) with
  | none => none
  | some focused =>
    let f := focused.rect
    let isAcross := fun pane : AgentRect => pane.agent ≠ focus && liesAcross dir f pane.rect
    let across := panes.filter isAcross
    if across.isEmpty then none
    else
      let newF := extendFocus dir f (across.map AgentRect.rect)
      panes.mapM fun pane =>
        if pane.agent = focus then some ⟨focus, newF⟩
        else if isAcross pane then
          match clippedParts dir f pane.rect with
          | [part] => some ⟨pane.agent, part⟩
          | _ => none
        else some pane

/-! ## Split -/

/-- The two halves of a rectangle cut along an edge: what its pane keeps, and what the pane
at the edge takes. -/
def splitRectLocal (rect : UnitRect) (edge : EdgeDir) : UnitRect × UnitRect :=
  let ⟨x, y, w, h⟩ := rect
  match edge with
  | .left => (⟨x + w / 2, y, w / 2, h⟩, ⟨x, y, w / 2, h⟩)
  | .right => (⟨x, y, w / 2, h⟩, ⟨x + w / 2, y, w / 2, h⟩)
  | .top => (⟨x, y + h / 2, w, h / 2⟩, ⟨x, y, w, h / 2⟩)
  | .bottom => (⟨x, y, w, h / 2⟩, ⟨x, y + h / 2, w, h / 2⟩)

/-! ## Removing a pane -/

/-- The rectangle's edge lies on the side of the freed one. -/
def touches (r : UnitRect) : Bool :=
  match side with
  | .left => nearlyEq r.right removed.x
  | .right => nearlyEq r.x removed.right
  | .top => nearlyEq r.bottom removed.y
  | .bottom => nearlyEq r.y removed.bottom

/-- The extent of a rectangle along a side. -/
def spanAlong (r : UnitRect) : ℚ × ℚ :=
  match side with
  | .left | .right => (r.y, r.bottom)
  | .top | .bottom => (r.x, r.right)

/-- The rectangle is a neighbour across the side: it touches it and overlaps it along the
side by more than the tolerance. -/
def neighbors (r : UnitRect) : Bool :=
  touches removed side r &&
    max (spanAlong side r).1 (spanAlong side removed).1 <
      min (spanAlong side r).2 (spanAlong side removed).2 - rectEps

/-- Each span begins where the one before it ended. -/
def spansMeet : List (ℚ × ℚ) → Bool
  | one :: other :: rest => nearlyEq one.2 other.1 && spansMeet (other :: rest)
  | _ => true

/-- Sorted spans that run from one end of the side to the other. -/
def coversSide (spans : List (ℚ × ℚ)) : Bool :=
  match spans.head?, spans.getLast? with
  | some first, some last =>
    nearlyEq first.1 (spanAlong side removed).1 && nearlyEq last.2 (spanAlong side removed).2 &&
      spansMeet spans
  | _, _ => false

/-- The rectangle extended over the freed one, away from the side. -/
def extendOver (r : UnitRect) : UnitRect :=
  match side with
  | .left | .right =>
    let newLeft := min r.x removed.x
    let newRight := max r.right removed.right
    { r with x := newLeft, w := newRight - newLeft }
  | .top | .bottom =>
    let newTop := min r.y removed.y
    let newBottom := max r.bottom removed.bottom
    { r with y := newTop, h := newBottom - newTop }

/-- Spans sorted by where they begin. -/
def sortSpans (spans : List (ℚ × ℚ)) : List (ℚ × ℚ) :=
  spans.insertionSort fun one other => one.1 ≤ other.1

/-- Fill the freed rectangle from one side, if its neighbours there exactly tile it. -/
def fillSide : Option (List AgentRect) :=
  let group := panes.filter fun pane => neighbors removed side pane.rect
  if group.isEmpty then none
  else if coversSide removed side (sortSpans (group.map fun pane => spanAlong side pane.rect)) then
    some (panes.map fun pane =>
      if neighbors removed side pane.rect then { pane with rect := extendOver removed side pane.rect }
      else pane)
  else none

/-- The sides in the order they are tried. -/
def fillOrder : List Side := [.left, .right, .top, .bottom]

/-- Fill the freed rectangle from the first side that fits. -/
def fillFreedByNeighbors : Option (List AgentRect) :=
  fillOrder.findSome? (fillSide panes removed)

/-- The spans nearly equal to each other on both ends. -/
def sameSpan (one other : ℚ × ℚ) : Bool := nearlyEq one.1 other.1 && nearlyEq one.2 other.2

/-- The distinct spans of the panes, sorted by where they begin. -/
def trackSpans (span : UnitRect → ℚ × ℚ) (panes : List AgentRect) : List (ℚ × ℚ) :=
  sortSpans (panes.foldl (fun spans pane =>
    if spans.any (sameSpan · (span pane.rect)) then spans else spans ++ [span pane.rect]) [])

/-- The track a pane belongs to. -/
def trackOf (span : UnitRect → ℚ × ℚ) (spans : List (ℚ × ℚ)) (rect : UnitRect) : Nat :=
  (spans.findIdx? (sameSpan · (span rect))).getD 0

/-- Give the surviving columns equal widths, heights kept. -/
def repackColumns : List AgentRect :=
  let span := spanAlong .top
  let spans := trackSpans span panes
  let w := 1 / (spans.length : ℚ)
  panes.map fun pane =>
    { pane with rect := ⟨trackOf span spans pane.rect * w, pane.rect.y, w, pane.rect.h⟩ }

/-- Give the surviving rows equal heights, widths kept. -/
def repackRows : List AgentRect :=
  let span := spanAlong .left
  let spans := trackSpans span panes
  let h := 1 / (spans.length : ℚ)
  panes.map fun pane =>
    { pane with rect := ⟨pane.rect.x, trackOf span spans pane.rect * h, pane.rect.w, h⟩ }

/-- The freed rectangle sticks out left or right of every survivor. -/
def freedColumn : Bool :=
  panes.all (fun pane => removed.x < pane.rect.x - rectEps) ||
    panes.all (fun pane => pane.rect.right + rectEps < removed.right)

/-- The survivors' rectangles after one was removed: a single survivor takes the window,
else the neighbours of one side fill the gap, else the survivors are packed anew. -/
def reduceRectsBySpec : List AgentRect :=
  if panes.length ≤ 1 then panes.map fun pane => { pane with rect := .full }
  else
    match fillFreedByNeighbors panes removed with
    | some filled => filled
    | none => if freedColumn panes removed then repackColumns panes else repackRows panes

/-! ## Reviving a pane -/

/-- One rectangle comes no later than another, by row and then by column. -/
def readsBefore (a b : UnitRect) : Prop := a.y < b.y ∨ a.y = b.y ∧ a.x ≤ b.x
  deriving Decidable

/-- The panes by row and then by column. -/
def readingOrder : List AgentRect :=
  panes.insertionSort fun a b => readsBefore a.rect b.rect

def fullHeight (pane : AgentRect) : Bool := nearlyEq pane.rect.y 0 && nearlyEq pane.rect.bottom 1

def fullWidth (pane : AgentRect) : Bool := nearlyEq pane.rect.x 0 && nearlyEq pane.rect.right 1

/-- Four panes in a grid, in reading order. -/
def grid (topLeft topRight bottomLeft bottomRight : AgentId) : List AgentRect :=
  [⟨topLeft, ⟨0, 0, 1 / 2, 1 / 2⟩⟩, ⟨topRight, ⟨1 / 2, 0, 1 / 2, 1 / 2⟩⟩,
    ⟨bottomLeft, ⟨0, 1 / 2, 1 / 2, 1 / 2⟩⟩, ⟨bottomRight, ⟨1 / 2, 1 / 2, 1 / 2, 1 / 2⟩⟩]

/-- A third of the window. -/
def third : ℚ := 1 / 3

/-- Where the panes of a window go when one is revived among three. No result stands for the
panic of a layout without a full-height or full-width pane. -/
def reviveAmongThree (existing : List AgentRect) (first second last : AgentId)
    (reviving : AgentId) : Option (List AgentRect) :=
  if existing.all fullHeight then
    some [⟨first, ⟨0, 0, third, 1 / 2⟩⟩, ⟨reviving, ⟨0, 1 / 2, third, 1 / 2⟩⟩,
      ⟨second, ⟨third, 0, third, 1⟩⟩, ⟨last, ⟨2 * third, 0, third, 1⟩⟩]
  else if existing.all fullWidth then
    some [⟨first, ⟨0, 0, 1 / 2, third⟩⟩, ⟨reviving, ⟨1 / 2, 0, 1 / 2, third⟩⟩,
      ⟨second, ⟨0, third, 1, third⟩⟩, ⟨last, ⟨0, 2 * third, 1, third⟩⟩]
  else
    match existing.find? fullHeight with
    | some main =>
      let pair := (existing.filter (·.agent ≠ main.agent)).insertionSort fun a b => a.rect.y ≤ b.rect.y
      match pair with
      | p :: q :: _ =>
        if main.rect.x < 1 / 2 then some (grid main.agent p.agent reviving q.agent)
        else some (grid p.agent main.agent q.agent reviving)
      | _ => none
    | none =>
      match existing.find? fullWidth with
      | none => none
      | some main =>
        let pair :=
          (existing.filter (·.agent ≠ main.agent)).insertionSort fun a b => a.rect.x ≤ b.rect.x
        match pair with
        | p :: q :: _ =>
          if main.rect.y < 1 / 2 then some (grid main.agent reviving p.agent q.agent)
          else some (grid p.agent q.agent main.agent reviving)
        | _ => none

/-- The rectangles of the live panes and of a pane revived among them. -/
def reviveRectsBySpec (existing : List AgentRect) (reviving : AgentId) : Option (List AgentRect) :=
  match readingOrder existing with
  | [] => some [⟨reviving, .full⟩]
  | [a] => some [⟨a.agent, ⟨0, 0, 1 / 2, 1⟩⟩, ⟨reviving, ⟨1 / 2, 0, 1 / 2, 1⟩⟩]
  | [a, b] =>
    if sameHeight a.rect b.rect then
      some [⟨a.agent, ⟨0, 0, 1 / 2, 1 / 2⟩⟩, ⟨reviving, ⟨0, 1 / 2, 1 / 2, 1 / 2⟩⟩,
        ⟨b.agent, ⟨1 / 2, 0, 1 / 2, 1⟩⟩]
    else
      some [⟨a.agent, ⟨0, 0, 1 / 2, 1 / 2⟩⟩, ⟨reviving, ⟨1 / 2, 0, 1 / 2, 1 / 2⟩⟩,
        ⟨b.agent, ⟨0, 1 / 2, 1, 1 / 2⟩⟩]
  | [a, b, c] => reviveAmongThree existing a.agent b.agent c.agent reviving
  | _ => some (existing ++ [⟨reviving, ⟨0, 0, 0, 0⟩⟩])

/-! ## The split tree of a set of rectangles -/

variable (vertical : Bool)

/-- Where a rectangle begins along an axis; a vertical cut separates columns. -/
def leading (r : UnitRect) : ℚ := if vertical then r.x else r.y

/-- Where a rectangle ends along an axis. -/
def trailing (r : UnitRect) : ℚ := if vertical then r.right else r.bottom

/-- The panes on either side of a cut, if no pane straddles it. -/
def partitionAt (vertical : Bool) (cut : ℚ) : List AgentRect → Option (List AgentRect × List AgentRect)
  | [] => some ([], [])
  | pane :: rest =>
    if trailing vertical pane.rect ≤ cut + rectEps then
      (partitionAt vertical cut rest).map fun (before, after) => (pane :: before, after)
    else if cut - rectEps ≤ leading vertical pane.rect then
      (partitionAt vertical cut rest).map fun (before, after) => (before, pane :: after)
    else none

/-- The cut lies on the outer edge of the panes. -/
def onOuterEdge (panes : List AgentRect) (cut : ℚ) : Bool :=
  match panes.map fun pane => trailing vertical pane.rect with
  | [] => true
  | first :: rest => nearlyEq cut (rest.foldl max first)

/-- The two groups of panes of the first cut through the whole set, if there is one. -/
def guillotine (panes : List AgentRect) : Option (List AgentRect × List AgentRect) :=
  let cuts := (panes.map fun pane => trailing vertical pane.rect).insertionSort (· ≤ ·)
  cuts.findSome? fun cut =>
    if onOuterEdge vertical panes cut then none
    else
      match partitionAt vertical cut panes with
      | some (before, after) =>
        if before.isEmpty || after.isEmpty then none else some (before, after)
      | none => none

/-- The agent of the top left pane of a group. -/
def leftRootAgent (group : List AgentRect) : AgentId :=
  match group with
  | [] => ""
  | first :: rest =>
    (rest.foldl (fun best pane => if readsBefore best.rect pane.rect then best else pane) first).agent

/-- The link to a parent along an axis. -/
def splitFromParent (parent : AgentId × SplitAxis) : SplitFrom := ⟨parent.1, parent.2, none⟩

/-- The tree of a group of panes below a parent. -/
def collect : Nat → List AgentRect → Option (AgentId × SplitAxis) →
    List (AgentId × Option SplitFrom)
  | 0, _, _ => []
  | _ + 1, [], _ => []
  | _ + 1, [pane], parent => [(pane.agent, parent.map splitFromParent)]
  | bound + 1, pane :: other :: rest, parent =>
    match guillotine true (pane :: other :: rest) with
    | some (left, right) =>
      collect bound left parent ++ collect bound right (some (leftRootAgent left, .right))
    | none =>
      match guillotine false (pane :: other :: rest) with
      | some (top, bottom) =>
        collect bound top parent ++ collect bound bottom (some (leftRootAgent top, .down))
      | none =>
        (pane.agent, parent.map splitFromParent) ::
          (other :: rest).map fun p => (p.agent, some (splitFromParent (pane.agent, .right)))

/-- The panes with their links in the split tree, parents before children. -/
def topologyFromRects : List (AgentId × Option SplitFrom) :=
  collect panes.length panes none

end HydraTerm.Shell
