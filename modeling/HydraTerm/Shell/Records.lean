import HydraTerm.Grid.Snapshot
import HydraTerm.Lib.BoxArea
import HydraTerm.Shell.PaneLayout

/-!
# Window layout records

The persisted layout of a window: its tabs in order, each with the session it shows, its
label, its place in the split tree, the rectangle of its pane, and whether it is stashed
(`records.rs`, `window_layout.rs`). A pane's rectangle is stored in whole per mille of the
window; `PaneRect.fromUnit` rounds each coordinate by itself, and `PaneRect.toUnit` reads
it back. A rectangle whose edges lie on the per-mille grid survives the round trip.

Of a window's record the optional window name is left out: no modelled operation reads it.
-/

namespace HydraTerm.Shell

open Lib
open Grid (SessionId)

abbrev TabId := String

abbrev WindowId := String

/-- Which way a tab was split off from its source tab. -/
inductive SplitAxis
  | right
  | down
deriving DecidableEq

/-- The tab another was split from, along which axis, and the persisted divider position. -/
structure SplitFrom where
  tabId : TabId
  axis : SplitAxis
  ratioPerMille : Option Nat
deriving DecidableEq

inductive Attention
  | none
  | activity
  | needsInput
  | error
  | done
deriving DecidableEq

inductive AttentionSource
  | process
  | agent
  | user
deriving DecidableEq

structure AttentionState where
  attention : Attention
  unseen : Bool
  sinceMs : Nat
  source : AttentionSource
deriving DecidableEq

/-- No attention, as a fresh tab has it. -/
def AttentionState.default : AttentionState := ⟨.none, false, 0, .process⟩

/-- A pane's rectangle in per mille of the window. -/
structure PaneRect where
  x : Nat
  y : Nat
  w : Nat
  h : Nat
deriving DecidableEq

structure TabRecord where
  tabId : TabId
  sessionId : SessionId
  index : Nat
  title : String
  pinned : Bool
  attention : AttentionState
  splitFrom : Option SplitFrom
  paneRect : Option PaneRect
  stashedFrom : Option SplitFrom
  stashed : Bool
deriving DecidableEq

structure WindowLayout where
  windowId : WindowId
  tabs : List TabRecord
deriving DecidableEq

/-- Why an operation on a window layout was refused. The reasons of an invalid order are
the ones the pane operations give; the last two cover what the source does not report as a
typed refusal: a session whose release cannot be journaled, and a panic. -/
inductive WindowLayoutError
  | tabNotFound (windowId : WindowId) (tabId : TabId)
  | tabAlreadyExists (windowId : WindowId) (tabId : TabId)
  | cannotStashLastPane (windowId : WindowId) (tabId : TabId)
  | invalidTabOrder (reason : String)
  | store (reason : String)
  | panic
deriving DecidableEq

/-! ## Rectangles -/

namespace UnitRect

variable (rect : UnitRect)

/-- The right edge of a rectangle. -/
def right : ℚ := rect.x + rect.w

/-- The bottom edge of a rectangle. -/
def bottom : ℚ := rect.y + rect.h

/-- The whole window. -/
def full : UnitRect := ⟨0, 0, 1, 1⟩

/-- The rectangle by its four edges. -/
def box : Box ℚ := ⟨rect.x, rect.y, rect.right, rect.bottom⟩

@[simp] theorem box_left : rect.box.left = rect.x := rfl
@[simp] theorem box_top : rect.box.top = rect.y := rfl
@[simp] theorem box_right : rect.box.right = rect.right := rfl
@[simp] theorem box_bottom : rect.box.bottom = rect.bottom := rfl

theorem box_area : rect.box.area = rect.w * rect.h := by
  simp only [Box.area, box_left, box_top, box_right, box_bottom, right, bottom]
  ring

theorem box_full : full.box = unitBox := by
  simp [box, full, unitBox, right, bottom]

end UnitRect

namespace PaneRect

/-- One coordinate in per mille, rounded and clamped. -/
def quantize (value : ℚ) : Nat := (max 0 (min (roundHalfAway (value * 1000)) 1000)).toNat

/-- A unit rectangle with each coordinate rounded to per mille. -/
def fromUnit (rect : UnitRect) : PaneRect :=
  ⟨quantize rect.x, quantize rect.y, quantize rect.w, quantize rect.h⟩

/-- Back to a unit rectangle. -/
def toUnit (rect : PaneRect) : UnitRect :=
  ⟨rect.x / 1000, rect.y / 1000, rect.w / 1000, rect.h / 1000⟩

/-- A whole number of per mille is not rounded. -/
theorem quantize_of_perMille {line : Nat} (most : line ≤ 1000) :
    quantize ((line : ℚ) / 1000) = line := by
  have whole : (line : ℚ) / 1000 * 1000 = (line : ℤ) := by
    push_cast
    ring
  have rounded : roundHalfAway ((line : ℚ) / 1000 * 1000) = line := by
    have nonneg : (0 : ℚ) ≤ (line : ℤ) := by positivity
    rw [roundHalfAway, whole, if_pos nonneg, Int.floor_intCast_add]
    norm_num
  rw [quantize, rounded]
  omega

end PaneRect

/-- A proper rectangle in the window whose edges lie on the per-mille grid is stored
exactly. -/
theorem toUnit_fromUnit {rect : UnitRect} (grid : rect.box.OnGrid 1000) (proper : rect.box.Proper)
    (within : rect.box.Within unitBox) : (PaneRect.fromUnit rect).toUnit = rect := by
  obtain ⟨⟨left, leftEq⟩, ⟨top, topEq⟩, ⟨right, _⟩, ⟨bottom, _⟩⟩ := grid
  obtain ⟨_, _⟩ := proper
  obtain ⟨_, _, _, _⟩ := within
  simp only [UnitRect.box_left, UnitRect.box_top, UnitRect.box_right, UnitRect.box_bottom,
    UnitRect.right, UnitRect.bottom, unitBox, Nat.cast_ofNat] at *
  have width : rect.w = ((right - left : ℕ) : ℚ) / 1000 ∧ left ≤ 1000 ∧ right - left ≤ 1000 := by
    have order : left < right := by
      have : (left : ℚ) < right := by linarith
      exact_mod_cast this
    have most : right ≤ 1000 := by
      have : (right : ℚ) ≤ 1000 := by linarith
      exact_mod_cast this
    refine ⟨?_, by omega, by omega⟩
    rw [Nat.cast_sub order.le]
    linarith
  have height : rect.h = ((bottom - top : ℕ) : ℚ) / 1000 ∧ top ≤ 1000 ∧ bottom - top ≤ 1000 := by
    have order : top < bottom := by
      have : (top : ℚ) < bottom := by linarith
      exact_mod_cast this
    have most : bottom ≤ 1000 := by
      have : (bottom : ℚ) ≤ 1000 := by linarith
      exact_mod_cast this
    refine ⟨?_, by omega, by omega⟩
    rw [Nat.cast_sub order.le]
    linarith
  obtain ⟨_, _, _, _⟩ := rect
  obtain ⟨rfl, leftMost, widthMost⟩ := width
  obtain ⟨rfl, topMost, heightMost⟩ := height
  subst leftEq topEq
  simp [PaneRect.fromUnit, PaneRect.toUnit, PaneRect.quantize_of_perMille, leftMost, topMost,
    widthMost, heightMost]

/-- A stored rectangle lies on the per-mille grid. -/
theorem toUnit_onGrid (rect : PaneRect) : rect.toUnit.box.OnGrid 1000 where
  left := ⟨rect.x, by simp [PaneRect.toUnit]⟩
  top := ⟨rect.y, by simp [PaneRect.toUnit]⟩
  right := ⟨rect.x + rect.w, by simp [PaneRect.toUnit, UnitRect.right]; ring⟩
  bottom := ⟨rect.y + rect.h, by simp [PaneRect.toUnit, UnitRect.bottom]; ring⟩

end HydraTerm.Shell
