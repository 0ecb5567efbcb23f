import HydraTerm.Grid.Snapshot

/-!
# Damage frames and their structural validation

A damage frame carries one committed change of a grid as ordered operations with the
absolute cursor, modes and copy metadata after the change. Both ends validate the
shape of a frame before using it. The two validators share their header checks and
differ only in that the renderer also charges hyperlinked cells against the frame's
link budget; every frame that the renderer accepts the daemon accepts.

Row and column numbers are `u16` on the wire, so a validated sum of a start column
and a cell count cannot overflow the machine word it is computed in, and the checked
additions of the source never fail.
-/

namespace HydraTerm.Grid

/-- Version stamped on every damage frame. -/
def damageSchema : Nat := 1

/-- Cap on the operations of one frame. -/
def maxDamageOps : Nat := 4096

/-- Cap on the cells of all row spans of one frame. -/
def maxDamageCells : Nat := 1000000

/-- Largest grid dimension a frame may claim. -/
def maxDamageDimension : Nat := 2000

/-- One structured change of a grid. -/
inductive DamageOp where
  | rowSpan (row start : Nat) (cells : List Cell)
  | clearAll (cell : Cell)
  | scrollUp (top bottomExclusive lines : Nat)
  | scrollDown (top bottomExclusive lines : Nat)
  deriving DecidableEq

/-- One atomic damage frame, from `baseRevision` to `revision`. -/
structure DamageFrame where
  schema : Nat
  id : SessionId
  generation : SessionGeneration
  baseRevision : Nat
  revision : Nat
  cols : Nat
  rows : Nat
  cursor : CursorState
  modes : ModeState
  ops : List DamageOp
  rowCopy : Option (List RowCopy)
  deriving DecidableEq

/-- Why a frame failed validation. Only the renderer reports the hyperlink budget. -/
inductive DamageInvalid where
  | unsupportedSchema (got : Nat)
  | badDimensions (reason : String)
  | tooManyOps (got : Nat)
  | tooManyCells (got : Nat)
  | tooManyHyperlinkCells (got : Nat)
  | rowSpanOutOfBounds (op : Nat)
  | emptyRowSpan (op : Nat)
  | badScrollRegion (op : Nat)
  | badRevisionOrder (base rev : Nat)
  | cursorOutOfBounds (line col : Nat)
  | badCell (op : Nat)
  | badRowCopy
  deriving DecidableEq

/-- The checks both validators make before they look at any operation, in order. -/
def validateHeader (frame : DamageFrame) : Except DamageInvalid Unit :=
  if ¬ rowCopyValid frame.rowCopy frame.cols frame.rows then .error .badRowCopy
  else if frame.schema ≠ damageSchema then .error (.unsupportedSchema frame.schema)
  else if frame.cols = 0 ∨ frame.rows = 0 then .error (.badDimensions "zero cols or rows")
  else if frame.cols > maxDamageDimension ∨ frame.rows > maxDamageDimension then
    .error (.badDimensions "cols or rows exceed maximum")
  else if frame.baseRevision ≥ frame.revision then
    .error (.badRevisionOrder frame.baseRevision frame.revision)
  else if frame.cursor.col ≥ frame.cols ∨ frame.cursor.line ≥ frame.rows then
    .error (.cursorOutOfBounds frame.cursor.line frame.cursor.col)
  else if frame.ops.length > maxDamageOps then .error (.tooManyOps frame.ops.length)
  else .ok ()

/-- The bounds and cell checks of the row span at position `index`. -/
def validateSpan (cols rows index row start : Nat) (cells : List Cell) :
    Except DamageInvalid Unit :=
  if cells.isEmpty then .error (.emptyRowSpan index)
  else if row ≥ rows then .error (.rowSpanOutOfBounds index)
  else if start + cells.length > cols then .error (.rowSpanOutOfBounds index)
  else if ¬ cells.all cellIsValid then .error (.badCell index)
  else .ok ()

/-- The fill of the full clear at position `index` is the canonical blank cell. -/
def validateFill (index : Nat) (cell : Cell) : Except DamageInvalid Unit :=
  if ¬ cellIsValid cell ∨ cell.width ≠ 1 ∨ cell.text ≠ " " then .error (.badCell index)
  else .ok ()

/-- A scroll moves by a positive number of lines within a nonempty region. -/
def validateScroll (rows index top bottomExclusive lines : Nat) : Except DamageInvalid Unit :=
  if ¬ (top < bottomExclusive ∧ bottomExclusive ≤ rows ∧ lines > 0
      ∧ lines ≤ bottomExclusive - top) then .error (.badScrollRegion index)
  else .ok ()

/-- The daemon's loop over the operations, with the running count of span cells. -/
def validateOps (cols rows : Nat) : Nat → Nat → List DamageOp → Except DamageInvalid Unit
  | _, _, [] => .ok ()
  | index, totalCells, .rowSpan row start cells :: rest => do
    validateSpan cols rows index row start cells
    let totalCells := totalCells + cells.length
    if totalCells > maxDamageCells then .error (.tooManyCells totalCells)
    else validateOps cols rows (index + 1) totalCells rest
  | index, totalCells, .clearAll cell :: rest => do
    validateFill index cell
    validateOps cols rows (index + 1) totalCells rest
  | index, totalCells, .scrollUp top bottomExclusive lines :: rest
  | index, totalCells, .scrollDown top bottomExclusive lines :: rest => do
    validateScroll rows index top bottomExclusive lines
    validateOps cols rows (index + 1) totalCells rest

/-- The daemon's `DamageFrame::validate`. -/
def DamageFrame.validate (frame : DamageFrame) : Except DamageInvalid Unit := do
  validateHeader frame
  validateOps frame.cols frame.rows 0 0 frame.ops

end HydraTerm.Grid
