import HydraTerm.Renderer.Sync

/-!
# The browser's synchronization state

The web client carries its own port of the renderer's synchronization state. It reads the same
events from JSON, keeps the same four phases, and judges grids and damage frames by its own copies
of the structural checks. The handlers are written here as the browser computes them; that they
decide as the renderer does is a theorem about the two, not part of the model.

The records of the wire, the phases and the outcome of a grid are the renderer's. A cell parsed by
the browser keeps its hyperlink, although the browser's declared type does not list it and nothing
here reads it. Every number of a parsed event is a double: integers from `2 ^ 53` on are rounded.
Only revisions and the dimensions and cursor of a snapshot can be that large; the remaining numbers
are of at most 32 bits on the wire.
-/

namespace HydraTerm.Browser

open Grid
open Renderer (SyncPhase GridOutcome)

/-- An integer of the wire as the browser parses it: the nearest double, ties to even. -/
def jsNumber (value : Nat) : Nat :=
  if value < 2 ^ 53 then value
  else
    let spacing := 2 ^ (Nat.log2 value - 52)
    let below := value / spacing
    let rest := value % spacing
    if 2 * rest < spacing ∨ (2 * rest = spacing ∧ below % 2 = 0) then below * spacing
    else (below + 1) * spacing

/-- A snapshot as the browser parses it. -/
def parsedSnapshot (snap : GridSnapshot) : GridSnapshot :=
  { snap with
    revision := jsNumber snap.revision
    baseRevision := jsNumber snap.baseRevision
    cols := jsNumber snap.cols
    rows := jsNumber snap.rows
    cursorLine := jsNumber snap.cursorLine
    cursorCol := jsNumber snap.cursorCol }

/-- A damage frame as the browser parses it. -/
def parsedFrame (frame : DamageFrame) : DamageFrame :=
  { frame with
    baseRevision := jsNumber frame.baseRevision
    revision := jsNumber frame.revision }

/-! ## Structural checks -/

/-- The excluded columns of one row after `previous`: 16-bit numbers inside the row, each above
the one before it. -/
def excludedColumnsListed (cols : Nat) : Option Nat → List Nat → Bool
  | _, [] => true
  | previous, col :: rest =>
    decide (col ≤ 0xffff) && decide (col < cols)
      && (match previous with
        | none => true
        | some before => decide (before < col))
      && excludedColumnsListed cols (some col) rest

/-- The rows of copy metadata after `previous`. -/
def rowCopyRowsValid (cols : Nat) : Option RowCopy → List RowCopy → Bool
  | _, [] => true
  | previous, row :: rest =>
    excludedColumnsListed cols none row.excludedColumns
      && (match previous, row.startsLine with
        | some before, some starts => starts != before.softWrap
        | _, _ => true)
      && rowCopyRowsValid cols (some row) rest

/-- `rowCopyValid`. The tests that a value has its declared type hold of every parsed frame that
the renderer can decode. -/
def rowCopyValid (metadata : Option (List RowCopy)) (cols rows : Nat) : Bool :=
  match metadata with
  | none => true
  | some metadata => metadata.length == rows && rowCopyRowsValid cols none metadata

variable (rows : CellRows)

/-- `rowCopyCellsValid`: absent metadata passes without a look at the rows. -/
def rowCopyCellsValid (metadata : Option (List RowCopy)) : Bool :=
  match metadata with
  | none => true
  | some metadata =>
    let cols := (rows.head?.map List.length).getD 0
    rows.all (·.length == cols)
      && rowCopyValid (some metadata) cols rows.length
      && (rows.zip metadata).all (fun pair => pair.2.excludedColumns.all (fun col =>
        match pair.1[col]? with
        | some cell => cell.width == 1 && cell.text == " "
        | none => false))

/-- `cellIsValid`. -/
def cellIsValid (cell : Cell) : Bool :=
  if cell.width = 0 then cell.text == "" else cell.width == 1 || cell.width == 2

/-- The loop of `validateDamage` over the operations, with the running count of span cells. -/
def validateDamageOps (cols rows : Nat) : Nat → Nat → List DamageOp → Option String
  | _, _, [] => none
  | index, totalCells, .rowSpan row start cells :: rest =>
    if cells.length = 0 then some ("empty row_span op " ++ toString index)
    else if row ≥ rows then some ("row_span out of bounds op " ++ toString index)
    else if start + cells.length > cols then some ("row_span out of bounds op " ++ toString index)
    else if ¬ cells.all cellIsValid then some ("bad cell op " ++ toString index)
    else if totalCells + cells.length > maxDamageCells then
      some ("too many cells " ++ toString (totalCells + cells.length))
    else validateDamageOps cols rows (index + 1) (totalCells + cells.length) rest
  | index, totalCells, .clearAll cell :: rest =>
    if ¬ cellIsValid cell ∨ cell.width ≠ 1 ∨ cell.text ≠ " " then
      some ("bad cell op " ++ toString index)
    else validateDamageOps cols rows (index + 1) totalCells rest
  | index, totalCells, .scrollUp top bottomExclusive lines :: rest
  | index, totalCells, .scrollDown top bottomExclusive lines :: rest =>
    if ¬ (top < bottomExclusive ∧ bottomExclusive ≤ rows ∧ lines > 0
        ∧ lines ≤ bottomExclusive - top) then some ("bad scroll region op " ++ toString index)
    else validateDamageOps cols rows (index + 1) totalCells rest

/-- `validateDamage`: the first fault of a frame. -/
def validateDamage (frame : DamageFrame) : Option String :=
  if ¬ rowCopyValid frame.rowCopy frame.cols frame.rows then some "invalid row copy metadata"
  else if frame.schema ≠ damageSchema then
    some ("unsupported schema " ++ toString frame.schema)
  else if frame.cols = 0 ∨ frame.rows = 0 then some "zero cols or rows"
  else if frame.cols > maxDamageDimension ∨ frame.rows > maxDamageDimension then
    some "dims exceed maximum"
  else if frame.baseRevision ≥ frame.revision then
    some ("bad revision order base=" ++ toString frame.baseRevision ++ " rev="
      ++ toString frame.revision)
  else if frame.cursor.col ≥ frame.cols ∨ frame.cursor.line ≥ frame.rows then
    some "cursor out of bounds"
  else if frame.ops.length > maxDamageOps then
    some ("too many ops " ++ toString frame.ops.length)
  else validateDamageOps frame.cols frame.rows 0 0 frame.ops

/-! ## The state machine -/

/-- Why a grid was refused. -/
inductive Reject where
  | wrongSession
  | unsupportedVersion (got : Nat)
  | invalidDimensions (reason : String)
  | invalidWideLayout (row col : Nat)
  | retiredGeneration
  | staleRevision (got held : Nat)
  | sessionEnded
  deriving DecidableEq

/-- What the caller does after a damage frame. -/
inductive DamageOutcome where
  | applied (grid : GridSnapshot)
  | ignore
  | resync (reason : String)

/-- The browser's view of one session. -/
structure SyncState where
  sessionId : SessionId
  phase : SyncPhase
  curGen : Option SessionGeneration
  curRev : Nat
  retired : Finset SessionGeneration
  deriving DecidableEq

/-- A fresh state bound to `sessionId`. -/
def SyncState.new (sessionId : SessionId) : SyncState where
  sessionId := sessionId
  phase := .awaitingBaseline
  curGen := none
  curRev := 0
  retired := ∅

variable (state : SyncState) (id : SessionId)

/-- The accepted baseline. -/
def SyncState.accepted : Option (SessionGeneration × Nat) :=
  state.curGen.map (fun gen => (gen, state.curRev))

/-- `validateDimensions`: the first fault of a snapshot's shape. -/
def validateDimensions (snap : GridSnapshot) : Option Reject :=
  if snap.cols = 0 ∨ snap.rows = 0 then some (.invalidDimensions "zero cols or rows")
  else if snap.cols > 2000 ∨ snap.rows > 2000 then
    some (.invalidDimensions "cols or rows exceed maximum")
  else if snap.rowsCells.length ≠ snap.rows then
    some (.invalidDimensions "rows_cells length != rows")
  else if snap.rowsCells.any (·.length != snap.cols) then
    some (.invalidDimensions "a row's cell count != cols")
  else none

/-- The scan of one row from column `col`, up to its first fault. -/
def wideRowFault : Nat → List Cell → Option Nat
  | _, [] => none
  | col, [cell] =>
    if cell.width = 2 then some col else if cell.width = 0 then some col else none
  | col, cell :: spacer :: rest =>
    if cell.width = 2 then
      if spacer.width ≠ 0 then some col else wideRowFault (col + 2) rest
    else if cell.width = 0 then some col
    else wideRowFault (col + 1) (spacer :: rest)

/-- `validateWideLayout` from row `row` on: the place of the first fault. -/
def wideLayoutFault : Nat → CellRows → Option (Nat × Nat)
  | _, [] => none
  | row, cells :: rest =>
    match wideRowFault 0 cells with
    | some col => some (row, col)
    | none => wideLayoutFault (row + 1) rest

/-- The loop that writes the cells of a span into its row. -/
def writeCells : List Cell → Nat → List Cell → List Cell
  | row, _, [] => row
  | row, column, cell :: rest => writeCells (row.set column cell) (column + 1) rest

/-- `applyScroll`. The loop of an upward scroll counts up, that of a downward scroll counts down
from the last row of the region. -/
def applyScroll (top bottomExclusive lines : Nat) (up : Bool) : Except String CellRows :=
  if ¬ (top < bottomExclusive ∧ bottomExclusive ≤ rows.length ∧ lines > 0)
      ∨ lines > bottomExclusive - top then .error "scroll region out of bounds"
  else if up then
    .ok ((List.range (bottomExclusive - lines - top)).foldl (fun rows count =>
      rows.set (top + count) (rows[top + count + lines]?.getD [])) rows)
  else
    .ok ((List.range (bottomExclusive - (top + lines))).foldl (fun rows count =>
      rows.set (bottomExclusive - 1 - count) (rows[bottomExclusive - 1 - count - lines]?.getD []))
      rows)

/-- One operation on the rows of a scratch grid. -/
def applyOp : DamageOp → Except String CellRows
  | .clearAll cell => .ok (rows.map (fun row => row.map (fun _ => cell)))
  | .rowSpan row start cells =>
    match rows[row]? with
    | none => .error "RowSpan row past held grid"
    | some dstRow =>
      if start + cells.length > dstRow.length then .error "RowSpan span past held row width"
      else .ok (rows.set row (writeCells dstRow start cells))
  | .scrollUp top bottomExclusive lines => applyScroll rows top bottomExclusive lines true
  | .scrollDown top bottomExclusive lines => applyScroll rows top bottomExclusive lines false

/-- `applyOps`: the operations in order, up to the first that fails. -/
def applyOps : CellRows → List DamageOp → Except String CellRows
  | rows, [] => .ok rows
  | rows, op :: rest =>
    match applyOp rows op with
    | .error reason => .error reason
    | .ok next => applyOps next rest

/-- The checks of a grid that do not depend on the accepted revision, in order. -/
def SyncState.admitGrid (snap : GridSnapshot) : Except Reject Unit :=
  if id ≠ state.sessionId then .error .wrongSession
  else if state.phase = .exited then .error .sessionEnded
  else if snap.version ≠ 2 then .error (.unsupportedVersion snap.version)
  else
    match validateDimensions snap with
    | some reason => .error reason
    | none =>
      match wideLayoutFault 0 snap.rowsCells with
      | some (row, col) => .error (.invalidWideLayout row col)
      | none =>
        if ¬ rowCopyCellsValid snap.rowsCells snap.rowCopy then
          .error (.invalidDimensions "invalid row copy metadata")
        else if snap.generation ∈ state.retired then .error .retiredGeneration
        else .ok ()

/-- Make an admitted grid the baseline. -/
def SyncState.adoptGrid (snap : GridSnapshot) : SyncState :=
  { state with curGen := some snap.generation, curRev := snap.revision, phase := .synchronized }

/-- `onGrid`. -/
def SyncState.onGrid (snap : GridSnapshot) : SyncState × Except Reject GridOutcome :=
  match state.admitGrid id snap with
  | .error reason => (state, .error reason)
  | .ok () =>
    match state.curGen with
    | none => (state.adoptGrid snap, .ok { repaint := true, requestSnapshot := false })
    | some curGen =>
      if curGen = snap.generation then
        if snap.revision < state.curRev then
          (state, .error (.staleRevision snap.revision state.curRev))
        else if snap.revision = state.curRev then
          (state, .ok { repaint := false, requestSnapshot := false })
        else (state.adoptGrid snap, .ok { repaint := true, requestSnapshot := false })
      else
        ({ state with retired := insert curGen state.retired }.adoptGrid snap,
          .ok { repaint := true, requestSnapshot := false })

/-- A scratch copy of the held grid with the frame's cells and absolute post-frame state. -/
def carryFrame (scratch : GridSnapshot) (frame : DamageFrame) (rowsCells : CellRows) :
    GridSnapshot :=
  { scratch with
    rowsCells := rowsCells
    revision := frame.revision
    rowCopy := frame.rowCopy
    baseRevision := frame.baseRevision
    cursorLine := frame.cursor.line
    cursorCol := frame.cursor.col
    cursorVisible := frame.cursor.visible
    cursorShape := frame.cursor.shape
    altScreen := frame.modes.altScreen
    appCursor := frame.modes.appCursor
    bracketedPaste := frame.modes.bracketedPaste
    focusReporting := frame.modes.focusReporting
    mouseReport := frame.modes.mouseReport
    mouseDrag := frame.modes.mouseDrag
    mouseMotion := frame.modes.mouseMotion
    mouseSgr := frame.modes.mouseSgr }

/-- The part of `onDamage` after the continuity checks: operations, header, recheck. -/
def applyFrame (held : GridSnapshot) (frame : DamageFrame) : DamageOutcome :=
  match applyOps held.rowsCells frame.ops with
  | .error reason => .resync reason
  | .ok rowsCells =>
    match wideLayoutFault 0 rowsCells with
    | some (row, col) =>
      .resync ("post-apply wide layout invalid r" ++ toString row ++ "c" ++ toString col)
    | none =>
      if ¬ rowCopyCellsValid rowsCells frame.rowCopy then .resync "invalid row copy metadata"
      else .applied (carryFrame held frame rowsCells)

/-- The verdict of `onDamage`, every check in order. -/
def SyncState.judgeDamage (frame : DamageFrame) (held : GridSnapshot) : DamageOutcome :=
  if id ≠ state.sessionId then .ignore
  else if state.phase = .exited then .resync "session ended"
  else if frame.generation ∈ state.retired then .ignore
  else
    match validateDamage frame with
    | some invalid => .resync ("damage invalid: " ++ invalid)
    | none =>
      match state.curGen with
      | none => .resync "no baseline grid held"
      | some curGen =>
        if frame.generation ≠ curGen then .resync "generation mismatch"
        else if frame.revision ≤ state.curRev then .ignore
        else if frame.baseRevision ≠ state.curRev then
          .resync ("revision gap base=" ++ toString frame.baseRevision ++ " have="
            ++ toString state.curRev)
        else if frame.cols ≠ held.cols ∨ frame.rows ≠ held.rows then
          .resync "frame geometry disagrees with held grid"
        else applyFrame held frame

/-- `onDamage`: only a frame that applies advances the state. -/
def SyncState.onDamage (frame : DamageFrame) (held : GridSnapshot) : SyncState × DamageOutcome :=
  match state.judgeDamage id frame held with
  | .applied grid => ({ state with curRev := frame.revision, phase := .synchronized }, .applied grid)
  | outcome => (state, outcome)

/-- `onResyncRequired`. -/
def SyncState.onResyncRequired : SyncState × Except Reject Unit :=
  if id ≠ state.sessionId then (state, .error .wrongSession)
  else if state.phase = .exited then (state, .error .sessionEnded)
  else ({ state with phase := .awaitingResync }, .ok ())

/-- `onSessionExited`. -/
def SyncState.onSessionExited : SyncState × Except Reject Unit :=
  if id ≠ state.sessionId then (state, .error .wrongSession)
  else ({ state with phase := .exited }, .ok ())

end HydraTerm.Browser
