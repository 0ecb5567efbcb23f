import HydraTerm.Renderer.Wire

/-!
# The renderer's synchronization state

`SyncState` decides which grids and damage frames of one session may replace the screen.
Each event handler is a function from the state before to the state after and the
answer, so that "a refused event changes nothing" is a statement about the handlers
rather than part of how they are written.

A damage frame is judged against the held grid without touching the state; only a frame
that applies advances it. The held grid belongs to the caller and is passed in. Output
events are handled by test builds only and are not modelled, so `highestSeen` is read
but never raised here.
-/

namespace HydraTerm.Renderer

open Grid Lib

/-- Snapshot version this renderer understands. -/
def supportedVersion : Nat := 2

/-- Largest grid dimension a snapshot may have. -/
def maxDimension : Nat := 2000

/-- Why an event was refused. -/
inductive Reject where
  | wrongSession
  | unsupportedVersion (got : Nat)
  | invalidDimensions (reason : String)
  | invalidWideLayout (row col : Nat)
  | retiredGeneration
  | staleRevision (got held : Nat)
  | sessionEnded
  | damageInvalid (reason : DamageInvalid)
  | damageNotApplicable (reason : String)
  | damageRevisionGap (base held : Nat)
  deriving DecidableEq

/-- Lifecycle of the renderer's view of one session. -/
inductive SyncPhase where
  | awaitingBaseline | synchronized | awaitingResync | exited
  deriving DecidableEq

/-- What the caller does after a resync or exit event. -/
inductive Action where
  | none | exited

/-- What the caller does after an accepted grid. -/
structure GridOutcome where
  repaint : Bool
  requestSnapshot : Bool
  deriving DecidableEq

/-- What the caller does after a damage frame. -/
inductive DamageOutcome where
  | applied (grid : GridSnapshot)
  | ignore
  | resync (reason : Reject)
  deriving DecidableEq

/-- The renderer's view, bound to one session. -/
structure SyncState where
  sessionId : SessionId
  phase : SyncPhase
  current : Option (SessionGeneration × Nat)
  retired : Finset SessionGeneration
  requestInFlight : Bool
  highestSeen : Option (SessionGeneration × Nat)
  deriving DecidableEq

/-- A fresh state bound to `sessionId`. -/
def SyncState.new (sessionId : SessionId) : SyncState where
  sessionId := sessionId
  phase := .awaitingBaseline
  current := none
  retired := ∅
  requestInFlight := false
  highestSeen := none

/-- Declared dimensions are positive, bounded and agree with the cells, and the grid is
within the hyperlink budget. -/
def validateDimensions (snap : GridSnapshot) : Except Reject Unit :=
  if snap.cols = 0 ∨ snap.rows = 0 then .error (.invalidDimensions "zero cols or rows")
  else if snap.cols > maxDimension ∨ snap.rows > maxDimension then
    .error (.invalidDimensions "cols or rows exceed maximum")
  else if snap.rowsCells.length ≠ snap.rows then
    .error (.invalidDimensions "rows_cells length != rows")
  else if snap.rowsCells.any (·.length != snap.cols) then
    .error (.invalidDimensions "a row's cell count != cols")
  else if ¬ terminalLinkCellsWithinCap snap.rowsCells then
    .error (.invalidDimensions "terminal hyperlink cell cap exceeded")
  else .ok ()

/-- The wide-cell scan of one row from column `col`: a lead of width two is followed by
a spacer of width zero, and no spacer stands alone. -/
def validateWideRow (row : Nat) : Nat → List Cell → Except Reject Unit
  | _, [] => .ok ()
  | col, [cell] =>
    if cell.width = 2 ∨ cell.width = 0 then .error (.invalidWideLayout row col) else .ok ()
  | col, cell :: spacer :: rest =>
    if cell.width = 2 then
      if spacer.width ≠ 0 then .error (.invalidWideLayout row col)
      else validateWideRow row (col + 2) rest
    else if cell.width = 0 then .error (.invalidWideLayout row col)
    else validateWideRow row (col + 1) (spacer :: rest)

/-- The wide-cell scan of the rows from index `row` on. -/
def validateWideRows : Nat → CellRows → Except Reject Unit
  | _, [] => .ok ()
  | row, cells :: rest => do
    validateWideRow row 0 cells
    validateWideRows (row + 1) rest

/-- Every row satisfies the wide-cell contract. -/
def validateWideLayout (snap : GridSnapshot) : Except Reject Unit :=
  validateWideRows 0 snap.rowsCells

/-- The renderer's scroll, with its own check of the region against the actual rows. -/
def applyScrollOp (rowsCells : CellRows) (top bottomExclusive lines : Nat) (up : Bool) :
    Except String CellRows :=
  if ¬ (top < bottomExclusive ∧ bottomExclusive ≤ rowsCells.length ∧ lines > 0)
      ∨ lines > bottomExclusive - top then .error "scroll region out of bounds"
  else if up then
    .ok ((List.range' top (bottomExclusive - lines - top)).foldl
      (fun rows index => rows.set index (rows[index + lines]?.getD [])) rowsCells)
  else
    .ok ((List.range' (top + lines) (bottomExclusive - (top + lines))).reverse.foldl
      (fun rows index => rows.set index (rows[index - lines]?.getD [])) rowsCells)

/-- Apply one operation to the rows of a scratch grid. -/
def applyOp (rowsCells : CellRows) : DamageOp → Except String CellRows
  | .clearAll cell => .ok (rowsCells.map (fun row => row.map (fun _ => cell)))
  | .rowSpan row start cells =>
    match rowsCells[row]? with
    | none => .error "RowSpan row past held grid"
    | some target =>
      if start + cells.length > target.length then .error "RowSpan span past held row width"
      else .ok (rowsCells.set row (overwrite target start cells))
  | .scrollUp top bottomExclusive lines =>
    applyScrollOp rowsCells top bottomExclusive lines true
  | .scrollDown top bottomExclusive lines =>
    applyScrollOp rowsCells top bottomExclusive lines false

/-- Apply the operations in order, then recheck the hyperlink budget. -/
def applyOps (rowsCells : CellRows) (ops : List DamageOp) :
    Except String CellRows := do
  let applied ← ops.foldlM applyOp rowsCells
  if ¬ terminalLinkCellsWithinCap applied then
    .error "terminal hyperlink cell cap exceeded after damage"
  else .ok applied

variable (state : SyncState) (id : SessionId)

/-- Output past `(gen, rev)` has been observed in the same generation. -/
def SyncState.trailing (gen : SessionGeneration) (rev : Nat) : Bool :=
  match state.highestSeen with
  | some (seenGen, seenRev) => seenGen == gen && decide (seenRev > rev)
  | none => false

/-- Reconcile a pending snapshot request with a grid at `(gen, rev)`. The flag says that
output observed past this revision is still unfetched. -/
def SyncState.settlePendingAfterGrid (gen : SessionGeneration) (rev : Nat) : SyncState × Bool :=
  if state.trailing gen rev then ({ state with requestInFlight := true }, true)
  else ({ state with requestInFlight := false, highestSeen := none }, false)

/-- The checks of a grid that do not depend on the held revision, in order. -/
def SyncState.admitGrid (snap : GridSnapshot) : Except Reject Unit :=
  if id ≠ state.sessionId then .error .wrongSession
  else if state.phase = .exited then .error .sessionEnded
  else if snap.version ≠ supportedVersion then .error (.unsupportedVersion snap.version)
  else do
    validateDimensions snap
    validateWideLayout snap
    if ¬ rowCopyCellsValid snap.rowsCells snap.rowCopy then .error (.damageInvalid .badRowCopy)
    else if snap.generation ∈ state.retired then .error .retiredGeneration
    else .ok ()

/-- Make an admitted grid the baseline. -/
def SyncState.adoptGrid (snap : GridSnapshot) : SyncState × GridOutcome :=
  let adopted := { state with
    current := some (snap.generation, snap.revision), phase := .synchronized }
  let settled := adopted.settlePendingAfterGrid snap.generation snap.revision
  (settled.1, { repaint := true, requestSnapshot := settled.2 })

/-- The handler of a full grid. A grid of the held generation and revision is a duplicate:
it is accepted, settles a pending request and leaves the baseline and phase alone. -/
def SyncState.onGrid (snap : GridSnapshot) : SyncState × Except Reject GridOutcome :=
  match state.admitGrid id snap with
  | .error reason => (state, .error reason)
  | .ok () =>
    match state.current with
    | none =>
      let adopted := state.adoptGrid snap
      (adopted.1, .ok adopted.2)
    | some (curGen, curRev) =>
      if curGen = snap.generation then
        if snap.revision < curRev then (state, .error (.staleRevision snap.revision curRev))
        else if snap.revision = curRev then
          let settled := state.settlePendingAfterGrid snap.generation snap.revision
          (settled.1, .ok { repaint := false, requestSnapshot := settled.2 })
        else
          let adopted := state.adoptGrid snap
          (adopted.1, .ok adopted.2)
      else
        let adopted := { state with retired := insert curGen state.retired }.adoptGrid snap
        (adopted.1, .ok adopted.2)

/-- The held grid with the frame's cells and absolute post-frame state. -/
def withFrame (held : GridSnapshot) (frame : DamageFrame) (rowsCells : CellRows) :
    GridSnapshot :=
  { held with
    rowsCells := rowsCells
    revision := frame.revision
    rowCopy := frame.rowCopy
    baseRevision := frame.baseRevision
    cursorLine := frame.cursor.line
    cursorCol := frame.cursor.col
    cursorVisible := frame.cursor.visible
    cursorShape := frame.cursor.shape
    altScreen := frame.modes.altScreen
    appCursor := frame.modes.appCursor
    bracketedPaste := frame.modes.bracketedPaste
    focusReporting := frame.modes.focusReporting
    mouseReport := frame.modes.mouseReport
    mouseDrag := frame.modes.mouseDrag
    mouseMotion := frame.modes.mouseMotion
    mouseSgr := frame.modes.mouseSgr }

/-- Apply a continuous frame to a scratch copy of the held grid and check the result. -/
def applyFrame (held : GridSnapshot) (frame : DamageFrame) : DamageOutcome :=
  match applyOps held.rowsCells frame.ops with
  | .error reason => .resync (.damageNotApplicable reason)
  | .ok rowsCells =>
    let scratch := withFrame held frame rowsCells
    match validateWideLayout scratch with
    | .error reason => .resync reason
    | .ok () =>
      if ¬ rowCopyCellsValid scratch.rowsCells scratch.rowCopy then
        .resync (.damageInvalid .badRowCopy)
      else .applied scratch

/-- The verdict on a damage frame: every check of the handler, in order, up to the point
where the state advances. -/
def SyncState.judgeDamage (frame : DamageFrame) (held : GridSnapshot) : DamageOutcome :=
  if id ≠ state.sessionId then .ignore
  else if state.phase = .exited then .resync .sessionEnded
  else if frame.generation ∈ state.retired then .ignore
  else
    match validate frame with
    | .error reason => .resync (.damageInvalid reason)
    | .ok () =>
      match state.current with
      | none => .resync (.damageNotApplicable "no baseline grid held")
      | some (curGen, curRev) =>
        if frame.generation ≠ curGen then .resync (.damageNotApplicable "generation mismatch")
        else if frame.revision ≤ curRev then .ignore
        else if frame.baseRevision ≠ curRev then
          .resync (.damageRevisionGap frame.baseRevision curRev)
        else if frame.cols ≠ held.cols ∨ frame.rows ≠ held.rows then
          .resync (.damageNotApplicable "frame geometry disagrees with held grid")
        else applyFrame held frame

/-- The handler of a damage frame. The generation of an applied frame is the current one. -/
def SyncState.onDamage (frame : DamageFrame) (held : GridSnapshot) : SyncState × DamageOutcome :=
  match state.judgeDamage id frame held with
  | .applied scratch =>
    let advanced := { state with
      current := some (frame.generation, frame.revision), phase := .synchronized }
    ((advanced.settlePendingAfterGrid frame.generation frame.revision).1, .applied scratch)
  | .ignore => (state, .ignore)
  | .resync reason => (state, .resync reason)

/-- The daemon signalled lag and guarantees a fresh grid. -/
def SyncState.onResyncRequired : SyncState × Except Reject Action :=
  if id ≠ state.sessionId then (state, .error .wrongSession)
  else if state.phase = .exited then (state, .error .sessionEnded)
  else
    ({ state with phase := .awaitingResync, requestInFlight := false, highestSeen := none },
      .ok .none)

/-- The session ended. -/
def SyncState.onSessionExited : SyncState × Except Reject Action :=
  if id ≠ state.sessionId then (state, .error .wrongSession)
  else if state.phase = .exited then (state, .ok .none)
  else ({ state with phase := .exited }, .ok .exited)

/-- A snapshot request was refused by the outbound queue. -/
def SyncState.snapshotRequestNotAdmitted : SyncState :=
  { state with requestInFlight := false }

/-- A locally requested recovery snapshot may be enqueued. -/
def SyncState.canRequestLocalResync : Bool :=
  id == state.sessionId && state.phase != .exited && !state.requestInFlight

/-- A locally requested recovery snapshot entered the queue. -/
def SyncState.localResyncRequestAdmitted : SyncState × Except Reject Action :=
  if id ≠ state.sessionId then (state, .error .wrongSession)
  else if state.phase = .exited then (state, .error .sessionEnded)
  else if state.requestInFlight then (state, .ok .none)
  else ({ state with phase := .awaitingResync, requestInFlight := true }, .ok .none)

end HydraTerm.Renderer
