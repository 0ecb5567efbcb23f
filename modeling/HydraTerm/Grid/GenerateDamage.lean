import HydraTerm.Grid.Damage
import HydraTerm.Lib.Overwrite

/-!
# Generating damage from two snapshots

`generateDamage` diffs two authoritative snapshots of one grid. It emits a full clear
when the next screen is one canonical blank cell, a minimal row span for each changed
row otherwise, and replaces the spans by one whole-grid scroll with fewer spans when
applying those operations reproduces the next cells. Row stamps only narrow which rows
are compared.

The generator's loops return no value on exceeding a cap, which its caller turns into a
full snapshot. Row and column numbers are cast to `u16` where the source casts them.
Indexing of rows is total here: an index past either grid reads as absent, where the
source would panic; no snapshot of a grid has such a row.
-/

namespace HydraTerm.Grid

open Lib

/-- A cast to `u16`. -/
def asU16 (value : Nat) : Nat := value % 65536

/-- Outcome of diffing two snapshots. -/
inductive DamageGen where
  | noChange
  | resync
  | frame (frame : DamageFrame)
  deriving DecidableEq

/-- Some cursor or mode field differs. -/
def headerChanged (prev next : GridSnapshot) : Bool :=
  prev.cursorLine != next.cursorLine
    || prev.cursorCol != next.cursorCol
    || prev.cursorVisible != next.cursorVisible
    || prev.cursorShape != next.cursorShape
    || prev.altScreen != next.altScreen
    || prev.appCursor != next.appCursor
    || prev.bracketedPaste != next.bracketedPaste
    || prev.focusReporting != next.focusReporting
    || prev.mouseReport != next.mouseReport
    || prev.mouseDrag != next.mouseDrag
    || prev.mouseMotion != next.mouseMotion
    || prev.mouseSgr != next.mouseSgr

/-- The scan of one row pair. `first` is the earliest differing column seen so far and
`last` the latest; `col` is the column the remaining cells start at. -/
def rowDiffScan : List Cell → List Cell → Nat → Option Nat → Nat → Option Nat × Nat
  | prevCell :: prev, nextCell :: next, col, first, last =>
    if prevCell ≠ nextCell then rowDiffScan prev next (col + 1) (first.or (some col)) col
    else rowDiffScan prev next (col + 1) first last
  | _, _, _, first, last => (first, last)

/-- The minimal half-open span of columns that differ, or `none` for equal rows. -/
def rowDiffSpan (prev next : List Cell) : Option (Nat × Nat) :=
  let scanned := rowDiffScan prev next 0 none 0
  scanned.1.map (fun first => (first, scanned.2 + 1))

variable (rowsCells : CellRows) (prev next : CellRows)
  (top bottomExclusive lines : Nat)

/-- One assignment of a row-moving loop: row `target` takes the content of `source`. -/
def copyRow (target source : Nat) : CellRows :=
  rowsCells.set target (rowsCells[source]?.getD [])

/-- The upward loop, from the first row of the region forward. -/
def moveRowsUp : CellRows :=
  (List.range' top (bottomExclusive - lines - top)).foldl
    (fun rows index => copyRow rows index (index + lines)) rowsCells

/-- The downward loop, from the last row of the region backward. -/
def moveRowsDown : CellRows :=
  (List.range' (top + lines) (bottomExclusive - (top + lines))).reverse.foldl
    (fun rows index => copyRow rows index (index - lines)) rowsCells

/-- The half-open region lies within the grid and moves by at most its height. -/
def scrollRegionFits : Bool :=
  (decide (top < bottomExclusive) && decide (bottomExclusive ≤ rowsCells.length)
    && decide (lines > 0)) && !decide (lines > bottomExclusive - top)

/-- The daemon's `apply_scroll`: whole rows move, vacated rows keep their content. -/
def applyScroll : DamageOp → Except String CellRows
  | .scrollUp top bottomExclusive lines =>
    if scrollRegionFits rowsCells top bottomExclusive lines then
      .ok (moveRowsUp rowsCells top bottomExclusive lines)
    else .error "scroll region out of bounds"
  | .scrollDown top bottomExclusive lines =>
    if scrollRegionFits rowsCells top bottomExclusive lines then
      .ok (moveRowsDown rowsCells top bottomExclusive lines)
    else .error "scroll region out of bounds"
  | .rowSpan _ _ _ | .clearAll _ => .error "apply_scroll called on a non-scroll op"

/-- The smallest shift whose matching rows are at least two and at least three quarters
of the surviving rows. -/
def bestShift (rows : Nat) (matchesAt : Nat → Nat) : Option Nat :=
  (List.range' 1 (rows - 1)).find? (fun lines =>
    decide (matchesAt lines ≥ 2) && decide (matchesAt lines * 4 ≥ (rows - lines) * 3))

/-- Rows that line up after moving `prev` up by `lines`. -/
def upMatches (rows lines : Nat) : Nat :=
  (List.range (rows - lines)).countP (fun index => next[index]? == prev[index + lines]?)

/-- Rows that line up after moving `prev` down by `lines`. -/
def downMatches (rows lines : Nat) : Nat :=
  (List.range' lines (rows - lines)).countP (fun index => next[index]? == prev[index - lines]?)

/-- Propose one whole-grid scroll, upward first. The caller verifies the proposal. -/
def detectScroll : Option DamageOp :=
  let rows := prev.length
  if rows < 2 ∨ next.length ≠ rows then none
  else
    match bestShift rows (upMatches prev next rows) with
    | some lines => some (.scrollUp 0 (asU16 rows) (asU16 lines))
    | none =>
      match bestShift rows (downMatches prev next rows) with
      | some lines => some (.scrollDown 0 (asU16 rows) (asU16 lines))
      | none => none

variable (prev next : StampedSnapshot)

/-- Rows whose stamps differ, or `none` when the stamps give no usable hint. -/
def candidateRows : Option (List Nat) :=
  let rows := next.rowsCells.length
  if prev.rowStamps.length ≠ rows ∨ next.rowStamps.length ≠ rows ∨ rows = 0 then none
  else some ((List.range rows).filter (fun row => prev.rowStamps[row]? != next.rowStamps[row]?))

/-- Equal stamps at an index promise equal cells there. -/
def StampsSound : Prop :=
  ∀ row stamp : Nat, prev.rowStamps[row]? = some stamp → next.rowStamps[row]? = some stamp →
    prev.rowsCells[row]? = next.rowsCells[row]?

/-- Soundness of stamps looks at the rows that have one. -/
theorem stampsSound_iff :
    StampsSound prev next ↔ ∀ row < prev.rowStamps.length,
      prev.rowStamps[row]? = next.rowStamps[row]? →
        prev.rowsCells[row]? = next.rowsCells[row]? := by
  constructor
  · intro sound row inside same
    have stampAt := List.getElem?_eq_getElem inside
    exact sound row _ stampAt (same ▸ stampAt)
  · intro checked row stamp inPrev inNext
    have inside := (List.getElem?_eq_some_iff.mp inPrev).1
    exact checked row inside (inPrev.trans inNext.symm)

instance : Decidable (StampsSound prev next) :=
  decidable_of_iff' _ (stampsSound_iff prev next)

/-- Some candidate row differs; without a hint, the whole grids are compared. -/
def gridChangedHinted (candidates : Option (List Nat)) : Bool :=
  match candidates with
  | some rows => rows.any (fun row => prev.rowsCells[row]? != next.rowsCells[row]?)
  | none => prev.rowsCells != next.rowsCells

/-- One iteration of the span loop. The running operations and cell count are returned,
or `none` when either passes its cap. -/
def emitRow (base next : CellRows) (state : List DamageOp × Nat) (row : Nat) :
    Option (List DamageOp × Nat) :=
  match base[row]?, next[row]? with
  | some baseRow, some nextRow =>
    match rowDiffSpan baseRow nextRow with
    | some (start, stop) =>
      let cells := nextRow.extract start stop
      let totalCells := state.2 + cells.length
      let ops := state.1 ++ [.rowSpan (asU16 row) (asU16 start) cells]
      if ops.length > maxDamageOps ∨ totalCells > maxDamageCells then none
      else some (ops, totalCells)
    | none => some state
  | _, _ => some state

/-- Append a minimal span for every differing row among the candidates, or among all
rows without a hint. -/
def appendRowspanDiffs (base next : CellRows) (ops : List DamageOp)
    (candidates : Option (List Nat)) : Option (List DamageOp × Nat) :=
  (candidates.getD (List.range (min base.length next.length))).foldlM
    (emitRow base next) (ops, 0)

/-- The self-verification of one operation on the scratch rows. A full clear is never
part of a scroll frame and fails the check. -/
def verifyOp (verify : CellRows) (op : DamageOp) : Option CellRows :=
  match op with
  | .scrollUp _ _ _ | .scrollDown _ _ _ => (applyScroll verify op).toOption
  | .rowSpan row start cells =>
    match verify[row]? with
    | some target =>
      if start + cells.length ≤ target.length then
        some (verify.set row (overwrite target start cells))
      else none
    | none => none
  | .clearAll _ => none

/-- The frame from `prev` to `next` that carries `ops`. The session is stamped later by
the forwarder, so the identifier is empty here. -/
def frameWith (prev next : GridSnapshot) (ops : List DamageOp) : DamageFrame where
  schema := damageSchema
  id := ""
  generation := next.generation
  baseRevision := prev.revision
  revision := next.revision
  cols := asU16 next.cols
  rows := asU16 next.rows
  cursor := cursorStateOf next
  modes := modeStateOf next
  ops := ops
  rowCopy := next.rowCopy

/-- The single cell that fills the whole next grid, when it is a canonical blank. -/
def uniformBlank (next : CellRows) : Option Cell :=
  match next.head?.bind List.head? with
  | some fill =>
    if isCanonicalBlank fill && next.all (fun row => row.all (fun cell => cell == fill)) then
      some fill
    else none
  | none => none

/-- The scroll operation with its leftover spans, when it is shorter than the plain
operations and reproduces the next cells. -/
def scrollOps (prev next : CellRows) (ops : List DamageOp) : Option (List DamageOp) := do
  let plan ← detectScroll prev next
  let scratch ← (applyScroll prev plan).toOption
  let (scrollOps, _) ← appendRowspanDiffs scratch next [plan] none
  if scrollOps.length < ops.length then
    let verified ← scrollOps.foldlM verifyOp prev
    if verified = next then some scrollOps else none
  else none

/-- The daemon's `generate_damage`. -/
def generateDamage : DamageGen :=
  if prev.generation ≠ next.generation ∨ prev.cols ≠ next.cols ∨ prev.rows ≠ next.rows then .resync
  else
    let candidates := candidateRows prev next
    let gridChanged := gridChangedHinted prev next candidates
    let headerOrCopyChanged :=
      headerChanged prev.toGridSnapshot next.toGridSnapshot || prev.rowCopy != next.rowCopy
    let frame := frameWith prev.toGridSnapshot next.toGridSnapshot
    if (gridChanged || headerOrCopyChanged) && decide (next.revision ≤ prev.revision) then .resync
    else
      match (if gridChanged then uniformBlank next.rowsCells else none) with
      | some fill => .frame (frame [.clearAll fill])
      | none =>
        match appendRowspanDiffs prev.rowsCells next.rowsCells [] candidates with
        | none => .resync
        | some (ops, _) =>
          match (if gridChanged && decide (ops.length > 1) then
              scrollOps prev.rowsCells next.rowsCells ops else none) with
          | some scrolled => .frame (frame scrolled)
          | none =>
            if ops.isEmpty then
              if headerOrCopyChanged then .frame (frame []) else .noChange
            else .frame (frame ops)

end HydraTerm.Grid
