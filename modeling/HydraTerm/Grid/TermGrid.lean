import HydraTerm.Grid.Engine
import HydraTerm.Lib.Runs

/-!
# The daemon's terminal grid

`TermGrid` owns the engine and the bookkeeping that makes its snapshots comparable: the
generation and revision, and one content stamp for each visible row. Output and resizes
are its two mutations. A snapshot renders the visible lines into wire cells, spending one
hyperlink budget across all rows from the top down.

Minted generations are an input of each mutation, used only when a revision reaches the
`u64` ceiling. Replies and notifications that the parser queues are not part of the grid's
content and are left out.
-/

namespace HydraTerm.Grid

open Protocol Lib

universe u
variable {ε : Type u} (engine : Engine ε) (cols rows : Nat)

/-- Snapshot version. -/
def snapshotVersion : Nat := 2

/-- Largest grid dimension. -/
def gridMaxDimension : Nat := 2000

/-- Most history rows of a narrow grid. -/
def historyLines : Nat := 5000

/-- Most history cells of any grid. -/
def maxScrollbackCells : Nat := 2000000

/-- Bytes fed to the parser at once. -/
def maxParserAdvanceBytes : Nat := 4096

/-- The first value that does not fit `u64`. -/
def u64Ceiling : Nat := 2 ^ 64

/-- History rows kept for a width. -/
def historyBudget (cols : Nat) : Nat :=
  max 1 (min (maxScrollbackCells / max cols 1) historyLines)

/-- Clamp a requested dimension. -/
def clampDim (requested : Nat) : Nat := max 1 (min requested gridMaxDimension)

/-- The dimensions the daemon uses for a requested pair. -/
def normalizeDims : Nat × Nat := (clampDim cols, clampDim rows)

/-- Largest line of the wire protocol. -/
def maxLineBytes : Nat := 16 * 1024 * 1024

/-- Bytes a cell can take on the wire, without its link. -/
def worstCaseCellBytes : Nat := 256

/-- Bytes the links of one frame can take. -/
def worstCaseFrameHyperlinkBytes : Nat :=
  maxTerminalLinkCellsPerFrame * (maxTerminalUrlBytes + 32)

/-- Bytes of a snapshot besides its cells. -/
def snapshotHeaderBytes : Nat := 4 * 1024

/-- Most cells of a grid whose snapshot fits a line. -/
def maxSnapshotCells : Nat :=
  (maxLineBytes / 2 - snapshotHeaderBytes - worstCaseFrameHyperlinkBytes) / worstCaseCellBytes

/-- A grid of these dimensions fits the snapshot budget. -/
def fitsSnapshotBudget : Bool := decide (cols * rows ≤ maxSnapshotCells)

/-- The next revision, or `none` at the ceiling. -/
def nextRevision (revision : Nat) : Option Nat :=
  if revision + 1 < u64Ceiling then some (revision + 1) else none

/-- The grid of one session. -/
structure TermGrid (ε : Type u) where
  term : ε
  cols : Nat
  rows : Nat
  generation : SessionGeneration
  revision : Nat
  baseRevision : Nat
  rowStamps : List Nat
  stampCounter : Nat
  deriving DecidableEq

/-- A new grid: blank, all stamps zero. -/
def TermGrid.newWithGeneration (generation : SessionGeneration) : TermGrid ε where
  term := engine.create (clampDim cols) (clampDim rows) (historyBudget (clampDim cols))
  cols := clampDim cols
  rows := clampDim rows
  generation := generation
  revision := 0
  baseRevision := 0
  rowStamps := List.replicate (clampDim rows) 0
  stampCounter := 0

variable (grid : TermGrid ε)

/-- Advance the revision after a committed mutation. At the ceiling the fresh generation
starts over at revision zero. -/
def TermGrid.bumpRevision (fresh : SessionGeneration) : TermGrid ε :=
  match nextRevision grid.revision with
  | some next => { grid with baseRevision := grid.revision, revision := next }
  | none => { grid with generation := fresh, revision := 0, baseRevision := 0 }

/-- Write one stamp into every row a report covers. -/
def stampRows (stamps : List Nat) (rows stamp : Nat) : TermDamage → List Nat
  | .full => stamps.map (fun _ => stamp)
  | .lines named =>
    named.foldl (fun stamps line => if line < rows then stamps.set line stamp else stamps) stamps

/-- Fold the engine's damage into the row stamps and reset it. -/
def TermGrid.collectRowDamage : TermGrid ε :=
  let stamps :=
    if grid.rowStamps.length ≠ grid.rows then List.replicate grid.rows 0 else grid.rowStamps
  let stamp := (grid.stampCounter + 1) % u64Ceiling
  let polled := engine.damage grid.term
  { grid with
    term := engine.resetDamage polled.1
    rowStamps := stampRows stamps grid.rows stamp polled.2
    stampCounter := stamp }

/-- One chunk of output: parse it and trim the cells it touched. -/
def Engine.parseChunk (term : ε) (chunk : List UInt8) : ε :=
  engine.enforceRetainedCellTextBudget cols rows (engine.advance term chunk)

/-- Clamp the engine's history for the current width. -/
def Engine.enforceHistoryBudget (cols : Nat) (term : ε) : ε :=
  engine.updateHistory term (historyBudget cols)

/-- Feed output to the grid. Empty output is no mutation. -/
def TermGrid.advance (bytes : List UInt8) (fresh : SessionGeneration) : TermGrid ε :=
  if bytes.isEmpty then grid
  else
    let parsed := (bytes.toChunks maxParserAdvanceBytes).foldl
      (engine.parseChunk grid.cols grid.rows) grid.term
    let evicted := { grid with term := engine.enforceHistoryBudget grid.cols parsed }
    (evicted.collectRowDamage engine).bumpRevision fresh

/-- Resize the grid. A request for the current dimensions is no mutation. -/
def TermGrid.resize (cols rows : Nat) (fresh : SessionGeneration) : TermGrid ε :=
  let cols := clampDim cols
  let rows := clampDim rows
  if cols = grid.cols ∧ rows = grid.rows then grid
  else
    let resized := engine.resize grid.term cols rows (historyBudget cols)
    let laid := { grid with
      term := engine.enforceHistoryBudget cols resized
      cols := cols
      rows := rows
      rowStamps := List.replicate rows 0 }
    (laid.collectRowDamage engine).bumpRevision fresh

/-- The underline variant of a set of flags, in the order the source tests them. -/
def underlineOf (flags : Flags) : UnderlineStyle :=
  if flags.doubleUnderline then .double
  else if flags.undercurl then .curly
  else if flags.dottedUnderline then .dotted
  else if flags.dashedUnderline then .dashed
  else if flags.underline then .single
  else .none

section

variable (line : Nat → EngineCell) (cols col : Nat)

/-- The cell leads a complete wide pair within its row. -/
def validWideLead : Bool :=
  let flags := (line col).flags
  !flags.leadingWideCharSpacer && flags.wideChar && !flags.wideCharSpacer
    && decide (col + 1 < cols)
    && (let next := (line (col + 1)).flags
        next.wideCharSpacer && !next.wideChar && !next.leadingWideCharSpacer)

/-- The cell is the spacer of a complete wide pair within its row. -/
def validWideSpacer : Bool :=
  let flags := (line col).flags
  !flags.leadingWideCharSpacer && flags.wideCharSpacer && !flags.wideChar && decide (col > 0)
    && (let previous := (line (col - 1)).flags
        previous.wideChar && !previous.wideCharSpacer && !previous.leadingWideCharSpacer)

/-- The cell carries a wide flag but is no part of a complete pair. -/
def malformedWideBoundary : Bool :=
  let flags := (line col).flags
  (flags.wideChar || flags.wideCharSpacer || flags.leadingWideCharSpacer)
    && !validWideLead line cols col && !validWideSpacer line col

/-- The text of a cell: nothing for a spacer, a blank for a broken pair, and otherwise the
base character with the marks that fit. -/
def cellText : String :=
  if validWideSpacer line col then ""
  else if malformedWideBoundary line cols col then " "
  else
    let base := if (line col).c = Char.ofNat 0 then ' ' else (line col).c
    match (line col).zerowidth with
    | none => String.ofList [base]
    | some marks => String.ofList (base :: fittingMarks base.utf8Size marks)

/-- A wire cell without its hyperlink. -/
def plainCell : Cell :=
  let cell := line col
  { text := cellText line cols col
    fg := cell.fg
    bg := cell.bg
    bold := cell.flags.bold
    italic := cell.flags.italic
    underline := underlineOf cell.flags
    inverse := cell.flags.inverse
    strikeout := cell.flags.strikeout
    dim := cell.flags.dim
    hidden := cell.flags.hidden
    hyperlink := none
    width := if validWideLead line cols col then 2 else if validWideSpacer line col then 0 else 1 }

/-- The hyperlink a cell would carry with budget to spare. -/
def linkTarget : Option String :=
  if (line col).flags.hidden || malformedWideBoundary line cols col then none
  else (line col).hyperlink.filter isSafeTerminalHttpUrl

/-- One wire cell, with the budget that remains after it. -/
def wireCell (remaining col : Nat) : Cell × Nat :=
  match (if remaining > 0 then linkTarget line cols col else none) with
  | some uri => ({ plainCell line cols col with hyperlink := some uri }, remaining - 1)
  | none => (plainCell line cols col, remaining)

/-- The cells of the given columns, spending the budget from left to right. -/
def wireCells : Nat → List Nat → List Cell × Nat
  | remaining, [] => ([], remaining)
  | remaining, col :: rest =>
    let first := wireCell line cols remaining col
    let later := wireCells first.2 rest
    (first.1 :: later.1, later.2)

/-- One line as wire cells. -/
def lineToCells (remaining : Nat) : List Cell × Nat :=
  wireCells line cols remaining (List.range cols)

end

/-- The engine's cells of one visible line. -/
def Engine.line (term : ε) (row : Nat) : Nat → EngineCell :=
  engine.cell term row

/-- The visible lines from `row` on, spending one budget from the top down. -/
def rowsToCells (engine : Engine ε) (term : ε) (cols : Nat) : Nat → List Nat → CellRows
  | _, [] => []
  | remaining, row :: rest =>
    let cells := lineToCells (engine.line term row) cols remaining
    cells.1 :: rowsToCells engine term cols cells.2 rest

/-- Copy metadata of one line. Its start depends on the line above. -/
def lineCopyMetadata (term : ε) (cols : Nat) (row : Nat) : RowCopy where
  startsLine :=
    if (row : Int) > engine.topmostLine term then
      some (!(engine.cell term ((row : Int) - 1) (cols - 1)).flags.wrapline)
    else none
  softWrap := (engine.cell term row (cols - 1)).flags.wrapline
  excludedColumns :=
    (List.range cols).filter (fun col => (engine.cell term row col).flags.leadingWideCharSpacer)

/-- The snapshot of a grid. -/
def TermGrid.snapshot : StampedSnapshot where
  version := snapshotVersion
  generation := grid.generation
  revision := grid.revision
  baseRevision := grid.baseRevision
  cols := grid.cols
  rows := grid.rows
  rowsCells :=
    rowsToCells engine grid.term grid.cols maxTerminalLinkCellsPerFrame (List.range grid.rows)
  rowCopy := some ((List.range grid.rows).map (lineCopyMetadata engine grid.term grid.cols))
  cursorLine := min (engine.cursor grid.term).1.toNat (grid.rows - 1)
  cursorCol := min (engine.cursor grid.term).2 (grid.cols - 1)
  cursorVisible := (engine.mode grid.term).showCursor
  cursorShape := engine.cursorShape grid.term
  altScreen := (engine.mode grid.term).altScreen
  appCursor := (engine.mode grid.term).appCursor
  bracketedPaste := (engine.mode grid.term).bracketedPaste
  focusReporting := (engine.mode grid.term).focusInOut
  mouseReport := (engine.mode grid.term).mouseReportClick
  mouseDrag := (engine.mode grid.term).mouseDrag
  mouseMotion := (engine.mode grid.term).mouseMotion
  mouseSgr := (engine.mode grid.term).sgrMouse
  rowStamps := grid.rowStamps

/-- One mutation of a grid, with the generation it would mint at the ceiling. -/
inductive Mutation where
  | advance (bytes : List UInt8) (fresh : SessionGeneration)
  | resize (cols rows : Nat) (fresh : SessionGeneration)

/-- Apply one mutation. -/
def TermGrid.mutate : Mutation → TermGrid ε
  | .advance bytes fresh => grid.advance engine bytes fresh
  | .resize cols rows fresh => grid.resize engine cols rows fresh

/-- The grid as a transition system. -/
def GridStep (before : TermGrid ε) (mutation : Mutation) (after : TermGrid ε) : Prop :=
  after = before.mutate engine mutation

end HydraTerm.Grid
