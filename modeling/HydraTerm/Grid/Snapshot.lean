import Mathlib

/-!
# Grid snapshots and row-copy metadata

The daemon publishes its terminal grid as a `GridSnapshot`: a rectangle of rich
cells, optional copy metadata for each row, the cursor, and the terminal modes.
The daemon and the renderer declare the same wire record independently; both are
modelled by the one record here. The per-row content stamps never reach the wire,
so they live in `StampedSnapshot`, the daemon's own view of the same screen.

Generations are UUIDs that both sides only compare, and are represented by their
serialized text. Revisions are natural numbers; the `u64` ceiling appears where
the daemon advances a revision. Cell text and hyperlinks are strings. Decoding
limits on their byte lengths belong to the JSON layer, which is not modelled.
-/

namespace HydraTerm.Grid

/-- A grid lifetime: the serialized UUID minted when a grid is created. -/
abbrev SessionGeneration := String

/-- The identifier a session is started and attached under. -/
abbrev SessionId := String

/-- The palette entries a terminal program can name. -/
inductive NamedColor where
  | black | red | green | yellow | blue | magenta | cyan | white
  | brightBlack | brightRed | brightGreen | brightYellow
  | brightBlue | brightMagenta | brightCyan | brightWhite
  | foreground | background | cursor
  | dimBlack | dimRed | dimGreen | dimYellow | dimBlue | dimMagenta | dimCyan | dimWhite
  | brightForeground | dimForeground
  deriving DecidableEq

/-- A cell colour: named, palette-indexed, or direct. -/
inductive Color where
  | named (name : NamedColor)
  | indexed (index : UInt8)
  | rgb (r g b : UInt8)
  deriving DecidableEq

/-- Underline variants, at most one of which a cell carries. -/
inductive UnderlineStyle where
  | none | single | double | curly | dotted | dashed
  deriving DecidableEq

/-- The three cursor shapes of the wire. -/
inductive CursorShape where
  | block | underline | beam
  deriving DecidableEq

/-- One rich cell. Width two marks the lead of a wide glyph, width zero the spacer
that follows it, and width one an ordinary cell. -/
structure Cell where
  text : String
  fg : Color
  bg : Color
  bold : Bool
  italic : Bool
  underline : UnderlineStyle
  inverse : Bool
  strikeout : Bool
  dim : Bool
  hidden : Bool
  hyperlink : Option String
  width : Nat
  deriving DecidableEq

/-- The cells of a screen, row by row. -/
abbrev CellRows := List (List Cell)

/-- A cell is valid when its width is at most two and a spacer carries no text. -/
def cellIsValid (cell : Cell) : Bool :=
  match cell.width with
  | 0 => cell.text.isEmpty
  | 1 => true
  | 2 => true
  | _ => false

/-- The glyph and width of an erased cell; its styling is free. -/
def isCanonicalBlank (cell : Cell) : Bool :=
  cell.width == 1 && cell.text == " "

/-- The blank cell with default colours. -/
def blankCell : Cell where
  text := " "
  fg := .named .foreground
  bg := .named .background
  bold := false
  italic := false
  underline := .none
  inverse := false
  strikeout := false
  dim := false
  hidden := false
  hyperlink := none
  width := 1

/-- Copy semantics of one row. An absent `startsLine` means that the predecessor
is unknown. -/
structure RowCopy where
  startsLine : Option Bool
  softWrap : Bool
  excludedColumns : List Nat
  deriving DecidableEq

/-- Excluded columns are listed in strictly increasing order, each checked against
its immediate neighbour only. -/
def strictlyIncreasing : List Nat → Bool
  | [] => true
  | [_] => true
  | first :: second :: rest => decide (first < second) && strictlyIncreasing (second :: rest)

/-- One row of metadata is well formed against its column count. -/
def excludedColumnsValid (cols : Nat) (row : RowCopy) : Bool :=
  row.excludedColumns.all (· < cols) && strictlyIncreasing row.excludedColumns

/-- A row's known line start is the negation of its predecessor's soft wrap. -/
def originsValid : List RowCopy → Bool
  | [] => true
  | [_] => true
  | previous :: row :: rest =>
    (match row.startsLine with
      | none => true
      | some starts => starts != previous.softWrap) && originsValid (row :: rest)

/-- The shape check on copy metadata shared by both wire mirrors. Absent metadata
is always valid. -/
def rowCopyValid (metadata : Option (List RowCopy)) (cols rows : Nat) : Bool :=
  match metadata with
  | none => true
  | some metadata =>
    metadata.length == rows && metadata.all (excludedColumnsValid cols) && originsValid metadata

/-- The largest number of hyperlinked cells in one snapshot. -/
def maxTerminalLinkCellsPerFrame : Nat := 256

/-- Hyperlinked cells among `cells`. -/
def linkCells (cells : List Cell) : Nat :=
  cells.countP (·.hyperlink.isSome)

@[simp] theorem linkCells_nil : linkCells [] = 0 := rfl

@[simp] theorem linkCells_append (left right : List Cell) :
    linkCells (left ++ right) = linkCells left + linkCells right :=
  List.countP_append

/-- The renderer's recheck of the hyperlink budget over a whole grid. The source
counts at most one cell past the cap, which decides the same comparison. -/
def terminalLinkCellsWithinCap (rows : CellRows) : Bool :=
  linkCells rows.flatten ≤ maxTerminalLinkCellsPerFrame

/-- One screen of the authoritative grid, as both ends of the wire see it. -/
structure GridSnapshot where
  version : Nat
  generation : SessionGeneration
  revision : Nat
  baseRevision : Nat
  cols : Nat
  rows : Nat
  rowsCells : CellRows
  rowCopy : Option (List RowCopy)
  cursorLine : Nat
  cursorCol : Nat
  cursorVisible : Bool
  cursorShape : CursorShape
  altScreen : Bool
  appCursor : Bool
  bracketedPaste : Bool
  focusReporting : Bool
  mouseReport : Bool
  mouseDrag : Bool
  mouseMotion : Bool
  mouseSgr : Bool
  deriving DecidableEq

/-- The daemon's snapshot: the wire record with the per-row content stamps that are
skipped by serialization. -/
structure StampedSnapshot extends GridSnapshot where
  rowStamps : List Nat
  deriving DecidableEq

/-- Cursor header of a damage frame: absolute state after the frame. -/
structure CursorState where
  line : Nat
  col : Nat
  visible : Bool
  shape : CursorShape
  deriving DecidableEq

/-- Mode header of a damage frame: absolute state after the frame. -/
structure ModeState where
  altScreen : Bool
  appCursor : Bool
  bracketedPaste : Bool
  focusReporting : Bool
  mouseReport : Bool
  mouseDrag : Bool
  mouseMotion : Bool
  mouseSgr : Bool
  deriving DecidableEq

variable (snapshot : GridSnapshot)

/-- The cursor header built from a snapshot. -/
def cursorStateOf : CursorState where
  line := snapshot.cursorLine
  col := snapshot.cursorCol
  visible := snapshot.cursorVisible
  shape := snapshot.cursorShape

/-- The mode header built from a snapshot. -/
def modeStateOf : ModeState where
  altScreen := snapshot.altScreen
  appCursor := snapshot.appCursor
  bracketedPaste := snapshot.bracketedPaste
  focusReporting := snapshot.focusReporting
  mouseReport := snapshot.mouseReport
  mouseDrag := snapshot.mouseDrag
  mouseMotion := snapshot.mouseMotion
  mouseSgr := snapshot.mouseSgr

/-- What a viewer of a snapshot can see: everything but its place in the history of the
grid. -/
structure Screen where
  cols : Nat
  rows : Nat
  rowsCells : CellRows
  rowCopy : Option (List RowCopy)
  cursor : CursorState
  modes : ModeState

/-- The screen a snapshot shows. -/
def screenOf : Screen where
  cols := snapshot.cols
  rows := snapshot.rows
  rowsCells := snapshot.rowsCells
  rowCopy := snapshot.rowCopy
  cursor := cursorStateOf snapshot
  modes := modeStateOf snapshot

/-- The screen of a grid to which nothing has been written, cursor at the origin. -/
def erasedScreen (generation : SessionGeneration) (revision cols rows : Nat) : GridSnapshot where
  version := 2
  generation := generation
  revision := revision
  baseRevision := revision
  cols := cols
  rows := rows
  rowsCells := List.replicate rows (List.replicate cols blankCell)
  rowCopy := none
  cursorLine := 0
  cursorCol := 0
  cursorVisible := true
  cursorShape := .block
  altScreen := false
  appCursor := false
  bracketedPaste := false
  focusReporting := false
  mouseReport := false
  mouseDrag := false
  mouseMotion := false
  mouseSgr := false

end HydraTerm.Grid
