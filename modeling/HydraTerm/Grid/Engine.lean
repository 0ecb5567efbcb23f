import HydraTerm.Grid.Snapshot
import HydraTerm.Protocol.TerminalLink

/-!
# The terminal engine as the daemon uses it

The VT parser and its grid come from a library. `Engine` lists the calls the daemon makes
on it, over an arbitrary state type; the parser's own state is part of that type. Lines
are numbered from the top of the screen, negative lines are scrollback. Polling the damage
may change the engine's bookkeeping, so it returns a state as well.

`Engine.Faithful` is what the daemon relies on in every state: reading and resetting damage
leave the cells alone. What a report names is assumed of single mutations, where it is used.

The engine's colour and cursor-shape enumerations map constructor by constructor onto
those of the wire and are not repeated.
-/

namespace HydraTerm.Grid

open Protocol

universe u

/-- The cell attributes the engine tracks as flags. -/
structure Flags where
  inverse : Bool := false
  bold : Bool := false
  italic : Bool := false
  underline : Bool := false
  wrapline : Bool := false
  wideChar : Bool := false
  wideCharSpacer : Bool := false
  dim : Bool := false
  hidden : Bool := false
  strikeout : Bool := false
  leadingWideCharSpacer : Bool := false
  doubleUnderline : Bool := false
  undercurl : Bool := false
  dottedUnderline : Bool := false
  dashedUnderline : Bool := false
  deriving DecidableEq

/-- One cell of the engine. `zerowidth` holds combining marks after the base character. -/
structure EngineCell where
  c : Char
  fg : Color
  bg : Color
  flags : Flags
  zerowidth : Option (List Char)
  underlineColor : Option Color
  hyperlink : Option String
  deriving DecidableEq

/-- A damage report: the whole screen, or a list of lines. -/
inductive TermDamage where
  | full
  | lines (rows : List Nat)
  deriving DecidableEq

/-- The report covers a visible row. -/
def TermDamage.Names : TermDamage → Nat → Prop
  | .full, _ => True
  | .lines rows, row => row ∈ rows

instance (damage : TermDamage) (row : Nat) : Decidable (damage.Names row) :=
  match damage with
  | .full => .isTrue trivial
  | .lines rows => inferInstanceAs (Decidable (row ∈ rows))

/-- The terminal modes a snapshot reports. -/
structure TermMode where
  altScreen : Bool
  showCursor : Bool
  appCursor : Bool
  bracketedPaste : Bool
  focusInOut : Bool
  mouseReportClick : Bool
  mouseDrag : Bool
  mouseMotion : Bool
  sgrMouse : Bool

/-- The calls the daemon makes on the terminal engine. -/
structure Engine (ε : Type u) where
  create : (cols rows history : Nat) → ε
  advance : ε → List UInt8 → ε
  resize : ε → (cols rows history : Nat) → ε
  updateHistory : ε → Nat → ε
  damage : ε → ε × TermDamage
  resetDamage : ε → ε
  cell : ε → Int → Nat → EngineCell
  setCell : ε → Int → Nat → EngineCell → ε
  topmostLine : ε → Int
  cursor : ε → Int × Nat
  cursorShape : ε → CursorShape
  mode : ε → TermMode

/-- Cap on the UTF-8 length of a cell's text. -/
def maxCellTextBytes : Nat := 64

/-- Longest run of marks that fits after `used` bytes, whole characters only. -/
def fittingMarks : Nat → List Char → List Char
  | _, [] => []
  | used, mark :: rest =>
    if used + mark.utf8Size > maxCellTextBytes then []
    else mark :: fittingMarks (used + mark.utf8Size) rest

/-- Bound the marks the engine retains for one cell. A cell within the cap is unchanged. -/
def trimCellText (cell : EngineCell) : EngineCell :=
  match cell.zerowidth with
  | none => cell
  | some marks =>
    let baseBytes := if cell.c = Char.ofNat 0 then 1 else cell.c.utf8Size
    let kept := fittingMarks baseBytes marks
    if kept.length = marks.length then cell
    else { cell with zerowidth := some kept }

variable {ε : Type u}

/-- Rows of the screen that the report covers. -/
def TermDamage.dirtyRows (damage : TermDamage) (rows : Nat) : List Nat :=
  match damage with
  | .full => List.range rows
  | .lines named => named.filter (· < rows)

/-- Trim every cell of one row. -/
def Engine.trimRow (engine : Engine ε) (cols : Nat) (state : ε) (row : Nat) : ε :=
  (List.range cols).foldl
    (fun state col => engine.setCell state row col (trimCellText (engine.cell state row col))) state

/-- Trim the combining marks in the engine's dirty visible rows. -/
def Engine.enforceRetainedCellTextBudget (engine : Engine ε) (cols rows : Nat) (state : ε) : ε :=
  let polled := engine.damage state
  (polled.2.dirtyRows rows).foldl (engine.trimRow cols) polled.1

/-- What the daemon relies on the engine for: reading and resetting the damage leave the cells
alone. -/
structure Engine.Faithful (engine : Engine ε) : Prop where
  damage_cell : ∀ state line col, engine.cell (engine.damage state).1 line col
    = engine.cell state line col
  reset_cell : ∀ state line col, engine.cell (engine.resetDamage state) line col
    = engine.cell state line col

end HydraTerm.Grid
