import HydraTerm.Grid.TermGrid

/-!
# A small terminal

An engine for the part of the terminal language that the concrete runs below need:
printable ASCII with automatic wrapping, carriage return, line feed with scrollback, cursor
home, and hyperlinks. Other input is ignored. Damage is reported as the rows that differ
from the screen at the last reset together with the old and the new cursor row, and in full
after creation, a resize or a scroll. A resize cuts or pads the screen and does not reflow.

The engine satisfies what the daemon relies on, so results about every such engine apply to
it; that a report names what a mutation changed is checked on the runs.
-/

namespace HydraTerm.Grid

/-- Where the parser stands within a control sequence. -/
inductive ParserState where
  | ground
  | escape
  | csi (parameters : List UInt8)
  | osc (payload : List UInt8)
  | oscEscape (payload : List UInt8)
  deriving DecidableEq

/-- The blank cell of the engine. -/
def blankEngineCell : EngineCell where
  c := ' '
  fg := .named .foreground
  bg := .named .background
  flags := {}
  zerowidth := none
  underlineColor := none
  hyperlink := none

/-- State of the small terminal. `saved` and `savedRow` are the screen and the cursor row
when damage was last reset. -/
structure SmallTerm where
  cols : Nat
  rows : Nat
  limit : Nat
  history : List (List EngineCell)
  screen : List (List EngineCell)
  row : Nat
  col : Nat
  needsWrap : Bool
  parser : ParserState
  link : Option String
  saved : List (List EngineCell)
  savedRow : Nat
  full : Bool
  deriving DecidableEq

namespace SmallTerm

variable (term : SmallTerm)

/-- A cell of the screen, or of the scrollback for a negative line. -/
def cellAt (line : Int) (col : Nat) : EngineCell :=
  let row := match line with
    | .ofNat row => term.screen[row]?
    | .negSucc above => term.history[above]?
  ((row.getD [])[col]?).getD blankEngineCell

/-- Replace one cell of the screen. -/
def putCell (row col : Nat) (cell : EngineCell) : SmallTerm :=
  { term with screen := term.screen.modify row (fun cells => cells.set col cell) }

/-- Move to the next line, scrolling at the bottom. -/
def linefeed : SmallTerm :=
  if term.row + 1 < term.rows then { term with row := term.row + 1 }
  else
    { term with
      history := (term.screen.take 1 ++ term.history).take term.limit
      screen := term.screen.drop 1 ++ [List.replicate term.cols blankEngineCell]
      full := true }

/-- Take a pending wrap: mark the line as continued and go to the next one. -/
def wrap : SmallTerm :=
  if term.needsWrap then
    let last := term.cellAt term.row (term.cols - 1)
    let marked := { last with flags := { last.flags with wrapline := true } }
    { (term.putCell term.row (term.cols - 1) marked).linefeed with col := 0, needsWrap := false }
  else term

/-- Print one character at the cursor. -/
def print (char : Char) : SmallTerm :=
  let term := term.wrap
  let written := term.putCell term.row term.col { blankEngineCell with c := char, hyperlink := term.link }
  if written.col + 1 < written.cols then { written with col := written.col + 1 }
  else { written with needsWrap := true }

/-- Interpret the payload of an operating-system command: `8;parameters;address` opens a
hyperlink, with an empty address it closes one. -/
def dispatchOsc (payload : List UInt8) : SmallTerm :=
  match payload.map (fun byte => Char.ofNat byte.toNat) with
  | '8' :: ';' :: rest =>
    match (rest.dropWhile (· ≠ ';')).drop 1 with
    | [] => { term with link := none }
    | address => { term with link := some (String.ofList address) }
  | _ => term

/-- Feed one byte. -/
def feed (byte : UInt8) : SmallTerm :=
  match term.parser with
  | .ground =>
    if byte = 0x1b then { term with parser := .escape }
    else if byte = 0x0d then { term with col := 0, needsWrap := false }
    else if byte = 0x0a then term.linefeed
    else if 0x20 ≤ byte ∧ byte ≤ 0x7e then term.print (Char.ofNat byte.toNat)
    else term
  | .escape =>
    if byte = 0x5b then { term with parser := .csi [] }
    else if byte = 0x5d then { term with parser := .osc [] }
    else { term with parser := .ground }
  | .csi parameters =>
    if 0x40 ≤ byte ∧ byte ≤ 0x7e then
      if byte = 0x48 ∧ parameters = [] then
        { term with row := 0, col := 0, needsWrap := false, parser := .ground }
      else { term with parser := .ground }
    else { term with parser := .csi (parameters ++ [byte]) }
  | .osc payload =>
    if byte = 0x1b then { term with parser := .oscEscape payload }
    else if byte = 0x07 then { term.dispatchOsc payload with parser := .ground }
    else { term with parser := .osc (payload ++ [byte]) }
  | .oscEscape payload => { term.dispatchOsc payload with parser := .ground }

/-- The damage report. -/
def report : TermDamage :=
  if term.full then .full
  else .lines ((List.range (max term.screen.length term.saved.length)).filter (fun row =>
    row = term.row ∨ row = term.savedRow ∨ term.screen[row]? ≠ term.saved[row]?))

end SmallTerm

/-- A blank screen of the given size. -/
def blankScreen (cols rows : Nat) : List (List EngineCell) :=
  List.replicate rows (List.replicate cols blankEngineCell)

/-- The small terminal as an engine. -/
def smallEngine : Engine SmallTerm where
  create cols rows history :=
    { cols := cols, rows := rows, limit := history, history := [], screen := blankScreen cols rows,
      row := 0, col := 0, needsWrap := false, parser := .ground, link := none,
      saved := blankScreen cols rows, savedRow := 0, full := true }
  advance term bytes := bytes.foldl SmallTerm.feed term
  resize term cols rows _ :=
    { term with
      cols := cols, rows := rows,
      screen := (List.range rows).map (fun row => (List.range cols).map (term.cellAt row)),
      row := min term.row (rows - 1), col := min term.col (cols - 1), needsWrap := false,
      full := true }
  updateHistory term limit := { term with limit := limit, history := term.history.take limit }
  damage term := (term, term.report)
  resetDamage term := { term with saved := term.screen, savedRow := term.row, full := false }
  cell term line col := term.cellAt line col
  setCell term line col cell := term.putCell line.toNat col cell
  topmostLine term := -(term.history.length : Int)
  cursor term := (term.row, term.col)
  cursorShape _ := .block
  mode _ := ⟨false, true, false, false, false, false, false, false, false⟩

/-- Reading and resetting its damage leave the cells of the small terminal alone. -/
theorem smallEngine_faithful : smallEngine.Faithful := ⟨fun _ _ _ => rfl, fun _ _ _ => rfl⟩

/-- The bytes of an ASCII text. -/
def ascii (text : String) : List UInt8 := text.toList.map (·.toNat.toUInt8)

/-- Cursor home. -/
def homeSequence : List UInt8 := [0x1b, 0x5b, 0x48]

/-- Text inside a hyperlink. -/
def linked (text : List UInt8) : List UInt8 :=
  [0x1b, 0x5d] ++ ascii "8;;http://a" ++ [0x1b, 0x5c] ++ text
    ++ [0x1b, 0x5d] ++ ascii "8;;" ++ [0x1b, 0x5c]

/-- A new small terminal of the given size. -/
def smallGrid (cols rows : Nat) : TermGrid SmallTerm :=
  TermGrid.newWithGeneration smallEngine cols rows "g"

/-- The grid after some output. -/
def TermGrid.after (grid : TermGrid SmallTerm) (bytes : List UInt8) : TermGrid SmallTerm :=
  grid.mutate smallEngine (.advance bytes "h")

end HydraTerm.Grid
