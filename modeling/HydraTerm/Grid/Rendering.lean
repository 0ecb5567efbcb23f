import HydraTerm.Grid.TermGrid

/-!
# What a rendered row depends on

A row of a snapshot is not a function of its own line alone: the hyperlinks it shows
depend on how many the rows above have used up. Everything else in its cells, and its own
part of the copy metadata, is read off the line. The results here say both exactly: a row
shows as many links as the budget allows, and two rows with the same line that show the
same number of links are equal.
-/

namespace HydraTerm.Grid

open Protocol List Option

universe u
variable {ε : Type u} {row : Nat} (engine : Engine ε) (grid : TermGrid ε)

/-- Two lines agree on their first `cols` cells. -/
def SameLine (cols : Nat) (left right : Nat → EngineCell) : Prop :=
  ∀ col, col < cols → left col = right col

/-- Agreement composes. -/
theorem SameLine.trans {cols : Nat} {left middle right : Nat → EngineCell}
    (first : SameLine cols left middle) (second : SameLine cols middle right) :
    SameLine cols left right :=
  fun col inside => (first col inside).trans (second col inside)

/-- A cell without its hyperlink. -/
def withoutLink (cell : Cell) : Cell := { cell with hyperlink := none }

/-- The part of copy metadata that a row reads off its own line. -/
def ownCopy (copy : RowCopy) : Bool × List Nat := (copy.softWrap, copy.excludedColumns)

/-- Cells of the given columns that would show a link with budget to spare. -/
def linkCount (line : Nat → EngineCell) (cols : Nat) (columns : List Nat) : Nat :=
  columns.countP (fun col => (linkTarget line cols col).isSome)

section Lines

variable {cols : Nat} {left right : Nat → EngineCell}

section

variable (same : SameLine cols left right) {col : Nat} (inside : col < cols)
include same inside

/-- A complete wide pair is recognised from the line. -/
theorem SameLine.validWideLead : validWideLead left cols col = validWideLead right cols col := by
  unfold Grid.validWideLead
  by_cases next : col + 1 < cols
  · rw [same col inside, same (col + 1) next]
  · simp [same col inside, next, decide_false]

/-- So is the spacer of a pair. -/
theorem SameLine.validWideSpacer : validWideSpacer left col = validWideSpacer right col := by
  unfold Grid.validWideSpacer
  rw [same col inside, same (col - 1) (by omega)]

/-- So is a broken pair. -/
theorem SameLine.malformed :
    malformedWideBoundary left cols col = malformedWideBoundary right cols col := by
  unfold malformedWideBoundary
  rw [same col inside, same.validWideLead inside, same.validWideSpacer inside]

/-- Everything but the link of a cell is read off its line. -/
theorem SameLine.plainCell : plainCell left cols col = plainCell right cols col := by
  unfold Grid.plainCell cellText
  rw [same col inside, same.validWideLead inside, same.validWideSpacer inside,
    same.malformed inside]

/-- So is the link it would show. -/
theorem SameLine.linkTarget : linkTarget left cols col = linkTarget right cols col := by
  unfold Grid.linkTarget
  rw [same col inside, same.malformed inside]

end

section

variable (same : SameLine cols left right) {columns : List Nat}
  (inside : ∀ col ∈ columns, col < cols)
include same inside

/-- Lines that agree have as many links. -/
theorem SameLine.linkCount : linkCount left cols columns = linkCount right cols columns := by
  apply countP_congr
  intro col member
  rw [same.linkTarget (inside col member)]

/-- Lines that agree render alike from the same budget. -/
theorem SameLine.wireCells (remaining : Nat) :
    wireCells left cols remaining columns = wireCells right cols remaining columns := by
  induction columns generalizing remaining with
  | nil => rfl
  | cons col rest ih =>
    have here : col < cols := inside col mem_cons_self
    have first : wireCell left cols remaining col = wireCell right cols remaining col := by
      unfold wireCell
      rw [same.plainCell here, same.linkTarget here]
    simp [Grid.wireCells, first, ih (forall_mem_cons.mp inside).2]

end

end Lines

section Budget

variable (line : Nat → EngineCell) (cols remaining : Nat) (columns : List Nat)

/-- What one cell does to the budget. -/
theorem wireCell_cases (remaining col : Nat) :
    (wireCell line cols remaining col = (plainCell line cols col, remaining)
        ∧ (remaining = 0 ∨ linkTarget line cols col = none))
      ∨ ∃ uri, 0 < remaining ∧ linkTarget line cols col = some uri
          ∧ wireCell line cols remaining col
            = ({ plainCell line cols col with hyperlink := some uri }, remaining - 1) := by
  unfold wireCell
  by_cases positive : remaining > 0
  · rw [if_pos positive]
    cases target : linkTarget line cols col with
    | none => exact .inl ⟨rfl, .inr rfl⟩
    | some uri => exact .inr ⟨uri, positive, rfl, rfl⟩
  · rw [if_neg positive]
    exact .inl ⟨rfl, .inl (by omega)⟩

/-- Apart from links a row does not depend on the budget. -/
theorem wireCells_plain :
    (wireCells line cols remaining columns).1.map withoutLink
      = columns.map (plainCell line cols) := by
  induction columns generalizing remaining with
  | nil => rfl
  | cons col _ ih =>
    simp only [wireCells, map_cons, ih]
    congr 1
    rcases wireCell_cases line cols remaining col with ⟨rendered, _⟩ | ⟨uri, _, _, rendered⟩ <;>
      rw [rendered] <;> rfl

/-- A rendered cell is the plain cell of its column, with the column's link or none. -/
theorem wireCells_mem {remaining : Nat} {columns : List Nat} {cell : Cell}
    (member : cell ∈ (wireCells line cols remaining columns).1) :
    ∃ col ∈ columns, withoutLink cell = plainCell line cols col
      ∧ (cell.hyperlink = none ∨ cell.hyperlink = linkTarget line cols col) := by
  induction columns generalizing remaining with
  | nil => contradiction
  | cons col _ ih =>
    rcases mem_cons.mp member with rfl | later
    · refine ⟨col, mem_cons_self, ?_⟩
      rcases wireCell_cases line cols remaining col with
        ⟨rendered, _⟩ | ⟨uri, _, target, rendered⟩
      · rw [rendered]
        exact ⟨rfl, .inl rfl⟩
      · rw [rendered]
        exact ⟨rfl, .inr target.symm⟩
    · obtain ⟨other, inside, shown⟩ := ih later
      exact ⟨other, mem_cons_of_mem col inside, shown⟩

/-- The budget falls by the links of the line, down to zero. -/
theorem wireCells_remaining :
    (wireCells line cols remaining columns).2 = remaining - linkCount line cols columns := by
  induction columns generalizing remaining with
  | nil => rfl
  | cons col _ ih =>
    simp only [wireCells, ih, linkCount, countP_cons]
    rcases wireCell_cases line cols remaining col with
      ⟨rendered, none⟩ | ⟨uri, positive, target, rendered⟩
    · rw [rendered]
      rcases none with rfl | noTarget
      · simp
      · simp [noTarget]
    · simp only [rendered, target, isSome_some, if_true]
      omega

/-- A row shows as many links as the budget allows. -/
theorem wireCells_links :
    linkCells (wireCells line cols remaining columns).1
      = min remaining (linkCount line cols columns) := by
  induction columns generalizing remaining with
  | nil => simp [wireCells, linkCount]
  | cons col _ ih =>
    have shown := ih (wireCell line cols remaining col).2
    simp only [linkCells, wireCells, linkCount, countP_cons] at shown ⊢
    rw [shown]
    rcases wireCell_cases line cols remaining col with
      ⟨rendered, none⟩ | ⟨uri, positive, target, rendered⟩
    · rw [rendered]
      rcases none with rfl | noTarget
      · simp [plainCell]
      · simp [noTarget, plainCell]
    · simp only [rendered, target, isSome_some, if_true]
      omega

/-- A row is fixed by its line and the number of links it can afford. -/
theorem wireCells_congr {first second : Nat}
    (share : min first (linkCount line cols columns) = min second (linkCount line cols columns)) :
    (wireCells line cols first columns).1 = (wireCells line cols second columns).1 := by
  induction columns generalizing first second with
  | nil => rfl
  | cons col _ ih =>
    simp only [linkCount, countP_cons] at share
    cases target : linkTarget line cols col with
    | none =>
      simp only [target, isSome_none, Bool.false_eq_true, if_false, Nat.add_zero] at share
      simp only [wireCells, wireCell, target, ite_self]
      rw [ih share]
    | some =>
      simp only [target, isSome_some, if_true] at share
      by_cases spent : first = 0
      · have alsoSpent : second = 0 := by omega
        rw [spent, alsoSpent]
      · have left : first > 0 := by omega
        have right : second > 0 := by omega
        simp only [wireCells, wireCell, target, if_pos left, if_pos right]
        rw [@ih (first - 1) (second - 1) (by unfold linkCount; omega)]

end Budget

/-- Links on the lines above `row`. -/
def linksAbove (engine : Engine ε) (grid : TermGrid ε) (row : Nat) : Nat :=
  ((List.range row).map
    (fun above => linkCount (engine.line grid.term above) grid.cols (List.range grid.cols))).sum

/-- Each row is rendered from what the rows before it left of the budget. -/
theorem rowsToCells_getElem? (term : ε) (cols remaining : Nat) (rows : List Nat) (position : Nat) :
    (rowsToCells engine term cols remaining rows)[position]? = rows[position]?.map (fun row =>
      (lineToCells (engine.line term row) cols (remaining - ((rows.take position).map
        (fun above => linkCount (engine.line term above) cols (List.range cols))).sum)).1) := by
  induction rows generalizing remaining position with
  | nil => simp [rowsToCells, map_none]
  | cons _ _ ih =>
    cases position with
    | zero => simp [rowsToCells, map_some, take_zero, map_nil, sum_nil]
    | succ =>
      simp [rowsToCells, getElem?_cons_succ, ih, take_succ_cons,
        map_cons, sum_cons, lineToCells, wireCells_remaining, Nat.sub_sub]

/-- A visible row of a snapshot. -/
theorem snapshot_row (visible : row < grid.rows) :
    (grid.snapshot engine).rowsCells[row]? = some (lineToCells (engine.line grid.term row) grid.cols
      (maxTerminalLinkCellsPerFrame - linksAbove engine grid row)).1 := by
  simp [TermGrid.snapshot, rowsToCells_getElem?, getElem?_range visible, Nat.min_eq_left
    (Nat.le_of_lt visible), linksAbove]

/-- A snapshot has one row of cells for each visible line. -/
theorem snapshot_height : (grid.snapshot engine).rowsCells.length = grid.rows := by
  have rendered (term : ε) (cols remaining : Nat) (rows : List Nat) :
      (rowsToCells engine term cols remaining rows).length = rows.length := by
    induction rows generalizing remaining with
    | nil => rfl
    | cons _ _ ih =>
      simp [rowsToCells, ih]
  simp [TermGrid.snapshot, rendered]

/-- One cell is rendered for each column. -/
theorem length_wireCells (line : Nat → EngineCell) (cols remaining : Nat) (columns : List Nat) :
    (wireCells line cols remaining columns).1.length = columns.length := by
  simpa using congrArg List.length (wireCells_plain line cols remaining columns)

/-- Every row of a snapshot has the declared width. -/
theorem snapshot_width {row : List Cell}
    (member : row ∈ (grid.snapshot engine).rowsCells) : row.length = grid.cols := by
  obtain ⟨position, inside, found⟩ := mem_iff_getElem.mp member
  have visible : position < grid.rows := snapshot_height engine grid ▸ inside
  have shown := snapshot_row engine grid visible
  rw [getElem?_eq_getElem inside, found] at shown
  rw [Option.some.inj shown, lineToCells, length_wireCells, length_range]

/-- A link that is shown has passed the check on links. -/
theorem linkTarget_safe {line : Nat → EngineCell} {cols col : Nat} {uri : String}
    (target : linkTarget line cols col = some uri) : isSafeTerminalHttpUrl uri = true := by
  unfold linkTarget at target
  split at target
  · contradiction
  · exact (filter_eq_some_iff.mp target).2

/-- A row that was rendered, with the line and the budget it was rendered from. -/
theorem rowsToCells_mem {engine : Engine ε} {term : ε} {cols remaining : Nat} {rows : List Nat}
    {cells : List Cell} (member : cells ∈ rowsToCells engine term cols remaining rows) :
    ∃ row budget, cells = (lineToCells (engine.line term row) cols budget).1 := by
  induction rows generalizing remaining with
  | nil => contradiction
  | cons row _ ih =>
    rcases mem_cons.mp member with rfl | later
    · exact ⟨row, remaining, rfl⟩
    · exact ih later

/-- The rows of a grid share one budget for links. -/
theorem rowsToCells_links (term : ε) (cols remaining : Nat) (rows : List Nat) :
    linkCells (rowsToCells engine term cols remaining rows).flatten = min remaining
      (rows.map (fun row => linkCount (engine.line term row) cols (List.range cols))).sum := by
  induction rows generalizing remaining with
  | nil => exact (Nat.min_zero remaining).symm
  | cons _ _ ih =>
    simp only [rowsToCells, flatten_cons, linkCells_append, lineToCells, wireCells_links,
      ih, wireCells_remaining, map_cons, sum_cons]
    omega

/-- A snapshot keeps within the budget for links. -/
theorem snapshot_links :
    linkCells (grid.snapshot engine).rowsCells.flatten ≤ maxTerminalLinkCellsPerFrame :=
  Nat.le_trans (Nat.le_of_eq (rowsToCells_links engine grid.term grid.cols _ _))
    (Nat.min_le_left _ _)

/-- A grid has dimensions that the daemon admits. -/
def Sized (grid : TermGrid ε) : Prop :=
  ∃ cols rows, normalizeDims cols rows = (grid.cols, grid.rows)

/-- A new grid has admitted dimensions. -/
theorem newWithGeneration_sized (cols rows : Nat) (generation : SessionGeneration) :
    Sized (TermGrid.newWithGeneration engine cols rows generation) :=
  ⟨cols, rows, rfl⟩

/-- Every mutation keeps them. -/
theorem mutate_sized (sized : Sized grid)
    (mutation : Mutation) : Sized (grid.mutate engine mutation) := by
  have bumped {next : TermGrid ε} (fresh : SessionGeneration) (dims : Sized next) :
      Sized (next.bumpRevision fresh) := by
    unfold TermGrid.bumpRevision
    split <;> exact dims
  cases mutation with
  | advance _ fresh =>
    simp only [TermGrid.mutate, TermGrid.advance]
    split
    · exact sized
    · exact bumped fresh sized
  | resize cols rows fresh =>
    simp only [TermGrid.mutate, TermGrid.resize]
    split
    · exact sized
    · exact bumped fresh ⟨cols, rows, rfl⟩

theorem Sized.bounds (sized : Sized grid) :
    (0 < grid.cols ∧ grid.cols ≤ gridMaxDimension) ∧ 0 < grid.rows ∧ grid.rows ≤ gridMaxDimension := by
  obtain ⟨_, _, dims⟩ := sized
  obtain ⟨width, height⟩ := Prod.mk.inj dims
  rw [← width, ← height]
  unfold clampDim gridMaxDimension
  omega

/-- Copy metadata of one row of a snapshot. -/
def rowCopyAt (snapshot : GridSnapshot) (row : Nat) : Option RowCopy :=
  snapshot.rowCopy.bind (fun metadata => metadata[row]?)

/-- The metadata of a visible row. -/
theorem snapshot_rowCopyAt
    (visible : row < grid.rows) : rowCopyAt (grid.snapshot engine).toGridSnapshot row
      = some (lineCopyMetadata engine grid.term grid.cols row) := by
  simp [rowCopyAt, TermGrid.snapshot, getElem?_range visible]

/-- What a row shows of its own line in two snapshots of one grid: all its cells up to
links, its own copy metadata, and the links too where both snapshots show as many, in
particular where the links down to this row fit the budget. -/
structure RowAgrees (engine : Engine ε) (earlier later : TermGrid ε) (row : Nat) : Prop where
  plain : (earlier.snapshot engine).rowsCells[row]?.map (List.map withoutLink)
    = (later.snapshot engine).rowsCells[row]?.map (List.map withoutLink)
  copy : (rowCopyAt (earlier.snapshot engine).toGridSnapshot row).map ownCopy
    = (rowCopyAt (later.snapshot engine).toGridSnapshot row).map ownCopy
  linked : (earlier.snapshot engine).rowsCells[row]?.map linkCells
      = (later.snapshot engine).rowsCells[row]?.map linkCells →
    (earlier.snapshot engine).rowsCells[row]? = (later.snapshot engine).rowsCells[row]?
  fitting : linksAbove engine earlier (row + 1) ≤ maxTerminalLinkCellsPerFrame →
    linksAbove engine later (row + 1) ≤ maxTerminalLinkCellsPerFrame →
    (earlier.snapshot engine).rowsCells[row]? = (later.snapshot engine).rowsCells[row]?

/-- A line that did not change is shown unchanged, up to the budget. -/
theorem rowAgrees_of_sameLine {earlier later : TermGrid ε} (inEarlier : row < earlier.rows)
    (inLater : row < later.rows) (cols : earlier.cols = later.cols) (positive : 0 < earlier.cols)
    (same : SameLine earlier.cols (engine.line earlier.term row) (engine.line later.term row)) :
    RowAgrees engine earlier later row := by
  have inside : ∀ col ∈ List.range earlier.cols, col < earlier.cols :=
    fun col member => mem_range.mp member
  have links := same.linkCount inside
  have shown (remaining : Nat) : lineToCells (engine.line earlier.term row) earlier.cols remaining
      = lineToCells (engine.line later.term row) earlier.cols remaining :=
    same.wireCells inside remaining
  have byShare : min (maxTerminalLinkCellsPerFrame - linksAbove engine earlier row)
        (linkCount (engine.line later.term row) earlier.cols (List.range earlier.cols))
      = min (maxTerminalLinkCellsPerFrame - linksAbove engine later row)
        (linkCount (engine.line later.term row) earlier.cols (List.range earlier.cols)) →
      (earlier.snapshot engine).rowsCells[row]? = (later.snapshot engine).rowsCells[row]? := by
    intro share
    rw [snapshot_row engine earlier inEarlier, snapshot_row engine later inLater, ← cols, shown]
    exact congrArg some (wireCells_congr _ _ _ share)
  refine ⟨?_, ?_, ?_, ?_⟩
  · rw [snapshot_row engine earlier inEarlier, snapshot_row engine later inLater, ← cols, shown]
    simp [lineToCells, wireCells_plain]
  · rw [snapshot_rowCopyAt engine earlier inEarlier, snapshot_rowCopyAt engine later inLater,
      ← cols]
    simp only [map_some, ownCopy, lineCopyMetadata, Option.some.injEq, Prod.mk.injEq]
    constructor
    · exact congrArg (·.flags.wrapline) (same (earlier.cols - 1) (by omega))
    · apply filter_congr
      intro col member
      exact congrArg (·.flags.leadingWideCharSpacer)
        (same col (mem_range.mp member))
  · intro shares
    rw [snapshot_row engine earlier inEarlier, snapshot_row engine later inLater, ← cols, shown]
      at shares
    simp only [map_some, lineToCells, wireCells_links, Option.some.injEq] at shares
    exact byShare shares
  · intro earlierFits laterFits
    have through (grid : TermGrid ε) : linksAbove engine grid (row + 1) = linksAbove engine grid row
        + linkCount (engine.line grid.term row) grid.cols (List.range grid.cols) := by
      simp [linksAbove, range_succ, map_append, map_cons, map_nil,
        sum_append, sum_cons, sum_nil]
    rw [through, links] at earlierFits
    rw [through, ← cols] at laterFits
    exact byShare (by omega)

end HydraTerm.Grid
