import HydraTerm.Grid.Rendering
import HydraTerm.Grid.SmallTerminal
import HydraTerm.Renderer.SyncLaws

/-!
# Every snapshot of a terminal grid is acceptable

The renderer decodes a snapshot under the byte caps of its cells and then checks the
dimensions, the hyperlink budget, the pairing of wide cells and the copy metadata. The
daemon never runs these checks on what it sends. It renders arbitrary engine lines, with
wide flags in any combination and at any column, so that they hold: a pair is sent only
when both halves are in place, a placeholder becomes a blank of width one, marks are cut
to the cap, and the budget is spent from the top down. No property of the engine is used.

What is left of the renderer's answer is about the session and its order of revisions.
-/

namespace HydraTerm.Renderer

open Grid Lib Protocol List

universe u
variable {ε : Type u} {columns : List Nat}

/-- The byte caps under which the renderer decodes a cell. -/
def cellDecodes (cell : Cell) : Bool :=
  decide (utf8Length cell.text.toList ≤ maxCellTextBytes)
    && (match cell.hyperlink with
      | none => true
      | some uri => decide (utf8Length uri.toList ≤ maxTerminalUrlBytes))

/-- Marks are kept while they fit after the bytes already used. -/
theorem fittingMarks_bytes {used : Nat} (marks : List Char) (start : used ≤ maxCellTextBytes) :
    used + utf8Length (fittingMarks used marks) ≤ maxCellTextBytes := by
  induction marks generalizing used with
  | nil => exact start
  | cons _ _ ih =>
    unfold fittingMarks
    split
    · exact start
    · next fits =>
      have later := ih (Nat.le_of_not_lt fits)
      simp only [utf8Length, map_cons, sum_cons] at later ⊢
      omega

section Line

variable (line : Nat → EngineCell) (cols : Nat) {col : Nat}

theorem cellText_bytes (col : Nat) :
    utf8Length (cellText line cols col).toList ≤ maxCellTextBytes := by
  have base (char : Char) : char.utf8Size ≤ maxCellTextBytes :=
    le_trans (Char.utf8Size_le_four char) (by decide)
  unfold cellText
  split
  · decide
  · split
    · decide
    · dsimp only
      cases (line col).zerowidth with
      | none =>
        simp only [String.toList_ofList, utf8Length, map_cons, map_nil, sum_cons,
          sum_nil, Nat.add_zero]
        exact base _
      | some marks =>
        simp only [String.toList_ofList, utf8Length, map_cons, sum_cons]
        exact fittingMarks_bytes marks (base _)

/-- Every rendered cell passes the decoder. -/
theorem wireCells_decode {remaining : Nat} {cell : Cell}
    (member : cell ∈ (wireCells line cols remaining columns).1) : cellDecodes cell = true := by
  obtain ⟨col, _, plain, link⟩ := wireCells_mem line cols member
  have text : cell.text = cellText line cols col := congrArg Cell.text plain
  simp only [cellDecodes, text, cellText_bytes line cols col, decide_true, Bool.true_and]
  split
  · rfl
  · next _ shown =>
    rw [shown] at link
    rcases link with absent | target
    · contradiction
    · exact decide_eq_true (safeUrl_bytes (linkTarget_safe target.symm))

/-- A lead within the row is complete exactly when the next cell is a complete spacer. -/
theorem validWideLead_iff (inside : col + 1 < cols) :
    validWideLead line cols col = true ↔ validWideSpacer line (col + 1) = true := by
  simp only [validWideLead, validWideSpacer, inside, decide_true, Bool.and_true, Nat.succ_pos',
    Nat.add_sub_cancel, Bool.and_eq_true, gt_iff_lt]
  tauto

/-- A lead in the last column is never complete. -/
theorem validWideLead_last (last : cols ≤ col + 1) : validWideLead line cols col = false := by
  simp [validWideLead, not_lt.mpr last, decide_false]

/-- No cell is both halves of a pair. -/
theorem not_lead_of_spacer (spacer : validWideSpacer line col = true) :
    validWideLead line cols col = false := by
  simp only [validWideSpacer, Bool.and_eq_true, Bool.not_eq_true'] at spacer
  simp [validWideLead, spacer.1.1.1.2]

/-- The width of a rendered cell. -/
def wireWidth (col : Nat) : Nat :=
  if validWideLead line cols col then 2 else if validWideSpacer line col then 0 else 1

theorem wireWidth_eq_two : wireWidth line cols col = 2 ↔ validWideLead line cols col = true := by
  unfold wireWidth
  split
  · next lead => simp [lead]
  · next lead => split <;> simp [lead]

theorem wireWidth_eq_zero : wireWidth line cols col = 0 ↔ validWideSpacer line col = true := by
  unfold wireWidth
  split
  · next lead =>
    constructor
    · exact fun two => nomatch two
    · intro spacer
      rw [not_lead_of_spacer line cols spacer] at lead
      contradiction
  · split
    · next spacer => simp [spacer]
    · next spacer => simp [spacer]

/-- The widths of a row, whatever the budget. -/
theorem wireCells_widths (remaining : Nat) (columns : List Nat) :
    (wireCells line cols remaining columns).1.map Cell.width
      = columns.map (wireWidth line cols) := by
  have plain := congrArg (List.map Cell.width) (wireCells_plain line cols remaining columns)
  rw [map_map, map_map] at plain
  exact plain

end Line

/-- The widths of one row: a two stands exactly before a zero, and no row starts with a
zero. -/
structure PairedWidths (widths : List Nat) : Prop where
  head : widths[0]? ≠ some 0
  paired : ∀ position, widths[position]? = some 2 ↔ widths[position + 1]? = some 0

/-- After a cell of any other width a row is still paired. -/
theorem PairedWidths.tail {width : Nat} {rest : List Nat} (row : PairedWidths (width :: rest))
    (single : width ≠ 2) : PairedWidths rest where
  head spacer := single (Option.some.inj ((row.paired 0).mpr spacer))
  paired position := row.paired (position + 1)

/-- Paired widths pass the scan of a row. The scan steps over a whole pair, and after a
pair no second spacer can follow. -/
theorem validateWideRow_ok {cells : List Cell} (row col : Nat)
    (paired : PairedWidths (cells.map Cell.width)) : validateWideRow row col cells = .ok () := by
  fun_induction validateWideRow row col cells with
  | case1 => rfl
  | case2 _ _ broken =>
    rcases broken with lead | spacer
    · have second := (paired.paired 0).mp (congrArg some lead)
      simp at second
    · exact absurd (congrArg some spacer) paired.head
  | case3 => rfl
  | case4 _ _ _ _ lead broken =>
    exact absurd (Option.some.inj ((paired.paired 0).mp (congrArg some lead))) broken
  | case5 _ _ _ rest _ _ ih =>
    have shifted : PairedWidths (rest.map Cell.width) :=
      { head := fun second => by
          have wide := Option.some.inj ((paired.paired 1).mpr second)
          omega
        paired := fun position => paired.paired (position + 2) }
    exact ih shifted
  | case6 _ _ _ _ _ orphan =>
    exact absurd (congrArg some orphan) paired.head
  | case7 _ _ _ _ single _ ih =>
    exact ih (paired.tail single)

/-- Every rendered line is paired. -/
theorem lineToCells_paired (line : Nat → EngineCell) (cols remaining : Nat) :
    PairedWidths ((lineToCells line cols remaining).1.map Cell.width) := by
  simp only [lineToCells, wireCells_widths]
  have width (position : Nat) : ((List.range cols).map (wireWidth line cols))[position]?
      = if position < cols then some (wireWidth line cols position) else none := by
    split
    · next inside => rw [getElem?_map, getElem?_range inside, Option.map_some]
    · next outside => exact getElem?_eq_none (by simpa using outside)
  constructor
  · rw [width]
    split
    · intro spacer
      have first := (wireWidth_eq_zero line cols).mp (Option.some.inj spacer)
      simp [validWideSpacer] at first
    · simp
  · intro position
    rw [width, width]
    by_cases inside : position + 1 < cols
    · rw [if_pos (Nat.lt_of_succ_lt inside), if_pos inside, Option.some.injEq, Option.some.injEq,
        wireWidth_eq_two, wireWidth_eq_zero, validWideLead_iff line cols inside]
    · rw [if_neg inside]
      simp only [reduceCtorEq, iff_false]
      split
      · intro lead
        have complete := (wireWidth_eq_two line cols).mp (Option.some.inj lead)
        rw [validWideLead_last line cols (Nat.le_of_not_lt inside)] at complete
        contradiction
      · simp

/-- Paired rows pass the scan of the grid. -/
theorem validateWideRows_ok {rows : CellRows} (row : Nat)
    (paired : ∀ cells ∈ rows, PairedWidths (cells.map Cell.width)) :
    validateWideRows row rows = .ok () := by
  induction rows generalizing row with
  | nil => rfl
  | cons cells _ ih =>
    simp only [validateWideRows, bind_ok_iff]
    have first := validateWideRow_ok row 0 (paired cells mem_cons_self)
    exact ⟨(), first, ih (row + 1)
      (fun later member => paired later (mem_cons_of_mem cells member))⟩

/-- An excluded column holds a placeholder, which is rendered as a blank of width one. -/
theorem plainCell_placeholder {line : Nat → EngineCell} {cols col : Nat}
    (placeholder : (line col).flags.leadingWideCharSpacer = true) :
    (plainCell line cols col).width = 1 ∧ (plainCell line cols col).text = " " := by
  have noLead : validWideLead line cols col = false := by simp [validWideLead, placeholder]
  have noSpacer : validWideSpacer line col = false := by simp [validWideSpacer, placeholder]
  simp [plainCell, cellText, malformedWideBoundary, noLead, noSpacer, placeholder]

/-- The placeholders of a line are blank in its cells. -/
theorem lineToCells_excluded (engine : Engine ε) (term : ε) (cols row remaining : Nat) :
    excludedCellsBlank (lineToCells (engine.line term row) cols remaining).1
      (lineCopyMetadata engine term cols row) = true := by
  unfold excludedCellsBlank
  rw [all_eq_true]
  intro col excluded
  obtain ⟨inRange, placeholder⟩ := mem_filter.mp excluded
  have inside : col < cols := mem_range.mp inRange
  obtain ⟨width, text⟩ := @plainCell_placeholder (engine.line term row) cols col placeholder
  have shown := congrArg (fun cells => cells[col]?)
    (wireCells_plain (engine.line term row) cols remaining (List.range cols))
  simp only [getElem?_map, getElem?_range inside, Option.map_some] at shown
  obtain ⟨_, found, plain⟩ := Option.map_eq_some_iff.mp shown
  simp only [lineToCells, found, Bool.and_eq_true, beq_iff_eq]
  exact ⟨(congrArg Cell.width plain).trans width, (congrArg Cell.text plain).trans text⟩

/-- So are those of all rendered lines, in the order of the metadata. -/
theorem rowsToCells_excluded (engine : Engine ε) (term : ε) (cols remaining : Nat)
    (rows : List Nat) : ((rowsToCells engine term cols remaining rows).zip
      (rows.map (lineCopyMetadata engine term cols))).all
        (fun pair => excludedCellsBlank pair.1 pair.2) = true := by
  induction rows generalizing remaining with
  | nil => rfl
  | cons _ _ ih =>
    simp [rowsToCells, lineToCells_excluded, ih]

/-- A strictly increasing list passes the neighbour check. -/
theorem strictlyIncreasing_of_pairwise (sorted : columns.Pairwise (· < ·)) :
    strictlyIncreasing columns = true := by
  induction columns with
  | nil => rfl
  | cons _ rest ih =>
    cases rest with
    | nil => rfl
    | cons second =>
      obtain ⟨below, later⟩ := pairwise_cons.mp sorted
      simp only [strictlyIncreasing, below second mem_cons_self, decide_true, Bool.true_and]
      exact ih later

/-- A visible row's known start is read off the wrap of the row above it. -/
theorem originsValid_range (engine : Engine ε) (term : ε) (cols start count : Nat) :
    originsValid ((List.range' start count).map (lineCopyMetadata engine term cols)) = true := by
  induction count generalizing start with
  | zero => rfl
  | succ count ih =>
    cases count with
    | zero => rfl
    | succ =>
      have rest := ih (start + 1)
      simp only [range'_succ, map_cons, originsValid, Bool.and_eq_true] at rest ⊢
      refine ⟨?_, rest⟩
      have above : ((start + 1 : Nat) : Int) - 1 = start := by omega
      simp only [lineCopyMetadata, above]
      split
      · rfl
      · next known =>
        split at known
        · rw [← Option.some.inj known]
          simp
        · contradiction

/-- The copy metadata of a snapshot is well formed and matches its cells. -/
theorem snapshot_rowCopyCellsValid (engine : Engine ε) (grid : TermGrid ε) (visible : 0 < grid.rows)
    : rowCopyCellsValid (grid.snapshot engine).rowsCells (grid.snapshot engine).rowCopy = true := by
  have height := snapshot_height engine grid
  have width : (((grid.snapshot engine).rowsCells.head?.map List.length).getD 0) = grid.cols := by
    cases cells : (grid.snapshot engine).rowsCells with
    | nil =>
      rw [cells] at height
      exact absurd height (ne_of_lt visible)
    | cons => exact snapshot_width engine grid (cells ▸ mem_cons_self)
  simp only [rowCopyCellsValid, width, Bool.and_eq_true, all_eq_true, beq_iff_eq]
  refine ⟨⟨fun row member => snapshot_width engine grid member, ?_⟩, ?_⟩
  · simp only [TermGrid.snapshot, rowCopyValid, Bool.and_eq_true, beq_iff_eq, all_eq_true] at height ⊢
    refine ⟨⟨by rw [height, length_map, length_range], ?_⟩, ?_⟩
    · intro copy member
      obtain ⟨_, _, rfl⟩ := mem_map.mp member
      simp only [excludedColumnsValid, Bool.and_eq_true, all_eq_true, decide_eq_true_eq]
      exact ⟨fun col excluded => mem_range.mp (mem_filter.mp excluded).1,
        strictlyIncreasing_of_pairwise (pairwise_lt_range.filter _)⟩
    · rw [range_eq_range']
      exact originsValid_range engine grid.term grid.cols 0 grid.rows
  · exact rowsToCells_excluded engine grid.term grid.cols _ _

/-- The snapshot of a grid passes the renderer's dimension check. -/
theorem snapshot_validateDimensions (engine : Engine ε) {grid : TermGrid ε} (sized : Sized grid) :
    validateDimensions (grid.snapshot engine).toGridSnapshot = .ok () := by
  obtain ⟨⟨colsPositive, colsBounded⟩, rowsPositive, rowsBounded⟩ := sized.bounds
  have ragged : ((grid.snapshot engine).rowsCells.any (·.length != grid.cols)) = false := by
    rw [any_eq_false]
    intro row member
    simp [snapshot_width engine grid member, bne_self_eq_false]
  have linked : terminalLinkCellsWithinCap (grid.snapshot engine).rowsCells = true :=
    decide_eq_true (snapshot_links engine grid)
  have height := snapshot_height engine grid
  simp only [validateDimensions, check_ok_iff]
  refine ⟨?_, ?_, not_not.mpr height, ?_, not_not.mpr linked, trivial⟩
  · exact not_or.mpr ⟨ne_of_gt colsPositive, ne_of_gt rowsPositive⟩
  · exact not_or.mpr ⟨not_lt.mpr colsBounded, not_lt.mpr rowsBounded⟩
  · exact Bool.not_eq_true _ ▸ ragged

/-- An admitted grid is accepted unless a later revision of its generation is held. -/
theorem onGrid_accepts_iff (state : SyncState) (id : SessionId) (snap : GridSnapshot) :
    (∃ outcome, (state.onGrid id snap).2 = .ok outcome) ↔ state.admitGrid id snap = .ok ()
      ∧ ∀ held, state.current = some (snap.generation, held) → held ≤ snap.revision := by
  unfold SyncState.onGrid
  cases admitted : state.admitGrid id snap with
  | error => simp
  | ok =>
    cases current : state.current with
    | none => simp
    | some pair =>
      obtain ⟨curGen, curRev⟩ := pair
      dsimp only
      split_ifs with same stale equal
      · simp [stale, same]
      · simp [equal]
      · simp [same, Nat.le_of_not_lt stale]
      · simp [same]

/-- The snapshot of any grid passes every check on its content, so the renderer's answer
depends on the session and on the order of revisions alone: it accepts the snapshot unless
the snapshot names another session, the session has ended, its generation is retired, or a
later revision of its generation is held. -/
theorem onGrid_accepts_snapshot_iff (engine : Engine ε) (grid : TermGrid ε) (sized : Sized grid) :
    (∀ row ∈ (grid.snapshot engine).rowsCells, ∀ cell ∈ row, cellDecodes cell = true)
      ∧ validateDimensions (grid.snapshot engine).toGridSnapshot = .ok ()
      ∧ terminalLinkCellsWithinCap (grid.snapshot engine).rowsCells = true
      ∧ validateWideLayout (grid.snapshot engine).toGridSnapshot = .ok ()
      ∧ rowCopyCellsValid (grid.snapshot engine).rowsCells (grid.snapshot engine).rowCopy = true
      ∧ ∀ (state : SyncState) (id : SessionId),
        (∃ outcome, (state.onGrid id (grid.snapshot engine).toGridSnapshot).2 = .ok outcome)
          ↔ id = state.sessionId ∧ state.phase ≠ .exited ∧ grid.generation ∉ state.retired
            ∧ ∀ held, state.current = some (grid.generation, held) → held ≤ grid.revision := by
  have dimensions := snapshot_validateDimensions engine sized
  have copy := snapshot_rowCopyCellsValid engine grid sized.bounds.2.1
  have layout : validateWideLayout (grid.snapshot engine).toGridSnapshot = .ok () := by
    apply validateWideRows_ok
    intro cells member
    obtain ⟨_, _, rfl⟩ := rowsToCells_mem member
    exact lineToCells_paired _ _ _
  refine ⟨?_, dimensions, ?_, layout, copy, ?_⟩
  · intro cells member
    obtain ⟨_, _, rfl⟩ := rowsToCells_mem member
    exact fun cell => wireCells_decode _ _
  · exact decide_eq_true (snapshot_links engine grid)
  · intro state id
    have admitted : state.admitGrid id (grid.snapshot engine).toGridSnapshot = .ok ()
        ↔ id = state.sessionId ∧ state.phase ≠ .exited ∧ grid.generation ∉ state.retired := by
      constructor
      · intro accepted
        obtain ⟨session, live, notRetired, _⟩ := admitGrid_ok accepted
        exact ⟨session, live, notRetired⟩
      · rintro ⟨session, live, notRetired⟩
        simp only [SyncState.admitGrid, check_ok_iff, bind_ok_iff]
        exact ⟨not_not.mpr session, live, not_not.mpr rfl, (), dimensions, (), layout,
          not_not.mpr copy, notRetired, trivial⟩
    rw [onGrid_accepts_iff, admitted, and_assoc, and_assoc]
    rfl

/-- A grid with output, in a view that has not seen it. -/
theorem onGrid_accepts_snapshot_iff_small :
    Sized ((smallGrid 4 2).after (ascii "ab"))
      ∧ ∃ outcome, ((SyncState.new "s").onGrid "s"
        (((smallGrid 4 2).after (ascii "ab")).snapshot smallEngine).toGridSnapshot).2 = .ok outcome := by
  have sized : Sized ((smallGrid 4 2).after (ascii "ab")) :=
    mutate_sized smallEngine _ (newWithGeneration_sized smallEngine 4 2 "g") _
  obtain ⟨_, _, _, _, _, accepts⟩ := onGrid_accepts_snapshot_iff smallEngine _ sized
  refine ⟨sized, (accepts (SyncState.new "s") "s").mpr ⟨rfl, ?_, ?_, ?_⟩⟩
  · exact fun exited => nomatch exited
  · exact Finset.notMem_empty _
  · exact fun held current => nomatch current

/-- The snapshot from before some output, in a view that holds the snapshot from after it. -/
theorem onGrid_refuses_earlier_snapshot :
    Sized (smallGrid 4 2)
      ∧ (((SyncState.new "s").onGrid "s"
          (((smallGrid 4 2).after (ascii "a")).snapshot smallEngine).toGridSnapshot).1.onGrid "s"
        ((smallGrid 4 2).snapshot smallEngine).toGridSnapshot).2 = .error (.staleRevision 0 1) :=
  ⟨newWithGeneration_sized smallEngine 4 2 "g", by decide +kernel⟩

end HydraTerm.Renderer
