import HydraTerm.Grid.GeneratedFrames
import HydraTerm.Renderer.ViewRuns

/-!
# Damage reconstructs the snapshot it was generated from

The daemon diffs two snapshots; the renderer applies the result to the first. Each of the
four kinds of frame reproduces the cells of the second snapshot: a full clear because the
next screen is one repeated cell, plain spans because each emitted span carries exactly
the differing window of its row and skipped rows are equal, a scroll frame because the
daemon replayed the same operations before sending it, and an empty frame because nothing
differs. The two implementations of a scroll agree operation by operation.

The frame also passes both validators, and the renderer's recheck of the wide-cell layout
and copy metadata succeeds because the result is the next snapshot itself. For that the
next snapshot has to be one that a terminal grid can produce: dimensions within the wire's
limit, the cursor on the grid, valid cells, metadata that matches the cells, and no more
hyperlinked cells than the frame budget.
-/

namespace HydraTerm.Renderer

open Grid Lib List

/-- The rows form a rectangle of the declared dimensions. -/
structure Rectangular (snapshot : GridSnapshot) : Prop where
  height : snapshot.rowsCells.length = snapshot.rows
  width : ∀ row ∈ snapshot.rowsCells, row.length = snapshot.cols

/-- The two scroll implementations agree on every input. -/
theorem applyScrollOp_eq (rowsCells : CellRows) (top bottomExclusive lines : Nat)
    (up : Bool) :
    applyScrollOp rowsCells top bottomExclusive lines up =
      applyScroll rowsCells (if up then .scrollUp top bottomExclusive lines
        else .scrollDown top bottomExclusive lines) := by
  have sameCheck : scrollRegionFits rowsCells top bottomExclusive lines = true
      ↔ ¬ (¬ (top < bottomExclusive ∧ bottomExclusive ≤ rowsCells.length ∧ lines > 0)
        ∨ lines > bottomExclusive - top) := by
    simp only [scrollRegionFits, Bool.and_eq_true, decide_eq_true_eq, Bool.not_eq_true',
      decide_eq_false_iff_not, not_or, not_not, and_assoc]
  by_cases fits : scrollRegionFits rowsCells top bottomExclusive lines = true
  · have unrefused := sameCheck.mp fits
    cases up
    · simp only [applyScrollOp, if_neg unrefused, applyScroll, Bool.false_eq_true, if_false, fits,
        if_true, moveRowsDown, copyRow]
    · simp only [applyScrollOp, if_neg unrefused, applyScroll, fits, if_true, moveRowsUp, copyRow]
  · have refused := not_not.mp (fun unrefused => fits (sameCheck.mpr unrefused))
    cases up
    · simp only [applyScrollOp, if_pos refused, applyScroll, Bool.false_eq_true, if_false, fits]
    · simp only [applyScrollOp, if_pos refused, applyScroll, Bool.false_eq_true, if_false, fits,
        if_true]

variable {rowsCells verified : CellRows} {op : DamageOp}

/-- What the daemon verified on its scratch rows, the renderer computes on its own. -/
theorem applyOp_of_verifyOp
    (checked : verifyOp rowsCells op = some verified) : applyOp rowsCells op = .ok verified := by
  cases op with
  | rowSpan =>
    simp only [verifyOp] at checked
    simp only [applyOp]
    split at checked
    · next _ found =>
      rw [found]
      dsimp only
      split at checked
      · next fits =>
        cases checked
        rw [if_neg (not_lt.mpr fits)]
      · contradiction
    · contradiction
  | clearAll => contradiction
  | scrollUp top bottomExclusive lines | scrollDown top bottomExclusive lines =>
    rw [applyOp, applyScrollOp_eq]
    exact toOption_eq_some checked

variable {ops : List DamageOp} {base : CellRows} {cols row : Nat}
  {snapshot held : GridSnapshot} {prev next : StampedSnapshot} {frame : DamageFrame}
  {rows : List Nat}

/-- The verification of a whole list of operations carries over. -/
theorem applyOps_of_verified (checked : ops.foldlM verifyOp rowsCells = some verified) :
    ops.foldlM applyOp rowsCells = .ok verified := by
  induction ops generalizing rowsCells with
  | nil => exact congrArg _ (Option.some.inj checked)
  | cons _ _ ih =>
    rw [foldlM_cons] at checked ⊢
    obtain ⟨middle, first, later⟩ := Option.bind_eq_some_iff.mp checked
    rw [bind_ok_iff]
    exact ⟨middle, applyOp_of_verifyOp first, ih later⟩

/-- Two grids of one shape, small enough for row and column numbers to survive the cast to
`u16`. -/
structure SameShape (base next : CellRows) (cols : Nat) : Prop where
  height : base.length = next.length
  baseWidth : ∀ row ∈ base, row.length = cols
  nextWidth : ∀ row ∈ next, row.length = cols
  narrow : cols < 65536
  short : next.length < 65536

/-- Values below the word size survive the cast. -/
theorem asU16_eq {value : Nat} (small : value < 65536) : asU16 value = value :=
  Nat.mod_eq_of_lt small

/-- The operation for one row, if any, replaces that row by the next one. -/
theorem applyOp_rowSpanOp {next grid : CellRows} {baseRow nextRow : List Cell}
    (shape : SameShape base next cols) (baseAt : base[row]? = some baseRow)
    (nextAt : next[row]? = some nextRow) (gridAt : grid[row]? = some baseRow) :
    (rowSpanOp base next row).toList.foldlM applyOp grid = .ok (grid.set row nextRow) := by
  obtain ⟨_, _⟩ := List.getElem?_eq_some_iff.mp nextAt
  have baseWidth : baseRow.length = cols := shape.baseWidth _ (mem_of_getElem? baseAt)
  have nextWidth : nextRow.length = cols := shape.nextWidth _ (mem_of_getElem? nextAt)
  have width : baseRow.length = nextRow.length := baseWidth.trans nextWidth.symm
  have short := shape.short
  have narrow := shape.narrow
  rw [rowSpanOp_of_rows baseAt nextAt]
  cases found : rowDiffSpan baseRow nextRow with
  | none =>
    have same : baseRow = nextRow := rowDiffSpan_none width found
    obtain ⟨_, content⟩ := List.getElem?_eq_some_iff.mp gridAt
    rw [← same, ← content, set_getElem_self]
    rfl
  | some span =>
    obtain ⟨start, stop⟩ := span
    obtain ⟨ordered, bounded, agree⟩ := rowDiffSpan_some width found
    have written : overwrite baseRow start (nextRow.extract start stop) = nextRow :=
      overwrite_extract (le_of_lt ordered) bounded agree
    have fits : ¬ start + (nextRow.extract start stop).length > baseRow.length := by
      simp only [extract_eq_take_drop, length_take, length_drop]
      omega
    simp only [Option.map_some, Option.toList_some, foldlM_cons, foldlM_nil, applyOp,
      asU16_eq (show row < 65536 by omega), asU16_eq (show start < 65536 by omega), gridAt, fits,
      if_false, written]
    rfl

/-- Applying the operations for distinct rows replaces exactly those rows. -/
theorem foldlM_rowSpanOps {next grid : CellRows}
    (shape : SameShape base next cols) (distinct : rows.Nodup)
    (inside : ∀ row ∈ rows, row < next.length) (untouched : ∀ row ∈ rows, grid[row]? = base[row]?) :
    ∃ result, (rows.filterMap (rowSpanOp base next)).foldlM applyOp grid = .ok result
      ∧ ∀ index : Nat, result[index]? = if index ∈ rows then next[index]? else grid[index]? := by
  induction rows generalizing grid with
  | nil => exact ⟨grid, rfl, fun index => by simp⟩
  | cons row rest ih =>
    obtain ⟨fresh, restDistinct⟩ := nodup_cons.mp distinct
    have nextInside : row < next.length := inside row mem_cons_self
    have baseInside : row < base.length := shape.height ▸ nextInside
    have nextAt : next[row]? = some next[row] := getElem?_eq_getElem nextInside
    have baseAt : base[row]? = some base[row] := getElem?_eq_getElem baseInside
    have gridAt : grid[row]? = some base[row] := (untouched row mem_cons_self).trans baseAt
    have replaced := applyOp_rowSpanOp shape baseAt nextAt gridAt
    have others : ∀ later ∈ rest, (grid.set row next[row])[later]? = base[later]? := by
      intro later member
      have different : row ≠ later := fun same => fresh (same ▸ member)
      rw [getElem?_set_ne different]
      exact untouched later (mem_cons_of_mem row member)
    obtain ⟨result, applied, content⟩ := ih restDistinct
      (fun later member => inside later (mem_cons_of_mem row member)) others
    refine ⟨result, ?_, ?_⟩
    · rw [rowSpanOps_cons, foldlM_append, bind_ok_iff]
      exact ⟨_, replaced, applied⟩
    · intro index
      rw [content index]
      by_cases later : index ∈ rest
      · simp [later]
      · rw [if_neg later]
        by_cases here : index = row
        · subst here
          obtain ⟨bound, _⟩ := List.getElem?_eq_some_iff.mp gridAt
          rw [getElem?_set_self bound, if_pos mem_cons_self, nextAt]
        · rw [getElem?_set_ne (Ne.symm here), if_neg]
          rw [mem_cons, not_or]
          exact ⟨here, later⟩

/-- Where the rows left out already agree, the operations reproduce the next grid. -/
theorem rowSpanOps_reconstruct {next : CellRows} (shape : SameShape base next cols)
    (distinct : rows.Nodup) (inside : ∀ row ∈ rows, row < next.length)
    (skipped : ∀ row, row ∉ rows → base[row]? = next[row]?) :
    (rows.filterMap (rowSpanOp base next)).foldlM applyOp base = .ok next := by
  obtain ⟨result, applied, content⟩ :=
    foldlM_rowSpanOps shape distinct inside (fun row _ => rfl)
  have same : result = next := by
    apply ext_getElem?
    intro index
    rw [content index]
    split
    · rfl
    · next out => exact skipped index out
  exact same ▸ applied

/-- A snapshot that a terminal grid can publish. -/
structure Publishable (snapshot : GridSnapshot) : Prop extends Rectangular snapshot where
  cols_pos : 0 < snapshot.cols
  rows_pos : 0 < snapshot.rows
  cols_le : snapshot.cols ≤ maxDamageDimension
  rows_le : snapshot.rows ≤ maxDamageDimension
  cursorLine : snapshot.cursorLine < snapshot.rows
  cursorCol : snapshot.cursorCol < snapshot.cols
  cells : ∀ row ∈ snapshot.rowsCells, ∀ cell ∈ row, cellIsValid cell
  layout : validateWideLayout snapshot = .ok ()
  copy : rowCopyCellsValid snapshot.rowsCells snapshot.rowCopy = true
  links : terminalLinkCellsWithinCap snapshot.rowsCells = true

/-- Copy metadata that matches the cells matches the declared dimensions. -/
theorem rowCopyValid_of_cells (rectangular : Rectangular snapshot) (nonempty : 0 < snapshot.rows)
    (copy : rowCopyCellsValid snapshot.rowsCells snapshot.rowCopy = true) :
    rowCopyValid snapshot.rowCopy snapshot.cols snapshot.rows = true := by
  simp only [rowCopyCellsValid, Bool.and_eq_true] at copy
  obtain ⟨⟨_, shape⟩, _⟩ := copy
  have first : (snapshot.rowsCells.head?.map List.length).getD 0 = snapshot.cols := by
    cases cells : snapshot.rowsCells with
    | nil =>
      have height := rectangular.height
      rw [cells, length_nil] at height
      omega
    | cons row =>
      have member : row ∈ snapshot.rowsCells := cells ▸ mem_cons_self
      simpa using rectangular.width row member
  rwa [first, rectangular.height] at shape

/-- The dimensions of a publishable snapshot survive the cast to `u16`. -/
theorem Publishable.small (publishable : Publishable snapshot) :
    snapshot.cols < 65536 ∧ snapshot.rows < 65536 :=
  ⟨lt_of_le_of_lt publishable.cols_le (by decide),
    lt_of_le_of_lt publishable.rows_le (by decide)⟩

/-- Two snapshots of one geometry have grids of one shape. -/
theorem sameShape_of {prev next : GridSnapshot} (prevShape : Rectangular prev)
    (publishable : Publishable next) (cols : prev.cols = next.cols) (rows : prev.rows = next.rows) :
    SameShape prev.rowsCells next.rowsCells next.cols where
  height := by rw [prevShape.height, publishable.height, rows]
  baseWidth := fun row member => (prevShape.width row member).trans cols
  nextWidth := publishable.width
  narrow := publishable.small.1
  short := publishable.height ▸ publishable.small.2

/-- Rows that the hint skips are equal when the stamps are sound. -/
theorem skipped_rows_agree (height : prev.rowsCells.length = next.rowsCells.length)
    (sound : StampsSound prev next)
    (skipped : row ∉ comparedRows prev.rowsCells next.rowsCells (candidateRows prev next)) :
    prev.rowsCells[row]? = next.rowsCells[row]? := by
  by_cases inside : row < next.rowsCells.length
  · obtain ⟨stamp, inPrev, inNext⟩ := skipped_stamp (by omega) inside skipped
    exact sound row stamp inPrev inNext
  · rw [getElem?_eq_none (by omega), getElem?_eq_none (by omega)]

section

variable (shape : SameShape prev.rowsCells next.rowsCells next.cols) (sound : StampsSound prev next)
include shape sound

/-- The spans of the compared rows turn the previous cells into the next ones. -/
theorem comparedRows_reconstruct :
    ((comparedRows prev.rowsCells next.rowsCells (candidateRows prev next)).filterMap
      (rowSpanOp prev.rowsCells next.rowsCells)).foldlM applyOp prev.rowsCells =
        .ok next.rowsCells := by
  have increasing := comparedRows_sublist prev.rowsCells prev next
  refine rowSpanOps_reconstruct shape (nodup_range.sublist increasing) ?_ ?_
  · exact fun row member => mem_range.mp (increasing.subset member)
  · exact fun row skipped => skipped_rows_agree shape.height sound skipped

/-- Every kind of frame turns the previous cells into the next ones. -/
theorem frameOps_reconstruct
    (kind : FrameOps prev next ops) : ops.foldlM applyOp prev.rowsCells = .ok next.rowsCells := by
  cases kind with
  | clear fill uniform =>
    obtain ⟨_, filled⟩ := uniformBlank_some uniform
    have cleared : prev.rowsCells.map (fun row => row.map (fun _ => fill)) = next.rowsCells := by
      apply ext_getElem
      · simpa using shape.height
      · intro index left right
        have inPrev : index < prev.rowsCells.length := by simpa using left
        have prevWidth := shape.baseWidth _ (getElem_mem inPrev)
        have nextWidth := shape.nextWidth _ (getElem_mem right)
        rw [getElem_map, map_const', prevWidth]
        symm
        rw [eq_replicate_iff]
        exact ⟨nextWidth, filled _ (getElem_mem right)⟩
    rw [foldlM_cons, applyOp, cleared]
    rfl
  | scroll _ _ chosen =>
    obtain ⟨_, _, _, _, _, _, replayed⟩ := scrollOps_some chosen
    exact applyOps_of_verified replayed
  | spans _ appended =>
    obtain ⟨listed, _, _⟩ := appendRowspanDiffs_some appended
    rw [listed, nil_append]
    exact comparedRows_reconstruct shape sound

end

/-- A grid with the frame's post-state over the next cells shows the next screen. -/
theorem screenOf_withFrame {prev next : GridSnapshot}
    (cols : held.cols = next.cols) (rows : held.rows = next.rows) :
    screenOf (withFrame held (frameWith prev next ops) next.rowsCells) = screenOf next := by
  simp only [screenOf, withFrame, frameWith, cols, rows]
  rfl

/-- Whatever a generated frame is applied to, if that shows the previous screen and the
frame is accepted, the result shows the next screen. -/
theorem applied_shows {id : SessionId}
    {grid : GridSnapshot} (shape : SameShape prev.rowsCells next.rowsCells next.cols)
    (sound : StampsSound prev next) (shows : screenOf held = screenOf prev.toGridSnapshot)
    (generated : generateDamage prev next = .frame frame)
    (applied : applyFrame held { frame with id := id } = .applied grid) :
    screenOf grid = screenOf next.toGridSnapshot := by
  obtain ⟨_, cols, rows, _, ops, rfl, kind⟩ := generateDamage_frame generated
  obtain ⟨rowsCells, opsApplied, rfl, _⟩ := applyFrame_applied applied
  simp only [screenOf, Screen.mk.injEq] at shows
  obtain ⟨heldCols, heldRows, heldCells, _⟩ := shows
  have reconstructed : ops.foldlM applyOp held.rowsCells = .ok next.rowsCells :=
    heldCells ▸ frameOps_reconstruct shape sound kind
  have cells : rowsCells = next.rowsCells := by
    simp only [applyOps, bind_ok_iff, check_ok_iff] at opsApplied
    obtain ⟨_, folded, _, same⟩ := opsApplied
    rw [show (frameWith prev.toGridSnapshot next.toGridSnapshot ops).ops = ops from rfl,
      reconstructed] at folded
    exact (Except.ok.inj same).symm.trans (Except.ok.inj folded).symm
  have shown : screenOf (withFrame held (frameWith prev.toGridSnapshot next.toGridSnapshot ops)
      next.rowsCells) = screenOf next.toGridSnapshot :=
    screenOf_withFrame (heldCols.trans cols) (heldRows.trans rows)
  rw [cells]
  exact shown

/-- The number of cells of a rectangle. -/
theorem Rectangular.size (rectangular : Rectangular snapshot) :
    snapshot.rowsCells.flatten.length = snapshot.cols * snapshot.rows := by
  have widths : snapshot.rowsCells.map List.length = List.replicate snapshot.rows snapshot.cols := by
    rw [eq_replicate_iff, length_map]
    refine ⟨rectangular.height, ?_⟩
    intro width member
    obtain ⟨row, inside, rfl⟩ := mem_map.mp member
    exact rectangular.width row inside
  rw [length_flatten, widths, sum_replicate_nat, Nat.mul_comm]

variable (publishable : Publishable next.toGridSnapshot)
include publishable

/-- A grid filled by one linked cell is within the budget, so its full clear is too. -/
theorem clear_admissible {fill : Cell} (uniform : uniformBlank next.rowsCells = some fill) :
    OpAdmissible next.cols next.rows (.clearAll fill) := by
  obtain ⟨blank, filled⟩ := uniformBlank_some uniform
  refine ⟨blank, ?_⟩
  intro linked
  have every : linkCells next.rowsCells.flatten = next.rowsCells.flatten.length := by
    rw [linkCells, countP_eq_length]
    intro cell member
    obtain ⟨row, rowMember, cellMember⟩ := mem_flatten.mp member
    rw [filled row rowMember cell cellMember]
    exact linked
  have within := publishable.links
  rw [terminalLinkCellsWithinCap, decide_eq_true_eq, every] at within
  exact publishable.size ▸ within

/-- A span emitted for a row of a publishable grid is in bounds and carries valid cells. -/
theorem span_admissible (emitted : rowSpanOp base next.rowsCells row = some op) :
    OpAdmissible next.cols next.rows op := by
  obtain ⟨nextRow, start, stop, nextAt, _, _, _, rfl⟩ := rowSpanOp_some emitted
  obtain ⟨_, _⟩ := List.getElem?_eq_some_iff.mp nextAt
  have member : nextRow ∈ next.rowsCells := mem_of_getElem? nextAt
  have width : nextRow.length = next.cols := publishable.width _ member
  have height : next.rowsCells.length = next.rows := publishable.height
  obtain ⟨_, _⟩ := publishable.small
  have taken : (nextRow.extract start stop).length = stop - start := by
    simp only [extract_eq_take_drop, length_take, length_drop]
    omega
  rw [asU16_eq (show row < 65536 by omega), asU16_eq (show start < 65536 by omega)]
  refine ⟨?_, by omega, by omega, ?_⟩
  · intro empty
    rw [empty, length_nil] at taken
    omega
  · intro cell listed
    exact publishable.cells nextRow member cell (mem_of_mem_drop (mem_of_mem_take listed))

/-- A proposed scroll moves a nonempty part of a publishable grid. -/
theorem scroll_admissible {prev : CellRows} {plan : DamageOp}
    (height : prev.length = next.rowsCells.length)
    (proposed : detectScroll prev next.rowsCells = some plan) :
    OpAdmissible next.cols next.rows plan ∧ spanCells plan = [] := by
  obtain ⟨lines, positive, _, shape⟩ := detectScroll_some proposed
  have rows := publishable.small.2
  have same : prev.length = next.rows := height.trans publishable.height
  rw [asU16_eq (show prev.length < 65536 by omega), asU16_eq (show lines < 65536 by omega)] at shape
  rcases shape with rfl | rfl
  · exact ⟨⟨by omega, by omega, positive, by omega⟩, rfl⟩
  · exact ⟨⟨by omega, by omega, positive, by omega⟩, rfl⟩

/-- What the validators ask of a list of operations. -/
structure OpsAdmissible (next : StampedSnapshot) (ops : List DamageOp) : Prop where
  each : ∀ op ∈ ops, OpAdmissible next.cols next.rows op
  count : ops.length ≤ maxDamageOps
  cells : (framedCells ops).length ≤ maxDamageCells
  within : (framedCells ops).Sublist next.rowsCells.flatten

/-- Every kind of frame is admissible. -/
theorem frameOps_admissible (height : prev.rowsCells.length = next.rowsCells.length)
    (kind : FrameOps prev next ops) : OpsAdmissible next ops := by
  cases kind with
  | clear _ uniform =>
    refine ⟨?_, by simp [maxDamageOps], by simp [spanCells], nil_sublist _⟩
    intro op member
    rw [mem_singleton.mp member]
    exact clear_admissible publishable uniform
  | scroll _ _ chosen =>
    obtain ⟨_, scratch, result, proposed, appended, rfl, _⟩ := scrollOps_some chosen
    obtain ⟨planned, bare⟩ := scroll_admissible publishable height proposed
    obtain ⟨listed, count, cells⟩ := appendRowspanDiffs_some appended
    have increasing : (comparedRows scratch next.rowsCells none).Sublist
        (List.range next.rowsCells.length) := by
      exact range_sublist.mpr (Nat.min_le_right _ _)
    have framed : framedCells result.1 = framedCells ((comparedRows scratch next.rowsCells
        none).filterMap (rowSpanOp scratch next.rowsCells)) := by
      rw [listed, framedCells_append, framedCells_cons, bare]
      rfl
    refine ⟨?_, count (by simp [maxDamageOps]), framed ▸ cells,
      framed ▸ framedCells_sublist increasing⟩
    intro op member
    rw [listed, mem_append, mem_singleton] at member
    rcases member with rfl | spanned
    · exact planned
    · obtain ⟨_, _, emitted⟩ := mem_filterMap.mp spanned
      exact span_admissible publishable emitted
  | spans _ appended =>
    obtain ⟨listed, count, cells⟩ := appendRowspanDiffs_some appended
    refine ⟨?_, count (by simp [maxDamageOps]), listed ▸ cells,
      listed ▸ framedCells_sublist (comparedRows_sublist prev.rowsCells prev next)⟩
    intro op member
    rw [listed] at member
    obtain ⟨_, _, emitted⟩ := mem_filterMap.mp member
    exact span_admissible publishable emitted

variable (prevShape : Rectangular prev.toGridSnapshot)
include prevShape

/-- A generated frame passes the renderer's validator. -/
theorem generated_validates
    (generated : generateDamage prev next = .frame frame) : validate frame = .ok () := by
  obtain ⟨_, cols, rows, advances, ops, rfl, kind⟩ := generateDamage_frame generated
  have height := (sameShape_of prevShape publishable cols rows).height
  obtain ⟨each, count, cells, within⟩ := frameOps_admissible publishable height kind
  have colsCast := asU16_eq publishable.small.1
  have rowsCast := asU16_eq publishable.small.2
  have header : validateHeader (frameWith prev.toGridSnapshot next.toGridSnapshot ops) = .ok () := by
    rw [validateHeader_ok_iff]
    simp only [frameWith, colsCast, rowsCast, cursorStateOf]
    exact ⟨rowCopyValid_of_cells publishable.toRectangular publishable.rows_pos publishable.copy,
      trivial, publishable.cols_pos, publishable.rows_pos, publishable.cols_le, publishable.rows_le,
      advances, publishable.cursorCol, publishable.cursorLine, count⟩
  simp only [validate, Lib.bind_ok_iff]
  refine ⟨(), header, validateOps_ok ?_ ((Nat.zero_add _).trans_le cells) ?_⟩
  · simpa [frameWith, colsCast, rowsCast] using each
  · have budget := publishable.links
    rw [terminalLinkCellsWithinCap, decide_eq_true_eq] at budget
    exact (Nat.zero_add _).trans_le ((within.countP_le).trans budget)

/-- Applying a generated frame to a grid that shows the previous screen shows the next. -/
theorem generated_applies (sound : StampsSound prev next)
    (shows : screenOf held = screenOf prev.toGridSnapshot)
    (generated : generateDamage prev next = .frame frame) :
    ∃ grid, applyFrame held frame = .applied grid ∧ screenOf grid = screenOf next.toGridSnapshot
      ∧ grid.revision = next.revision := by
  obtain ⟨_, cols, rows, _, ops, rfl, kind⟩ := generateDamage_frame generated
  simp only [screenOf, Screen.mk.injEq] at shows
  obtain ⟨heldCols, heldRows, heldCells, _⟩ := shows
  have cells : ops.foldlM applyOp held.rowsCells = .ok next.rowsCells :=
    heldCells ▸ frameOps_reconstruct (sameShape_of prevShape publishable cols rows) sound kind
  have applied : applyOps held.rowsCells ops = .ok next.rowsCells := by
    simp only [applyOps, bind_ok_iff, check_ok_iff, not_not]
    exact ⟨_, cells, publishable.links, rfl⟩
  refine ⟨withFrame held (frameWith prev.toGridSnapshot next.toGridSnapshot ops) next.rowsCells,
    ?_, screenOf_withFrame (heldCols.trans cols) (heldRows.trans rows), rfl⟩
  have layout : validateWideLayout (withFrame held (frameWith prev.toGridSnapshot
      next.toGridSnapshot ops) next.rowsCells) = .ok () := publishable.layout
  have copy : rowCopyCellsValid next.rowsCells next.rowCopy = true := publishable.copy
  unfold applyFrame
  rw [show (frameWith prev.toGridSnapshot next.toGridSnapshot ops).ops = ops from rfl, applied]
  dsimp only
  rw [layout]
  exact if_neg (not_not.mpr copy)

/-- Without a change the two screens are the same. -/
theorem noChange_same_screen (sound : StampsSound prev next)
    (generated : generateDamage prev next = .noChange) :
    screenOf prev.toGridSnapshot = screenOf next.toGridSnapshot := by
  obtain ⟨_, cols, rows, cursor, modes, copy, quiet⟩ := generateDamage_noChange generated
  have shape := sameShape_of prevShape publishable cols rows
  have unchanged := comparedRows_reconstruct shape sound
  rw [quiet] at unchanged
  have cells : prev.rowsCells = next.rowsCells := Except.ok.inj unchanged
  simp [screenOf, cols, rows, cells, copy, cursor, modes]

omit publishable prevShape

/-- Damage reconstructs the snapshot. For a live binding whose baseline is `prev`, every
frame generated towards a publishable `next` passes both validators and is answered with a
grid that shows `next` at its revision; and when nothing is generated the two snapshots
show the same screen. The generation, geometry and revision order are not assumed: the
generator returns no frame where they disagree. -/
theorem damage_reconstructs {sessionId : SessionId} {events : List Event} {view : View}
    (held : GridSnapshot) (prev next : StampedSnapshot)
    (run : Run ViewStep (View.new sessionId) events view) (live : view.sync.phase ≠ .exited)
    (current : view.sync.current = some (prev.generation, prev.revision))
    (shows : screenOf held = screenOf prev.toGridSnapshot)
    (prevShape : Rectangular prev.toGridSnapshot) (publishable : Publishable next.toGridSnapshot)
    (sound : StampsSound prev next) :
    (∀ frame, generateDamage prev next = .frame frame →
        frame.validate = .ok () ∧ validate frame = .ok ()
          ∧ ∃ sync grid, view.sync.onDamage view.sync.sessionId frame held = (sync, .applied grid)
            ∧ screenOf grid = screenOf next.toGridSnapshot ∧ grid.revision = next.revision
            ∧ sync.current = some (next.generation, next.revision))
      ∧ (generateDamage prev next = .noChange →
        screenOf prev.toGridSnapshot = screenOf next.toGridSnapshot) := by
  refine ⟨?_, noChange_same_screen publishable prevShape sound⟩
  intro frame generated
  have valid : validate frame = .ok () := generated_validates publishable prevShape generated
  obtain ⟨grid, applied, same, revision⟩ :=
    generated_applies publishable prevShape sound shows generated
  obtain ⟨generation, cols, rows, advances, ops, rfl, _⟩ := generateDamage_frame generated
  have colsCast := asU16_eq publishable.small.1
  have rowsCast := asU16_eq publishable.small.2
  simp only [screenOf, Screen.mk.injEq] at shows
  have continues : view.sync.current = some (next.generation, prev.revision) :=
    generation ▸ current
  have applicable : Applicable view.sync view.sync.sessionId
      (frameWith prev.toGridSnapshot next.toGridSnapshot ops) held grid :=
    { session := rfl
      live := live
      notRetired := (viewInv_run run).notRetired _ _ continues
      valid := valid
      continues := continues
      advances := advances
      cols := colsCast.trans (shows.1.trans cols).symm
      rows := rowsCast.trans (shows.2.1.trans rows).symm
      result := applied }
  have kind := onDamage_answer view.sync view.sync.sessionId
    (frameWith prev.toGridSnapshot next.toGridSnapshot ops) held
  obtain ⟨after, answered⟩ := onDamage_applied applicable
  rw [answered] at kind
  refine ⟨daemon_validate_ok valid, valid, after, grid, answered, same, revision, ?_⟩
  cases kind with
  | applied _ _ _ _ _ advanced => exact advanced

/-- A snapshot without stamps, as one decoded from the wire. -/
def unstamped (snapshot : GridSnapshot) : StampedSnapshot :=
  { snapshot with rowStamps := [] }

/-- The erased one-cell screen of the next revision with a letter written to it. -/
def letterScreen : GridSnapshot :=
  { erasedScreen "g" 2 1 1 with rowsCells := [[{ blankCell with text := "x" }]] }

/-- A binding that holds the erased screen. -/
def erasedView : View :=
  (View.new "session").handle (.grid "session" (erasedScreen "g" 1 1 1) true)

/-- An erased screen of three rows that one feed stamped. -/
def erasedRows : StampedSnapshot := { erasedScreen "g" 1 2 3 with rowStamps := [1, 1, 1] }

/-- The screen after a letter was written to the middle row, which alone has a new stamp. -/
def letterRows : StampedSnapshot :=
  { erasedScreen "g" 2 2 3 with
    rowsCells := [[blankCell, blankCell], [{ blankCell with text := "x" }, blankCell],
      [blankCell, blankCell]]
    rowStamps := [1, 2, 1] }

theorem letterRows_publishable : Publishable letterRows.toGridSnapshot where
  height := rfl
  width := by decide
  cols_pos := by decide
  rows_pos := by decide
  cols_le := by decide
  rows_le := by decide
  cursorLine := by decide
  cursorCol := by decide
  cells := by decide
  layout := rfl
  copy := rfl
  links := rfl

/-- A letter in a row between two that keep their stamps is reconstructed by a binding that holds the
erased rows. -/
theorem damage_reconstructs_row :
    ∃ frame sync grid, generateDamage erasedRows letterRows = .frame frame
      ∧ ((View.new "session").handle (.grid "session" erasedRows.toGridSnapshot true)).sync.onDamage
          "session" frame erasedRows.toGridSnapshot = (sync, .applied grid)
      ∧ screenOf grid = screenOf letterRows.toGridSnapshot := by
  have reached : Run ViewStep (View.new "session")
      [.grid "session" erasedRows.toGridSnapshot true] _ := .single rfl
  have reconstructs := damage_reconstructs erasedRows.toGridSnapshot erasedRows letterRows reached
    (by decide) (by decide) rfl ⟨rfl, by decide⟩ letterRows_publishable
    ((stampsSound_iff _ _).mpr (by decide))
  obtain ⟨_, _, sync, grid, answered, shows, _⟩ := reconstructs.1
    (frameWith erasedRows.toGridSnapshot letterRows.toGridSnapshot
      [.rowSpan 1 0 [{ blankCell with text := "x" }]]) (by decide)
  exact ⟨_, sync, grid, by decide, answered, shows⟩

/-- The renderer's validation of what is generated between two snapshots. -/
def frameVerdict (prev next : GridSnapshot) : Except DamageInvalid Unit :=
  match generateDamage (unstamped prev) (unstamped next) with
  | .frame frame => validate frame
  | _ => .ok ()

/-- The renderer's answer to what is generated between two snapshots. -/
def frameAnswer (view : View) (prev next : GridSnapshot) : Option DamageOutcome :=
  match generateDamage (unstamped prev) (unstamped next) with
  | .frame frame => some (view.sync.onDamage "session" frame prev).2
  | _ => none

/-- Rectangular screens with a sound wide-cell layout are not enough. A generated frame is
refused when the next screen has its cursor off the grid, no cells, too many columns, too
many linked cells, copy metadata of another height, or a cell of another width; it is not
applied when the metadata excludes a cell that is not blank, or when the session exited. -/
theorem generated_frame_refused :
    frameVerdict (erasedScreen "g" 1 1 1) { erasedScreen "g" 2 1 1 with cursorCol := 5 }
        = .error (.cursorOutOfBounds 0 5)
      ∧ frameVerdict (erasedScreen "g" 1 0 0)
          { erasedScreen "g" 2 0 0 with cursorVisible := false }
        = .error (.badDimensions "zero cols or rows")
      ∧ frameVerdict (erasedScreen "g" 1 2001 1)
          { erasedScreen "g" 2 2001 1 with cursorVisible := false }
        = .error (.badDimensions "cols or rows exceed maximum")
      ∧ frameVerdict (erasedScreen "g" 1 257 1) { erasedScreen "g" 2 257 1 with
          rowsCells := [List.replicate 257 { blankCell with hyperlink := some "https://h" }] }
        = .error (.tooManyHyperlinkCells 257)
      ∧ frameVerdict (erasedScreen "g" 1 1 1) { erasedScreen "g" 2 1 1 with rowCopy := some [] }
        = .error .badRowCopy
      ∧ frameVerdict (erasedScreen "g" 1 1 1)
          { erasedScreen "g" 2 1 1 with rowsCells := [[{ blankCell with width := 3 }]] }
        = .error (.badCell 0)
      ∧ frameAnswer erasedView (erasedScreen "g" 1 1 1)
          { letterScreen with rowCopy := some [⟨none, false, [0]⟩] }
        = some (.resync (.damageInvalid .badRowCopy))
      ∧ frameAnswer (erasedView.handle (.sessionExited "session")) (erasedScreen "g" 1 1 1)
          letterScreen
        = some (.resync .sessionEnded) := by
  decide +kernel

end HydraTerm.Renderer
