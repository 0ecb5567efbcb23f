import HydraTerm.Browser.TerminalSync
import HydraTerm.Renderer.Reconstruct

/-!
# The browser's checks against the renderer's

Check by check, the browser's structural tests agree with the renderer's: the wide-cell scan and
the operations on every input, the copy metadata on rows of at most 65536 columns, the metadata
against the cells on rectangles, and the frame validator on every frame that the renderer accepts.

One test of the renderer has no counterpart in the browser. It counts the hyperlinked cells of a
grid, when the grid arrives and again after damage, and refuses a count above the budget. The
comparison lemmas say so: what the renderer accepts is what the browser accepts within the budget.
-/

namespace HydraTerm.Browser

open Grid Lib List

/-- A chain of faults finds none exactly when its first test does not and the rest does not. -/
theorem fault_none_iff {α : Type} {faulty : Prop} [Decidable faulty] {reason : α}
    {rest : Option α} : (if faulty then some reason else rest) = none ↔ ¬ faulty ∧ rest = none := by
  split <;> simp_all

/-! ## Numbers -/

variable {value cols : Nat} {rows applied : CellRows} {ops : List DamageOp}
  {snap : GridSnapshot} {metadata : Option (List RowCopy)} {frame : DamageFrame}

/-- Below `2 ^ 53` every integer is a double. -/
theorem jsNumber_exact (precise : value < 2 ^ 53) : jsNumber value = value :=
  if_pos precise

/-- So is every dimension that is accepted. -/
theorem jsNumber_small (small : value ≤ 2000) : jsNumber value = value :=
  jsNumber_exact (by omega)

/-- Rounding does not carry a large integer below `2 ^ 53`. -/
theorem le_jsNumber (large : 2 ^ 53 ≤ value) : 2 ^ 53 ≤ jsNumber value := by
  have nonzero : value ≠ 0 := by omega
  have magnitude : 53 ≤ Nat.log2 value := (Nat.le_log2 nonzero).mpr large
  have leading : 2 ^ Nat.log2 value ≤ value := (Nat.le_log2 nonzero).mp le_rfl
  generalize spacingIs : 2 ^ (Nat.log2 value - 52) = spacing
  have split : 2 ^ Nat.log2 value = 2 ^ 52 * spacing := by
    rw [← spacingIs, ← Nat.pow_add]
    congr 1
    omega
  have coarse : 2 ≤ spacing := by
    rw [← spacingIs]
    calc 2 = 2 ^ 1 := rfl
      _ ≤ 2 ^ (Nat.log2 value - 52) := Nat.pow_le_pow_right (by decide) (by omega)
  have wide : 2 ^ 52 ≤ value / spacing := by
    rw [Nat.le_div_iff_mul_le (by omega)]
    omega
  have rounded : value / spacing * spacing ≤ jsNumber value := by
    simp only [jsNumber, if_neg (not_lt.mpr large), spacingIs]
    split
    · exact le_rfl
    · exact Nat.mul_le_mul_right spacing (Nat.le_succ _)
  calc 2 ^ 53 = 2 ^ 52 * 2 := rfl
    _ ≤ value / spacing * spacing := Nat.mul_le_mul wide coarse
    _ ≤ jsNumber value := rounded

theorem jsNumber_le_iff {small : Nat} (isSmall : small < 2 ^ 53) :
    jsNumber value ≤ small ↔ value ≤ small := by
  by_cases precise : value < 2 ^ 53
  · rw [jsNumber_exact precise]
  · have large : 2 ^ 53 ≤ jsNumber value := le_jsNumber (not_lt.mp precise)
    omega

/-! ## Copy metadata -/

/-- Listed columns after `previous`, in the renderer's terms. -/
theorem excludedColumnsListed_some {previous : Nat} {columns : List Nat} (narrow : cols ≤ 0x10000) :
    excludedColumnsListed cols (some previous) columns =
      (columns.all (· < cols) && strictlyIncreasing (previous :: columns)) := by
  induction columns generalizing previous with
  | nil => rfl
  | cons _ _ ih =>
    rw [Bool.eq_iff_iff]
    simp only [excludedColumnsListed, ih, all_cons, strictlyIncreasing,
      Bool.and_eq_true, decide_eq_true_eq]
    constructor
    · rintro ⟨⟨⟨_, inside⟩, above⟩, later, increasing⟩
      exact ⟨⟨inside, later⟩, above, increasing⟩
    · rintro ⟨⟨inside, later⟩, above, increasing⟩
      exact ⟨⟨⟨by omega, inside⟩, above⟩, later, increasing⟩

theorem excludedColumnsListed_none {row : RowCopy} (narrow : cols ≤ 0x10000) :
    excludedColumnsListed cols none row.excludedColumns = excludedColumnsValid cols row := by
  unfold excludedColumnsValid
  cases row.excludedColumns with
  | nil => rfl
  | cons =>
    rw [Bool.eq_iff_iff]
    simp only [excludedColumnsListed, excludedColumnsListed_some narrow, all_cons,
      Bool.and_eq_true, decide_eq_true_eq, and_true]
    constructor
    · rintro ⟨⟨_, inside⟩, later, increasing⟩
      exact ⟨⟨inside, later⟩, increasing⟩
    · rintro ⟨⟨inside, later⟩, increasing⟩
      exact ⟨⟨by omega, inside⟩, later, increasing⟩

/-- Metadata rows after `previous`, in the renderer's terms. -/
theorem rowCopyRowsValid_some {previous : RowCopy} {metadata : List RowCopy}
    (narrow : cols ≤ 0x10000) :
    rowCopyRowsValid cols (some previous) metadata =
      (metadata.all (excludedColumnsValid cols) && originsValid (previous :: metadata)) := by
  induction metadata generalizing previous with
  | nil => rfl
  | cons row _ ih =>
    simp only [rowCopyRowsValid, ih, excludedColumnsListed_none narrow, all_cons, originsValid]
    cases row.startsLine <;> ac_rfl

/-- The shape check of copy metadata is the same. -/
theorem rowCopyValid_eq {rows : Nat} (narrow : cols ≤ 0x10000) :
    rowCopyValid metadata cols rows = Grid.rowCopyValid metadata cols rows := by
  cases metadata with
  | none => rfl
  | some metadata =>
    simp only [rowCopyValid, Grid.rowCopyValid]
    cases metadata with
    | nil => simp [rowCopyRowsValid, originsValid]
    | cons =>
      simp [rowCopyRowsValid, rowCopyRowsValid_some narrow, excludedColumnsListed_none narrow,
        all_cons, Bool.and_true, Bool.and_assoc]

/-- On rows of one narrow width the check against the cells is the same. -/
theorem rowCopyCellsValid_eq (even : ∀ row ∈ rows, row.length = cols) (narrow : cols ≤ 0x10000) :
    rowCopyCellsValid rows metadata = Renderer.rowCopyCellsValid rows metadata := by
  have firstNarrow : (rows.head?.map List.length).getD 0 ≤ 0x10000 := by
    cases rows with
    | nil => exact Nat.zero_le _
    | cons row =>
      have width : row.length = cols := even row mem_cons_self
      simpa [width] using narrow
  have rectangle : rows.all (fun row => row.length == (rows.head?.map List.length).getD 0) := by
    cases rows with
    | nil => rfl
    | cons row =>
      simp only [all_eq_true, beq_iff_eq, head?_cons, Option.map_some, Option.getD_some]
      intro other member
      rw [even other member, even row mem_cons_self]
  cases metadata with
  | none =>
    simp [rowCopyCellsValid, Renderer.rowCopyCellsValid, rectangle, Grid.rowCopyValid]
  | some =>
    simp only [rowCopyCellsValid, Renderer.rowCopyCellsValid, rowCopyValid_eq firstNarrow]
    rfl

/-! ## Wide cells -/

/-- A row has no fault exactly when the renderer's scan passes. -/
theorem wideRowFault_none_iff {row col : Nat} {cells : List Cell} :
    wideRowFault col cells = none ↔ Renderer.validateWideRow row col cells = .ok () := by
  fun_induction Renderer.validateWideRow row col cells <;> grind [wideRowFault]

theorem wideLayoutFault_none_iff {row : Nat} :
    wideLayoutFault row rows = none ↔ Renderer.validateWideRows row rows = .ok () := by
  induction rows generalizing row with
  | nil => simp [wideLayoutFault, Renderer.validateWideRows]
  | cons cells _ ih =>
    simp only [wideLayoutFault, Renderer.validateWideRows, bind_ok_iff]
    have scan : wideRowFault 0 cells = none ↔ Renderer.validateWideRow row 0 cells = .ok () :=
      wideRowFault_none_iff
    cases fault : wideRowFault 0 cells with
    | none => simp [scan.mp fault, ih, true_and, exists_const]
    | some =>
      have refused : Renderer.validateWideRow row 0 cells ≠ .ok () := by
        intro passed
        rw [scan.mpr passed] at fault
        contradiction
      simp only [reduceCtorEq, false_iff, not_exists, not_and]
      intro _ passed
      exact absurd passed refused

/-! ## Operations -/

/-- The browser's loop over a span is one slice assignment. -/
theorem writeCells_eq_overwrite {row cells : List Cell} {column : Nat}
    (fits : column + cells.length ≤ row.length) :
    writeCells row column cells = overwrite row column cells := by
  induction cells generalizing row column with
  | nil => simp [writeCells, overwrite, length_nil, append_nil, take_append_drop]
  | cons cell rest ih =>
    rw [length_cons] at fits
    have written : column < row.length := by omega
    have lead : (row.set column cell).take (column + 1) = row.take column ++ [cell] := by
      rw [take_add_one, take_set_of_le (le_refl column)]
      simp [written]
    have tail : (row.set column cell).drop (column + 1 + rest.length) =
        row.drop (column + (cell :: rest).length) := by
      rw [drop_set_of_lt (by omega), length_cons]
      congr 1
      omega
    rw [writeCells, ih (by rw [length_set]; omega), overwrite, lead, tail,
      overwrite, append_assoc (row.take column), singleton_append]

/-- Both scrolls copy the same rows in the same order. -/
theorem applyScroll_eq (rows : CellRows) (top bottomExclusive lines : Nat) (up : Bool) :
    applyScroll rows top bottomExclusive lines up =
      Renderer.applyScrollOp rows top bottomExclusive lines up := by
  unfold applyScroll Renderer.applyScrollOp
  split
  · rfl
  · next _ =>
    cases up with
    | true =>
      simp [range'_eq_map_range, foldl_map]
    | false =>
      have last : ∀ count, top + lines + (bottomExclusive - (top + lines)) - 1 - count =
          bottomExclusive - 1 - count := by
        intro count
        omega
      simp [Bool.false_eq_true, reverse_range', foldl_map, last]

theorem applyOp_eq (rows : CellRows) (op : DamageOp) :
    applyOp rows op = Renderer.applyOp rows op := by
  cases op with
  | rowSpan row =>
    simp only [applyOp, Renderer.applyOp]
    cases rows[row]? with
    | none => rfl
    | some =>
      dsimp only
      split
      · rfl
      · next fits => rw [writeCells_eq_overwrite (not_lt.mp fits)]
  | clearAll => rfl
  | scrollUp top bottomExclusive lines => exact applyScroll_eq rows top bottomExclusive lines true
  | scrollDown top bottomExclusive lines =>
    exact applyScroll_eq rows top bottomExclusive lines false

/-- The browser applies a list of operations as the renderer does before its last check. -/
theorem applyOps_eq (rows : CellRows) (ops : List DamageOp) :
    applyOps rows ops = ops.foldlM Renderer.applyOp rows := by
  induction ops generalizing rows with
  | nil => rfl
  | cons op _ ih =>
    rw [applyOps, foldlM_cons, applyOp_eq]
    cases Renderer.applyOp rows op with
    | error => rfl
    | ok next => exact ih next

/-- What the renderer makes of the operations is what the browser makes of them, within the
hyperlink budget. -/
theorem renderer_applyOps_ok_iff :
    Renderer.applyOps rows ops = .ok applied ↔
      applyOps rows ops = .ok applied ∧ terminalLinkCellsWithinCap applied = true := by
  simp only [Renderer.applyOps, applyOps_eq, bind_ok_iff, check_ok_iff, not_not, Except.ok.injEq]
  constructor
  · rintro ⟨middle, computed, within, rfl⟩
    exact ⟨computed, within⟩
  · rintro ⟨computed, within⟩
    exact ⟨applied, computed, within, rfl⟩

/-- Rows of one width, and as many as before. -/
def SameShape (cols : Nat) (before after : CellRows) : Prop :=
  after.length = before.length ∧ ∀ row ∈ after, row.length = cols

/-- Copying rows onto rows keeps the shape. -/
theorem sameShape_copyRows {source : Nat → Nat} {positions : List Nat}
    (inside : ∀ position ∈ positions, source position < rows.length)
    (even : ∀ row ∈ rows, row.length = cols) :
    SameShape cols rows (positions.foldl
      (fun rows position => rows.set position (rows[source position]?.getD [])) rows) := by
  induction positions generalizing rows with
  | nil => exact ⟨rfl, even⟩
  | cons position rest ih =>
    have bounded : source position < rows.length := inside position mem_cons_self
    have copied : (rows[source position]?.getD []).length = cols := by
      rw [getElem?_eq_getElem bounded, Option.getD_some]
      exact even _ (getElem_mem bounded)
    have evenAfter : ∀ row ∈ rows.set position (rows[source position]?.getD []),
        row.length = cols := by
      intro row member
      rcases mem_or_eq_of_mem_set member with old | rfl
      · exact even row old
      · exact copied
    have restInside : ∀ later ∈ rest,
        source later < (rows.set position (rows[source position]?.getD [])).length := by
      intro later member
      rw [length_set]
      exact inside later (mem_cons_of_mem position member)
    obtain ⟨height, width⟩ := ih restInside evenAfter
    exact ⟨height.trans length_set, width⟩

/-- One operation keeps the shape of a rectangle. -/
theorem sameShape_applyOp {op : DamageOp} (computed : Renderer.applyOp rows op = .ok applied)
    (even : ∀ row ∈ rows, row.length = cols) : SameShape cols rows applied := by
  have scrolled : ∀ {top bottomExclusive lines : Nat} {up : Bool},
      Renderer.applyScrollOp rows top bottomExclusive lines up = .ok applied →
      SameShape cols rows applied := by
    intro top bottomExclusive lines up moved
    simp only [Renderer.applyScrollOp, check_ok_iff] at moved
    obtain ⟨_, moved⟩ := moved
    cases up with
    | true =>
      rw [if_pos rfl, Except.ok.injEq] at moved
      rw [← moved]
      refine sameShape_copyRows ?_ even
      intro position member
      rw [mem_range'_1] at member
      omega
    | false =>
      rw [if_neg Bool.false_ne_true, Except.ok.injEq] at moved
      rw [← moved]
      refine sameShape_copyRows ?_ even
      intro position member
      rw [mem_reverse, mem_range'_1] at member
      omega
  cases op with
  | rowSpan row =>
    simp only [Renderer.applyOp] at computed
    cases found : rows[row]? with
    | none =>
      rw [found] at computed
      contradiction
    | some target =>
      rw [found] at computed
      simp only [check_ok_iff, Except.ok.injEq] at computed
      obtain ⟨fits, rfl⟩ := computed
      refine ⟨length_set, ?_⟩
      intro other member
      rcases mem_or_eq_of_mem_set member with old | rfl
      · exact even other old
      · rw [length_overwrite (not_lt.mp fits)]
        exact even target (mem_of_getElem? found)
  | clearAll cell =>
    obtain rfl : rows.map (fun row => row.map (fun _ => cell)) = applied := Except.ok.inj computed
    refine ⟨length_map _, ?_⟩
    intro row member
    obtain ⟨old, oldMember, rfl⟩ := mem_map.mp member
    rw [length_map, even old oldMember]
  | scrollUp top bottomExclusive lines | scrollDown top bottomExclusive lines =>
    exact scrolled computed

/-- A list of operations keeps the shape of a rectangle. -/
theorem sameShape_applyOps (computed : applyOps rows ops = .ok applied)
    (even : ∀ row ∈ rows, row.length = cols) : SameShape cols rows applied := by
  induction ops generalizing rows with
  | nil =>
    obtain rfl : rows = applied := Except.ok.inj computed
    exact ⟨rfl, even⟩
  | cons op _ ih =>
    rw [applyOps, applyOp_eq] at computed
    cases first : Renderer.applyOp rows op with
    | error =>
      rw [first] at computed
      contradiction
    | ok =>
      rw [first] at computed
      obtain ⟨height, width⟩ := sameShape_applyOp first even
      obtain ⟨laterHeight, laterWidth⟩ := ih computed width
      exact ⟨laterHeight.trans height, laterWidth⟩

/-! ## Grids and frames as a whole -/

/-- What the renderer accepts of a snapshot's shape. -/
structure WellShaped (snap : GridSnapshot) : Prop extends Renderer.Rectangular snap where
  cols_pos : 0 < snap.cols
  rows_pos : 0 < snap.rows
  cols_le : snap.cols ≤ 2000
  rows_le : snap.rows ≤ 2000

theorem validateDimensions_none_iff : validateDimensions snap = none ↔ WellShaped snap := by
  simp only [validateDimensions, fault_none_iff, and_true, not_or, not_not, any_eq_true,
    bne_iff_ne, ne_eq, not_exists, not_and, gt_iff_lt, not_lt]
  constructor
  · rintro ⟨positive, bounded, height, width⟩
    exact ⟨⟨height, width⟩, Nat.pos_of_ne_zero positive.1, Nat.pos_of_ne_zero positive.2,
      bounded.1, bounded.2⟩
  · intro shaped
    exact ⟨⟨shaped.cols_pos.ne', shaped.rows_pos.ne'⟩, ⟨shaped.cols_le, shaped.rows_le⟩,
      shaped.height, shaped.width⟩

/-- The renderer's dimension check is the browser's with the hyperlink budget. -/
theorem renderer_validateDimensions_ok_iff :
    Renderer.validateDimensions snap = .ok () ↔
      WellShaped snap ∧ terminalLinkCellsWithinCap snap.rowsCells = true := by
  rw [← validateDimensions_none_iff]
  simp only [Renderer.validateDimensions, validateDimensions, check_ok_iff, fault_none_iff,
    not_not, and_true, and_assoc]
  rfl

/-- Rounding does not change whether a snapshot is well shaped. -/
theorem wellShaped_parsed_iff : WellShaped (parsedSnapshot snap) ↔ WellShaped snap := by
  have cols : jsNumber snap.cols ≤ 2000 ↔ snap.cols ≤ 2000 := jsNumber_le_iff (by decide)
  have rows : jsNumber snap.rows ≤ 2000 ↔ snap.rows ≤ 2000 := jsNumber_le_iff (by decide)
  constructor
  · intro shaped
    have colsSmall : snap.cols ≤ 2000 := cols.mp shaped.cols_le
    have rowsSmall : snap.rows ≤ 2000 := rows.mp shaped.rows_le
    have colsSame := jsNumber_small colsSmall
    have rowsSame := jsNumber_small rowsSmall
    exact ⟨⟨shaped.height.trans rowsSame, fun row member => (shaped.width row member).trans colsSame⟩,
      colsSame ▸ shaped.cols_pos, rowsSame ▸ shaped.rows_pos, colsSmall, rowsSmall⟩
  · intro shaped
    have colsSame := jsNumber_small shaped.cols_le
    have rowsSame := jsNumber_small shaped.rows_le
    exact ⟨⟨shaped.height.trans rowsSame.symm,
        fun row member => (shaped.width row member).trans colsSame.symm⟩,
      Nat.lt_of_lt_of_eq shaped.cols_pos colsSame.symm,
      Nat.lt_of_lt_of_eq shaped.rows_pos rowsSame.symm, cols.mpr shaped.cols_le,
      rows.mpr shaped.rows_le⟩

theorem cellIsValid_eq (cell : Cell) : cellIsValid cell = Grid.cellIsValid cell := by
  unfold cellIsValid Grid.cellIsValid
  split
  · next zero =>
    rw [zero, Bool.eq_iff_iff, beq_iff_eq]
    exact String.isEmpty_iff.symm
  · split <;> simp_all

/-- The browser finds no fault in operations that the renderer's loop accepts. -/
theorem validateDamageOps_none {rows index totalCells hyperlinkCells : Nat}
    (accepted : Renderer.validateOps cols rows index totalCells hyperlinkCells ops = .ok ()) :
    validateDamageOps cols rows index totalCells ops = none := by
  induction ops generalizing index totalCells hyperlinkCells with
  | nil => rfl
  | cons op _ ih =>
    cases op with
    | rowSpan _ _ cells =>
      simp only [Renderer.validateOps, bind_ok_iff, check_ok_iff] at accepted
      obtain ⟨_, span, _, within, later⟩ := accepted
      obtain ⟨nonempty, inside, fits, valid⟩ := Renderer.validateSpan_ok_iff.mp span
      have allValid : cells.all cellIsValid = true := by
        rw [all_eq_true]
        intro cell member
        rw [cellIsValid_eq]
        exact valid cell member
      simp only [validateDamageOps, fault_none_iff, length_eq_zero_iff]
      exact ⟨nonempty, not_le.mpr inside, not_lt.mpr fits, not_not.mpr allValid, within,
        ih later⟩
    | clearAll =>
      simp only [Renderer.validateOps, bind_ok_iff, validateFill, check_ok_iff] at accepted
      obtain ⟨_, ⟨canonical, _⟩, _, _, later⟩ := accepted
      simp only [validateDamageOps, fault_none_iff, cellIsValid_eq]
      exact ⟨canonical, ih later⟩
    | scrollUp top bottomExclusive lines | scrollDown top bottomExclusive lines =>
      simp only [Renderer.validateOps, bind_ok_iff] at accepted
      obtain ⟨_, region, later⟩ := accepted
      simp only [validateDamageOps, fault_none_iff]
      exact ⟨not_not.mpr (Renderer.validateScroll_ok_iff.mp region), ih later⟩

/-- A frame accepted by the renderer, with an exact revision, is parsed unchanged. -/
theorem parsedFrame_eq (valid : Renderer.validate frame = .ok ())
    (precise : frame.revision < 2 ^ 53) : parsedFrame frame = frame := by
  obtain ⟨_, _, _, _, _, _, _, _⟩ :=
    Renderer.validateHeader_ok_iff.mp (Renderer.header_of_validate valid)
  have base : jsNumber frame.baseRevision = frame.baseRevision := jsNumber_exact (by omega)
  simp [parsedFrame, base, jsNumber_exact precise]

/-- The browser finds no fault in a frame that the renderer accepts. -/
theorem validateDamage_none (valid : Renderer.validate frame = .ok ()) :
    validateDamage frame = none := by
  obtain ⟨copy, schema, _, _, colsBound, _, _, _, _, _⟩ :=
    Renderer.validateHeader_ok_iff.mp (Renderer.header_of_validate valid)
  have narrow : frame.cols ≤ 0x10000 := le_trans colsBound (by decide)
  simp only [Renderer.validate, bind_ok_iff] at valid
  obtain ⟨_, _, ops⟩ := valid
  simp only [validateDamage, fault_none_iff, rowCopyValid_eq narrow]
  exact ⟨not_not.mpr copy, not_not.mpr schema, by omega, by omega, by omega, by omega, by omega,
    validateDamageOps_none ops⟩

end HydraTerm.Browser
