import HydraTerm.Grid.GenerateDamage

/-!
# What the span loop emits

The scan of a row pair finds the minimal window in which two rows of one width differ.
The span loop over a list of rows therefore appends exactly one operation for each
differing row of the list, in order, and stays within the caps whenever it returns.
-/

namespace HydraTerm.Grid

open Lib List Option

/-- The rows agree at every column that both have and that satisfies `inside`. -/
def AgreeWhere (prev next : List Cell) (inside : Nat → Prop) : Prop :=
  ∀ offset, offset < prev.length → offset < next.length → inside offset →
    prev[offset]? = next[offset]?

variable {prev next : List Cell} {base : CellRows} {row : Nat}
  {state result : List DamageOp × Nat} {start stop : Nat}

/-- Agreement on the tails, with the heads equal or not asked for. -/
theorem AgreeWhere.cons {prevCell nextCell : Cell} {inside : Nat → Prop}
    (head : inside 0 → prevCell = nextCell)
    (tail : AgreeWhere prev next (fun offset => inside (offset + 1))) :
    AgreeWhere (prevCell :: prev) (nextCell :: next) inside := by
  intro offset inPrev inNext asked
  cases offset with
  | zero => simp [head asked]
  | succ offset =>
    simp only [length_cons, Nat.add_lt_add_iff_right] at inPrev inNext
    simpa using tail offset inPrev inNext asked

/-- After a first difference the scan keeps it and moves only the last one. Every shared
column past the reported last difference agrees. -/
theorem rowDiffScan_started (prev next : List Cell) (col first last : Nat) (seen : last < col) :
    ∃ final, rowDiffScan prev next col (some first) last = (some first, final) ∧ last ≤ final
      ∧ final < col + next.length ∧ AgreeWhere prev next (fun offset => final < col + offset) := by
  induction prev generalizing next col last with
  | nil =>
    exact ⟨last, rfl, Nat.le_refl last, Nat.lt_add_right _ seen,
      fun _ impossible => absurd impossible (by simp)⟩
  | cons prevCell _ ih =>
    cases next with
    | nil =>
      exact ⟨last, rfl, Nat.le_refl last, seen, fun _ _ impossible => absurd impossible (by simp)⟩
    | cons nextCell nextRest =>
      by_cases same : prevCell = nextCell
      · obtain ⟨final, kept, grown, _, agree⟩ := ih nextRest (col + 1) last (by omega)
        simp only [rowDiffScan, same, ne_eq, not_true_eq_false, if_false, length_cons]
        refine ⟨final, kept, grown, by omega, ?_⟩
        refine AgreeWhere.cons (fun _ => rfl) ?_
        simpa [Nat.add_assoc, Nat.add_comm 1] using agree
      · obtain ⟨final, kept, _, _, agree⟩ := ih nextRest (col + 1) col (by omega)
        simp only [rowDiffScan, ne_eq, same, not_false_eq_true, if_true, some_or, length_cons]
        refine ⟨final, kept, by omega, by omega, ?_⟩
        refine AgreeWhere.cons (fun beyond => by omega) ?_
        simpa [Nat.add_assoc, Nat.add_comm 1] using agree

/-- From no difference yet, the scan either finds none or reports the exact window. -/
theorem rowDiffScan_fresh (prev next : List Cell) (col : Nat) :
    ((rowDiffScan prev next col none 0).1 = none ∧ AgreeWhere prev next (fun _ => True))
      ∨ ∃ first final, rowDiffScan prev next col none 0 = (some first, final)
        ∧ first ≤ final ∧ final < col + next.length
        ∧ AgreeWhere prev next (fun offset => col + offset < first)
        ∧ AgreeWhere prev next (fun offset => final < col + offset) := by
  induction prev generalizing next col with
  | nil => exact .inl ⟨rfl, fun _ impossible => absurd impossible (by simp)⟩
  | cons prevCell prevRest ih =>
    cases next with
    | nil => exact .inl ⟨rfl, fun _ _ impossible => absurd impossible (by simp)⟩
    | cons nextCell nextRest =>
      by_cases same : prevCell = nextCell
      · simp only [rowDiffScan, same, ne_eq, not_true_eq_false, if_false, length_cons]
        rcases ih nextRest (col + 1) with
          ⟨absent, equal⟩ | ⟨first, final, found, ordered, inNext, before, after⟩
        · exact .inl ⟨absent, AgreeWhere.cons (fun _ => rfl) equal⟩
        · refine .inr ⟨first, final, found, ordered, by omega, ?_, ?_⟩
          · refine AgreeWhere.cons (fun _ => rfl) ?_
            simpa [Nat.add_assoc, Nat.add_comm 1] using before
          · refine AgreeWhere.cons (fun _ => rfl) ?_
            simpa [Nat.add_assoc, Nat.add_comm 1] using after
      · obtain ⟨final, kept, grown, _, agree⟩ :=
          rowDiffScan_started prevRest nextRest (col + 1) col col (Nat.lt_succ_self col)
        simp only [rowDiffScan, ne_eq, same, not_false_eq_true, if_true, none_or, length_cons]
        refine .inr ⟨col, final, kept, grown, by omega, ?_, ?_⟩
        · intro offset _ _ early
          omega
        · refine AgreeWhere.cons (fun late => by omega) ?_
          simpa [Nat.add_assoc, Nat.add_comm 1] using agree

/-- A span is found exactly when the shared columns differ somewhere. -/
theorem rowDiffSpan_none_agree (absent : rowDiffSpan prev next = none) :
    AgreeWhere prev next (fun _ => True) := by
  simp only [rowDiffSpan, map_eq_none_iff] at absent
  rcases rowDiffScan_fresh prev next 0 with ⟨_, equal⟩ | ⟨first, final, found, _⟩
  · exact equal
  · simp [found] at absent

/-- Rows of one width without a differing span are equal. -/
theorem rowDiffSpan_none (width : prev.length = next.length)
    (absent : rowDiffSpan prev next = none) : prev = next := by
  apply ext_getElem?
  intro offset
  by_cases inside : offset < prev.length
  · exact rowDiffSpan_none_agree absent offset inside (width ▸ inside) trivial
  · rw [getElem?_eq_none (by omega), getElem?_eq_none (by omega)]

/-- A reported span is nonempty, lies within both rows, and the shared columns outside it
agree. -/
theorem rowDiffSpan_window (found : rowDiffSpan prev next = some (start, stop)) :
    start < stop ∧ stop ≤ next.length
      ∧ AgreeWhere prev next (fun offset => offset < start ∨ stop ≤ offset) := by
  simp only [rowDiffSpan, map_eq_some_iff, Prod.mk.injEq] at found
  obtain ⟨_, scanned, rfl, rfl⟩ := found
  rcases rowDiffScan_fresh prev next 0 with
    ⟨absent, _⟩ | ⟨other, final, located, ordered, inNext, before, after⟩
  · rw [absent] at scanned
    contradiction
  · rw [located] at scanned ⊢
    cases scanned
    refine ⟨by omega, by omega, ?_⟩
    intro offset offPrev offNext outside
    rcases outside with early | late
    · exact before offset offPrev offNext (by omega)
    · exact after offset offPrev offNext (by omega)

/-- Between rows of one width, the span is a window outside which the rows agree. -/
theorem rowDiffSpan_some
    (width : prev.length = next.length) (found : rowDiffSpan prev next = some (start, stop)) :
    start < stop ∧ stop ≤ next.length ∧ AgreeOutside prev next start stop := by
  obtain ⟨nonempty, bounded, agree⟩ := rowDiffSpan_window found
  refine ⟨nonempty, bounded, ?_⟩
  intro position outside
  by_cases inside : position < prev.length
  · exact agree position inside (width ▸ inside) outside
  · rw [getElem?_eq_none (by omega), getElem?_eq_none (by omega)]

/-- A row does not differ from itself. -/
theorem rowDiffSpan_self (row : List Cell) : rowDiffSpan row row = none := by
  have scanned : ∀ col first last, rowDiffScan row row col first last = (first, last) := by
    induction row with
    | nil => exact fun _ _ _ => rfl
    | cons _ _ ih =>
      intro col first last
      simp only [rowDiffScan, ne_eq, not_true_eq_false, if_false]
      exact ih (col + 1) first last
  simp [rowDiffSpan, scanned]

/-- The operation the span loop emits for one row, if the row differs. -/
def rowSpanOp (base next : CellRows) (row : Nat) : Option DamageOp :=
  match base[row]?, next[row]? with
  | some baseRow, some nextRow =>
    (rowDiffSpan baseRow nextRow).map (fun span =>
      .rowSpan (asU16 row) (asU16 span.1) (nextRow.extract span.1 span.2))
  | _, _ => none

theorem rowSpanOp_of_rows {next : CellRows} {baseRow nextRow : List Cell}
    (baseAt : base[row]? = some baseRow) (nextAt : next[row]? = some nextRow) :
    rowSpanOp base next row = (rowDiffSpan baseRow nextRow).map (fun span =>
      .rowSpan (asU16 row) (asU16 span.1) (nextRow.extract span.1 span.2)) := by
  simp [rowSpanOp, baseAt, nextAt]

/-- The cells an operation carries in its span. -/
def spanCells : DamageOp → List Cell
  | .rowSpan _ _ cells => cells
  | _ => []

/-- The cells of all spans, in order. -/
def framedCells (ops : List DamageOp) : List Cell := ops.flatMap spanCells

@[simp] theorem framedCells_nil : framedCells [] = [] := rfl

@[simp] theorem framedCells_cons (op : DamageOp) (rest : List DamageOp) :
    framedCells (op :: rest) = spanCells op ++ framedCells rest :=
  flatMap_cons

@[simp] theorem framedCells_append (left right : List DamageOp) :
    framedCells (left ++ right) = framedCells left ++ framedCells right :=
  flatMap_append

/-- One iteration of the span loop, through the operation it emits. -/
theorem emitRow_some {next : CellRows}
    (emitted : emitRow base next state row = some result) :
    result.1 = state.1 ++ (rowSpanOp base next row).toList
      ∧ result.2 = state.2 + (framedCells (rowSpanOp base next row).toList).length
      ∧ (state.1.length ≤ maxDamageOps → result.1.length ≤ maxDamageOps)
      ∧ (state.2 ≤ maxDamageCells → result.2 ≤ maxDamageCells) := by
  unfold emitRow at emitted
  split at emitted
  · next _ _ baseAt nextAt =>
    rw [rowSpanOp_of_rows baseAt nextAt]
    split at emitted
    · next _ _ found =>
      rw [found]
      dsimp only at emitted
      split at emitted
      · contradiction
      · next within =>
        rw [not_or, Nat.not_lt, Nat.not_lt] at within
        cases emitted
        exact ⟨rfl, by simp [spanCells], fun _ => within.1, fun _ => within.2⟩
    · next found =>
      cases emitted
      simp [found]
  · next absent =>
    cases emitted
    have silent : rowSpanOp base next row = none := by
      unfold rowSpanOp
      split
      · next baseRow nextRow baseAt nextAt => exact (absent baseRow nextRow baseAt nextAt).elim
      · rfl
    simp [silent]

/-- The operations for a list of rows, taken apart at its head. -/
theorem rowSpanOps_cons (base next : CellRows) (row : Nat) (rest : List Nat) :
    (row :: rest).filterMap (rowSpanOp base next) =
      (rowSpanOp base next row).toList ++ rest.filterMap (rowSpanOp base next) := by
  cases emission : rowSpanOp base next row <;> simp [emission]

/-- The loop appends the emitted operations in order, counts their cells, and keeps within
both caps. -/
theorem foldlM_emitRow {next : CellRows} {rows : List Nat}
    (returned : rows.foldlM (emitRow base next) state = some result) :
    result.1 = state.1 ++ rows.filterMap (rowSpanOp base next)
      ∧ result.2 = state.2 + (framedCells (rows.filterMap (rowSpanOp base next))).length
      ∧ (state.1.length ≤ maxDamageOps → result.1.length ≤ maxDamageOps)
      ∧ (state.2 ≤ maxDamageCells → result.2 ≤ maxDamageCells) := by
  induction rows generalizing state with
  | nil =>
    cases Option.some.inj returned
    simp
  | cons _ _ ih =>
    obtain ⟨_, emitted, later⟩ := bind_eq_some_iff.mp returned
    obtain ⟨opsOne, cellsOne, opsCapOne, cellsCapOne⟩ := emitRow_some emitted
    obtain ⟨opsRest, cellsRest, opsCapRest, cellsCapRest⟩ := ih later
    refine ⟨?_, ?_, fun cap => opsCapRest (opsCapOne cap), fun cap => cellsCapRest (cellsCapOne cap)⟩
    · rw [opsRest, opsOne, rowSpanOps_cons, append_assoc]
    · rw [cellsRest, cellsOne, rowSpanOps_cons, framedCells_append, length_append, Nat.add_assoc]

/-- The rows the span loop visits. -/
def comparedRows (base next : CellRows) (candidates : Option (List Nat)) : List Nat :=
  candidates.getD (List.range (min base.length next.length))

/-- The span loop as a whole. -/
theorem appendRowspanDiffs_some {next : CellRows} {ops : List DamageOp}
    {candidates : Option (List Nat)}
    (returned : appendRowspanDiffs base next ops candidates = some result) :
    result.1 = ops ++ (comparedRows base next candidates).filterMap (rowSpanOp base next)
      ∧ (ops.length ≤ maxDamageOps → result.1.length ≤ maxDamageOps)
      ∧ (framedCells ((comparedRows base next candidates).filterMap
          (rowSpanOp base next))).length ≤ maxDamageCells := by
  obtain ⟨appended, counted, opsCap, cellsCap⟩ := foldlM_emitRow returned
  refine ⟨appended, opsCap, ?_⟩
  have within : result.2 ≤ maxDamageCells := cellsCap (Nat.zero_le _)
  simp only [Nat.zero_add] at counted
  exact counted ▸ within

/-- A row that the hint skips carries the same stamp in both snapshots. -/
theorem skipped_stamp {prev next : StampedSnapshot}
    (inPrev : row < prev.rowsCells.length) (inNext : row < next.rowsCells.length)
    (skipped : row ∉ comparedRows prev.rowsCells next.rowsCells (candidateRows prev next)) :
    ∃ stamp : Nat, prev.rowStamps[row]? = some stamp ∧ next.rowStamps[row]? = some stamp := by
  simp only [comparedRows, candidateRows] at skipped
  split at skipped
  · simp only [getD_none, mem_range] at skipped
    omega
  next _ =>
    simp only [getD_some, mem_filter, mem_range, inNext, true_and, bne_iff_ne, not_not] at skipped
    have inStamps : row < prev.rowStamps.length := by omega
    have stampAt := getElem?_eq_getElem inStamps
    exact ⟨_, stampAt, skipped ▸ stampAt⟩

end HydraTerm.Grid
