import HydraTerm.Grid.RowSpans

/-!
# The frames the generator can return

A returned frame carries one of three lists of operations: a full clear, a verified
scroll with leftover spans, or plain spans. Each comes with the facts the generator
checked before returning it. The span cells of any frame form a sublist of the cells of
the next grid, since every compared row contributes a window of itself at most once; so
any budget the next grid keeps, the frame keeps. Between grids without a common cell the
frame carries every row whole.
-/

namespace HydraTerm.Grid

open Lib List

variable {prev next base : CellRows} {op : DamageOp} {row : Nat}

/-- What a proposed whole-grid scroll has been checked for. -/
theorem detectScroll_some {plan : DamageOp} (proposed : detectScroll prev next = some plan) :
    ∃ lines, 0 < lines ∧ lines < prev.length
      ∧ (plan = .scrollUp 0 (asU16 prev.length) (asU16 lines)
        ∨ plan = .scrollDown 0 (asU16 prev.length) (asU16 lines)) := by
  have shiftBounds : ∀ {matchesAt : Nat → Nat} {lines : Nat},
      bestShift prev.length matchesAt = some lines → 0 < lines ∧ lines < prev.length := by
    intro matchesAt lines found
    have member := mem_of_find?_eq_some found
    rw [mem_range'_1] at member
    omega
  unfold detectScroll at proposed
  dsimp only at proposed
  split at proposed
  · contradiction
  · split at proposed
    · next lines found =>
      obtain ⟨positive, below⟩ := shiftBounds found
      exact ⟨lines, positive, below, .inl (Option.some.inj proposed).symm⟩
    · split at proposed
      · next lines found =>
        obtain ⟨positive, below⟩ := shiftBounds found
        exact ⟨lines, positive, below, .inr (Option.some.inj proposed).symm⟩
      · contradiction

/-- A scroll frame starts with the proposal, continues with spans, and has been replayed. -/
theorem scrollOps_some {plain ops : List DamageOp} (chosen : scrollOps prev next plain = some ops) :
    ∃ plan scratch result, detectScroll prev next = some plan
      ∧ appendRowspanDiffs scratch next [plan] none = some result ∧ result.1 = ops
      ∧ ops.foldlM verifyOp prev = some next := by
  simp only [scrollOps, Option.bind_eq_bind, Option.bind_eq_some_iff] at chosen
  obtain ⟨plan, proposed, scratch, _, ⟨_, _⟩, appended, chosen⟩ := chosen
  split at chosen
  · obtain ⟨_, replayed, chosen⟩ := Option.bind_eq_some_iff.mp chosen
    split at chosen
    · next same =>
      cases chosen
      exact ⟨plan, scratch, _, proposed, appended, rfl, same ▸ replayed⟩
    · contradiction
  · contradiction

/-- A uniform blank fills every cell and has the canonical glyph. -/
theorem uniformBlank_some {next : CellRows} {fill : Cell}
    (uniform : uniformBlank next = some fill) :
    isCanonicalBlank fill ∧ ∀ row ∈ next, ∀ cell ∈ row, cell = fill := by
  unfold uniformBlank at uniform
  split at uniform
  · split at uniform
    · next accepted =>
      cases uniform
      simpa using accepted
    · contradiction
  · contradiction

/-- An emitted span carries a nonempty window of its row. -/
theorem rowSpanOp_some (emitted : rowSpanOp base next row = some op) :
    ∃ nextRow start stop, next[row]? = some nextRow ∧ base[row]? ≠ next[row]?
      ∧ start < stop ∧ stop ≤ nextRow.length
      ∧ op = .rowSpan (asU16 row) (asU16 start) (nextRow.extract start stop) := by
  unfold rowSpanOp at emitted
  split at emitted
  · next _ nextRow baseAt nextAt =>
    obtain ⟨⟨start, stop⟩, found, rfl⟩ := Option.map_eq_some_iff.mp emitted
    obtain ⟨nonempty, bounded, _⟩ := rowDiffSpan_window found
    refine ⟨nextRow, start, stop, nextAt, ?_, nonempty, bounded, rfl⟩
    rw [baseAt, nextAt]
    intro same
    cases same
    rw [rowDiffSpan_self] at found
    contradiction
  · contradiction

/-- The rows by their numbers are all cells in order. -/
theorem flatMap_range_getElem? (rows : CellRows) :
    (List.range rows.length).flatMap (fun row => rows[row]?.getD []) = rows.flatten := by
  rw [flatMap_def]
  congr 1
  apply ext_getElem
  · simp
  · intro index left right
    simp only [length_map, length_range] at left
    simp [left]

/-- Windows of rows listed in increasing order form a sublist of all cells. -/
theorem framedCells_sublist {rows : List Nat} (increasing : rows.Sublist (List.range next.length)) :
    (framedCells (rows.filterMap (rowSpanOp base next))).Sublist next.flatten := by
  have window : ∀ row, (framedCells (rowSpanOp base next row).toList).Sublist
      (next[row]?.getD []) := by
    intro row
    cases emitted : rowSpanOp base next row with
    | none => exact nil_sublist _
    | some =>
      obtain ⟨_, _, _, nextAt, _, _, _, rfl⟩ := rowSpanOp_some emitted
      rw [nextAt]
      simp only [Option.toList_some, framedCells_cons, spanCells, framedCells_nil,
        append_nil, Option.getD_some, extract_eq_take_drop]
      exact (take_sublist _ _).trans (drop_sublist _ _)
  have windows : ∀ listed : List Nat,
      (framedCells (listed.filterMap (rowSpanOp base next))).Sublist
        (listed.flatMap (fun row => next[row]?.getD [])) := by
    intro listed
    induction listed with
    | nil => exact nil_sublist _
    | cons row _ ih =>
      rw [rowSpanOps_cons, framedCells_append, flatMap_cons]
      exact (window row).append ih
  rw [← flatMap_range_getElem? next]
  exact (windows rows).trans (increasing.flatMap _)

/-- The compared rows are listed in increasing order. -/
theorem comparedRows_sublist (base : CellRows) (prev next : StampedSnapshot) :
    (comparedRows base next.rowsCells (candidateRows prev next)).Sublist
      (List.range next.rowsCells.length) := by
  have all : (comparedRows base next.rowsCells none).Sublist
      (List.range next.rowsCells.length) := by
    exact range_sublist.mpr (Nat.min_le_right _ _)
  unfold candidateRows
  dsimp only
  split
  · exact all
  · exact filter_sublist

variable {prev next : StampedSnapshot}

/-- An emitted span is a change that the hinted comparison has seen. -/
theorem gridChanged_of_span
    (compared : row ∈ comparedRows prev.rowsCells next.rowsCells (candidateRows prev next))
    (emitted : rowSpanOp prev.rowsCells next.rowsCells row = some op) :
    gridChangedHinted prev next (candidateRows prev next) = true := by
  obtain ⟨_, _, _, _, different, _⟩ := rowSpanOp_some emitted
  cases hint : candidateRows prev next with
  | none =>
    simp only [gridChangedHinted, bne_iff_ne]
    intro same
    exact different (congrArg (fun grid => grid[row]?) same)
  | some =>
    rw [hint, comparedRows, Option.getD_some] at compared
    simp only [gridChangedHinted, any_eq_true, bne_iff_ne]
    exact ⟨row, compared, different⟩

variable (prev next : StampedSnapshot) in
/-- The operations of a returned frame. -/
inductive FrameOps : List DamageOp → Prop
  | clear (fill : Cell) (uniform : uniformBlank next.rowsCells = some fill) :
      FrameOps [.clearAll fill]
  | scroll (plain ops : List DamageOp)
      (chosen : scrollOps prev.rowsCells next.rowsCells plain = some ops) : FrameOps ops
  | spans (result : List DamageOp × Nat)
      (appended : appendRowspanDiffs prev.rowsCells next.rowsCells []
        (candidateRows prev next) = some result) : FrameOps result.1

/-- A returned frame bridges two revisions of one generation and geometry, in strictly
increasing order, with operations of one of the three kinds. -/
theorem generateDamage_frame {frame : DamageFrame}
    (generated : generateDamage prev next = .frame frame) :
    prev.generation = next.generation ∧ prev.cols = next.cols ∧ prev.rows = next.rows
      ∧ prev.revision < next.revision
      ∧ ∃ ops, frame = frameWith prev.toGridSnapshot next.toGridSnapshot ops
        ∧ FrameOps prev next ops := by
  unfold generateDamage at generated
  dsimp only at generated
  split at generated
  · contradiction
  next sameLifetime =>
  simp only [not_or, not_not] at sameLifetime
  split at generated
  · contradiction
  next advanced =>
  simp only [Bool.and_eq_true, Bool.or_eq_true, decide_eq_true_eq, not_and, Nat.not_le] at advanced
  refine ⟨sameLifetime.1, sameLifetime.2.1, sameLifetime.2.2, ?_⟩
  split at generated
  · next fill cleared =>
    cases generated
    split at cleared
    · next changed => exact ⟨advanced (.inl changed), _, rfl, .clear fill cleared⟩
    · contradiction
  · split at generated
    · contradiction
    · next ops _ appended =>
      split at generated
      · next scrolled chosen =>
        cases generated
        split at chosen
        · next gated =>
          rw [Bool.and_eq_true] at gated
          exact ⟨advanced (.inl gated.1), _, rfl, .scroll ops scrolled chosen⟩
        · contradiction
      · split at generated
        · next quiet =>
          split at generated
          · next changed =>
            cases generated
            rw [List.isEmpty_iff] at quiet
            subst quiet
            rw [Bool.or_eq_true] at changed
            exact ⟨advanced (.inr changed), _, rfl, .spans _ appended⟩
          · contradiction
        · next busy =>
          cases generated
          refine ⟨advanced (.inl ?_), _, rfl, .spans _ appended⟩
          obtain ⟨listed, _⟩ := appendRowspanDiffs_some appended
          dsimp only at listed
          rw [List.isEmpty_iff, listed] at busy
          obtain ⟨_, member⟩ := exists_mem_of_ne_nil _ busy
          obtain ⟨_, compared, emitted⟩ := mem_filterMap.mp member
          exact gridChanged_of_span compared emitted

/-- The header comparison decides equality of the cursor and mode headers. -/
theorem headerChanged_false {prev next : GridSnapshot} (same : headerChanged prev next = false) :
    cursorStateOf prev = cursorStateOf next ∧ modeStateOf prev = modeStateOf next := by
  simp only [headerChanged, Bool.or_eq_false_iff, bne_eq_false_iff_eq] at same
  simp only [cursorStateOf, modeStateOf, CursorState.mk.injEq, ModeState.mk.injEq]
  tauto

/-- Without a change, the header and metadata agree and no compared row differs. -/
theorem generateDamage_noChange (generated : generateDamage prev next = .noChange) :
    prev.generation = next.generation ∧ prev.cols = next.cols ∧ prev.rows = next.rows
      ∧ cursorStateOf prev.toGridSnapshot = cursorStateOf next.toGridSnapshot
      ∧ modeStateOf prev.toGridSnapshot = modeStateOf next.toGridSnapshot
      ∧ prev.rowCopy = next.rowCopy
      ∧ (comparedRows prev.rowsCells next.rowsCells (candidateRows prev next)).filterMap
        (rowSpanOp prev.rowsCells next.rowsCells) = [] := by
  unfold generateDamage at generated
  dsimp only at generated
  split at generated
  · contradiction
  next sameLifetime =>
  simp only [not_or, not_not] at sameLifetime
  split at generated
  · contradiction
  split at generated
  · contradiction
  split at generated
  · contradiction
  next ops total appended =>
  split at generated
  · contradiction
  split at generated
  · next quiet =>
    split at generated
    · contradiction
    · next unchanged =>
      rw [Bool.not_eq_true, Bool.or_eq_false_iff, bne_eq_false_iff_eq] at unchanged
      obtain ⟨cursor, modes⟩ := headerChanged_false unchanged.1
      obtain ⟨listed, _⟩ := appendRowspanDiffs_some appended
      rw [List.isEmpty_iff] at quiet
      exact ⟨sameLifetime.1, sameLifetime.2.1, sameLifetime.2.2, cursor, modes, unchanged.2,
        listed.symm.trans quiet⟩
  · contradiction

end HydraTerm.Grid
