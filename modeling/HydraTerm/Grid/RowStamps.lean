import HydraTerm.Grid.Rendering
import HydraTerm.Grid.RowSpans
import HydraTerm.Grid.SmallTerminal

/-!
# Row stamps

A row's stamp is the number of the mutation that last damaged it. While the counter has
not wrapped, a stamp that two grids of one history share was given once, and the line has
not been touched since. The counter and the revision advance together, so this holds for
as long as no mutation starts at the last revision, and as the damage that is collected names
every row that the mutation changed. The engine is not assumed to report so in every state, only
along the run between the two grids.

The line fixes the row's own copy metadata and its cells up to hyperlinks; which links are
shown also depends on the rows above, see `HydraTerm.Grid.Rendering`. Where a line starts
is read off the row above and is not covered by the stamp.
-/

namespace HydraTerm.Grid

open Lib List

universe u
variable {ε : Type u} {engine : Engine ε}

/-- Stamping a list of lines changes exactly the listed rows of the screen. -/
theorem stampLines_getElem? (named stamps : List Nat) (rows stamp row : Nat) :
    (named.foldl (fun stamps line => if line < rows then stamps.set line stamp else stamps)
        stamps)[row]?
      = if row ∈ named ∧ row < rows then stamps[row]?.map (fun _ => stamp) else stamps[row]? := by
  induction named generalizing stamps with
  | nil => simp [foldl_nil, not_mem_nil, false_and]
  | cons line _ ih =>
    rw [foldl_cons, ih]
    by_cases onScreen : line < rows
    · by_cases here : line = row
      · subst here
        simp [onScreen, getElem?_set]
        grind
      · grind
    · grind

/-- A stamp after a collection is the new one, or an old one of a row that was not named. -/
theorem stampRows_some {stamps : List Nat} {rows stamp row value : Nat} {damage : TermDamage}
    (visible : row < rows) (found : (stampRows stamps rows stamp damage)[row]? = some value) :
    value = stamp ∨ (¬damage.Names row ∧ stamps[row]? = some value) := by
  cases damage with
  | full =>
    left
    simp only [stampRows, getElem?_map, Option.map_eq_some_iff] at found
    obtain ⟨_, _, rfl⟩ := found
    rfl
  | lines =>
    simp only [stampRows, stampLines_getElem?] at found
    split at found
    · left
      obtain ⟨_, _, rfl⟩ := Option.map_eq_some_iff.mp found
      rfl
    next unnamed =>
      right
      exact ⟨fun member => unnamed ⟨member, visible⟩, found⟩

/-- Stamping keeps the number of rows. -/
theorem length_stampRows (stamps : List Nat) (rows stamp : Nat) (damage : TermDamage) :
    (stampRows stamps rows stamp damage).length = stamps.length := by
  cases damage with
  | full => simp [stampRows]
  | lines named =>
    simp only [stampRows]
    induction named generalizing stamps with
    | nil => rfl
    | cons _ _ ih =>
      rw [foldl_cons, ih]
      split
      · exact length_set
      · rfl

/-- The engine after a mutation of the grid, when its damage is not collected yet. -/
def TermGrid.mutated (engine : Engine ε) (grid : TermGrid ε) : Mutation → ε
  | .advance bytes _ => engine.enforceHistoryBudget grid.cols
      ((bytes.toChunks maxParserAdvanceBytes).foldl (engine.parseChunk grid.cols grid.rows) grid.term)
  | .resize cols rows _ => engine.enforceHistoryBudget (clampDim cols)
      (engine.resize grid.term (clampDim cols) (clampDim rows) (historyBudget (clampDim cols)))

/-- The damage names every visible row whose cells the mutation changed; other dimensions are
damage everywhere. A call that is no mutation has nothing to report. -/
def TermGrid.Reported (engine : Engine ε) (grid : TermGrid ε) : Mutation → Prop
  | .advance bytes fresh =>
    let term := grid.mutated engine (.advance bytes fresh)
    bytes ≠ [] → ∀ row < grid.rows, ∀ col < grid.cols,
      engine.cell term row col ≠ engine.cell grid.term row col → (engine.damage term).2.Names row
  | .resize cols rows fresh =>
    ¬(clampDim cols = grid.cols ∧ clampDim rows = grid.rows) →
      (engine.damage (grid.mutated engine (.resize cols rows fresh))).2 = .full

instance (grid : TermGrid ε) : (mutation : Mutation) → Decidable (grid.Reported engine mutation)
  | .advance .. | .resize .. => inferInstanceAs (Decidable (_ → _))

/-- The grid between two mutations: there is one stamp a row, and no stamp is ahead of the
counter, which equals the revision. -/
structure GridInv (grid : TermGrid ε) : Prop where
  width : 0 < grid.cols
  height : grid.rowStamps.length = grid.rows
  bounded : ∀ stamp ∈ grid.rowStamps, stamp ≤ grid.stampCounter
  counted : grid.stampCounter = grid.revision

/-- Every stamp of the later grid is newer than the earlier grid, or is one of its stamps
on a line that has not changed. -/
structure Stamped (engine : Engine ε) (earlier later : TermGrid ε) : Prop where
  counter : earlier.stampCounter ≤ later.stampCounter
  stamp : ∀ {row value : Nat}, later.rowStamps[row]? = some value →
    earlier.stampCounter < value
      ∨ (earlier.rowStamps[row]? = some value ∧ earlier.cols = later.cols
        ∧ SameLine earlier.cols (engine.line earlier.term row) (engine.line later.term row))

/-- A grid is stamped against itself. -/
theorem Stamped.refl (grid : TermGrid ε) : Stamped engine grid grid :=
  ⟨Nat.le_refl _, fun found => .inr ⟨found, rfl, fun _ _ => rfl⟩⟩

/-- Stamps survive any number of mutations. -/
theorem Stamped.trans {earlier middle later : TermGrid ε} (first : Stamped engine earlier middle)
    (second : Stamped engine middle later) : Stamped engine earlier later := by
  refine ⟨Nat.le_trans first.counter second.counter, ?_⟩
  intro row value found
  rcases second.stamp found with newer | ⟨kept, cols, same⟩
  · exact .inl (Nat.lt_of_le_of_lt first.counter newer)
  · rcases first.stamp kept with newer | ⟨original, earlierCols, earlierSame⟩
    · exact .inl newer
    · exact .inr ⟨original, earlierCols.trans cols, earlierSame.trans (earlierCols ▸ same)⟩

/-- A mutation that does not start at the last revision. -/
def BelowCeilingStep (engine : Engine ε) (before : TermGrid ε) (mutation : Mutation)
    (after : TermGrid ε) : Prop :=
  before.revision + 1 < u64Ceiling ∧ GridStep engine before mutation after

/-- A step of which the damage names what it changed. -/
def Reporting (engine : Engine ε) (step : TermGrid ε → Mutation → TermGrid ε → Prop)
    (before : TermGrid ε) (mutation : Mutation) (after : TermGrid ε) : Prop :=
  step before mutation after ∧ before.Reported engine mutation

/-- A grid whose damage has been collected and whose revision has advanced. -/
def settled (engine : Engine ε) (grid : TermGrid ε) : TermGrid ε :=
  { grid with
    term := engine.resetDamage (engine.damage grid.term).1
    rowStamps := stampRows grid.rowStamps grid.rows (grid.stampCounter + 1)
      (engine.damage grid.term).2
    stampCounter := grid.stampCounter + 1
    baseRevision := grid.revision
    revision := grid.revision + 1 }

variable {grid before after : TermGrid ε} {mutations : List Mutation} {first last : TermGrid ε}

/-- Committing a mutation below the ceiling settles the grid. -/
theorem collect_bump (engine : Engine ε) (fresh : SessionGeneration)
    (height : grid.rowStamps.length = grid.rows) (counted : grid.stampCounter = grid.revision)
    (below : grid.revision + 1 < u64Ceiling) :
    (grid.collectRowDamage engine).bumpRevision fresh = settled engine grid := by
  have noWrap : (grid.stampCounter + 1) % u64Ceiling = grid.stampCounter + 1 :=
    Nat.mod_eq_of_lt (by omega)
  simp [TermGrid.bumpRevision, TermGrid.collectRowDamage, nextRevision, if_pos below, height,
    noWrap, settled]

variable (engine : Engine ε) (before : TermGrid ε) (reported : Prop) in
/-- What one mutation does to a grid, and what is known of the damage if it is reported. -/
inductive GridChange : TermGrid ε → Prop
  | kept : GridChange before
  | advanced (term : ε) (named : reported → ∀ row < before.rows, ∀ col < before.cols,
      engine.cell term row col ≠ engine.cell before.term row col →
        (engine.damage term).2.Names row) : GridChange (settled engine { before with term := term })
  | resized (term : ε) (cols rows : Nat) (positive : 0 < cols)
      (named : reported → (engine.damage term).2 = .full) : GridChange (settled engine { before with
        term := term
        cols := cols
        rows := rows
        rowStamps := List.replicate rows 0 })

/-- A clamped dimension is positive. -/
theorem clampDim_pos (requested : Nat) : 0 < clampDim requested := by
  unfold clampDim
  omega

/-- Every mutation below the ceiling is one of the three changes. -/
theorem mutate_change {mutation : Mutation} (inv : GridInv before)
    (step : BelowCeilingStep engine before mutation after) :
    GridChange engine before (before.Reported engine mutation) after := by
  obtain ⟨below, rfl⟩ := step
  cases mutation with
  | advance _ fresh =>
    simp only [TermGrid.mutate, TermGrid.advance]
    split
    · exact .kept
    next nonempty =>
      rw [collect_bump engine fresh]
      · exact .advanced _ fun reported => reported (by simpa using nonempty)
      · exact inv.height
      · exact inv.counted
      · exact below
  | resize cols _ fresh =>
    simp only [TermGrid.mutate, TermGrid.resize]
    split
    · exact .kept
    next differs =>
      rw [collect_bump engine fresh]
      · exact .resized _ _ _ (clampDim_pos cols) fun reported => reported differs
      · exact length_replicate
      · exact inv.counted
      · exact below

/-- Settling keeps every stamp at or behind the counter. -/
theorem settled_bounded (height : grid.rowStamps.length = grid.rows)
    (bounded : ∀ stamp ∈ grid.rowStamps, stamp ≤ grid.stampCounter) :
    ∀ stamp ∈ (settled engine grid).rowStamps, stamp ≤ (settled engine grid).stampCounter := by
  intro value member
  obtain ⟨row, inside, found⟩ := mem_iff_getElem.mp member
  have located : (settled engine grid).rowStamps[row]? = some value := by
    rw [getElem?_eq_getElem inside, found]
  have visible : row < grid.rows := by
    rw [← height, ← length_stampRows grid.rowStamps grid.rows (grid.stampCounter + 1)
      (engine.damage grid.term).2]
    exact inside
  rcases stampRows_some visible located with rfl | ⟨_, old⟩
  · exact Nat.le_refl _
  · exact Nat.le_succ_of_le (bounded value (mem_of_getElem? old))

/-- A settled grid satisfies the invariant. -/
theorem settled_inv (engine : Engine ε) (width : 0 < grid.cols) (height : grid.rowStamps.length = grid.rows)
    (bounded : ∀ stamp ∈ grid.rowStamps, stamp ≤ grid.stampCounter)
    (counted : grid.stampCounter = grid.revision) : GridInv (settled engine grid) where
  width := width
  height := (length_stampRows _ _ _ _).trans height
  bounded := settled_bounded height bounded
  counted := congrArg (· + 1) counted

/-- Every mutation below the ceiling keeps the invariant. -/
theorem gridInv_step {mutation : Mutation} (step : BelowCeilingStep engine before mutation after)
    (inv : GridInv before) : GridInv after := by
  cases mutate_change inv step with
  | kept => exact inv
  | advanced => exact settled_inv engine inv.width inv.height inv.bounded inv.counted
  | resized _ cols rows positive =>
    refine settled_inv engine positive length_replicate ?_ inv.counted
    intro stamp member
    rw [eq_of_mem_replicate member]
    exact Nat.zero_le _

/-- Every reported mutation below the ceiling stamps the rows it changes. -/
theorem stamped_step (faithful : engine.Faithful) {mutation : Mutation}
    (step : Reporting engine (BelowCeilingStep engine) before mutation after)
    (inv : GridInv before) : Stamped engine before after := by
  obtain ⟨step, reported⟩ := step
  cases mutate_change inv step with
  | kept => exact Stamped.refl before
  | advanced term named =>
    refine ⟨Nat.le_succ _, ?_⟩
    intro row value found
    have visible : row < before.rows := by
      rw [← inv.height, ← length_stampRows before.rowStamps before.rows (before.stampCounter + 1)
        (engine.damage term).2]
      exact (List.getElem?_eq_some_iff.mp found).1
    rcases stampRows_some visible found with rfl | ⟨unnamed, old⟩
    · exact .inl (Nat.lt_succ_self _)
    · refine .inr ⟨old, rfl, ?_⟩
      intro col inside
      have unchanged : engine.cell term row col = engine.cell before.term row col := by
        by_contra changed
        exact unnamed (named reported row visible col inside changed)
      calc engine.cell before.term row col
          = engine.cell term row col := unchanged.symm
        _ = engine.cell (engine.damage term).1 row col := (faithful.damage_cell term row col).symm
        _ = engine.cell (engine.resetDamage (engine.damage term).1) row col :=
            (faithful.reset_cell _ row col).symm
  | resized term cols rows _ named =>
    refine ⟨Nat.le_succ _, ?_⟩
    intro row value found
    simp only [settled, named reported, stampRows, getElem?_map, Option.map_eq_some_iff] at found
    obtain ⟨_, _, rfl⟩ := found
    exact .inl (Nat.lt_succ_self _)

/-- A new grid satisfies the invariant. -/
theorem gridInv_new (engine : Engine ε) (cols rows : Nat) (generation : SessionGeneration) :
    GridInv (TermGrid.newWithGeneration engine cols rows generation) where
  width := clampDim_pos cols
  height := length_replicate
  bounded := by
    intro stamp member
    rw [eq_of_mem_replicate member]
    exact Nat.zero_le _
  counted := rfl

/-- Stamps are sound across every reported run below the ceiling. -/
theorem stamped_run (faithful : engine.Faithful)
    (run : Run (Reporting engine (BelowCeilingStep engine)) first mutations last)
    (inv : GridInv first) : Stamped engine first last :=
  run.related inv (fun step => gridInv_step step.1) Stamped.refl Stamped.trans
    (stamped_step faithful)

/-- A stamp that two grids share vouches for its row. -/
theorem rowAgrees_of_stamp (faithful : engine.Faithful) {earlier later : TermGrid ε}
    (run : Run (Reporting engine (BelowCeilingStep engine)) earlier mutations later)
    (inv : GridInv earlier)
    {row stamp : Nat} (inEarlier : earlier.rowStamps[row]? = some stamp)
    (inLater : later.rowStamps[row]? = some stamp) : RowAgrees engine earlier later row := by
  have laterInv := run.invariant inv fun step => gridInv_step step.1
  have earlierVisible := (List.getElem?_eq_some_iff.mp inEarlier).1
  have laterVisible := (List.getElem?_eq_some_iff.mp inLater).1
  rw [inv.height] at earlierVisible
  rw [laterInv.height] at laterVisible
  have notNewer : stamp ≤ earlier.stampCounter :=
    inv.bounded stamp (mem_of_getElem? inEarlier)
  rcases (stamped_run faithful run inv).stamp inLater with newer | ⟨_, cols, same⟩
  · omega
  · exact rowAgrees_of_sameLine engine earlierVisible laterVisible cols inv.width same

/-- Links only add up from row to row. -/
theorem linksAbove_mono (engine : Engine ε) (grid : TermGrid ε) {first last : Nat}
    (ordered : first ≤ last) : linksAbove engine grid first ≤ linksAbove engine grid last := by
  unfold linksAbove
  obtain ⟨_, rfl⟩ := Nat.exists_eq_add_of_le ordered
  rw [range_add, map_append, sum_append]
  exact Nat.le_add_right _ _

/-- For every history of a grid in which no mutation starts at the last revision, and in which
the damage between two snapshots names what it changed, a stamp that they share at a row vouches
for the row: its cells up to links, its own copy metadata, and its links as far as the budget
reaches it in both. So do the rows that the diff skips; and where all links fit, the stamps are
sound for the diff. -/
theorem row_stamps_vouch (engine : Engine ε) (faithful : engine.Faithful) (cols rows : Nat)
    (generation : SessionGeneration) {earlier later : TermGrid ε} {before after : List Mutation}
    (toEarlier : Run (BelowCeilingStep engine)
      (TermGrid.newWithGeneration engine cols rows generation) before earlier)
    (toLater : Run (Reporting engine (BelowCeilingStep engine)) earlier after later) :
    (∀ row stamp : Nat, (earlier.snapshot engine).rowStamps[row]? = some stamp →
      (later.snapshot engine).rowStamps[row]? = some stamp → RowAgrees engine earlier later row)
    ∧ (∀ row : Nat, row < earlier.rows → row < later.rows →
      row ∉ comparedRows (earlier.snapshot engine).rowsCells (later.snapshot engine).rowsCells
        (candidateRows (earlier.snapshot engine) (later.snapshot engine)) →
      RowAgrees engine earlier later row)
    ∧ (linksAbove engine earlier earlier.rows ≤ maxTerminalLinkCellsPerFrame →
      linksAbove engine later later.rows ≤ maxTerminalLinkCellsPerFrame →
      StampsSound (earlier.snapshot engine) (later.snapshot engine)) := by
  have inv := toEarlier.invariant (gridInv_new engine cols rows generation) gridInv_step
  have laterInv := toLater.invariant inv fun step => gridInv_step step.1
  have vouched : ∀ row stamp : Nat, earlier.rowStamps[row]? = some stamp →
      later.rowStamps[row]? = some stamp → RowAgrees engine earlier later row :=
    fun row stamp => rowAgrees_of_stamp faithful toLater inv
  refine ⟨vouched, ?_, ?_⟩
  · intro row inEarlier inLater skipped
    obtain ⟨stamp, earlierStamp, laterStamp⟩ := skipped_stamp
      (by rw [snapshot_height]; exact inEarlier) (by rw [snapshot_height]; exact inLater) skipped
    exact vouched row stamp earlierStamp laterStamp
  · intro earlierFits laterFits row stamp earlierStamp laterStamp
    have earlierVisible := (List.getElem?_eq_some_iff.mp earlierStamp).1
    have laterVisible := (List.getElem?_eq_some_iff.mp laterStamp).1
    apply (vouched row stamp earlierStamp laterStamp).fitting
    · exact Nat.le_trans (linksAbove_mono engine earlier (inv.height ▸ earlierVisible)) earlierFits
    · exact Nat.le_trans (linksAbove_mono engine later (laterInv.height ▸ laterVisible)) laterFits

/-- Two lines are written, and then the first alone: the second keeps its stamp, and the
stamp vouches for it. -/
theorem row_stamps_vouch_second_line :
    ((((smallGrid 4 2).after (ascii "ab\r\ncd" ++ homeSequence)).snapshot smallEngine).rowStamps[1]?
        = some 1
      ∧ ((((smallGrid 4 2).after (ascii "ab\r\ncd" ++ homeSequence)).after
        (ascii "xy")).snapshot smallEngine).rowStamps = [2, 1])
    ∧ RowAgrees smallEngine ((smallGrid 4 2).after (ascii "ab\r\ncd" ++ homeSequence))
      (((smallGrid 4 2).after (ascii "ab\r\ncd" ++ homeSequence)).after (ascii "xy")) 1 :=
  ⟨by decide +kernel, (row_stamps_vouch smallEngine smallEngine_faithful 4 2 "g"
    (.single ⟨by decide, rfl⟩) (.single ⟨⟨by decide +kernel, rfl⟩, by decide +kernel⟩)).1 1 1
      (by decide +kernel) (by decide +kernel)⟩

/-- Two snapshots of one generation and size carry the same stamp at a row. -/
def SharesStamp (earlier later : StampedSnapshot) (row : Nat) : Prop :=
  earlier.generation = later.generation ∧ earlier.cols = later.cols ∧ earlier.rows = later.rows
    ∧ row < earlier.rowStamps.length ∧ earlier.rowStamps[row]? = later.rowStamps[row]?
  deriving Decidable

/-- A mutation of the small terminal whose damage names what it changed. -/
def SmallStep : TermGrid SmallTerm → Mutation → TermGrid SmallTerm → Prop :=
  Reporting smallEngine (GridStep smallEngine)

/-- Output that prints nothing. -/
def idle : Mutation := .advance [0] "h"

/-- A letter on the second line, with the cursor sent home. -/
def letterBelow (letter : String) : Mutation :=
  .advance (ascii "\r\n" ++ ascii letter ++ homeSequence) "h"

/-- The engine after the letter `b` was written on the second of two lines. -/
def letterTerm : SmallTerm := ((smallGrid 4 2).mutate smallEngine (letterBelow "b")).term

/-- The grid after the letter and some idle output: the first line is stamped anew each
time, because the cursor is on it, and the second never. -/
def idledGrid (count : Nat) : TermGrid SmallTerm where
  term := letterTerm
  cols := 4
  rows := 2
  generation := "g"
  revision := count + 1
  baseRevision := count
  rowStamps := [count + 1, 1]
  stampCounter := count + 1

/-- Idle output collected on a grid with the letter. -/
theorem idle_collect (grid : TermGrid SmallTerm) (term : grid.term = letterTerm)
    (cols : grid.cols = 4) (rows : grid.rows = 2) {first : Nat} (stamps : grid.rowStamps = [first,
      1]) :
    grid.mutate smallEngine idle = TermGrid.bumpRevision { grid with
      rowStamps := [(grid.stampCounter + 1) % u64Ceiling, 1]
      stampCounter := (grid.stampCounter + 1) % u64Ceiling } "h" := by
  have parsed : smallEngine.enforceHistoryBudget 4
      ((List.toChunks maxParserAdvanceBytes [0]).foldl (smallEngine.parseChunk 4 2) letterTerm)
        = letterTerm := by decide +kernel
  have reported : (smallEngine.damage letterTerm).2 = .lines [0] := by decide +kernel
  have reset : smallEngine.resetDamage (smallEngine.damage letterTerm).1 = letterTerm := by
    decide +kernel
  simp [idle, TermGrid.mutate, TermGrid.advance, TermGrid.collectRowDamage, term, cols, rows,
    stamps, parsed, reported, reset, stampRows]

/-- It changes nothing, and the report names the first line. -/
theorem idle_reported (grid : TermGrid SmallTerm) (term : grid.term = letterTerm)
    (cols : grid.cols = 4) (rows : grid.rows = 2) : grid.Reported smallEngine idle := by
  simp only [idle, TermGrid.Reported, TermGrid.mutated, term, cols, rows]
  decide +kernel

/-- One idle mutation below the ceiling. -/
theorem idle_step {count : Nat} (below : count + 1 + 1 < u64Ceiling) :
    (idledGrid count).mutate smallEngine idle = idledGrid (count + 1) := by
  rw [idle_collect (idledGrid count) rfl rfl rfl rfl]
  have noWrap : (count + 1 + 1) % u64Ceiling = count + 1 + 1 := Nat.mod_eq_of_lt below
  have next : nextRevision (count + 1) = some (count + 1 + 1) := if_pos below
  simp [TermGrid.bumpRevision, idledGrid, next, noWrap]

/-- Any number of idle mutations below the ceiling. -/
theorem idle_run (extra count : Nat) (below : count + extra + 1 < u64Ceiling) :
    Run SmallStep (idledGrid count) (List.replicate extra idle)
      (idledGrid (count + extra)) := by
  induction extra generalizing count with
  | zero => exact .nil _
  | succ fewer ih =>
    have later := ih (count + 1) (by omega)
    rw [show count + 1 + fewer = count + (fewer + 1) by omega] at later
    exact .cons ⟨(idle_step (by omega)).symm, idle_reported _ rfl rfl rfl⟩ later

/-- The grid when the revision has run out: a new generation, with the counter at zero and
the stamp of the second line left over. -/
def rolledGrid : TermGrid SmallTerm :=
  { idledGrid 0 with
    generation := "h", revision := 0, baseRevision := 0, rowStamps := [0, 1], stampCounter := 0 }

/-- The idle mutation that starts at the last revision. -/
theorem idle_rolls : (idledGrid (u64Ceiling - 2)).mutate smallEngine idle = rolledGrid := by
  rfl

/-- Three ways in which a shared stamp does not vouch for all of a row. The rows above use
up the links; the row above is no longer continued; and after `2 ^ 64` mutations the counter
gives out a stamp again that an old row still carries. -/
theorem shared_stamp_differs :
    smallEngine.Faithful
    ∧ (∃ earlier later : TermGrid SmallTerm,
        Run SmallStep (smallGrid 16 17)
          [.advance (List.replicate 16 0x0a ++ linked (ascii "b") ++ homeSequence) "h"] earlier
        ∧ Run SmallStep earlier
          [.advance (linked (List.replicate 256 0x61)) "h"] later
        ∧ SharesStamp (earlier.snapshot smallEngine) (later.snapshot smallEngine) 16
        ∧ (earlier.snapshot smallEngine).rowsCells[16]?
          ≠ (later.snapshot smallEngine).rowsCells[16]?)
    ∧ (∃ earlier later : TermGrid SmallTerm,
        Run SmallStep (smallGrid 2 2)
          [.advance (ascii "abc" ++ homeSequence) "h"] earlier
        ∧ Run SmallStep earlier [.advance (ascii "xy") "h"] later
        ∧ SharesStamp (earlier.snapshot smallEngine) (later.snapshot smallEngine) 1
        ∧ rowCopyAt (earlier.snapshot smallEngine).toGridSnapshot 1
          ≠ rowCopyAt (later.snapshot smallEngine).toGridSnapshot 1)
    ∧ (∃ earlier later : TermGrid SmallTerm,
        Run SmallStep (smallGrid 4 2)
          ([letterBelow "b"] ++ List.replicate (u64Ceiling - 1) idle) earlier
        ∧ Run SmallStep earlier [letterBelow "c"] later
        ∧ SharesStamp (earlier.snapshot smallEngine) (later.snapshot smallEngine) 1
        ∧ (earlier.snapshot smallEngine).rowsCells[1]?.map (List.map withoutLink)
          ≠ (later.snapshot smallEngine).rowsCells[1]?.map (List.map withoutLink)) := by
  refine ⟨smallEngine_faithful,
    ⟨_, _, .single ⟨rfl, by decide +kernel⟩, .single ⟨rfl, by decide +kernel⟩, ?_⟩,
    ⟨_, _, .single ⟨rfl, by decide +kernel⟩, .single ⟨rfl, by decide +kernel⟩, ?_⟩,
    ⟨rolledGrid, _, ?_, .single ⟨rfl, by decide +kernel⟩, ?_⟩⟩
  · decide +kernel
  · decide +kernel
  · have written : (smallGrid 4 2).mutate smallEngine (letterBelow "b") = idledGrid 0 := by
      decide +kernel
    have almost : Run SmallStep (idledGrid 0) (List.replicate (u64Ceiling - 2) idle)
        (idledGrid (u64Ceiling - 2)) := by
      have run := idle_run (u64Ceiling - 2) 0 (by decide)
      rwa [Nat.zero_add] at run
    have last : Run SmallStep (idledGrid (u64Ceiling - 2)) [idle] rolledGrid :=
      .single ⟨idle_rolls.symm, idle_reported _ rfl rfl rfl⟩
    have idles : List.replicate (u64Ceiling - 1) idle
        = List.replicate (u64Ceiling - 2) idle ++ [idle] :=
      replicate_succ'
    rw [idles]
    exact (Run.single ⟨written.symm, by decide +kernel⟩).append (almost.append last)
  · decide +kernel

end HydraTerm.Grid
