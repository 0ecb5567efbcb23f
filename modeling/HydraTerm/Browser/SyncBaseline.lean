import HydraTerm.Browser.SyncChecks

/-!
# The baseline behind both clients

Both clients are fed the same events, each with its own synchronization state and its own held
grid. What the two states have in common is a baseline: the session, the phase, the accepted
generation and revision, and the retired generations. Past the structural checks, both handlers
are functions of that baseline, and it is those functions that the two implementations share.

A client answers an admitted grid by its baseline alone. A valid frame first meets the continuity
checks, which are a function of the baseline and of the held dimensions, and then its operations.
-/

namespace HydraTerm.Browser

open Grid Lib
open Renderer (SyncPhase)

/-- What reaches both clients. -/
inductive SyncEvent where
  | grid (id : SessionId) (snap : GridSnapshot)
  | damage (frame : DamageFrame)
  | resyncRequired (id : SessionId)
  | sessionExited (id : SessionId)

/-- What a client does with an event. -/
inductive Decision where
  | repaint | duplicate | applied | ignored | resync | noted | rejected
  deriving DecidableEq

/-- The decision lets the event's grid stand. -/
def Decision.Takes : Decision → Bool
  | .repaint | .duplicate | .applied => true
  | _ => false

/-- The renderer's state and the grid it paints. Before the first baseline the handlers refuse
every frame without a look at the held grid, so any grid stands there. -/
structure NativeClient where
  sync : Renderer.SyncState
  held : GridSnapshot

/-- The browser's state and the grid it paints. -/
structure BrowserClient where
  sync : SyncState
  held : GridSnapshot

/-- The renderer's treatment of one event. -/
def NativeClient.handle (client : NativeClient) : SyncEvent → NativeClient × Decision
  | .grid id snap =>
    match client.sync.onGrid id snap with
    | (sync, .ok outcome) =>
      if outcome.repaint then (⟨sync, snap⟩, .repaint) else (⟨sync, client.held⟩, .duplicate)
    | (sync, .error _) => (⟨sync, client.held⟩, .rejected)
  | .damage frame =>
    match client.sync.onDamage frame.id frame client.held with
    | (sync, .applied grid) => (⟨sync, grid⟩, .applied)
    | (sync, .ignore) => (⟨sync, client.held⟩, .ignored)
    | (sync, .resync _) => (⟨sync, client.held⟩, .resync)
  | .resyncRequired id =>
    match client.sync.onResyncRequired id with
    | (sync, .ok _) => (⟨sync, client.held⟩, .noted)
    | (sync, .error _) => (⟨sync, client.held⟩, .rejected)
  | .sessionExited id =>
    match client.sync.onSessionExited id with
    | (sync, .ok _) => (⟨sync, client.held⟩, .noted)
    | (sync, .error _) => (⟨sync, client.held⟩, .rejected)

/-- The browser's treatment of one event, which it parses first. -/
def BrowserClient.handle (client : BrowserClient) : SyncEvent → BrowserClient × Decision
  | .grid id snap =>
    match client.sync.onGrid id (parsedSnapshot snap) with
    | (sync, .ok outcome) =>
      if outcome.repaint then (⟨sync, parsedSnapshot snap⟩, .repaint)
      else (⟨sync, client.held⟩, .duplicate)
    | (sync, .error _) => (⟨sync, client.held⟩, .rejected)
  | .damage frame =>
    match client.sync.onDamage frame.id (parsedFrame frame) client.held with
    | (sync, .applied grid) => (⟨sync, grid⟩, .applied)
    | (sync, .ignore) => (⟨sync, client.held⟩, .ignored)
    | (sync, .resync _) => (⟨sync, client.held⟩, .resync)
  | .resyncRequired id =>
    match client.sync.onResyncRequired id with
    | (sync, .ok _) => (⟨sync, client.held⟩, .noted)
    | (sync, .error _) => (⟨sync, client.held⟩, .rejected)
  | .sessionExited id =>
    match client.sync.onSessionExited id with
    | (sync, .ok _) => (⟨sync, client.held⟩, .noted)
    | (sync, .error _) => (⟨sync, client.held⟩, .rejected)

/-! ## The common baseline -/

/-- What the two states have in common. -/
@[ext] structure Baseline where
  sessionId : SessionId
  phase : SyncPhase
  current : Option (SessionGeneration × Nat)
  retired : Finset SessionGeneration

/-- The baseline of the renderer's state. -/
def nativeBaseline (state : Renderer.SyncState) : Baseline where
  sessionId := state.sessionId
  phase := state.phase
  current := state.current
  retired := state.retired

/-- The baseline of the browser's state. -/
def browserBaseline (state : SyncState) : Baseline where
  sessionId := state.sessionId
  phase := state.phase
  current := state.accepted
  retired := state.retired

/-- Accept a generation and revision; a different accepted generation is retired. -/
def Baseline.adopt (baseline : Baseline) (gen : SessionGeneration) (rev : Nat) : Baseline :=
  { baseline with
    phase := .synchronized
    current := some (gen, rev)
    retired :=
      match baseline.current with
      | none => baseline.retired
      | some (curGen, _) =>
        if curGen = gen then baseline.retired else insert curGen baseline.retired }

/-- An admitted grid against the baseline. -/
def Baseline.onGrid (baseline : Baseline) (gen : SessionGeneration) (rev : Nat) :
    Baseline × Decision :=
  match baseline.current with
  | none => (baseline.adopt gen rev, .repaint)
  | some (curGen, curRev) =>
    if curGen = gen then
      if rev < curRev then (baseline, .rejected)
      else if rev = curRev then (baseline, .duplicate)
      else (baseline.adopt gen rev, .repaint)
    else (baseline.adopt gen rev, .repaint)

/-- The continuity checks of a valid frame: its fate, or `none` where its operations are to be
applied. -/
def Baseline.judgeFrame (baseline : Baseline) (frame : DamageFrame) (held : GridSnapshot) :
    Option Decision :=
  if frame.id ≠ baseline.sessionId then some .ignored
  else if baseline.phase = .exited then some .resync
  else if frame.generation ∈ baseline.retired then some .ignored
  else
    match baseline.current with
    | none => some .resync
    | some (curGen, curRev) =>
      if frame.generation ≠ curGen then some .resync
      else if frame.revision ≤ curRev then some .ignored
      else if frame.baseRevision ≠ curRev then some .resync
      else if frame.cols ≠ held.cols ∨ frame.rows ≠ held.rows then some .resync
      else none

/-! ## Grids -/

/-- The renderer keeps its baseline when it settles a pending request. -/
theorem nativeBaseline_settle (state : Renderer.SyncState) (gen : SessionGeneration) (rev : Nat) :
    nativeBaseline (state.settlePendingAfterGrid gen rev).1 = nativeBaseline state := by
  obtain ⟨sessionId, phase, current, retired⟩ := Renderer.settle_frame state gen rev
  simp [nativeBaseline, sessionId, phase, current, retired]

variable {id : SessionId} {snap held grid : GridSnapshot} {state : SyncState} {frame : DamageFrame}
  {client : BrowserClient} {baseline : Baseline}

/-- A grid that the renderer does not admit changes nothing. -/
theorem native_grid_refused {client : NativeClient}
    (refused : client.sync.admitGrid id snap ≠ .ok ()) :
    client.handle (.grid id snap) = (client, .rejected) := by
  cases verdict : client.sync.admitGrid id snap with
  | error => simp [NativeClient.handle, Renderer.SyncState.onGrid, verdict]
  | ok => exact absurd verdict refused

theorem browser_grid_refused (refused : client.sync.admitGrid id (parsedSnapshot snap) ≠ .ok ()) :
    client.handle (.grid id snap) = (client, .rejected) := by
  cases verdict : client.sync.admitGrid id (parsedSnapshot snap) with
  | error => simp [BrowserClient.handle, SyncState.onGrid, verdict]
  | ok => exact absurd verdict refused

/-- How a client answers an admitted grid: as its baseline says, with the grid held after a
repaint. -/
structure AnswersGrid (baselineBefore baselineAfter : Baseline) (heldBefore heldAfter : GridSnapshot)
    (decision : Decision) (snap : GridSnapshot) : Prop where
  baseline : (baselineAfter, decision) = baselineBefore.onGrid snap.generation snap.revision
  held : heldAfter = if decision = .repaint then snap else heldBefore

/-- What adopting a grid does to the renderer's baseline, apart from retiring a generation. -/
theorem nativeBaseline_adoptGrid (state : Renderer.SyncState) (snap : GridSnapshot) :
    nativeBaseline (state.adoptGrid snap).1 =
      { nativeBaseline state with
        phase := .synchronized, current := some (snap.generation, snap.revision) } := by
  rw [Renderer.SyncState.adoptGrid, nativeBaseline_settle]
  rfl

/-- The renderer answers an admitted grid by its baseline. -/
theorem native_grid_admitted {client : NativeClient}
    (admitted : client.sync.admitGrid id snap = .ok ()) :
    AnswersGrid (nativeBaseline client.sync)
      (nativeBaseline (client.handle (.grid id snap)).1.sync) client.held
      (client.handle (.grid id snap)).1.held (client.handle (.grid id snap)).2 snap := by
  have known : (nativeBaseline client.sync).current = client.sync.current := rfl
  cases current : client.sync.current with
  | none =>
    rw [current] at known
    simp only [NativeClient.handle, Renderer.SyncState.onGrid, admitted, current]
    refine ⟨?_, rfl⟩
    simp only [Baseline.onGrid, known, Baseline.adopt]
    exact congrArg (·, Decision.repaint) (nativeBaseline_adoptGrid client.sync snap)
  | some =>
    rw [current] at known
    simp only [NativeClient.handle, Renderer.SyncState.onGrid, admitted, current]
    split_ifs with same stale equal <;> refine ⟨?_, rfl⟩
    · simp [Baseline.onGrid, known, if_pos same, if_pos stale]
    · simp only [Baseline.onGrid, known, if_pos same, if_neg stale, if_pos equal]
      exact congrArg (·, Decision.duplicate)
        (nativeBaseline_settle client.sync snap.generation snap.revision)
    · simp only [Baseline.onGrid, known, if_pos same, if_neg stale, if_neg equal, Baseline.adopt]
      exact congrArg (·, Decision.repaint) (nativeBaseline_adoptGrid client.sync snap)
    · simp only [Baseline.onGrid, known, if_neg same, Baseline.adopt]
      exact congrArg (·, Decision.repaint) (nativeBaseline_adoptGrid _ snap)

/-- The browser answers an admitted grid by its baseline. -/
theorem browser_grid_admitted (admitted : client.sync.admitGrid id (parsedSnapshot snap) = .ok ()) :
    AnswersGrid (browserBaseline client.sync)
      (browserBaseline (client.handle (.grid id snap)).1.sync) client.held
      (client.handle (.grid id snap)).1.held (client.handle (.grid id snap)).2
      (parsedSnapshot snap) := by
  have known : (browserBaseline client.sync).current = client.sync.accepted := rfl
  cases current : client.sync.curGen with
  | none =>
    rw [SyncState.accepted, current] at known
    simp only [BrowserClient.handle, SyncState.onGrid, admitted, current]
    refine ⟨?_, rfl⟩
    simp only [Baseline.onGrid, known, Option.map_none, Baseline.adopt]
    rfl
  | some =>
    rw [SyncState.accepted, current] at known
    simp only [BrowserClient.handle, SyncState.onGrid, admitted, current]
    split_ifs with same stale equal <;> refine ⟨?_, rfl⟩
    · simp [Baseline.onGrid, known, if_pos same, if_pos stale]
    · simp only [Baseline.onGrid, known, Option.map_some, if_pos same, if_neg stale, if_pos equal]
      rfl
    · simp only [Baseline.onGrid, known, Option.map_some, if_pos same, if_neg stale, if_neg equal,
        Baseline.adopt]
      rfl
    · simp only [Baseline.onGrid, known, Option.map_some, if_neg same, Baseline.adopt]
      rfl

/-- The browser's admission check as the conjunction of what it tests. -/
theorem browser_admitGrid_ok_iff :
    state.admitGrid id (parsedSnapshot snap) = .ok () ↔
      id = state.sessionId ∧ state.phase ≠ .exited ∧ snap.version = 2 ∧ WellShaped snap
        ∧ wideLayoutFault 0 snap.rowsCells = none
        ∧ rowCopyCellsValid snap.rowsCells snap.rowCopy = true
        ∧ snap.generation ∉ state.retired := by
  have shaped : validateDimensions (parsedSnapshot snap) = none ↔ WellShaped snap :=
    validateDimensions_none_iff.trans wellShaped_parsed_iff
  have cells : (parsedSnapshot snap).rowsCells = snap.rowsCells := rfl
  rw [← shaped]
  simp only [SyncState.admitGrid, check_ok_iff, not_not, ne_eq, cells]
  refine and_congr_right fun _ => and_congr_right fun _ => and_congr_right fun _ => ?_
  cases dimensions : validateDimensions (parsedSnapshot snap) with
  | some => simp [reduceCtorEq, false_and]
  | none =>
    cases layout : wideLayoutFault 0 snap.rowsCells with
    | some => simp [reduceCtorEq, false_and, and_false]
    | none => simp only [check_ok_iff, not_not, and_true, true_and]; rfl

/-- The two admission checks, from one baseline: the renderer's is the browser's with the
hyperlink budget. -/
theorem admitGrid_ok_iff {native : Renderer.SyncState} {browser : SyncState}
    (same : nativeBaseline native = browserBaseline browser) :
    native.admitGrid id snap = .ok () ↔
      browser.admitGrid id (parsedSnapshot snap) = .ok ()
        ∧ terminalLinkCellsWithinCap snap.rowsCells = true := by
  have session : native.sessionId = browser.sessionId := congrArg Baseline.sessionId same
  have phase : native.phase = browser.phase := congrArg Baseline.phase same
  have retired : native.retired = browser.retired := congrArg Baseline.retired same
  have copyCells : WellShaped snap → rowCopyCellsValid snap.rowsCells snap.rowCopy =
      Renderer.rowCopyCellsValid snap.rowsCells snap.rowCopy := fun shaped =>
    rowCopyCellsValid_eq shaped.width (le_trans shaped.cols_le (by decide))
  rw [browser_admitGrid_ok_iff, ← session, ← phase, ← retired]
  simp only [Renderer.SyncState.admitGrid, check_ok_iff, bind_ok_iff, not_not, and_true, ne_eq]
  constructor
  · rintro ⟨isSession, live, version, _, dimensions, _, layout, copy, fresh⟩
    obtain ⟨shaped, within⟩ := renderer_validateDimensions_ok_iff.mp dimensions
    exact ⟨⟨isSession, live, version, shaped, wideLayoutFault_none_iff.mpr layout,
      (copyCells shaped).trans copy, fresh⟩, within⟩
  · rintro ⟨⟨isSession, live, version, shaped, layout, copy, fresh⟩, within⟩
    exact ⟨isSession, live, version, (), renderer_validateDimensions_ok_iff.mpr ⟨shaped, within⟩,
      (), wideLayoutFault_none_iff.mp layout, (copyCells shaped).symm.trans copy, fresh⟩

/-! ## Damage -/

/-- The decision in the renderer's outcome. -/
def nativeFate : Renderer.DamageOutcome → Decision
  | .applied _ => .applied
  | .ignore => .ignored
  | .resync _ => .resync

/-- The decision in the browser's outcome. -/
def browserFate : DamageOutcome → Decision
  | .applied _ => .applied
  | .ignore => .ignored
  | .resync _ => .resync

/-- The operations of a frame are reached only from the revision that it builds on. -/
theorem current_of_judgeFrame (reached : baseline.judgeFrame frame held = none) :
    baseline.current = some (frame.generation, frame.baseRevision) := by
  unfold Baseline.judgeFrame at reached
  cases current : baseline.current with
  | none =>
    rw [current] at reached
    split_ifs at reached
  | some =>
    rw [current] at reached
    dsimp only at reached
    split_ifs at reached with session live notRetired generation newer base
    rw [not_not.mp generation, not_not.mp base]

/-- The continuity checks take no frame. -/
theorem takes_of_judgeFrame {fate : Decision}
    (decided : baseline.judgeFrame frame held = some fate) : fate.Takes = false := by
  unfold Baseline.judgeFrame at decided
  cases current : baseline.current with
  | none | some =>
    rw [current] at decided
    dsimp only at decided
    split_ifs at decided <;> cases decided <;> rfl

/-- The renderer's decision on a valid frame is that of the continuity checks; where they find
nothing, the frame is judged by its operations. -/
theorem native_judge {state : Renderer.SyncState} (valid : Renderer.validate frame = .ok ()) :
    (∀ fate, (nativeBaseline state).judgeFrame frame held = some fate →
        nativeFate (state.judgeDamage frame.id frame held) = fate) ∧
      ((nativeBaseline state).judgeFrame frame held = none →
        state.judgeDamage frame.id frame held = Renderer.applyFrame held frame) := by
  simp only [Baseline.judgeFrame, Renderer.SyncState.judgeDamage, nativeBaseline, valid]
  cases state.current with
  | none | some => grind [nativeFate]

/-- So is the browser's. -/
theorem browser_judge (valid : validateDamage frame = none) :
    (∀ fate, (browserBaseline state).judgeFrame frame held = some fate →
        browserFate (state.judgeDamage frame.id frame held) = fate) ∧
      ((browserBaseline state).judgeFrame frame held = none →
        state.judgeDamage frame.id frame held = applyFrame held frame) := by
  simp only [Baseline.judgeFrame, SyncState.judgeDamage, browserBaseline, SyncState.accepted, valid]
  cases state.curGen with
  | none | some => grind [browserFate]

/-- What an applied frame of the browser consists of. -/
theorem applyFrame_applied_iff :
    applyFrame held frame = .applied grid ↔
      ∃ rowsCells, applyOps held.rowsCells frame.ops = .ok rowsCells
        ∧ wideLayoutFault 0 rowsCells = none
        ∧ rowCopyCellsValid rowsCells frame.rowCopy = true
        ∧ grid = carryFrame held frame rowsCells := by
  unfold applyFrame
  constructor
  · intro applied
    split at applied
    · contradiction
    next rowsCells computed =>
    split at applied
    · contradiction
    next layout =>
    split at applied
    · contradiction
    next copy =>
    exact ⟨rowsCells, computed, layout, not_not.mp copy, (DamageOutcome.applied.inj applied).symm⟩
  · rintro ⟨rowsCells, computed, layout, copy, rfl⟩
    simp [computed, layout, copy]

/-- From a well-shaped grid the renderer applies a frame exactly when the browser does and the
result is within the hyperlink budget. -/
theorem renderer_applyFrame_applied_iff (shaped : WellShaped held) :
    Renderer.applyFrame held frame = .applied grid ↔
      applyFrame held frame = .applied grid ∧ terminalLinkCellsWithinCap grid.rowsCells = true := by
  have copyCells : ∀ {rowsCells}, applyOps held.rowsCells frame.ops = .ok rowsCells →
      rowCopyCellsValid rowsCells frame.rowCopy =
        Renderer.rowCopyCellsValid rowsCells frame.rowCopy := by
    intro rowsCells computed
    exact rowCopyCellsValid_eq (sameShape_applyOps computed shaped.width).2
      (le_trans shaped.cols_le (by decide))
  constructor
  · intro applied
    obtain ⟨rowsCells, computed, rfl, layout, copy⟩ := Renderer.applyFrame_applied applied
    obtain ⟨computed, within⟩ := renderer_applyOps_ok_iff.mp computed
    exact ⟨applyFrame_applied_iff.mpr ⟨rowsCells, computed, wideLayoutFault_none_iff.mpr layout,
      (copyCells computed).trans copy, rfl⟩, within⟩
  · rintro ⟨applied, within⟩
    obtain ⟨rowsCells, computed, layout, copy, rfl⟩ := applyFrame_applied_iff.mp applied
    have rendered : Renderer.applyOps held.rowsCells frame.ops = .ok rowsCells :=
      renderer_applyOps_ok_iff.mpr ⟨computed, within⟩
    have layoutPassed : Renderer.validateWideLayout
        (Renderer.withFrame held frame rowsCells) = .ok () := wideLayoutFault_none_iff.mp layout
    have copyPassed : Renderer.rowCopyCellsValid
        (Renderer.withFrame held frame rowsCells).rowsCells
        (Renderer.withFrame held frame rowsCells).rowCopy = true :=
      (copyCells computed).symm.trans copy
    simp only [Renderer.applyFrame, rendered, layoutPassed, copyPassed, not_true_eq_false, if_false]
    rfl

/-- The fields of the held grid that rounding can change are overwritten by a frame, so it makes
no difference whether the frame is applied to the sent or to the parsed grid. -/
theorem applyFrame_parsed (shaped : WellShaped held) :
    applyFrame (parsedSnapshot held) frame = applyFrame held frame := by
  simp [applyFrame, parsedSnapshot, carryFrame, jsNumber_small shaped.cols_le,
    jsNumber_small shaped.rows_le]

/-- An applied frame leaves a well-shaped grid well shaped. -/
theorem wellShaped_applied (shaped : WellShaped held)
    (applied : applyFrame held frame = .applied grid) : WellShaped grid := by
  obtain ⟨_, computed, _, _, rfl⟩ := applyFrame_applied_iff.mp applied
  obtain ⟨height, width⟩ := sameShape_applyOps computed shaped.width
  exact ⟨⟨height.trans shaped.height, width⟩, shaped.cols_pos, shaped.rows_pos, shaped.cols_le,
    shaped.rows_le⟩

/-- Neither client ignores a frame whose operations it reaches. -/
theorem nativeFate_applyFrame (held : GridSnapshot) (frame : DamageFrame) :
    nativeFate (Renderer.applyFrame held frame) = .resync
      ∨ ∃ grid, Renderer.applyFrame held frame = .applied grid := by
  unfold Renderer.applyFrame
  split
  · exact .inl rfl
  · dsimp only
    split
    · exact .inl rfl
    · split
      · exact .inl rfl
      · exact .inr ⟨_, rfl⟩

theorem browserFate_applyFrame (held : GridSnapshot) (frame : DamageFrame) :
    browserFate (applyFrame held frame) = .resync
      ∨ ∃ grid, applyFrame held frame = .applied grid := by
  unfold applyFrame
  split
  · exact .inl rfl
  · split
    · exact .inl rfl
    · split
      · exact .inl rfl
      · exact .inr ⟨_, rfl⟩

end HydraTerm.Browser
