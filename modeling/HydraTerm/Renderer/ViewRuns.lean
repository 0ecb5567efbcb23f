import HydraTerm.Renderer.View

/-!
# Runs of a renderer view

Every event leaves the baseline and the painted grid alone, adopts a full grid, or
applies a damage frame. From this one case analysis follow the invariant that ties the
painted grid to the current pair and keeps the current generation out of the retired
set, and the order on views that runs respect: a current generation is either still
current at a later revision or retired for good.
-/

namespace HydraTerm.Renderer

open Grid Lib

/-- The parts of a view that decide which grids it can accept next. -/
structure SameBaseline (before after : View) : Prop where
  sessionId : after.sync.sessionId = before.sync.sessionId
  current : after.sync.current = before.sync.current
  retired : after.sync.retired = before.sync.retired
  held : after.held = before.held

/-- The phase an event may set without touching the baseline. -/
def PhaseMoves (before after : View) : Prop :=
  after.sync.phase = before.sync.phase
    ∨ (before.sync.phase ≠ .exited
      ∧ (after.sync.phase = .awaitingResync ∨ after.sync.phase = .exited))

/-- Everything one event can do to a view. -/
inductive ViewChange (before : View) (event : Event) (after : View) : Prop
  | kept (same : SameBaseline before after) (phase : PhaseMoves before after)
  | adopted (snap : GridSnapshot)
      (arrived : ∃ id request, event = .grid id snap request)
      (admitted : before.sync.admitGrid before.sync.sessionId snap = .ok ())
      (newer : ∀ gen rev, before.sync.current = some (gen, rev) → gen = snap.generation →
        rev < snap.revision)
      (sessionId : after.sync.sessionId = before.sync.sessionId)
      (phase : after.sync.phase = .synchronized)
      (current : after.sync.current = some (snap.generation, snap.revision))
      (retired : after.sync.retired = retiredBy before.sync snap.generation)
      (held : after.held = some snap)
  | applied (frame : DamageFrame) (base grid : GridSnapshot)
      (arrived : ∃ request, event = .damage frame request)
      (holding : before.held = some base)
      (applicable : Applicable before.sync frame.id frame base grid)
      (sessionId : after.sync.sessionId = before.sync.sessionId)
      (phase : after.sync.phase = .synchronized)
      (current : after.sync.current = some (frame.generation, frame.revision))
      (retired : after.sync.retired = before.sync.retired)
      (held : after.held = some grid)

/-- Asking for a recovery snapshot leaves the baseline alone and, when the request is
admitted, moves a live state to await the resync. -/
theorem requestLocalRecovery_eq (sync : SyncState) (id : SessionId) (admitted : Bool) :
    requestLocalRecovery sync id admitted = sync
      ∨ sync.phase ≠ .exited ∧ requestLocalRecovery sync id admitted
        = { sync with phase := .awaitingResync, requestInFlight := true } := by
  unfold requestLocalRecovery
  split
  · next allowed =>
    simp only [SyncState.canRequestLocalResync, Bool.and_eq_true, beq_iff_eq, bne_iff_ne,
      Bool.not_eq_true'] at allowed
    obtain ⟨⟨⟨session, live⟩, idle⟩, _⟩ := allowed
    refine .inr ⟨live, ?_⟩
    simp [SyncState.localResyncRequestAdmitted, session, live, idle]
  · exact .inl rfl

/-- An admitted grid names the bound session and finds a live state. -/
theorem admitGrid_ok {state : SyncState} {id : SessionId} {snap : GridSnapshot}
    (admitted : state.admitGrid id snap = .ok ()) :
    id = state.sessionId ∧ state.phase ≠ .exited ∧ snap.generation ∉ state.retired
      ∧ snap.version = supportedVersion
      ∧ validateDimensions snap = .ok () ∧ validateWideLayout snap = .ok ()
      ∧ rowCopyCellsValid snap.rowsCells snap.rowCopy = true := by
  simp only [SyncState.admitGrid, check_ok_iff, bind_ok_iff, not_not, and_true, ne_eq] at admitted
  obtain ⟨session, live, version, _, dimensions, _, layout, copy, notRetired⟩ := admitted
  exact ⟨session, live, notRetired, version, dimensions, layout, copy⟩

/-- Fetching trailing output changes only the request flag. -/
theorem requestSnapshotAfterGrid_eq (sync : SyncState) (request admitted : Bool) :
    ∃ inFlight, (if request then requestSnapshotAfterGrid sync admitted else sync)
      = { sync with requestInFlight := inFlight } := by
  cases request <;> cases admitted <;> exact ⟨_, rfl⟩

variable {event : Event} {view : View}

/-- Nothing changes. -/
theorem ViewChange.unchanged : ViewChange view event view :=
  .kept ⟨rfl, rfl, rfl, rfl⟩ (.inl rfl)

/-- The grid event through its answer. -/
theorem onGrid_change (view : View) (id : SessionId) (snap : GridSnapshot) (admitted : Bool) :
    ViewChange view (.grid id snap admitted) (view.onGrid id snap admitted) := by
  unfold View.onGrid
  generalize answered : view.sync.onGrid id snap = answer
  have kind : GridAnswer view.sync id snap answer := answered ▸ onGrid_answer view.sync id snap
  cases kind with
  | refused => exact .unchanged
  | duplicate after request _ _ sessionId phase current retired =>
    obtain ⟨_, same⟩ := requestSnapshotAfterGrid_eq after request admitted
    dsimp only
    rw [same]
    exact .kept ⟨sessionId, current, retired, rfl⟩ (.inl phase)
  | adopted after request accepted newer sessionId phase current retired =>
    obtain ⟨_, same⟩ := requestSnapshotAfterGrid_eq after request admitted
    obtain ⟨session, _⟩ := admitGrid_ok accepted
    dsimp only
    rw [same]
    exact .adopted snap ⟨id, admitted, rfl⟩ (session ▸ accepted) newer sessionId phase current
      retired rfl

/-- Asking for a recovery snapshot. -/
theorem requestLocalRecovery_change (view : View) (event : Event) (id : SessionId) (admitted : Bool)
    : ViewChange view event { view with sync := requestLocalRecovery view.sync id admitted } := by
  rcases requestLocalRecovery_eq view.sync id admitted with same | ⟨live, same⟩ <;> rw [same]
  · exact .unchanged
  · exact .kept ⟨rfl, rfl, rfl, rfl⟩ (.inr ⟨live, .inl rfl⟩)

/-- The damage event through its answer. -/
theorem onDamage_change (view : View) (frame : DamageFrame) (admitted : Bool) :
    ViewChange view (.damage frame admitted) (view.onDamage frame admitted) := by
  unfold View.onDamage
  split
  · exact .unchanged
  · split
    · exact requestLocalRecovery_change ..
    · next base holding =>
      generalize answered : view.sync.onDamage frame.id frame base = answer
      have kind : DamageAnswer view.sync frame.id frame base answer :=
        answered ▸ onDamage_answer view.sync frame.id frame base
      cases kind with
      | ignored => exact .unchanged
      | refused => exact requestLocalRecovery_change ..
      | applied _ grid applicable sessionId phase current retired =>
        exact .applied frame base grid ⟨admitted, rfl⟩ holding applicable sessionId phase current
          retired rfl

/-- Every event changes a view in one of the three ways. -/
theorem handle_change (view : View) (event : Event) :
    ViewChange view event (view.handle event) := by
  cases event with
  | grid id snap admitted => exact onGrid_change view id snap admitted
  | damage frame admitted => exact onDamage_change view frame admitted
  | resyncRequired =>
    simp only [View.handle, SyncState.onResyncRequired]
    split
    · exact .unchanged
    · split
      · exact .unchanged
      · next live => exact .kept ⟨rfl, rfl, rfl, rfl⟩ (.inr ⟨live, .inl rfl⟩)
  | sessionExited =>
    simp only [View.handle, SyncState.onSessionExited]
    split
    · exact .unchanged
    · split
      · exact .unchanged
      · next live => exact .kept ⟨rfl, rfl, rfl, rfl⟩ (.inr ⟨live, .inr rfl⟩)
  | undecodable => exact requestLocalRecovery_change ..

/-- What holds of every view a binding can reach. -/
structure ViewInv (view : View) : Prop where
  notRetired : ∀ gen rev, view.sync.current = some (gen, rev) → gen ∉ view.sync.retired
  painted : view.sync.current = view.held.map (fun grid => (grid.generation, grid.revision))
  baseline : view.sync.phase = .awaitingBaseline → view.sync.current = none

theorem viewInv_new (sessionId : SessionId) : ViewInv (View.new sessionId) where
  notRetired := by
    intro gen rev impossible
    cases impossible
  painted := rfl
  baseline := fun _ => rfl

/-- An applied frame produces the held grid at the frame's revision. -/
theorem applyFrame_applied {held grid : GridSnapshot} {frame : DamageFrame}
    (applied : applyFrame held frame = .applied grid) :
    ∃ rowsCells, applyOps held.rowsCells frame.ops = .ok rowsCells
      ∧ grid = withFrame held frame rowsCells
      ∧ validateWideLayout grid = .ok ()
      ∧ rowCopyCellsValid grid.rowsCells grid.rowCopy = true := by
  unfold applyFrame at applied
  split at applied
  · contradiction
  · next rowsCells opsApplied =>
    dsimp only at applied
    split at applied
    · contradiction
    · next layout =>
      split at applied
      · contradiction
      · next copy =>
        cases applied
        exact ⟨rowsCells, opsApplied, rfl, layout, not_not.mp copy⟩

/-- A generation adopted in place of another is not among the retired ones. -/
theorem not_mem_retiredBy {state : SyncState} {gen : SessionGeneration}
    (fresh : gen ∉ state.retired) : gen ∉ retiredBy state gen := by
  unfold retiredBy
  split
  · exact fresh
  · split
    · exact fresh
    · next different =>
      rw [Finset.mem_insert, not_or]
      exact ⟨Ne.symm different, fresh⟩

variable {before after : View} {events : List Event}

theorem ViewChange.inv
    (change : ViewChange before event after) (inv : ViewInv before) : ViewInv after := by
  cases change with
  | kept same phase =>
    refine ⟨?_, ?_, ?_⟩
    · rw [same.current, same.retired]
      exact inv.notRetired
    · rw [same.current, same.held]
      exact inv.painted
    · intro awaiting
      rw [same.current]
      rcases phase with unchanged | ⟨_, moved | moved⟩
      · exact inv.baseline (unchanged ▸ awaiting)
      · rw [moved] at awaiting
        contradiction
      · rw [moved] at awaiting
        contradiction
  | adopted _ _ admitted _ _ phase current retired held =>
    obtain ⟨_, _, fresh, _⟩ := admitGrid_ok admitted
    refine ⟨?_, ?_, ?_⟩
    · intro gen rev known
      rw [current] at known
      cases known
      rw [retired]
      exact not_mem_retiredBy fresh
    · rw [current, held, Option.map_some]
    · intro awaiting
      rw [phase] at awaiting
      contradiction
  | applied frame base _ _ holding applicable _ phase current retired held =>
    obtain ⟨_, _, produced, _⟩ := applyFrame_applied applicable.result
    have baseGeneration : base.generation = frame.generation := by
      have painted := inv.painted
      rw [applicable.continues, holding, Option.map_some] at painted
      exact (Prod.mk.inj (Option.some.inj painted)).1.symm
    refine ⟨?_, ?_, ?_⟩
    · intro gen rev known
      rw [current] at known
      cases known
      rw [retired]
      exact applicable.notRetired
    · rw [current, held, Option.map_some, produced]
      simp [withFrame, baseGeneration]
    · intro awaiting
      rw [phase] at awaiting
      contradiction

/-- The invariant holds after every run of a fresh binding. -/
theorem viewInv_run {sessionId : SessionId}
    (run : Run ViewStep (View.new sessionId) events view) : ViewInv view :=
  run.invariant (viewInv_new sessionId) (fun taken inv => taken ▸ (handle_change _ _).inv inv)

/-- A later view of the same binding: generations stay retired, and a current generation
stays current at no lower revision or is retired. -/
structure Later (before after : View) : Prop where
  retired : before.sync.retired ⊆ after.sync.retired
  progress : ∀ gen rev, before.sync.current = some (gen, rev) →
    gen ∈ after.sync.retired ∨ ∃ later, after.sync.current = some (gen, later) ∧ rev ≤ later
  ended : before.sync.phase = .exited →
    after.sync.phase = .exited ∧ after.held = before.held
      ∧ after.sync.current = before.sync.current

theorem Later.refl (view : View) : Later view view where
  retired := Finset.Subset.refl _
  progress := fun _ rev known => .inr ⟨rev, known, le_refl rev⟩
  ended := fun exited => ⟨exited, rfl, rfl⟩

theorem Later.trans {first second third : View} (left : Later first second)
    (right : Later second third) : Later first third where
  retired := left.retired.trans right.retired
  progress := by
    intro gen rev known
    rcases left.progress gen rev known with gone | ⟨middle, there, reached⟩
    · exact .inl (right.retired gone)
    · rcases right.progress gen middle there with gone | ⟨later, there', reached'⟩
      · exact .inl gone
      · exact .inr ⟨later, there', reached.trans reached'⟩
  ended := by
    intro exited
    obtain ⟨exited', held, current⟩ := left.ended exited
    obtain ⟨exited'', held', current'⟩ := right.ended exited'
    exact ⟨exited'', held'.trans held, current'.trans current⟩

/-- Retiring is cumulative. -/
theorem retired_subset_retiredBy (state : SyncState) (gen : SessionGeneration) :
    state.retired ⊆ retiredBy state gen := by
  unfold retiredBy
  split
  · exact Finset.Subset.refl _
  · split
    · exact Finset.Subset.refl _
    · exact Finset.subset_insert _ _

theorem ViewChange.later (change : ViewChange before event after) : Later before after := by
  cases change with
  | kept same phase =>
    refine ⟨same.retired ▸ Finset.Subset.refl _, ?_, ?_⟩
    · intro gen rev known
      exact .inr ⟨rev, same.current.trans known, le_refl rev⟩
    · intro exited
      refine ⟨?_, same.held, same.current⟩
      rcases phase with unchanged | ⟨live, _⟩
      · exact unchanged.trans exited
      · exact (live exited).elim
  | adopted snap _ admitted newer _ _ current retired =>
    obtain ⟨_, live, _⟩ := admitGrid_ok admitted
    refine ⟨retired ▸ retired_subset_retiredBy _ _, ?_, fun exited => (live exited).elim⟩
    intro gen rev known
    by_cases same : gen = snap.generation
    · right
      exact ⟨snap.revision, same ▸ current, le_of_lt (newer gen rev known same)⟩
    · left
      rw [retired, retiredBy, known]
      simp [same]
  | applied frame _ _ _ _ applicable _ _ current retired =>
    refine ⟨retired ▸ Finset.Subset.refl _, ?_, fun exited => (applicable.live exited).elim⟩
    intro gen rev known
    rw [applicable.continues] at known
    cases known
    exact .inr ⟨frame.revision, current, le_of_lt applicable.advances⟩

/-- Runs move views forward. -/
theorem later_run (run : Run ViewStep before events after) : Later before after := by
  apply run.related (show (fun _ => True) before from trivial) (fun _ _ => trivial)
  · exact Later.refl
  · exact Later.trans
  · intro first event next taken _
    rw [taken]
    exact (handle_change first event).later

end HydraTerm.Renderer
