import HydraTerm.Lib.Runs
import HydraTerm.Renderer.Sync

/-!
# The renderer's view of one binding

A binding pairs the synchronization state with the grid that is painted. `View.handle`
is the event loop's treatment of each event for a binding that stays current: an
accepted grid is committed when it asks for a repaint, applied damage is committed, and
damage that cannot be applied asks for one recovery snapshot.

Whether the outbound queue admits a snapshot request is decided outside the view, so it
is part of the event. A binding that is superseded discards its view; that case and the
paint path are not modelled.
-/

namespace HydraTerm.Renderer

open Grid Lib

/-- Synchronization state and painted grid of one binding. -/
structure View where
  sync : SyncState
  held : Option GridSnapshot
  deriving DecidableEq

/-- A fresh binding holds no grid. -/
def View.new (sessionId : SessionId) : View where
  sync := SyncState.new sessionId
  held := none

/-- What reaches a binding. `admitted` is the outbound queue's answer to the snapshot
request that the event may cause. -/
inductive Event where
  | grid (id : SessionId) (snap : GridSnapshot) (admitted : Bool)
  | damage (frame : DamageFrame) (admitted : Bool)
  | resyncRequired (id : SessionId)
  | sessionExited (id : SessionId)
  | undecodable (id : SessionId) (admitted : Bool)

/-- Ask once for a recovery snapshot, if the state allows it and the queue admits it. -/
def requestLocalRecovery (sync : SyncState) (id : SessionId) (admitted : Bool) : SyncState :=
  if sync.canRequestLocalResync id && admitted then (sync.localResyncRequestAdmitted id).1
  else sync

/-- Fetch trailing output after a grid; a refused request is rolled back. -/
def requestSnapshotAfterGrid (sync : SyncState) (admitted : Bool) : SyncState :=
  if admitted then sync else sync.snapshotRequestNotAdmitted

/-- The treatment of a grid event. -/
def View.onGrid (view : View) (id : SessionId) (snap : GridSnapshot) (admitted : Bool) : View :=
  match view.sync.onGrid id snap with
  | (sync, .ok outcome) =>
    { sync := if outcome.requestSnapshot then requestSnapshotAfterGrid sync admitted else sync
      held := if outcome.repaint then some snap else view.held }
  | (sync, .error _) => { view with sync := sync }

/-- The treatment of a damage event. Frames of other sessions are dropped before the held
grid is read. -/
def View.onDamage (view : View) (frame : DamageFrame) (admitted : Bool) : View :=
  if frame.id ≠ view.sync.sessionId then view
  else
    match view.held with
    | none =>
      { view with sync := requestLocalRecovery view.sync view.sync.sessionId admitted }
    | some held =>
      match view.sync.onDamage frame.id frame held with
      | (sync, .applied grid) => { sync := sync, held := some grid }
      | (sync, .ignore) => { view with sync := sync }
      | (sync, .resync _) =>
        { view with sync := requestLocalRecovery sync sync.sessionId admitted }

/-- One event of the binding's event loop. -/
def View.handle (view : View) : Event → View
  | .grid id snap admitted => view.onGrid id snap admitted
  | .damage frame admitted => view.onDamage frame admitted
  | .resyncRequired id => { view with sync := (view.sync.onResyncRequired id).1 }
  | .sessionExited id => { view with sync := (view.sync.onSessionExited id).1 }
  | .undecodable id admitted => { view with sync := requestLocalRecovery view.sync id admitted }

/-- The event loop as a transition system. -/
def ViewStep (before : View) (event : Event) (after : View) : Prop :=
  after = before.handle event

variable (state : SyncState)

/-- The fields that settling a pending request leaves alone. -/
theorem settle_frame (gen : SessionGeneration) (rev : Nat) :
    (state.settlePendingAfterGrid gen rev).1.sessionId = state.sessionId
      ∧ (state.settlePendingAfterGrid gen rev).1.phase = state.phase
      ∧ (state.settlePendingAfterGrid gen rev).1.current = state.current
      ∧ (state.settlePendingAfterGrid gen rev).1.retired = state.retired := by
  unfold SyncState.settlePendingAfterGrid
  split <;> exact ⟨rfl, rfl, rfl, rfl⟩

/-- The generations retired once a grid of generation `gen` is adopted. -/
def retiredBy (gen : SessionGeneration) : Finset SessionGeneration :=
  match state.current with
  | none => state.retired
  | some (curGen, _) => if curGen = gen then state.retired else insert curGen state.retired

variable (state : SyncState) (id : SessionId) (snap : GridSnapshot) in
/-- Everything a grid can do to the state: it is refused, it repeats the baseline, or it
becomes the baseline. -/
inductive GridAnswer : SyncState × Except Reject GridOutcome → Prop
  | refused (reason : Reject) : GridAnswer (state, .error reason)
  | duplicate (after : SyncState) (request : Bool)
      (admitted : state.admitGrid id snap = .ok ())
      (repeated : state.current = some (snap.generation, snap.revision))
      (sessionId : after.sessionId = state.sessionId) (phase : after.phase = state.phase)
      (current : after.current = state.current) (retired : after.retired = state.retired) :
      GridAnswer (after, .ok { repaint := false, requestSnapshot := request })
  | adopted (after : SyncState) (request : Bool)
      (admitted : state.admitGrid id snap = .ok ())
      (newer : ∀ gen rev, state.current = some (gen, rev) → gen = snap.generation →
        rev < snap.revision)
      (sessionId : after.sessionId = state.sessionId) (phase : after.phase = .synchronized)
      (current : after.current = some (snap.generation, snap.revision))
      (retired : after.retired = retiredBy state snap.generation) :
      GridAnswer (after, .ok { repaint := true, requestSnapshot := request })

/-- Adopting a grid sets the baseline and phase and nothing else that persists. -/
theorem adoptGrid_frame (snap : GridSnapshot) :
    (state.adoptGrid snap).1.sessionId = state.sessionId
      ∧ (state.adoptGrid snap).1.phase = .synchronized
      ∧ (state.adoptGrid snap).1.current = some (snap.generation, snap.revision)
      ∧ (state.adoptGrid snap).1.retired = state.retired :=
  settle_frame _ _ _

/-- The grid handler does one of the three things. -/
theorem onGrid_answer (state : SyncState) (id : SessionId) (snap : GridSnapshot) :
    GridAnswer state id snap (state.onGrid id snap) := by
  unfold SyncState.onGrid
  cases admitted : state.admitGrid id snap with
  | error reason => exact .refused reason
  | ok =>
    cases held : state.current with
    | none =>
      obtain ⟨sessionId, phase, current, retired⟩ := adoptGrid_frame state snap
      refine .adopted _ _ admitted ?_ sessionId phase current ?_
      · intro gen rev known
        rw [held] at known
        contradiction
      · rw [retired, retiredBy, held]
    | some pair =>
      obtain ⟨curGen, curRev⟩ := pair
      dsimp only
      split_ifs with same stale equal
      · exact .refused _
      · obtain ⟨sessionId, phase, current, retired⟩ :=
          settle_frame state snap.generation snap.revision
        refine .duplicate _ _ admitted ?_ sessionId phase current retired
        rw [held, same, equal]
      · obtain ⟨sessionId, phase, current, retired⟩ := adoptGrid_frame state snap
        refine .adopted _ _ admitted ?_ sessionId phase current ?_
        · intro gen rev known sameGen
          rw [held] at known
          cases known
          omega
        · rw [retired, retiredBy, held]
          exact (if_pos same).symm
      · obtain ⟨sessionId, phase, current, retired⟩ :=
          adoptGrid_frame { state with
            current := some (curGen, curRev), retired := insert curGen state.retired } snap
        refine .adopted _ _ admitted ?_ sessionId phase current ?_
        · intro gen rev known sameGen
          rw [held] at known
          cases known
          exact (same sameGen).elim
        · rw [retired, retiredBy, held]
          exact (if_neg same).symm

/-- What a frame has to satisfy in order to be applied: it continues exactly the current
baseline of a live state, and its operations turn the held grid into a valid one. -/
structure Applicable (id : SessionId) (frame : DamageFrame)
    (held grid : GridSnapshot) : Prop where
  session : id = state.sessionId
  live : state.phase ≠ .exited
  notRetired : frame.generation ∉ state.retired
  valid : validate frame = .ok ()
  continues : state.current = some (frame.generation, frame.baseRevision)
  advances : frame.baseRevision < frame.revision
  cols : frame.cols = held.cols
  rows : frame.rows = held.rows
  result : applyFrame held frame = .applied grid

variable {state} {held grid : GridSnapshot} {frame : DamageFrame} {id : SessionId}

/-- A frame is applied exactly when it is applicable. -/
theorem judgeDamage_applied_iff :
    state.judgeDamage id frame held = .applied grid ↔ Applicable state id frame held grid := by
  constructor
  · intro applied
    unfold SyncState.judgeDamage at applied
    split at applied
    · contradiction
    next session =>
    split at applied
    · contradiction
    next live =>
    split at applied
    · contradiction
    next notRetired =>
    split at applied
    · contradiction
    next valid =>
    split at applied
    · contradiction
    next curGen curRev current =>
    split_ifs at applied with sameGen newer continuous geometry
    rw [not_not] at session sameGen continuous
    rw [not_or, not_not, not_not] at geometry
    exact
      { session := session
        live := live
        notRetired := notRetired
        valid := valid
        continues := by rw [current, sameGen, continuous]
        advances := by omega
        cols := geometry.1
        rows := geometry.2
        result := applied }
  · intro applicable
    have later : ¬ frame.revision ≤ frame.baseRevision := not_le.mpr applicable.advances
    simp [SyncState.judgeDamage, applicable.session, applicable.live, applicable.notRetired,
      applicable.valid, applicable.continues, applicable.cols, applicable.rows, later,
      applicable.result, or_self]

variable (state : SyncState) (id : SessionId) (frame : DamageFrame) (held : GridSnapshot) in
/-- Everything a damage frame can do to the state: nothing, or advance the baseline. -/
inductive DamageAnswer : SyncState × DamageOutcome → Prop
  | ignored : DamageAnswer (state, .ignore)
  | refused (reason : Reject) : DamageAnswer (state, .resync reason)
  | applied (after : SyncState) (grid : GridSnapshot)
      (applicable : Applicable state id frame held grid)
      (sessionId : after.sessionId = state.sessionId) (phase : after.phase = .synchronized)
      (current : after.current = some (frame.generation, frame.revision))
      (retired : after.retired = state.retired) : DamageAnswer (after, .applied grid)

/-- The damage handler does one of the three things. -/
theorem onDamage_answer (state : SyncState) (id : SessionId) (frame : DamageFrame)
    (held : GridSnapshot) : DamageAnswer state id frame held (state.onDamage id frame held) := by
  unfold SyncState.onDamage
  cases verdict : state.judgeDamage id frame held with
  | applied grid =>
    obtain ⟨sessionId, phase, current, retired⟩ := settle_frame
      { state with current := some (frame.generation, frame.revision), phase := .synchronized }
      frame.generation frame.revision
    exact .applied _ grid (judgeDamage_applied_iff.mp verdict) sessionId phase current retired
  | ignore => exact .ignored
  | resync reason => exact .refused reason

/-- An applicable frame is answered with the grid it produces. -/
theorem onDamage_applied (applicable : Applicable state id frame held grid) :
    ∃ after, state.onDamage id frame held = (after, .applied grid) := by
  have verdict : state.judgeDamage id frame held = .applied grid :=
    judgeDamage_applied_iff.mpr applicable
  unfold SyncState.onDamage
  rw [verdict]
  exact ⟨_, rfl⟩

end HydraTerm.Renderer
