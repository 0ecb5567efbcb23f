import HydraTerm.Renderer.ViewRuns

/-!
# Laws of the renderer's synchronization

Over every run of a binding: revisions never go back within a generation, a replaced
generation never returns, a refused event leaves the painted grid and the baseline alone,
and nothing is painted after the session has exited.

Recovery from a resync signal has one exception. An accepted grid sets the phase back to
synchronized on every path but one: a grid that repeats the held generation and revision
returns before the phase is set. A view that awaits a resync and receives such a grid
accepts it and keeps waiting. Whenever the grid differs from the baseline, the phase is
restored and continuous damage is applied again.
-/

namespace HydraTerm.Renderer

open Grid Lib

variable (view : View)

/-- The event is refused, ignored, or cannot be applied. -/
def Rejected : Event → Prop
  | .grid id snap _ => ∃ reason, (view.sync.onGrid id snap).2 = .error reason
  | .damage frame _ => ∀ held grid, frame.id = view.sync.sessionId → view.held = some held →
      (view.sync.onDamage frame.id frame held).2 ≠ .applied grid
  | .resyncRequired id => ∃ reason, (view.sync.onResyncRequired id).2 = .error reason
  | .sessionExited id => (view.sync.onSessionExited id).2 ≠ .ok .exited
  | .undecodable _ _ => True

/-- The view has just admitted its one recovery request and waits for its answer. -/
structure RequestsResync (before after : View) : Prop where
  live : before.sync.phase ≠ .exited
  phase : after.sync.phase = .awaitingResync
  inFlight : after.sync.requestInFlight = true

/-- The grid is accepted, with or without a repaint. -/
def GridAccepted (id : SessionId) (snap : GridSnapshot) : Prop :=
  ∃ outcome, (view.sync.onGrid id snap).2 = .ok outcome

/-- The event is a grid that repeats the baseline of a view that awaits a resync. -/
def RepeatsBaseline : Event → Prop
  | .grid _ snap _ =>
    view.sync.phase = .awaitingResync
      ∧ view.sync.current = some (snap.generation, snap.revision)
  | _ => False

/-- A structurally valid frame of the bound session that continues the baseline and whose
operations produce `grid` from the painted one. -/
structure Continues (frame : DamageFrame) (grid : GridSnapshot) : Prop where
  session : frame.id = view.sync.sessionId
  valid : validate frame = .ok ()
  current : view.sync.current = some (frame.generation, frame.baseRevision)
  produces : ∃ held, view.held = some held ∧ frame.cols = held.cols ∧ frame.rows = held.rows
    ∧ applyFrame held frame = .applied grid

/-- Asking for recovery keeps the baseline and either does nothing or awaits the resync. -/
theorem recovery_keeps (id : SessionId) (admitted : Bool) :
    SameBaseline view { view with sync := requestLocalRecovery view.sync id admitted }
      ∧ (requestLocalRecovery view.sync id admitted = view.sync
        ∨ RequestsResync view { view with sync := requestLocalRecovery view.sync id admitted }) := by
  rcases requestLocalRecovery_eq view.sync id admitted with same | ⟨live, same⟩ <;> rw [same]
  · exact ⟨⟨rfl, rfl, rfl, rfl⟩, .inl rfl⟩
  · exact ⟨⟨rfl, rfl, rfl, rfl⟩, .inr ⟨live, rfl, rfl⟩⟩

variable {view}

/-- A refused event changes nothing but, at most, the recovery request. -/
theorem rejected_keeps {event : Event} (rejected : Rejected view event) :
    SameBaseline view (view.handle event)
      ∧ ((view.handle event).sync = view.sync ∨ RequestsResync view (view.handle event)) := by
  cases event with
  | grid id snap admitted =>
    obtain ⟨_, refused⟩ := rejected
    have unchanged : view.onGrid id snap admitted = view := by
      unfold View.onGrid
      have kind := onGrid_answer view.sync id snap
      generalize view.sync.onGrid id snap = answer at kind refused
      cases kind with
      | refused => rfl
      | duplicate | adopted => contradiction
    rw [View.handle, unchanged]
    exact ⟨⟨rfl, rfl, rfl, rfl⟩, .inl rfl⟩
  | damage frame admitted =>
    rw [View.handle, View.onDamage]
    split
    · exact ⟨⟨rfl, rfl, rfl, rfl⟩, .inl rfl⟩
    · next session =>
      split
      · exact recovery_keeps view _ admitted
      · next held holding =>
        have outcome := fun grid => rejected held grid (not_not.mp session) holding
        have kind := onDamage_answer view.sync frame.id frame held
        generalize view.sync.onDamage frame.id frame held = answer at kind outcome
        cases kind with
        | ignored => exact ⟨⟨rfl, rfl, rfl, rfl⟩, .inl rfl⟩
        | refused => exact recovery_keeps view _ admitted
        | applied _ grid => exact (outcome grid rfl).elim
  | resyncRequired id =>
    obtain ⟨_, refused⟩ := rejected
    have unchanged : (view.sync.onResyncRequired id).1 = view.sync := by
      unfold SyncState.onResyncRequired at refused ⊢
      split
      · rfl
      · split
        · rfl
        · simp_all
    rw [View.handle, unchanged]
    exact ⟨⟨rfl, rfl, rfl, rfl⟩, .inl rfl⟩
  | sessionExited id =>
    have unchanged : (view.sync.onSessionExited id).1 = view.sync := by
      simp only [Rejected, SyncState.onSessionExited] at rejected ⊢
      split
      · rfl
      · split
        · rfl
        · simp_all
    rw [View.handle, unchanged]
    exact ⟨⟨rfl, rfl, rfl, rfl⟩, .inl rfl⟩
  | undecodable id admitted => exact recovery_keeps view id admitted

/-- After an accepted grid the phase is synchronized, except when the grid repeats the
baseline of a view that awaits a resync. -/
theorem accepted_synchronizes (inv : ViewInv view) {id : SessionId}
    {snap : GridSnapshot} (accepted : GridAccepted view id snap) (admitted : Bool) :
    (view.handle (.grid id snap admitted)).sync.phase = .synchronized
      ↔ ¬ RepeatsBaseline view (.grid id snap admitted) := by
  obtain ⟨_, answered⟩ := accepted
  rw [View.handle, View.onGrid]
  have kind := onGrid_answer view.sync id snap
  generalize view.sync.onGrid id snap = answer at kind answered
  cases kind with
  | refused => contradiction
  | duplicate after request checked repeated =>
    obtain ⟨_, _, _⟩ := admitGrid_ok checked
    obtain ⟨_, _⟩ := requestSnapshotAfterGrid_eq after request admitted
    simp only [RepeatsBaseline, repeated, and_true]
    have baseline : view.sync.phase ≠ .awaitingBaseline := by
      intro awaiting
      rw [inv.baseline awaiting] at repeated
      contradiction
    cases state : view.sync.phase <;> simp_all
  | adopted after request _ newer _ phase =>
    obtain ⟨_, same⟩ := requestSnapshotAfterGrid_eq after request admitted
    simp only [same, phase, true_iff]
    rintro ⟨_, repeated⟩
    exact lt_irrefl _ (newer _ _ repeated rfl)

/-- Continuous damage is applied to every live view. -/
theorem continues_applied (inv : ViewInv view) {frame : DamageFrame} {grid : GridSnapshot}
    (live : view.sync.phase ≠ .exited) (continues : Continues view frame grid) (admitted : Bool) :
    (view.handle (.damage frame admitted)).held = some grid
      ∧ (view.handle (.damage frame admitted)).sync.current
        = some (frame.generation, frame.revision) := by
  obtain ⟨held, holding, cols, rows, produced⟩ := continues.produces
  obtain ⟨_, _, _, _, _, _, advances, _⟩ :=
    validateHeader_ok_iff.mp (header_of_validate continues.valid)
  have applicable : Applicable view.sync frame.id frame held grid :=
    { session := continues.session
      live := live
      notRetired := inv.notRetired _ _ continues.current
      valid := continues.valid
      continues := continues.current
      advances := advances
      cols := cols
      rows := rows
      result := produced }
  have kind := onDamage_answer view.sync frame.id frame held
  obtain ⟨_, answered⟩ := onDamage_applied applicable
  rw [answered] at kind
  rw [View.handle, View.onDamage, if_neg (not_not.mpr continues.session), holding]
  dsimp only
  rw [answered]
  cases kind with
  | applied _ _ _ _ _ current => exact ⟨rfl, current⟩

/-- The state machine over every run. In order: revisions are monotone within a generation; a
replaced generation never returns; a refused event keeps the painted grid, the current pair and
the phase, apart from the recovery request; an exited view is final; and after a resync signal an
accepted grid synchronizes the view exactly unless it repeats the baseline, and then continuous
damage is applied again. -/
theorem sync_state_machine {sessionId : SessionId} {earlier later : List Event}
    {first second : View} (toFirst : Run ViewStep (View.new sessionId) earlier first)
    (toSecond : Run ViewStep first later second) :
    (∀ gen rev rev', first.sync.current = some (gen, rev) →
        second.sync.current = some (gen, rev') → rev ≤ rev')
      ∧ (∀ gen rev gen' rev' beyond third, first.sync.current = some (gen, rev) →
        second.sync.current = some (gen', rev') → gen' ≠ gen → Run ViewStep second beyond third →
        ∀ rev'', third.sync.current ≠ some (gen, rev''))
      ∧ (∀ event, Rejected second event →
        (second.handle event).held = second.held
          ∧ (second.handle event).sync.current = second.sync.current
          ∧ ((second.handle event).sync.phase = second.sync.phase
            ∨ RequestsResync second (second.handle event)))
      ∧ (first.sync.phase = .exited → second.held = first.held
        ∧ second.sync.current = first.sync.current ∧ second.sync.phase = .exited)
      ∧ ∀ waiting view id snap admitted,
        Run ViewStep second (.resyncRequired sessionId :: waiting) view →
        GridAccepted view id snap →
        ((view.handle (.grid id snap admitted)).sync.phase = .synchronized
            ↔ ¬ RepeatsBaseline view (.grid id snap admitted))
          ∧ (¬ RepeatsBaseline view (.grid id snap admitted) →
            ∀ frame grid retry, Continues (view.handle (.grid id snap admitted)) frame grid →
              ((view.handle (.grid id snap admitted)).handle (.damage frame retry)).held
                = some grid
              ∧ ((view.handle (.grid id snap admitted)).handle (.damage frame retry)).sync.current
                = some (frame.generation, frame.revision)) := by
  have secondInv : ViewInv second := viewInv_run (toFirst.append toSecond)
  have moved : Later first second := later_run toSecond
  refine ⟨?_, ?_, ?_, ?_, ?_⟩
  · intro gen rev rev' before after
    rcases moved.progress gen rev before with gone | ⟨reached, there, le⟩
    · exact (secondInv.notRetired gen rev' after gone).elim
    · rw [there] at after
      cases after
      exact le
  · intro gen rev gen' rev' beyond third before after different toThird rev'' back
    have thirdInv : ViewInv third :=
      viewInv_run ((toFirst.append toSecond).append toThird)
    rcases moved.progress gen rev before with gone | ⟨reached, there, _⟩
    · exact thirdInv.notRetired gen rev'' back ((later_run toThird).retired gone)
    · rw [there] at after
      cases after
      exact different rfl
  · intro event rejected
    obtain ⟨same, request⟩ := rejected_keeps rejected
    refine ⟨same.held, same.current, ?_⟩
    exact request.imp (congrArg SyncState.phase) id
  · intro exited
    obtain ⟨still, held, current⟩ := moved.ended exited
    exact ⟨held, current, still⟩
  · intro waiting view id snap admitted waited accepted
    have inv : ViewInv view := viewInv_run
      ((toFirst.append toSecond).append waited)
    have restored := accepted_synchronizes inv accepted admitted
    refine ⟨restored, ?_⟩
    intro fresh frame grid retry continues
    have afterInv : ViewInv (view.handle (.grid id snap admitted)) :=
      (handle_change view _).inv inv
    have live : (view.handle (.grid id snap admitted)).sync.phase ≠ .exited := by
      rw [restored.mpr fresh]
      decide
    exact continues_applied afterInv live continues retry

/-- A view that was signalled to resync at revision one and receives the next revision
synchronizes again. -/
theorem sync_state_machine_next_revision :
    (((((View.new "session").handle (.grid "session" (erasedScreen "g" 1 1 1) true)).handle
        (.resyncRequired "session")).handle
        (.grid "session" (erasedScreen "g" 2 1 1) true))).sync.phase = .synchronized := by
  have started : Run ViewStep (View.new "session")
      [.grid "session" (erasedScreen "g" 1 1 1) true]
      ((View.new "session").handle (.grid "session" (erasedScreen "g" 1 1 1) true)) :=
    .single rfl
  have laws := sync_state_machine started (.nil _)
  have signalled : Run ViewStep
      ((View.new "session").handle (.grid "session" (erasedScreen "g" 1 1 1) true))
      [.resyncRequired "session"]
      (((View.new "session").handle (.grid "session" (erasedScreen "g" 1 1 1) true)).handle
        (.resyncRequired "session")) :=
    .single rfl
  have accepted := laws.2.2.2.2 [] _ "session" (erasedScreen "g" 2 1 1) true signalled
    ⟨⟨true, false⟩, by decide⟩
  exact accepted.1.mpr (fun repeats => absurd repeats.2 (by decide))

/-- A grid that repeats the held revision after a resync signal is accepted, and the view
still awaits its resync. -/
theorem repeated_grid_keeps_awaiting :
    ((((View.new "session").handle (.grid "session" (erasedScreen "g" 1 1 1) true)).handle
        (.resyncRequired "session")).sync.onGrid "session" (erasedScreen "g" 1 1 1)).2
        = .ok { repaint := false, requestSnapshot := false }
      ∧ ((((View.new "session").handle (.grid "session" (erasedScreen "g" 1 1 1) true)).handle
        (.resyncRequired "session")).handle
        (.grid "session" (erasedScreen "g" 1 1 1) true)).sync.phase = .awaitingResync := by
  decide

end HydraTerm.Renderer
