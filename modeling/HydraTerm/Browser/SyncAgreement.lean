import HydraTerm.Browser.SyncBaseline

/-!
# Browser and renderer stay in step

Fed the same events, the two clients keep one baseline and one grid. They part where the browser
takes a grid or a damaged grid with more hyperlinked cells than the renderer's budget, and only
there. Until that happens they decide alike at every event, and after every applied frame they hold
the same grid.

The step law has one case for each kind of event; the law of runs follows by induction over the
events, from any two clients in step.
-/

namespace HydraTerm.Browser

open Grid Lib List
open Renderer (SyncPhase)

/-- The two clients are in step: one baseline, and behind it the same well-shaped grid, which the
browser parsed. -/
structure InStep (native : NativeClient) (browser : BrowserClient) : Prop where
  baseline : nativeBaseline native.sync = browserBaseline browser.sync
  shaped : native.sync.current ≠ none → WellShaped native.held
  held : native.sync.current ≠ none → browser.held = parsedSnapshot native.held

/-- The event leaves more hyperlinked cells than the renderer's budget. -/
def Overlinked (held : GridSnapshot) : SyncEvent → Bool
  | .grid _ snap => !terminalLinkCellsWithinCap snap.rowsCells
  | .damage frame =>
    match applyOps held.rowsCells frame.ops with
    | .ok rowsCells => !terminalLinkCellsWithinCap rowsCells
    | .error _ => false
  | .resyncRequired _ | .sessionExited _ => false

/-- The browser takes an event past the renderer's hyperlink budget. -/
def BrowserClient.Overruns (client : BrowserClient) (event : SyncEvent) : Prop :=
  Overlinked client.held event ∧ (client.handle event).2.Takes
  deriving Decidable

/-- The revisions an event carries are exact in the browser. -/
def SyncEvent.Exact : SyncEvent → Prop
  | .grid _ snap => snap.revision < 2 ^ 53
  | .damage frame => frame.revision < 2 ^ 53
  | .resyncRequired _ | .sessionExited _ => True

/-- The frame of an event passes the renderer's frame validation. -/
def SyncEvent.Valid : SyncEvent → Prop
  | .damage frame => Renderer.validate frame = .ok ()
  | _ => True

instance : (event : SyncEvent) → Decidable event.Exact
  | .grid .. | .damage _ => inferInstanceAs (Decidable (_ < _))
  | .resyncRequired _ | .sessionExited _ => isTrue trivial

instance : (event : SyncEvent) → Decidable event.Valid
  | .damage _ => inferInstanceAs (Decidable (_ = _))
  | .grid .. | .resyncRequired _ | .sessionExited _ => isTrue trivial

/-- Two clients do the same with an event: one decision, the same baseline and phase after it,
and equal grids after an applied frame. -/
structure Agree (native : NativeClient) (browser : BrowserClient) (event : SyncEvent) : Prop where
  decision : (native.handle event).2 = (browser.handle event).2
  phase : (native.handle event).1.sync.phase = (browser.handle event).1.sync.phase
  current : (native.handle event).1.sync.current = (browser.handle event).1.sync.accepted
  grids : (native.handle event).2 = .applied →
    (native.handle event).1.held = (browser.handle event).1.held

variable {native : NativeClient} {browser : BrowserClient} {event : SyncEvent} {id : SessionId}
  {snap grid : GridSnapshot} {frame : DamageFrame} {fate : Decision} {gen : SessionGeneration}
  {client : BrowserClient} {baseline : Baseline} {rev : Nat}

/-- Clients in step agree on an event when they decide alike, are in step after it, and an applied
frame leaves them the same grid. -/
theorem InStep.agree (decision : (native.handle event).2 = (browser.handle event).2)
    (after : InStep (native.handle event).1 (browser.handle event).1)
    (grids : (native.handle event).2 = .applied →
      (native.handle event).1.held = (browser.handle event).1.held) :
    Agree native browser event where
  decision := decision
  phase := congrArg Baseline.phase after.baseline
  current := congrArg Baseline.current after.baseline
  grids := grids

/-- What can happen to clients in step: the browser overruns the budget and the decisions differ,
or they agree and stay in step. -/
inductive Outcome (native : NativeClient) (browser : BrowserClient) (event : SyncEvent) : Prop
  | parted (overruns : browser.Overruns event)
      (differ : (native.handle event).2 ≠ (browser.handle event).2)
  | together (within : ¬ browser.Overruns event) (agree : Agree native browser event)
      (after : InStep (native.handle event).1 (browser.handle event).1)

/-- Clients that decide alike, take nothing and are in step after it. -/
theorem quiet_outcome (decision : (native.handle event).2 = (browser.handle event).2)
    (notTaken : (browser.handle event).2.Takes = false)
    (after : InStep (native.handle event).1 (browser.handle event).1) :
    Outcome native browser event := by
  refine .together ?_ (InStep.agree decision after ?_) after
  · rintro ⟨_, taken⟩
    rw [notTaken] at taken
    contradiction
  · intro applied
    rw [← decision, applied] at notTaken
    contradiction

/-- A grid that is not adopted leaves the baseline alone. -/
theorem onGrid_kept (notAdopted : (baseline.onGrid gen rev).2 ≠ .repaint) :
    (baseline.onGrid gen rev).1 = baseline := by
  unfold Baseline.onGrid at notAdopted ⊢
  cases current : baseline.current with
  | none => simp [current] at notAdopted
  | some =>
    simp only [current] at notAdopted ⊢
    split_ifs at notAdopted ⊢ <;> simp_all

/-- A grid is rejected or taken. -/
theorem onGrid_takes :
    (baseline.onGrid gen rev).2 = .rejected ∨ (baseline.onGrid gen rev).2.Takes = true
      ∧ (baseline.onGrid gen rev).2 ≠ .rejected ∧ (baseline.onGrid gen rev).2 ≠ .applied := by
  unfold Baseline.onGrid
  cases baseline.current with
  | none => simp [Decision.Takes]
  | some =>
    dsimp only
    split_ifs <;> simp [Decision.Takes]

/-- A frame that is not applied leaves the renderer's client as it is. -/
theorem native_damage_kept {client : NativeClient}
    (judged : nativeFate (client.sync.judgeDamage frame.id frame client.held) = fate)
    (notApplied : fate ≠ .applied) : client.handle (.damage frame) = (client, fate) := by
  rw [← judged] at notApplied ⊢
  cases verdict : client.sync.judgeDamage frame.id frame client.held with
  | applied => exact absurd (congrArg nativeFate verdict) notApplied
  | ignore | resync reason =>
    simp [NativeClient.handle, Renderer.SyncState.onDamage, verdict, nativeFate]

theorem browser_damage_kept (parsed : parsedFrame frame = frame)
    (judged : browserFate (client.sync.judgeDamage frame.id frame client.held) = fate)
    (notApplied : fate ≠ .applied) : client.handle (.damage frame) = (client, fate) := by
  rw [← judged] at notApplied ⊢
  cases verdict : client.sync.judgeDamage frame.id frame client.held with
  | applied => exact absurd (congrArg browserFate verdict) notApplied
  | ignore | resync reason =>
    simp [BrowserClient.handle, parsed, SyncState.onDamage, verdict, browserFate]

/-- An applied frame advances the revision and leaves its grid. -/
theorem native_damage_applied {client : NativeClient}
    (judged : client.sync.judgeDamage frame.id frame client.held = .applied grid) :
    (client.handle (.damage frame)).2 = .applied
      ∧ (client.handle (.damage frame)).1.held = grid
      ∧ nativeBaseline (client.handle (.damage frame)).1.sync =
        { nativeBaseline client.sync with
          phase := .synchronized, current := some (frame.generation, frame.revision) } := by
  simp only [NativeClient.handle, Renderer.SyncState.onDamage, judged, nativeBaseline_settle,
    true_and]
  rfl

theorem browser_damage_applied (parsed : parsedFrame frame = frame)
    (generation : client.sync.curGen = some frame.generation)
    (judged : client.sync.judgeDamage frame.id frame client.held = .applied grid) :
    (client.handle (.damage frame)).2 = .applied
      ∧ (client.handle (.damage frame)).1.held = grid
      ∧ browserBaseline (client.handle (.damage frame)).1.sync =
        { browserBaseline client.sync with
          phase := .synchronized, current := some (frame.generation, frame.revision) } := by
  simp [BrowserClient.handle, parsed, SyncState.onDamage, judged, browserBaseline,
    SyncState.accepted, generation]

/-- The grid that a valid frame leaves is parsed unchanged: every number in it is small. -/
theorem parsed_applied {held : GridSnapshot} (shaped : WellShaped held)
    (valid : Renderer.validate frame = .ok ()) (precise : frame.revision < 2 ^ 53)
    (applied : applyFrame held frame = .applied grid) : parsedSnapshot grid = grid := by
  obtain ⟨_, _, _, _, rfl⟩ := applyFrame_applied_iff.mp applied
  obtain ⟨_, _, _, _, colsBound, rowsBound, _, _, _, _⟩ :=
    Renderer.validateHeader_ok_iff.mp (Renderer.header_of_validate valid)
  have colsSmall : frame.cols ≤ 2000 := colsBound
  have rowsSmall : frame.rows ≤ 2000 := rowsBound
  have base : jsNumber frame.baseRevision = frame.baseRevision := jsNumber_exact (by omega)
  have line : jsNumber frame.cursor.line = frame.cursor.line := jsNumber_exact (by omega)
  have col : jsNumber frame.cursor.col = frame.cursor.col := jsNumber_exact (by omega)
  simp [parsedSnapshot, carryFrame, jsNumber_exact precise, base, line, col,
    jsNumber_small shaped.cols_le, jsNumber_small shaped.rows_le]

variable (inStep : InStep native browser)
include inStep

/-- Clients whose baselines and grids an event leaves alone stay in step. -/
theorem InStep.kept {nativeAfter : NativeClient} {browserAfter : BrowserClient}
    (nativeKept : nativeBaseline nativeAfter.sync = nativeBaseline native.sync)
    (nativeHeld : nativeAfter.held = native.held)
    (browserKept : browserBaseline browserAfter.sync = browserBaseline browser.sync)
    (browserHeld : browserAfter.held = browser.held) : InStep nativeAfter browserAfter := by
  have current : nativeAfter.sync.current = native.sync.current :=
    congrArg Baseline.current nativeKept
  refine ⟨?_, ?_, ?_⟩
  · rw [nativeKept, browserKept, inStep.baseline]
  · rw [current, nativeHeld]
    exact inStep.shaped
  · rw [current, nativeHeld, browserHeld]
    exact inStep.held

/-- Clients that an event leaves alone, with one fate. -/
theorem kept_outcome (nativeKept : native.handle event = (native, fate))
    (browserKept : browser.handle event = (browser, fate)) (notTaken : fate.Takes = false) :
    Outcome native browser event := by
  apply quiet_outcome
  · rw [nativeKept, browserKept]
  · rw [browserKept]
    exact notTaken
  · rw [nativeKept, browserKept]
    exact inStep

/-- A grid that both clients admit. -/
theorem grid_admitted_outcome (precise : snap.revision < 2 ^ 53)
    (nativeAdmits : native.sync.admitGrid id snap = .ok ())
    (browserAdmits : browser.sync.admitGrid id (parsedSnapshot snap) = .ok ()) :
    Agree native browser (.grid id snap)
      ∧ InStep (native.handle (.grid id snap)).1 (browser.handle (.grid id snap)).1 := by
  obtain ⟨nativeAnswer, nativeHeld⟩ := native_grid_admitted nativeAdmits
  obtain ⟨browserAnswer, browserHeld⟩ := browser_grid_admitted browserAdmits
  have revision : (parsedSnapshot snap).revision = snap.revision := jsNumber_exact precise
  rw [revision, ← inStep.baseline] at browserAnswer
  obtain ⟨baseline, decision⟩ := Prod.mk.inj (nativeAnswer.trans browserAnswer.symm)
  have decided : (native.handle (.grid id snap)).2 = ((nativeBaseline native.sync).onGrid
      snap.generation snap.revision).2 := congrArg Prod.snd nativeAnswer
  have after : InStep (native.handle (.grid id snap)).1 (browser.handle (.grid id snap)).1 := by
    by_cases adopted : (native.handle (.grid id snap)).2 = .repaint
    · rw [if_pos adopted] at nativeHeld
      rw [if_pos (decision ▸ adopted)] at browserHeld
      obtain ⟨_, _, _, shaped, _⟩ := browser_admitGrid_ok_iff.mp browserAdmits
      refine ⟨baseline, ?_, ?_⟩
      · rw [nativeHeld]
        exact fun _ => shaped
      · rw [nativeHeld, browserHeld]
        exact fun _ => rfl
    · rw [if_neg adopted] at nativeHeld
      rw [if_neg (decision ▸ adopted)] at browserHeld
      have kept := onGrid_kept (decided ▸ adopted)
      have nativeKept := (congrArg Prod.fst nativeAnswer).trans kept
      have browserKept := ((congrArg Prod.fst browserAnswer).trans kept).trans inStep.baseline
      exact inStep.kept nativeKept nativeHeld browserKept browserHeld
  refine ⟨InStep.agree decision after ?_, after⟩
  intro applied
  have notApplied : (native.handle (.grid id snap)).2 ≠ .applied := by
    rw [decided]
    rcases onGrid_takes with rejected | ⟨_, _, notApplied⟩
    · rw [rejected]
      decide
    · exact notApplied
  exact absurd applied notApplied

/-- A grid that the browser admits past the budget: it takes it, or rejects it as stale. -/
theorem grid_overlinked_outcome (nativeRefuses : native.sync.admitGrid id snap ≠ .ok ())
    (browserAdmits : browser.sync.admitGrid id (parsedSnapshot snap) = .ok ())
    (overlinked : terminalLinkCellsWithinCap snap.rowsCells ≠ true) :
    Outcome native browser (.grid id snap) := by
  have refused := native_grid_refused nativeRefuses
  obtain ⟨answer, held⟩ := browser_grid_admitted browserAdmits
  have decided : (browser.handle (.grid id snap)).2 = ((browserBaseline browser.sync).onGrid
      (parsedSnapshot snap).generation (parsedSnapshot snap).revision).2 :=
    congrArg Prod.snd answer
  rcases onGrid_takes with rejected | ⟨takes, notRejected, _⟩
  · have decision : (browser.handle (.grid id snap)).2 = .rejected := decided.trans rejected
    have kept : browserBaseline (browser.handle (.grid id snap)).1.sync =
        browserBaseline browser.sync :=
      (congrArg Prod.fst answer).trans (onGrid_kept (by rw [rejected]; decide))
    rw [decision, if_neg (by decide)] at held
    apply quiet_outcome
    · rw [refused, decision]
    · rw [decision]
      rfl
    · rw [refused]
      exact inStep.kept rfl rfl kept held
  · refine .parted ⟨?_, ?_⟩ ?_
    · simpa [Overlinked] using overlinked
    · rw [decided]
      exact takes
    · rw [refused, decided]
      exact Ne.symm notRejected

/-- One grid. -/
theorem grid_outcome (precise : snap.revision < 2 ^ 53) :
    Outcome native browser (.grid id snap) := by
  have admission : native.sync.admitGrid id snap = .ok () ↔ _ :=
    admitGrid_ok_iff inStep.baseline
  by_cases browserAdmits : browser.sync.admitGrid id (parsedSnapshot snap) = .ok ()
  · by_cases within : terminalLinkCellsWithinCap snap.rowsCells = true
    · obtain ⟨agree, after⟩ := grid_admitted_outcome inStep precise
        (admission.mpr ⟨browserAdmits, within⟩) browserAdmits
      refine .together ?_ agree after
      rintro ⟨overlinked, _⟩
      simp [Overlinked, within] at overlinked
    · exact grid_overlinked_outcome inStep (fun admits => within (admission.mp admits).2)
        browserAdmits within
  · have nativeRefused := native_grid_refused (fun admits => browserAdmits (admission.mp admits).1)
    exact kept_outcome inStep nativeRefused (browser_grid_refused browserAdmits) rfl

/-- Both clients put a frame through the same continuity checks. -/
theorem InStep.judgeFrame_eq :
    (browserBaseline browser.sync).judgeFrame frame browser.held =
      (nativeBaseline native.sync).judgeFrame frame native.held := by
  rw [← inStep.baseline]
  have known : (nativeBaseline native.sync).current = native.sync.current := rfl
  cases current : native.sync.current with
  | none => simp [Baseline.judgeFrame, known, current]
  | some =>
    have present : native.sync.current ≠ none := by simp [current]
    have shaped := inStep.shaped present
    have cols : (parsedSnapshot native.held).cols = native.held.cols :=
      jsNumber_small shaped.cols_le
    have rows : (parsedSnapshot native.held).rows = native.held.rows :=
      jsNumber_small shaped.rows_le
    simp [Baseline.judgeFrame, inStep.held present, cols, rows]

/-- A frame whose operations are reached, from the same grid on both sides. -/
theorem damage_reached_outcome (precise : frame.revision < 2 ^ 53)
    (valid : Renderer.validate frame = .ok ())
    (reached : (nativeBaseline native.sync).judgeFrame frame native.held = none) :
    Outcome native browser (.damage frame) := by
  have parsed : parsedFrame frame = frame := parsedFrame_eq valid precise
  have browserReached := inStep.judgeFrame_eq.trans reached
  have present : native.sync.current ≠ none := by
    have current : native.sync.current = _ := current_of_judgeFrame reached
    simp [current]
  have shaped : WellShaped native.held := inStep.shaped present
  have held : browser.held = parsedSnapshot native.held := inStep.held present
  have nativeVerdict := (native_judge valid).2 reached
  have browserVerdict : browser.sync.judgeDamage frame.id frame browser.held =
      applyFrame native.held frame := by
    rw [(browser_judge (validateDamage_none valid)).2 browserReached, held,
      applyFrame_parsed shaped]
  have nativeResync : (∀ grid, Renderer.applyFrame native.held frame ≠ .applied grid) →
      native.handle (.damage frame) = (native, .resync) := by
    intro notApplied
    rcases nativeFate_applyFrame native.held frame with resynced | ⟨grid, applied⟩
    · exact native_damage_kept (nativeVerdict ▸ resynced) (by decide)
    · exact absurd applied (notApplied grid)
  rcases browserFate_applyFrame native.held frame with resynced | ⟨grid, applied⟩
  · refine kept_outcome inStep (nativeResync ?_)
      (browser_damage_kept parsed (browserVerdict ▸ resynced) (by decide)) rfl
    intro grid nativeApplied
    rw [((renderer_applyFrame_applied_iff shaped).mp nativeApplied).1] at resynced
    contradiction
  · have generation : browser.sync.curGen = some frame.generation := by
      obtain ⟨_, found, pair⟩ := Option.map_eq_some_iff.mp (current_of_judgeFrame browserReached)
      rw [found, (Prod.mk.inj pair).1]
    obtain ⟨browserDecision, browserHeld, browserAfter⟩ :=
      browser_damage_applied parsed generation (browserVerdict.trans applied)
    have overlinks : Overlinked browser.held (.damage frame) =
        !terminalLinkCellsWithinCap grid.rowsCells := by
      obtain ⟨_, computed, _, _, rfl⟩ := applyFrame_applied_iff.mp applied
      have cells : browser.held.rowsCells = native.held.rowsCells := by
        rw [held]
        rfl
      simp [Overlinked, cells, computed, carryFrame]
    by_cases within : terminalLinkCellsWithinCap grid.rowsCells = true
    · have nativeApplied := (renderer_applyFrame_applied_iff shaped).mpr ⟨applied, within⟩
      obtain ⟨nativeDecision, nativeHeld, nativeAfter⟩ :=
        native_damage_applied (nativeVerdict.trans nativeApplied)
      have after : InStep (native.handle (.damage frame)).1 (browser.handle (.damage frame)).1 := by
        refine ⟨?_, ?_, ?_⟩
        · rw [nativeAfter, browserAfter, inStep.baseline]
        · rw [nativeHeld]
          exact fun _ => wellShaped_applied shaped applied
        · rw [nativeHeld, browserHeld, parsed_applied shaped valid precise applied]
          exact fun _ => rfl
      refine .together ?_ (InStep.agree ?_ after ?_) after
      · rintro ⟨overlinked, _⟩
        simp [overlinks, within] at overlinked
      · rw [nativeDecision, browserDecision]
      · rw [nativeHeld, browserHeld]
        exact fun _ => rfl
    · have nativeKept : native.handle (.damage frame) = (native, .resync) := by
        refine nativeResync ?_
        intro other nativeApplied
        obtain ⟨same, otherWithin⟩ := (renderer_applyFrame_applied_iff shaped).mp nativeApplied
        rw [applied] at same
        cases same
        exact within otherWithin
      refine .parted ⟨?_, ?_⟩ ?_
      · simp [overlinks, within]
      · rw [browserDecision]
        rfl
      · rw [nativeKept, browserDecision]
        exact Decision.noConfusion

/-- One valid damage frame. -/
theorem damage_outcome (precise : frame.revision < 2 ^ 53)
    (valid : Renderer.validate frame = .ok ()) : Outcome native browser (.damage frame) := by
  have parsed : parsedFrame frame = frame := parsedFrame_eq valid precise
  cases checks : (nativeBaseline native.sync).judgeFrame frame native.held with
  | some fate =>
    have notTaken := takes_of_judgeFrame checks
    have notApplied : fate ≠ .applied := by
      rintro rfl
      cases notTaken
    exact kept_outcome inStep (native_damage_kept ((native_judge valid).1 fate checks) notApplied)
      (browser_damage_kept parsed ((browser_judge (validateDamage_none valid)).1 fate
        (inStep.judgeFrame_eq.trans checks)) notApplied) notTaken
  | none => exact damage_reached_outcome inStep precise valid checks

/-- A resync notice. -/
theorem resyncRequired_outcome : Outcome native browser (.resyncRequired id) := by
  have session : native.sync.sessionId = browser.sync.sessionId :=
    congrArg Baseline.sessionId inStep.baseline
  have phase : native.sync.phase = browser.sync.phase := congrArg Baseline.phase inStep.baseline
  have moved : nativeBaseline { native.sync with
      phase := .awaitingResync, requestInFlight := false, highestSeen := none } =
        browserBaseline { browser.sync with phase := .awaitingResync } :=
    congrArg (fun baseline => { baseline with phase := SyncPhase.awaitingResync }) inStep.baseline
  by_cases ignored : id ≠ browser.sync.sessionId ∨ browser.sync.phase = .exited
  · have nativeIs : native.handle (.resyncRequired id) = (native, .rejected) := by
      simp only [NativeClient.handle, Renderer.SyncState.onResyncRequired, session, phase]
      split_ifs <;> simp_all
    have browserIs : browser.handle (.resyncRequired id) = (browser, .rejected) := by
      simp only [BrowserClient.handle, SyncState.onResyncRequired]
      split_ifs <;> simp_all
    exact kept_outcome inStep nativeIs browserIs rfl
  · obtain ⟨same, live⟩ := not_or.mp ignored
    have nativeIs : native.handle (.resyncRequired id) = (⟨{ native.sync with
        phase := .awaitingResync, requestInFlight := false, highestSeen := none },
        native.held⟩, .noted) := by
      simp [NativeClient.handle, Renderer.SyncState.onResyncRequired, session, phase, same, live]
    have browserIs : browser.handle (.resyncRequired id) =
        (⟨{ browser.sync with phase := .awaitingResync }, browser.held⟩, .noted) := by
      simp [BrowserClient.handle, SyncState.onResyncRequired, same, live]
    apply quiet_outcome <;> simp only [nativeIs, browserIs, Decision.Takes]
    exact ⟨moved, inStep.shaped, inStep.held⟩

/-- A notice that the session ended. The browser sets its phase again where the renderer leaves an
ended state alone. -/
theorem sessionExited_outcome : Outcome native browser (.sessionExited id) := by
  have session : native.sync.sessionId = browser.sync.sessionId :=
    congrArg Baseline.sessionId inStep.baseline
  have moved : nativeBaseline { native.sync with phase := .exited } =
      browserBaseline { browser.sync with phase := .exited } :=
    congrArg (fun baseline => { baseline with phase := SyncPhase.exited }) inStep.baseline
  by_cases other : id ≠ browser.sync.sessionId
  · have nativeIs : native.handle (.sessionExited id) = (native, .rejected) := by
      simp [NativeClient.handle, Renderer.SyncState.onSessionExited, session, if_pos other]
    have browserIs : browser.handle (.sessionExited id) = (browser, .rejected) := by
      simp [BrowserClient.handle, SyncState.onSessionExited, if_pos other]
    exact kept_outcome inStep nativeIs browserIs rfl
  · have nativeIs : native.handle (.sessionExited id) =
        (⟨{ native.sync with phase := .exited }, native.held⟩, .noted) := by
      simp only [NativeClient.handle, Renderer.SyncState.onSessionExited, session, if_neg other]
      by_cases ended : native.sync.phase = .exited
      · have same : { native.sync with phase := .exited } = native.sync := by rw [← ended]
        rw [if_pos ended, ← session, same]
      · simp [if_neg ended]
    have browserIs : browser.handle (.sessionExited id) =
        (⟨{ browser.sync with phase := .exited }, browser.held⟩, .noted) := by
      simp [BrowserClient.handle, SyncState.onSessionExited, if_neg other]
    apply quiet_outcome <;> simp only [nativeIs, browserIs, Decision.Takes]
    exact ⟨moved, inStep.shaped, inStep.held⟩

/-- One event of any kind. -/
theorem event_outcome (precise : event.Exact) (valid : event.Valid) :
    Outcome native browser event := by
  cases event with
  | grid => exact grid_outcome inStep precise
  | damage => exact damage_outcome inStep precise valid
  | resyncRequired => exact resyncRequired_outcome inStep
  | sessionExited => exact sessionExited_outcome inStep

omit inStep

/-! ## Whole runs -/

/-- The clients agree at every event, each in the states that the events before it lead to. -/
def AgreeThroughout : NativeClient → BrowserClient → List SyncEvent → Prop
  | _, _, [] => True
  | native, browser, event :: rest => Agree native browser event ∧
      AgreeThroughout (native.handle event).1 (browser.handle event).1 rest

/-- No event exceeds a limit of the browser, each in the state that the events before it lead
to. -/
def BrowserClient.Never (exceeds : BrowserClient → SyncEvent → Prop) :
    BrowserClient → List SyncEvent → Prop
  | _, [] => True
  | client, event :: rest => ¬ exceeds client event ∧ Never exceeds (client.handle event).1 rest

theorem BrowserClient.Never.mono {limit exceeds : BrowserClient → SyncEvent → Prop}
    {events : List SyncEvent} (stricter : ∀ client event, exceeds client event → limit client event)
    (never : client.Never limit events) : client.Never exceeds events := by
  induction events generalizing client with
  | nil => trivial
  | cons event _ ih => exact ⟨mt (stricter client event) never.1, ih never.2⟩

/-- Clients in step agree throughout exactly when the browser never overruns the budget: at the
first event where it does, the decisions differ. -/
theorem InStep.agree_iff {events : List SyncEvent} (inStep : InStep native browser)
    (precise : ∀ event ∈ events, event.Exact) (valid : ∀ event ∈ events, event.Valid) :
    AgreeThroughout native browser events ↔ browser.Never BrowserClient.Overruns events := by
  induction events generalizing native browser with
  | nil => exact Iff.rfl
  | cons event rest ih =>
    rw [forall_mem_cons] at precise valid
    cases event_outcome inStep precise.1 valid.1 with
    | parted overruns differ =>
      exact iff_of_false (fun agreed => differ agreed.1.decision) fun within => within.1 overruns
    | together within agree after =>
      exact and_congr (iff_of_true agree within) (ih after precise.2 valid.2)

/-- The browser and the renderer, fed the same events with exact revisions and valid frames, agree
at every one of them exactly when the browser never takes a grid past the hyperlink budget. So they
do if no grid is past it, whatever the browser would decide. -/
theorem sync_machines_agree_iff (sessionId : SessionId) (nativeHeld browserHeld : GridSnapshot)
    (events : List SyncEvent) (precise : ∀ event ∈ events, event.Exact)
    (valid : ∀ event ∈ events, event.Valid) :
    (AgreeThroughout ⟨.new sessionId, nativeHeld⟩ ⟨.new sessionId, browserHeld⟩ events ↔
      BrowserClient.Never BrowserClient.Overruns ⟨.new sessionId, browserHeld⟩ events) ∧
    (BrowserClient.Never (fun client event => Overlinked client.held event)
        ⟨.new sessionId, browserHeld⟩ events →
      AgreeThroughout ⟨.new sessionId, nativeHeld⟩ ⟨.new sessionId, browserHeld⟩ events) := by
  -- Whatever grids stand in for the missing baseline.
  have fresh : InStep ⟨.new sessionId, nativeHeld⟩ ⟨.new sessionId, browserHeld⟩ :=
    ⟨rfl, fun present => absurd rfl present, fun present => absurd rfl present⟩
  have exactly := fresh.agree_iff precise valid
  exact ⟨exactly, fun within => exactly.mpr (within.mono fun _ _ => And.left)⟩

/-- The renderer's client after some events, from a fresh state. -/
def nativeAfter (sessionId : SessionId) (held : GridSnapshot) (events : List SyncEvent) :
    NativeClient :=
  events.foldl (fun client event => (client.handle event).1) ⟨.new sessionId, held⟩

/-- The browser's client after some events, from a fresh state. -/
def browserAfter (sessionId : SessionId) (held : GridSnapshot) (events : List SyncEvent) :
    BrowserClient :=
  events.foldl (fun client event => (client.handle event).1) ⟨.new sessionId, held⟩

/-- A blank cell that links somewhere. -/
def linkedCell : Cell := { blankCell with hyperlink := some "link" }

/-- A screen of one row with as many hyperlinked cells as the budget allows and one plain cell. -/
def linkedGrid : GridSnapshot :=
  { erasedScreen "g" 1 257 1 with
    rowsCells := [List.replicate 256 linkedCell ++ [blankCell]] }

/-- A frame that links the remaining cell. -/
def linkingFrame : DamageFrame where
  schema := damageSchema
  id := "s"
  generation := "g"
  baseRevision := 1
  revision := 2
  cols := 257
  rows := 1
  cursor := cursorStateOf linkedGrid
  modes := modeStateOf linkedGrid
  ops := [.rowSpan 0 256 [linkedCell]]
  rowCopy := none

/-- On the same grid and the same valid frame the renderer asks for a resync and the browser
applies the frame. -/
theorem linkingFrame_parts_clients :
    Renderer.validate linkingFrame = .ok ()
      ∧ ((nativeAfter "s" linkedGrid []).handle (.grid "s" linkedGrid)).2 = .repaint
      ∧ ((browserAfter "s" linkedGrid []).handle (.grid "s" linkedGrid)).2 = .repaint
      ∧ ((nativeAfter "s" linkedGrid [.grid "s" linkedGrid]).handle (.damage linkingFrame)).2
        = .resync
      ∧ ((browserAfter "s" linkedGrid [.grid "s" linkedGrid]).handle (.damage linkingFrame)).2
        = .applied := by
  decide +kernel

/-- The same frame over a screen without hyperlinks stays within the budget. -/
theorem sync_machines_agree_iff_linkingFrame :
    Agree (nativeAfter "s" linkedGrid [.grid "s" (erasedScreen "g" 1 257 1)])
      (browserAfter "s" linkedGrid [.grid "s" (erasedScreen "g" 1 257 1)])
      (.damage linkingFrame) := by
  have agreed := (sync_machines_agree_iff "s" linkedGrid linkedGrid
    [.grid "s" (erasedScreen "g" 1 257 1), .damage linkingFrame] (by decide +kernel)
    (by decide +kernel)).1.mpr ⟨by decide +kernel, by decide +kernel, trivial⟩
  exact agreed.2.1

end HydraTerm.Browser
