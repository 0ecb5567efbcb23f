import HydraTerm.Grid.Rendering
import HydraTerm.Mirror.System
import HydraTerm.Renderer.Reconstruct

/-!
# The client's screen is one the session had

The invariant of the whole system: the session never had two grids at one revision, what
the forwarders hold and everything in flight is taken from the grids it had, and the
client's painted grid shows the one at its current generation and revision. Each part has
its own step lemma; damage meets the client's screen in the last.
-/

namespace HydraTerm.Mirror

open Grid Daemon Renderer Lib List

universe u
variable {ε : Type u} {past : List (TermGrid ε)} (engine : Engine ε) (grid : TermGrid ε)

/-- The screens the session has had. -/
def Published (engine : Engine ε) (past : List (TermGrid ε)) (snapshot : StampedSnapshot) : Prop :=
  ∃ grid ∈ past, snapshot = grid.snapshot engine

/-- The grids of one lifetime: one generation, one grid at each revision, in bounds. -/
structure PastInv (grid : TermGrid ε) (past : List (TermGrid ε)) : Prop where
  current : grid ∈ past
  lifetime : ∀ earlier ∈ past, earlier.generation = grid.generation
  ordered : ∀ earlier ∈ past, earlier.revision ≤ grid.revision
  unique : ∀ left ∈ past, ∀ right ∈ past, left.revision = right.revision → left = right
  bounded : ∀ earlier ∈ past,
    earlier.cols ≤ gridMaxDimension ∧ earlier.rows ≤ gridMaxDimension

/-- A clamped dimension is in bounds. -/
theorem clampDim_le (requested : Nat) : clampDim requested ≤ gridMaxDimension := by
  unfold clampDim gridMaxDimension
  omega

/-- A new grid is the only one so far. -/
theorem pastInv_new (cols rows : Nat) (generation : SessionGeneration) :
    PastInv (TermGrid.newWithGeneration engine cols rows generation)
      [TermGrid.newWithGeneration engine cols rows generation] where
  current := mem_cons_self
  lifetime := forall_mem_singleton.mpr rfl
  ordered := forall_mem_singleton.mpr (le_refl _)
  unique := forall_mem_singleton.mpr (forall_mem_singleton.mpr fun _ => rfl)
  bounded := forall_mem_singleton.mpr ⟨clampDim_le cols, clampDim_le rows⟩

/-- Below the ceiling a mutation changes nothing, or moves to the next revision of the same
generation with dimensions in bounds. -/
theorem mutate_revision (mutation : Mutation) (below : grid.revision + 1 < u64Ceiling)
    (bounded : grid.cols ≤ gridMaxDimension ∧ grid.rows ≤ gridMaxDimension) :
    grid.mutate engine mutation = grid
      ∨ ((grid.mutate engine mutation).generation = grid.generation
        ∧ (grid.mutate engine mutation).revision = grid.revision + 1
        ∧ (grid.mutate engine mutation).cols ≤ gridMaxDimension
        ∧ (grid.mutate engine mutation).rows ≤ gridMaxDimension) := by
  have next : nextRevision grid.revision = some (grid.revision + 1) := if_pos below
  cases mutation with
  | advance =>
    simp only [TermGrid.mutate, TermGrid.advance]
    split
    · exact .inl rfl
    · right
      simp only [TermGrid.collectRowDamage, TermGrid.bumpRevision, next]
      exact ⟨trivial, trivial, bounded⟩
  | resize cols rows =>
    simp only [TermGrid.mutate, TermGrid.resize]
    split
    · exact .inl rfl
    · right
      simp only [TermGrid.collectRowDamage, TermGrid.bumpRevision, next]
      exact ⟨trivial, trivial, clampDim_le cols, clampDim_le rows⟩

/-- A mutation extends the past by a grid that is already there or newer than all of it. -/
theorem PastInv.mutate {grid : TermGrid ε}
    (inv : PastInv grid past) (mutation : Mutation) (below : grid.revision + 1 < u64Ceiling) :
    PastInv (grid.mutate engine mutation) (past ++ [grid.mutate engine mutation]) := by
  rcases mutate_revision engine grid mutation below (inv.bounded grid inv.current) with
    same | ⟨generation, revision, cols, rows⟩
  · rw [same]
    have member : past ++ [grid] ⊆ past :=
      append_subset.mpr ⟨fun _ => id, cons_subset.mpr ⟨inv.current, nil_subset _⟩⟩
    refine ⟨mem_append_left _ inv.current, ?_, ?_, ?_, ?_⟩
    · exact fun earlier found => inv.lifetime earlier (member found)
    · exact fun earlier found => inv.ordered earlier (member found)
    · exact fun left foundLeft right foundRight =>
        inv.unique left (member foundLeft) right (member foundRight)
    · exact fun earlier found => inv.bounded earlier (member found)
  · have cases {other : TermGrid ε} (found : other ∈ past ++ [grid.mutate engine mutation]) :
        other ∈ past ∨ other = grid.mutate engine mutation := by simpa using found
    refine ⟨mem_append_right _ mem_cons_self, ?_, ?_, ?_, ?_⟩
    · intro earlier found
      rcases cases found with old | rfl
      · rw [inv.lifetime earlier old, generation]
      · rfl
    · intro earlier found
      rcases cases found with old | rfl
      · have := inv.ordered earlier old
        omega
      · exact le_refl _
    · intro left foundLeft right foundRight sameRevision
      rcases cases foundLeft with oldLeft | rfl
      · rcases cases foundRight with oldRight | rfl
        · exact inv.unique left oldLeft right oldRight sameRevision
        · have := inv.ordered left oldLeft
          omega
      · rcases cases foundRight with oldRight | rfl
        · have := inv.ordered right oldRight
          omega
        · rfl
    · intro earlier found
      rcases cases found with old | rfl
      · exact inv.bounded earlier old
      · exact ⟨cols, rows⟩

/-- What the request handler holds is taken from the session. -/
def HandlerSound (published : StampedSnapshot → Prop) : Handler → Prop
  | .idle => True
  | .announcing _ => True
  | .replying grid => ∃ snapshot, published snapshot ∧ grid = snapshot.toGridSnapshot
  | .restoring forwarder _ => published forwarder.prevSnapshot ∧ forwarder.stage = .receiving

/-- The daemon's side: the past, the tasks, and everything in flight. -/
structure DaemonInv (engine : Engine ε) (system : System ε) : Prop where
  past : PastInv system.grid system.past
  handler : HandlerSound (Published engine system.past) system.handler
  forwarders : ∀ forwarder ∈ system.forwarders,
    forwarder.Sound (Published engine system.past)
  wire : ∀ event ∈ system.wire, Genuine (Published engine system.past) event

/-- The client's side: its current pair is painted, and the painted grid shows one of the
session's screens. -/
structure ClientInv (engine : Engine ε) (system : System ε) : Prop where
  view : ViewInv system.view
  mirrors : ∀ held, system.view.held = some held → ∃ grid ∈ system.past,
    grid.generation = held.generation ∧ grid.revision = held.revision
      ∧ screenOf held = screenOf (grid.snapshot engine).toGridSnapshot

/-- A grown past has all the screens it had. -/
theorem Published.append {engine : Engine ε} {snapshot : StampedSnapshot}
    (known : Published engine past snapshot) : Published engine (past ++ [grid]) snapshot := by
  obtain ⟨earlier, member, same⟩ := known
  exact ⟨earlier, mem_append_left _ member, same⟩

variable {published : StampedSnapshot → Prop} {handler : Handler} {forwarders : List Forwarder}

/-- What the handler holds stays genuine, also when its receiver gets a frame. -/
theorem HandlerSound.mono {later : StampedSnapshot → Prop}
    (grows : ∀ {snapshot}, published snapshot → later snapshot)
    (sound : HandlerSound published handler) : HandlerSound later handler := by
  cases handler with
  | idle | announcing code => trivial
  | replying =>
    obtain ⟨snapshot, known, same⟩ := sound
    exact ⟨snapshot, grows known, same⟩
  | restoring => exact ⟨grows sound.1, sound.2⟩

theorem HandlerSound.enqueue (frame : OutputFrame) (sound : HandlerSound published handler) :
    HandlerSound published (handler.enqueue frame) := by
  cases handler with
  | restoring => exact sound
  | _ => exact sound

/-- Changing a forwarder's end of the broadcast keeps every forwarder sound. -/
theorem sound_modify (sound : ∀ forwarder ∈ forwarders, forwarder.Sound published) (index : Nat)
    {change : Forwarder → Forwarder}
    (keeps : ∀ {forwarder}, Forwarder.Sound published forwarder → (change forwarder).Sound published)
    : ∀ forwarder ∈ forwarders.modify index change, forwarder.Sound published := by
  intro forwarder member
  obtain ⟨_, found⟩ := mem_iff_getElem?.mp member
  rw [getElem?_modify] at found
  split at found
  · obtain ⟨old, located, rfl⟩ := Option.map_eq_some_iff.mp found
    exact keeps (sound old (mem_of_getElem? located))
  · obtain ⟨old, located, rfl⟩ := Option.map_eq_some_iff.mp found
    exact sound old (mem_of_getElem? located)

section Steps

variable {engine} {system : System ε}

/-- A mutation that publishes to the receivers, or to none, keeps the daemon's invariant. -/
theorem DaemonInv.mutate (inv : DaemonInv engine system) (mutation : Mutation)
    (below : system.grid.revision + 1 < u64Ceiling)
    (sameHandler : HandlerSound (Published engine system.past) handler)
    (sameForwarders : ∀ forwarder ∈ forwarders, forwarder.Sound (Published engine system.past)) :
    DaemonInv engine { system with
      grid := system.grid.mutate engine mutation
      past := system.past ++ [system.grid.mutate engine mutation]
      handler := handler
      forwarders := forwarders } where
  past := inv.past.mutate engine mutation below
  handler := sameHandler.mono (fun known => known.append _)
  forwarders := fun forwarder member =>
    (sameForwarders forwarder member).mono (fun known => known.append _)
  wire := fun event member => (inv.wire event member).mono (fun known => known.append _)

/-- The handler's sends keep the daemon's invariant. -/
theorem DaemonInv.handle (inv : DaemonInv engine system) : DaemonInv engine system.onHandle := by
  have sound := inv.handler
  have queued {event : DaemonEvent} (genuine : Genuine (Published engine system.past) event) :
      ∀ other ∈ system.wire ++ [event], Genuine (Published engine system.past) other :=
    forall_mem_append.mpr ⟨inv.wire, forall_mem_singleton.mpr genuine⟩
  unfold System.onHandle
  split
  · exact inv
  next _ replying =>
    rw [replying] at sound
    exact ⟨inv.past, trivial, inv.forwarders, queued sound⟩
  next _ _ => exact ⟨inv.past, trivial, inv.forwarders, queued trivial⟩
  next _ _ restoring =>
    rw [restoring] at sound
    obtain ⟨held, receiving⟩ := sound
    split
    · exact ⟨inv.past, trivial, inv.forwarders, queued ⟨_, held, rfl⟩⟩
    · refine ⟨inv.past, trivial, forall_mem_append.mpr ⟨inv.forwarders,
        forall_mem_singleton.mpr ⟨held, ?_⟩⟩, queued ⟨_, held, rfl⟩⟩
      rw [receiving]
      exact .receiving rfl

/-- A forwarder's step keeps the daemon's invariant. -/
theorem DaemonInv.forward (inv : DaemonInv engine system) (index : Nat) :
    DaemonInv engine (system.onForward engine index) := by
  have present : Published engine system.past (system.grid.snapshot engine) :=
    ⟨system.grid, inv.past.current, rfl⟩
  unfold System.onForward
  split
  · exact inv
  next forwarder located =>
    have sound := inv.forwarders forwarder (mem_of_getElem? located)
    obtain ⟨moved, genuine⟩ := progress_sound system.ended sound present
    refine ⟨inv.past, inv.handler, ?_, forall_mem_append.mpr ⟨inv.wire, ?_⟩⟩
    · intro other member
      rcases mem_or_eq_of_mem_set member with old | rfl
      · exact inv.forwarders other old
      · exact moved
    · intro event member
      exact genuine event (Option.mem_toList.mp member)

variable {after : System ε} {admitted : Bool} {event : DaemonEvent} {action : Action}
  {request : Bool}

/-- Every step keeps the daemon's invariant. -/
theorem daemonInv_step (step : SoundStep engine system action after) (inv : DaemonInv engine system)
    : DaemonInv engine after := by
  obtain ⟨rfl, below, _⟩ := step
  have present : Published engine system.past (system.grid.snapshot engine) :=
    ⟨system.grid, inv.past.current, rfl⟩
  cases action with
  | output bytes _ fresh =>
    refine inv.mutate (.advance bytes fresh) below (inv.handler.enqueue _) ?_
    intro forwarder member
    obtain ⟨old, found, rfl⟩ := mem_map.mp member
    exact ⟨(inv.forwarders old found).held, (inv.forwarders old found).stage⟩
  | resize cols rows fresh =>
    exact inv.mutate (.resize cols rows fresh) below inv.handler inv.forwarders
  | exit code | close => exact ⟨inv.past, inv.handler, inv.forwarders, inv.wire⟩
  | attach =>
    simp only [System.step]
    split
    · exact ⟨inv.past, ⟨present, rfl⟩, inv.forwarders, inv.wire⟩
    · exact inv
  | snapshot =>
    simp only [System.step]
    split
    · exact ⟨inv.past, ⟨_, present, rfl⟩, inv.forwarders, inv.wire⟩
    · exact inv
  | handle => exact inv.handle
  | cancel => exact ⟨inv.past, trivial, inv.forwarders, inv.wire⟩
  | forward index => exact inv.forward index
  | lose index =>
    refine ⟨inv.past, inv.handler, sound_modify inv.forwarders index ?_, inv.wire⟩
    exact fun sound => ⟨sound.held, sound.stage⟩
  | abort index =>
    refine ⟨inv.past, inv.handler, sound_modify inv.forwarders index ?_, inv.wire⟩
    exact fun sound => ⟨sound.held, .stopped⟩
  | deliver =>
    simp only [System.step, System.onDeliver]
    split
    · exact inv
    next event _ queued =>
      refine ⟨inv.past, inv.handler, inv.forwarders, ?_⟩
      intro other member
      exact inv.wire other (queued ▸ mem_cons_of_mem event member)
  | setAside =>
    refine ⟨inv.past, inv.handler, inv.forwarders, ?_⟩
    exact fun other member => inv.wire other (mem_of_mem_tail member)

/-- Two grids of one lifetime and size have screens of one shape. -/
theorem sameShape_snapshots (engine : Engine ε) {prev next : TermGrid ε}
    (bounded : next.cols ≤ gridMaxDimension ∧ next.rows ≤ gridMaxDimension)
    (cols : prev.cols = next.cols) (rows : prev.rows = next.rows) :
    SameShape (prev.snapshot engine).rowsCells (next.snapshot engine).rowsCells
      (next.snapshot engine).cols := by
  obtain ⟨narrow, short⟩ := bounded
  unfold gridMaxDimension at narrow short
  refine ⟨?_, ?_, ?_, ?_, ?_⟩
  · rw [snapshot_height, snapshot_height, rows]
  · exact fun row member => (snapshot_width engine prev member).trans cols
  · exact fun row member => snapshot_width engine next member
  · exact lt_of_le_of_lt narrow (by decide)
  · rw [snapshot_height]
    omega

/-- Only a grid event reaches the view as a grid. -/
theorem clientEvent_grid {id : SessionId} {snap : GridSnapshot}
    (read : clientEvent admitted event = some (.grid id snap request)) : event = .grid id snap := by
  cases event <;> simp_all [clientEvent]

/-- Only a damage event reaches it as damage. -/
theorem clientEvent_damage {frame : DamageFrame}
    (read : clientEvent admitted event = some (.damage frame request)) : event = .damage frame := by
  cases event <;> simp_all [clientEvent]

/-- Handling a genuine event keeps the client's screen one the session had. -/
theorem mirrors_handle (past : PastInv system.grid system.past)
    (stamps : StampsSoundIn engine system.past) (inv : ClientInv engine system)
    (genuine : Genuine (Published engine system.past) event) {received : Event}
    (read : clientEvent admitted event = some received) :
    ∀ held, (system.view.handle received).held = some held → ∃ grid ∈ system.past,
      grid.generation = held.generation ∧ grid.revision = held.revision
        ∧ screenOf held = screenOf (grid.snapshot engine).toGridSnapshot := by
  intro held painted
  have change := handle_change system.view received
  cases change with
  | kept same => exact inv.mirrors held (same.held ▸ painted)
  | adopted _ arrived _ _ _ _ _ _ adopted =>
    obtain ⟨_, _, rfl⟩ := arrived
    rw [clientEvent_grid read] at genuine
    obtain ⟨_, ⟨grid, member, rfl⟩, rfl⟩ := genuine
    rw [adopted] at painted
    cases painted
    exact ⟨grid, member, rfl, rfl, rfl⟩
  | applied frame base result arrived holding applicable _ _ _ _ shown =>
    obtain ⟨_, rfl⟩ := arrived
    rw [clientEvent_damage read] at genuine
    obtain ⟨_, _, _, ⟨prev, inPrev, rfl⟩, ⟨next, inNext, rfl⟩, produced, labelled⟩ := genuine
    obtain ⟨_, cols, rows, advances, _, framed, _⟩ := generateDamage_frame produced
    obtain ⟨shownGrid, member, _, sameRevision, baseShown⟩ := inv.mirrors base holding
    -- The frame continues from the client's current pair, which is the base it has painted;
    -- the session had one grid at that revision, so the base shows the frame's own source.
    have pair : (frame.generation, frame.baseRevision) = (base.generation, base.revision) := by
      have currentPair := inv.view.painted
      rw [applicable.continues, holding, Option.map_some] at currentPair
      exact Option.some.inj currentPair
    obtain ⟨sameGeneration, sameBase⟩ := Prod.mk.inj pair
    have frameBase : frame.baseRevision = prev.revision := by
      rw [labelled, framed]
      rfl
    have source : shownGrid = prev :=
      past.unique shownGrid member prev inPrev (by rw [sameRevision, ← sameBase, frameBase])
    subst source
    have shows : screenOf result = screenOf (next.snapshot engine).toGridSnapshot := by
      have result_eq := applicable.result
      rw [labelled] at result_eq
      exact applied_shows (sameShape_snapshots engine (past.bounded next inNext) cols rows)
        (stamps shownGrid inPrev next inNext advances) baseShown produced result_eq
    obtain ⟨_, _, built, _⟩ := applyFrame_applied applicable.result
    have header : frame.generation = next.generation ∧ frame.revision = next.revision := by
      rw [labelled, framed]
      exact ⟨rfl, rfl⟩
    rw [shown] at painted
    cases painted
    refine ⟨next, inNext, ?_, ?_, shows⟩
    · rw [built]
      exact header.1.symm.trans sameGeneration
    · rw [built]
      exact header.2.symm

/-- A step that leaves the view alone keeps the client's invariant. -/
theorem ClientInv.keep (inv : ClientInv engine system) (view : after.view = system.view)
    (past : ∀ grid ∈ system.past, grid ∈ after.past) : ClientInv engine after := by
  refine ⟨view ▸ inv.view, ?_⟩
  intro held painted
  obtain ⟨grid, member, rest⟩ := inv.mirrors held (view ▸ painted)
  exact ⟨grid, past grid member, rest⟩

/-- The client's step keeps its invariant. -/
theorem ClientInv.deliver (daemon : DaemonInv engine system) (inv : ClientInv engine system)
    (stamps : StampsSoundIn engine system.past) (admitted : Bool) :
    ClientInv engine (system.onDeliver admitted) := by
  unfold System.onDeliver
  split
  · exact inv
  next event _ queued =>
    have genuine := daemon.wire event (queued ▸ mem_cons_self)
    cases read : clientEvent admitted event with
    | none => exact ⟨inv.view, inv.mirrors⟩
    | some received =>
      exact ⟨(handle_change system.view received).inv inv.view,
        mirrors_handle daemon.past stamps inv genuine read⟩

/-- Every step keeps the client's invariant. -/
theorem clientInv_step
    (step : SoundStep engine system action after) (daemon : DaemonInv engine system)
    (inv : ClientInv engine system) : ClientInv engine after := by
  obtain ⟨rfl, _, stamps⟩ := step
  have grows (grid : TermGrid ε) : ∀ earlier ∈ system.past, earlier ∈ system.past ++ [grid] :=
    fun earlier member => mem_append_left _ member
  have same : ∀ grid ∈ system.past, grid ∈ system.past := fun grid member => member
  cases action with
  | output bytes notifications fresh | resize cols rows fresh => exact inv.keep rfl (grows _)
  | exit code | close => exact inv.keep rfl same
  | attach wantRawOutput | snapshot =>
    simp only [System.step]
    split
    · exact inv.keep rfl same
    · exact inv
  | handle =>
    simp only [System.step, System.onHandle]
    split
    · exact inv
    · exact inv.keep rfl same
    · exact inv.keep rfl same
    · split
      · exact inv.keep rfl same
      · exact inv.keep rfl same
  | cancel => exact inv.keep rfl same
  | forward =>
    simp only [System.step, System.onForward]
    split
    · exact inv
    · exact inv.keep rfl same
  | lose index count | abort index => exact inv.keep rfl same
  | deliver admitted =>
    have unchanged : (system.onDeliver admitted).past = system.past := by
      unfold System.onDeliver
      split <;> rfl
    simp only [System.step, unchanged] at stamps
    exact inv.deliver daemon stamps admitted
  | setAside => exact inv.keep rfl same

end Steps

end HydraTerm.Mirror
