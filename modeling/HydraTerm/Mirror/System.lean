import HydraTerm.Daemon.Forwarder
import HydraTerm.Grid.TermGrid
import HydraTerm.Renderer.ViewRuns

/-!
# A session and an attached client

One daemon session, one connection to it, and the client's view at the other end. The
session's grid is advanced and resized under its lock, and every chunk of output is
published to all receivers under the same lock. On the connection run the request handler,
which handles one request at a time, and the forwarder of every attachment made so far:
detaching or attaching again aborts a forwarder, but only at its next wait, so an old one may
still send. All of them append to one queue, which the client reads in order.

A receiver may lose any number of its oldest frames. The client may ask for a snapshot at any
time, and may set aside an event that is tagged for another binding.

`past` lists every grid the session has had and is read by nothing in the system.
-/

namespace HydraTerm.Mirror

open Grid Daemon Renderer Lib

universe u
variable {ε : Type u}

/-- What the request handler of the connection is waiting to send. -/
inductive Handler where
  | idle
  | restoring (forwarder : Forwarder) (exited : Option (Option Int))
  | announcing (code : Option Int)
  | replying (grid : GridSnapshot)

/-- The session, the connection and the client. -/
structure System (ε : Type u) where
  id : SessionId
  grid : TermGrid ε
  past : List (TermGrid ε)
  exited : Option (Option Int)
  closed : Bool
  handler : Handler
  forwarders : List Forwarder
  wire : List DaemonEvent
  view : View

/-- Everything that can happen next. -/
inductive Action where
  | output (bytes : List UInt8) (notifications : List TerminalNotification)
      (fresh : SessionGeneration)
  | resize (cols rows : Nat) (fresh : SessionGeneration)
  | exit (code : Option Int)
  | close
  | attach (wantRawOutput : Bool)
  | snapshot
  | handle
  | cancel
  | forward (index : Nat)
  | lose (index count : Nat)
  | abort (index : Nat)
  | deliver (admitted : Bool)
  | setAside

variable (engine : Engine ε) (system : System ε)

/-- A freshly spawned session with a client that has not attached yet. -/
def System.new (id : SessionId) (cols rows : Nat) (generation : SessionGeneration) : System ε where
  id := id
  grid := TermGrid.newWithGeneration engine cols rows generation
  past := [TermGrid.newWithGeneration engine cols rows generation]
  exited := none
  closed := false
  handler := .idle
  forwarders := []
  wire := []
  view := View.new id

/-- A forwarder's end of the broadcast receives a frame. -/
def enqueue (frame : OutputFrame) (forwarder : Forwarder) : Forwarder :=
  { forwarder with backlog := forwarder.backlog ++ [frame] }

/-- The receiver of an attachment that is being restored exists already. -/
def Handler.enqueue (frame : OutputFrame) : Handler → Handler
  | .restoring forwarder exited => .restoring (Mirror.enqueue frame forwarder) exited
  | other => other

/-- A forwarder's receiver drops its oldest frames. -/
def loseFrames (count : Nat) (forwarder : Forwarder) : Forwarder :=
  { forwarder with backlog := forwarder.backlog.drop count, lagged := true }

/-- An aborted task. -/
def abortTask (forwarder : Forwarder) : Forwarder := { forwarder with stage := .stopped }

/-- How the session ended, as a forwarder learns it: from the exit channel, or from the latch
when the broadcast closed. -/
def System.ended : Option (Option Int) :=
  if system.closed then some system.exited.join else system.exited

/-- The pump read some output: advance the grid and publish the frame. -/
def System.onOutput (bytes : List UInt8)
    (notifications : List TerminalNotification) (fresh : SessionGeneration) : System ε :=
  let grid := system.grid.mutate engine (.advance bytes fresh)
  let frame : OutputFrame := ⟨grid.revision, bytes, notifications⟩
  { system with
    grid := grid
    past := system.past ++ [grid]
    handler := system.handler.enqueue frame
    forwarders := system.forwarders.map (enqueue frame) }

/-- The request handler's send goes through. After the restore grid the forwarder starts,
unless the session had already ended. -/
def System.onHandle : System ε :=
  match system.handler with
  | .idle => system
  | .replying grid =>
    { system with handler := .idle, wire := system.wire ++ [.grid system.id grid] }
  | .announcing code =>
    { system with handler := .idle, wire := system.wire ++ [.sessionExited system.id code] }
  | .restoring forwarder exited =>
    let restore := .grid forwarder.id forwarder.prevSnapshot.toGridSnapshot
    let sent := { system with wire := system.wire ++ [restore] }
    match exited with
    | some code => { sent with handler := .announcing code }
    | none =>
      { sent with
        handler := .idle
        forwarders := system.forwarders ++ [{ forwarder with sent := [restore] }] }

/-- A forwarder takes a step. -/
def System.onForward (index : Nat) : System ε :=
  match system.forwarders[index]? with
  | none => system
  | some forwarder =>
    let moved := forwarder.progress (system.grid.snapshot engine) system.ended
    { system with
      forwarders := system.forwarders.set index moved.1
      wire := system.wire ++ moved.2.toList }

/-- What the client's event loop makes of an event. Raw output and notifications do not
reach the view. -/
def clientEvent (admitted : Bool) : DaemonEvent → Option Event
  | .grid id grid => some (.grid id grid admitted)
  | .damage frame => some (.damage frame admitted)
  | .resyncRequired id => some (.resyncRequired id)
  | .sessionExited id _ => some (.sessionExited id)
  | _ => none

/-- The client handles the next event. -/
def System.onDeliver (admitted : Bool) : System ε :=
  match system.wire with
  | [] => system
  | event :: rest =>
    { system with
      wire := rest
      view := match clientEvent admitted event with
        | some received => system.view.handle received
        | none => system.view }

/-- One step of the system. A step that is not enabled changes nothing. -/
def System.step : Action → System ε
  | .output bytes notifications fresh => system.onOutput engine bytes notifications fresh
  | .resize cols rows fresh =>
    let grid := system.grid.mutate engine (.resize cols rows fresh)
    { system with grid := grid, past := system.past ++ [grid] }
  | .exit code => { system with exited := some code }
  | .close => { system with closed := true }
  | .attach wantRawOutput =>
    match system.handler with
    | .idle =>
      let forwarder := Forwarder.new system.id wantRawOutput (system.grid.snapshot engine)
      { system with handler := .restoring forwarder system.exited }
    | _ => system
  | .snapshot =>
    match system.handler with
    | .idle =>
      { system with handler := .replying (system.grid.snapshot engine).toGridSnapshot }
    | _ => system
  | .handle => system.onHandle
  | .cancel => { system with handler := .idle }
  | .forward index => system.onForward engine index
  | .lose index count =>
    { system with forwarders := system.forwarders.modify index (loseFrames count) }
  | .abort index => { system with forwarders := system.forwarders.modify index abortTask }
  | .deliver admitted => system.onDeliver admitted
  | .setAside => { system with wire := system.wire.tail }

/-- Equal stamps vouch for the cells between any two grids the session has had. -/
def StampsSoundIn (past : List (TermGrid ε)) : Prop :=
  ∀ earlier ∈ past, ∀ later ∈ past, earlier.revision < later.revision →
    StampsSound (earlier.snapshot engine) (later.snapshot engine)
  deriving Decidable

/-- Steps of an interleaving in which no revision reaches the ceiling and row stamps are
sound. -/
def SoundStep (before : System ε) (action : Action) (after : System ε) : Prop :=
  after = before.step engine action ∧ before.grid.revision + 1 < u64Ceiling
    ∧ StampsSoundIn engine after.past

/-- The conditions of a sound step, checked. -/
def soundCheck (system : System ε) (action : Action) : Bool :=
  decide (system.grid.revision + 1 < u64Ceiling)
    && decide (StampsSoundIn engine (system.step engine action).past)

theorem soundStep_of_check (system : System ε) (action : Action)
    (checked : soundCheck engine system action = true) :
    SoundStep engine system action (system.step engine action) := by
  obtain ⟨below, stamps⟩ := Bool.and_eq_true_iff.mp checked
  exact ⟨rfl, of_decide_eq_true below, of_decide_eq_true stamps⟩

end HydraTerm.Mirror
