import HydraTerm.Mirror.Invariant

/-!
# The end of a session, as its attachments learn of it

The pump of a session reads output, and for every chunk advances the grid and publishes a frame, both
under the grid's lock. At the end of the output it reaps the child, sets the exit latch, broadcasts the
exit and is done. The session may be removed at any time; the two channels close when it is removed
and the pump is done.

An attachment subscribes to both channels and takes its snapshot under the grid's lock. The latch is
not under that lock, so it is inspected in a step of its own, during which no output is published.
Then the restore grid is sent. An attachment that saw the latch announces the exit; any other starts
its task.

The task waits for output and for the exit. It looks at the receivers one after the other, output
first, and goes back to the beginning when neither has anything. Between the two looks the pump may
run. That the output receiver has lost frames is one observation, and the snapshot taken in answer is
another.

`past`, `frames` and `received` record what has happened and are read by nothing in the system.
-/

namespace HydraTerm.Exit

open Grid Daemon Lib

universe u
variable {ε : Type u}

/-- What a waiting task does next: look at the output receiver, look at the exit receiver, or take a
snapshot because frames were lost. -/
inductive Looking where
  | output | exit | resync
  deriving DecidableEq

/-- Where an attachment is: its restore grid is to be sent, the exit that it found latched is to be
sent, it is done without a task, or its task runs. -/
inductive Phase where
  | restoring (alreadyExited : Option (Option Int))
  | announcing (code : Option Int)
  | announced
  | forwarding (looking : Looking)
  deriving DecidableEq

/-- One attachment. The task's `backlog` and `lagged` are its output receiver. -/
structure Attachment where
  task : Forwarder
  snapshotRevision : Nat
  exitReceiver : Option (Option Int)
  received : List OutputFrame
  phase : Phase
  deriving DecidableEq

/-- A session and its attachments. `attaching` holds the grid's lock. -/
structure System (ε : Type u) where
  id : SessionId
  grid : TermGrid ε
  past : List (TermGrid ε)
  frames : List OutputFrame
  exited : Option (Option Int)
  exitSent : Bool
  pumpDone : Bool
  removed : Bool
  attaching : Option Attachment
  attachments : List Attachment

/-- Everything that can happen next. -/
inductive Action where
  | publish (bytes : List UInt8) (notifications : List TerminalNotification)
      (fresh : SessionGeneration)
  | resize (cols rows : Nat) (fresh : SessionGeneration)
  | latch (code : Option Int)
  | broadcastExit
  | endPump
  | remove
  | subscribe (wantRawOutput : Bool)
  | inspect
  | advance (index : Nat)
  deriving DecidableEq

variable (engine : Engine ε) (system : System ε) (attachment : Attachment)

/-- A session that was just spawned. -/
def System.new (id : SessionId) (cols rows : Nat) (generation : SessionGeneration) : System ε where
  id := id
  grid := TermGrid.newWithGeneration engine cols rows generation
  past := [TermGrid.newWithGeneration engine cols rows generation]
  frames := []
  exited := none
  exitSent := false
  pumpDone := false
  removed := false
  attaching := none
  attachments := []

/-- Messages that the output channel keeps. -/
def outputCapacity : Nat := 1024

/-- The output receiver gets a frame; if the channel is full the oldest one is gone. -/
def Attachment.publish (frame : OutputFrame) (attachment : Attachment) : Attachment :=
  let backlog := attachment.task.backlog ++ [frame]
  { attachment with task := { attachment.task with
      backlog := backlog.drop (backlog.length - outputCapacity)
      lagged := attachment.task.lagged || decide (backlog.length > outputCapacity) } }

/-- The exit receiver gets the exit. -/
def Attachment.notifyExit (code : Option Int) (attachment : Attachment) : Attachment :=
  { attachment with exitReceiver := some code }

/-- The task sends the exit and stops. -/
def Attachment.finish (code : Option Int) : Attachment :=
  { attachment with task := { attachment.task with
      stage := .finishing [.sessionExited attachment.task.id code] } }

/-- The next look of a waiting task. `closed` is that both channels have no sender left. -/
def Attachment.look (cur : StampedSnapshot)
    (exited : Option (Option Int)) (closed : Bool) : Looking → Attachment
  | .output =>
    if attachment.task.lagged then
      { attachment with
        task := { attachment.task with lagged := false }, phase := .forwarding .resync }
    else
      match attachment.task.backlog with
      | frame :: rest =>
        { attachment with
          task := { attachment.task with backlog := rest }.onFrame frame
          received := attachment.received ++ [frame] }
      | [] =>
        -- The receiver of a closed channel says so, and the code is in the latch.
        if closed then attachment.finish exited.join
        else { attachment with phase := .forwarding .exit }
  | .exit =>
    match attachment.exitReceiver with
    | some code => attachment.finish code
    | none =>
      if closed then attachment.finish none else { attachment with phase := .forwarding .output }
  | .resync =>
    { attachment with task := attachment.task.onLagged cur, phase := .forwarding .output }

/-- A send of the attachment's request handler. -/
def Attachment.send (event : DaemonEvent) (phase : Phase) : Attachment :=
  { attachment with
    task := { attachment.task with sent := attachment.task.sent ++ [event] }, phase := phase }

/-- One step of an attachment: a send, or what its handler or task does between two waits. -/
def Attachment.progress (cur : StampedSnapshot)
    (exited : Option (Option Int)) (closed : Bool) : Attachment :=
  match attachment.phase with
  | .restoring alreadyExited =>
    attachment.send
      (.grid attachment.task.id attachment.task.prevSnapshot.toGridSnapshot)
      (match alreadyExited with
        | some code => .announcing code
        | none => .forwarding .output)
  | .announcing code =>
    attachment.send (.sessionExited attachment.task.id code) .announced
  | .announced => attachment
  | .forwarding looking =>
    if attachment.task.stage = .receiving then attachment.look cur exited closed looking
    else { attachment with task := (attachment.task.progress cur none).1 }

/-- Both channels have lost their senders. -/
def System.closed : Bool := system.removed && system.pumpDone

/-- The first half of `attach_state`: subscribe to both channels and take the snapshot. -/
def System.subscribe (wantRawOutput : Bool) : System ε :=
  let snapshot := system.grid.snapshot engine
  { system with attaching := some {
      task := Forwarder.new system.id wantRawOutput snapshot
      snapshotRevision := snapshot.revision
      exitReceiver := none
      received := []
      phase := .restoring none } }

/-- The pump has read some output. -/
def System.publish (bytes : List UInt8)
    (notifications : List TerminalNotification) (fresh : SessionGeneration) : System ε :=
  let grid := system.grid.mutate engine (.advance bytes fresh)
  let frame : OutputFrame := ⟨grid.revision, bytes, notifications⟩
  { system with
    grid := grid
    past := system.past ++ [grid]
    frames := system.frames ++ [frame]
    attachments := system.attachments.map (Attachment.publish frame) }

/-- One step of the system. A step that is not enabled changes nothing. -/
def System.step : Action → System ε
  | .publish bytes notifications fresh =>
    -- A read of no bytes is the end of the output.
    if system.exited = none ∧ system.attaching = none ∧ bytes ≠ [] then
      system.publish engine bytes notifications fresh
    else system
  | .resize cols rows fresh =>
    if system.attaching = none then
      let grid := system.grid.mutate engine (.resize cols rows fresh)
      { system with grid := grid, past := system.past ++ [grid] }
    else system
  | .latch code => if system.exited = none then { system with exited := some code } else system
  | .broadcastExit =>
    match system.exited with
    | some code =>
      if system.exitSent then system
      else
        { system with
          exitSent := true
          attaching := system.attaching.map (Attachment.notifyExit code)
          attachments := system.attachments.map (Attachment.notifyExit code) }
    | none => system
  | .endPump => if system.exitSent then { system with pumpDone := true } else system
  | .remove => if system.attaching = none then { system with removed := true } else system
  | .subscribe wantRawOutput =>
    if system.attaching = none ∧ system.removed = false then system.subscribe engine wantRawOutput
    else system
  | .inspect =>
    match system.attaching with
    | some attachment =>
      { system with
        attaching := none
        attachments :=
          system.attachments ++ [{ attachment with phase := .restoring system.exited }] }
    | none => system
  | .advance index =>
    { system with attachments := system.attachments.modify index (fun attachment =>
        attachment.progress (system.grid.snapshot engine) system.exited system.closed) }

/-! ## What a client is shown -/

/-- The event ends the session for its client. -/
def isExit : DaemonEvent → Bool
  | .sessionExited _ _ => true
  | _ => false

/-- The event is a bell, a title or a clipboard text. -/
def isNotice : DaemonEvent → Bool
  | .terminalBell _ | .terminalTitle _ _ | .terminalClipboardStore _ _ => true
  | _ => false

/-- The notifications of a frame as events. -/
def noticesOf (id : SessionId) (frame : OutputFrame) : List DaemonEvent :=
  frame.notifications.map (notificationEvent id)

/-- `Displays published events shown`: events, the latest first, leave their client with this screen.
A grid shows itself, damage leads on from the screen before it, and other events change nothing. -/
def Displays (published : StampedSnapshot → Prop) : List DaemonEvent → StampedSnapshot → Prop
  | [], _ => False
  | .grid _ screen :: _, shown => published shown ∧ screen = shown.toGridSnapshot
  | .damage frame :: earlier, shown => published shown ∧ ∃ prev generated,
      Displays published earlier prev ∧ generateDamage prev shown = .frame generated
        ∧ frame = { generated with id := frame.id }
  | _ :: earlier, shown => Displays published earlier shown

/-- A client with this screen has the session up to a revision: the screen is one of at least that
revision, or the session's differs in nothing that damage could carry. -/
def Covers (published : StampedSnapshot → Prop) (shown : StampedSnapshot) (revision : Nat) : Prop :=
  ∃ cur, published cur ∧ revision ≤ cur.revision
    ∧ (cur = shown ∨ generateDamage shown cur = .noChange)

/-- The frame is reflected in what was sent. -/
def Reflected (sent : List DaemonEvent) (frame : OutputFrame) : Prop :=
  ∃ shown, Displays (Mirror.Published engine system.past) sent.reverse shown
    ∧ Covers (Mirror.Published engine system.past) shown frame.revision

end HydraTerm.Exit
