import HydraTerm.Grid.GeneratedFrames

/-!
# The forwarder of one attachment

Each attachment owns a task that turns published output into events for its client. It
receives output frames from a lossy broadcast, keeps the snapshot the client is known to
hold, and answers a frame with the difference to a fresh snapshot. When a difference cannot
be expressed, or frames were lost, it ships a whole grid instead.

Every send waits for a queue slot, so a snapshot reply or another attachment's event can
come between any two of them. `Stage` records where the task waits and which events it still
has to send; the snapshot it diffs against is read only after the events before it are out.
`sent` is a record of the events sent so far that the task itself never reads.

The exit channel, and the close of the broadcast when the session is dropped, both end the
task with one exit event. Base64 coding of raw output is left out.
-/

namespace HydraTerm.Daemon

open Grid List

/-- A side effect of output that is not part of the grid. -/
inductive TerminalNotification where
  | bell
  | title (title : Option String)
  | clipboardStore (text : String)
  deriving DecidableEq

/-- One published chunk of output. -/
structure OutputFrame where
  revision : Nat
  bytes : List UInt8
  notifications : List TerminalNotification
  deriving DecidableEq

/-- The events about one session that a connection carries. -/
inductive DaemonEvent where
  | grid (id : SessionId) (grid : GridSnapshot)
  | damage (frame : DamageFrame)
  | output (id : SessionId) (generation : SessionGeneration) (revision : Nat) (data : List UInt8)
  | resyncRequired (id : SessionId)
  | sessionExited (id : SessionId) (code : Option Int)
  | terminalBell (id : SessionId)
  | terminalTitle (id : SessionId) (title : Option String)
  | terminalClipboardStore (id : SessionId) (text : String)
  deriving DecidableEq

/-- Cap on clipboard text, in bytes. -/
def maxOsc52Bytes : Nat := 64 * 1024

/-- Longest run of characters that fits in `room` bytes. -/
def truncateChars : Nat → List Char → List Char
  | _, [] => []
  | room, char :: rest =>
    if char.utf8Size > room then [] else char :: truncateChars (room - char.utf8Size) rest

/-- The event for a notification. -/
def notificationEvent (id : SessionId) : TerminalNotification → DaemonEvent
  | .bell => .terminalBell id
  | .title title => .terminalTitle id title
  | .clipboardStore text =>
    .terminalClipboardStore id (String.ofList (truncateChars maxOsc52Bytes text.toList))

/-- Where the task waits, with the events it still has to send there. -/
inductive Stage where
  | receiving
  | relaying (events : List DaemonEvent) (diff : Bool)
  | publishing (events : List DaemonEvent) (cur : StampedSnapshot)
  | finishing (events : List DaemonEvent)
  | stopped
  deriving DecidableEq

/-- Events still to be sent at a stage. -/
def Stage.pending : Stage → List DaemonEvent
  | .relaying events _ | .publishing events _ | .finishing events => events
  | .receiving | .stopped => []

/-- The stage with its first event out. -/
def Stage.advance : Stage → Stage
  | .relaying events diff => .relaying events.tail diff
  | .publishing events cur => .publishing events.tail cur
  | .finishing events => .finishing events.tail
  | .receiving => .receiving
  | .stopped => .stopped

/-- The forwarder of one attachment. `backlog` and `lagged` are its end of the broadcast. -/
structure Forwarder where
  id : SessionId
  wantRawOutput : Bool
  generation : SessionGeneration
  prevSnapshot : StampedSnapshot
  baselineRevision : Nat
  notificationsThroughRevision : Nat
  backlog : List OutputFrame
  lagged : Bool
  stage : Stage
  sent : List DaemonEvent
  deriving DecidableEq

/-- The task for an attachment restored from `snapshot`, before anything is sent. -/
def Forwarder.new (id : SessionId) (wantRawOutput : Bool) (snapshot : StampedSnapshot) :
    Forwarder where
  id := id
  wantRawOutput := wantRawOutput
  generation := snapshot.generation
  prevSnapshot := snapshot
  baselineRevision := snapshot.revision
  notificationsThroughRevision := snapshot.revision
  backlog := []
  lagged := false
  stage := .receiving
  sent := []

variable (forwarder : Forwarder) (cur : StampedSnapshot) (ended : Option (Option Int))

/-- An output frame arrives. Its notifications go out unless they were sent before; its
content is diffed, after the raw bytes where the client wants them, unless the baseline
already covers it. -/
def Forwarder.onFrame (frame : OutputFrame) : Forwarder :=
  let unseen := decide (frame.revision > forwarder.notificationsThroughRevision)
  let notices :=
    if unseen then frame.notifications.map (notificationEvent forwarder.id) else []
  let noted := { forwarder with
    notificationsThroughRevision :=
      if unseen then frame.revision else forwarder.notificationsThroughRevision }
  if frame.revision ≤ forwarder.baselineRevision then
    { noted with stage := .relaying notices false }
  else
    let raw := if forwarder.wantRawOutput then
        [.output forwarder.id forwarder.generation frame.revision frame.bytes]
      else []
    { noted with stage := .relaying (notices ++ raw) true }

/-- Diff the held snapshot against a fresh one. -/
def Forwarder.onSnapshot : Forwarder :=
  match generateDamage forwarder.prevSnapshot cur with
  | .noChange => { forwarder with stage := .receiving }
  | .frame frame =>
    { forwarder with stage := .publishing [.damage { frame with id := forwarder.id }] cur }
  | .resync =>
    { forwarder with
      baselineRevision := cur.revision
      stage := .publishing
        [.resyncRequired forwarder.id, .grid forwarder.id cur.toGridSnapshot] cur }

/-- Frames were lost: start over from a fresh snapshot. -/
def Forwarder.onLagged (snap : StampedSnapshot) : Forwarder :=
  { forwarder with
    lagged := false
    baselineRevision := snap.revision
    prevSnapshot := snap
    stage := .publishing
      [.resyncRequired forwarder.id, .grid forwarder.id snap.toGridSnapshot] snap }

/-- Wait for the broadcast or for the end of the session. Output that is already there
comes first. -/
def Forwarder.receive : Forwarder :=
  if forwarder.lagged then forwarder.onLagged cur
  else
    match forwarder.backlog with
    | frame :: rest => { forwarder with backlog := rest }.onFrame frame
    | [] =>
      match ended with
      | some code => { forwarder with stage := .finishing [.sessionExited forwarder.id code] }
      | none => forwarder

/-- What the task does once its pending events are out. -/
def Forwarder.resume : Forwarder :=
  match forwarder.stage with
  | .receiving => forwarder.receive cur ended
  | .relaying _ diff =>
    if diff then forwarder.onSnapshot cur else { forwarder with stage := .receiving }
  | .publishing _ cur => { forwarder with prevSnapshot := cur, stage := .receiving }
  | .finishing _ => { forwarder with stage := .stopped }
  | .stopped => forwarder

/-- One step of the task: send the next pending event, or go on to the next stage. `cur` is
the session's present snapshot. -/
def Forwarder.progress : Forwarder × Option DaemonEvent :=
  match forwarder.stage.pending with
  | event :: _ =>
    ({ forwarder with stage := forwarder.stage.advance, sent := forwarder.sent ++ [event] },
      some event)
  | [] => (forwarder.resume cur ended, none)

/-- The revision of the screen that an event brings its client to. -/
def DaemonEvent.screenRevision : DaemonEvent → Option Nat
  | .grid _ screen => some screen.revision
  | .damage frame => some frame.revision
  | _ => none

/-- The revision of the last screen among the events sent. -/
def lastSentRevision (sent : List DaemonEvent) : Option Nat :=
  (sent.filterMap DaemonEvent.screenRevision).getLast?

/-- An event shows what the session's screens were: a grid is one of its snapshots, and
damage was generated from two of them. -/
def Genuine (published : StampedSnapshot → Prop) : DaemonEvent → Prop
  | .grid _ screen => ∃ snapshot, published snapshot ∧ screen = snapshot.toGridSnapshot
  | .damage frame => ∃ prev next generated, published prev ∧ published next
      ∧ generateDamage prev next = .frame generated ∧ frame = { generated with id := frame.id }
  | _ => True

variable (published : StampedSnapshot → Prop) (prev : StampedSnapshot) (sent : List DaemonEvent) in
/-- What holds of a task's pending events, given the snapshot it believes its client has and
the events it has sent. -/
inductive StageSound : Stage → Prop
  | receiving (held : lastSentRevision sent = some prev.revision) : StageSound .receiving
  | relaying {events : List DaemonEvent} {diff : Bool}
      (held : lastSentRevision sent = some prev.revision)
      (plain : ∀ event ∈ events, event.screenRevision = none) : StageSound (.relaying events diff)
  | damage {frame : DamageFrame} {cur : StampedSnapshot} {id : SessionId}
      (held : lastSentRevision sent = some prev.revision) (current : published cur)
      (generated : generateDamage prev cur = .frame frame) :
      StageSound (.publishing [.damage { frame with id := id }] cur)
  | resync {cur : StampedSnapshot} {id : SessionId} (current : published cur) :
      StageSound (.publishing [.resyncRequired id, .grid id cur.toGridSnapshot] cur)
  | grid {cur : StampedSnapshot} {id : SessionId} (current : published cur) :
      StageSound (.publishing [.grid id cur.toGridSnapshot] cur)
  | published {cur : StampedSnapshot} (current : published cur)
      (held : lastSentRevision sent = some cur.revision) : StageSound (.publishing [] cur)
  | finishing {events : List DaemonEvent}
      (plain : ∀ event ∈ events, event.screenRevision = none) : StageSound (.finishing events)
  | stopped : StageSound .stopped

/-- The invariant of a forwarder. -/
structure Forwarder.Sound (published : StampedSnapshot → Prop) (forwarder : Forwarder) : Prop where
  held : published forwarder.prevSnapshot
  stage : StageSound published forwarder.prevSnapshot forwarder.sent forwarder.stage

variable {published : StampedSnapshot → Prop}
  {forwarder cur ended} {event : DaemonEvent} {later : StampedSnapshot → Prop}
  {rest : List DaemonEvent} {stage : Stage} {sent : List DaemonEvent} {prev : StampedSnapshot}

/-- A screen sets it. -/
theorem lastSentRevision_screen (sent : List DaemonEvent) {revision : Nat}
    (screen : event.screenRevision = some revision) :
    lastSentRevision (sent ++ [event]) = some revision := by
  simp [lastSentRevision, screen]

/-- An event that brings no screen is genuine. -/
theorem genuine_of_plain (plain : event.screenRevision = none) : Genuine published event := by
  cases event with
  | grid id screen | damage frame => contradiction
  | _ => trivial

/-- Notifications bring no screen. -/
theorem notificationEvent_plain (id : SessionId) (notification : TerminalNotification) :
    (notificationEvent id notification).screenRevision = none := by
  cases notification <;> rfl

section

variable (grows : ∀ {snap}, published snap → later snap)
include grows

/-- Genuine events stay genuine as more snapshots are published. -/
theorem Genuine.mono (genuine : Genuine published event) : Genuine later event := by
  cases event with
  | grid =>
    obtain ⟨snapshot, member, same⟩ := genuine
    exact ⟨snapshot, grows member, same⟩
  | damage =>
    obtain ⟨prev, next, generated, inPrev, inNext, rest⟩ := genuine
    exact ⟨prev, next, generated, grows inPrev, grows inNext, rest⟩
  | _ => trivial

/-- So do sound stages. -/
theorem StageSound.mono (sound : StageSound published prev sent stage) :
    StageSound later prev sent stage := by
  cases sound with
  | receiving held => exact .receiving held
  | relaying held plain => exact .relaying held plain
  | damage held current generated => exact .damage held (grows current) generated
  | resync current => exact .resync (grows current)
  | grid current => exact .grid (grows current)
  | published current held => exact .published (grows current) held
  | finishing plain => exact .finishing plain
  | stopped => exact .stopped

/-- And sound forwarders. -/
theorem Forwarder.Sound.mono (sound : forwarder.Sound published) : forwarder.Sound later :=
  ⟨grows sound.held, sound.stage.mono grows⟩

end

/-- Sending the next event: it is genuine, damage continues from the last screen sent, and
the stage stays sound. -/
theorem StageSound.send (sound : StageSound published prev sent stage) (held : published prev)
    (pending : stage.pending = event :: rest) :
    Genuine published event
      ∧ (∀ frame, event = .damage frame → lastSentRevision sent = some frame.baseRevision)
      ∧ StageSound published prev (sent ++ [event]) stage.advance := by
  have plainSend {events : List DaemonEvent} (plain : ∀ event ∈ events, event.screenRevision = none)
      (first : events = event :: rest) : event.screenRevision = none :=
    plain event (first ▸ mem_cons_self)
  have notDamage (plain : event.screenRevision = none) (frame : DamageFrame)
      (same : event = .damage frame) : lastSentRevision sent = some frame.baseRevision := by
    rw [same] at plain
    contradiction
  cases sound with
  | receiving => contradiction
  | relaying lastSent plain =>
    have quiet := plainSend plain pending
    refine ⟨genuine_of_plain quiet, notDamage quiet, .relaying ?_ ?_⟩
    · simpa [lastSentRevision, quiet] using lastSent
    · exact fun other member => plain other (mem_of_mem_tail member)
  | @damage frame cur _ lastSent current generated =>
    cases pending
    obtain ⟨_, _, _, _, _, same, _⟩ := generateDamage_frame generated
    refine ⟨⟨prev, cur, frame, held, current, generated, rfl⟩, ?_, .published current ?_⟩
    · intro other emitted
      cases emitted
      rw [lastSent, same]
      rfl
    · rw [lastSentRevision_screen sent rfl, same]
      rfl
  | resync current =>
    cases pending
    exact ⟨trivial, notDamage rfl, .grid current⟩
  | grid current =>
    cases pending
    refine ⟨⟨_, current, rfl⟩, ?_, .published current (lastSentRevision_screen sent rfl)⟩
    intro frame same
    contradiction
  | published => contradiction
  | finishing plain =>
    have quiet := plainSend plain pending
    refine ⟨genuine_of_plain quiet, notDamage quiet, .finishing ?_⟩
    exact fun other member => plain other (mem_of_mem_tail member)
  | stopped => contradiction

/-- What a frame makes of the task. -/
theorem onFrame_spec (forwarder : Forwarder) (frame : OutputFrame) : ∃ raw diff,
    forwarder.onFrame frame = { forwarder with
      notificationsThroughRevision := max forwarder.notificationsThroughRevision frame.revision
      stage := .relaying ((if forwarder.notificationsThroughRevision < frame.revision then
        frame.notifications.map (notificationEvent forwarder.id) else []) ++ raw) diff } ∧
    (raw = [] ∨ ∃ generation revision bytes,
      raw = [.output forwarder.id generation revision bytes]) ∧
    (diff = false → frame.revision ≤ forwarder.baselineRevision) := by
  have through : max forwarder.notificationsThroughRevision frame.revision
      = if forwarder.notificationsThroughRevision < frame.revision then frame.revision
        else forwarder.notificationsThroughRevision := by
    split <;> omega
  simp only [Forwarder.onFrame, through, gt_iff_lt, decide_eq_true_eq]
  by_cases old : frame.revision ≤ forwarder.baselineRevision
  · exact ⟨[], false, by rw [if_pos old, append_nil], .inl rfl, fun _ => old⟩
  · refine ⟨_, true, if_neg old, ?_, by simp⟩
    split
    · exact .inr ⟨_, _, _, rfl⟩
    · exact .inl rfl

/-- A frame makes the task relay notifications and raw output. -/
theorem onFrame_relays (forwarder : Forwarder) (frame : OutputFrame) :
    ∀ event ∈ (forwarder.onFrame frame).stage.pending,
      (∃ notification, event = notificationEvent forwarder.id notification) ∨
        ∃ generation revision bytes, event = .output forwarder.id generation revision bytes := by
  obtain ⟨_, _, isNext, isRaw, _⟩ := onFrame_spec forwarder frame
  rw [isNext]
  intro event member
  rcases mem_append.mp member with isNotice | inRaw
  · split at isNotice
    · obtain ⟨notification, _, rfl⟩ := mem_map.mp isNotice
      exact .inl ⟨notification, rfl⟩
    · contradiction
  · rcases isRaw with rfl | ⟨generation, revision, bytes, rfl⟩
    · contradiction
    · exact .inr ⟨generation, revision, bytes, mem_singleton.mp inRaw⟩

/-- A received frame leaves only plain events to send. -/
theorem onFrame_sound (forwarder : Forwarder) (frame : OutputFrame)
    (held : published forwarder.prevSnapshot)
    (lastSent : lastSentRevision forwarder.sent = some forwarder.prevSnapshot.revision) :
    (forwarder.onFrame frame).Sound published := by
  have relays := onFrame_relays forwarder frame
  obtain ⟨_, _, isNext, _⟩ := onFrame_spec forwarder frame
  rw [isNext] at relays ⊢
  refine ⟨held, .relaying lastSent fun event member => ?_⟩
  rcases relays event member with ⟨notification, rfl⟩ | ⟨_, _, _, rfl⟩
  · exact notificationEvent_plain forwarder.id notification
  · rfl

/-- The diff against a fresh snapshot leaves a damage frame, a whole grid, or nothing. -/
theorem onSnapshot_sound (held : published forwarder.prevSnapshot) (current : published cur)
    (lastSent : lastSentRevision forwarder.sent = some forwarder.prevSnapshot.revision) :
    (forwarder.onSnapshot cur).Sound published := by
  unfold Forwarder.onSnapshot
  split
  · exact ⟨held, .receiving lastSent⟩
  next generated => exact ⟨held, .damage lastSent current generated⟩
  · exact ⟨held, .resync current⟩

/-- Going on to the next stage keeps the invariant. -/
theorem resume_sound (ended : Option (Option Int))
    (sound : forwarder.Sound published) (current : published cur)
    (done : forwarder.stage.pending = []) : (forwarder.resume cur ended).Sound published := by
  obtain ⟨held, stageSound⟩ := sound
  unfold Forwarder.resume
  cases stage : forwarder.stage with
  | receiving =>
    rw [stage] at stageSound
    cases stageSound with
    | receiving lastSent =>
      simp only [Forwarder.receive]
      split
      · exact ⟨current, .resync current⟩
      · split
        next frame rest _ =>
          exact onFrame_sound { forwarder with backlog := rest } frame held lastSent
        · split
          · refine ⟨held, .finishing ?_⟩
            intro event member
            cases mem_singleton.mp member
            rfl
          · exact ⟨held, stage ▸ .receiving lastSent⟩
  | relaying =>
    rw [stage] at stageSound
    cases stageSound with
    | relaying lastSent =>
      dsimp only
      split
      · exact onSnapshot_sound held current lastSent
      · exact ⟨held, .receiving lastSent⟩
  | publishing =>
    rw [stage] at stageSound done
    cases stageSound with
    | published nextPublished lastSent => exact ⟨nextPublished, .receiving lastSent⟩
    | damage _ _ _ | resync _ | grid _ => contradiction
  | finishing => exact ⟨held, .stopped⟩
  | stopped =>
    refine ⟨held, ?_⟩
    rw [stage]
    exact .stopped

/-- A step with events pending sends the first. -/
theorem progress_pending (pending : forwarder.stage.pending = event :: rest) :
    forwarder.progress cur ended = ({ forwarder with
      stage := forwarder.stage.advance, sent := forwarder.sent ++ [event] }, some event) := by
  simp [Forwarder.progress, pending]

/-- A step with none goes on to the next stage. -/
theorem progress_done (done : forwarder.stage.pending = []) :
    forwarder.progress cur ended = (forwarder.resume cur ended, none) := by
  simp [Forwarder.progress, done]

theorem Stage.pending_advance
    (pending : stage.pending = event :: rest) : stage.advance.pending = rest := by
  cases stage <;> simp_all [Stage.pending, Stage.advance]

/-- One step of a forwarder keeps its invariant, and what it sends is genuine; damage
continues from the last screen it sent. -/
theorem progress_sound
    (ended : Option (Option Int)) (sound : forwarder.Sound published) (current : published cur) :
    (forwarder.progress cur ended).1.Sound published
      ∧ ∀ event, (forwarder.progress cur ended).2 = some event → Genuine published event := by
  cases pending : forwarder.stage.pending with
  | cons =>
    obtain ⟨genuine, _, stage⟩ := sound.stage.send sound.held pending
    rw [progress_pending pending]
    refine ⟨⟨sound.held, stage⟩, ?_⟩
    rintro _ ⟨⟩
    exact genuine
  | nil =>
    rw [progress_done pending]
    exact ⟨resume_sound ended sound current pending, by simp⟩

end HydraTerm.Daemon
