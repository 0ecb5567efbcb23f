import HydraTerm.Exit.System

/-!
# Where an attachment stands

`Standing` says for every place an attachment can be in which screen its client has been left with,
and that every published frame is still in its receiver or is covered by that screen. A receiver that
has lost frames promises nothing; it is followed by a snapshot that covers everything before it.

The other half of the invariant, `Attachment.Sound`, is about order: frames wait in the order of their
revisions, above the last frame whose notifications were sent.
-/

namespace HydraTerm.Exit

open Grid Daemon Lib List

universe u
variable {ε : Type u} {frame : OutputFrame} {code : Option Int} {id : SessionId} {clean : Prop}

/-- No event ends the session. -/
def NoExit (events : List DaemonEvent) : Prop := ∀ event ∈ events, isExit event = false

/-- One event ends the session, with the code of the latch, and it is the last. -/
def Ended (id : SessionId) (exited : Option (Option Int)) (sent : List DaemonEvent) : Prop :=
  ∃ before code, exited = some code ∧ sent = before ++ [.sessionExited id code] ∧ NoExit before

/-- Unless frames were lost, every published frame is in the receiver or is covered. -/
def Accounts (frames : List OutputFrame) (task : Forwarder) (covered : Nat → Prop) : Prop :=
  task.lagged = false → ∀ frame ∈ frames, frame ∈ task.backlog ∨ covered frame.revision

variable (published : StampedSnapshot → Prop) (sent : List DaemonEvent) (id : SessionId)
  (prev cur : StampedSnapshot) in
/-- The events that lead the client from one screen to the next. -/
inductive Leads : List DaemonEvent → Prop
  | damage {frame : DamageFrame} (displays : Displays published sent.reverse prev)
      (generated : generateDamage prev cur = .frame frame) : Leads [.damage { frame with id := id }]
  | resync : Leads [.resyncRequired id, .grid id cur.toGridSnapshot]
  | grid : Leads [.grid id cur.toGridSnapshot]
  | there (displays : Displays published sent.reverse cur) : Leads []

section
variable (attachment : Attachment) (published : StampedSnapshot → Prop) (frames : List OutputFrame)

/-- The client has been left with the snapshot that the task compares with. -/
abbrev Attachment.Displaying : Prop :=
  Displays published attachment.task.sent.reverse attachment.task.prevSnapshot

/-- That snapshot covers every published frame. -/
abbrev Attachment.CoversAll : Prop :=
  ∀ frame ∈ frames, Covers published attachment.task.prevSnapshot frame.revision

/-- Unless frames were lost, it covers every published frame that is not in the receiver. -/
abbrev Attachment.Accounted : Prop :=
  Accounts frames attachment.task (Covers published attachment.task.prevSnapshot)

end

/-- Where an attachment stands. Once its task has found the exit, all output has been shown if the
run is `clean`, as one is in which no task finds the exit with output behind it. -/
inductive Standing (clean : Prop) (published : StampedSnapshot → Prop) (frames : List OutputFrame)
    (exited : Option (Option Int)) (attachment : Attachment) : Prop
  | restoring {already : Option (Option Int)} (phase : attachment.phase = .restoring already)
      (stage : attachment.task.stage = .receiving) (silent : attachment.task.sent = [])
      (held : published attachment.task.prevSnapshot)
      (baseline : attachment.task.baselineRevision ≤ attachment.task.prevSnapshot.revision)
      (accounted : Accounts frames attachment.task
        (· ≤ attachment.task.prevSnapshot.revision))
      (final : ∀ code, already = some code → exited = some code ∧
        ∀ frame ∈ frames, frame.revision ≤ attachment.task.prevSnapshot.revision)
  | announcing {code : Option Int} (phase : attachment.phase = .announcing code)
      (stage : attachment.task.stage = .receiving) (latched : exited = some code)
      (silent : NoExit attachment.task.sent)
      (displays : attachment.Displaying published)
      (covered : attachment.CoversAll published frames)
  | announced (phase : attachment.phase = .announced)
      (stage : attachment.task.stage = .receiving)
      (ended : Ended attachment.task.id exited attachment.task.sent)
      (displays : attachment.Displaying published)
      (covered : attachment.CoversAll published frames)
  | waiting {looking : Looking} (phase : attachment.phase = .forwarding looking)
      (stage : attachment.task.stage = .receiving) (silent : NoExit attachment.task.sent)
      (displays : attachment.Displaying published)
      (baseline : attachment.task.baselineRevision ≤ attachment.task.prevSnapshot.revision)
      (accounted : looking ≠ .resync → attachment.Accounted published frames)
  | relaying {events : List DaemonEvent} {diff : Bool}
      (phase : attachment.phase = .forwarding .output)
      (stage : attachment.task.stage = .relaying events diff)
      (silent : NoExit attachment.task.sent)
      (plain : ∀ event ∈ events, event.screenRevision = none ∧ isExit event = false)
      (displays : attachment.Displaying published)
      (baseline : attachment.task.baselineRevision ≤ attachment.task.prevSnapshot.revision)
      (accounted : diff = false → attachment.Accounted published frames)
  | publishing {events : List DaemonEvent} {cur : StampedSnapshot}
      (phase : attachment.phase = .forwarding .output)
      (stage : attachment.task.stage = .publishing events cur)
      (silent : NoExit attachment.task.sent) (held : published cur)
      (baseline : attachment.task.baselineRevision ≤ cur.revision)
      (accounted : Accounts frames attachment.task (· ≤ cur.revision))
      (leads : Leads published attachment.task.sent attachment.task.id attachment.task.prevSnapshot
        cur events)
  | finishing {looking : Looking} {code : Option Int}
      (phase : attachment.phase = .forwarding looking)
      (stage : attachment.task.stage = .finishing [.sessionExited attachment.task.id code])
      (latched : exited = some code) (silent : NoExit attachment.task.sent)
      (displays : attachment.Displaying published)
      (covered : clean → attachment.CoversAll published frames)
  | finished {looking : Looking} (phase : attachment.phase = .forwarding looking)
      (stage : attachment.task.stage = .finishing [] ∨ attachment.task.stage = .stopped)
      (ended : Ended attachment.task.id exited attachment.task.sent)
      (displays : attachment.Displaying published)
      (covered : clean → attachment.CoversAll published frames)

/-! ## Screens -/

section Screens

variable {published later : StampedSnapshot → Prop} {events : List DaemonEvent}
  {shown : StampedSnapshot} {event : DaemonEvent} {revision : Nat}

theorem Displays.isPublished (displays : Displays published events shown) : published shown := by
  induction events with
  | nil => exact displays.elim
  | cons event _ ih =>
    cases event with
    | grid | damage => exact displays.1
    | _ => exact ih displays

theorem Displays.mono (grows : ∀ snapshot, published snapshot → later snapshot)
    (displays : Displays published events shown) : Displays later events shown := by
  induction events generalizing shown with
  | nil => exact displays.elim
  | cons event _ ih =>
    cases event with
    | grid => exact ⟨grows _ displays.1, displays.2⟩
    | damage =>
      obtain ⟨isPublished, prev, generated, before, leads, same⟩ := displays
      exact ⟨grows _ isPublished, prev, generated, ih before, leads, same⟩
    | _ => exact ih displays

/-- An event without a screen leaves the client with the one it had. -/
theorem Displays.plain (plain : event.screenRevision = none)
    (displays : Displays published events.reverse shown) :
    Displays published (events ++ [event]).reverse shown := by
  rw [reverse_append, reverse_singleton, singleton_append]
  cases event with
  | grid | damage => simp [DaemonEvent.screenRevision] at plain
  | _ => exact displays

theorem Displays.grid (isPublished : published shown) (id : SessionId) :
    Displays published (events ++ [DaemonEvent.grid id shown.toGridSnapshot]).reverse shown := by
  rw [reverse_append, reverse_singleton, singleton_append]
  exact ⟨isPublished, rfl⟩

theorem Covers.mono (grows : ∀ snapshot, published snapshot → later snapshot)
    (covers : Covers published shown revision) : Covers later shown revision := by
  obtain ⟨cur, isPublished, reaches, same⟩ := covers
  exact ⟨cur, grows cur isPublished, reaches, same⟩

/-- A screen covers its own revision. -/
theorem Covers.self (isPublished : published shown)
    (reaches : revision ≤ shown.revision) : Covers published shown revision :=
  ⟨shown, isPublished, reaches, .inl rfl⟩

theorem NoExit.append (silent : NoExit events) (noExit : isExit event = false) :
    NoExit (events ++ [event]) :=
  forall_mem_append.mpr ⟨silent, forall_mem_singleton.mpr noExit⟩

/-- The exit after events without one. -/
theorem NoExit.ended (silent : NoExit events) {exited : Option (Option Int)}
    (latched : exited = some code) : Ended id exited (events ++ [.sessionExited id code]) :=
  ⟨events, code, latched, rfl, silent⟩

end Screens

/-! ## Receivers -/

section Receivers

variable {frames : List OutputFrame} {task : Forwarder} {covered weaker : Nat → Prop}
  {attachment : Attachment}

theorem Accounts.mono (accounts : Accounts frames task covered)
    (grows : ∀ revision, covered revision → weaker revision) : Accounts frames task weaker :=
  fun whole frame member => (accounts whole frame member).imp_right (grows frame.revision)

/-- A receiver with nothing in it. -/
theorem Accounts.all (accounts : Accounts frames task covered) (whole : task.lagged = false)
    (empty : task.backlog = []) : ∀ frame ∈ frames, covered frame.revision := by
  intro frame member
  rcases accounts whole frame member with waiting | isCovered
  · rw [empty] at waiting
    exact absurd waiting not_mem_nil
  · exact isCovered

theorem Accounts.of_all (all : ∀ frame ∈ frames, covered frame.revision) :
    Accounts frames task covered :=
  fun _ frame member => .inr (all frame member)

/-- If nothing is lost, a published frame is at the end of the receiver. -/
theorem publish_whole (whole : (attachment.publish frame).task.lagged = false) :
    attachment.task.lagged = false ∧
      (attachment.publish frame).task.backlog = attachment.task.backlog ++ [frame] := by
  simp only [Attachment.publish, Bool.or_eq_false_iff, decide_eq_false_iff_not, not_lt] at whole
  refine ⟨whole.1, ?_⟩
  simp only [Attachment.publish, Nat.sub_eq_zero_of_le whole.2, drop_zero]

theorem Accounts.publish (frame : OutputFrame) (accounts : Accounts frames attachment.task covered)
    : Accounts (frames ++ [frame]) (attachment.publish frame).task covered := by
  intro whole other member
  obtain ⟨wasWhole, backlog⟩ := publish_whole whole
  rw [backlog, mem_append]
  rcases mem_append.mp member with old | new
  · exact (accounts wasWhole other old).imp_left .inl
  · exact .inl (.inr new)

end Receivers

/-! ## Steps of the others -/

section Others

variable {published later : StampedSnapshot → Prop} {frames : List OutputFrame}
  {exited : Option (Option Int)} {attachment : Attachment} (code : Option Int)

theorem Leads.mono {sent events : List DaemonEvent} {prev cur : StampedSnapshot}
    (grows : ∀ snapshot, published snapshot → later snapshot)
    (leads : Leads published sent id prev cur events) : Leads later sent id prev cur events := by
  cases leads with
  | damage displays generated => exact .damage (displays.mono grows) generated
  | resync => exact .resync
  | grid => exact .grid
  | there displays => exact .there (displays.mono grows)

/-- The attachment with its receivers replaced. -/
def Attachment.withReceivers (attachment : Attachment) (backlog : List OutputFrame) (lagged : Bool)
    (exitReceiver : Option (Option Int)) : Attachment :=
  { attachment with
    task := { attachment.task with backlog := backlog, lagged := lagged }
    exitReceiver := exitReceiver }

/-- The session gets more screens, and the receivers change. The account of them must be kept, and
nothing is published after the latch is set. -/
theorem Standing.change {moreFrames backlog : List OutputFrame} {lagged : Bool}
    {receiver latchedAfter : Option (Option Int)}
    (grows : ∀ snapshot, published snapshot → later snapshot)
    (accounts : ∀ {covered : Nat → Prop}, Accounts frames attachment.task covered →
      Accounts moreFrames (attachment.withReceivers backlog lagged receiver).task covered)
    (keeps : ∀ code, exited = some code → latchedAfter = some code ∧ moreFrames = frames)
    (standing : Standing clean published frames exited attachment) :
    Standing clean later moreFrames latchedAfter (attachment.withReceivers backlog lagged receiver) := by
  have covers {shown : StampedSnapshot} (revision : Nat) :
      Covers published shown revision → Covers later shown revision := Covers.mono grows
  have stays {id : SessionId} {sent : List DaemonEvent} (ended : Ended id exited sent) :
      Ended id latchedAfter sent ∧ moreFrames = frames := by
    obtain ⟨before, code, latched, isSent, silent⟩ := ended
    exact ⟨⟨before, code, (keeps code latched).1, isSent, silent⟩, (keeps code latched).2⟩
  cases standing with
  | restoring phase stage silent held baseline accounted final =>
    refine .restoring phase stage silent (grows _ held) baseline (accounts accounted)
      fun code already => ?_
    obtain ⟨latched, covered⟩ := final code already
    obtain ⟨latchedNow, rfl⟩ := keeps code latched
    exact ⟨latchedNow, covered⟩
  | announcing phase stage latched silent displays covered =>
    obtain ⟨latchedNow, rfl⟩ := keeps _ latched
    exact .announcing phase stage latchedNow silent (displays.mono grows)
      fun frame member => covers _ (covered frame member)
  | announced phase stage ended displays covered =>
    obtain ⟨endedNow, rfl⟩ := stays ended
    exact .announced phase stage endedNow (displays.mono grows)
      fun frame member => covers _ (covered frame member)
  | waiting phase stage silent displays baseline accounted =>
    exact .waiting phase stage silent (displays.mono grows) baseline
      fun looks => (accounts (accounted looks)).mono covers
  | relaying phase stage silent plain displays baseline accounted =>
    exact .relaying phase stage silent plain (displays.mono grows) baseline
      fun skips => (accounts (accounted skips)).mono covers
  | publishing phase stage silent held baseline accounted leads =>
    exact .publishing phase stage silent (grows _ held) baseline (accounts accounted)
      (leads.mono grows)
  | finishing phase stage latched silent displays covered =>
    obtain ⟨latchedNow, rfl⟩ := keeps _ latched
    exact .finishing phase stage latchedNow silent (displays.mono grows)
      fun isClean frame member => covers _ (covered isClean frame member)
  | finished phase stage ended displays covered =>
    obtain ⟨endedNow, rfl⟩ := stays ended
    exact .finished phase stage endedNow (displays.mono grows)
      fun isClean frame member => covers _ (covered isClean frame member)

theorem Standing.mono (grows : ∀ snapshot, published snapshot → later snapshot)
    (standing : Standing clean published frames exited attachment) :
    Standing clean later frames exited attachment :=
  standing.change grows id fun _ latched => ⟨latched, rfl⟩

/-- A frame is published, while the latch is open. -/
theorem Standing.publish (frame : OutputFrame)
    (standing : Standing clean published frames none attachment) :
    Standing clean published (frames ++ [frame]) none (attachment.publish frame) :=
  standing.change (fun _ => id) (fun accounted => accounted.publish frame) (by simp)

/-- The latch is set. -/
theorem Standing.latch (standing : Standing clean published frames none attachment) :
    Standing clean published frames (some code) attachment :=
  standing.change (fun _ => id) id (by simp)

/-- The exit is broadcast. -/
theorem Standing.notifyExit (standing : Standing clean published frames exited attachment) :
    Standing clean published frames exited (attachment.notifyExit code) :=
  standing.change (fun _ => id) id fun _ latched => ⟨latched, rfl⟩

end Others

/-! ## Steps of its own -/

section Own

variable {published : StampedSnapshot → Prop} {frames : List OutputFrame}
  {exited : Option (Option Int)} {attachment : Attachment} {cur : StampedSnapshot}
  {closed : Bool} (isCur : published cur) (latest : ∀ frame ∈ frames, frame.revision ≤ cur.revision)
  (newest : ∀ snapshot, published snapshot → snapshot.revision ≤ cur.revision)
  {looking : Looking}

theorem notificationEvent_noExit (id : SessionId) (notification : TerminalNotification) :
    isExit (notificationEvent id notification) = false := by
  cases notification <;> rfl

/-- What a frame makes the task relay shows no screen and ends nothing. -/
theorem onFrame_plain (task : Forwarder) (frame : OutputFrame) :
    ∀ event ∈ (task.onFrame frame).stage.pending,
      event.screenRevision = none ∧ isExit event = false := by
  intro event member
  rcases onFrame_relays task frame event member with ⟨notification, rfl⟩ | ⟨_, _, _, rfl⟩
  · exact ⟨notificationEvent_plain _ _, notificationEvent_noExit _ _⟩
  · exact ⟨rfl, rfl⟩

/-- The receivers hold what the session has sent, as far as the task relies on it. -/
structure Attachment.Informed (attachment : Attachment) (exited : Option (Option Int))
    (closed : Bool) : Prop where
  exit : ∀ code, attachment.exitReceiver = some code → exited = some code
  closing : closed = true → ∃ code, exited = some code ∧ attachment.exitReceiver = some code

/-- Nothing came in since the task last looked at its output receiver, if it is about to find the
exit. -/
def Attachment.Prompt (attachment : Attachment) : Prop :=
  attachment.phase = .forwarding .exit → attachment.task.stage = .receiving →
    attachment.exitReceiver.isSome →
    attachment.task.lagged = false ∧ attachment.task.backlog = []
  deriving Decidable

section Waiting

variable (silent : NoExit attachment.task.sent) (displays : attachment.Displaying published)
  (baseline : attachment.task.baselineRevision ≤ attachment.task.prevSnapshot.revision)

include silent displays

/-- A waiting task ends with the code of the latch, in a clean run with nothing in its receiver. -/
theorem Standing.finish
    (phase : attachment.phase = .forwarding looking) (accounted : attachment.Accounted published frames)
    (empty : clean → attachment.task.lagged = false ∧ attachment.task.backlog = [])
    (latched : exited = some code) : Standing clean published frames exited (attachment.finish code) :=
  .finishing phase rfl latched silent displays fun isClean =>
    accounted.all (empty isClean).1 (empty isClean).2

include baseline

/-- A frame comes off the receiver. -/
theorem Standing.onFrame {rest : List OutputFrame}
    (phase : attachment.phase = .forwarding .output) (accounted : attachment.Accounted published frames)
    (backlog : attachment.task.backlog = frame :: rest) :
    Standing clean published frames exited { attachment with
      task := { attachment.task with backlog := rest }.onFrame frame
      received := attachment.received ++ [frame] } := by
  have plain := onFrame_plain { attachment.task with backlog := rest } frame
  obtain ⟨_, _, isNext, _, old⟩ := onFrame_spec { attachment.task with backlog := rest } frame
  rw [isNext] at plain ⊢
  refine .relaying phase rfl silent plain displays baseline fun skips whole other member => ?_
  rcases accounted whole other member with waiting | covered
  · rw [backlog] at waiting
    rcases mem_cons.mp waiting with rfl | later
    · exact .inr (Covers.self displays.isPublished (le_trans (old skips) baseline))
    · exact .inl later
  · exact .inr covered

include isCur latest

theorem Standing.look (phase : attachment.phase = .forwarding looking)
    (stage : attachment.task.stage = .receiving)
    (accounted : looking ≠ .resync → attachment.Accounted published frames)
    (informed : attachment.Informed exited closed) (prompt : clean → attachment.Prompt) :
    Standing clean published frames exited (attachment.look cur exited closed looking) := by
  cases looking with
  | output =>
    have account := accounted (by simp)
    simp only [Attachment.look]
    split
    · exact .waiting rfl stage silent displays baseline (by simp)
    next whole =>
      split
      next backlog =>
        exact .onFrame silent displays baseline phase account backlog
      next empty =>
        split
        next isClosed =>
          obtain ⟨_, latched, _⟩ := informed.closing isClosed
          rw [latched, Option.join_some]
          exact .finish silent displays phase account (fun _ => ⟨by simpa using whole, empty⟩) rfl
        · exact .waiting rfl stage silent displays baseline fun _ => account
  | exit =>
    have account := accounted (by simp)
    simp only [Attachment.look]
    split
    next code isExit =>
      exact .finish silent displays phase account
        (fun isClean => prompt isClean phase stage (by rw [isExit]; rfl)) (informed.exit code isExit)
    next nothing =>
      split
      next isClosed =>
        obtain ⟨_, _, isExit⟩ := informed.closing isClosed
        rw [nothing] at isExit
        contradiction
      · exact .waiting rfl stage silent displays baseline fun _ => account
  | resync =>
    exact .publishing rfl rfl silent isCur (le_refl _) (.of_all latest) .resync

include newest

/-- The task compares a snapshot with the one its client has. -/
theorem Standing.onSnapshot (phase : attachment.phase = .forwarding .output) :
    Standing clean published frames exited
      { attachment with task := attachment.task.onSnapshot cur } := by
  unfold Forwarder.onSnapshot
  split
  next same =>
    refine .waiting phase rfl silent displays baseline fun _ => .of_all fun frame member => ?_
    exact ⟨cur, isCur, latest frame member, .inr same⟩
  next frame generated =>
    refine .publishing phase rfl silent isCur ?_ (.of_all latest) (.damage displays generated)
    exact le_trans baseline (newest _ displays.isPublished)
  · exact .publishing phase rfl silent isCur (le_refl _) (.of_all latest) .resync

end Waiting

theorem progress_forwarding (phase : attachment.phase = .forwarding looking) :
    attachment.progress cur exited closed =
      if attachment.task.stage = .receiving then attachment.look cur exited closed looking
      else { attachment with task := (attachment.task.progress cur none).1 } := by
  simp [Attachment.progress, phase]

include isCur latest newest

/-- A pending event goes out, or the task goes on to its next stage. -/
theorem Standing.forward (standing : Standing clean published frames exited attachment)
    (busy : attachment.task.stage ≠ .receiving) :
    Standing clean published frames exited
      { attachment with task := (attachment.task.progress cur none).1 } := by
  cases standing with
  | restoring isRestoring stage | announcing isAnnouncing stage | announced isAnnounced stage
  | waiting _ stage => exact absurd stage busy
  | @relaying events _ phase stage silent plain displays baseline accounted =>
    cases events with
    | cons event =>
      have plainFirst := plain event mem_cons_self
      rw [progress_pending (by rw [stage]; rfl), stage]
      exact .relaying phase rfl (silent.append plainFirst.2)
        (fun other member => plain other (mem_cons_of_mem _ member))
        (displays.plain plainFirst.1) baseline accounted
    | nil =>
      rw [progress_done (by rw [stage]; rfl)]
      simp only [Forwarder.resume, stage]
      split
      · exact .onSnapshot isCur latest newest silent displays baseline phase
      next skips =>
        exact .waiting phase rfl silent displays baseline
          fun _ => accounted (by simpa using skips)
  | publishing phase stage silent held baseline accounted leads =>
    cases leads with
    | damage displays generated =>
      rw [progress_pending (by rw [stage]; rfl), stage]
      refine .publishing phase rfl (silent.append rfl) held baseline accounted (.there ?_)
      rw [reverse_append, reverse_singleton, singleton_append]
      exact ⟨held, _, _, displays, generated, rfl⟩
    | resync =>
      rw [progress_pending (by rw [stage]; rfl), stage]
      exact .publishing phase rfl (silent.append rfl) held baseline accounted .grid
    | grid =>
      rw [progress_pending (by rw [stage]; rfl), stage]
      exact .publishing phase rfl (silent.append rfl) held baseline accounted
        (.there (.grid held _))
    | there displays =>
      simp only [Forwarder.progress, stage, Stage.pending, Forwarder.resume]
      exact .waiting phase rfl silent displays baseline
        fun _ => accounted.mono fun _ reaches => Covers.self held reaches
  | finishing phase stage latched silent displays covered =>
    rw [progress_pending (by rw [stage]; rfl), stage]
    exact .finished phase (.inl rfl) (silent.ended latched) (displays.plain rfl) covered
  | finished phase stage ended displays covered =>
    rcases stage with stage | stage <;> simp only [Forwarder.progress, stage, Stage.pending,
      Forwarder.resume]
    · exact .finished phase (.inr rfl) ended displays covered
    · exact .finished phase (.inr stage) ended displays covered

/-- Every step of an attachment. -/
theorem Standing.progress (standing : Standing clean published frames exited attachment)
    (informed : ∀ looking, attachment.phase = .forwarding looking →
      attachment.Informed exited closed) (prompt : clean → attachment.Prompt) :
    Standing clean published frames exited (attachment.progress cur exited closed) := by
  by_cases isForwarding : ∃ looking, attachment.phase = .forwarding looking
  · obtain ⟨looking, phase⟩ := isForwarding
    rw [progress_forwarding phase]
    split
    next stage =>
      cases standing with
      | waiting isPhase _ silent displays baseline accounted =>
        obtain rfl : looking = _ := Phase.forwarding.inj (phase.symm.trans isPhase)
        exact .look isCur latest silent displays baseline phase stage accounted
          (informed looking phase) prompt
      | restoring isPhase | announcing isPhase | announced isPhase =>
        exact absurd (phase.symm.trans isPhase) (by simp)
      | relaying _ isStage | publishing _ isStage | finishing _ isStage =>
        exact absurd (stage.symm.trans isStage) (by simp)
      | finished _ isStage =>
        rcases isStage with isStage | isStage <;>
          exact absurd (stage.symm.trans isStage) (by simp)
    next busy =>
      exact standing.forward isCur latest newest busy
  · cases standing with
    | @restoring already phase stage silent held baseline accounted final =>
      have quiet : NoExit attachment.task.sent := by simp [NoExit, silent]
      simp only [Attachment.progress, phase, Attachment.send]
      cases already with
      | none =>
        exact .waiting rfl stage (quiet.append rfl) (.grid held _) baseline
          fun _ => accounted.mono fun _ reaches => Covers.self held reaches
      | some code =>
        obtain ⟨latched, covered⟩ := final code rfl
        exact .announcing rfl stage latched (quiet.append rfl) (.grid held _)
          fun frame member => Covers.self held (covered frame member)
    | announcing phase stage latched silent displays covered =>
      simp only [Attachment.progress, phase, Attachment.send]
      exact .announced rfl stage (silent.ended latched) (displays.plain rfl) covered
    | announced phase stage ended displays covered =>
      simp only [Attachment.progress, phase]
      exact .announced phase stage ended displays covered
    | waiting phase | relaying phase | publishing phase | finishing phase | finished phase =>
      exact absurd ⟨_, phase⟩ isForwarding

end Own

end HydraTerm.Exit
