import HydraTerm.Exit.Order
import HydraTerm.Grid.SmallTerminal

/-!
# The exit of a session reaches every attachment once and last

The invariant of the whole system collects where each attachment stands, the order of its frames, and
that a task which waits for the exit has it in its receiver from the broadcast on. A step of the system
is prompt if no task finds the exit while its output receiver has filled since it looked there.

Every attachment sends one exit, with nothing after it, and if the steps are prompt its client has
been led through all the output before. That the exit is sent at all is a matter of steps: from the broadcast on nothing is
published, so an attachment has a bounded number of steps left.

Without promptness the last output may stay behind, as a schedule at the end shows.
-/

namespace HydraTerm.Exit

open Grid Daemon Lib List

universe u
variable {ε : Type u} {code : Option Int} {looking : Looking} {index : Nat} {first last : System ε}
  {actions : List Action} {action : Action} {id : SessionId} (engine : Engine ε) (clean : Prop)
  (system : System ε) (attachment : Attachment)

/-! ## The invariant -/

/-- The attachment relies on the broadcast for the exit. -/
def Attachment.Listening : Prop :=
  attachment.phase = .restoring none ∨ ∃ looking, attachment.phase = .forwarding looking

/-- An attachment of the session. -/
structure Attachment.Good :
    Prop where
  standing : Standing clean (Mirror.Published engine system.past) system.frames system.exited attachment
  sound : attachment.Sound system.grid.revision
  sameId : attachment.task.id = system.id
  listens : attachment.Listening →
    attachment.exitReceiver = if system.exitSent then system.exited else none

/-- An attachment that holds the grid's lock: its snapshot has everything published so far. -/
structure Attachment.Arriving :
    Prop where
  phase : attachment.phase = .restoring none
  stage : attachment.task.stage = .receiving
  silent : attachment.task.sent = []
  held : Mirror.Published engine system.past attachment.task.prevSnapshot
  baseline : attachment.task.baselineRevision ≤ attachment.task.prevSnapshot.revision
  whole : ∀ frame ∈ system.frames, frame.revision ≤ attachment.task.prevSnapshot.revision
  sound : attachment.Sound system.grid.revision
  sameId : attachment.task.id = system.id
  unheard : system.exitSent = false → attachment.exitReceiver = none

/-- The invariant of the system. -/
structure Inv : Prop where
  past : Mirror.PastInv system.grid system.past
  known : ∀ frame ∈ system.frames, frame.revision ≤ system.grid.revision
  sent : system.exitSent = true → ∃ code, system.exited = some code
  done : system.pumpDone = true → system.exitSent = true
  arriving : ∀ attachment, system.attaching = some attachment → attachment.Arriving engine system
  attached : ∀ attachment ∈ system.attachments, attachment.Good engine clean system

/-- A step below the revision ceiling. -/
def BoundedStep (before : System ε) (action : Action) (after : System ε) : Prop :=
  after = before.step engine action ∧ before.grid.revision + 1 < u64Ceiling

/-- One in which no task finds the exit with output behind it. -/
def PromptStep (before : System ε) (action : Action) (after : System ε) : Prop :=
  BoundedStep engine before action after ∧
    ∀ index, action = .advance index →
      ∀ attachment, before.attachments[index]? = some attachment → attachment.Prompt

theorem inv_new (id : SessionId) (cols rows : Nat)
    (generation : SessionGeneration) : Inv engine clean (System.new engine id cols rows generation) where
  past := Mirror.pastInv_new engine cols rows generation
  known := by simp [System.new]
  sent := by simp [System.new]
  done := by simp [System.new]
  arriving := by simp [System.new]
  attached := by simp [System.new]

/-! ## Steps -/

section Steps

variable {engine clean system attachment} {attachments : List Attachment}
  {exited : Option (Option Int)} {bytes : List UInt8}

theorem published_append (engine : Engine ε) (past : List (TermGrid ε)) (grid : TermGrid ε) :
    ∀ snapshot, Mirror.Published engine past snapshot →
      Mirror.Published engine (past ++ [grid]) snapshot := by
  rintro snapshot ⟨earlier, member, same⟩
  exact ⟨earlier, mem_append_left _ member, same⟩

/-- Output moves the grid to its next revision. -/
theorem advance_revision (engine : Engine ε) (grid : TermGrid ε)
    (nonempty : bytes ≠ []) (fresh : SessionGeneration) (below : grid.revision + 1 < u64Ceiling) :
    (grid.mutate engine (.advance bytes fresh)).revision = grid.revision + 1 := by
  have next : nextRevision grid.revision = some (grid.revision + 1) := if_pos below
  have someBytes : bytes.isEmpty = false := by simpa using nonempty
  simp [TermGrid.mutate, TermGrid.advance, someBytes, TermGrid.collectRowDamage,
    TermGrid.bumpRevision, next]

/-- An attachment that listens after a step did so before. -/
theorem Attachment.Listening.before {cur : StampedSnapshot} {closed : Bool}
    (listening : (attachment.progress cur exited closed).Listening) : attachment.Listening := by
  cases phase : attachment.phase with
  | forwarding looking => exact .inr ⟨looking, phase⟩
  | restoring already =>
    cases already with
    | none => exact .inl phase
    | some =>
      simp [Attachment.Listening, Attachment.progress, phase, Attachment.send] at listening
  | announcing =>
    simp [Attachment.Listening, Attachment.progress, phase, Attachment.send] at listening
  | announced => simp [Attachment.Listening, Attachment.progress, phase] at listening

/-- No step changes the session of an attachment or its exit receiver. -/
theorem progress_kept (attachment : Attachment) (cur : StampedSnapshot)
    (exited : Option (Option Int)) (closed : Bool) :
    (attachment.progress cur exited closed).task.id = attachment.task.id ∧
      (attachment.progress cur exited closed).exitReceiver = attachment.exitReceiver := by
  cases phase : attachment.phase with
  | restoring | announcing | announced => simp [Attachment.progress, phase, Attachment.send]
  | forwarding looking =>
    rw [progress_forwarding phase]
    split
    · cases looking with
      | output =>
        simp only [Attachment.look]
        split
        · exact ⟨rfl, rfl⟩
        · split
          next frame rest _ =>
            obtain ⟨_, _, isNext, _⟩ := onFrame_spec { attachment.task with backlog := rest } frame
            exact ⟨by rw [isNext], rfl⟩
          · split <;> exact ⟨rfl, rfl⟩
      | exit =>
        simp only [Attachment.look]
        split
        · exact ⟨rfl, rfl⟩
        · split <;> exact ⟨rfl, rfl⟩
      | resync => exact ⟨rfl, rfl⟩
    next busy =>
      exact ⟨(progress_quiet cur attachment.task busy).1, rfl⟩

/-- A task that has not begun is where its attachment left it. -/
theorem Standing.idle {published : StampedSnapshot → Prop} {frames : List OutputFrame}
    (standing : Standing clean published frames exited attachment)
    (notBegun : ∀ looking, attachment.phase ≠ .forwarding looking) :
    attachment.task.stage = .receiving := by
  cases standing with
  | restoring _ stage | announcing _ stage | announced _ stage => exact stage
  | waiting phase | relaying phase | publishing phase | finishing phase | finished phase =>
    exact absurd phase (notBegun _)

section Session

variable {pumpDone removed : Bool} {attaching : Option Attachment}

/-- What an arriving attachment does not depend on. -/
theorem Attachment.Arriving.session (arriving : attachment.Arriving engine system) :
    attachment.Arriving engine { system with
      exited := exited, pumpDone := pumpDone, removed := removed, attachments := attachments } :=
  { arriving with }

section Good

variable (good : attachment.Good engine clean system)
include good

/-- A frame is published. -/
theorem Attachment.Good.publish (openLatch : system.exited = none) (nonempty : bytes ≠ [])
    (notifications : List TerminalNotification) (fresh : SessionGeneration)
    (below : system.grid.revision + 1 < u64Ceiling) :
    (attachment.publish ⟨(system.grid.mutate engine (.advance bytes fresh)).revision, bytes,
      notifications⟩).Good engine clean (system.publish engine bytes notifications fresh) := by
  have standing := good.standing
  rw [openLatch] at standing
  let frame : OutputFrame :=
    ⟨(system.grid.mutate engine (.advance bytes fresh)).revision, bytes, notifications⟩
  have newer : system.grid.revision < frame.revision := by
    simp only [frame, advance_revision engine system.grid nonempty fresh below]
    exact Nat.lt_succ_self _
  obtain ⟨_, _, _, published⟩ := publish_receivers attachment frame
  refine ⟨?_, good.sound.publish newer, ?_, ?_⟩
  · have after := (standing.publish frame).mono
      (published_append engine system.past (system.grid.mutate engine (.advance bytes fresh)))
    rwa [← openLatch] at after
  · rw [published]
    exact good.sameId
  · rw [published]
    exact good.listens

/-- The grid is resized. -/
theorem Attachment.Good.resize {grid : TermGrid ε} (grows : system.grid.revision ≤ grid.revision) :
    attachment.Good engine clean { system with grid := grid, past := system.past ++ [grid] } :=
  ⟨good.standing.mono (published_append engine system.past grid), good.sound.mono grows,
    good.sameId, good.listens⟩

/-- The exit is broadcast. -/
theorem Attachment.Good.notifyExit (latched : system.exited = some code)
    {attaching : Option Attachment} :
    (attachment.notifyExit code).Good engine clean { system with
      exitSent := true, attaching := attaching, attachments := attachments } :=
  ⟨good.standing.notifyExit code, good.sound.notifyExit code, good.sameId,
    fun _ => latched.symm⟩

/-- What an attachment does not depend on. -/
theorem Attachment.Good.session :
    attachment.Good engine clean { system with
      pumpDone := pumpDone, removed := removed, attaching := attaching
      attachments := attachments } :=
  ⟨good.standing, good.sound, good.sameId, good.listens⟩

variable (inv : Inv engine clean system)
include inv

/-- The latch and the broadcast reach a task that waits. -/
theorem Attachment.Good.informed (phase : attachment.phase = .forwarding looking) :
    attachment.Informed system.exited system.closed := by
  have listens := good.listens (.inr ⟨looking, phase⟩)
  refine ⟨fun code isExit => ?_, fun isClosed => ?_⟩
  · rw [listens] at isExit
    split at isExit
    · exact isExit
    · contradiction
  · have isDone : system.pumpDone = true := (Bool.and_eq_true_iff.mp isClosed).2
    have isSent := inv.done isDone
    obtain ⟨code, latched⟩ := inv.sent isSent
    exact ⟨code, latched, by rw [listens, if_pos isSent, latched]⟩

/-- An attachment takes a step. -/
theorem Attachment.Good.progress (prompt : clean → attachment.Prompt) :
    (attachment.progress (system.grid.snapshot engine) system.exited system.closed).Good engine clean
      system := by
  have isCur : Mirror.Published engine system.past (system.grid.snapshot engine) :=
    ⟨system.grid, inv.past.current, rfl⟩
  have newest : ∀ snapshot, Mirror.Published engine system.past snapshot →
      snapshot.revision ≤ (system.grid.snapshot engine).revision := by
    rintro snapshot ⟨earlier, member, rfl⟩
    exact inv.past.ordered earlier member
  refine ⟨?_, ?_, ?_, fun listening => ?_⟩
  · exact good.standing.progress isCur inv.known newest (fun _ phase => good.informed inv phase)
      prompt
  · exact good.sound.progress good.standing.idle
  · exact (progress_kept _ _ _ _).1.trans good.sameId
  · exact (progress_kept _ _ _ _).2.trans (good.listens listening.before)

end Good

variable (inv : Inv engine clean system)
include inv

/-- The exit is broadcast after the latch is set. -/
theorem Inv.unsent (openLatch : system.exited = none) : system.exitSent = false := by
  by_contra isSent
  obtain ⟨_, latched⟩ := inv.sent (by simpa using isSent)
  rw [openLatch] at latched
  contradiction

/-- The latch is set. -/
theorem Attachment.Good.latch (good : attachment.Good engine clean system)
    (openLatch : system.exited = none) (code : Option Int) :
    attachment.Good engine clean { system with exited := some code } := by
  have standing := good.standing
  rw [openLatch] at standing
  refine ⟨standing.latch code, good.sound, good.sameId, fun listening => ?_⟩
  have unsent := inv.unsent openLatch
  have before := good.listens listening
  simpa [unsent] using before

/-- The attachment inspects the latch and lets go of the lock. -/
theorem Attachment.Arriving.inspect (arriving : attachment.Arriving engine system) :
    Attachment.Good engine clean system { attachment with phase := .restoring system.exited } := by
  have account : Accounts system.frames attachment.task
      (· ≤ attachment.task.prevSnapshot.revision) := .of_all arriving.whole
  refine ⟨?_, ?_, arriving.sameId, fun listening => ?_⟩
  · exact .restoring rfl arriving.stage arriving.silent arriving.held arriving.baseline account
      fun code latched => ⟨latched, arriving.whole⟩
  · exact { arriving.sound with }
  · have openLatch : system.exited = none := by
      simpa [Attachment.Listening] using listening
    simpa [inv.unsent openLatch] using arriving.unheard (inv.unsent openLatch)

theorem Inv.session (done : pumpDone = true → system.exitSent = true) :
    Inv engine clean { system with pumpDone := pumpDone, removed := removed } :=
  ⟨inv.past, inv.known, inv.sent, done,
    fun attachment isAttaching => (inv.arriving attachment isAttaching).session,
    fun attachment member => (inv.attached attachment member).session⟩

end Session

theorem arriving_subscribe (inv : Inv engine clean system) (wantRawOutput : Bool) :
    ∀ attachment, (system.subscribe engine wantRawOutput).attaching = some attachment →
      attachment.Arriving engine (system.subscribe engine wantRawOutput) := by
  intro attachment isAttaching
  cases isAttaching
  refine ⟨rfl, rfl, rfl, ⟨system.grid, inv.past.current, rfl⟩, le_refl _, inv.known, ?_, rfl,
    fun _ => rfl⟩
  exact ⟨le_refl _, le_refl _, .nil, by simp [Forwarder.new], by simp [Forwarder.new],
    by simp, rfl⟩

/-- Attachments after one of them has taken a step. -/
theorem mem_modify {change : Attachment → Attachment}
    {other : Attachment} (member : other ∈ attachments.modify index change) :
    other ∈ attachments ∨ ∃ old, attachments[index]? = some old ∧ other = change old := by
  obtain ⟨_, isOther⟩ := mem_iff_getElem?.mp member
  rw [getElem?_modify] at isOther
  split at isOther
  next same =>
    subst same
    obtain ⟨old, isOld, rfl⟩ := Option.map_eq_some_iff.mp isOther
    exact .inr ⟨old, isOld, rfl⟩
  · exact .inl (mem_of_getElem? (by simpa using isOther))

/-- Every step keeps the invariant, in a clean run every prompt one. -/
theorem inv_step {after : System ε} (step : BoundedStep engine system action after)
    (prompt : clean → PromptStep engine system action after) (inv : Inv engine clean system) :
    Inv engine clean after := by
  obtain ⟨rfl, below⟩ := step
  have guarded {enabled : Prop} [Decidable enabled] {next : System ε}
      (kept : enabled → Inv engine clean next) : Inv engine clean (if enabled then next else system) := by
    split
    next isEnabled => exact kept isEnabled
    next => exact inv
  cases action with
  | publish bytes notifications fresh =>
    refine guarded fun ⟨openLatch, free, nonempty⟩ => ?_
    have past := inv.past.mutate engine (.advance bytes fresh) below
    refine ⟨past, fun frame member => ?_, inv.sent, inv.done, ?_, fun attachment member => ?_⟩
    · rcases mem_append.mp member with old | new
      · have before := inv.known frame old
        have next := advance_revision engine system.grid nonempty fresh below
        simp only [System.publish]
        omega
      · rw [mem_singleton.mp new]
        exact le_refl _
    · intro attachment isAttaching
      cases free.symm.trans isAttaching
    · obtain ⟨old, isOld, rfl⟩ := mem_map.mp member
      exact (inv.attached old isOld).publish openLatch nonempty notifications fresh below
  | resize cols rows fresh =>
    refine guarded fun free => ?_
    have past := inv.past.mutate engine (.resize cols rows fresh) below
    have grows : system.grid.revision
        ≤ (system.grid.mutate engine (.resize cols rows fresh)).revision :=
      past.ordered _ (mem_append_left _ inv.past.current)
    refine ⟨past, fun frame member => le_trans (inv.known frame member) grows, inv.sent,
      inv.done, ?_, fun attachment member => (inv.attached attachment member).resize grows⟩
    intro attachment isAttaching
    cases free.symm.trans isAttaching
  | latch code =>
    refine guarded fun openLatch => ?_
    exact ⟨inv.past, inv.known, fun _ => ⟨code, rfl⟩, inv.done,
      fun attachment isAttaching => (inv.arriving attachment isAttaching).session,
      fun attachment member => (inv.attached attachment member).latch inv openLatch code⟩
  | broadcastExit =>
    simp only [System.step]
    split
    next code latched =>
      split
      · exact inv
      · refine ⟨inv.past, inv.known, fun _ => ⟨code, latched⟩, fun _ => rfl, ?_, ?_⟩
        · intro attachment isAttaching
          obtain ⟨old, isOld, rfl⟩ := Option.map_eq_some_iff.mp isAttaching
          have arriving := inv.arriving old isOld
          exact { arriving with sound := arriving.sound.notifyExit code, unheard := by simp }
        · intro attachment member
          obtain ⟨old, isOld, rfl⟩ := mem_map.mp member
          exact (inv.attached old isOld).notifyExit latched
    · exact inv
  | endPump => exact guarded fun isSent => inv.session fun _ => isSent
  | remove => exact guarded fun _ => inv.session inv.done
  | subscribe wantRawOutput =>
    exact guarded fun _ => ⟨inv.past, inv.known, inv.sent, inv.done,
      arriving_subscribe inv wantRawOutput,
      fun attachment member => (inv.attached attachment member).session⟩
  | inspect =>
    simp only [System.step]
    split
    next arrived isAttaching =>
      refine ⟨inv.past, inv.known, inv.sent, inv.done, by simp, forall_mem_append.mpr
        ⟨fun attachment old => (inv.attached attachment old).session, ?_⟩⟩
      exact forall_mem_singleton.mpr ((inv.arriving arrived isAttaching).inspect inv).session
    · exact inv
  | advance index =>
    refine ⟨inv.past, inv.known, inv.sent, inv.done,
      fun attachment isAttaching => (inv.arriving attachment isAttaching).session,
      fun attachment member => ?_⟩
    rcases mem_modify member with old | ⟨old, isOld, rfl⟩
    · exact (inv.attached attachment old).session
    · have good := inv.attached old (mem_of_getElem? isOld)
      exact (good.progress inv fun isClean => (prompt isClean).2 index rfl old isOld).session

end Steps

/-! ## How many steps are left -/

/-- The exit has been sent. -/
def Attachment.Over : Prop :=
  ∃ event ∈ attachment.task.sent, isExit event = true
  deriving Decidable

/-- Steps from a look to the end, if there is nothing to receive. -/
def Looking.work : Looking → Nat
  | .output => 4
  | .exit => 3
  | .resync => 9

/-- Steps from the place of an attachment to the end, if there is nothing to receive. -/
def Attachment.placeWork : Nat :=
  match attachment.phase with
  | .restoring _ => 5
  | .announcing _ => 1
  | .announced => 0
  | .forwarding looking =>
    match attachment.task.stage with
    | .receiving => looking.work
    | .relaying events _ => events.length + 9
    | .publishing events _ => events.length + 5
    | .finishing events => events.length + 1
    | .stopped => 0

/-- Steps that an attachment takes at most until the exit is sent, once nothing more is published. -/
def Attachment.work : Nat :=
  attachment.placeWork
    + (attachment.task.backlog.map (fun frame => frame.notifications.length + 8)).sum
    + if attachment.task.lagged then 8 else 0

section Work

open Attachment (work placeWork)

variable {attachment} {cur : StampedSnapshot} {exited : Option (Option Int)}
  {clean} {closed : Bool} (task : Forwarder)

theorem onFrame_stage (frame : OutputFrame) :
    ∃ events diff, (task.onFrame frame).stage = .relaying events diff ∧
      events.length ≤ frame.notifications.length + 1 ∧
      (task.onFrame frame).backlog = task.backlog ∧ (task.onFrame frame).lagged = task.lagged := by
  obtain ⟨_, _, isNext, isRaw, _⟩ := onFrame_spec task frame
  rw [isNext]
  refine ⟨_, _, rfl, ?_, rfl, rfl⟩
  rcases isRaw with rfl | ⟨_, _, _, rfl⟩ <;> split <;> simp

theorem onSnapshot_stage (cur : StampedSnapshot) :
    (task.onSnapshot cur).backlog = task.backlog ∧ (task.onSnapshot cur).lagged = task.lagged ∧
      ((task.onSnapshot cur).stage = .receiving ∨
        ∃ events, (task.onSnapshot cur).stage = .publishing events cur ∧ events.length ≤ 2) := by
  unfold Forwarder.onSnapshot
  split
  · exact ⟨rfl, rfl, .inl rfl⟩
  · exact ⟨rfl, rfl, .inr ⟨_, rfl, by simp⟩⟩
  · exact ⟨rfl, rfl, .inr ⟨_, rfl, by simp⟩⟩

/-- With the exit in its receiver, every look brings the task on. -/
theorem work_look (phase : attachment.phase = .forwarding looking)
    (stage : attachment.task.stage = .receiving) (isExit : attachment.exitReceiver = some code) :
    (attachment.look cur exited closed looking).work < attachment.work := by
  have before : attachment.work = looking.work
      + (attachment.task.backlog.map (fun frame => frame.notifications.length + 8)).sum
      + if attachment.task.lagged then 8 else 0 := by
    simp [work, placeWork, phase, stage]
  rw [before]
  cases looking with
  | output =>
    simp only [Attachment.look]
    split
    · simp only [work, placeWork, stage, Looking.work, Bool.false_eq_true, if_false]
      omega
    next whole =>
      split
      next frame rest backlog =>
        obtain ⟨_, _, isStage, _, sameBacklog, sameLag⟩ :=
          onFrame_stage { attachment.task with backlog := rest } frame
        simp only [work, placeWork, phase, isStage, sameLag, Looking.work,
          sameBacklog, backlog, if_neg whole, map_cons, sum_cons]
        omega
      · split
        · simp only [work, placeWork, Attachment.finish, phase, Looking.work,
            if_neg whole, length_singleton]
          omega
        · simp only [work, placeWork, stage, Looking.work, if_neg whole]
          omega
  | exit =>
    simp only [Attachment.look, isExit, work, placeWork, Looking.work,
      Attachment.finish, phase, length_singleton]
    omega
  | resync =>
    simp only [Attachment.look, work, placeWork, Forwarder.onLagged, Looking.work]
    simp only [length_cons, length_nil, Bool.false_eq_true, if_false]
    split <;> omega

/-- Between two waits, too. -/
theorem work_forward (phase : attachment.phase = .forwarding looking)
    (busy : attachment.task.stage ≠ .receiving) (running : attachment.task.stage ≠ .stopped)
    (looks : looking = .output ∨ ∃ events, attachment.task.stage = .finishing events) :
    work { attachment with task := (attachment.task.progress cur none).1 }
      < attachment.work := by
  cases pending : attachment.task.stage.pending with
  | cons =>
    rw [progress_pending pending]
    cases stage : attachment.task.stage with
    | receiving | stopped => simp [stage, Stage.pending] at pending
    | relaying | publishing | finishing =>
      simp only [stage, Stage.pending] at pending
      simp only [work, placeWork, phase, stage, pending, Stage.advance, tail_cons, length_cons]
      omega
  | nil =>
    rw [progress_done pending]
    cases stage : attachment.task.stage with
    | receiving => exact absurd stage busy
    | stopped => exact absurd stage running
    | relaying events diff =>
      obtain rfl : looking = .output := looks.resolve_right (by simp [stage])
      obtain ⟨sameBacklog, sameLag, isStage⟩ := onSnapshot_stage attachment.task cur
      simp only [work, placeWork, phase, stage, Forwarder.resume]
      cases diff with
      | true =>
        simp only [if_true, sameBacklog, sameLag]
        rcases isStage with isStage | ⟨events, isStage, short⟩ <;> simp only [isStage, Looking.work]
          <;> omega
      | false =>
        simp only [Bool.false_eq_true, if_false, Looking.work]
        omega
    | publishing =>
      obtain rfl : looking = .output := looks.resolve_right (by simp [stage])
      simp only [work, placeWork, phase, stage, Forwarder.resume, Looking.work]
      omega
    | finishing =>
      simp only [work, placeWork, phase, stage, Forwarder.resume]
      omega

theorem Ended.over (ended : Ended id exited attachment.task.sent) : attachment.Over := by
  obtain ⟨_, code, _, isSent, _⟩ := ended
  exact ⟨.sessionExited id code, by rw [isSent]; simp, rfl⟩

variable {published : StampedSnapshot → Prop} {frames : List OutputFrame}

/-- An attachment that has not sent the exit comes closer to it with every step. -/
theorem Standing.work_progress
    (standing : Standing clean published frames exited attachment) (cur : StampedSnapshot) (closed : Bool)
    (notOver : ¬ attachment.Over) (heard : ∀ looking, attachment.phase = .forwarding looking →
      ∃ code, attachment.exitReceiver = some code) :
    (attachment.progress cur exited closed).work < attachment.work := by
  cases standing with
  | @restoring already phase stage =>
    simp only [Attachment.progress, phase, Attachment.send, work, placeWork, stage]
    cases already with
    | none =>
      simp only [Looking.work]
      omega
    | some =>
      dsimp only
      omega
  | announcing phase =>
    simp only [Attachment.progress, phase, Attachment.send, work, placeWork]
    omega
  | announced _ _ ended | finished _ _ ended => exact absurd ended.over notOver
  | waiting phase stage =>
    obtain ⟨_, isExit⟩ := heard _ phase
    rw [progress_forwarding phase, if_pos stage]
    exact work_look phase stage isExit
  | relaying phase stage | publishing phase stage =>
    rw [progress_forwarding phase, if_neg (by simp [stage])]
    exact work_forward phase (by simp [stage]) (by simp [stage]) (.inl rfl)
  | finishing phase stage =>
    rw [progress_forwarding phase, if_neg (by simp [stage])]
    exact work_forward phase (by simp [stage]) (by simp [stage]) (.inr ⟨_, stage⟩)

theorem NoExit.notOver (silent : NoExit attachment.task.sent) : ¬ attachment.Over := by
  rintro ⟨event, member, isExit⟩
  rw [silent event member] at isExit
  contradiction

/-- Where the exit has been sent, it ended everything, and it stays sent. -/
theorem Standing.ended
    (standing : Standing clean published frames exited attachment) (isOver : attachment.Over) :
    Ended attachment.task.id exited attachment.task.sent ∧
      attachment.Displaying published ∧ (clean → attachment.CoversAll published frames) ∧
      attachment.task.stage.pending = [] ∧ ∀ cur closed,
        (attachment.progress cur exited closed).Over := by
  cases standing with
  | restoring _ _ silent =>
    exact absurd isOver (NoExit.notOver (by simp [NoExit, silent]))
  | announcing _ _ _ silent | finishing _ _ _ silent | waiting _ _ silent | relaying _ _ silent
  | publishing _ _ silent => exact absurd isOver silent.notOver
  | announced phase stage ended displays covered =>
    refine ⟨ended, displays, fun _ => covered, by rw [stage]; rfl, fun cur closed => ?_⟩
    simp only [Attachment.progress, phase]
    exact isOver
  | finished phase stage ended displays covered =>
    refine ⟨ended, displays, covered, ?_, fun cur closed => ?_⟩
    · rcases stage with stage | stage <;> rw [stage] <;> rfl
    · rcases stage with stage | stage <;> rw [progress_forwarding phase,
        if_neg (by simp [stage])] <;>
        simpa [Attachment.Over, Forwarder.progress, stage, Stage.pending, Forwarder.resume]
          using isOver

/-- An attachment with no steps left has sent the exit. -/
theorem Standing.over_of_done (standing : Standing clean published frames exited attachment)
    (nothingLeft : attachment.work = 0) : attachment.Over := by
  have place : attachment.placeWork = 0 := by
    unfold work at nothingLeft
    omega
  cases standing with
  | announced _ _ ended | finished _ _ ended => exact ended.over
  | restoring phase | announcing phase => simp [placeWork, phase] at place
  | @waiting looking phase stage =>
    cases looking <;> simp [placeWork, phase, stage, Looking.work] at place
  | relaying phase stage | publishing phase stage | finishing phase stage =>
    simp [placeWork, phase, stage] at place

end Work

section Runs

variable {engine clean attachment}

/-- After the broadcast an attachment is changed by its own steps only. -/
theorem attachment_after_broadcast {before after : System ε}
    (step : BoundedStep engine before action after)
    (inv : Inv engine clean before) (isSent : before.exitSent = true)
    (isAttachment : before.attachments[index]? = some attachment) :
    after.exitSent = true ∧ after.attachments[index]? = some
      (if action = .advance index then
        attachment.progress (before.grid.snapshot engine) before.exited before.closed
      else attachment) := by
  obtain ⟨rfl, _⟩ := step
  obtain ⟨_, latched⟩ := inv.sent isSent
  cases action with
  | publish | latch | broadcastExit | endPump =>
    simp [System.step, latched, isSent, isAttachment]
  | resize | remove =>
    simp only [System.step]
    split <;> simp [isSent, isAttachment]
  | subscribe =>
    simp only [System.step]
    split <;> simp [System.subscribe, isSent, isAttachment]
  | inspect =>
    simp only [System.step]
    split
    · obtain ⟨inRange, _⟩ := List.getElem?_eq_some_iff.mp isAttachment
      simp [isSent, getElem?_append_left inRange, isAttachment]
    · simp [isSent, isAttachment]
  | advance =>
    refine ⟨isSent, ?_⟩
    simp only [System.step, getElem?_modify, isAttachment, Action.advance.injEq]
    split <;> simp

/-- From the broadcast on, an attachment that goes on taking steps sends the exit. -/
theorem exit_sent_of_steps (run : Run (BoundedStep engine) first actions last)
    (inv : Inv engine False first) (isSent : first.exitSent = true)
    (isAttachment : first.attachments[index]? = some attachment)
    (enough : attachment.Over ∨ attachment.work ≤ actions.count (.advance index)) :
    ∃ other, last.attachments[index]? = some other ∧ other.Over := by
  induction run generalizing attachment with
  | nil =>
    have good := inv.attached attachment (mem_of_getElem? isAttachment)
    refine ⟨attachment, isAttachment, ?_⟩
    rcases enough with isOver | none
    · exact isOver
    · exact good.standing.over_of_done (Nat.le_zero.mp none)
  | @cons before _ _ action _ step _ ih =>
    have good := inv.attached attachment (mem_of_getElem? isAttachment)
    obtain ⟨stillSent, isNext⟩ := attachment_after_broadcast step inv isSent isAttachment
    refine ih (inv_step step False.elim inv) stillSent isNext ?_
    by_cases own : action = .advance index
    · rw [if_pos own]
      rw [own, count_cons_self] at enough
      by_cases isOver : attachment.Over
      · exact .inl ((good.standing.ended isOver).2.2.2.2 _ _)
      · have heard : ∀ looking, attachment.phase = .forwarding looking →
            ∃ code, attachment.exitReceiver = some code := by
          intro looking phase
          obtain ⟨code, latched⟩ := inv.sent isSent
          exact ⟨code, by rw [good.listens (.inr ⟨looking, phase⟩), if_pos isSent, latched]⟩
        have closer := good.standing.work_progress (before.grid.snapshot engine) before.closed
          isOver heard
        have bound := enough.resolve_left isOver
        exact .inr (by omega)
    · rw [if_neg own]
      rwa [count_cons_of_ne own] at enough

end Runs

/-! ## Delivery -/

/-- What an attachment has done for its client, in any schedule. -/
structure Delivered (index : Nat)
    (attachment : Attachment) : Prop where
  /-- The exit is sent once, with the code of the latch, and it is the last event. -/
  exitLast : attachment.Over → Ended system.id system.exited attachment.task.sent
  /-- Sent or about to be sent are the notifications of the frames received, each once, in order. -/
  noticesInOrder : (attachment.task.sent ++ attachment.task.stage.pending).filter isNotice =
    (attachment.received.filter (fun frame =>
      decide (attachment.snapshotRevision < frame.revision))).flatMap (noticesOf system.id)
  /-- None is left when the exit is sent. -/
  noticesSent : attachment.Over → attachment.task.stage.pending = []
  /-- Once the exit is broadcast, so many steps of the attachment are enough. -/
  exitReached : system.exitSent = true → ∀ more last, Run (BoundedStep engine) system more last →
    attachment.work ≤ more.count (.advance index) →
    ∃ other, last.attachments[index]? = some other ∧ other.Over

/-- In every run each attachment delivers the exit once and last. In a prompt one it has shown all
output before the exit. -/
theorem session_exit_delivered (engine : Engine ε) (id : SessionId) (cols rows : Nat)
    (generation : SessionGeneration) {actions : List Action} {system : System ε}
    (run : Run (BoundedStep engine) (System.new engine id cols rows generation) actions system) :
    ∀ index attachment, system.attachments[index]? = some attachment →
      Delivered engine system index attachment ∧
      (Run (PromptStep engine) (System.new engine id cols rows generation) actions system →
        attachment.Over → ∀ frame ∈ system.frames,
          Reflected engine system attachment.task.sent frame) := by
  intro index attachment isAttachment
  have new (clean : Prop) := inv_new engine clean id cols rows generation
  have inv := run.invariant (new False) fun step => inv_step step False.elim
  have good := inv.attached attachment (mem_of_getElem? isAttachment)
  have allAbove : attachment.received.filter (fun frame =>
      decide (attachment.snapshotRevision < frame.revision)) = attachment.received := by
    rw [filter_eq_self]
    exact fun frame member => decide_eq_true (good.sound.received frame member)
  refine ⟨⟨fun isOver => ?_, ?_, ?_, ?_⟩, fun promptRun isOver frame member => ?_⟩
  · rw [← good.sameId]
    exact (good.standing.ended isOver).1
  · rw [allAbove, ← good.sameId]
    exact good.sound.notices
  · exact fun isOver => (good.standing.ended isOver).2.2.2.1
  · exact fun isSent more last later enough =>
      exit_sent_of_steps later inv isSent isAttachment (.inr enough)
  · have cleanInv := promptRun.invariant (new True) fun step => inv_step step.1 fun _ => step
    have shown := (cleanInv.attached attachment (mem_of_getElem? isAttachment)).standing
    obtain ⟨_, displays, covered, _⟩ := shown.ended isOver
    exact ⟨_, displays, covered trivial frame member⟩

/-! ## Two schedules -/

/-- The conditions of a prompt step, checked. -/
def promptCheck (system : System ε) (action : Action) : Bool :=
  decide (system.grid.revision + 1 < u64Ceiling) &&
    match action with
    | .advance index => system.attachments[index]?.all fun attachment => decide attachment.Prompt
    | _ => true

theorem promptStep_of_check (system : System ε) (action : Action)
    (checked : promptCheck system action = true) :
    PromptStep engine system action (system.step engine action) := by
  obtain ⟨below, prompt⟩ := Bool.and_eq_true_iff.mp checked
  refine ⟨⟨rfl, of_decide_eq_true below⟩, ?_⟩
  rintro index rfl attachment isAttachment
  simpa [isAttachment] using prompt

/-- A session with a small screen. -/
def smallSession : System SmallTerm := System.new smallEngine "s" 4 2 "g"

/-- The last output comes before the task looks; it is relayed, and then the exit. -/
def orderlyEnd : List Action :=
  [.subscribe false, .inspect, .advance 0, .publish (ascii "ab") [.bell] "h", .latch (some 0),
    .broadcastExit, .endPump, .remove]
    ++ List.replicate 9 (.advance 0)

/-- What the attachment of that session has in the end. -/
theorem session_exit_delivered_orderly :
    ∃ attachment, (orderlyEnd.foldl (System.step smallEngine) smallSession).attachments[0]?
        = some attachment ∧ attachment.Over ∧ attachment.received.length = 1 ∧
      Delivered smallEngine (orderlyEnd.foldl (System.step smallEngine) smallSession) 0
        attachment ∧
      ∀ frame ∈ (orderlyEnd.foldl (System.step smallEngine) smallSession).frames,
        Reflected smallEngine (orderlyEnd.foldl (System.step smallEngine) smallSession)
          attachment.task.sent frame := by
  have facts : (orderlyEnd.foldl (System.step smallEngine) smallSession).attachments[0]?.any
      (fun attachment => decide (attachment.Over ∧ attachment.received.length = 1)) = true := by
    decide +kernel
  obtain ⟨attachment, isAttachment, holds⟩ := (Option.any_eq_true _ _).mp facts
  obtain ⟨isOver, received⟩ := of_decide_eq_true holds
  have checked : checks (System.step smallEngine) promptCheck smallSession orderlyEnd = true := by
    decide +kernel
  obtain ⟨delivered, shown⟩ := session_exit_delivered smallEngine "s" 4 2 "g"
    (.of_checks (fun system action checked => (promptStep_of_check smallEngine system action checked).1)
      checked) 0 attachment isAttachment
  exact ⟨attachment, isAttachment, isOver, received, delivered,
    shown (.of_checks (promptStep_of_check smallEngine) checked) isOver⟩

/-- The task has looked for output when the last output and the exit come, and looks for the exit
next. -/
def overtakenEnd : List Action :=
  [.subscribe false, .inspect, .advance 0, .advance 0, .publish (ascii "ab") [.bell] "h",
    .latch (some 0), .broadcastExit, .advance 0, .advance 0, .advance 0]

/-- A client that was sent one grid and the exit has no output that changed the screen since. -/
theorem not_reflected {engine : Engine ε} {system : System ε} {sent : List DaemonEvent}
    {screen : GridSnapshot} {frame : OutputFrame}
    (isSent : sent = [.grid id screen, .sessionExited id code])
    (stale : ∀ shown ∈ system.past, screen = (shown.snapshot engine).toGridSnapshot →
      ∀ cur ∈ system.past, frame.revision ≤ (cur.snapshot engine).revision →
        cur.snapshot engine ≠ shown.snapshot engine ∧
          generateDamage (shown.snapshot engine) (cur.snapshot engine) ≠ .noChange) :
    ¬ Reflected engine system sent frame := by
  subst isSent
  rintro ⟨_, ⟨⟨shown, isShown, rfl⟩, same⟩, _, ⟨cur, isCur, rfl⟩, reaches, unchanged⟩
  obtain ⟨differs, visible⟩ := stale shown isShown same cur isCur reaches
  rcases unchanged with isSame | noChange
  · exact differs isSame
  · exact visible noChange

/-- The client is sent the exit and never the last output. -/
theorem overtaken_output_lost :
    ∃ attachment ∈ (overtakenEnd.foldl (System.step smallEngine) smallSession).attachments,
      ∃ frame ∈ (overtakenEnd.foldl (System.step smallEngine) smallSession).frames,
        attachment.Over ∧ ¬ Reflected smallEngine
          (overtakenEnd.foldl (System.step smallEngine) smallSession) attachment.task.sent frame := by
  have facts : (overtakenEnd.foldl (System.step smallEngine) smallSession).attachments.any
      (fun attachment => decide (attachment.Over ∧ attachment.task.sent =
        [.grid "s" (smallSession.grid.snapshot smallEngine).toGridSnapshot,
          .sessionExited "s" (some 0)])) = true := by
    decide +kernel
  obtain ⟨attachment, member, holds⟩ := any_eq_true.mp facts
  obtain ⟨isOver, isSent⟩ := of_decide_eq_true holds
  refine ⟨attachment, member, ⟨1, ascii "ab", [.bell]⟩, by decide +kernel, isOver, ?_⟩
  exact not_reflected isSent (by decide +kernel)

end HydraTerm.Exit
