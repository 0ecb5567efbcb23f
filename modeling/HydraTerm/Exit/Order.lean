import HydraTerm.Exit.Invariant

/-!
# Frames and notifications in order

Frames wait in a receiver in the order of their revisions, above the last frame whose notifications
went out. So the test for notifications that were sent before never drops any, and the notifications
that are sent or about to be sent are those of the frames taken off the receiver, in order. Frames
that the receiver has lost take no part in this.
-/

namespace HydraTerm.Exit

open Grid Daemon Lib List

/-- What a task has sent and what it is about to send. -/
def outgoing (task : Forwarder) : List DaemonEvent := task.sent ++ task.stage.pending

/-- The order of an attachment's frames and notifications, with frames up to a revision. -/
structure Attachment.Sound (latest : Nat) (attachment : Attachment) : Prop where
  above : attachment.snapshotRevision ≤ attachment.task.notificationsThroughRevision
  through : attachment.task.notificationsThroughRevision ≤ latest
  ordered : attachment.task.backlog.Pairwise (fun one other => one.revision < other.revision)
  fresh : ∀ frame ∈ attachment.task.backlog,
    attachment.task.notificationsThroughRevision < frame.revision
  known : ∀ frame ∈ attachment.task.backlog, frame.revision ≤ latest
  received : ∀ frame ∈ attachment.received, attachment.snapshotRevision < frame.revision
  notices : (outgoing attachment.task).filter isNotice =
    attachment.received.flatMap (noticesOf attachment.task.id)

section Steps

variable {attachment : Attachment} {cur : StampedSnapshot} {exited : Option (Option Int)}
  {closed : Bool} {latest later : Nat}

theorem Attachment.Sound.mono (sound : attachment.Sound latest) (grows : latest ≤ later) :
    attachment.Sound later :=
  { sound with
    through := le_trans sound.through grows
    known := fun frame member => le_trans (sound.known frame member) grows }

/-- The exit receiver takes no part in the order. -/
theorem Attachment.Sound.notifyExit (sound : attachment.Sound latest) (code : Option Int) :
    (attachment.notifyExit code).Sound latest :=
  { sound with }

/-- Publishing changes the output receiver, which keeps the last of its frames. -/
theorem publish_receivers (attachment : Attachment) (frame : OutputFrame) :
    ∃ backlog lagged, backlog.Sublist (attachment.task.backlog ++ [frame]) ∧
      attachment.publish frame
        = attachment.withReceivers backlog lagged attachment.exitReceiver := by
  exact ⟨_, _, drop_sublist _ _, rfl⟩

variable {frame : OutputFrame}

/-- A new frame is newer than all before it. -/
theorem Attachment.Sound.publish (sound : attachment.Sound latest)
    (newer : latest < frame.revision) : (attachment.publish frame).Sound frame.revision := by
  obtain ⟨backlog, _, kept, published⟩ := publish_receivers attachment frame
  rw [published]
  have through : attachment.task.notificationsThroughRevision < frame.revision :=
    lt_of_le_of_lt sound.through newer
  have cases : ∀ other ∈ backlog, other ∈ attachment.task.backlog ∨ other = frame := by
    intro other member
    have whole := kept.subset member
    rwa [mem_append, mem_singleton] at whole
  refine ⟨sound.above, le_of_lt through, ?_, ?_, ?_, sound.received, sound.notices⟩
  · have extended : (attachment.task.backlog ++ [frame]).Pairwise
        (fun one other => one.revision < other.revision) := by
      rw [pairwise_append]
      refine ⟨sound.ordered, pairwise_singleton _ _, fun one isOld other isNew => ?_⟩
      rw [mem_singleton.mp isNew]
      exact lt_of_le_of_lt (sound.known one isOld) newer
    exact extended.sublist kept
  · intro other member
    rcases cases other member with old | rfl
    · exact sound.fresh other old
    · exact through
  · intro other member
    rcases cases other member with old | rfl
    · exact le_of_lt (lt_of_le_of_lt (sound.known other old) newer)
    · exact le_refl _

theorem filter_notices (id : SessionId) (frame : OutputFrame) :
    (noticesOf id frame).filter isNotice = noticesOf id frame := by
  rw [filter_eq_self]
  intro event member
  obtain ⟨notification, _, rfl⟩ := mem_map.mp member
  cases notification <;> rfl

/-- A frame with unsent notifications makes the task relay them. -/
theorem onFrame_notices {task : Forwarder}
    (unseen : task.notificationsThroughRevision < frame.revision) :
    (task.onFrame frame).stage.pending.filter isNotice = noticesOf task.id frame := by
  obtain ⟨raw, _, isNext, isRaw, _⟩ := onFrame_spec task frame
  rw [isNext, if_pos unseen]
  have noRaw : raw.filter isNotice = [] := by
    rcases isRaw with rfl | ⟨_, _, _, rfl⟩ <;> rfl
  rw [Stage.pending, filter_append, noRaw, append_nil]
  exact filter_notices task.id frame

/-- Between two waits a task does not touch its receiver or add a notification. -/
theorem progress_quiet (cur : StampedSnapshot) (task : Forwarder) (busy : task.stage ≠ .receiving) :
    (task.progress cur none).1.id = task.id ∧
      (task.progress cur none).1.backlog = task.backlog ∧
      (task.progress cur none).1.notificationsThroughRevision
        = task.notificationsThroughRevision ∧
      (outgoing (task.progress cur none).1).filter isNotice = (outgoing task).filter isNotice := by
  cases pending : task.stage.pending with
  | cons =>
    rw [progress_pending pending]
    simp [outgoing, Stage.pending_advance pending, pending]
  | nil =>
    rw [progress_done pending]
    cases stage : task.stage with
    | receiving => exact absurd stage busy
    | relaying =>
      rw [stage] at pending
      simp only [Forwarder.resume, stage, outgoing, pending]
      split
      · unfold Forwarder.onSnapshot
        split <;> simp [Stage.pending, isNotice]
      · simp [Stage.pending]
    | publishing | finishing | stopped => simp_all [Forwarder.resume, outgoing, Stage.pending]

/-- Steps that leave the receiver and the notifications alone keep the order. -/
theorem Attachment.Sound.quiet {other : Attachment} (sound : attachment.Sound latest)
    (sameRevision : other.snapshotRevision = attachment.snapshotRevision)
    (sameReceived : other.received = attachment.received)
    (sameId : other.task.id = attachment.task.id)
    (sameBacklog : other.task.backlog = attachment.task.backlog)
    (sameThrough : other.task.notificationsThroughRevision
      = attachment.task.notificationsThroughRevision)
    (sameNotices : (outgoing other.task).filter isNotice
      = (outgoing attachment.task).filter isNotice) : other.Sound latest := by
  constructor
  · rw [sameRevision, sameThrough]
    exact sound.above
  · rw [sameThrough]
    exact sound.through
  · rw [sameBacklog]
    exact sound.ordered
  · rw [sameBacklog, sameThrough]
    exact sound.fresh
  · rw [sameBacklog]
    exact sound.known
  · rw [sameReceived, sameRevision]
    exact sound.received
  · rw [sameNotices, sameReceived, sameId]
    exact sound.notices

section

variable (sound : attachment.Sound latest) (stage : attachment.task.stage = .receiving)
include sound stage

/-- A frame comes off the receiver. -/
theorem Attachment.Sound.take {rest : List OutputFrame}
    (backlog : attachment.task.backlog = frame :: rest) :
    Attachment.Sound latest { attachment with
      task := { attachment.task with backlog := rest }.onFrame frame
      received := attachment.received ++ [frame] } := by
  have unseen := sound.fresh frame (by rw [backlog]; exact mem_cons_self)
  have ordered := sound.ordered
  rw [backlog, pairwise_cons] at ordered
  have relayed : ({ attachment.task with backlog := rest }.onFrame frame
      ).stage.pending.filter isNotice = noticesOf attachment.task.id frame :=
    onFrame_notices unseen
  obtain ⟨_, _, isNext, _⟩ := onFrame_spec { attachment.task with backlog := rest } frame
  rw [max_eq_right (le_of_lt unseen)] at isNext
  rw [isNext] at relayed ⊢
  have known : ∀ other ∈ frame :: rest, other.revision ≤ latest := backlog ▸ sound.known
  constructor
  · exact le_of_lt (lt_of_le_of_lt sound.above unseen)
  · exact known frame mem_cons_self
  · exact ordered.2
  · exact ordered.1
  · exact fun other member => known other (mem_cons_of_mem _ member)
  · exact forall_mem_append.mpr
      ⟨sound.received, forall_mem_singleton.mpr (lt_of_le_of_lt sound.above unseen)⟩
  · have before := sound.notices
    rw [outgoing, stage, Stage.pending, append_nil] at before
    rw [outgoing, filter_append, relayed, before, flatMap_append, flatMap_singleton]

theorem Attachment.Sound.finish (code : Option Int) : (attachment.finish code).Sound latest := by
  refine sound.quiet rfl rfl rfl rfl rfl ?_
  simp [outgoing, Attachment.finish, stage, Stage.pending, isNotice]

theorem Attachment.Sound.look (looking : Looking) :
    (attachment.look cur exited closed looking).Sound latest := by
  cases looking with
  | output =>
    simp only [Attachment.look]
    split
    · exact sound.quiet rfl rfl rfl rfl rfl rfl
    · split
      next backlog =>
        exact sound.take stage backlog
      · split
        · exact sound.finish stage _
        · exact sound.quiet rfl rfl rfl rfl rfl rfl
  | exit =>
    simp only [Attachment.look]
    split
    · exact sound.finish stage _
    · split
      · exact sound.finish stage _
      · exact sound.quiet rfl rfl rfl rfl rfl rfl
  | resync =>
    refine sound.quiet rfl rfl rfl rfl rfl ?_
    simp [outgoing, Attachment.look, Forwarder.onLagged, stage, Stage.pending, isNotice]

end

/-- Every step of an attachment keeps the order. `idle` is that its task has not begun. -/
theorem Attachment.Sound.progress (sound : attachment.Sound latest)
    (idle : (∀ looking, attachment.phase ≠ .forwarding looking) →
      attachment.task.stage = .receiving) :
    (attachment.progress cur exited closed).Sound latest := by
  cases phase : attachment.phase with
  | forwarding looking =>
    rw [progress_forwarding phase]
    split
    next stage =>
      exact sound.look stage looking
    next busy =>
      obtain ⟨sameId, sameBacklog, sameThrough, sameNotices⟩ :=
        progress_quiet cur attachment.task busy
      exact sound.quiet rfl rfl sameId sameBacklog sameThrough sameNotices
  | restoring | announcing =>
    have stage := idle (by simp [phase])
    refine sound.quiet ?_ ?_ ?_ ?_ ?_ ?_ <;>
      simp [Attachment.progress, phase, Attachment.send, outgoing, stage, Stage.pending, isNotice]
  | announced =>
    simp only [Attachment.progress, phase]
    exact sound

end Steps

end HydraTerm.Exit
