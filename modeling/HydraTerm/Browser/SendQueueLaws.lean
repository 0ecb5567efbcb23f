import HydraTerm.Browser.SendQueue

/-!
# What the send queue guarantees

Over every sequence of calls, answers of the channel and runs of scheduled tasks: each class sends
what was admitted, in that order and without gaps; the counters are those of the contents and keep
their caps; while bulk work waits, bulk is served after a bounded number of foreground operations;
and the queue never rests with work unless a task will come or the buffer was above the mark at which
the channel reports it low.

The invariant has a part for each of these. A drain keeps them turn by turn (`TurnCase`), and a turn
after which the loop stops leaves the queue awake.
-/

namespace HydraTerm.Browser.SendQueue

open List

/-! ## Histories -/

/-- The items that were sent in a class. -/
def sentItems (priority : Priority) (history : List SendEvent) : List QueuedSend :=
  history.filterMap fun
    | .sent of item _ _ => if of = priority then some item else none
    | _ => none

/-- The operations that were admitted to a class. -/
def admittedOperations (priority : Priority) (history : List SendEvent) : List (List QueuedSend) :=
  history.filterMap fun
    | .admitted of items => if of = priority then some items else none
    | _ => none

/-- The buffered amount that was read last. -/
def lastRead (history : List SendEvent) : Option Nat :=
  history.foldl (fun last event => match event with | .read amount => some amount | _ => last) none

variable (segment : List SendEvent)

/-- No bulk item was sent. -/
def NoBulkSent : Prop :=
  ∀ item finishes bulkPending, .sent .bulk item finishes bulkPending ∉ segment

/-- The foreground operations that were finished while bulk work waited. -/
def operationsFinished : Nat :=
  segment.countP fun | .sent .foreground _ true true => true | _ => false

/-- A foreground operation was begun or went on while bulk work waited, and is not finished. -/
def operationOpen : Bool :=
  segment.foldl (fun isOpen event => match event with
    | .sent .foreground _ finishes true => !finishes
    | _ => isOpen) false

/-- The foreground operations of which something was sent while bulk work waited. -/
def operationsSent : Nat :=
  operationsFinished segment + (operationOpen segment).toNat

/-- Between two bulk items, or after the last, no more foreground operations than the limit are sent
while bulk work waits. -/
def BurstLimited (limit : Nat) (history : List SendEvent) : Prop :=
  ∀ segment, segment <:+: history → NoBulkSent segment → operationsSent segment ≤ limit

/-- What was sent since the last bulk item: at most so many operations were finished, and one is open
only if `isOpen`. -/
def Recent (history : List SendEvent) (finished : Nat) (isOpen : Prop) : Prop :=
  ∀ segment, segment <:+ history → NoBulkSent segment →
    operationsFinished segment ≤ finished ∧ (operationOpen segment = true → isOpen)

section

variable {history : List SendEvent} {event : SendEvent} {finished limit : Nat} {isOpen : Prop}

/-- One more event: only what ends in it is new. -/
theorem recent_concat {before : Prop} {count : Nat} (recent : Recent history count before)
    (counted : ∀ segment, operationsFinished segment ≤ count →
      (operationOpen segment = true → before) →
      operationsFinished (segment ++ [event]) ≤ finished ∧
        (operationOpen (segment ++ [event]) = true → isOpen)) :
    Recent (history ++ [event]) finished isOpen := by
  intro segment isEnd noBulk
  rcases suffix_concat_iff.mp isEnd with rfl | ⟨segment, rfl, earlier⟩
  · exact ⟨Nat.zero_le _, nofun⟩
  · have noBulkBefore : NoBulkSent segment := fun item finishes bulkPending inside =>
      noBulk item finishes bulkPending (mem_append_left _ inside)
    obtain ⟨atMost, opens⟩ := recent segment earlier noBulkBefore
    exact counted segment atMost opens

/-- Nothing has been sent at the start. -/
theorem recent_nil : Recent [] finished isOpen := by
  intro segment isEnd _
  rw [suffix_nil.mp isEnd]
  exact ⟨Nat.zero_le _, nofun⟩

/-- After a bulk item the count begins anew. -/
theorem recent_bulk (item : QueuedSend) (finishes bulkPending : Bool) :
    Recent (history ++ [.sent .bulk item finishes bulkPending]) finished isOpen := by
  intro segment isEnd noBulk
  rcases suffix_concat_iff.mp isEnd with rfl | ⟨segment, rfl, -⟩
  · exact ⟨Nat.zero_le _, nofun⟩
  · exact absurd (mem_append_right _ mem_cons_self) (noBulk item finishes bulkPending)

/-- The count of a history, one event at a time. -/
theorem operationsFinished_concat (segment : List SendEvent) (event : SendEvent) :
    operationsFinished (segment ++ [event]) =
      operationsFinished segment + operationsFinished [event] := countP_append

namespace Recent

variable (recent : Recent history finished isOpen) (item : QueuedSend)
include recent

/-- A larger count is a weaker promise. -/
theorem mono {more : Nat} {other : Prop}
    (atLeast : finished ≤ more) (implies : isOpen → other) : Recent history more other :=
  fun segment isEnd noBulk =>
    ⟨le_trans (recent segment isEnd noBulk).1 atLeast,
      fun opened => implies ((recent segment isEnd noBulk).2 opened)⟩

/-- An event that sends nothing counts for nothing. -/
theorem other (unsent : ∀ priority item finishes bulkPending,
      event ≠ .sent priority item finishes bulkPending) :
    Recent (history ++ [event]) finished isOpen := by
  refine recent_concat recent fun segment atMost opens => ?_
  rw [operationsFinished_concat, operationOpen, foldl_append]
  cases event with
  | sent priority item finishes bulkPending =>
    exact absurd rfl (unsent priority item finishes bulkPending)
  | admitted priority items | read amount | failed reason => exact ⟨atMost, opens⟩

/-- Nor does a foreground item that is sent while no bulk work waits. -/
theorem alone (finishes : Bool) :
    Recent (history ++ [.sent .foreground item finishes false]) finished isOpen := by
  refine recent_concat recent fun segment atMost opens => ?_
  rw [operationsFinished_concat, operationOpen, foldl_append]
  cases finishes with
  | true | false => exact ⟨atMost, opens⟩

/-- A foreground item that finishes its operation counts. -/
theorem finish : Recent (history ++ [.sent .foreground item true true]) (finished + 1) False := by
  refine recent_concat recent fun segment atMost _ => ?_
  rw [operationsFinished_concat, operationOpen, foldl_append]
  refine ⟨Nat.add_le_add_right atMost 1, fun opened => ?_⟩
  cases opened

/-- One that does not leaves its operation open. -/
theorem goOn : Recent (history ++ [.sent .foreground item false true]) finished True := by
  refine recent_concat recent fun segment atMost _ => ?_
  rw [operationsFinished_concat]
  exact ⟨atMost, fun _ => trivial⟩

/-- The promise bounds what is sent between bulk items. -/
theorem operationsSent_le (within : finished ≤ limit) (withOpen : isOpen → finished + 1 ≤ limit)
    {segment : List SendEvent} (isEnd : segment <:+ history) (noBulk : NoBulkSent segment) :
    operationsSent segment ≤ limit := by
  obtain ⟨atMost, opens⟩ := recent segment isEnd noBulk
  unfold operationsSent
  cases opened : operationOpen segment with
  | false => exact le_trans atMost within
  | true => exact le_trans (Nat.add_le_add_right atMost 1) (withOpen (opens opened))

end Recent

/-- The limit holds with one more event, if it holds of what is recent with it. -/
theorem BurstLimited.concat (limited : BurstLimited limit history)
    (recent : Recent (history ++ [event]) finished isOpen) (within : finished ≤ limit)
    (withOpen : isOpen → finished + 1 ≤ limit) : BurstLimited limit (history ++ [event]) := by
  intro segment inside noBulk
  rcases infix_concat_iff.mp inside with isEnd | before
  · exact recent.operationsSent_le within withOpen isEnd noBulk
  · exact limited segment before noBulk

end

/-! ## The invariant -/

/-- The operations of a class. -/
def operations (queue : SendQueue) : Priority → List QueuedOperation
  | .foreground => queue.foreground
  | .bulk => queue.bulk

/-- The bytes of items. -/
def totalBytes (items : List QueuedSend) : Nat := (items.map QueuedSend.bytes).sum

/-- 1 if the first operation has begun. -/
def inProgress : List QueuedOperation → Nat
  | [] => 0
  | operation :: _ => if operation.next = 0 then 0 else 1

/-- Each class has sent a beginning of what was admitted to it, and an open queue holds the rest. -/
structure Ordered (queue : SendQueue) : Prop where
  begins : ∀ priority,
    sentItems priority queue.history <+: (admittedOperations priority queue.history).flatten
  rest : queue.closed = false → ∀ priority,
    sentItems priority queue.history ++ queuedItems (queue.operations priority) =
      (admittedOperations priority queue.history).flatten

/-- The counters are those of the contents, and keep the caps. -/
structure Accounted (bounds : SendQueueBounds) (queue : SendQueue) : Prop where
  items : queue.pendingItems = queue.unsent
  bytes : queue.pendingBytes =
    totalBytes (queuedItems queue.foreground) + totalBytes (queuedItems queue.bulk)
  itemCap : queue.pendingItems ≤ bounds.maxQueuedItems
  byteCap : queue.pendingBytes ≤ bounds.maxQueuedBytes

/-- The counter bounds what the foreground has sent since the last bulk item, and the limit bounds the
counter together with an operation that has begun. -/
structure Fair (bounds : SendQueueBounds) (queue : SendQueue) : Prop where
  limited : BurstLimited bounds.foregroundBurstOperations queue.history
  begun : ∀ operation ∈ queue.foreground.tail, operation.next = 0
  within : queue.foregroundOperationsSinceBulk + inProgress queue.foreground ≤
    bounds.foregroundBurstOperations
  noBulk : queue.bulk = [] → queue.foregroundOperationsSinceBulk = 0
  recent : queue.closed = false → Recent queue.history queue.foregroundOperationsSinceBulk
    (inProgress queue.foreground = 1)
  recentAlone : queue.closed = false → queue.bulk = [] → Recent queue.history 0 False

/-- A closed queue is empty, and a drain that is scheduled has its task. -/
structure Kept (queue : SendQueue) : Prop where
  empty : queue.closed = true → queue.foreground = [] ∧ queue.bulk = [] ∧
    queue.bulkDrainScheduled = false
  failed : queue.failed = true → queue.closed = true
  task : queue.bulkDrainScheduled = true → queue.bulkDrainScheduleEpoch ∈ queue.tasks

/-- What holds at every point. -/
structure SendInv (bounds : SendQueueBounds) (queue : SendQueue) : Prop where
  ordered : Ordered queue
  accounted : Accounted bounds queue
  fair : Fair bounds queue
  kept : Kept queue

/-- Work is left only with a drain scheduled or with the buffer above the low mark at the last
check. -/
def Awake (bounds : SendQueueBounds) (queue : SendQueue) : Prop :=
  queue.foreground ≠ [] ∨ queue.bulk ≠ [] →
    queue.bulkDrainScheduled = true ∨
      ∃ amount, lastRead queue.history = some amount ∧ bounds.lowWaterBytes < amount

variable {bounds : SendQueueBounds} {queue : SendQueue} {ready : SendQueue}

/-- The queue is made with the invariant. -/
theorem sendInv_initial (bounds : SendQueueBounds) : SendInv bounds initial where
  ordered := ⟨fun _ => nil_prefix, fun _ priority => by cases priority <;> rfl⟩
  accounted := ⟨rfl, rfl, Nat.zero_le _, Nat.zero_le _⟩
  fair :=
    { limited := fun segment inside _ => by
        rw [infix_nil.mp inside]
        exact Nat.zero_le _
      begun := fun _ inside => absurd inside (not_mem_nil)
      within := Nat.zero_le _
      noBulk := fun _ => rfl
      recent := fun _ => recent_nil
      recentAlone := fun _ _ => recent_nil }
  kept := ⟨nofun, nofun, nofun⟩

/-! ### Reading, scheduling, closing -/

/-- An operation under way has its place in the burst. -/
theorem Fair.withOpen (fair : Fair bounds queue) (opened : inProgress queue.foreground = 1) :
    queue.foregroundOperationsSinceBulk + 1 ≤ bounds.foregroundBurstOperations :=
  opened ▸ fair.within

/-- The counter stays within the burst. -/
theorem Fair.counter_le (fair : Fair bounds queue) :
    queue.foregroundOperationsSinceBulk ≤ bounds.foregroundBurstOperations :=
  le_trans (Nat.le_add_right _ _) fair.within

/-- What a closed and emptied queue owes is its history. -/
theorem sendInv_retired (closed : queue.closed = true) (noForeground : queue.foreground = [])
    (noBulk : queue.bulk = []) (noItems : queue.pendingItems = 0) (noBytes : queue.pendingBytes = 0)
    (reset : queue.foregroundOperationsSinceBulk = 0) (unscheduled : queue.bulkDrainScheduled = false)
    (begins : ∀ priority,
      sentItems priority queue.history <+: (admittedOperations priority queue.history).flatten)
    (limited : BurstLimited bounds.foregroundBurstOperations queue.history) :
    SendInv bounds queue where
  ordered := ⟨begins, fun isOpen => nomatch isOpen.symm.trans closed⟩
  accounted := by
    refine ⟨?_, ?_, by omega, by omega⟩
    · rw [noItems, unsent, noForeground, noBulk]
      rfl
    · rw [noBytes, noForeground, noBulk]
      rfl
  fair :=
    { limited
      begun := by simp [noForeground]
      within := by simp [reset, noForeground, inProgress]
      noBulk := fun _ => reset
      recent := fun isOpen => nomatch isOpen.symm.trans closed
      recentAlone := fun isOpen => nomatch isOpen.symm.trans closed }
  kept := ⟨fun _ => ⟨noForeground, noBulk, unscheduled⟩, fun _ => closed,
    fun scheduled => nomatch scheduled.symm.trans unscheduled⟩

namespace SendInv

variable (inv : SendInv bounds queue)
include inv

/-- Only the work, the counters and the history count. -/
theorem unchanged {other : SendQueue} (same : other = { queue with
      draining := other.draining
      failed := other.failed
      tasks := other.tasks
      bulkDrainScheduled := other.bulkDrainScheduled
      bulkDrainScheduleEpoch := other.bulkDrainScheduleEpoch })
    (kept : Kept other) : SendInv bounds other := by
  refine ⟨?_, ?_, ?_, kept⟩ <;> rw [same]
  · exact { inv.ordered with }
  · exact { inv.accounted with }
  · exact { inv.fair with }

/-- A scheduled bulk drain may be called off. -/
theorem invalidate : SendInv bounds queue.invalidateScheduledBulkDrain :=
  inv.unchanged rfl
    ⟨fun closed => ⟨(inv.kept.empty closed).1, (inv.kept.empty closed).2.1, rfl⟩, inv.kept.failed,
      nofun⟩

/-- The queue may be closed. -/
theorem close : SendInv bounds queue.close := by
  unfold SendQueue.close
  split
  · exact inv
  · exact sendInv_retired rfl rfl rfl rfl rfl rfl rfl inv.ordered.begins inv.fair.limited

/-- The flag `draining` is no part of it. -/
theorem draining (flag : Bool) : SendInv bounds { queue with draining := flag } :=
  inv.unchanged rfl { inv.kept with }

variable (isOpen : queue.closed = false) (reason : SendFailure)
include isOpen

/-- A look at the buffered amount keeps it. -/
theorem read (amount : Nat) : SendInv bounds (queue.read amount) := by
  have recent : Recent (queue.history ++ [.read amount]) _ _ :=
    (inv.fair.recent isOpen).other (by simp)
  refine ⟨⟨fun priority => ?_, fun _ priority => ?_⟩, { inv.accounted with }, ?_,
    { inv.kept with }⟩
  · have begins := inv.ordered.begins priority
    simpa [SendQueue.read, record, sentItems, admittedOperations] using begins
  · have rest := inv.ordered.rest isOpen priority
    cases priority <;>
      simpa [SendQueue.read, record, sentItems, admittedOperations, operations] using rest
  · exact { inv.fair with
      limited := inv.fair.limited.concat recent inv.fair.counter_le inv.fair.withOpen
      recent := fun _ => recent
      recentAlone := fun _ noBulk => (inv.fair.recentAlone isOpen noBulk).other (by simp) }

/-- Whatever is quiet keeps the invariant. -/
theorem quiet (quiet : Quiet queue ready) : SendInv bounds ready := by
  induction quiet with
  | refl => exact inv
  | read amount earlier ih =>
    exact ih.read (earlier.same.2.2.1.trans isOpen) amount
  | invalidate _ ih => exact ih.invalidate

/-- A task may be scheduled. -/
theorem addTask : SendInv bounds queue.addTask :=
  inv.unchanged rfl
    { inv.kept with
      empty := fun closed => nomatch isOpen.symm.trans closed
      task := fun _ => mem_append_right _ mem_cons_self }

/-- An open queue has not failed, so a failure closes it and is noted. -/
theorem fail_of_open :
    queue.fail reason = { queue.invalidateScheduledBulkDrain with
      failed := true
      closed := true
      foreground := []
      bulk := []
      pendingItems := 0
      pendingBytes := 0
      foregroundOperationsSinceBulk := 0
      history := queue.history ++ [.failed reason] } := by
  cases failed : queue.failed with
  | false =>
    simp only [SendQueue.fail, failed, SendQueue.close, isOpen, Bool.false_eq_true, if_false]
    rfl
  | true => exact absurd ((inv.kept.failed failed).symm.trans isOpen) (by decide)

/-- A failure is the last event. -/
theorem fail_history : (queue.fail reason).history = queue.history ++ [.failed reason] := by
  rw [inv.fail_of_open isOpen]

/-- It closes the queue. -/
theorem fail_closed : (queue.fail reason).closed = true := by
  rw [inv.fail_of_open isOpen]

/-- It keeps the invariant. -/
theorem fail : SendInv bounds (queue.fail reason) := by
  have recent : Recent (queue.history ++ [.failed reason]) _ _ :=
    (inv.fair.recent isOpen).other (by simp)
  rw [inv.fail_of_open isOpen]
  refine sendInv_retired rfl rfl rfl rfl rfl rfl rfl (fun priority => ?_)
    (inv.fair.limited.concat recent inv.fair.counter_le inv.fair.withOpen)
  have begins := inv.ordered.begins priority
  simpa [sentItems, admittedOperations] using begins

end SendInv

/-! ### Sending -/

variable {operation : QueuedOperation} {rest : List QueuedOperation} {priority : Priority}
  {next middle last : SendQueue} {result : Turn} {readings : Nat → Reading}
  {items : List QueuedSend}

section

variable (isFirst : queue.operations priority = operation :: rest)
  (isRest : next.operations priority = operation.advance.toList ++ rest)
  (others : ∀ other, other ≠ priority → next.operations other = queue.operations other)
include isFirst isRest others

/-- The first item of a class goes from the queue to what was sent. -/
theorem Ordered.sent (ordered : Ordered queue) (isOpen : queue.closed = false)
    {finishes bulkPending : Bool} (isHistory : next.history =
      queue.history ++ [.sent priority operation.item finishes bulkPending]) : Ordered next := by
  have sameAdmitted (of : Priority) :
      admittedOperations of next.history = admittedOperations of queue.history := by
    simp [isHistory, admittedOperations]
  have whole (of : Priority) : sentItems of next.history ++ queuedItems (next.operations of) =
      (admittedOperations of next.history).flatten := by
    rw [sameAdmitted, ← ordered.rest isOpen of]
    by_cases same : of = priority
    · subst same
      rw [isRest, isFirst, queuedItems_cons]
      simp [isHistory, sentItems]
    · rw [others of same]
      simp [isHistory, sentItems, Ne.symm same]
  exact ⟨fun of => ⟨_, whole of⟩, fun _ => whole⟩

/-- The counters follow. -/
theorem Accounted.sent (accounted : Accounted bounds queue)
    (isItems : next.pendingItems = queue.pendingItems - 1)
    (isBytes : next.pendingBytes = queue.pendingBytes - operation.item.bytes) :
    Accounted bounds next := by
  have items := accounted.items
  have bytes := accounted.bytes
  have itemCap := accounted.itemCap
  have byteCap := accounted.byteCap
  have fewer : (queuedItems (queue.operations priority)).length =
      (queuedItems (next.operations priority)).length + 1 := by
    rw [isFirst, queuedItems_cons, isRest, length_cons]
  have less : totalBytes (queuedItems (queue.operations priority)) =
      totalBytes (queuedItems (next.operations priority)) + operation.item.bytes := by
    rw [isFirst, queuedItems_cons, isRest, totalBytes, map_cons, sum_cons, totalBytes, add_comm]
  have counted : next.unsent + 1 = queue.unsent ∧
      totalBytes (queuedItems next.foreground) + totalBytes (queuedItems next.bulk) +
        operation.item.bytes =
      totalBytes (queuedItems queue.foreground) + totalBytes (queuedItems queue.bulk) := by
    cases priority with
    | foreground =>
      have sameBulk : next.bulk = queue.bulk := others .bulk (by decide)
      simp only [operations] at fewer less
      rw [unsent, unsent, sameBulk]
      omega
    | bulk =>
      have sameForeground : next.foreground = queue.foreground := others .foreground (by decide)
      simp only [operations] at fewer less
      rw [unsent, unsent, sameForeground]
      omega
  exact ⟨by omega, by omega, by omega, by omega⟩

end

/-- An operation that has more items is in progress. -/
theorem inProgress_advance {after : QueuedOperation} (isAfter : operation.advance = some after)
    (rest : List QueuedOperation) : inProgress (after :: rest) = 1 := by
  unfold QueuedOperation.advance at isAfter
  split at isAfter
  · cases isAfter
    rfl
  · cases isAfter

/-- Operations that have not begun are not. -/
theorem inProgress_eq_zero (unbegun : ∀ other ∈ rest, other.next = 0) : inProgress rest = 0 := by
  cases rest with
  | nil => rfl
  | cons first => simp [inProgress, unbegun first mem_cons_self]

/-- A foreground item, sent where the loop allows it. -/
theorem Fair.sendForeground (fair : Fair bounds queue) (isOpen : queue.closed = false)
    (isFirst : queue.foreground = operation :: rest)
    (allowed : 0 < operation.next ∨ queue.bulk = [] ∨
      queue.foregroundOperationsSinceBulk < bounds.foregroundBurstOperations) :
    Fair bounds (queue.sendForeground operation rest) := by
  have burst := bounds.burst_pos
  have unbegun : ∀ other ∈ rest, other.next = 0 := by simpa [isFirst] using fair.begun
  have fresh := inProgress_eq_zero unbegun
  have later : ∀ other ∈ (operation.advance.toList ++ rest).tail, other.next = 0 := by
    cases operation.advance with
    | some => exact unbegun
    | none => exact fun other inside => unbegun other (mem_of_mem_tail inside)
  have room : queue.foregroundOperationsSinceBulk + 1 ≤ bounds.foregroundBurstOperations := by
    rcases allowed with begun | noBulk | below
    · refine fair.withOpen ?_
      simp [isFirst, inProgress, ne_of_gt begun]
    · rw [fair.noBulk noBulk]
      exact burst
    · exact below
  rw [sendForeground_eq]
  cases someBulk : queue.bulk with
  | nil =>
    have most : 0 + inProgress (operation.advance.toList ++ rest) ≤ 1 := by
      unfold inProgress
      grind
    have alone := (fair.recentAlone isOpen someBulk).alone operation.item operation.advance.isNone
    simp only [sendNext, record, someBulk, fair.noBulk someBulk, ite_self, isEmpty_nil, if_true]
    exact ⟨fair.limited.concat alone (Nat.zero_le _) False.elim, later, most.trans burst, fun _ => rfl,
      fun _ => alone.mono (Nat.zero_le _) False.elim, fun _ _ => alone⟩
  | cons =>
    cases isAfter : operation.advance with
    | some =>
      have goesOn := inProgress_advance isAfter rest
      have next := (fair.recent isOpen).goOn operation.item
      simp only [sendNext, record, someBulk, isAfter]
      exact ⟨fair.limited.concat next fair.counter_le fun _ => room, unbegun, goesOn ▸ room,
        nofun, fun _ => next.mono (le_refl _) fun _ => goesOn, nofun⟩
    | none =>
      have next := (fair.recent isOpen).finish operation.item
      simp only [isAfter] at later
      simp only [sendNext, record, someBulk, isAfter]
      exact ⟨fair.limited.concat next room False.elim, later, by simpa [fresh] using room,
        nofun, fun _ => next.mono (le_refl _) False.elim, nofun⟩

/-- A bulk item, sent between foreground operations. -/
theorem Fair.sendBulk (fair : Fair bounds queue)
    (between : ∀ first ∈ queue.foreground.head?, first.next = 0) :
    Fair bounds (queue.sendBulk operation rest) := by
  have recent (count : Nat) (opened : Prop) :
      Recent (queue.sendBulk operation rest).history count opened := recent_bulk _ _ _
  have idle : inProgress queue.foreground = 0 := by
    cases front : queue.foreground with
    | nil => rfl
    | cons first => simp [inProgress, between first (by simp [front])]
  refine ⟨fair.limited.concat (recent 0 False) (Nat.zero_le _) False.elim, fair.begun, ?_,
    fun _ => rfl, fun _ => recent _ _, fun _ _ => recent _ _⟩
  change 0 + inProgress queue.foreground ≤ _
  omega

section

variable (inv : SendInv bounds queue) (isOpen : queue.closed = false)
include inv isOpen

/-- An item is sent, with a counter that is fair. -/
theorem SendInv.sent
    (priority : Priority) (isFirst : queue.operations priority = operation :: rest) {count : Nat}
    (fair : Fair bounds { queue.sendNext priority operation rest with
      foregroundOperationsSinceBulk := count }) :
    SendInv bounds { queue.sendNext priority operation rest with
      foregroundOperationsSinceBulk := count } := by
  have others : ∀ other, other ≠ priority →
      (queue.sendNext priority operation rest).operations other = queue.operations other := by
    intro other different
    cases priority <;> cases other <;> first | rfl | exact absurd rfl different
  cases priority with
  | foreground | bulk =>
    exact ⟨inv.ordered.sent isFirst rfl others isOpen rfl,
      inv.accounted.sent isFirst rfl others rfl rfl, fair,
      { inv.kept with empty := fun closed => nomatch isOpen.symm.trans closed }⟩

/-- A foreground item goes out where the burst allows it. -/
theorem SendInv.sendForeground (isFirst : queue.foreground = operation :: rest)
    (allowed : 0 < operation.next ∨ queue.bulk = [] ∨
      queue.foregroundOperationsSinceBulk < bounds.foregroundBurstOperations) :
    SendInv bounds (queue.sendForeground operation rest) := by
  have fair := inv.fair.sendForeground isOpen isFirst allowed
  rw [sendForeground_eq] at fair ⊢
  exact inv.sent isOpen .foreground isFirst fair

/-- A bulk item goes out between foreground operations. -/
theorem SendInv.sendBulk (isFirst : queue.bulk = operation :: rest)
    (between : ∀ first ∈ queue.foreground.head?, first.next = 0) :
    SendInv bounds (queue.sendBulk operation rest) :=
  inv.sent isOpen .bulk isFirst (inv.fair.sendBulk between)

end

/-! ### The drain -/

variable {reading : Reading} {sentBulkThisTurn : Bool} {isOpen : queue.closed = false}
  {call : SendCall} {amount : Nat}

/-- The last read is the one just made. -/
theorem lastRead_concat (history : List SendEvent) (amount : Nat) :
    lastRead (history ++ [.read amount]) = some amount := by
  rw [lastRead, foldl_append]
  rfl

/-- There is something to send. -/
def Working (queue : SendQueue) : Prop := queue.foreground ≠ [] ∨ queue.bulk ≠ []

/-- Without operations there is no work. -/
theorem not_working (noForeground : queue.foreground = []) (noBulk : queue.bulk = []) :
    ¬ queue.Working :=
  not_or.mpr ⟨not_not.mpr noForeground, not_not.mpr noBulk⟩

/-- A closed queue has no work to wake up for. -/
theorem awake_of_closed (inv : SendInv bounds queue) (closed : queue.closed = true) :
    Awake bounds queue := by
  obtain ⟨noForeground, noBulk, -⟩ := inv.kept.empty closed
  exact fun work => absurd work (not_working noForeground noBulk)

/-- A buffer above the low mark will report when it falls. -/
theorem awake_of_read (above : bounds.lowWaterBytes < amount) : Awake bounds (queue.read amount) :=
  fun _ => .inr ⟨amount, lastRead_concat _ _, above⟩

/-- The history goes on, and no operation was admitted. -/
def Later (queue next : SendQueue) : Prop :=
  ∃ new, next.history = queue.history ++ new ∧ ∀ priority items, .admitted priority items ∉ new

/-- Nothing has happened. -/
theorem later_refl (queue : SendQueue) : Later queue queue :=
  ⟨[], (append_nil _).symm, fun _ _ => not_mem_nil⟩

/-- One thing after another. -/
theorem Later.trans (first : Later queue middle)
    (second : Later middle last) : Later queue last := by
  obtain ⟨new, isNew, _⟩ := first
  obtain ⟨newer, isNewer, _⟩ := second
  exact ⟨new ++ newer, by rw [isNewer, isNew, append_assoc], by grind⟩

/-- An event that admits nothing. -/
theorem later_event {event : SendEvent} (isNext : next.history = queue.history ++ [event])
    (unadmitted : ∀ priority items, event ≠ .admitted priority items) : Later queue next :=
  ⟨[event], isNext, fun priority items inside =>
    unadmitted priority items (mem_singleton.mp inside).symm⟩

/-- A quiet change is no event. -/
theorem Quiet.later (quiet : Quiet queue ready) : Later queue ready := by
  induction quiet with
  | refl => exact later_refl queue
  | read _ _ ih =>
    exact ih.trans (later_event rfl (by simp))
  | invalidate _ ih => exact ih

/-- A turn keeps the invariant and admits nothing, and the loop stops awake. -/
theorem turn_inv (inv : SendInv bounds queue) (isOpen : queue.closed = false)
    (taken : turn bounds reading sentBulkThisTurn queue = result) :
    match result with
    | .again _ next => SendInv bounds next ∧ Later queue next
    | .stop last => (SendInv bounds last ∧ Later queue last) ∧ Awake bounds last := by
  obtain ⟨ready, quiet, done⟩ := @turn_cases bounds reading sentBulkThisTurn _ isOpen
  rw [taken] at done
  replace inv := inv.quiet isOpen quiet
  replace isOpen := quiet.same.2.2.1.trans isOpen
  replace quiet := quiet.later
  cases done with
  | fails =>
    have failed := inv.fail isOpen .sendFailed
    exact ⟨⟨failed, quiet.trans (later_event (inv.fail_history isOpen _) (by simp))⟩,
      awake_of_closed failed (inv.fail_closed isOpen _)⟩
  | full amount above =>
    exact ⟨⟨inv.read isOpen amount, quiet.trans (later_event rfl (by simp))⟩, awake_of_read above⟩
  | idle noForeground noBulk =>
    have same : ({ ready with foregroundOperationsSinceBulk := 0 } : SendQueue) = ready := by
      rw [← inv.fair.noBulk noBulk]
    dsimp only
    rw [same]
    exact ⟨⟨inv, quiet⟩, fun work => absurd work (not_working noForeground noBulk)⟩
  | waits scheduled => exact ⟨⟨inv, quiet⟩, fun _ => .inl scheduled⟩
  | yields => exact ⟨⟨inv.addTask isOpen, quiet⟩, fun _ => .inl rfl⟩
  | foreground _ _ isFirst allowed =>
    exact ⟨inv.sendForeground isOpen isFirst allowed,
      quiet.trans (later_event (by rw [sendForeground_eq]; rfl) (by simp))⟩
  | bulk operation rest isFirst between next isNext _ isResult =>
    have sentOpen : (ready.sendBulk operation rest).closed = false := isOpen
    have nextInv := (inv.sendBulk isOpen isFirst between).quiet sentOpen isNext
    have added := nextInv.addTask (isNext.same.2.2.1.trans sentOpen)
    have later : Later queue next :=
      (quiet.trans (later_event rfl (by simp))).trans isNext.later
    rcases isResult with rfl | rfl | rfl | ⟨rfl, amount, rfl, above⟩
    · exact ⟨nextInv, later⟩
    · exact ⟨added, later⟩
    · exact ⟨⟨added, later⟩, fun _ => .inl rfl⟩
    · exact ⟨⟨nextInv, later⟩, awake_of_read above⟩

/-- A whole drain, by induction on its turns. -/
theorem drainLoop_inv (inv : SendInv bounds queue) :
    (SendInv bounds (drainLoop bounds readings sentBulkThisTurn queue isOpen) ∧
      Later queue (drainLoop bounds readings sentBulkThisTurn queue isOpen)) ∧
      Awake bounds (drainLoop bounds readings sentBulkThisTurn queue isOpen) := by
  fun_induction drainLoop with
  | case1 _ _ _ isOpen _ taken => exact turn_inv inv isOpen taken
  | case2 _ _ _ isOpen _ _ taken ih =>
    obtain ⟨nextInv, step⟩ := turn_inv inv isOpen taken
    obtain ⟨⟨lastInv, later⟩, awake⟩ := ih nextInv
    exact ⟨⟨lastInv, step.trans later⟩, awake⟩

/-- What holds between the calls. -/
structure Resting (bounds : SendQueueBounds) (queue : SendQueue) : Prop where
  inv : SendInv bounds queue
  awake : Awake bounds queue
  idle : queue.draining = false

/-- What `drain` does on an open queue that does not drain already. -/
theorem drain_of_idle (isOpen : queue.closed = false) (idle : queue.draining = false) :
    drain bounds readings queue =
      { drainLoop bounds readings false { queue with draining := true } isOpen with
        draining := false } := by
  rw [drain, dif_pos isOpen, if_neg (by rw [idle]; decide)]

/-- A drain leaves the queue at rest, and admits nothing. -/
theorem drain_resting (inv : SendInv bounds queue)
    (isOpen : queue.closed = false) (idle : queue.draining = false) :
    Resting bounds (drain bounds readings queue) ∧ Later queue (drain bounds readings queue) := by
  obtain ⟨⟨lastInv, later⟩, awake⟩ := @drainLoop_inv bounds { queue with draining := true } readings
    false isOpen (inv.draining true)
  rw [drain_of_idle isOpen idle]
  exact ⟨⟨lastInv.draining false, awake, rfl⟩, later⟩

/-! ### The calls -/

/-- What is queued is admitted. -/
theorem push_history (queue : SendQueue) (priority : Priority)
    (nonempty : items ≠ []) (bytes : Nat) :
    (queue.push priority items nonempty bytes).history =
      queue.history ++ [.admitted priority items] := by
  cases priority <;> rfl

/-- The operation is the last of its class. -/
theorem push_operations (queue : SendQueue) (priority : Priority)
    (nonempty : items ≠ []) (bytes : Nat) (of : Priority) :
    queuedItems ((queue.push priority items nonempty bytes).operations of) =
      queuedItems (queue.operations of) ++ if priority = of then items else [] := by
  cases priority <;> cases of <;>
    simp [push, record, operations, queuedItems, QueuedOperation.remaining]

/-- New operations come last, so the order stays. -/
theorem Ordered.push (ordered : Ordered queue) (isOpen : queue.closed = false)
    (nonempty : items ≠ []) (bytes : Nat) : Ordered (queue.push priority items nonempty bytes) := by
  have whole (of : Priority) :
      sentItems of (queue.push priority items nonempty bytes).history ++
        queuedItems ((queue.push priority items nonempty bytes).operations of) =
      (admittedOperations of (queue.push priority items nonempty bytes).history).flatten := by
    have sameSent : sentItems of (queue.history ++ [.admitted priority items]) =
        sentItems of queue.history := by simp [sentItems]
    rw [push_operations, push_history, sameSent, ← append_assoc, ordered.rest isOpen of]
    by_cases same : priority = of
    · simp [admittedOperations, same]
    · simp [admittedOperations, same]
  exact ⟨fun of => ⟨_, whole of⟩, fun _ => whole⟩

/-- What is admitted fits the limits. -/
theorem Accounted.push (accounted : Accounted bounds queue)
    (nonempty : items ≠ []) (admits : canAdmit bounds queue items.length (totalBytes items) = true) :
    Accounted bounds (queue.push priority items nonempty (totalBytes items)) := by
  simp only [canAdmit, decide_eq_true_eq] at admits
  have countedItems := accounted.items
  have countedBytes := accounted.bytes
  have front := push_operations queue priority nonempty (totalBytes items) .foreground
  have back := push_operations queue priority nonempty (totalBytes items) .bulk
  simp only [operations] at front back
  have isItems : (queue.push priority items nonempty (totalBytes items)).pendingItems =
      queue.pendingItems + items.length := by cases priority <;> rfl
  have isBytes : (queue.push priority items nonempty (totalBytes items)).pendingBytes =
      queue.pendingBytes + totalBytes items := by cases priority <;> rfl
  refine ⟨?_, ?_, by omega, by omega⟩
  · rw [isItems, countedItems, unsent, unsent, front, back, length_append, length_append]
    cases priority with
    | foreground | bulk =>
      simp
      omega
  · rw [isBytes, countedBytes, front, back]
    cases priority with
    | foreground | bulk =>
      simp [totalBytes]
      omega

/-- New operations have sent nothing. -/
theorem Fair.push (fair : Fair bounds queue) (isOpen : queue.closed = false) (nonempty : items ≠ [])
    (bytes : Nat) : Fair bounds (queue.push priority items nonempty bytes) := by
  have recent : Recent (queue.history ++ [.admitted priority items]) _ _ :=
    (fair.recent isOpen).other (by simp)
  have limited := fair.limited.concat recent fair.counter_le fair.withOpen
  cases priority with
  | bulk =>
    have more : (queue.push .bulk items nonempty bytes).bulk ≠ [] := by simp [SendQueue.push, record]
    exact ⟨limited, fair.begun, fair.within, fun noBulk => absurd noBulk more, fun _ => recent,
      fun _ noBulk => absurd noBulk more⟩
  | foreground =>
    have sameProgress : inProgress
        (queue.push .foreground items nonempty bytes).foreground = inProgress queue.foreground := by
      cases front : queue.foreground with
      | nil | cons first others => simp [SendQueue.push, record, front, inProgress]
    refine ⟨limited, ?_, ?_, fair.noBulk, fun _ => ?_, fun _ noBulk =>
      (fair.recentAlone isOpen noBulk).other (by simp)⟩
    · intro other inside
      have begun := fair.begun other
      cases front : queue.foreground with
      | nil => simp [SendQueue.push, record, front] at inside
      | cons =>
        simp only [SendQueue.push, record, front, cons_append, tail_cons,
          mem_append, mem_singleton] at inside begun
        rcases inside with earlier | rfl
        · exact begun earlier
        · rfl
    · rw [sameProgress]
      exact fair.within
    · rw [sameProgress]
      exact recent

/-- Admission keeps the invariant. -/
theorem SendInv.push (inv : SendInv bounds queue) (isOpen : queue.closed = false)
    (nonempty : items ≠ []) (admits : canAdmit bounds queue items.length (totalBytes items) = true)
    : SendInv bounds (queue.push priority items nonempty (totalBytes items)) := by
  refine ⟨inv.ordered.push isOpen nonempty _, inv.accounted.push nonempty admits,
    inv.fair.push isOpen nonempty _, ?_⟩
  cases priority with
  | foreground | bulk =>
    exact { inv.kept with empty := fun closed => nomatch isOpen.symm.trans closed }

/-- The checked sum is the sum. -/
theorem safeTotal_eq {start total : Nat} {values : List (List UInt8)}
    (isTotal : safeTotal start values = some total) :
    total = start + totalBytes (values.map .binary) := by
  induction values generalizing start with
  | nil => exact (Option.some.inj isTotal).symm
  | cons _ _ ih =>
    rw [safeTotal] at isTotal
    split at isTotal
    · cases isTotal
    · rw [ih isTotal]
      simp [totalBytes, QueuedSend.bytes]
      omega

/-- What a call wants to send, and in which class. -/
def SendCall.request : SendCall → Option (Priority × List QueuedSend)
  | .enqueueText value => some (.foreground, [.text value])
  | .enqueueBinary value => some (.foreground, [.binary value])
  | .enqueueTextAndBinaryBatch text values => some (.foreground, .text text :: values.map .binary)
  | .enqueueBinaryBatch values => some (.foreground, values.map .binary)
  | .enqueueBulkBinaryBatch values => some (.bulk, values.map .binary)
  | .onBufferedAmountLow _ | .runTask _ | .close => none

variable (bounds : SendQueueBounds) (readings : Nat → Reading) (queue : SendQueue)
  (priority : Priority) (items : List QueuedSend) in
/-- The ways in which a call to send can end: it was admitted as a whole and the queue drains; it was
refused, by a closed queue or by one that overflows and closes; or there was nothing to send. -/
inductive Enqueued : Bool × SendQueue → Prop
  | admitted (nonempty : items ≠ []) (isOpen : queue.closed = false)
      (admits : canAdmit bounds queue items.length (totalBytes items) = true) :
      Enqueued (enqueueAdmitted bounds readings queue priority items nonempty (totalBytes items))
  | retired (closed : queue.closed = true) : Enqueued (false, queue)
  | overflow (isOpen : queue.closed = false) : Enqueued (false, queue.fail .overflow)
  | nothing (empty : items = []) : Enqueued (true, queue)

/-- Each of them asks first whether the queue is closed. -/
theorem Enqueued.of_open {result : Bool × SendQueue}
    (whenOpen : queue.closed = false → Enqueued bounds readings queue priority items result) :
    Enqueued bounds readings queue priority items
      (if queue.closed then (false, queue) else result) := by
  split
  next closed => exact .retired closed
  next notClosed => exact whenOpen (by simpa using notClosed)

/-- A text is an operation of one item. -/
theorem enqueueText_enqueued (readings : Nat → Reading) (queue : SendQueue) (value : JsString) :
    Enqueued bounds readings queue .foreground [.text value]
      (enqueueText bounds readings queue value) := by
  refine .of_open fun isOpen => ?_
  split
  · exact .overflow isOpen
  next admits =>
    refine .admitted (cons_ne_nil _ _) isOpen ?_
    simpa [totalBytes, QueuedSend.bytes] using admits

/-- A text and what follows it are one operation. -/
theorem enqueueTextAndBinaryBatch_enqueued (readings : Nat → Reading) (queue : SendQueue)
    (text : JsString) (values : List (List UInt8)) :
    Enqueued bounds readings queue .foreground (.text text :: values.map .binary)
      (enqueueTextAndBinaryBatch bounds readings queue text values) := by
  refine .of_open fun isOpen => ?_
  split
  · exact .overflow isOpen
  next bytes isTotal =>
    split
    · exact .overflow isOpen
    next admits =>
      obtain rfl : bytes = totalBytes (.text text :: values.map .binary) := safeTotal_eq isTotal
      refine .admitted (cons_ne_nil _ _) isOpen ?_
      simpa [add_comm] using admits

/-- Binary items are one operation of either class. -/
theorem enqueueBinaryOperation_enqueued (readings : Nat → Reading) (queue : SendQueue)
    (priority : Priority) (values : List (List UInt8)) :
    Enqueued bounds readings queue priority (values.map .binary)
      (enqueueBinaryOperation bounds readings queue priority values) := by
  refine .of_open fun isOpen => ?_
  split
  next empty => exact .nothing (by simp [empty])
  · split
    · exact .overflow isOpen
    next bytes isTotal =>
      split
      · exact .overflow isOpen
      next admits =>
        obtain rfl : bytes = totalBytes (values.map .binary) := by
          rw [safeTotal_eq isTotal, zero_add]
        refine .admitted _ isOpen ?_
        simpa using admits

/-- Every call to send is one of these ends. -/
theorem take_enqueued
    (isRequest : call.request = some (priority, items)) (readings : Nat → Reading) :
    ∃ result, Enqueued bounds readings queue priority items result ∧
      take bounds queue call readings = (some result.1, result.2) := by
  cases call with
  | enqueueText value =>
    cases isRequest
    exact ⟨_, enqueueText_enqueued readings queue value, rfl⟩
  | enqueueBinary value =>
    cases isRequest
    exact ⟨_, enqueueBinaryOperation_enqueued readings queue .foreground [value], rfl⟩
  | enqueueTextAndBinaryBatch text values =>
    cases isRequest
    exact ⟨_, enqueueTextAndBinaryBatch_enqueued readings queue text values, rfl⟩
  | enqueueBinaryBatch values =>
    cases isRequest
    exact ⟨_, enqueueBinaryOperation_enqueued readings queue .foreground values, rfl⟩
  | enqueueBulkBinaryBatch values =>
    cases isRequest
    exact ⟨_, enqueueBinaryOperation_enqueued readings queue .bulk values, rfl⟩
  | onBufferedAmountLow amount | runTask epoch | close => cases isRequest

section

variable (resting : Resting bounds queue)
include resting

/-- An operation that was admitted is drained with the others. -/
theorem enqueueAdmitted_resting (isOpen : queue.closed = false) (nonempty : items ≠ [])
    (admits : canAdmit bounds queue items.length (totalBytes items) = true) :
    let next := enqueueAdmitted bounds readings queue priority items nonempty (totalBytes items)
    Resting bounds next.2 ∧ Later (queue.push priority items nonempty (totalBytes items)) next.2 := by
  refine drain_resting (resting.inv.push isOpen nonempty admits) ?_ ?_
  · cases priority <;> exact isOpen
  · cases priority <;> exact resting.idle

/-- An enqueue leaves the queue at rest. -/
theorem Enqueued.rests {result : Bool × SendQueue}
    (enqueued : Enqueued bounds readings queue priority items result) :
    Resting bounds result.2 := by
  cases enqueued with
  | admitted nonempty isOpen admits =>
    exact (enqueueAdmitted_resting resting isOpen nonempty admits).1
  | retired => exact resting
  | overflow isOpen =>
    have failedInv := resting.inv.fail isOpen .overflow
    refine ⟨failedInv, awake_of_closed failedInv (resting.inv.fail_closed isOpen _), ?_⟩
    rw [resting.inv.fail_of_open isOpen]
    exact resting.idle
  | nothing => exact resting

/-- So does the event of a low buffer. -/
theorem onBufferedAmountLow_resting
    (amount : Nat) : Resting bounds (onBufferedAmountLow bounds readings queue amount) := by
  unfold onBufferedAmountLow
  split
  · exact resting
  next notClosed =>
    have isOpen : queue.closed = false := by simpa using notClosed
    have readInv := resting.inv.read isOpen amount
    split
    next above => exact ⟨readInv, awake_of_read above, resting.idle⟩
    · exact (drain_resting readInv isOpen resting.idle).1

/-- So does a scheduled task. -/
theorem runTask_resting (epoch : Nat) : Resting bounds (runTask bounds readings queue epoch) := by
  have inv := resting.inv
  have kept := resting.inv.kept
  unfold runTask
  split
  · exact resting
  · dsimp only
    split
    next stale =>
      refine ⟨inv.unchanged rfl ⟨kept.empty, kept.failed, fun scheduled => ?_⟩,
        resting.awake, resting.idle⟩
      -- A drain that is scheduled has its own epoch, and the task that ran had another.
      have isScheduled : queue.bulkDrainScheduled = true := scheduled
      have isOpen : queue.closed = false := by
        cases closed : queue.closed with
        | false => rfl
        | true => exact absurd (scheduled.symm.trans (kept.empty closed).2.2) (by decide)
      simp only [isOpen, isScheduled, Bool.not_true, Bool.or_self, Bool.false_or,
        decide_eq_true_eq] at stale
      exact (mem_erase_of_ne (Ne.symm stale)).mpr (kept.task isScheduled)
    next current =>
      simp only [Bool.or_eq_true, not_or, Bool.not_eq_true] at current
      have started : SendInv bounds
          { queue with tasks := queue.tasks.erase epoch, bulkDrainScheduled := false } :=
        inv.unchanged rfl
          ⟨fun closed => ⟨(kept.empty closed).1, (kept.empty closed).2.1, rfl⟩, kept.failed, nofun⟩
      exact (drain_resting started current.1.1 resting.idle).1

/-- One call leaves the queue at rest. -/
theorem take_resting (call : SendCall)
    (readings : Nat → Reading) : Resting bounds (take bounds queue call readings).2 := by
  cases isRequest : call.request with
  | some =>
    obtain ⟨_, enqueued, same⟩ := take_enqueued isRequest readings
    rw [same]
    exact enqueued.rests resting
  | none =>
    cases call with
    | onBufferedAmountLow amount => exact onBufferedAmountLow_resting resting amount
    | runTask epoch => exact runTask_resting resting epoch
    | close =>
      have closedInv := resting.inv.close
      refine ⟨closedInv, awake_of_closed closedInv ?_, ?_⟩
      · simp only [take, SendQueue.close]
        split
        next closed => exact closed
        · rfl
      · simp only [take, SendQueue.close]
        split
        · exact resting.idle
        · exact resting.idle
    | enqueueText value | enqueueBinary value | enqueueTextAndBinaryBatch text values
    | enqueueBinaryBatch values | enqueueBulkBinaryBatch values => cases isRequest

end

/-- So do any number of calls. -/
theorem after_resting (bounds : SendQueueBounds) (calls : List (SendCall × (Nat → Reading))) :
    Resting bounds (after bounds calls) := by
  have start : Resting bounds initial :=
    ⟨sendInv_initial bounds, fun work => absurd work (not_working rfl rfl), rfl⟩
  unfold after
  generalize initial = queue at start
  induction calls generalizing queue with
  | nil => exact start
  | cons call _ ih =>
    exact ih _ (take_resting start call.1 call.2)

/-! ### What a drain adds to the history -/

/-- Something was sent, or the owner was told that it cannot be. -/
def Advances (queue next : SendQueue) : Prop :=
  ∃ new, next.history = queue.history ++ new ∧
    ((∃ priority item finishes bulkPending, .sent priority item finishes bulkPending ∈ new) ∨
      ∃ reason, .failed reason ∈ new)

/-- An advance is not undone by what comes later. -/
theorem Advances.later (advances : Advances queue middle)
    (later : Later middle last) : Advances queue last := by
  obtain ⟨new, isNew, _⟩ := advances
  obtain ⟨newer, isNewer, -⟩ := later
  exact ⟨new ++ newer, by rw [isNewer, isNew, append_assoc], by grind⟩

/-- An advance counts from any earlier state. -/
theorem Later.advances (later : Later queue middle)
    (advances : Advances middle last) : Advances queue last := by
  obtain ⟨new, isNew, -⟩ := later
  obtain ⟨newer, isNewer, _⟩ := advances
  exact ⟨new ++ newer, by rw [isNewer, isNew, append_assoc], by grind⟩

/-- A turn that has sent no bulk item advances, if there is work, no drain is scheduled, and the buffer is not
above the low mark. -/
theorem first_turn_advances (inv : SendInv bounds queue) (isOpen : queue.closed = false)
    (work : queue.Working) (unscheduled : queue.bulkDrainScheduled = false)
    (hardLow : reading.hardAmount ≤ bounds.lowWaterBytes)
    (softLow : reading.softAmount ≤ bounds.lowWaterBytes) (unsent : sentBulkThisTurn = false)
    (taken : turn bounds reading sentBulkThisTurn queue = result) :
    match result with
    | .again _ next => Advances queue next
    | .stop last => Advances queue last := by
  obtain ⟨ready, quiet, done⟩ := @turn_cases bounds reading sentBulkThisTurn _ isOpen
  rw [taken] at done
  obtain ⟨sameForeground, sameBulk, sameOpen, schedules⟩ := quiet.same
  cases done with
  | fails =>
    have failed := (inv.quiet isOpen quiet).fail_history (sameOpen.trans isOpen)
    exact quiet.later.advances ⟨_, failed .sendFailed, .inr ⟨_, mem_cons_self⟩⟩
  | full _ above isRead =>
    rcases isRead with rfl | rfl
    · exact absurd above (not_lt.mpr hardLow)
    · exact absurd above (not_lt.mpr softLow)
  | idle noForeground noBulk =>
    exact absurd work (not_working (sameForeground ▸ noForeground) (sameBulk ▸ noBulk))
  | waits scheduled => exact nomatch (schedules scheduled).symm.trans unscheduled
  | yields again => exact nomatch again.symm.trans unsent
  | foreground =>
    exact quiet.later.advances
      ⟨_, by rw [sendForeground_eq]; rfl, .inl ⟨_, _, _, _, mem_cons_self⟩⟩
  | bulk operation rest _ _ next isNext _ isResult =>
    have sent : Advances ready (ready.sendBulk operation rest) :=
      ⟨_, rfl, .inl ⟨_, _, _, _, mem_cons_self⟩⟩
    have advances := quiet.later.advances (sent.later isNext.later)
    rcases isResult with rfl | rfl | rfl | ⟨rfl, -⟩ <;> exact advances

/-- A drain with work at a low buffer sends an item. -/
theorem drainLoop_advances (inv : SendInv bounds queue)
    (work : queue.Working) (unscheduled : queue.bulkDrainScheduled = false)
    (hardLow : (readings 0).hardAmount ≤ bounds.lowWaterBytes)
    (softLow : (readings 0).softAmount ≤ bounds.lowWaterBytes) (unsent : sentBulkThisTurn = false) :
    Advances queue (drainLoop bounds readings sentBulkThisTurn queue isOpen) := by
  fun_cases drainLoop bounds readings sentBulkThisTurn queue isOpen with
  | case1 _ taken =>
    exact first_turn_advances inv isOpen work unscheduled hardLow softLow unsent taken
  | case2 _ next taken =>
    have step : Advances queue next :=
      first_turn_advances inv isOpen work unscheduled hardLow softLow unsent taken
    exact step.later (drainLoop_inv (turn_inv inv isOpen taken).1).1.2

/-- The channel's report that the buffer is low resumes a queue that has no drain scheduled. -/
theorem onBufferedAmountLow_advances (resting : Resting bounds queue) (work : queue.Working)
    (unscheduled : queue.bulkDrainScheduled = false) (low : amount ≤ bounds.lowWaterBytes)
    (hardLow : (readings 0).hardAmount ≤ bounds.lowWaterBytes)
    (softLow : (readings 0).softAmount ≤ bounds.lowWaterBytes) :
    Advances queue (onBufferedAmountLow bounds readings queue amount) := by
  have isOpen : queue.closed = false := by
    cases closed : queue.closed with
    | false => rfl
    | true =>
      obtain ⟨noForeground, noBulk, -⟩ := resting.inv.kept.empty closed
      exact absurd work (not_working noForeground noBulk)
  have inv := (resting.inv.read isOpen amount).draining true
  have read : Later queue (queue.read amount) := later_event rfl (by simp)
  have readOpen : (queue.read amount).closed = false := isOpen
  have readIdle : (queue.read amount).draining = false := resting.idle
  rw [onBufferedAmountLow, if_neg (by simp [isOpen]), if_neg (not_lt.mpr low),
    drain_of_idle readOpen readIdle]
  exact read.advances (drainLoop_advances inv work unscheduled hardLow softLow rfl)

/-! ## Every sequence of calls -/

/-- What becomes of a request to send: it is admitted as a whole, or the answer is that it is not and
nothing of it is in the history. -/
def Admission (queue next : SendQueue) (answer : Option Bool) (priority : Priority)
    (items : List QueuedSend) : Prop :=
  (∃ new, next.history = queue.history ++ .admitted priority items :: new ∧
    ∀ priority items, .admitted priority items ∉ new) ∨
  ((answer = some false ∨ items = []) ∧
    (next.history = queue.history ∨ next.history = queue.history ++ [.failed .overflow]))

/-- What a call answers and admits. -/
theorem take_admission (resting : Resting bounds queue)
    (isRequest : call.request = some (priority, items)) (readings : Nat → Reading) :
    Admission queue (take bounds queue call readings).2 (take bounds queue call readings).1 priority
      items := by
  obtain ⟨_, enqueued, same⟩ := take_enqueued isRequest readings
  rw [same]
  cases enqueued with
  | admitted nonempty isOpen admits =>
    obtain ⟨-, new, isNew, unadmitted⟩ := enqueueAdmitted_resting resting isOpen nonempty admits
    refine .inl ⟨new, ?_, unadmitted⟩
    rw [isNew, push_history, append_assoc, singleton_append]
  | retired => exact .inr ⟨.inl rfl, .inl rfl⟩
  | overflow isOpen => exact .inr ⟨.inl rfl, .inr (resting.inv.fail_history isOpen _)⟩
  | nothing empty => exact .inr ⟨.inr empty, .inl rfl⟩

/-- The guarantees of the send queue after any calls, with any answers of the channel. -/
theorem send_queue_guarantees (bounds : SendQueueBounds)
    (calls : List (SendCall × (Nat → Reading))) :
    let queue := after bounds calls
    -- What a class has sent is a beginning of its admitted operations, one after the other.
    (∀ priority, sentItems priority queue.history <+:
      (admittedOperations priority queue.history).flatten) ∧
    (∀ call readings priority items, SendCall.request call = some (priority, items) →
      Admission queue (take bounds queue call readings).2 (take bounds queue call readings).1
        priority items) ∧
    -- The counters are those of the contents, and keep their caps.
    (queue.pendingItems = (queuedItems queue.foreground ++ queuedItems queue.bulk).length ∧
      queue.pendingBytes = totalBytes (queuedItems queue.foreground ++ queuedItems queue.bulk) ∧
      queue.pendingItems ≤ bounds.maxQueuedItems ∧ queue.pendingBytes ≤ bounds.maxQueuedBytes) ∧
    -- While bulk work waits, the foreground keeps its burst.
    BurstLimited bounds.foregroundBurstOperations queue.history ∧
    -- No work is left without something that will resume it.
    (queue.foreground ≠ [] ∨ queue.bulk ≠ [] →
      (queue.bulkDrainScheduled = true ∧ queue.bulkDrainScheduleEpoch ∈ queue.tasks) ∨
      ∃ amount, lastRead queue.history = some amount ∧ bounds.lowWaterBytes < amount) ∧
    (queue.foreground ≠ [] ∨ queue.bulk ≠ [] → queue.bulkDrainScheduled = false →
      ∀ amount readings, amount ≤ bounds.lowWaterBytes →
        (readings 0).hardAmount ≤ bounds.lowWaterBytes →
        (readings 0).softAmount ≤ bounds.lowWaterBytes →
        Advances queue (onBufferedAmountLow bounds readings queue amount)) := by
  have resting := after_resting bounds calls
  have accounted := resting.inv.accounted
  refine ⟨resting.inv.ordered.begins, fun call readings priority items isRequest =>
    take_admission resting isRequest readings, ⟨?_, ?_, accounted.itemCap, accounted.byteCap⟩,
    resting.inv.fair.limited, fun work => ?_, fun work unscheduled amount readings low hardLow
      softLow => onBufferedAmountLow_advances resting work unscheduled low hardLow softLow⟩
  · rw [accounted.items, unsent, length_append]
  · rw [accounted.bytes, totalBytes, totalBytes, totalBytes, map_append, sum_append]
  · exact (resting.awake work).imp (fun scheduled => ⟨scheduled, resting.inv.kept.task scheduled⟩) id

end HydraTerm.Browser.SendQueue
