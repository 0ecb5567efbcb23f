import HydraTerm.Browser.JsStrings

/-!
# The send queue of the data channel

What the browser sends goes through a queue with two classes. Foreground operations are control
messages and typing; a bulk operation is a paste. The queue drains into the native channel until the
channel's buffer is full, and goes on when the channel reports that the buffer is low or when a task
runs that the queue has scheduled for its bulk work.

A drain is a loop whose turns read the channel again and again, so each turn has its own answers of
the channel (`Reading`). The channel and the scheduler do not call the queue while it calls them. The
record holds, besides the fields of the source, what the outside has seen: the tasks that were given
to the scheduler and have not run, and the history of what happened.
-/

namespace HydraTerm.Browser

open List

/-! ## Bounds -/

/-- `DataChannelSendQueueOptions`. -/
structure SendQueueOptions where
  highWaterBytes : Option Nat := none
  lowWaterBytes : Option Nat := none
  bulkHighWaterBytes : Option Nat := none
  maxQueuedBytes : Option Nat := none
  maxQueuedItems : Option Nat := none
  foregroundBurstOperations : Option Nat := none

/-- The bounds that the constructor accepts. -/
structure SendQueueBounds where
  highWaterBytes : Nat
  lowWaterBytes : Nat
  bulkHighWaterBytes : Nat
  maxQueuedBytes : Nat
  maxQueuedItems : Nat
  foregroundBurstOperations : Nat
  low_lt_bulk : lowWaterBytes < bulkHighWaterBytes
  bulk_le_high : bulkHighWaterBytes ≤ highWaterBytes
  burst_pos : 0 < foregroundBurstOperations
  deriving DecidableEq

/-- The largest safe integer. -/
def maxSafeInteger : Nat := 2 ^ 53 - 1

/-- The constructor: the defaults, and the check of the bounds. -/
def SendQueueBounds.ofOptions (options : SendQueueOptions) : Except String SendQueueBounds :=
  let high := options.highWaterBytes.getD (1024 * 1024)
  let low := options.lowWaterBytes.getD (128 * 1024)
  let bulkHigh := options.bulkHighWaterBytes.getD (min (256 * 1024) ((low + high + 1) / 2))
  let maxBytes := options.maxQueuedBytes.getD (2 * 1024 * 1024)
  let maxItems := options.maxQueuedItems.getD 256
  let burst := options.foregroundBurstOperations.getD 8
  if valid : low < high ∧ low < bulkHigh ∧ bulkHigh ≤ high ∧ 0 < maxBytes ∧ 0 < maxItems ∧
      burst ≤ maxSafeInteger ∧ 0 < burst then
    .ok ⟨high, low, bulkHigh, maxBytes, maxItems, burst, valid.2.1, valid.2.2.1, valid.2.2.2.2.2.2⟩
  else .error "invalid DataChannel send-queue bounds"

/-! ## The queue -/

/-- The two classes. -/
inductive Priority
  | foreground
  | bulk
  deriving DecidableEq

/-- `QueuedSend`. -/
inductive QueuedSend
  | text (value : JsString)
  | binary (value : List UInt8)
  deriving DecidableEq

/-- The field `bytes`, which the queue computes from the value. -/
def QueuedSend.bytes : QueuedSend → Nat
  | text value => utf8Length value
  | binary value => value.length

/-- `QueuedOperation`. One that has sent its last item is not in the queue any more. -/
structure QueuedOperation where
  items : List QueuedSend
  next : Nat
  unsent : next < items.length
  deriving DecidableEq

namespace QueuedOperation

variable (operation : QueuedOperation)

/-- The item to send next. -/
def item : QueuedSend :=
  operation.items.get ⟨operation.next, operation.unsent⟩

/-- The operation after its next item was sent, if it has more. -/
def advance : Option QueuedOperation :=
  if more : operation.next + 1 < operation.items.length then
    some ⟨operation.items, operation.next + 1, more⟩
  else none

/-- The items that are not sent yet. -/
def remaining : List QueuedSend := operation.items.drop operation.next

end QueuedOperation

/-- `DataChannelSendFailure`. -/
inductive SendFailure
  | overflow
  | sendFailed
  deriving DecidableEq

/-- What happened: an operation was admitted; an item was sent, as the last of its operation or not,
and with bulk work in the queue or not; the buffered amount was read; the owner was told of a
failure. -/
inductive SendEvent
  | admitted (priority : Priority) (items : List QueuedSend)
  | sent (priority : Priority) (item : QueuedSend) (finishes bulkPending : Bool)
  | read (bufferedAmount : Nat)
  | failed (reason : SendFailure)
  deriving DecidableEq

/-- `DataChannelSendQueue`, with the epochs of the tasks that have not run and the history. -/
structure SendQueue where
  foreground : List QueuedOperation
  bulk : List QueuedOperation
  pendingItems : Nat
  pendingBytes : Nat
  foregroundOperationsSinceBulk : Nat
  bulkDrainScheduled : Bool
  bulkDrainScheduleEpoch : Nat
  draining : Bool
  closed : Bool
  failed : Bool
  tasks : List Nat
  history : List SendEvent
  deriving DecidableEq

/-- What the channel answers in one turn of the loop: whether it is open, the buffered amount at each
of the three places where it is read, and whether `send` returns. -/
structure Reading where
  isOpen : Bool
  hardAmount : Nat
  softAmount : Nat
  scheduleAmount : Nat
  sends : Bool

namespace SendQueue

/-- A new queue. -/
def initial : SendQueue := ⟨[], [], 0, 0, 0, false, 0, false, false, false, [], []⟩

variable (queue : SendQueue)

/-- Note what happened. -/
def record (event : SendEvent) : SendQueue :=
  { queue with history := queue.history ++ [event] }

/-- Read the buffered amount. -/
def read (amount : Nat) : SendQueue := queue.record (.read amount)

/-- `invalidateScheduledBulkDrain`. -/
def invalidateScheduledBulkDrain : SendQueue :=
  { queue with
    bulkDrainScheduled := false
    bulkDrainScheduleEpoch := queue.bulkDrainScheduleEpoch + 1 }

/-- `close`. -/
def close : SendQueue :=
  if queue.closed then queue
  else
    { queue.invalidateScheduledBulkDrain with
      closed := true
      foreground := []
      bulk := []
      pendingItems := 0
      pendingBytes := 0
      foregroundOperationsSinceBulk := 0 }

/-- `fail`. -/
def fail (reason : SendFailure) : SendQueue :=
  if queue.failed then queue
  else ({ queue with failed := true } : SendQueue).close.record (.failed reason)

/-- The part of `scheduleBulkDrain` behind its checks. -/
def addTask : SendQueue :=
  { queue with
    bulkDrainScheduled := true
    bulkDrainScheduleEpoch := queue.bulkDrainScheduleEpoch + 1
    tasks := queue.tasks ++ [queue.bulkDrainScheduleEpoch + 1] }

/-- `scheduleBulkDrain`. -/
def scheduleBulkDrain (bounds : SendQueueBounds) (queue : SendQueue) (forceFairness : Bool)
    (amount : Nat) : SendQueue :=
  if queue.closed || queue.bulkDrainScheduled || queue.bulk.isEmpty then queue
  else if forceFairness then queue.addTask
  else if amount ≥ bounds.bulkHighWaterBytes then queue.read amount
  else (queue.read amount).addTask

/-- `sendNext` where the channel takes the item: the counters, and the operation goes on or leaves the
front of its class. -/
def sendNext (priority : Priority) (operation : QueuedOperation)
    (rest : List QueuedOperation) : SendQueue :=
  let sent := { queue.record
      (.sent priority operation.item operation.advance.isNone (!queue.bulk.isEmpty)) with
    pendingItems := queue.pendingItems - 1
    pendingBytes := queue.pendingBytes - operation.item.bytes }
  match priority with
  | .foreground => { sent with foreground := operation.advance.toList ++ rest }
  | .bulk => { sent with bulk := operation.advance.toList ++ rest }

/-- The foreground's part of a turn: a finished operation is counted while bulk work waits. -/
def sendForeground (operation : QueuedOperation) (rest : List QueuedOperation) : SendQueue :=
  let sent := queue.sendNext .foreground operation rest
  if operation.advance.isNone then
    { sent with
      foregroundOperationsSinceBulk :=
        if queue.bulk.isEmpty then 0 else queue.foregroundOperationsSinceBulk + 1 }
  else sent

/-- The bulk's part of a turn. -/
def sendBulk (operation : QueuedOperation) (rest : List QueuedOperation) : SendQueue :=
  { queue.sendNext .bulk operation rest with foregroundOperationsSinceBulk := 0 }

end SendQueue

/-! ## The drain -/

/-- How a turn of the loop ends. -/
inductive Turn
  | again (sentBulkThisTurn : Bool) (queue : SendQueue)
  | stop (queue : SendQueue)

namespace SendQueue

variable (bounds : SendQueueBounds) (reading : Reading)

/-- The part of `serveBulk` behind its checks: an item is sent, and the next one is scheduled. -/
def sendScheduled (queue : SendQueue) (operation : QueuedOperation) (rest : List QueuedOperation) :
    Turn :=
  if !reading.sends then .stop (queue.fail .sendFailed)
  else
    let queue := queue.sendBulk operation rest
    if queue.bulk.isEmpty then .again true queue
    else
      let queue := queue.scheduleBulkDrain bounds false reading.scheduleAmount
      if queue.foreground.isEmpty then .stop queue else .again true queue

/-- A turn that does not serve the foreground. -/
def serveBulk (sentBulkThisTurn : Bool) (queue : SendQueue) (operation : QueuedOperation)
    (rest : List QueuedOperation) : Turn :=
  let fairnessDue := decide (queue.foregroundOperationsSinceBulk ≥ bounds.foregroundBurstOperations)
  if queue.bulkDrainScheduled && !fairnessDue then .stop queue
  else
    let queue := if fairnessDue then queue.invalidateScheduledBulkDrain else queue
    if sentBulkThisTurn then .stop (queue.scheduleBulkDrain bounds true reading.scheduleAmount)
    else
      let queue := if fairnessDue then queue else queue.read reading.softAmount
      if !fairnessDue && reading.softAmount ≥ bounds.bulkHighWaterBytes then .stop queue
      else sendScheduled bounds reading queue operation rest

/-- A turn of the loop. -/
def turn (sentBulkThisTurn : Bool) (queue : SendQueue) : Turn :=
  if !reading.isOpen then .stop (queue.fail .sendFailed)
  else
    let queue := queue.read reading.hardAmount
    if reading.hardAmount ≥ bounds.highWaterBytes then .stop queue
    else
      match queue.foreground, queue.bulk with
      | [], [] => .stop { queue with foregroundOperationsSinceBulk := 0 }
      | [], operation :: rest => serveBulk bounds reading sentBulkThisTurn queue operation rest
      | operation :: rest, [] =>
        if reading.sends then .again sentBulkThisTurn (queue.sendForeground operation rest)
        else .stop (queue.fail .sendFailed)
      | operation :: rest, bulkOperation :: bulkRest =>
        let fairnessDue :=
          decide (queue.foregroundOperationsSinceBulk ≥ bounds.foregroundBurstOperations)
        if decide (operation.next > 0) || !fairnessDue then
          if reading.sends then .again sentBulkThisTurn (queue.sendForeground operation rest)
          else .stop (queue.fail .sendFailed)
        else serveBulk bounds reading sentBulkThisTurn queue bulkOperation bulkRest

/-- The items that are queued in a class. -/
def queuedItems (operations : List QueuedOperation) : List QueuedSend :=
  operations.flatMap QueuedOperation.remaining

/-- The number of items in the queue. -/
def unsent (queue : SendQueue) : Nat :=
  (queuedItems queue.foreground).length + (queuedItems queue.bulk).length

/-! ## What a turn does -/

/-- The channel was read, and a scheduled drain may have been given up. -/
inductive Quiet (queue : SendQueue) : SendQueue → Prop
  | refl : Quiet queue queue
  | read {ready : SendQueue} (amount : Nat) : Quiet queue ready → Quiet queue (ready.read amount)
  | invalidate {ready : SendQueue} :
      Quiet queue ready → Quiet queue ready.invalidateScheduledBulkDrain

/-- Reading and giving up a drain leave the work as it is, and schedule nothing. -/
theorem Quiet.same {queue ready : SendQueue} (quiet : Quiet queue ready) :
    ready.foreground = queue.foreground ∧ ready.bulk = queue.bulk ∧ ready.closed = queue.closed ∧
      (ready.bulkDrainScheduled = true → queue.bulkDrainScheduled = true) := by
  induction quiet with
  | refl => exact ⟨rfl, rfl, rfl, id⟩
  | read amount _ ih => exact ih
  | invalidate _ ih => exact ⟨ih.1, ih.2.1, ih.2.2.1, nofun⟩

variable (ready : SendQueue) (sentBulkThisTurn : Bool)

/-- Everything that a turn can do with a queue that it has read. The loop stops where the send fails,
where the buffer is above the low mark, where there is no work, or where a drain is scheduled. -/
inductive TurnCase : Turn → Prop
  | fails : TurnCase (.stop (ready.fail .sendFailed))
  | full (amount : Nat) (above : bounds.lowWaterBytes < amount)
      (read : reading.hardAmount = amount ∨ reading.softAmount = amount) :
      TurnCase (.stop (ready.read amount))
  | idle (noForeground : ready.foreground = []) (noBulk : ready.bulk = []) :
      TurnCase (.stop { ready with foregroundOperationsSinceBulk := 0 })
  | waits (scheduled : ready.bulkDrainScheduled = true) : TurnCase (.stop ready)
  | yields (again : sentBulkThisTurn = true) : TurnCase (.stop ready.addTask)
  | foreground (operation : QueuedOperation) (rest : List QueuedOperation)
      (isFirst : ready.foreground = operation :: rest)
      (allowed : 0 < operation.next ∨ ready.bulk = [] ∨
        ready.foregroundOperationsSinceBulk < bounds.foregroundBurstOperations) :
      TurnCase (.again sentBulkThisTurn (ready.sendForeground operation rest))
  | bulk (operation : QueuedOperation) (rest : List QueuedOperation)
      (isFirst : ready.bulk = operation :: rest)
      (between : ∀ first ∈ ready.foreground.head?, first.next = 0) (next : SendQueue)
      (isNext : Quiet (ready.sendBulk operation rest) next) (result : Turn)
      (isResult : result = .again true next ∨ result = .again true next.addTask ∨
        result = .stop next.addTask ∨ (result = .stop next ∧ ∃ amount,
          next = (ready.sendBulk operation rest).read amount ∧ bounds.lowWaterBytes < amount)) :
      TurnCase result

variable {bounds reading sentBulkThisTurn} {queue : SendQueue}
  {operation : QueuedOperation} {rest : List QueuedOperation}

section

variable (isOpen : queue.closed = false)
include isOpen

/-- A schedule that nothing refuses but the soft ceiling. -/
theorem scheduleBulkDrain_eq (unscheduled : queue.bulkDrainScheduled = false)
    (more : queue.bulk.isEmpty = false) (forceFairness : Bool) (amount : Nat) :
    queue.scheduleBulkDrain bounds forceFairness amount =
      if forceFairness then queue.addTask
      else if amount ≥ bounds.bulkHighWaterBytes then queue.read amount
      else (queue.read amount).addTask := by
  simp [scheduleBulkDrain, isOpen, unscheduled, more]

variable (isFirst : queue.bulk = operation :: rest)
  (between : ∀ first ∈ queue.foreground.head?, first.next = 0)
include isFirst between

theorem sendScheduled_cases (unscheduled : queue.bulkDrainScheduled = false) :
    TurnCase bounds reading queue sentBulkThisTurn
      (sendScheduled bounds reading queue operation rest) := by
  have sentOpen : (queue.sendBulk operation rest).closed = false := isOpen
  unfold sendScheduled
  split
  · exact .fails
  · dsimp only
    split
    · exact .bulk operation rest isFirst between _ .refl _ (.inl rfl)
    next more =>
      have more : (queue.sendBulk operation rest).bulk.isEmpty = false := by simpa using more
      refine .bulk operation rest isFirst between _ (.read reading.scheduleAmount .refl) _ ?_
      rw [scheduleBulkDrain_eq sentOpen unscheduled more, if_neg Bool.false_ne_true]
      split
      next above =>
        split
        · exact .inr (.inr (.inr ⟨rfl, _, rfl, bounds.low_lt_bulk.trans_le above⟩))
        · exact .inl rfl
      · split
        · exact .inr (.inr (.inl rfl))
        · exact .inr (.inl rfl)

theorem serveBulk_cases {start : SendQueue} (quiet : Quiet start queue) :
    ∃ ready, Quiet start ready ∧ TurnCase bounds reading ready sentBulkThisTurn
      (serveBulk bounds reading sentBulkThisTurn queue operation rest) := by
  have someBulk : queue.bulk.isEmpty = false := by rw [isFirst]; rfl
  unfold serveBulk
  by_cases due : queue.foregroundOperationsSinceBulk ≥ bounds.foregroundBurstOperations
  · simp only [due, decide_true, Bool.not_true, Bool.and_false, Bool.false_eq_true, if_false, if_true,
      Bool.false_and]
    have stillOpen : queue.invalidateScheduledBulkDrain.closed = false := isOpen
    refine ⟨_, quiet.invalidate, ?_⟩
    split
    next again =>
      rw [scheduleBulkDrain_eq stillOpen rfl someBulk]
      exact .yields again
    · exact sendScheduled_cases stillOpen isFirst between rfl
  · simp only [due, decide_false, Bool.not_false, Bool.and_true, Bool.true_and, Bool.false_eq_true,
      if_false]
    cases scheduled : queue.bulkDrainScheduled with
    | true => exact ⟨_, quiet, .waits scheduled⟩
    | false =>
      rw [if_neg (by decide)]
      split
      next again =>
        rw [scheduleBulkDrain_eq isOpen scheduled someBulk]
        exact ⟨_, quiet, .yields again⟩
      · split
        next above =>
          exact ⟨_, quiet, .full reading.softAmount
            (bounds.low_lt_bulk.trans_le (by simpa using above)) (.inr rfl)⟩
        · have stillOpen : (queue.read reading.softAmount).closed = false := isOpen
          exact ⟨_, quiet.read _, sendScheduled_cases stillOpen isFirst between scheduled⟩

end

theorem turn_cases (isOpen : queue.closed = false) :
    ∃ ready, Quiet queue ready ∧ TurnCase bounds reading ready sentBulkThisTurn
      (turn bounds reading sentBulkThisTurn queue) := by
  have quiet : Quiet queue (queue.read reading.hardAmount) := .read _ .refl
  unfold turn
  split
  · exact ⟨_, .refl, .fails⟩
  · dsimp only
    have readOpen : (queue.read reading.hardAmount).closed = false := isOpen
    split
    next full =>
      exact ⟨_, .refl, .full reading.hardAmount
        (bounds.low_lt_bulk.trans_le (bounds.bulk_le_high.trans full)) (.inl rfl)⟩
    · generalize queue.read reading.hardAmount = ready at quiet readOpen
      have send {operation : QueuedOperation} {rest : List QueuedOperation}
          (isFirst : ready.foreground = operation :: rest)
          (allowed : 0 < operation.next ∨ ready.bulk = [] ∨
            ready.foregroundOperationsSinceBulk < bounds.foregroundBurstOperations) :
          ∃ other, Quiet queue other ∧ TurnCase bounds reading other sentBulkThisTurn
            (if reading.sends then .again sentBulkThisTurn (ready.sendForeground operation rest)
            else .stop (ready.fail .sendFailed)) := by
        refine ⟨ready, quiet, ?_⟩
        split
        · exact .foreground operation rest isFirst allowed
        · exact .fails
      split
      next noForeground noBulk => exact ⟨_, quiet, .idle noForeground noBulk⟩
      next noForeground isFirst =>
        exact serveBulk_cases readOpen isFirst (by simp [noForeground]) quiet
      next isFirst noBulk => exact send isFirst (.inr (.inl noBulk))
      next isFirst isBulk =>
        split
        next goesOn =>
          refine send isFirst ?_
          simp only [Bool.or_eq_true, decide_eq_true_eq, Bool.not_eq_true', decide_eq_false_iff_not,
            not_le] at goesOn
          exact goesOn.imp id .inr
        next turnsOver =>
          refine serveBulk_cases readOpen isBulk ?_ quiet
          simp only [Bool.or_eq_true, decide_eq_true_eq, not_or] at turnsOver
          rw [isFirst]
          rintro _ ⟨⟩
          omega

/-! ## The loop ends -/

/-- An operation's items are the one to send next and those of the operation after it. -/
theorem queuedItems_cons (operation : QueuedOperation) (rest : List QueuedOperation) :
    queuedItems (operation :: rest) =
      operation.item :: queuedItems (operation.advance.toList ++ rest) := by
  have dropped : operation.remaining =
      operation.item :: operation.items.drop (operation.next + 1) :=
    drop_eq_getElem_cons operation.unsent
  rw [queuedItems, flatMap_cons, dropped, cons_append, queuedItems, flatMap_append]
  congr 2
  unfold QueuedOperation.advance
  split
  · simp [QueuedOperation.remaining]
  next last => simp [drop_eq_nil_of_le (Nat.le_of_not_lt last)]

/-- Only the counter depends on whether the operation is finished. -/
theorem sendForeground_eq (queue : SendQueue) (operation : QueuedOperation)
    (rest : List QueuedOperation) :
    queue.sendForeground operation rest = { queue.sendNext .foreground operation rest with
      foregroundOperationsSinceBulk :=
        if operation.advance.isNone then
          if queue.bulk.isEmpty then 0 else queue.foregroundOperationsSinceBulk + 1
        else queue.foregroundOperationsSinceBulk } := by
  unfold sendForeground
  split <;> rfl

/-- A turn after which the loop goes on has sent an item, and the queue is open. -/
theorem turn_again {after : Bool} {next : SendQueue} (isOpen : queue.closed = false)
    (taken : turn bounds reading sentBulkThisTurn queue = .again after next) :
    next.unsent < queue.unsent ∧ next.closed = false := by
  obtain ⟨ready, quiet, done⟩ := @turn_cases bounds reading sentBulkThisTurn _ isOpen
  rw [taken] at done
  obtain ⟨sameForeground, sameBulk, sameOpen, -⟩ := quiet.same
  rw [unsent, unsent, ← sameForeground, ← sameBulk, ← isOpen, ← sameOpen]
  cases done with
  | foreground operation rest isFirst =>
    rw [sendForeground_eq, isFirst, queuedItems_cons, length_cons]
    exact ⟨Nat.add_lt_add_right (Nat.lt_succ_self _) _, rfl⟩
  | bulk operation rest isFirst _ last isLast _ isResult =>
    obtain ⟨front, back, stillOpen, -⟩ := isLast.same
    have same : next.foreground = last.foreground ∧ next.bulk = last.bulk ∧
        next.closed = last.closed := by
      rcases isResult with result | result | result | ⟨result, -⟩ <;> cases result
      · exact ⟨rfl, rfl, rfl⟩
      · exact ⟨rfl, rfl, rfl⟩
    rw [same.1, same.2.1, same.2.2, front, back, stillOpen, isFirst, queuedItems_cons, length_cons]
    exact ⟨Nat.add_lt_add_left (Nat.lt_succ_self _) _, rfl⟩

variable (bounds)

/-- The loop of `drain`. -/
def drainLoop (readings : Nat → Reading) (sentBulkThisTurn : Bool) (queue : SendQueue)
    (isOpen : queue.closed = false) : SendQueue :=
  match taken : turn bounds (readings 0) sentBulkThisTurn queue with
  | .stop last => last
  | .again sentBulk next =>
    drainLoop (fun turns => readings (turns + 1)) sentBulk next (turn_again isOpen taken).2
termination_by queue.unsent
decreasing_by exact (turn_again isOpen taken).1

variable (readings : Nat → Reading) (queue : SendQueue)

/-- `drain`. -/
def drain : SendQueue :=
  if isOpen : queue.closed = false then
    if queue.draining then queue
    else
      { drainLoop bounds readings false { queue with draining := true } isOpen with draining := false }
  else queue

/-! ## The calls -/

/-- `canAdmit`. -/
def canAdmit (items bytes : Nat) : Bool :=
  decide (items + queue.pendingItems ≤ bounds.maxQueuedItems ∧
    bytes + queue.pendingBytes ≤ bounds.maxQueuedBytes)

/-- The part of `enqueueAdmitted` before the drain: the operation goes to the end of its class. -/
def push (priority : Priority) (items : List QueuedSend) (nonempty : items ≠ []) (bytes : Nat) :
    SendQueue :=
  let operation : QueuedOperation := ⟨items, 0, List.length_pos_of_ne_nil nonempty⟩
  let pushed := match priority with
    | .foreground => { queue with foreground := queue.foreground ++ [operation] }
    | .bulk => { queue with bulk := queue.bulk ++ [operation] }
  { pushed.record (.admitted priority items) with
    pendingItems := queue.pendingItems + items.length
    pendingBytes := queue.pendingBytes + bytes }

/-- `enqueueAdmitted`. -/
def enqueueAdmitted (priority : Priority)
    (items : List QueuedSend) (nonempty : items ≠ []) (bytes : Nat) : Bool × SendQueue :=
  let after := drain bounds readings (queue.push priority items nonempty bytes)
  (!after.closed, after)

/-- The sum of lengths, unless it leaves the safe integers on the way. -/
def safeTotal (start : Nat) : List (List UInt8) → Option Nat
  | [] => some start
  | value :: values =>
    if start + value.length > maxSafeInteger then none else safeTotal (start + value.length) values

/-- `enqueueText`, through `enqueueOperation`. -/
def enqueueText (value : JsString) : Bool × SendQueue :=
  if queue.closed then (false, queue)
  else if !canAdmit bounds queue 1 (utf8Length value) then (false, queue.fail .overflow)
  else
    enqueueAdmitted bounds readings queue .foreground [.text value] (List.cons_ne_nil _ _)
      (utf8Length value)

/-- `enqueueTextAndBinaryBatch`. -/
def enqueueTextAndBinaryBatch (text : JsString) (values : List (List UInt8)) : Bool × SendQueue :=
  if queue.closed then (false, queue)
  else
    match safeTotal (utf8Length text) values with
    | none => (false, queue.fail .overflow)
    | some bytes =>
      if !canAdmit bounds queue (1 + values.length) bytes then (false, queue.fail .overflow)
      else
        enqueueAdmitted bounds readings queue .foreground (.text text :: values.map .binary)
          (List.cons_ne_nil _ _) bytes

/-- `enqueueBinaryOperation`. -/
def enqueueBinaryOperation (priority : Priority) (values : List (List UInt8)) : Bool × SendQueue :=
  if queue.closed then (false, queue)
  else if empty : values = [] then (true, queue)
  else
    match safeTotal 0 values with
    | none => (false, queue.fail .overflow)
    | some bytes =>
      if !canAdmit bounds queue values.length bytes then (false, queue.fail .overflow)
      else
        enqueueAdmitted bounds readings queue priority (values.map .binary) (by simpa using empty)
          bytes

/-- `enqueueBinaryBatch`. -/
def enqueueBinaryBatch (values : List (List UInt8)) : Bool × SendQueue :=
  enqueueBinaryOperation bounds readings queue .foreground values

/-- `enqueueBinary`. -/
def enqueueBinary (value : List UInt8) : Bool × SendQueue :=
  enqueueBinaryBatch bounds readings queue [value]

/-- `enqueueBulkBinaryBatch`. -/
def enqueueBulkBinaryBatch (values : List (List UInt8)) : Bool × SendQueue :=
  enqueueBinaryOperation bounds readings queue .bulk values

/-- `onBufferedAmountLow`. -/
def onBufferedAmountLow (amount : Nat) : SendQueue :=
  if queue.closed then queue
  else if amount > bounds.lowWaterBytes then queue.read amount
  else drain bounds readings (queue.read amount)

/-- The callback of a task runs, if there is such a task. -/
def runTask (epoch : Nat) : SendQueue :=
  if epoch ∉ queue.tasks then queue
  else
    let queue := { queue with tasks := queue.tasks.erase epoch }
    if queue.closed || !queue.bulkDrainScheduled || epoch ≠ queue.bulkDrainScheduleEpoch then queue
    else drain bounds readings { queue with bulkDrainScheduled := false }

/-- What the owner, the channel and the scheduler can do. -/
inductive SendCall
  | enqueueText (value : JsString)
  | enqueueBinary (value : List UInt8)
  | enqueueTextAndBinaryBatch (text : JsString) (values : List (List UInt8))
  | enqueueBinaryBatch (values : List (List UInt8))
  | enqueueBulkBinaryBatch (values : List (List UInt8))
  | onBufferedAmountLow (amount : Nat)
  | runTask (epoch : Nat)
  | close

/-- The answer of a call, where it has one, and the queue after it. -/
def take (queue : SendQueue) (call : SendCall) (readings : Nat → Reading) :
    Option Bool × SendQueue :=
  match call with
  | .enqueueText value => (enqueueText bounds readings queue value).map some id
  | .enqueueBinary value => (enqueueBinary bounds readings queue value).map some id
  | .enqueueTextAndBinaryBatch text values =>
    (enqueueTextAndBinaryBatch bounds readings queue text values).map some id
  | .enqueueBinaryBatch values => (enqueueBinaryBatch bounds readings queue values).map some id
  | .enqueueBulkBinaryBatch values =>
    (enqueueBulkBinaryBatch bounds readings queue values).map some id
  | .onBufferedAmountLow amount => (none, onBufferedAmountLow bounds readings queue amount)
  | .runTask epoch => (none, runTask bounds readings queue epoch)
  | .close => (none, queue.close)

/-- The queue after some calls. -/
def after (calls : List (SendCall × (Nat → Reading))) : SendQueue :=
  calls.foldl (fun queue call => (take bounds queue call.1 call.2).2) initial

end SendQueue

end HydraTerm.Browser
