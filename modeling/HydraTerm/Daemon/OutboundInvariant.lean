import HydraTerm.Daemon.Outbound

/-!
# The invariant of the outbound queue

The invariant has one part for each concern, over just the components it speaks of: who is
at the gate, what the lines are, the orders of the journal, and where every permit and slot
is. What a send does is a change of its phase behind the gate, its end, its withdrawal or
its arrival, and each part is kept by each of these.
-/

namespace HydraTerm.Daemon

open Lib Grid List

/-- The phases between the gate and the end of a send. -/
def SendPhase.holdsGate : SendPhase → Bool
  | .awaitingBudget | .reserved _ | .awaitingSlot _ | .sending _ => true
  | .arriving | .settled _ => false

/-- The line a send carries. -/
def SendPhase.line : SendPhase → Option QueuedLine
  | .awaitingSlot line | .sending line => some line
  | .arriving | .awaitingBudget | .reserved _ | .settled _ => none

/-- The line is the event's text with a newline, and is charged exactly its bytes. -/
structure QueuedLine.Encodes (line : QueuedLine) (event : List (List UInt8)) : Prop where
  text : line.bytes = event.flatten ++ [newline]
  charged : line.permit = line.bytes.length

theorem cappedWrite_some {limit : Nat} {bytes piece result : List UInt8}
    (written : cappedWrite limit bytes piece = some result) :
    result = bytes ++ piece ∧ (bytes.length ≤ limit → result.length ≤ limit) := by
  unfold cappedWrite at written
  split at written
  · cases written
  next _ =>
    cases written
    refine ⟨rfl, ?_⟩
    intro bounded
    rw [length_append]
    omega

variable {event : List (List UInt8)} {task : SendTask}

theorem foldlM_cappedWrite {limit : Nat} {bytes result : List UInt8}
    (written : event.foldlM (cappedWrite limit) bytes = some result) :
    result = bytes ++ event.flatten ∧ (bytes.length ≤ limit → result.length ≤ limit) := by
  induction event generalizing bytes with
  | nil =>
    cases written
    simp
  | cons _ _ ih =>
    obtain ⟨_, first, later⟩ := Option.bind_eq_some_iff.mp written
    obtain ⟨joined, short⟩ := cappedWrite_some first
    obtain ⟨flattened, stillShort⟩ := ih later
    refine ⟨?_, fun bounded => stillShort (short bounded)⟩
    rw [flattened, joined, flatten_cons, append_assoc]

/-- An encoded line is the event's text with a newline, and not too long. -/
theorem encodeLine_some {allocates : Bool} {bytes : List UInt8}
    (encoded : encodeLine event allocates = some bytes) :
    bytes = event.flatten ++ [newline] ∧ bytes.length ≤ maxLineWithNewline := by
  unfold encodeLine at encoded
  split at encoded
  · obtain ⟨_, first, last⟩ := Option.bind_eq_some_iff.mp encoded
    obtain ⟨text, short⟩ := foldlM_cappedWrite first
    obtain ⟨ended, stillShort⟩ := cappedWrite_some last
    refine ⟨?_, stillShort (short (Nat.zero_le _))⟩
    rw [ended, text, nil_append]
  · cases encoded

/-- A reservation of a longest line is trimmed to exactly the line. -/
theorem trimReservation_exact {actualBytes : Nat} (short : actualBytes ≤ maxLineWithNewline) :
    trimReservation maxLineWithNewline actualBytes
      = some (actualBytes, maxLineWithNewline - actualBytes) := by
  unfold trimReservation
  dsimp only
  split
  · rw [if_pos (Nat.sub_le _ _)]
    congr 2
    omega
  · congr 2 <;> omega

/-- The sends at the gate are those that have not ended; behind it there is at most one. -/
structure GateInv (gate : FifoGate Nat) (tasks : List SendTask) : Prop where
  fair : gate.Fair
  inside : ∀ index ∈ gate.members, ∃ task, tasks[index]? = some task ∧ task.isSettled = false
  arriving : ∀ (index : Nat) (task : SendTask), tasks[index]? = some task →
    task.phase = .arriving → index ∈ gate.members
  holding : ∀ (index : Nat) (task : SendTask), tasks[index]? = some task → task.phase.holdsGate = true →
    gate.holder = some index

/-- What is known of the lines, wherever they are. -/
structure LinesInv (tasks : List SendTask) (queue writing : List QueuedLine) : Prop where
  reserved : ∀ (index : Nat) (task : SendTask) (permit : Nat), tasks[index]? = some task →
    task.phase = .reserved permit → permit = maxLineWithNewline
  carried : ∀ (index : Nat) (task : SendTask) (line : QueuedLine), tasks[index]? = some task →
    task.phase.line = some line → line.message = index ∧ line.Encodes task.event
  lines : ∀ line ∈ queue ++ writing, ∃ task, tasks[line.message]? = some task
    ∧ line.Encodes task.event

/-- The orders of the journal. All that were admitted before the holder have ended. -/
structure OrderInv (gate : FifoGate Nat) (tasks : List SendTask) (journal : SendJournal) :
    Prop where
  fresh : (journal.admitted ++ gate.waiters).Nodup
  past : ∃ past, journal.admitted = past ++ gate.holder.toList ∧ journal.enqueued.Sublist past
    ∧ ∀ index ∈ past, ∃ task, tasks[index]? = some task ∧ task.isSettled = true
  sent : ∀ index, index ∈ journal.enqueued ↔
    ∃ task, tasks[index]? = some task ∧ task.phase = .settled .sent

/-- What was received is the first part of what was enqueued; the rest is in the queue, as
long as there is a receiver. -/
structure DeliveryInv (journal : SendJournal) (queue : List QueuedLine) (alive : Bool) :
    Prop where
  first : journal.delivered <+: journal.enqueued
  rest : alive = true → journal.enqueued = journal.delivered ++ queue.map QueuedLine.message

/-- Every permit and every slot is at one place. -/
structure BalanceInv (state : Outbound) : Prop where
  budget : state.available + tally SendTask.reservation state.tasks
    + tally QueuedLine.permit state.queue + tally QueuedLine.permit state.writing = state.maxBytes
  slots : state.slots + state.queue.length + tally SendTask.slot state.tasks = state.itemCap

/-- The invariant of the queue. -/
structure OutboundInv (state : Outbound) : Prop where
  gate : GateInv state.gate state.tasks
  lines : LinesInv state.tasks state.queue state.writing
  order : OrderInv state.gate state.tasks state.journal
  delivery : DeliveryInv state.journal state.queue state.receiverAlive
  balance : BalanceInv state

section

variable {tasks : List SendTask} {index : Nat} {new : SendTask} {P : Nat → SendTask → Prop}

/-- Looking a send up after one was replaced. -/
theorem lookup_set (located : tasks[index]? = some task) (new : SendTask) (other : Nat) :
    (tasks.set index new)[other]? = if other = index then some new else tasks[other]? := by
  have inside := (List.getElem?_eq_some_iff.mp located).1
  split
  next same => rw [same, getElem?_set_self inside]
  next different => rw [getElem?_set_ne (Ne.symm different)]

/-- Looking a send up after one was added. -/
theorem lookup_append (tasks : List SendTask) (new : SendTask) (other : Nat) :
    (tasks ++ [new])[other]? = if other = tasks.length then some new else tasks[other]? := by
  split
  next same => rw [same, getElem?_concat_length]
  next _ =>
    by_cases old : other < tasks.length
    · exact getElem?_append_left old
    · rw [getElem?_eq_none (by simp; omega), getElem?_eq_none (by omega)]

/-- What holds of the new send and of the others holds of all. -/
theorem of_lookup_set (located : tasks[index]? = some task) (own : P index new)
    (others : ∀ other found, other ≠ index → tasks[other]? = some found → P other found) :
    ∀ other found, (tasks.set index new)[other]? = some found → P other found := by
  intro other found lookup
  rw [lookup_set located] at lookup
  split at lookup
  next same =>
    cases lookup
    exact same ▸ own
  next different => exact others other found different lookup

@[inherit_doc of_lookup_set]
theorem of_lookup_append (own : P tasks.length new)
    (others : ∀ other found, tasks[other]? = some found → P other found) :
    ∀ other found, (tasks ++ [new])[other]? = some found → P other found := by
  intro other found lookup
  rw [lookup_append] at lookup
  split at lookup
  next same =>
    cases lookup
    exact same ▸ own
  · exact others other found lookup

end

/-- A send behind the gate has not ended. -/
theorem SendPhase.holdsGate_isSettled (behind : task.phase.holdsGate = true) :
    task.isSettled = false := by
  unfold SendTask.isSettled
  split
  next _ ended =>
    rw [ended] at behind
    cases behind
  · rfl

/-- A send that has not ended has no outcome. -/
theorem SendTask.phase_ne_settled (running : task.isSettled = false)
    (outcome : SendOutcome) : task.phase ≠ .settled outcome := fun ended => by
  simp [SendTask.isSettled, ended] at running

namespace GateInv

variable {gate : FifoGate Nat} {tasks : List SendTask} {index : Nat} {new : SendTask}
  {outcome : SendOutcome} (inv : GateInv gate tasks)
include inv

/-- The holder may change its phase behind the gate. -/
theorem setPhase (located : tasks[index]? = some task) (held : gate.holder = some index)
    (behind : new.phase.holdsGate = true) : GateInv gate (tasks.set index new) := by
  constructor
  · exact inv.fair
  · intro other member
    rw [lookup_set located]
    split
    · exact ⟨new, rfl, SendPhase.holdsGate_isSettled behind⟩
    · exact inv.inside other member
  · refine of_lookup_set located (fun arriving => ?_) fun other found _ =>
      inv.arriving other found
    rw [arriving] at behind
    cases behind
  · exact of_lookup_set located (fun _ => held) fun other found _ =>
      inv.holding other found

/-- The holder ends and leaves. -/
theorem settle (located : tasks[index]? = some task) (held : gate.holder = some index)
    (ended : new.phase = .settled outcome) : GateInv gate.leave (tasks.set index new) := by
  have outside := FifoGate.holder_notMem_waiters inv.fair held
  constructor
  · exact FifoGate.leave_fair inv.fair
  · intro other member
    rw [FifoGate.members_leave] at member
    rw [lookup_set located]
    split
    next same =>
      rw [same] at member
      exact absurd member outside
    · exact inv.inside other (mem_append_right _ member)
  · refine of_lookup_set located (fun arriving => nomatch ended.symm.trans arriving)
      fun other found different lookup arriving => ?_
    rw [FifoGate.members_leave]
    apply FifoGate.mem_waiters (inv.arriving other found lookup arriving)
    rw [held]
    rintro same
    exact different (Option.some.inj same).symm
  · refine of_lookup_set located (fun holds => nomatch ended ▸ holds)
      fun other found different lookup holds => ?_
    rw [inv.holding other found lookup holds] at held
    exact absurd (Option.some.inj held) different

/-- A send that waits gives up. -/
theorem withdraw (located : tasks[index]? = some task) (waiting : index ∈ gate.waiters)
    (ended : new.phase = .settled outcome) :
    GateInv (gate.withdraw index) (tasks.set index new) := by
  constructor
  · exact FifoGate.withdraw_fair inv.fair index
  · intro other member
    obtain ⟨different, before⟩ := (FifoGate.mem_withdraw inv.fair waiting).mp member
    rw [lookup_set located, if_neg different]
    exact inv.inside other before
  · exact of_lookup_set located (fun arriving => nomatch ended.symm.trans arriving)
      fun other found different lookup arriving => (FifoGate.mem_withdraw inv.fair waiting).mpr
        ⟨different, inv.arriving other found lookup arriving⟩
  · exact of_lookup_set located (fun holds => nomatch ended ▸ holds)
      fun other found _ => inv.holding other found

/-- A new send is not at the gate. -/
theorem length_notMem : tasks.length ∉ gate.members := by
  intro member
  obtain ⟨_, found, _⟩ := inv.inside _ member
  exact absurd (List.getElem?_eq_some_iff.mp found).1 (Nat.lt_irrefl _)

/-- A new send comes to the gate. -/
theorem arrive (arrives : new.phase = .arriving) :
    GateInv (gate.enter tasks.length) (tasks ++ [new]) := by
  constructor
  · exact FifoGate.enter_fair inv.fair inv.length_notMem
  · intro other member
    rw [FifoGate.members_enter inv.fair, mem_append, mem_singleton] at member
    rw [lookup_append]
    split
    next _ => exact ⟨new, rfl, by simp [SendTask.isSettled, arrives]⟩
    next different => exact inv.inside other (member.resolve_right different)
  · rw [FifoGate.members_enter inv.fair]
    exact of_lookup_append (fun _ => by simp) fun other found lookup arriving =>
      mem_append_left _ (inv.arriving other found lookup arriving)
  · refine of_lookup_append (fun holds => nomatch arrives ▸ holds)
      fun other found lookup holds => ?_
    have held := inv.holding other found lookup holds
    simp [FifoGate.enter, held]

/-- A send that has ended at once does not come to the gate. -/
theorem append (ended : new.phase = .settled outcome) : GateInv gate (tasks ++ [new]) := by
  constructor
  · exact inv.fair
  · intro other member
    rw [lookup_append]
    split
    next same =>
      rw [same] at member
      exact absurd member inv.length_notMem
    · exact inv.inside other member
  · exact of_lookup_append (fun arriving => nomatch ended.symm.trans arriving) inv.arriving
  · exact of_lookup_append (fun holds => nomatch ended ▸ holds) inv.holding

end GateInv

namespace LinesInv

variable {tasks : List SendTask} {queue writing : List QueuedLine} {index : Nat}
  (inv : LinesInv tasks queue writing)
include inv

/-- A send may change its phase if what it then carries is its own line. -/
theorem update (located : tasks[index]? = some task) {phase : SendPhase}
    (whole : ∀ permit, phase = .reserved permit → permit = maxLineWithNewline)
    (own : ∀ line, phase.line = some line → line.message = index ∧ line.Encodes task.event) :
    LinesInv (tasks.set index { task with phase := phase }) queue writing := by
  constructor
  · exact fun other found permit => of_lookup_set located (whole permit)
      (fun other found _ => inv.reserved other found permit) other found
  · exact fun other found line => of_lookup_set located (own line)
      (fun other found _ => inv.carried other found line) other found
  · intro line member
    obtain ⟨found, lookup, encodes⟩ := inv.lines line member
    rw [lookup_set located]
    split
    next same =>
      rw [same, located] at lookup
      cases lookup
      exact ⟨_, rfl, encodes⟩
    · exact ⟨found, lookup, encodes⟩

/-- A new send carries nothing. -/
theorem append {new : SendTask} (unreserved : ∀ permit, new.phase ≠ .reserved permit)
    (empty : new.phase.line = none) : LinesInv (tasks ++ [new]) queue writing := by
  constructor
  · exact fun other found permit => of_lookup_append (fun same => absurd same (unreserved permit))
      (fun other found => inv.reserved other found permit) other found
  · exact fun other found line => of_lookup_append (fun same => nomatch empty.symm.trans same)
      (fun other found => inv.carried other found line) other found
  · intro line member
    obtain ⟨found, lookup, encodes⟩ := inv.lines line member
    have old := (List.getElem?_eq_some_iff.mp lookup).1
    rw [lookup_append, if_neg (Nat.ne_of_lt old)]
    exact ⟨found, lookup, encodes⟩

/-- Lines may move or go. -/
theorem subset {queue' writing' : List QueuedLine}
    (kept : ∀ line ∈ queue' ++ writing', line ∈ queue ++ writing) :
    LinesInv tasks queue' writing' :=
  ⟨inv.reserved, inv.carried, fun line member => inv.lines line (kept line member)⟩

/-- A send may put its line into the queue. -/
theorem push (located : tasks[index]? = some task) {line : QueuedLine}
    (carries : task.phase.line = some line) : LinesInv tasks (queue ++ [line]) writing := by
  refine ⟨inv.reserved, inv.carried, ?_⟩
  obtain ⟨own, encodes⟩ := inv.carried index task line located carries
  intro other member
  rw [append_assoc, mem_append, mem_append, mem_singleton] at member
  rcases member with queued | rfl | held
  · exact inv.lines other (mem_append_left _ queued)
  · rw [own]
    exact ⟨task, located, encodes⟩
  · exact inv.lines other (mem_append_right _ held)

end LinesInv

namespace OrderInv

variable {gate : FifoGate Nat} {tasks : List SendTask} {journal : SendJournal} {index : Nat}
  {new : SendTask} (inv : OrderInv gate tasks journal)

/-- What has ended stays so when a send is added. -/
theorem settled_append {past : List Nat}
    (settled : ∀ index ∈ past, ∃ task, tasks[index]? = some task ∧ task.isSettled = true) :
    ∀ index ∈ past, ∃ task, (tasks ++ [new])[index]? = some task ∧ task.isSettled = true := by
  intro other member
  obtain ⟨found, lookup, ended⟩ := settled other member
  rw [lookup_append, if_neg (Nat.ne_of_lt (List.getElem?_eq_some_iff.mp lookup).1)]
  exact ⟨found, lookup, ended⟩

include inv

/-- Every send that was admitted is known. -/
theorem admitted_known (gateInv : GateInv gate tasks) {other : Nat}
    (member : other ∈ journal.admitted) : ∃ found, tasks[other]? = some found := by
  obtain ⟨_, split, _, settled⟩ := inv.past
  rw [split, mem_append] at member
  rcases member with before | now
  · obtain ⟨found, lookup, _⟩ := settled other before
    exact ⟨found, lookup⟩
  · obtain ⟨found, lookup, _⟩ :=
      gateInv.inside other (FifoGate.mem_of_holder (Option.mem_toList.mp now))
    exact ⟨found, lookup⟩

section

variable (located : tasks[index]? = some task)
include located

/-- A send that has not ended and is not sent by a change. -/
theorem sent_set (running : task.isSettled = false)
    (unsent : new.phase ≠ .settled .sent) (other : Nat) : other ∈ journal.enqueued ↔
      ∃ found, (tasks.set index new)[other]? = some found ∧ found.phase = .settled .sent := by
  rw [inv.sent other, lookup_set located]
  split
  next same => simp [same, located, SendTask.phase_ne_settled running, unsent]
  · rfl

/-- A send that has not ended may change its phase. -/
theorem setPhase (running : task.isSettled = false) (stillRunning : new.isSettled = false) :
    OrderInv gate (tasks.set index new) journal := by
  obtain ⟨past, split, sublist, settled⟩ := inv.past
  refine ⟨inv.fresh, ⟨past, split, sublist, ?_⟩, inv.sent_set located running fun sent => ?_⟩
  · intro other member
    obtain ⟨found, lookup, ended⟩ := settled other member
    rw [lookup_set located]
    split
    next same =>
      rw [same, located] at lookup
      cases lookup
      rw [running] at ended
      cases ended
    · exact ⟨found, lookup, ended⟩
  · simp [SendTask.isSettled, sent] at stillRunning

/-- The holder ends: it joins the past, and the next one is admitted. -/
theorem settle (held : gate.holder = some index) (running : task.isSettled = false)
    {outcome : SendOutcome} (ended : new.phase = .settled outcome) (delivered : List Nat) :
    OrderInv gate.leave (tasks.set index new)
      ⟨journal.admitted ++ gate.leave.holder.toList,
        journal.enqueued ++ (if outcome = .sent then [index] else []), delivered⟩ := by
  obtain ⟨past, split, sublist, settled⟩ := inv.past
  constructor
  · have members := FifoGate.members_leave gate
    unfold FifoGate.members at members
    rw [append_assoc, members]
    exact inv.fresh
  · refine ⟨past ++ [index], ?_, ?_, ?_⟩
    · dsimp only
      rw [split, held]
      rfl
    · apply List.Sublist.append sublist
      split <;> simp
    · intro other member
      rw [lookup_set located]
      split
      next _ => exact ⟨new, rfl, by simp [SendTask.isSettled, ended]⟩
      next different =>
        rw [mem_append, mem_singleton] at member
        exact settled other (member.resolve_right different)
  · intro other
    have unsent := SendTask.phase_ne_settled running .sent
    rw [mem_append, inv.sent other, lookup_set located]
    by_cases same : other = index
    · rw [if_pos same, same, located]
      split <;> simp_all
    · rw [if_neg same]
      split <;> simp [same]

/-- A send that waits gives up. -/
theorem withdraw (running : task.isSettled = false) (ended : new.phase = .settled .cancelled) :
    OrderInv (gate.withdraw index) (tasks.set index new) journal := by
  obtain ⟨past, split, sublist, settled⟩ := inv.past
  refine ⟨?_, ⟨past, split, sublist, ?_⟩, inv.sent_set located running (by simp [ended])⟩
  · exact inv.fresh.sublist (List.Sublist.append_left erase_sublist _)
  · intro other member
    rw [lookup_set located]
    split
    · exact ⟨new, rfl, by simp [SendTask.isSettled, ended]⟩
    · exact settled other member

end

/-- A new send has not been sent. -/
theorem sent_append (unsent : new.phase ≠ .settled .sent) (other : Nat) : other ∈ journal.enqueued ↔
      ∃ found, (tasks ++ [new])[other]? = some found ∧ found.phase = .settled .sent := by
  rw [inv.sent other, lookup_append]
  split
  next same =>
    rw [same, getElem?_eq_none (Nat.le_refl _)]
    simp [unsent]
  · rfl

/-- A send that has ended at once is in no order. -/
theorem append (unsent : new.phase ≠ .settled .sent) : OrderInv gate (tasks ++ [new]) journal := by
  obtain ⟨past, split, sublist, settled⟩ := inv.past
  exact ⟨inv.fresh, ⟨past, split, sublist, settled_append settled⟩, inv.sent_append unsent⟩

/-- A new send is admitted at once or waits. -/
theorem arrive (gateInv : GateInv gate tasks) (unsent : new.phase ≠ .settled .sent) :
    OrderInv (gate.enter tasks.length) (tasks ++ [new]) { journal with
        admitted := journal.admitted ++ if gate.holder.isNone then [tasks.length] else [] } := by
  obtain ⟨past, split, sublist, settled⟩ := inv.past
  have new_index : tasks.length ∉ journal.admitted ++ gate.waiters := by
    rw [mem_append]
    rintro (admitted | waits)
    · obtain ⟨_, lookup⟩ := inv.admitted_known gateInv admitted
      exact absurd (List.getElem?_eq_some_iff.mp lookup).1 (Nat.lt_irrefl _)
    · exact gateInv.length_notMem (mem_append_right _ waits)
  have fresh : (journal.admitted ++ gate.waiters ++ [tasks.length]).Nodup := by
    rw [← concat_eq_append]
    exact inv.fresh.concat new_index
  constructor
  · cases held : gate.holder with
    | none => simpa [FifoGate.enter, held, gateInv.fair.idle held] using fresh
    | some => simpa [FifoGate.enter, held] using fresh
  · refine ⟨past, ?_, sublist, settled_append settled⟩
    cases held : gate.holder with
    | none | some holder => simp [FifoGate.enter, held, split]
  · exact inv.sent_append unsent

end OrderInv

namespace BalanceInv

variable {state next : Outbound} {index : Nat} {new : SendTask}

/-- A step of one send keeps the balance if it does so for what that send, the queue and the
free permits and slots have together. -/
theorem replace (inv : BalanceInv state) (located : state.tasks[index]? = some task)
    (caps : next.maxBytes = state.maxBytes ∧ next.itemCap = state.itemCap)
    (tasks : next.tasks = state.tasks.set index new) (writing : next.writing = state.writing)
    (permits : next.available + new.reservation + tally QueuedLine.permit next.queue
      = state.available + task.reservation + tally QueuedLine.permit state.queue)
    (places : next.slots + new.slot + next.queue.length
      = state.slots + task.slot + state.queue.length) : BalanceInv next := by
  have budget := inv.budget
  have slots := inv.slots
  have moved := tally_set SendTask.reservation located new
  have placed := tally_set SendTask.slot located new
  constructor
  · rw [tasks, writing, caps.1]
    omega
  · rw [tasks, caps.2]
    omega

/-- A new send that holds nothing keeps the balance. -/
theorem append (inv : BalanceInv state)
    (caps : next.maxBytes = state.maxBytes ∧ next.itemCap = state.itemCap)
    (tasks : next.tasks = state.tasks ++ [new]) (empty : new.reservation = 0 ∧ new.slot = 0)
    (lines : next.queue = state.queue ∧ next.writing = state.writing)
    (free : next.available = state.available ∧ next.slots = state.slots) : BalanceInv next := by
  have budget := inv.budget
  have slots := inv.slots
  constructor
  · rw [tasks, lines.1, lines.2, caps.1, free.1, tally_append, tally_cons, tally_nil]
    omega
  · rw [tasks, lines.1, caps.2, free.2, tally_append, tally_cons, tally_nil]
    omega

end BalanceInv

end HydraTerm.Daemon
