import HydraTerm.Daemon.OutboundInvariant

/-!
# Conservation and order of the outbound queue

Every byte of the budget is at one place: available, reserved by a send behind the gate, or
carried by a line that is queued or being written. The gate is held from admission until the
line is enqueued, so lines are enqueued in the order of admission, and they are received in
that order. Both hold in every run, with sends cancelled wherever they wait and either end
dropped at any time.
-/

namespace HydraTerm.Daemon

open Lib Grid List
open SendTask (reservation isSettled)

variable {state : Outbound} {itemCap byteCap : Nat}

/-- A new queue satisfies the invariant. -/
theorem channel_inv (opened : channel itemCap byteCap = some state) :
    OutboundInv state ∧ state.itemCap = itemCap ∧ state.maxBytes = byteCap := by
  unfold channel at opened
  split at opened
  · cases opened
    refine ⟨⟨?_, ?_, ?_, ?_, ?_⟩, rfl, rfl⟩
    · exact ⟨FifoGate.free_fair, by simp [FifoGate.free, FifoGate.members], by simp, by simp⟩
    · exact ⟨by simp, by simp, by simp⟩
    · exact ⟨by simp [FifoGate.free], ⟨[], rfl, List.Sublist.refl _, by simp⟩, by simp⟩
    · exact ⟨prefix_refl _, fun _ => rfl⟩
    · exact ⟨by simp, by simp⟩
  · cases opened

namespace OutboundInv

variable {index : Nat} {task : SendTask} (inv : OutboundInv state)
include inv

/-- Breaking the stream changes nothing of this. -/
theorem fail : OutboundInv state.fail :=
  ⟨inv.gate, inv.lines, inv.order, inv.delivery, ⟨inv.balance.budget, inv.balance.slots⟩⟩

/-- A call joins the gate. -/
theorem arrive (bestEffort : Bool) (event : List (List UInt8)) :
    OutboundInv (state.arrive bestEffort event) := by
  constructor
  · exact inv.gate.arrive rfl
  · exact inv.lines.append (by simp) rfl
  · exact inv.order.arrive inv.gate (by simp)
  · exact ⟨inv.delivery.first, inv.delivery.rest⟩
  · exact inv.balance.append ⟨rfl, rfl⟩ rfl ⟨rfl, rfl⟩ ⟨rfl, rfl⟩ ⟨rfl, rfl⟩

/-- A best-effort call that finds the gate taken leaves only its failure. -/
theorem turnedAway (event : List (List UInt8)) :
    OutboundInv { state with tasks := state.tasks ++ [⟨true, event, .settled (.failed .full)⟩] } := by
  constructor
  · exact inv.gate.append rfl
  · exact inv.lines.append (by simp) rfl
  · exact inv.order.append (by simp)
  · exact inv.delivery
  · exact inv.balance.append ⟨rfl, rfl⟩ rfl ⟨rfl, rfl⟩ ⟨rfl, rfl⟩ ⟨rfl, rfl⟩

section

variable (located : state.tasks[index]? = some task) {line : QueuedLine}
include located

/-- A send behind the gate holds it and has not ended. -/
theorem behindGate (behind : task.phase.holdsGate = true) :
    state.gate.holder = some index ∧ task.isSettled = false :=
  ⟨inv.gate.holding index task located behind, SendPhase.holdsGate_isSettled behind⟩

section

variable (held : state.gate.holder = some index) (running : task.isSettled = false)
  {available slots : Nat}
include held running

/-- A change of phase behind the gate. -/
theorem setPhase {phase : SendPhase} (behind : phase.holdsGate = true)
    (whole : ∀ permit, phase = .reserved permit → permit = maxLineWithNewline)
    (own : ∀ line, phase.line = some line → line.message = index ∧ line.Encodes task.event)
    (permits : available + ({ task with phase := phase } : SendTask).reservation
      = state.available + task.reservation)
    (places : slots + ({ task with phase := phase } : SendTask).slot = state.slots + task.slot) :
    OutboundInv ({ state with available := available, slots := slots }.setPhase index task phase) := by
  constructor
  · exact inv.gate.setPhase located held behind
  · exact inv.lines.update located whole own
  · exact inv.order.setPhase located running (SendPhase.holdsGate_isSettled behind)
  · exact inv.delivery
  · refine inv.balance.replace located ⟨rfl, rfl⟩ rfl rfl ?_ ?_
    · exact congrArg (· + tally QueuedLine.permit state.queue) permits
    · exact congrArg (· + state.queue.length) places

/-- The end of a send that does not enqueue its line: it returns all that it holds. -/
theorem settle {outcome : SendOutcome} (unsent : outcome ≠ .sent)
    (permits : available = state.available + task.reservation)
    (places : slots = state.slots + task.slot) :
    OutboundInv ({ state with available := available, slots := slots }.settle index task outcome) := by
  have order := inv.order.settle located held running
    (show ({ task with phase := .settled outcome } : SendTask).phase = .settled outcome from rfl)
    state.journal.delivered
  rw [if_neg unsent, append_nil] at order
  constructor
  · exact inv.gate.settle located held rfl
  · exact inv.lines.update located (by simp) (by simp [SendPhase.line])
  · exact order
  · exact ⟨inv.delivery.first, inv.delivery.rest⟩
  · refine inv.balance.replace located ⟨rfl, rfl⟩ rfl rfl ?_ ?_
    · exact congrArg (· + tally QueuedLine.permit state.queue) permits
    · exact congrArg (· + state.queue.length) places

end

/-- The end of a send that enqueues its line. -/
theorem push (sending : task.phase = .sending line) : OutboundInv (state.push index task line) := by
  obtain ⟨held, running⟩ := inv.behindGate located (by rw [sending]; rfl)
  have carries : task.phase.line = some line := by rw [sending]; rfl
  have own := (inv.lines.carried index task line located carries).1
  have order := inv.order.settle located held running
    (show ({ task with phase := .settled .sent } : SendTask).phase = .settled .sent from rfl)
    state.journal.delivered
  constructor
  · exact inv.gate.settle located held rfl
  · exact (inv.lines.push located carries).update located (by simp) (by simp [SendPhase.line])
  · exact order
  · constructor
    · exact inv.delivery.first.trans (prefix_append _ _)
    · intro alive
      simp only [Outbound.push, Outbound.settle, map_append, map_cons, map_nil, own]
      rw [inv.delivery.rest alive, append_assoc]
  · have carried : task.reservation = line.permit := by simp [reservation, sending]
    have slot : task.slot = 1 := by simp [SendTask.slot, sending]
    refine inv.balance.replace located ⟨rfl, rfl⟩ rfl rfl ?_ ?_
    · simp only [Outbound.push, Outbound.settle, reservation, tally_append, tally_cons,
        tally_nil] at carried ⊢
      omega
    · simp only [Outbound.push, Outbound.settle, SendTask.slot, length_append,
        length_singleton] at slot ⊢
      omega

/-- A send that waits gives up. -/
theorem withdraw (arriving : task.phase = .arriving) (other : state.gate.holder ≠ some index) :
    OutboundInv ({ state with gate := state.gate.withdraw index }.setPhase index task
      (.settled .cancelled)) := by
  have waiting := FifoGate.mem_waiters (inv.gate.arriving index task located arriving) other
  have running : task.isSettled = false := by simp [isSettled, arriving]
  constructor
  · exact inv.gate.withdraw located waiting rfl
  · exact inv.lines.update located (by simp) (by simp [SendPhase.line])
  · exact inv.order.withdraw located running rfl
  · exact inv.delivery
  · have held : task.reservation = 0 := by simp [reservation, arriving]
    have slot : task.slot = 0 := by simp [SendTask.slot, arriving]
    refine inv.balance.replace located ⟨rfl, rfl⟩ rfl rfl ?_ ?_
    · rw [held]
      rfl
    · rw [slot]
      rfl

/-- Taking the reservation. -/
theorem pollBudget (held : state.gate.holder = some index) (running : task.isSettled = false)
    (nothing : task.reservation = 0) (noSlot : task.slot = 0) :
    OutboundInv (state.pollBudget index task) := by
  unfold Outbound.pollBudget
  split
  next _ =>
    refine inv.setPhase located held running rfl (by simp) (by simp [SendPhase.line]) ?_ ?_
    · simp only [reservation] at nothing ⊢
      omega
    · rw [noSlot]
      rfl
  · split
    · exact inv.settle located held running (by simp) (by omega) (by omega)
    · refine inv.setPhase located held running rfl (by simp) (by simp [SendPhase.line]) ?_ ?_
      · rw [nothing]
        rfl
      · rw [noSlot]
        rfl

/-- Going on behind the gate. -/
theorem pollAdmitted (arriving : task.phase = .arriving) (held : state.gate.holder = some index) :
    OutboundInv (state.pollAdmitted index task) := by
  have running : task.isSettled = false := by simp [isSettled, arriving]
  have nothing : task.reservation = 0 := by simp [reservation, arriving]
  have noSlot : task.slot = 0 := by simp [SendTask.slot, arriving]
  unfold Outbound.pollAdmitted
  split
  · exact inv.settle located held running (by simp) (by omega) (by omega)
  · split
    · exact (inv.settle located held running (by simp) (by omega) (by omega)).fail
    · exact inv.pollBudget located held running nothing noSlot

/-- Encoding: the line is charged exactly its bytes, or the whole reservation goes back. -/
theorem pollEncode {permit : Nat} (reserved : task.phase = .reserved permit) (allocates : Bool) :
    OutboundInv (state.pollEncode index task permit allocates) := by
  obtain ⟨held, running⟩ := inv.behindGate located (by rw [reserved]; rfl)
  have holds : task.reservation = permit := by simp [reservation, reserved]
  have noSlot : task.slot = 0 := by simp [SendTask.slot, reserved]
  have whole := inv.lines.reserved index task permit located reserved
  unfold Outbound.pollEncode
  split
  · exact (inv.settle located held running (by simp) (by omega) (by omega)).fail
  next _ encoded =>
    obtain ⟨text, short⟩ := encodeLine_some encoded
    rw [whole, trimReservation_exact short]
    refine inv.setPhase located held running rfl (by simp) ?_ ?_ ?_
    · rintro line carries
      cases carries
      exact ⟨rfl, text, rfl⟩
    · simp only [reservation] at holds ⊢
      omega
    · rw [noSlot]
      rfl

/-- Taking a slot: a send that fails here drops its line. -/
theorem pollSlot (awaiting : task.phase = .awaitingSlot line) :
    OutboundInv (state.pollSlot index task line) := by
  obtain ⟨held, running⟩ := inv.behindGate located (by rw [awaiting]; rfl)
  have holds : task.reservation = line.permit := by simp [reservation, awaiting]
  have noSlot : task.slot = 0 := by simp [SendTask.slot, awaiting]
  unfold Outbound.pollSlot
  split
  · exact (inv.settle located held running (by simp) (by omega) (by omega)).fail
  · split
    next _ =>
      refine inv.setPhase located held running rfl (by simp) ?_ ?_ ?_
      · rintro other carries
        cases carries
        exact inv.lines.carried index task line located (by rw [awaiting]; rfl)
      · rw [holds]
        rfl
      · simp only [SendTask.slot] at noSlot ⊢
        omega
    · split
      · exact inv.settle located held running (by simp) (by omega) (by omega)
      · exact inv

/-- As long as a send has not ended, the gate is taken. -/
theorem taken_of_running (running : task.isSettled = false) : state.gate.holder ≠ none := by
  intro nobody
  have empty : state.gate.members = [] := by
    simp [FifoGate.members, nobody, inv.gate.fair.idle nobody]
  by_cases behind : task.phase.holdsGate = true
  · rw [inv.gate.holding index task located behind] at nobody
    cases nobody
  · have arriving : task.phase = .arriving := by
      cases phase : task.phase with
      | arriving => rfl
      | settled => simp [isSettled, phase] at running
      | _ => simp [phase, SendPhase.holdsGate] at behind
    have member := inv.gate.arriving index task located arriving
    rw [empty] at member
    cases member

end

theorem poll (index : Nat) (allocates : Bool) : OutboundInv (state.poll index allocates) := by
  unfold Outbound.poll
  split
  · exact inv
  next _ located =>
    split
    next arriving =>
      split
      next held => exact inv.pollAdmitted located arriving held
      · exact inv
    next awaiting =>
      obtain ⟨held, running⟩ := inv.behindGate located (by rw [awaiting]; rfl)
      exact inv.pollBudget located held running (by simp [reservation, awaiting])
        (by simp [SendTask.slot, awaiting])
    next _ reserved => exact inv.pollEncode located reserved allocates
    next _ awaiting => exact inv.pollSlot located awaiting
    next _ sending => exact inv.push located sending
    · exact inv

/-- A cancelled send returns what it holds, wherever it waits. -/
theorem cancel (index : Nat) : OutboundInv (state.cancel index) := by
  unfold Outbound.cancel
  split
  · exact inv
  next task located =>
    split
    · exact inv
    · cases phase : task.phase with
      | settled => exact inv
      | arriving =>
        dsimp only
        split
        next held =>
          exact inv.settle located held (by simp [isSettled, phase]) (by simp)
            (by simp [reservation, phase]) (by simp [SendTask.slot, phase])
        next waiting => exact inv.withdraw located phase waiting
      | _ =>
        -- Behind the gate a send gives back its reservation, and its slot if it has one.
        obtain ⟨held, running⟩ := inv.behindGate located (by rw [phase]; rfl)
        exact inv.settle located held running (by simp) (by simp [reservation, phase])
          (by simp [SendTask.slot, phase])

theorem receive : OutboundInv state.receive := by
  unfold Outbound.receive
  split
  · exact inv
  next _ rest queued =>
    split
    next alive =>
      have enqueued := inv.delivery.rest alive
      rw [queued, map_cons] at enqueued
      constructor
      · exact inv.gate
      · apply inv.lines.subset
        intro other member
        rw [queued]
        simp only [mem_append, mem_cons, not_mem_nil, or_false] at member ⊢
        tauto
      · exact ⟨inv.order.fresh, inv.order.past, inv.order.sent⟩
      · constructor
        · exact ⟨rest.map QueuedLine.message, by simp [enqueued]⟩
        · intro _
          simp [enqueued]
      · have budget := inv.balance.budget
        have slots := inv.balance.slots
        rw [queued] at budget slots
        simp only [tally_cons, length_cons] at budget slots
        constructor
        · simp only [tally_append, tally_cons, tally_nil]
          omega
        · dsimp only
          omega
    · exact inv

theorem written (position : Nat) : OutboundInv (state.written position) := by
  unfold Outbound.written
  split
  · exact inv
  next _ located =>
    constructor
    · exact inv.gate
    · apply inv.lines.subset
      intro other member
      simp only [Outbound.returnPermits, mem_append] at member ⊢
      exact member.imp_right mem_of_mem_eraseIdx
    · exact inv.order
    · exact inv.delivery
    · have budget := inv.balance.budget
      have gone := tally_eraseIdx QueuedLine.permit located
      constructor
      · simp only [Outbound.returnPermits]
        omega
      · exact inv.balance.slots

/-- The lines of the channel go and return what they carry. -/
theorem drain (closed : state.receiverAlive = false) : OutboundInv state.drain := by
  constructor
  · exact inv.gate
  · apply inv.lines.subset
    intro line member
    exact mem_append_right _ member
  · exact inv.order
  · refine ⟨inv.delivery.first, ?_⟩
    intro alive
    simp [Outbound.drain, Outbound.returnPermits, closed] at alive
  · have budget := inv.balance.budget
    have slots := inv.balance.slots
    constructor
    · simp only [Outbound.drain, Outbound.returnPermits, tally_nil]
      omega
    · simp only [Outbound.drain, Outbound.returnPermits, length_nil]
      omega

/-- Closing the channel only gives up what is known of its lines. -/
theorem close : OutboundInv { state with receiverAlive := false } :=
  ⟨inv.gate, inv.lines, inv.order, ⟨inv.delivery.first, by simp⟩,
    ⟨inv.balance.budget, inv.balance.slots⟩⟩

theorem dropSenders : OutboundInv state.dropSenders := by
  have leave {before : Outbound} (kept : OutboundInv before) :
      OutboundInv { before with sendersAlive := false } :=
    ⟨kept.gate, kept.lines, kept.order, kept.delivery, ⟨kept.balance.budget, kept.balance.slots⟩⟩
  unfold Outbound.dropSenders
  split
  · split
    · exact leave inv
    next closed => exact leave (inv.drain (Bool.eq_false_iff.mpr closed))
  · exact inv

/-- Every step keeps the invariant. -/
theorem step (action : OutboundAction) : OutboundInv (state.step action) := by
  cases action with
  | send event =>
    simp only [Outbound.step, Outbound.send]
    split
    · exact inv.arrive false event
    · exact inv
  | trySend event =>
    simp only [Outbound.step, Outbound.trySend]
    split
    · split
      · exact inv.arrive true event
      · exact inv.turnedAway event
    · exact inv
  | poll index allocates => exact inv.poll index allocates
  | cancel index => exact inv.cancel index
  | receive => exact inv.receive
  | written position => exact inv.written position
  | writeFailed => exact inv.fail
  | dropReceiver => exact inv.close.drain rfl
  | dropSenders => exact inv.dropSenders

end OutboundInv

theorem poll_maxBytes (state : Outbound) (index : Nat) (allocates : Bool) :
    (state.poll index allocates).maxBytes = state.maxBytes := by
  simp only [Outbound.poll, Outbound.pollAdmitted, Outbound.pollBudget, Outbound.pollEncode,
    Outbound.pollSlot, Outbound.setPhase]
  repeat' split
  all_goals rfl

/-- The size of the budget is fixed. -/
theorem step_maxBytes (state : Outbound) (action : OutboundAction) :
    (state.step action).maxBytes = state.maxBytes := by
  cases action with
  | poll index allocates => exact poll_maxBytes state index allocates
  | writeFailed | dropReceiver => rfl
  | send | trySend | cancel | receive | written | dropSenders =>
    simp only [Outbound.step, Outbound.send, Outbound.trySend, Outbound.cancel, Outbound.receive,
      Outbound.written, Outbound.dropSenders]
    repeat' split
    all_goals rfl

/-- The invariant holds in every state of a run. -/
theorem outboundInv_run {start last : Outbound}
    {actions : List OutboundAction} (opened : channel itemCap byteCap = some start)
    (run : Run OutboundStep start actions last) : OutboundInv last ∧ last.maxBytes = byteCap := by
  obtain ⟨inv, _, cap⟩ := channel_inv opened
  apply run.invariant ⟨inv, cap⟩
  rintro before action after rfl ⟨kept, same⟩
  exact ⟨kept.step action, (step_maxBytes before action).trans same⟩

/-- The bytes that sends, queued lines and lines being written have reserved. -/
def Outbound.reservedBytes (state : Outbound) : Nat :=
  tally SendTask.reservation state.tasks + tally QueuedLine.permit state.queue
    + tally QueuedLine.permit state.writing

/-- Conservation of the budget. -/
structure Conserves (byteCap : Nat) (state : Outbound) : Prop where
  /-- What is available and what is reserved make up the budget, so no reservation is lost or
  returned twice. -/
  conserved : state.available + state.reservedBytes = byteCap
  /-- A line is its event's text with a newline and is charged exactly its bytes. -/
  exact : ∀ line ∈ state.queue ++ state.writing, line.permit = line.bytes.length
    ∧ ∃ task, state.tasks[line.message]? = some task
      ∧ line.bytes = task.event.flatten ++ [newline]
  /-- When nothing is under way the whole budget is available. -/
  returned : (∀ task ∈ state.tasks, task.isSettled = true) → state.queue = [] →
    state.writing = [] → state.available = byteCap
  /-- A line that is written gives back exactly its reservation. -/
  writes : ∀ (position : Nat) (line : QueuedLine), state.writing[position]? = some line →
    (state.step (.written position)).available = state.available + line.permit
  /-- So do the lines of the queue that are dropped with the receiver. -/
  drops : (state.step .dropReceiver).available =
    state.available + tally QueuedLine.permit state.queue

/-- Order of the queue. -/
structure Orders (state : Outbound) : Prop where
  /-- Lines are enqueued in the order of admission. -/
  ordered : state.journal.enqueued.Sublist state.journal.admitted
  /-- Nothing is admitted twice. -/
  distinct : state.journal.admitted.Nodup
  /-- Exactly the sends that succeeded are enqueued. -/
  sent : ∀ index, index ∈ state.journal.enqueued ↔
    ∃ task, state.tasks[index]? = some task ∧ task.phase = .settled .sent
  /-- Lines are received in the order they were enqueued. -/
  delivered : state.journal.delivered <+: state.journal.enqueued
  /-- What was enqueued has been received or is still queued, until the receiver is dropped. -/
  kept : state.receiverAlive = true →
    state.journal.enqueued = state.journal.delivered ++ state.queue.map QueuedLine.message
  /-- A send has ended before a later one, best-effort or not, is admitted. -/
  exclusive : ∀ earlier later, [earlier, later].Sublist state.journal.admitted →
    ∃ task, state.tasks[earlier]? = some task ∧ task.isSettled = true
  /-- A best-effort send that comes while another is admitted or waits fails at once. -/
  yields : ∀ (index : Nat) (task : SendTask) (event : List (List UInt8)),
    state.tasks[index]? = some task → task.isSettled = false → state.sendersAlive = true →
    state.step (.trySend event)
      = { state with tasks := state.tasks ++ [⟨true, event, .settled (.failed .full)⟩] }

theorem OutboundInv.conserves {byteCap : Nat} (inv : OutboundInv state)
    (cap : state.maxBytes = byteCap) : Conserves byteCap state := by
  have budget : state.available + state.reservedBytes = byteCap := by
    have balance := inv.balance.budget
    unfold Outbound.reservedBytes
    omega
  constructor
  · exact budget
  · intro line member
    obtain ⟨task, located, encodes⟩ := inv.lines.lines line member
    exact ⟨encodes.charged, task, located, encodes.text⟩
  · intro ended drained idle
    have nothing : tally reservation state.tasks = 0 := by
      apply tally_eq_zero
      intro task member
      have settled := ended task member
      unfold isSettled at settled
      split at settled
      next _ phase => simp [reservation, phase]
      · cases settled
    rw [Outbound.reservedBytes, nothing, drained, idle] at budget
    exact budget
  · intro position line located
    simp [Outbound.step, Outbound.written, Outbound.returnPermits, located]
  · rfl

theorem OutboundInv.orders (inv : OutboundInv state) : Orders state := by
  obtain ⟨_, split, sublist, settled⟩ := inv.order.past
  constructor
  · rw [split]
    exact sublist.trans (sublist_append_left _ _)
  · exact (nodup_append.mp inv.order.fresh).1
  · exact inv.order.sent
  · exact inv.delivery.first
  · exact inv.delivery.rest
  · intro earlier later precedes
    apply settled
    rw [split] at precedes
    obtain ⟨left, right, parts, before, after⟩ := sublist_append_iff.mp precedes
    cases left with
    | nil =>
      have short := after.length_le
      have held : state.gate.holder.toList.length ≤ 1 := by cases state.gate.holder <;> simp
      rw [← nil_append right, ← parts] at short
      simp only [length_cons, length_nil] at short
      omega
    | cons =>
      rw [(List.cons.inj parts).1]
      exact before.subset mem_cons_self
  · intro index task event located running alive
    have busy : state.gate.holder.isNone = false := by
      have taken := inv.taken_of_running located running
      cases holder : state.gate.holder with
      | none => exact absurd holder taken
      | some => rfl
    simp [Outbound.step, Outbound.trySend, alive, busy]

/-- The outbound queue conserves its budget and keeps its order in every run: with calls of
both kinds, cancellations, receptions and drops of either end interleaved in any way. -/
theorem outbound_conserves_and_orders {itemCap byteCap : Nat} {start last : Outbound}
    {actions : List OutboundAction} (opened : channel itemCap byteCap = some start)
    (run : Run OutboundStep start actions last) : Conserves byteCap last ∧ Orders last := by
  obtain ⟨inv, cap⟩ := outboundInv_run opened run
  exact ⟨inv.conserves cap, inv.orders⟩

/-- Two sends, of which the first is cancelled behind the gate, and a best-effort send that
comes in between. -/
def crossedSends : List OutboundAction :=
  [.send [[0x61]], .poll 0 true, .send [[0x62], [0x63]], .trySend [[0x64]], .cancel 0,
    .poll 1 true, .poll 1 true, .poll 1 true, .poll 1 true, .receive]

/-- Of these, only the second send is delivered, and its line alone is charged. -/
theorem outbound_conserves_and_orders_crossed : ∃ start last,
    channel 4 (2 * maxLineBytes) = some start ∧ last = crossedSends.foldl Outbound.step start
    ∧ last.journal = ⟨[0, 1], [1], [1]⟩ ∧ last.available + 3 = 2 * maxLineBytes
    ∧ Conserves (2 * maxLineBytes) last ∧ Orders last := by
  have taken : ∀ state action, OutboundStep state action (state.step action) := fun _ _ => rfl
  have opened : channel 4 (2 * maxLineBytes) = some _ := if_pos (by decide)
  refine ⟨_, _, opened, rfl, by decide +kernel, by decide +kernel, ?_⟩
  exact outbound_conserves_and_orders opened (Run.of_foldl Outbound.step taken _ crossedSends)

end HydraTerm.Daemon
