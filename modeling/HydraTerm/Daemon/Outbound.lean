import HydraTerm.Grid.TermGrid
import HydraTerm.Lib.FifoGate
import HydraTerm.Lib.Tally

/-!
# The outbound queue of a client

All producers of one client send through one queue. A send passes an admission gate, takes
a reservation of the longest line from a byte budget, encodes its event, gives back what the
line does not need, and enqueues the line with the rest of its reservation; only then does
it leave the gate. The reservation goes with the line to the writer and returns to the
budget when the line is dropped. A best-effort send does the same without ever waiting.

The gate and the budget are tokio's mutex and semaphore and the queue is its bounded
channel. They are modelled by what they promise: the gate admits in the order of arrival,
permits are counted, the channel is a list with a number of slots. Between two of its awaits
a send is one step, so any other task and the receiver may come in between. An await that
has been granted but not yet resumed can still be cancelled, which is why every phase of a
waiting send can be.

A slot is taken before the line is pushed. When the receiver is dropped in between, the line
lands in a channel that nobody reads and stays there until the senders are gone.

An event is the list of pieces its serializer writes. Whether an allocation succeeds is an
input. The journal records the order of admissions, of enqueued and of received lines; the
code has no such record.
-/

namespace HydraTerm.Daemon

open Lib Grid

/-- Longest line, with its newline. -/
def maxLineWithNewline : Nat := maxLineBytes

/-- The newline that ends a line. -/
def newline : UInt8 := 10

/-- An encoded line with its reservation, and the send it belongs to. -/
structure QueuedLine where
  message : Nat
  bytes : List UInt8
  permit : Nat
  deriving DecidableEq

/-- Why a send failed. -/
inductive SendError where
  | closed
  | full
  | tooLarge
  deriving DecidableEq

/-- How a send ended. -/
inductive SendOutcome where
  | sent
  | failed (error : SendError)
  | cancelled
  deriving DecidableEq

/-- How far a send has come. -/
inductive SendPhase where
  | arriving
  | awaitingBudget
  | reserved (permit : Nat)
  | awaitingSlot (line : QueuedLine)
  | sending (line : QueuedLine)
  | settled (outcome : SendOutcome)
  deriving DecidableEq

/-- One call of `send` or `try_send`. -/
structure SendTask where
  bestEffort : Bool
  event : List (List UInt8)
  phase : SendPhase
  deriving DecidableEq

/-- The orders in which sends were admitted, enqueued and received. -/
structure SendJournal where
  admitted : List Nat
  enqueued : List Nat
  delivered : List Nat
  deriving DecidableEq

/-- The queue with both its ends. -/
structure Outbound where
  itemCap : Nat
  maxBytes : Nat
  available : Nat
  slots : Nat
  gate : FifoGate Nat
  tasks : List SendTask
  queue : List QueuedLine
  writing : List QueuedLine
  receiverAlive : Bool
  sendersAlive : Bool
  fatal : Bool
  journal : SendJournal
  deriving DecidableEq

/-- Open a queue. The capacities are asserted. -/
def channel (itemCap byteCap : Nat) : Option Outbound :=
  if 0 < itemCap ∧ 0 < byteCap ∧ byteCap < 2 ^ 32 then
    some {
      itemCap := itemCap
      maxBytes := byteCap
      available := byteCap
      slots := itemCap
      gate := .free
      tasks := []
      queue := []
      writing := []
      receiverAlive := true
      sendersAlive := true
      fatal := false
      journal := ⟨[], [], []⟩ }
  else none

/-- Append a piece, unless the line would become too long. -/
def cappedWrite (limit : Nat) (bytes piece : List UInt8) : Option (List UInt8) :=
  if piece.length > limit - bytes.length then none else some (bytes ++ piece)

/-- Encode an event as a line. -/
def encodeLine (event : List (List UInt8)) (allocates : Bool) : Option (List UInt8) :=
  if allocates then do
    let json ← event.foldlM (cappedWrite maxLineWithNewline) []
    cappedWrite maxLineWithNewline json [newline]
  else none

/-- Split what a line does not need off its reservation: what is kept and what goes back. -/
def trimReservation (reservation actualBytes : Nat) : Option (Nat × Nat) :=
  let unused := maxLineWithNewline - actualBytes
  if unused > 0 then
    if unused ≤ reservation then some (reservation - unused, unused) else none
  else some (reservation, 0)

variable (task : SendTask)

/-- What a send holds of the budget. -/
def SendTask.reservation : Nat :=
  match task.phase with
  | .reserved permit => permit
  | .awaitingSlot line | .sending line => line.permit
  | .arriving | .awaitingBudget | .settled _ => 0

/-- What a send holds of the channel's slots. -/
def SendTask.slot : Nat :=
  match task.phase with
  | .sending _ => 1
  | _ => 0

/-- The send has ended. -/
def SendTask.isSettled : Bool :=
  match task.phase with
  | .settled _ => true
  | _ => false

namespace Outbound

variable (state : Outbound) (index : Nat) (task : SendTask)

/-- Put one send into another phase. -/
def setPhase (phase : SendPhase) : Outbound :=
  { state with tasks := state.tasks.set index { task with phase := phase } }

/-- End a send that holds the gate, and let the next one pass. -/
def settle (outcome : SendOutcome) : Outbound :=
  { state with
    tasks := state.tasks.set index { task with phase := .settled outcome }
    gate := state.gate.leave
    journal := { state.journal with
      admitted := state.journal.admitted ++ state.gate.leave.holder.toList } }

/-- Return permits to the budget. -/
def returnPermits (permits : Nat) : Outbound :=
  { state with available := state.available + permits }

/-- Mark the client's stream as broken. -/
def fail : Outbound := { state with fatal := true }

/-- A call joins the gate. -/
def arrive (bestEffort : Bool) (event : List (List UInt8)) : Outbound :=
  let index := state.tasks.length
  { state with
    tasks := state.tasks ++ [⟨bestEffort, event, .arriving⟩]
    gate := state.gate.enter index
    journal := { state.journal with
      admitted := state.journal.admitted ++ if state.gate.holder.isNone then [index] else [] } }

/-- A call of `send`. -/
def send (event : List (List UInt8)) : Outbound :=
  if state.sendersAlive then state.arrive false event else state

/-- A call of `try_send`. It gives up at once when the gate is taken. -/
def trySend (event : List (List UInt8)) : Outbound :=
  if state.sendersAlive then
    if state.gate.holder.isNone then state.arrive true event
    else { state with tasks := state.tasks ++ [⟨true, event, .settled (.failed .full)⟩] }
  else state

/-- Take the reservation of a longest line, or wait for it. -/
def pollBudget : Outbound :=
  if maxLineWithNewline ≤ state.available then
    { state with available := state.available - maxLineWithNewline }.setPhase index task
      (.reserved maxLineWithNewline)
  else if task.bestEffort then state.settle index task (.failed .full)
  else state.setPhase index task .awaitingBudget

/-- Go on behind the gate. -/
def pollAdmitted : Outbound :=
  if task.bestEffort && decide (state.slots = 0) then state.settle index task (.failed .full)
  else if maxLineWithNewline > state.maxBytes then
    (state.settle index task (.failed .tooLarge)).fail
  else state.pollBudget index task

/-- Encode the event and trim the reservation to the line. -/
def pollEncode (reservation : Nat) (allocates : Bool) : Outbound :=
  match encodeLine task.event allocates with
  | none => ((state.returnPermits reservation).settle index task (.failed .tooLarge)).fail
  | some bytes =>
    match trimReservation reservation bytes.length with
    | none => ((state.returnPermits reservation).settle index task (.failed .tooLarge)).fail
    | some (kept, unused) =>
      (state.returnPermits unused).setPhase index task (.awaitingSlot ⟨index, bytes, kept⟩)

/-- Take a slot of the channel, or wait for one. A failed send drops its line. -/
def pollSlot (line : QueuedLine) : Outbound :=
  if !state.receiverAlive then
    ((state.returnPermits line.permit).settle index task (.failed .closed)).fail
  else if 0 < state.slots then
    { state with slots := state.slots - 1 }.setPhase index task (.sending line)
  else if task.bestEffort then
    (state.returnPermits line.permit).settle index task (.failed .full)
  else state

/-- Push the line into the slot and finish. -/
def push (line : QueuedLine) : Outbound :=
  { state with
    queue := state.queue ++ [line]
    journal := { state.journal with enqueued := state.journal.enqueued ++ [index] } }.settle
      index task .sent

/-- Let one send go on. -/
def poll (allocates : Bool) : Outbound :=
  match state.tasks[index]? with
  | none => state
  | some task =>
    match task.phase with
    | .arriving => if state.gate.holder = some index then state.pollAdmitted index task else state
    | .awaitingBudget => state.pollBudget index task
    | .reserved permit => state.pollEncode index task permit allocates
    | .awaitingSlot line => state.pollSlot index task line
    | .sending line => state.push index task line
    | .settled _ => state

/-- Cancel a send that waits. It drops what it holds. -/
def cancel : Outbound :=
  match state.tasks[index]? with
  | none => state
  | some task =>
    if task.bestEffort then state
    else
      match task.phase with
      | .arriving =>
        if state.gate.holder = some index then state.settle index task .cancelled
        else
          { state with gate := state.gate.withdraw index }.setPhase index task (.settled .cancelled)
      | .awaitingBudget => state.settle index task .cancelled
      | .reserved permit => (state.returnPermits permit).settle index task .cancelled
      | .awaitingSlot line => (state.returnPermits line.permit).settle index task .cancelled
      | .sending line =>
        ({ state with slots := state.slots + 1 }.returnPermits line.permit).settle index task
          .cancelled
      | .settled _ => state

/-- The writer receives the next line, which frees its slot. -/
def receive : Outbound :=
  match state.queue with
  | [] => state
  | line :: rest =>
    if state.receiverAlive then
      { state with
        queue := rest
        writing := state.writing ++ [line]
        slots := state.slots + 1
        journal := { state.journal with delivered := state.journal.delivered ++ [line.message] } }
    else state

/-- The writer is done with a line and drops it. -/
def written (position : Nat) : Outbound :=
  match state.writing[position]? with
  | none => state
  | some line =>
    { state with writing := state.writing.eraseIdx position }.returnPermits line.permit

/-- Drop every line of the channel. -/
def drain : Outbound :=
  { state with queue := [], slots := state.slots + state.queue.length }.returnPermits
    (tally QueuedLine.permit state.queue)

/-- The receiver is dropped: the channel closes and its lines go. -/
def dropReceiver : Outbound := { state.drain with receiverAlive := false }

/-- The last sender is dropped, which is after its sends have ended. A channel without both
ends is freed with its lines. -/
def dropSenders : Outbound :=
  if state.tasks.all SendTask.isSettled then
    if state.receiverAlive then { state with sendersAlive := false }
    else { state.drain with sendersAlive := false }
  else state

end Outbound

/-- What can happen to the queue. -/
inductive OutboundAction where
  | send (event : List (List UInt8))
  | trySend (event : List (List UInt8))
  | poll (index : Nat) (allocates : Bool)
  | cancel (index : Nat)
  | receive
  | written (position : Nat)
  | writeFailed
  | dropReceiver
  | dropSenders

/-- One step of the queue. -/
def Outbound.step (state : Outbound) : OutboundAction → Outbound
  | .send event => state.send event
  | .trySend event => state.trySend event
  | .poll index allocates => state.poll index allocates
  | .cancel index => state.cancel index
  | .receive => state.receive
  | .written position => state.written position
  | .writeFailed => state.fail
  | .dropReceiver => state.dropReceiver
  | .dropSenders => state.dropSenders

/-- The queue as a transition system. -/
def OutboundStep (before : Outbound) (action : OutboundAction) (after : Outbound) : Prop :=
  after = before.step action

end HydraTerm.Daemon
