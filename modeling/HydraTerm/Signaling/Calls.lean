import HydraTerm.Lib.Runs
import HydraTerm.Signaling.Broker

/-!
# Concurrent calls of the broker

Any number of calls share the store. Each step is one operation of one call, the start or the return
of a call, the end of a call whose caller or replica is gone, or a change of the enrolled devices.
The clock and everything else a call reads from its surroundings is arbitrary at every step.

A call checks that the session is live and acts on it later, in another operation. A call that has
seen the session live and still has to act or to return is `Pending`: what it does next is not
guarded by anything that happens in between.
-/

namespace HydraTerm.Signaling

open Lib

/-! ## The system -/

/-- A call in progress. -/
structure BrokerThread where
  call : BrokerCall
  program : BrokerProgram

/-- The store and the calls in progress. -/
structure BrokerSystem where
  store : SignalingStore
  threads : List BrokerThread

/-- What the surroundings answer in one step. -/
structure Senses where
  nowMs : Nat
  uuid : String
  aborted : Bool
  subscribed : Bool
  overdue : Bool
  waited : WakeOutcome

/-- What a step did. -/
inductive BrokerEvent
  | called (call : BrokerCall)
  | answerStored (sessionId : String)
  | statusStored (sessionId : String) (status : SignalingStatus)
  | iceAppended (sessionId : String)
  | completed (call : BrokerCall) (result : CallResult)
  | internal
  deriving DecidableEq

/-- One operation: its answer, the store after it, and what it did. An update of a session that is
not there stores nothing. -/
def SignalingStore.serve (store : SignalingStore) (senses : Senses) :
    (request : BrokerAsk) → BrokerAnswer request × SignalingStore × BrokerEvent
  | .getDevice deviceId => (store.devices.find? (·.deviceId = deviceId), store, .internal)
  | .appendAudit event => ((), { store with audits := store.audits ++ [event] }, .internal)
  | .createSession session => ((), store.createSession session, .internal)
  | .getSession sessionId => (store.session? sessionId, store, .internal)
  | .getSessionHeader sessionId =>
    ((store.session? sessionId).map (·.toSignalingSessionHeader), store, .internal)
  | .listPendingOffers accountId deviceId =>
    (store.pendingOffers accountId deviceId, store, .internal)
  | .getPeerIceSince sessionId callerDeviceId since =>
    (((store.session? sessionId).map fun session =>
      SignalingStore.peerIceSince session callerDeviceId since).getD ⟨[], 0⟩, store, .internal)
  | .getProgress sessionId callerDeviceId since answerSeen =>
    (store.progress? sessionId callerDeviceId since answerSeen, store, .internal)
  | .setAnswer sessionId answer =>
    ((), store.setAnswer sessionId answer,
      if (store.session? sessionId).isSome then .answerStored sessionId else .internal)
  | .setStatus sessionId status =>
    ((), store.setStatus sessionId status,
      if (store.session? sessionId).isSome then .statusStored sessionId status else .internal)
  | .appendIce sessionId sender candidate maxCandidates =>
    let (result, after) := store.appendIce sessionId sender candidate maxCandidates
    (result, after, match result with
      | .appended _ => .iceAppended sessionId
      | _ => .internal)
  | .nowMs => (senses.nowMs, store, .internal)
  | .randomUuid => (senses.uuid, store, .internal)
  | .aborted => (senses.aborted, store, .internal)
  | .subscribe => (senses.subscribed, store, .internal)
  | .overdue => (senses.overdue, store, .internal)
  | .wait => (senses.waited, store, .internal)

/-- The operations that do something others can see. -/
inductive ServedEvent : BrokerAsk → BrokerEvent → Prop
  | internal (request : BrokerAsk) : ServedEvent request .internal
  | answer (sessionId answer : String) :
      ServedEvent (.setAnswer sessionId answer) (.answerStored sessionId)
  | status (sessionId : String) (status : SignalingStatus) :
      ServedEvent (.setStatus sessionId status) (.statusStored sessionId status)
  | ice (sessionId sender candidate : String) (maxCandidates : Nat) :
      ServedEvent (.appendIce sessionId sender candidate maxCandidates) (.iceAppended sessionId)

/-- What an operation did is one of these. -/
theorem SignalingStore.serve_event (store : SignalingStore) (senses : Senses)
    (request : BrokerAsk) : ServedEvent request (store.serve senses request).2.2 := by
  cases request with
  | setAnswer sessionId answer =>
    simp only [SignalingStore.serve]
    split
    · exact .answer sessionId answer
    · exact .internal _
  | setStatus sessionId status =>
    simp only [SignalingStore.serve]
    split
    · exact .status sessionId status
    · exact .internal _
  | appendIce sessionId sender candidate maxCandidates =>
    simp only [SignalingStore.serve]
    split
    · exact .ice sessionId sender candidate maxCandidates
    · exact .internal _
  | _ => exact .internal _

/-- A choice of the next step. -/
inductive BrokerMove
  | call (call : BrokerCall)
  | serve (index : Nat) (senses : Senses)
  | complete (index : Nat)
  | crash (index : Nat)
  | enroll (devices : List Device)

/-- The step that a move makes; a move that does not apply does nothing. -/
def BrokerSystem.take (system : BrokerSystem) : BrokerMove → BrokerEvent × BrokerSystem
  | .call call => (.called call, { system with threads := system.threads ++ [⟨call, call.program⟩] })
  | .serve index senses =>
    match system.threads[index]? with
    | some ⟨call, .ask request next⟩ =>
      let (given, store, event) := system.store.serve senses request
      (event, ⟨store, system.threads.set index ⟨call, next given⟩⟩)
    | _ => (.internal, system)
  | .complete index =>
    match system.threads[index]? with
    | some ⟨call, .done result⟩ =>
      (.completed call result, { system with threads := system.threads.eraseIdx index })
    | _ => (.internal, system)
  | .crash index => (.internal, { system with threads := system.threads.eraseIdx index })
  | .enroll devices => (.internal, { system with store.devices := devices })

/-- The broker as a transition system. -/
def BrokerStep (before : BrokerSystem) (event : BrokerEvent) (after : BrokerSystem) : Prop :=
  ∃ move, before.take move = (event, after)

/-- The events of a list of moves. -/
def BrokerSystem.events : BrokerSystem → List BrokerMove → List BrokerEvent
  | _, [] => []
  | system, move :: rest => (system.take move).1 :: (system.take move).2.events rest

/-- The system after a list of moves. -/
def BrokerSystem.after (system : BrokerSystem) (moves : List BrokerMove) : BrokerSystem :=
  moves.foldl (fun system move => (system.take move).2) system

/-- Every list of moves is a run. -/
theorem BrokerSystem.run_moves (system : BrokerSystem) (moves : List BrokerMove) :
    Run BrokerStep system (system.events moves) (system.after moves) := by
  induction moves generalizing system with
  | nil => exact .nil system
  | cons move _ ih =>
    exact .cons ⟨move, rfl⟩ (ih (system.take move).2)

variable (before : BrokerSystem) in
/-- What a step can be. -/
inductive BrokerCase : BrokerEvent → BrokerSystem → Prop
  | called (call : BrokerCall) : BrokerCase (.called call)
        { before with threads := before.threads ++ [⟨call, call.program⟩] }
  | served {index : Nat} {call : BrokerCall} {request : BrokerAsk}
      {next : BrokerAnswer request → BrokerProgram} (senses : Senses)
      (isThread : before.threads[index]? = some ⟨call, .ask request next⟩) :
      BrokerCase (before.store.serve senses request).2.2
        ⟨(before.store.serve senses request).2.1, before.threads.set index
          ⟨call, next (before.store.serve senses request).1⟩⟩
  | completed {index : Nat} {call : BrokerCall} {result : CallResult}
      (isThread : before.threads[index]? = some ⟨call, .done result⟩) :
      BrokerCase (.completed call result)
        { before with threads := before.threads.eraseIdx index }
  | dropped (threads : List BrokerThread) (kept : threads ⊆ before.threads) :
      BrokerCase .internal { before with threads := threads }
  | enrolled (devices : List Device) : BrokerCase .internal { before with store.devices := devices }

/-- Every step is one of these. -/
theorem BrokerStep.cases {before after : BrokerSystem} {event : BrokerEvent}
    (step : BrokerStep before event after) : BrokerCase before event after := by
  obtain ⟨move, taken⟩ := step
  have stays : BrokerCase before .internal before := .dropped before.threads (List.Subset.refl _)
  cases move with
  | call call =>
    cases taken
    exact .called call
  | serve _ senses =>
    simp only [BrokerSystem.take] at taken
    split at taken
    next _ _ isThread =>
      cases taken
      exact .served senses isThread
    · cases taken
      exact stays
  | complete =>
    simp only [BrokerSystem.take] at taken
    split at taken
    next isThread =>
      cases taken
      exact .completed isThread
    · cases taken
      exact stays
  | crash =>
    cases taken
    exact .dropped _ (List.eraseIdx_subset)
  | enroll devices =>
    cases taken
    exact .enrolled devices

end HydraTerm.Signaling
