import HydraTerm.Daemon.StartOperations

/-!
# Runs of the daemon

Everything that changes the session map or the start ledger is one action here: the
requests of clients, the end of a Windows retirement, the shutdown, and what happens to a
session from outside the lock (its process ends, a guard is dropped, its grid starts a new
generation). An exchange is an action with its answer and with whether a process was
spawned; a run of the daemon is a sequence of exchanges.

A guard is dropped on the session it was taken from. When that session is no longer mapped
the drop does not touch the daemon, so only drops on mapped sessions are actions.

How each connection orders and withholds its own requests is not modelled: any sequence of
requests is a run.
-/

namespace HydraTerm.Daemon

open Lib Grid

/-- What can happen to the daemon. -/
inductive DaemonAction where
  | reserve (id : SessionId) (token : SessionStartOperationToken)
  | lookup (id : SessionId) (token : SessionStartOperationToken)
  | retire (id : SessionId) (token : SessionStartOperationToken)
      (expected : SessionStartOperationRetireExpectation)
  | start (request : StartRequest) (restartExited : Bool) (world : SpawnWorld)
  | startConditionally (request : StartRequest) (conditional : ConditionalSessionStart)
      (world : SpawnWorld)
  | kill (id : SessionId) (expectedGeneration : SessionGeneration) (owner : Nat)
  | finishRetirement (id : SessionId) (generation : SessionGeneration) (owner : Nat)
      (result : Except String Unit)
  | shutdown (confirmed : SessionId → Bool)
  | retireForShutdown (id : SessionId) (generation : SessionGeneration) (owner : Nat)
  | attach (id : SessionId) (expectedGeneration : Option SessionGeneration)
      (handoff : Option AttachmentHandoff) (ownerNonce : Nat)
  | cancelHandoff (id : SessionId) (token : AttachmentHandoffToken)
  | releaseGuard (id : SessionId) (guard : AttachmentGuard) (explicit : Bool)
  | exited (id : SessionId) (code : Option Int)
  | renewed (id : SessionId) (generation : SessionGeneration)

/-- What the daemon answers. -/
inductive DaemonAnswer where
  | reserved (outcome : SessionStartOperationReserveOutcome)
  | status (status : SessionStartOperationStatus)
  | retired (outcome : SessionStartOperationRetireOutcome)
  | started (result : Except String Unit)
  | conditional (outcome : ConditionalSessionStartOutcome)
  | taken (result : ConditionalSessionTake)
  | admitted (result : Except String Bool)
  | finished (result : Except String Session)
  | report (report : ShutdownReport)
  | cohort (sessions : List (SessionId × SessionGeneration))
  | attached (result : Except SessionAttachmentAcquireError AttachmentGuard)
  | done
  deriving DecidableEq

variable (platform : Platform) (daemon : Daemon) {action : DaemonAction} {session : Session}

/-- Handle one action. A kill takes the session out at once on Unix and starts its
retirement on Windows; only Windows ends retirements. -/
def handle : DaemonAction → Reply DaemonAnswer
  | .reserve id token => (daemon.reserveStartOperation id token).map .reserved
  | .lookup id token => ⟨daemon, .status (daemon.lookupStartOperation id token), false⟩
  | .retire id token expected =>
    (daemon.retireStartOperation platform id token expected).map .retired
  | .start request restartExited world =>
    (daemon.startSessionWithRestartAndEnvironment platform request restartExited world).map .started
  | .startConditionally request conditional world =>
    (daemon.startSessionConditionally platform request conditional world).map .conditional
  | .kill id expectedGeneration owner =>
    match platform with
    | .unix => (daemon.takeSessionIfGeneration id expectedGeneration).map .taken
    | .windows => (daemon.admitRetirement id expectedGeneration false owner).map .admitted
  | .finishRetirement id generation owner result =>
    match platform with
    | .unix => ⟨daemon, .done, false⟩
    | .windows => (daemon.finishRetirement id generation owner result).map .finished
  | .shutdown confirmed =>
    match platform with
    | .unix => (daemon.shutdown confirmed).map .report
    | .windows => daemon.beginShutdown.map .cohort
  | .retireForShutdown id generation owner =>
    match platform with
    | .unix => ⟨daemon, .done, false⟩
    | .windows => (daemon.admitRetirement id generation true owner).map .admitted
  | .attach id none handoff ownerNonce =>
    (daemon.acquireSessionAttachment platform id handoff ownerNonce).map .attached
  | .attach id (some expected) handoff ownerNonce =>
    (daemon.acquireSessionAttachmentIfGeneration platform id expected handoff ownerNonce).map
      .attached
  | .cancelHandoff id token =>
    ⟨daemon.updateSession id (fun session =>
      { session with fence := session.fence.cancelHandoff token }), .done, false⟩
  | .releaseGuard id guard explicit =>
    ⟨daemon.updateSession id (fun session =>
      { session with fence := session.fence.release guard explicit }), .done, false⟩
  | .exited id code =>
    ⟨daemon.updateSession id (fun session => { session with exitState := some code }), .done, false⟩
  | .renewed id generation =>
    ⟨daemon.updateSession id (fun session => { session with generation := generation }), .done,
      false⟩

/-- An action with its answer, and whether it spawned a process. -/
structure Exchange where
  action : DaemonAction
  answer : DaemonAnswer
  spawned : Bool

/-- The daemon as a transition system. -/
def Exchanged (before : Daemon) (exchange : Exchange) (after : Daemon) : Prop :=
  before.handle platform exchange.action = ⟨after, exchange.answer, exchange.spawned⟩

/-- Handling an action is an exchange. -/
theorem exchanged_of_answer {platform : Platform} {daemon : Daemon} {answer : DaemonAnswer}
    {spawned : Bool} (answered : (daemon.handle platform action).answer = answer)
    (effect : (daemon.handle platform action).spawned = spawned) :
    Exchanged platform daemon ⟨action, answer, spawned⟩ (daemon.handle platform action).daemon := by
  subst answered effect
  rfl

/-- The daemon after a list of actions. -/
def after (actions : List DaemonAction) : Daemon :=
  actions.foldl (fun current action => (current.handle platform action).daemon) daemon

/-- The exchanges that a list of actions leads to. -/
def exchanges (platform : Platform) : Daemon → List DaemonAction → List Exchange
  | _, [] => []
  | daemon, action :: rest =>
    let reply := daemon.handle platform action
    ⟨action, reply.answer, reply.spawned⟩ :: exchanges platform reply.daemon rest

/-- Every list of actions is a run. -/
theorem run_exchanges (actions : List DaemonAction) :
    Run (Exchanged platform) daemon (exchanges platform daemon actions)
      (daemon.after platform actions) := by
  induction actions generalizing daemon with
  | nil => exact .nil daemon
  | cons action _ ih =>
    exact .cons rfl (ih (daemon.handle platform action).daemon)

/-- A file system without directories or files. -/
def noFiles : FileSystem where
  isDir _ := false
  isAbsolute path := path.toList.head? == some '/'
  components _ := []
  metadata _ := none

/-- Identifiers drawn as one text first and another ever after. -/
def twoUuids (first second : SessionGeneration) (different : first ≠ second) : UuidDraws where
  draw index := if index = 0 then first else second
  varied excluded := by
    by_cases same : first = excluded
    · exact ⟨1, fun again => different (same.trans again.symm)⟩
    · exact ⟨0, same⟩

/-- Surroundings in which a shell can be spawned and gets the generation `g1`. -/
def shellWorld : SpawnWorld where
  files := noFiles
  uuids := twoUuids "g1" "g2" (by decide)
  spawned := .ok ()
  scan := 0

/-- A request for a shell in the daemon's own directory. -/
def shellRequest (id : SessionId) : StartRequest where
  id := id
  cwd := ""
  command := "sh"
  args := []
  childEnvironment := none
  cols := 80
  rows := 24

namespace Exchange

variable (exchange : Exchange) (id : SessionId) (token : SessionStartOperationToken)

/-- A conditional start of the operation. -/
def Starts : Prop :=
  ∃ request conditional world, exchange.action = .startConditionally request conditional world
    ∧ request.id = id ∧ conditional.operationToken = token

/-- A reservation of the operation that was granted. -/
def Reserves : Prop :=
  exchange.action = .reserve id token ∧ exchange.answer = .reserved .reserved

/-- A request to retire the operation. -/
def AsksToRetire : Prop :=
  ∃ expected, exchange.action = .retire id token expected

/-- A retirement that takes the operation out of use. -/
def Retires : Prop :=
  exchange.AsksToRetire id token ∧ exchange.answer = .retired .retired

/-- A process is spawned under the token. -/
def spawnsUnder : Bool :=
  match exchange.action with
  | .startConditionally _ conditional _ => conditional.operationToken == token && exchange.spawned
  | _ => false

/-- Only a conditional start of the token spawns under it. -/
theorem starts_of_spawnsUnder {exchange : Exchange} {token : SessionStartOperationToken}
    (spawns : exchange.spawnsUnder token = true) :
    (∃ id, exchange.Starts id token) ∧ exchange.spawned = true := by
  obtain ⟨action, _, spawned⟩ := exchange
  cases action with
  | startConditionally request conditional world =>
    obtain ⟨same, spawned⟩ := Bool.and_eq_true_iff.mp spawns
    exact ⟨⟨request.id, request, conditional, world, rfl, rfl, eq_of_beq same⟩, spawned⟩
  | _ => cases spawns

end Exchange

variable (daemon : Daemon) (id : SessionId) (generation : SessionGeneration) in
/-- What a kill of one generation, or a step of its retirement, does to the map. -/
inductive Killed : Daemon → Prop
  | kept : Killed daemon
  | removed {session : Session} (found : daemon.sessions.lookup id = some session)
      (same : session.generation = generation) :
      Killed { daemon with sessions := daemon.sessions.erase id }
  | marked {session : Session} (retirement : Option Nat)
      (found : daemon.sessions.lookup id = some session) :
      Killed { daemon with sessions := daemon.sessions.insert id { session with retirement := retirement } }

section Kills

variable {daemon} {id : SessionId} {generation : SessionGeneration}

theorem takeSessionIfGeneration_killed :
    Killed daemon id generation (daemon.takeSessionIfGeneration id generation).daemon := by
  unfold takeSessionIfGeneration
  split
  · exact .kept
  next _ found =>
    split
    · exact .kept
    next same =>
      split
      · exact .kept
      · exact .removed found (not_not.mp same)

theorem admitRetirement_killed (shutdown : Bool) (owner : Nat) :
    Killed daemon id generation (daemon.admitRetirement id generation shutdown owner).daemon := by
  unfold admitRetirement
  split
  · exact .kept
  · exact .kept
  next _ target =>
    split
    · exact .kept
    · refine .marked (some owner) ?_
      unfold retirementTarget at target
      split at target
      · cases target
      next _ found =>
        split at target
        · cases target
        · split at target
          · cases target
          · cases target
            exact found

theorem finishRetirement_killed (owner : Nat) (result : Except String Unit) :
    Killed daemon id generation (daemon.finishRetirement id generation owner result).daemon := by
  unfold finishRetirement
  split
  · exact .kept
  next _ found =>
    split
    · exact .kept
    next own =>
      split
      · exact .removed found (not_not.mp (not_or.mp own).1)
      · exact .marked none found

/-- A kill removes only the session of the generation it names. -/
theorem Killed.only {next : Daemon} (killed : Killed daemon id generation next) {other : SessionId}
    (found : daemon.sessions.lookup other = some session)
    (gone : other ∉ next.sessions) : other = id ∧ session.generation = generation := by
  have mapped : other ∈ daemon.sessions := mem_of_lookup found
  cases killed with
  | kept => exact absurd mapped gone
  | removed located same =>
    have here : other = id := by
      by_contra different
      exact gone (AList.mem_erase.mpr ⟨different, mapped⟩)
    subst here
    rw [found] at located
    cases located
    exact ⟨rfl, same⟩
  | marked => exact absurd ((AList.mem_insert _).mpr (.inr mapped)) gone

end Kills

variable (daemon : Daemon) in
/-- What an action that starts nothing and writes no ledger entry may do to the daemon. -/
inductive Maintained : Daemon → Prop
  | kept : Maintained daemon
  | removed (id : SessionId) : Maintained { daemon with sessions := daemon.sessions.erase id }
  | updated {id : SessionId} (session : Session) (mapped : id ∈ daemon.sessions) :
      Maintained { daemon with sessions := daemon.sessions.insert id session }
  | cleared : Maintained { daemon with sessions := ∅ }
  | closed : Maintained { daemon with closing := true }

namespace Maintained

variable {daemon} {next : Daemon} {id : SessionId}

theorem of_killed {generation : SessionGeneration}
    (killed : Killed daemon id generation next) : Maintained daemon next := by
  cases killed with
  | kept => exact .kept
  | removed => exact .removed id
  | marked _ found => exact .updated _ (mem_of_lookup found)

theorem of_updateSession (id : SessionId) (change : Session → Session) :
    Maintained daemon (daemon.updateSession id change) := by
  unfold updateSession
  split
  · exact .kept
  next _ found => exact .updated _ (mem_of_lookup found)

theorem of_attachTo {platform : Platform}
    (mapped : id ∈ daemon.sessions) (handoff : Option AttachmentHandoff) (ownerNonce : Nat) :
    Maintained daemon (daemon.attachTo platform id session handoff ownerNonce).daemon := by
  unfold attachTo
  split
  · exact .kept
  · exact .updated _ mapped

theorem startOperations (maintained : Maintained daemon next) :
    next.startOperations = daemon.startOperations := by
  cases maintained <;> rfl

theorem size_le (maintained : Maintained daemon next) :
    mapSize next.sessions ≤ mapSize daemon.sessions := by
  cases maintained with
  | kept => exact Nat.le_refl _
  | removed id => exact mapSize_erase_le id daemon.sessions
  | updated session mapped => exact Nat.le_of_eq (mapSize_insert_of_mem session mapped)
  | cleared => exact Nat.zero_le _
  | closed => exact Nat.le_refl _

end Maintained

/-- The actions that may start a session. -/
def DaemonAction.isStart : DaemonAction → Bool
  | .start _ _ _ | .startConditionally _ _ _ => true
  | _ => false

/-- The actions that may write the ledger. -/
def DaemonAction.writesLedger : DaemonAction → Bool
  | .reserve _ _ | .retire _ _ _ | .startConditionally _ _ _ => true
  | _ => false

/-- Every other action maintains the daemon. -/
theorem handle_maintained {platform : Platform} {daemon : Daemon}
    (starts : action.isStart = false) (writes : action.writesLedger = false) :
    Maintained daemon (daemon.handle platform action).daemon := by
  cases action with
  | start request restartExited world | startConditionally request conditional world => cases starts
  | reserve id token | retire id token expected => cases writes
  | lookup => exact .kept
  | kill _ _ owner =>
    cases platform with
    | unix => exact .of_killed takeSessionIfGeneration_killed
    | windows => exact .of_killed (admitRetirement_killed false owner)
  | finishRetirement _ _ owner result =>
    cases platform with
    | unix => exact .kept
    | windows => exact .of_killed (finishRetirement_killed owner result)
  | shutdown =>
    cases platform with
    | unix => exact .cleared
    | windows => exact .closed
  | retireForShutdown _ _ owner =>
    cases platform with
    | unix => exact .kept
    | windows => exact .of_killed (admitRetirement_killed true owner)
  | attach _ expected handoff ownerNonce =>
    cases expected with
    | none =>
      simp only [handle, Reply.map, acquireSessionAttachment]
      split
      · exact .kept
      · split
        · exact .kept
        next _ found => exact .of_attachTo (mem_of_lookup found) handoff ownerNonce
    | some =>
      simp only [handle, Reply.map, acquireSessionAttachmentIfGeneration]
      split
      · exact .kept
      · split
        · exact .kept
        next _ found =>
          split
          · exact .kept
          · exact .of_attachTo (mem_of_lookup found) handoff ownerNonce
  | cancelHandoff id token | releaseGuard id guard explicit | exited id code
  | renewed id => exact .of_updateSession id _

section Inversion

variable {platform} {before after : Daemon} {answer : DaemonAnswer} {spawned : Bool}
  {id : SessionId} {token : SessionStartOperationToken} {request : StartRequest}
  {world : SpawnWorld}

theorem exchanged_reserve
    (taken : Exchanged platform before ⟨.reserve id token, answer, spawned⟩ after) :
    ∃ reply, ReserveResult before id token reply ∧ after = reply.daemon
      ∧ answer = .reserved reply.answer ∧ spawned = reply.spawned := by
  cases taken
  exact ⟨_, reserveStartOperation_result _ id token, rfl, rfl, rfl⟩

theorem exchanged_retire {expected : SessionStartOperationRetireExpectation}
    (taken : Exchanged platform before ⟨.retire id token expected, answer, spawned⟩ after) :
    ∃ reply, RetireResult platform before id token reply ∧ after = reply.daemon
      ∧ answer = .retired reply.answer ∧ spawned = reply.spawned := by
  cases taken
  exact ⟨_, retireStartOperation_result expected, rfl, rfl, rfl⟩

theorem exchanged_start {restartExited : Bool}
    (taken : Exchanged platform before ⟨.start request restartExited world, answer, spawned⟩ after) :
    ∃ reply, Started platform before request reply ∧ after = reply.daemon
      ∧ answer = .started reply.answer ∧ spawned = reply.spawned := by
  cases taken
  exact ⟨_, startSession_started request restartExited world, rfl, rfl, rfl⟩

theorem exchanged_startConditionally
    {conditional : ConditionalSessionStart} (taken : Exchanged platform before
      ⟨.startConditionally request conditional world, answer, spawned⟩ after) :
    ∃ reply, ConditionalResult platform before request.id conditional.operationToken reply
      ∧ after = reply.daemon ∧ answer = .conditional reply.answer ∧ spawned = reply.spawned := by
  cases taken
  exact ⟨_, startSessionConditionally_result request conditional world, rfl, rfl, rfl⟩

/-- An action that does not write the ledger leaves it alone. -/
theorem exchanged_startOperations
    (taken : Exchanged platform before ⟨action, answer, spawned⟩ after)
    (quiet : action.writesLedger = false) : after.startOperations = before.startOperations := by
  by_cases starts : action.isStart = false
  · have reached : (before.handle platform action).daemon = after := congrArg Reply.daemon taken
    rw [← reached]
    exact (handle_maintained starts quiet).startOperations
  · cases action with
    | start =>
      obtain ⟨_, started, rfl, _, _⟩ := exchanged_start taken
      cases started <;> rfl
    | startConditionally => cases quiet
    | _ => exact absurd rfl starts

end Inversion

end HydraTerm.Daemon
