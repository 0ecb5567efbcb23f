import HydraTerm.Daemon.SessionMap

/-!
# The start operation ledger

A conditional start runs at most once. A client first reserves a token for a session id;
the ledger then records what became of the operation until the client retires it. The
start itself compares one exact precondition with the session map, and on a match spawns a
session and publishes its generation in the ledger, all under the daemon's lock.

Unix forgets a retired operation. Windows keeps it, since a delayed reservation can still
arrive there, and so never frees a slot of the ledger. The ledger's capacity stops new
reservations only.

Each operation is followed by the list of what it can answer, with the daemon it leaves.
-/

namespace HydraTerm.Daemon

open Lib Grid Protocol

/-- Most operations of the ledger. -/
def maxStartOperationLedgerEntries : Nat := 4096

/-- Longest session id of an operation, in bytes. -/
def maxStartOperationSessionIdBytes : Nat := 512

/-- A session id that an operation may name. -/
def validStartOperationId (id : SessionId) : Bool :=
  !id.isEmpty && decide (id.utf8ByteSize ≤ maxStartOperationSessionIdBytes)
    && !id.toList.any isControl

/-- What a conditional start requires of the session map. -/
inductive SessionStartPrecondition where
  | absent (excludedGeneration : Option SessionGeneration)
  | exitedGeneration (expectedGeneration : SessionGeneration)

/-- The authority of a conditional start. -/
structure ConditionalSessionStart where
  operationToken : SessionStartOperationToken
  precondition : SessionStartPrecondition

/-- The answer to a conditional start. -/
inductive ConditionalSessionStartOutcome where
  | applied (generation : SessionGeneration)
  | alreadyApplied (generation : SessionGeneration)
  | refused (reason : ConditionalSessionStartRefusal)
  deriving DecidableEq

/-- Why a reservation was refused. -/
inductive SessionStartOperationReserveRefusal where
  | invalidSessionId
  | ledgerFull
  | tokenInUse
  | alreadyTerminal
  deriving DecidableEq

/-- The answer to a reservation. -/
inductive SessionStartOperationReserveOutcome where
  | reserved
  | alreadyReserved
  | refused (reason : SessionStartOperationReserveRefusal)
  deriving DecidableEq

/-- What has become of the generation an operation published. -/
inductive SessionStartOperationLifecycle where
  | live
  | exited
  | removed
  deriving DecidableEq

/-- The status of an operation as its client sees it. -/
inductive SessionStartOperationStatus where
  | unknown
  | reserved
  | refused
  | applied (generation : SessionGeneration) (lifecycle : SessionStartOperationLifecycle)
  deriving DecidableEq

/-- What a retirement expects of the operation. -/
inductive SessionStartOperationRetireExpectation where
  | unapplied
  | applied (generation : SessionGeneration)

/-- The answer to a retirement. -/
inductive SessionStartOperationRetireOutcome where
  | retired
  | alreadyRetired
  | conflict (current : SessionStartOperationStatus)
  deriving DecidableEq

/-- A generation text a request may name. -/
def validGenerationText (generation : SessionGeneration) : Bool :=
  !generation.isEmpty && decide (generation.utf8ByteSize ≤ 128)

variable (platform : Platform) (daemon : Daemon) (id : SessionId)
  (token : SessionStartOperationToken)

/-- Compare the precondition with the map. The answer says whether an exited session is to
be replaced. -/
def checkPrecondition :
    SessionStartPrecondition → Except ConditionalSessionStartRefusal Bool
  | .absent excludedGeneration =>
    if excludedGeneration.any (fun generation => !validGenerationText generation) then
      .error .preconditionFailed
    else if (daemon.sessions.lookup id).isSome then .error .preconditionFailed
    else .ok false
  | .exitedGeneration expectedGeneration =>
    if !validGenerationText expectedGeneration then .error .preconditionFailed
    else
      match daemon.sessions.lookup id with
      | none => .error .preconditionFailed
      | some existing =>
        if existing.generation ≠ expectedGeneration ∨ existing.exitState.isNone then
          .error .preconditionFailed
        else if existing.attachmentInUse then .error .attachmentInUse
        else .ok true

/-- The generation a conditional start gives its session. -/
def candidateGeneration (uuids : UuidDraws) : SessionStartPrecondition → SessionGeneration
  | .absent none => uuids.new
  | .absent (some excluded) => uuids.newExcluding excluded
  | .exitedGeneration expected => uuids.newExcluding expected

/-- Record the refusal of a reserved operation. -/
def refuseReservedStart (reason : ConditionalSessionStartRefusal) :
    Reply ConditionalSessionStartOutcome :=
  ⟨{ daemon with startOperations := daemon.startOperations.insert token (.refused id reason) },
    .refused reason, false⟩

/-- The part of a conditional start that follows the ledger's check. A full map is never
made to give up an unrelated session here. -/
def startReserved (request : StartRequest) (conditional : ConditionalSessionStart)
    (world : SpawnWorld) : Reply ConditionalSessionStartOutcome :=
  let refuse := daemon.refuseReservedStart request.id conditional.operationToken
  if daemon.startBlocked platform request.id then refuse .preconditionFailed
  else
    match daemon.checkPrecondition request.id conditional.precondition with
    | .error reason => refuse reason
    | .ok restartExited =>
      if !restartExited && decide (mapSize daemon.sessions ≥ maxSessions) then refuse .spawnFailed
      else
        match checkSpawnInputs platform world.files request, world.spawned with
        | .ok (), .ok () =>
          let generation := candidateGeneration world.uuids conditional.precondition
          ⟨{ daemon with
              sessions := daemon.sessions.insert request.id (.spawn generation)
              startOperations := daemon.startOperations.insert conditional.operationToken
                (.applied request.id generation) },
            .applied generation, true⟩
        | _, _ => refuse .spawnFailed

/-- Start a session under a reserved operation, or answer a replay from the ledger. -/
def startSessionConditionally (request : StartRequest) (conditional : ConditionalSessionStart)
    (world : SpawnWorld) : Reply ConditionalSessionStartOutcome :=
  let unmatched := ⟨daemon, .refused .preconditionFailed, false⟩
  match daemon.startOperations.lookup conditional.operationToken with
  | some (.reserved id) =>
    if id = request.id then daemon.startReserved platform request conditional world else unmatched
  | some (.applied id generation) =>
    if id = request.id then ⟨daemon, .alreadyApplied generation, false⟩ else unmatched
  | some (.refused id reason) =>
    if id = request.id then ⟨daemon, .refused reason, false⟩ else unmatched
  | some (.retired _) | none => unmatched

/-- Reserve a token for a session id. What the ledger knows is answered before its capacity
is looked at. -/
def reserveStartOperation : Reply SessionStartOperationReserveOutcome :=
  if !validStartOperationId id then ⟨daemon, .refused .invalidSessionId, false⟩
  else
    match daemon.startOperations.lookup token with
    | some existing =>
      let outcome := match existing with
        | .reserved reservedId =>
          if reservedId = id then .alreadyReserved else .refused .tokenInUse
        | .applied otherId _ | .refused otherId _ | .retired otherId =>
          if otherId = id then .refused .alreadyTerminal else .refused .tokenInUse
      ⟨daemon, outcome, false⟩
    | none =>
      if mapSize daemon.startOperations ≥ maxStartOperationLedgerEntries then
        ⟨daemon, .refused .ledgerFull, false⟩
      else
        ⟨{ daemon with startOperations := daemon.startOperations.insert token (.reserved id) },
          .reserved, false⟩

/-- What has become of a published generation. -/
def lifecycleOf (generation : SessionGeneration) : SessionStartOperationLifecycle :=
  match daemon.sessions.lookup id with
  | some session =>
    if session.generation = generation then
      if session.exitState.isSome then .exited else .live
    else .removed
  | none => .removed

/-- The status of an operation, for the exact id it was reserved for. -/
def lookupStartOperation : SessionStartOperationStatus :=
  match daemon.startOperations.lookup token with
  | some (.reserved reservedId) => if reservedId = id then .reserved else .unknown
  | some (.refused refusedId _) => if refusedId = id then .refused else .unknown
  | some (.applied appliedId generation) =>
    if appliedId = id then .applied generation (daemon.lifecycleOf id generation) else .unknown
  | some (.retired _) | none => .unknown

/-- The expectation of a retirement agrees with the operation's status. -/
def mayRetire : SessionStartOperationRetireExpectation → SessionStartOperationStatus → Bool
  | .unapplied, .reserved | .unapplied, .refused => true
  | .applied expected, .applied generation _ => expected == generation
  | _, _ => false

/-- The ledger after a retirement. -/
def retiredLedger : StartLedger :=
  match platform with
  | .windows => daemon.startOperations.insert token (.retired id)
  | .unix => daemon.startOperations.erase token

/-- A retirement of an operation the ledger does not know. Windows records it, if the id
could be reserved and there is room. -/
def retireUnknown : Daemon :=
  match platform with
  | .unix => daemon
  | .windows =>
    match daemon.startOperations.lookup token with
    | some _ => daemon
    | none =>
      if !validStartOperationId id then daemon
      else if mapSize daemon.startOperations < maxStartOperationLedgerEntries then
        { daemon with startOperations := daemon.startOperations.insert token (.retired id) }
      else daemon

/-- Retire an operation whose status is the expected one. -/
def retireStartOperation (expected : SessionStartOperationRetireExpectation) :
    Reply SessionStartOperationRetireOutcome :=
  let current := daemon.lookupStartOperation id token
  if mayRetire expected current then
    ⟨{ daemon with startOperations := daemon.retiredLedger platform id token }, .retired, false⟩
  else if current = .unknown then ⟨daemon.retireUnknown platform id token, .alreadyRetired, false⟩
  else ⟨daemon, .conflict current, false⟩

section Specifications

/-- The ledger has no operation of the token that the id could still use: what it has is for
another id, or is retired. -/
def Unmatched : Prop :=
  ∀ entry, daemon.startOperations.lookup token = some entry → entry.id = id → entry = .retired id

/-- What a reservation can answer. -/
inductive ReserveResult : Reply SessionStartOperationReserveOutcome → Prop
  | kept {outcome : SessionStartOperationReserveOutcome} (old : outcome ≠ .reserved) :
      ReserveResult ⟨daemon, outcome, false⟩
  | reserved (absent : daemon.startOperations.lookup token = none)
      (room : mapSize daemon.startOperations < maxStartOperationLedgerEntries) :
      ReserveResult
        ⟨{ daemon with startOperations := daemon.startOperations.insert token (.reserved id) },
          .reserved, false⟩

theorem reserveStartOperation_result :
    ReserveResult daemon id token (daemon.reserveStartOperation id token) := by
  unfold reserveStartOperation
  split
  · exact .kept (by simp)
  · split
    next existing _ =>
      apply ReserveResult.kept
      cases existing <;> dsimp only <;> split <;> simp
    next absent =>
      split
      · exact .kept (by simp)
      next room => exact .reserved absent (Nat.lt_of_not_le room)

/-- What a retirement can answer. -/
inductive RetireResult : Reply SessionStartOperationRetireOutcome → Prop
  | retired {entry : StartOperationLedgerEntry}
      (found : daemon.startOperations.lookup token = some entry) (same : entry.id = id) :
      RetireResult
        ⟨{ daemon with startOperations := daemon.retiredLedger platform id token }, .retired, false⟩
  | unknown (unmatched : Unmatched daemon id token) : RetireResult ⟨daemon, .alreadyRetired, false⟩
  | recorded (absent : daemon.startOperations.lookup token = none)
      (room : mapSize daemon.startOperations < maxStartOperationLedgerEntries) :
      RetireResult
        ⟨{ daemon with startOperations := daemon.startOperations.insert token (.retired id) },
          .alreadyRetired, false⟩
  | conflict (current : SessionStartOperationStatus) :
      RetireResult ⟨daemon, .conflict current, false⟩

/-- How a settled operation of the session answers a replay. -/
inductive StartOperationLedgerEntry.Replays :
    StartOperationLedgerEntry → ConditionalSessionStartOutcome → Prop
  | applied (generation : SessionGeneration) :
      Replays (.applied id generation) (.alreadyApplied generation)
  | refused (reason : ConditionalSessionStartRefusal) :
      Replays (.refused id reason) (.refused reason)

/-- What a conditional start can answer. -/
inductive ConditionalResult : Reply ConditionalSessionStartOutcome → Prop
  | unmatched (none : Unmatched daemon id token) :
      ConditionalResult ⟨daemon, .refused .preconditionFailed, false⟩
  | replayed {entry : StartOperationLedgerEntry} {outcome : ConditionalSessionStartOutcome}
      (found : daemon.startOperations.lookup token = some entry)
      (replays : entry.Replays id outcome) : ConditionalResult ⟨daemon, outcome, false⟩
  | refused (reason : ConditionalSessionStartRefusal)
      (found : daemon.startOperations.lookup token = some (.reserved id)) :
      ConditionalResult (daemon.refuseReservedStart id token reason)
  | applied {generation : SessionGeneration} {sessions : SessionTable}
      (found : daemon.startOperations.lookup token = some (.reserved id))
      (change : Installed platform daemon.sessions id (.spawn generation) sessions) :
      ConditionalResult
        ⟨{ daemon with
            sessions := sessions
            startOperations := daemon.startOperations.insert token (.applied id generation) },
          .applied generation, true⟩

variable {platform daemon id token}

/-- An operation for another id does not match. -/
theorem unmatched_of_id
    {entry : StartOperationLedgerEntry} (found : daemon.startOperations.lookup token = some entry)
    (foreign : entry.id ≠ id) : Unmatched daemon id token := by
  simp [Unmatched, found, foreign]

/-- An operation of unknown status does not match. -/
theorem unmatched_of_unknown
    (unknown : daemon.lookupStartOperation id token = .unknown) : Unmatched daemon id token := by
  intro entry found same
  unfold lookupStartOperation at unknown
  rw [found] at unknown
  cases entry with
  | retired =>
    cases same
    rfl
  | reserved other | applied other generation | refused other reason =>
    exact absurd unknown (by simp [show other = id from same])

/-- An operation that may be retired is the id's own. -/
theorem own_of_mayRetire {expected : SessionStartOperationRetireExpectation}
    (allowed : mayRetire expected (daemon.lookupStartOperation id token) = true) :
    ∃ entry, daemon.startOperations.lookup token = some entry ∧ entry.id = id := by
  have known : daemon.lookupStartOperation id token ≠ .unknown := by
    intro unknown
    rw [unknown] at allowed
    cases expected <;> cases allowed
  unfold lookupStartOperation at known
  cases found : daemon.startOperations.lookup token with
  | none => simp [found] at known
  | some entry =>
    refine ⟨entry, rfl, ?_⟩
    cases entry <;> simp_all [StartOperationLedgerEntry.id]

theorem retireStartOperation_result
    (expected : SessionStartOperationRetireExpectation) :
    RetireResult platform daemon id token
      (daemon.retireStartOperation platform id token expected) := by
  unfold retireStartOperation
  dsimp only
  split
  next allowed =>
    obtain ⟨entry, found, same⟩ := own_of_mayRetire allowed
    exact .retired found same
  · split
    next unknown =>
      have unmatched := unmatched_of_unknown unknown
      unfold retireUnknown
      split
      · exact .unknown unmatched
      · split
        · exact .unknown unmatched
        next absent =>
          split
          · exact .unknown unmatched
          · split
            next room => exact .recorded absent room
            · exact .unknown unmatched
    · exact .conflict _

/-- A precondition that holds leaves the id free or its session reclaimable. -/
theorem checkPrecondition_ok {precondition : SessionStartPrecondition}
    {restartExited : Bool} (admitted : daemon.startBlocked platform id = false)
    (checked : daemon.checkPrecondition id precondition = .ok restartExited) :
    (restartExited = false ∧ id ∉ daemon.sessions)
      ∨ (restartExited = true ∧ ∃ existing, daemon.sessions.lookup id = some existing
          ∧ existing.canReclaim platform = true) := by
  cases precondition with
  | absent =>
    simp only [checkPrecondition] at checked
    split_ifs at checked with _ free
    cases checked
    exact .inl ⟨rfl, fun member => free (AList.lookup_isSome.mpr member)⟩
  | exitedGeneration =>
    simp only [checkPrecondition] at checked
    split_ifs at checked
    split at checked
    · cases checked
    next existing found =>
      split_ifs at checked with agrees unowned
      cases checked
      refine .inr ⟨rfl, existing, found, Session.canReclaim_of_exited ?_ ?_ ?_⟩
      · rintro ⟨rfl, retiring⟩
        simp [startBlocked, found, retiring] at admitted
      · simpa [Option.isSome_iff_ne_none] using (not_or.mp agrees).2
      · simpa using unowned

theorem startReserved_result {request : StartRequest} {conditional : ConditionalSessionStart}
    (world : SpawnWorld) (found : daemon.startOperations.lookup conditional.operationToken
      = some (.reserved request.id)) :
    ConditionalResult platform daemon request.id conditional.operationToken
      (daemon.startReserved platform request conditional world) := by
  unfold startReserved
  split
  · exact .refused _ found
  next admitted =>
    split
    · exact .refused _ found
    next _ checked =>
      have place := checkPrecondition_ok (Bool.eq_false_iff.mpr admitted) checked
      split
      · exact .refused _ found
      next room =>
        split
        · refine .applied found ?_
          rcases place with ⟨rfl, absent⟩ | ⟨rfl, existing, located, free⟩
          · exact .added absent (by simpa using room)
          · exact .replaced located free
        · exact .refused _ found

theorem startSessionConditionally_result (request : StartRequest)
    (conditional : ConditionalSessionStart) (world : SpawnWorld) :
    ConditionalResult platform daemon request.id conditional.operationToken
      (daemon.startSessionConditionally platform request conditional world) := by
  unfold startSessionConditionally
  split
  next _ found =>
    split
    next same => exact startReserved_result world (same ▸ found)
    next foreign => exact .unmatched (unmatched_of_id found foreign)
  next _ _ found =>
    split
    next same => exact .replayed (same ▸ found) (.applied _)
    next foreign => exact .unmatched (unmatched_of_id found foreign)
  next _ _ found =>
    split
    next same => exact .replayed (same ▸ found) (.refused _)
    next foreign => exact .unmatched (unmatched_of_id found foreign)
  next _ found => exact .unmatched (by simp [Unmatched, found, StartOperationLedgerEntry.id])
  next absent => exact .unmatched (by simp [Unmatched, absent])

end Specifications

end HydraTerm.Daemon
