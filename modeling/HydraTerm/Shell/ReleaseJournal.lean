import HydraTerm.Shell.Ownership

/-!
# The session release journal

A destructive transaction cannot kill a process and commit in one step. It records the exact
lifetimes to release in the journal, in the same transaction as the deletion, and the releases are
sent afterwards. An operation of the journal is worked on under a lease, a token with an expiry.

Each definition here is one SQLite transaction or read of the journal, as a function of the tables
and of the clock reading it takes. A transaction that returns an error leaves no trace, so the
tables after it appear in the successful result only.
-/

namespace HydraTerm.Shell

open Grid

/-! ## Identifiers, clocks and errors -/

/-- A hexadecimal digit as the canonical text of a UUID writes it. -/
def isLowerHex (c : Char) : Bool := c.isDigit || ('a' ≤ c && c ≤ 'f')

/-- What `validate_uuid` accepts: a hyphenated lowercase UUID of version 4. -/
def isCanonicalUuidV4 (value : String) : Bool :=
  value.toList.length == 36 && value.toList[14]? == some '4' &&
    value.toList.zipIdx.all fun (c, i) =>
      if i ∈ [8, 13, 18, 23] then c == '-' else isLowerHex c

/-- A generated id or token. Being canonical, it passes `validate_uuid` wherever it is read. -/
structure Uuid where
  text : String
  canonical : isCanonicalUuidV4 text = true
  deriving DecidableEq

/-- `MAX_RELEASE_TARGETS_PER_OPERATION`. -/
def maxReleaseTargetsPerOperation : Nat := 4096

/-- `MAX_PENDING_RELEASE_TARGETS`. -/
def maxPendingReleaseTargets : Nat := 16384

/-- `SESSION_RELEASE_LEASE_MS`. -/
def sessionReleaseLeaseMs : Nat := 120000

/-- What is wrong with a release target. -/
inductive TargetProblem
  | sessionId (error : IdError)
  | generationLength
  | conflictingLifetimes (sessionId : SessionId)
  | unresolved (sessionId : SessionId)
  deriving DecidableEq

/-- `SessionReleaseError`. `store` stands for every failure of SQLite itself. -/
inductive SessionReleaseError
  | store
  | invalidTarget (problem : TargetProblem)
  | capacityExceeded (scope : String) (limit : Nat)
  | clockOverflow
  | claimUnavailable
  | claimLost
  | leaseExpired
  | journalCorrupt (detail : String)
  | ownershipUncertain (error : OwnershipError)
  deriving DecidableEq

/-- `checked_ms`: a time that fits the signed column. -/
def checkedMs (value : Nat) : Except SessionReleaseError Nat :=
  if value < 2 ^ 63 then .ok value else .error .clockOverflow

/-- `lease_until`. -/
def leaseUntil (nowMs : Nat) : Except SessionReleaseError Nat :=
  if nowMs + sessionReleaseLeaseMs < 2 ^ 64 then .ok (nowMs + sessionReleaseLeaseMs)
  else .error .clockOverflow

/-- `clock_ms`. The reading is the time since the epoch; `none` is a clock set before it. -/
def clockMs (reading : Option Nat) : Except SessionReleaseError Nat :=
  match reading with
  | none => .error .clockOverflow
  | some millis => if millis < 2 ^ 64 then .ok millis else .error .clockOverflow

/-- The clock reading of a transaction, `checked_ms(clock_ms()?)?`. -/
def nowMs (reading : Option Nat) : Except SessionReleaseError Nat := do
  checkedMs (← clockMs reading)

/-- The clock reading of a transaction that sets a lease, with the end of the lease. -/
def nowAndUntil (reading : Option Nat) : Except SessionReleaseError (Nat × Nat) := do
  let now ← nowMs reading
  let untilMs ← checkedMs (← leaseUntil now)
  return (now, untilMs)

/-! ## Targets -/

/-- `SessionRowPolicy`: how the session row takes part in the later ownership check. -/
inductive SessionRowPolicy
  | matchingRowIsProof
  | rowMustBeAbsent
  deriving DecidableEq

/-- The generations of `validate_generation`: one to 128 bytes. -/
def ValidGeneration (generation : SessionGeneration) : Prop :=
  generation.isEmpty = false ∧ generation.utf8ByteSize ≤ 128
  deriving Decidable

/-- `SessionReleaseTarget`: one exact lifetime of a session, with valid ids. -/
structure SessionReleaseTarget where
  sessionId : SessionId
  expectedGeneration : SessionGeneration
  rowPolicy : SessionRowPolicy
  validSession : validateId sessionId = .ok sessionId
  validGeneration : ValidGeneration expectedGeneration
  deriving DecidableEq

/-- The targets by session id, each once; two lifetimes of one session conflict. -/
def uniqueTargets (unique : List SessionReleaseTarget) :
    List SessionReleaseTarget → Except SessionReleaseError (List SessionReleaseTarget)
  | [] => .ok unique
  | target :: rest =>
    match unique.find? (·.sessionId = target.sessionId) with
    | some existing =>
      if existing ≠ target then .error (.invalidTarget (.conflictingLifetimes target.sessionId))
      else uniqueTargets unique rest
    | none =>
      uniqueTargets (unique.orderedInsert (fun one other => one.sessionId ≤ other.sessionId) target)
        rest

/-- `normalize_targets`. -/
def normalizeTargets (targets : List SessionReleaseTarget) :
    Except SessionReleaseError (List SessionReleaseTarget) :=
  if targets.length > maxReleaseTargetsPerOperation then
    .error (.capacityExceeded "per-operation" maxReleaseTargetsPerOperation)
  else uniqueTargets [] targets

/-! ## The tables -/

/-- The token that owns an operation, until it expires. -/
structure Lease where
  token : Uuid
  untilMs : Nat
  deriving DecidableEq

/-- A row of `session_release_operations`. A check of the table makes the token and the expiry
both null or both present. -/
structure ReleaseOperation where
  operationId : Uuid
  createdAtMs : Nat
  lease : Option Lease
  deriving DecidableEq

/-- A row of `pending_session_releases`. -/
structure PendingRelease where
  operationId : Uuid
  target : SessionReleaseTarget
  deriving DecidableEq

/-- The journal. -/
structure ReleaseJournal where
  operations : List ReleaseOperation
  pending : List PendingRelease
  deriving DecidableEq

namespace ReleaseOperation

variable (operation : ReleaseOperation)

/-- `operation_id = ?1 AND lease_token = ?2`. -/
def heldBy (operationId token : Uuid) : Bool :=
  operation.operationId = operationId && operation.lease.any (·.token = token)

/-- `operation_id = ?1 AND lease_token = ?2 AND lease_until_ms > ?3`. -/
def currentFor (operationId token : Uuid) (now : Nat) : Bool :=
  operation.operationId = operationId &&
    operation.lease.any fun lease => lease.token = token && now < lease.untilMs

/-- `lease_token IS NULL OR lease_until_ms <= ?1`. -/
def unleased (now : Nat) : Bool :=
  operation.lease.all (·.untilMs ≤ now)

/-- The position in the order of `ORDER BY created_at_ms, operation_id`. -/
def schedule : Nat ×ₗ String :=
  toLex (operation.createdAtMs, operation.operationId.text)

end ReleaseOperation

namespace ReleaseJournal

variable (journal : ReleaseJournal)

/-- The pending rows of an operation. -/
def pendingOf (operationId : Uuid) : List PendingRelease :=
  journal.pending.filter (·.operationId = operationId)

/-- The latest schedule position and the clock, plus one. -/
def rotatedAt (now : Nat) : Except SessionReleaseError Nat :=
  checkedMs (journal.operations.foldl (fun latest row => max latest row.createdAtMs) now + 1)

/-- An `UPDATE` of the operations that match: the operations after it. -/
def update (matching : ReleaseOperation → Bool)
    (set : ReleaseOperation → ReleaseOperation) : ReleaseJournal :=
  { journal with
    operations := journal.operations.map fun operation =>
      if matching operation then set operation else operation }

/-- A `DELETE` of the operations that match, with the cascade to their pending rows. -/
def delete (matching : ReleaseOperation → Bool) : ReleaseJournal :=
  { operations := journal.operations.filter (!matching ·)
    pending := journal.pending.filter fun row =>
      !journal.operations.any fun operation =>
        matching operation && operation.operationId = row.operationId }

end ReleaseJournal

/-! ## Capabilities -/

/-- `PendingReleaseReceipt`: the initial ownership of a new operation. -/
structure PendingReleaseReceipt where
  operationId : Uuid
  leaseToken : Uuid
  leaseUntilMs : Nat
  targetCount : Nat
  deriving DecidableEq

/-- `ForwardReleaseClaim`: the ownership of a reclaimed operation. -/
structure ForwardReleaseClaim where
  operationId : Uuid
  leaseToken : Uuid
  leaseUntilMs : Nat
  targetCount : Nat
  deriving DecidableEq

/-- `UnpublishedCompensationReceipt`: the right to undo the deletion and cancel the operation. -/
structure UnpublishedCompensationReceipt where
  operationId : Uuid
  leaseToken : Uuid
  leaseUntilMs : Nat

/-! ## The transactions -/

namespace ReleaseJournal

variable (journal : ReleaseJournal) (operationId leaseToken : Uuid) (reading : Option Nat)

/-- `insert_pending_releases`, within the caller's transaction. The id and the token are the UUIDs
it draws; the primary key of the operations refuses an id that is taken. -/
def insertPendingReleases (targets : List SessionReleaseTarget)
    (createdAtMs : Nat) (reading : Option Nat) (operationId leaseToken : Uuid) :
    Except SessionReleaseError (Option PendingReleaseReceipt × ReleaseJournal) := do
  let targets ← normalizeTargets targets
  if targets.isEmpty then return (none, journal)
  if journal.pending.length + targets.length > maxPendingReleaseTargets then
    .error (.capacityExceeded "global" maxPendingReleaseTargets)
  else do
    let leaseUntilMs ← leaseUntil (← clockMs reading)
    let createdAt ← checkedMs createdAtMs
    let untilColumn ← checkedMs leaseUntilMs
    if journal.operations.any (·.operationId = operationId) then .error .store
    else
      return (some ⟨operationId, leaseToken, leaseUntilMs, targets.length⟩,
        { operations := journal.operations ++ [⟨operationId, createdAt, some ⟨leaseToken, untilColumn⟩⟩]
          pending := journal.pending ++ targets.map (⟨operationId, ·⟩) })

/-- `enqueue_recovered`: targets whose exact lifetime is pending already are left out. -/
def enqueueRecovered (targets : List SessionReleaseTarget)
    (createdAtMs : Nat) (reading : Option Nat) (operationId leaseToken : Uuid) :
    Except SessionReleaseError (Option PendingReleaseReceipt × ReleaseJournal) := do
  let targets ← normalizeTargets targets
  let novel := targets.filter fun target => !journal.pending.any fun row =>
    row.target.sessionId = target.sessionId &&
      row.target.expectedGeneration = target.expectedGeneration
  journal.insertPendingReleases novel createdAtMs reading operationId leaseToken

/-- The operations `claim_next` chooses from. -/
def claimable (now : Nat) : List ReleaseOperation :=
  journal.operations.filter fun operation =>
    operation.unleased now && !(journal.pendingOf operation.operationId).isEmpty

/-- The candidate of `claim_next`: the first of the claimable operations in their order. -/
def candidate (now : Nat) : Option ReleaseOperation :=
  ((journal.claimable now).insertionSort fun one other => one.schedule ≤ other.schedule).head?

/-- `claim_next`: lease the oldest claimable operation and put it behind all others. -/
def claimNext (leaseToken : Uuid) :
    Except SessionReleaseError (Option ForwardReleaseClaim × ReleaseJournal) := do
  let (now, untilMs) ← nowAndUntil reading
  match journal.candidate now with
  | none => return (none, journal)
  | some operation =>
    let rotated ← journal.rotatedAt now
    let matching (row : ReleaseOperation) : Bool :=
      row.operationId = operation.operationId && row.unleased now
    if journal.operations.countP matching ≠ 1 then .error .claimUnavailable
    else
      return (some ⟨operation.operationId, leaseToken, untilMs,
          (journal.pendingOf operation.operationId).length⟩,
        journal.update matching fun row =>
          { row with lease := some ⟨leaseToken, untilMs⟩, createdAtMs := rotated })

/-- `renew_lease`: the new expiry. -/
def renewLease :
    Except SessionReleaseError (Nat × ReleaseJournal) := do
  let (now, untilMs) ← nowAndUntil reading
  if journal.operations.countP (·.currentFor operationId leaseToken now) ≠ 1 then
    match (journal.operations.find? (·.heldBy operationId leaseToken)).bind (·.lease) with
    | some lease => .error (if lease.untilMs ≤ now then .leaseExpired else .claimLost)
    | none => .error .claimLost
  else
    return (untilMs, journal.update (·.currentFor operationId leaseToken now) fun row =>
      { row with lease := some ⟨leaseToken, untilMs⟩ })

/-- `release_lease`: give the operation back, behind all others. -/
def releaseLease :
    Except SessionReleaseError ReleaseJournal := do
  let now ← nowMs reading
  let rotated ← journal.rotatedAt now
  if journal.operations.countP (·.currentFor operationId leaseToken now) ≠ 1 then .error .claimLost
  else
    return journal.update (·.currentFor operationId leaseToken now) fun row =>
      { row with lease := none, createdAtMs := rotated }

/-- The first read of `list_for_lease`: the lease is held and has not expired. -/
def checkLease :
    Except SessionReleaseError Unit := do
  let now ← nowMs reading
  match (journal.operations.find? (·.heldBy operationId leaseToken)).bind (·.lease) with
  | none => .error .claimLost
  | some lease => if lease.untilMs ≤ now then .error .leaseExpired else return ()

/-- The second read of `list_for_lease`: the targets by session id. It is a read of its own, so
another connection may commit between the two. -/
def listTargets (operationId : Uuid) : Except SessionReleaseError (List SessionReleaseTarget) :=
  let targets := ((journal.pendingOf operationId).map (·.target)).insertionSort
    fun one other => one.sessionId ≤ other.sessionId
  if targets.length > maxReleaseTargetsPerOperation then
    .error (.journalCorrupt "operation exceeds target cap")
  else if targets.isEmpty then .error (.journalCorrupt "operation has no pending targets")
  else .ok targets

/-- `consume_target`: delete the target's row, and the operation with its last target. -/
def consumeTarget (target : SessionReleaseTarget) (reading : Option Nat) :
    Except SessionReleaseError ReleaseJournal := do
  let now ← nowMs reading
  if !journal.operations.any (·.currentFor operationId leaseToken now) then .error .claimLost
  else if journal.pending.countP (· = ⟨operationId, target⟩) ≠ 1 then
    .error (.journalCorrupt "claimed target changed or disappeared")
  else
    let consumed := { journal with pending := journal.pending.filter (· ≠ ⟨operationId, target⟩) }
    if !(consumed.pendingOf operationId).isEmpty then return consumed
    else if journal.operations.countP (·.heldBy operationId leaseToken) ≠ 1 then .error .claimLost
    else return consumed.delete (·.heldBy operationId leaseToken)

/-- `cancel_operation_in_transaction`, within the compensation transaction: whether it deleted the
operation, and the journal after it. -/
def cancelOperation (compensation : UnpublishedCompensationReceipt)
    (reading : Option Nat) : Except SessionReleaseError (Bool × ReleaseJournal) := do
  let now ← nowMs reading
  if compensation.leaseUntilMs ≤ now then return (false, journal)
  else
    let matching (row : ReleaseOperation) : Bool :=
      row.currentFor compensation.operationId compensation.leaseToken now
    return (journal.operations.countP matching = 1, journal.delete matching)

/-- The operations of a lifetime that is adopted again, in the order of their ids, lose their lease
and go behind all others one after the other. -/
def unleaseEach (journal : ReleaseJournal) (lastSchedule : Nat) :
    List Uuid → Except SessionReleaseError ReleaseJournal
  | [] => .ok journal
  | operationId :: rest =>
    if lastSchedule + 1 < 2 ^ 63 then
      (journal.update (·.operationId = operationId) fun row =>
        { row with lease := none, createdAtMs := lastSchedule + 1 }).unleaseEach
        (lastSchedule + 1) rest
    else .error .store

/-- The journal part of the conditional session attach, which adopts a lifetime again: every
operation with the lifetime loses its lease, the lifetime is no longer to be released, and
operations without targets go. -/
def adoptLifetime (sessionId : SessionId) (generation : SessionGeneration) (writtenAtMs : Nat) :
    Except SessionReleaseError ReleaseJournal := do
  let adopted (row : PendingRelease) : Bool :=
    row.target.sessionId = sessionId && row.target.expectedGeneration = generation
  let affected := (((journal.pending.filter adopted).map (·.operationId)).dedup).insertionSort
    fun one other => one.text ≤ other.text
  if writtenAtMs < 2 ^ 63 then do
    let unleased ← journal.unleaseEach
      (journal.operations.foldl (fun latest row => max latest row.createdAtMs) writtenAtMs) affected
    let left := { unleased with pending := unleased.pending.filter (!adopted ·) }
    return left.delete fun operation => (left.pendingOf operation.operationId).isEmpty
  else .error .store

end ReleaseJournal

/-! ## The ownership fence -/

/-- The row policy of the fence, on the session row of the graph. -/
def rowAdmits (target : SessionReleaseTarget) : Option OwnedSession → Bool
  | none => true
  | some row =>
    match target.rowPolicy with
    | .matchingRowIsProof => row.generation = some target.expectedGeneration
    | .rowMustBeAbsent => false

/-- The checks of `fence_one` before the daemon is called: `true` lets the release out, `false`
retains the session. -/
def fenceAdmits (journal : ReleaseJournal) (tables : OwnerTables) (operationId leaseToken : Uuid)
    (target : SessionReleaseTarget) (reading : Option Nat) : Except SessionReleaseError Bool := do
  let now ← nowMs reading
  if !(journal.operations.any (·.currentFor operationId leaseToken now) &&
      journal.pending.any (· = ⟨operationId, target⟩)) then .error .claimLost
  else
    match sessionOwnershipGraph tables with
    | .error error => .error (.ownershipUncertain error)
    | .ok graph =>
      if graph.taskRefs.any (target.sessionId ∈ ·.sessions) ||
          graph.tabRefs.any (·.sessionId = target.sessionId) ||
          graph.worktreeRefs.any (·.sessionId = target.sessionId) then return false
      else return rowAdmits target (graph.sessionRows.find? (·.sessionId = target.sessionId))

end HydraTerm.Shell
