import HydraTerm.Lib.Runs
import HydraTerm.Shell.ReleasePrograms

/-!
# Processes on one release journal

Any number of threads, in any number of processes, share the journal. A thread holds one capability
or runs one attempt: receipts, claims and compensation rights are never copied, so a thread that
uses one up or dies leaves nothing behind. Each step is one SQLite transaction, one read or one
callback; the clock reading of a step is arbitrary, and so are the daemon's answers, the failures of
the store and what other transactions do to the owner tables.

An event records what a step did that matters to others; a step that has no such effect is
`internal`. Every event carries the clock reading of its step, if it took one.
-/

namespace HydraTerm.Shell

open Grid Lib

variable {E : Type}

/-- A thread: a capability it holds, or an attempt it is in. -/
inductive ReleaseThread (E : Type)
  | receipt (receipt : PendingReleaseReceipt)
  | claim (claim : ForwardReleaseClaim)
  | compensation (compensation : UnpublishedCompensationReceipt)
  | attempt (kind : AttemptKind) (operationId leaseToken : Uuid) (program : ReleaseProgram E)
  | ended

/-- The operation and the token a thread works under. -/
def ReleaseThread.authority : ReleaseThread E → Option (Uuid × Uuid)
  | .receipt held | .claim held | .compensation held => some (held.operationId, held.leaseToken)
  | .attempt _ operationId leaseToken _ => some (operationId, leaseToken)
  | .ended => none

/-- The shared database and the threads. -/
structure ReleaseSystem (E : Type) where
  journal : ReleaseJournal
  tables : OwnerTables
  threads : List (ReleaseThread E)

/-- What a step did. -/
inductive ReleaseEvent
  | journaled (operationId leaseToken : Uuid) (reading : Option Nat)
  | claimed (operationId leaseToken : Uuid) (reading : Option Nat)
  | judged (operationId leaseToken : Uuid) (target : SessionReleaseTarget)
      (verdict : ReleaseVerdict) (reading : Option Nat)
  | consumed (operationId leaseToken : Uuid) (target : SessionReleaseTarget)
      (reading : Option Nat)
  | cancelled (operationId leaseToken : Uuid) (reading : Option Nat)
  | adopted (sessionId : SessionId) (generation : SessionGeneration)
  | internal (reading : Option Nat)

/-- The clock reading of the step. -/
def ReleaseEvent.reading : ReleaseEvent → Option Nat
  | .journaled _ _ reading | .claimed _ _ reading | .judged _ _ _ _ reading
  | .consumed _ _ _ reading | .cancelled _ _ reading => reading
  | .adopted _ _ => none
  | .internal reading => reading

/-- What the surroundings contribute to one step of an attempt: the clock reading, whether SQLite
fails, and the results of the caller's callbacks. -/
structure Surroundings (E : Type) where
  reading : Option Nat
  storeFails : Bool
  preflight : Except E Unit
  cas : CasPublication E

/-- A transaction that SQLite may fail. -/
def Surroundings.transact {α : Type} (surroundings : Surroundings E)
    (transaction : Except SessionReleaseError α) : Except SessionReleaseError α :=
  if surroundings.storeFails then .error .store else transaction

/-- One request of an attempt: its answer, the journal after it and what it did. The daemon is
called only where the fence lets the release out, within the fence's transaction. -/
def ReleaseSystem.serve (system : ReleaseSystem E) (surroundings : Surroundings E) :
    (request : ReleaseRequest) → ReleaseAnswer E request × ReleaseJournal × ReleaseEvent
  | .renewLease operationId leaseToken =>
    match surroundings.transact
      (system.journal.renewLease operationId leaseToken surroundings.reading) with
    | .ok (untilMs, journal) => (.ok untilMs, journal, .internal surroundings.reading)
    | .error error => (.error error, system.journal, .internal surroundings.reading)
  | .releaseLease operationId leaseToken =>
    match surroundings.transact
      (system.journal.releaseLease operationId leaseToken surroundings.reading) with
    | .ok journal => (.ok (), journal, .internal surroundings.reading)
    | .error error => (.error error, system.journal, .internal surroundings.reading)
  | .checkLease operationId leaseToken =>
    (surroundings.transact
      (system.journal.checkLease operationId leaseToken surroundings.reading),
      system.journal, .internal surroundings.reading)
  | .listTargets operationId =>
    (surroundings.transact (system.journal.listTargets operationId), system.journal, .internal none)
  | .preflight _ => (surroundings.preflight, system.journal, .internal none)
  | .fenceOne operationId leaseToken target =>
    match surroundings.transact (fenceAdmits system.journal system.tables operationId leaseToken
      target surroundings.reading) with
    | .error error => (.error error, system.journal, .internal surroundings.reading)
    | .ok false => (.ok .retained, system.journal,
        .judged operationId leaseToken target .retained surroundings.reading)
    | .ok true => (.ok (.cas surroundings.cas), system.journal,
        .judged operationId leaseToken target (FencedDecision.cas surroundings.cas).verdict
          surroundings.reading)
  | .consumeTarget operationId leaseToken target =>
    match surroundings.transact
      (system.journal.consumeTarget operationId leaseToken target surroundings.reading) with
    | .ok journal => (.ok (), journal, .consumed operationId leaseToken target surroundings.reading)
    | .error error => (.error error, system.journal, .internal surroundings.reading)

/-- What a finished attempt leaves its thread with. -/
def ReleaseOperationOutcome.capability : ReleaseOperationOutcome E → ReleaseThread E
  | .unpublishedFailure compensation _ _ _ => .compensation compensation
  | _ => .ended

variable (system : ReleaseSystem E) in
/-- One step of the system. -/
inductive ReleaseStep : ReleaseEvent → ReleaseSystem E → Prop
  /-- A destructive transaction commits: it changes the owner tables and journals its targets. -/
  | destroyed {targets : List SessionReleaseTarget}
      {createdAtMs : Nat} {reading : Option Nat} {operationId leaseToken : Uuid}
      {receipt : PendingReleaseReceipt} {journal : ReleaseJournal} (tables : OwnerTables) :
      system.journal.insertPendingReleases targets createdAtMs reading operationId leaseToken =
        .ok (some receipt, journal) →
      ReleaseStep (.journaled operationId leaseToken reading)
        ⟨journal, tables, system.threads ++ [.receipt receipt]⟩
  /-- Stable orphans are journaled. -/
  | recovered {targets : List SessionReleaseTarget}
      {createdAtMs : Nat} {reading : Option Nat} {operationId leaseToken : Uuid}
      {receipt : PendingReleaseReceipt} {journal : ReleaseJournal} :
      system.journal.enqueueRecovered targets createdAtMs reading operationId leaseToken =
        .ok (some receipt, journal) →
      ReleaseStep (.journaled operationId leaseToken reading)
        ⟨journal, system.tables, system.threads ++ [.receipt receipt]⟩
  /-- Any other transaction changes the owner tables. -/
  | edited (tables : OwnerTables) :
      ReleaseStep (.internal none) ⟨system.journal, tables, system.threads⟩
  /-- A transaction or a read of any thread fails or finds nothing to do. -/
  | refused (reading : Option Nat) : ReleaseStep (.internal reading) system
  /-- A drainer claims the oldest claimable operation. -/
  | claimed {reading : Option Nat} {leaseToken : Uuid}
      {claim : ForwardReleaseClaim} {journal : ReleaseJournal} :
      system.journal.claimNext reading leaseToken = .ok (some claim, journal) →
      ReleaseStep (.claimed claim.operationId leaseToken reading)
        ⟨journal, system.tables, system.threads ++ [.claim claim]⟩
  /-- `renew_claim`. -/
  | renewedClaim {index : Nat} {claim : ForwardReleaseClaim}
      {reading : Option Nat} {untilMs : Nat} {journal : ReleaseJournal} :
      system.threads[index]? = some (.claim claim) →
      system.journal.renewLease claim.operationId claim.leaseToken reading =
        .ok (untilMs, journal) →
      ReleaseStep (.internal reading) ⟨journal, system.tables,
          system.threads.set index (.claim { claim with leaseUntilMs := untilMs })⟩
  /-- `retry_claim`. -/
  | retriedClaim {index : Nat} {claim : ForwardReleaseClaim}
      {reading : Option Nat} {journal : ReleaseJournal} :
      system.threads[index]? = some (.claim claim) →
      system.journal.releaseLease claim.operationId claim.leaseToken reading = .ok journal →
      ReleaseStep (.internal reading) ⟨journal, system.tables, system.threads.set index .ended⟩
  /-- `release_unpublished_for_retry`. -/
  | surrendered {index : Nat} {compensation : UnpublishedCompensationReceipt} {reading : Option Nat}
      {journal : ReleaseJournal} :
      system.threads[index]? = some (.compensation compensation) →
      system.journal.releaseLease compensation.operationId compensation.leaseToken reading =
        .ok journal →
      ReleaseStep (.internal reading) ⟨journal, system.tables, system.threads.set index .ended⟩
  /-- `attempt_owned` takes the receipt. -/
  | beganOwned {index : Nat} {receipt : PendingReleaseReceipt} :
      system.threads[index]? = some (.receipt receipt) →
      ReleaseStep (.internal none) ⟨system.journal, system.tables, system.threads.set index
          (.attempt .owned receipt.operationId receipt.leaseToken (attemptOwned receipt))⟩
  /-- `attempt_claimed` takes the claim. -/
  | beganClaimed {index : Nat} {claim : ForwardReleaseClaim} :
      system.threads[index]? = some (.claim claim) →
      ReleaseStep (.internal none) ⟨system.journal, system.tables, system.threads.set index
          (.attempt .claimed claim.operationId claim.leaseToken (attemptClaimed claim))⟩
  /-- An attempt makes its next request. -/
  | served {index : Nat} {kind : AttemptKind}
      {operationId leaseToken : Uuid} {request : ReleaseRequest}
      {next : ReleaseAnswer E request → ReleaseProgram E} {given : ReleaseAnswer E request}
      {journal : ReleaseJournal} {event : ReleaseEvent} (surroundings : Surroundings E) :
      system.threads[index]? = some (.attempt kind operationId leaseToken (.ask request next)) →
      system.serve surroundings request = (given, journal, event) →
      ReleaseStep event ⟨journal, system.tables,
          system.threads.set index (.attempt kind operationId leaseToken (next given))⟩
  /-- A process dies while it waits for the daemon: the release is out, its result unknown. -/
  | diedInFence {index : Nat} {kind : AttemptKind}
      {operationId leaseToken operation token : Uuid} {target : SessionReleaseTarget}
      {next : ReleaseAnswer E (.fenceOne operation token target) → ReleaseProgram E}
      {reading : Option Nat} :
      system.threads[index]? = some (.attempt kind operationId leaseToken
        (.ask (.fenceOne operation token target) next)) →
      fenceAdmits system.journal system.tables operation token target reading = .ok true →
      ReleaseStep (.judged operation token target .possiblyPublished reading)
        ⟨system.journal, system.tables, system.threads.set index .ended⟩
  /-- An attempt returns. -/
  | finished {index : Nat} {kind : AttemptKind}
      {operationId leaseToken : Uuid} {outcome : ReleaseOperationOutcome E} :
      system.threads[index]? = some (.attempt kind operationId leaseToken (.done outcome)) →
      ReleaseStep (.internal none)
        ⟨system.journal, system.tables, system.threads.set index outcome.capability⟩
  /-- A compensation transaction cancels the operation and restores the owner rows. It only
  borrows the right, so the thread keeps it. -/
  | cancelled {index : Nat} {compensation : UnpublishedCompensationReceipt} {reading : Option Nat}
      {journal : ReleaseJournal} (tables : OwnerTables) :
      system.threads[index]? = some (.compensation compensation) →
      system.journal.cancelOperation compensation reading = .ok (true, journal) →
      ReleaseStep (.cancelled compensation.operationId compensation.leaseToken reading)
        ⟨journal, tables, system.threads⟩
  /-- A thread dies, or drops what it holds. -/
  | crashed (index : Nat) : ReleaseStep (.internal none)
        ⟨system.journal, system.tables, system.threads.set index .ended⟩
  /-- A session attach adopts a lifetime again. -/
  | adopted {sessionId : SessionId} {generation : SessionGeneration}
      {writtenAtMs : Nat} {journal : ReleaseJournal} (tables : OwnerTables) :
      system.journal.adoptLifetime sessionId generation writtenAtMs = .ok journal →
      ReleaseStep (.adopted sessionId generation) ⟨journal, tables, system.threads⟩

/-- A database whose journal was just created, and no threads. -/
def ReleaseSystem.initial (tables : OwnerTables) : ReleaseSystem E := ⟨⟨[], []⟩, tables, []⟩

/-- The UUIDs a step draws. -/
def ReleaseEvent.draws : ReleaseEvent → List Uuid
  | .journaled operationId leaseToken _ => [operationId, leaseToken]
  | .claimed _ leaseToken _ => [leaseToken]
  | _ => []

end HydraTerm.Shell
