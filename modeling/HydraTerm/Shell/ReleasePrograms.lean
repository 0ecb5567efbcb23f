import HydraTerm.Lib.Programs
import HydraTerm.Shell.ReleaseJournal

/-!
# The attempts to drain a journaled operation

An attempt is a program over the transactions of the journal: between two of them the lease may
expire, be taken over by another process, or the operation may be cancelled. The owned attempt
follows the transaction that journaled the operation and is the only one that can return the right
to undo it; the claimed attempt works on an operation whose lease was taken over.

The daemon's verdict on a release and the failure of a preflight are whatever the caller's callbacks
return. `E` is the error type of those callbacks.
-/

namespace HydraTerm.Shell

open Lib (Program Protocol)

variable {E : Type}

/-! ## Outcomes -/

/-- `CasPublication`: what is known about one conditional release. -/
inductive CasPublication (E : Type)
  | confirmed
  | notPublished (error : E)
  | possiblyPublished (error : E)
  deriving DecidableEq

/-- `FencedDecision`. -/
inductive FencedDecision (E : Type)
  | retained
  | cas (publication : CasPublication E)

/-- `ReleaseFailure`. -/
inductive ReleaseFailure (E : Type)
  | cas (error : E)
  | journal (error : SessionReleaseError)

/-- The counters of an attempt. -/
structure ReleaseCounts where
  confirmed : Nat
  retained : Nat
  possiblyPublished : Nat
  pending : Nat

/-- `ReleaseOperationOutcome`. -/
inductive ReleaseOperationOutcome (E : Type)
  | complete (confirmed retained : Nat)
  | unpublishedFailure (compensation : UnpublishedCompensationReceipt) (retained pending : Nat)
      (error : ReleaseFailure E)
  | forwardOnly (counts : ReleaseCounts) (error : Option (ReleaseFailure E))

/-! ## Requests -/

/-- The transactions, reads and callbacks of an attempt. -/
inductive ReleaseRequest
  | renewLease (operationId leaseToken : Uuid)
  | releaseLease (operationId leaseToken : Uuid)
  | checkLease (operationId leaseToken : Uuid)
  | listTargets (operationId : Uuid)
  | preflight (targets : List SessionReleaseTarget)
  | fenceOne (operationId leaseToken : Uuid) (target : SessionReleaseTarget)
  | consumeTarget (operationId leaseToken : Uuid) (target : SessionReleaseTarget)

/-- What each of them returns. -/
def ReleaseAnswer (E : Type) : ReleaseRequest → Type
  | .renewLease .. => Except SessionReleaseError Nat
  | .releaseLease .. | .checkLease .. => Except SessionReleaseError Unit
  | .listTargets _ => Except SessionReleaseError (List SessionReleaseTarget)
  | .preflight _ => Except E Unit
  | .fenceOne .. => Except SessionReleaseError (FencedDecision E)
  | .consumeTarget .. => Except SessionReleaseError Unit

/-- An attempt, or the rest of one. -/
abbrev ReleaseProgram (E : Type) :=
  Program ReleaseRequest (ReleaseAnswer E) (ReleaseOperationOutcome E)

/-! ## The programs -/

section

variable (operationId leaseToken : Uuid)

/-- Give the lease back if it is still held, whatever comes of it, and leave the operation to a
later attempt. -/
def forwardOnly (counts : ReleaseCounts)
    (error : ReleaseFailure E) : ReleaseProgram E :=
  .ask (.releaseLease operationId leaseToken) fun _ => .done (.forwardOnly counts (some error))

/-- `list_for_lease`: the two reads, with what follows them. -/
def listForLease
    (next : Except SessionReleaseError (List SessionReleaseTarget) → ReleaseProgram E) :
    ReleaseProgram E :=
  .ask (.checkLease operationId leaseToken) fun
    | .error error => next (.error error)
    | .ok () => .ask (.listTargets operationId) next

/-- `unpublished_failure`, which the failed preflight and the first unpublished release repeat:
only a lease that can be renewed gives the right to compensate. -/
def unpublishedFailure (counts : ReleaseCounts)
    (error : ReleaseFailure E) : ReleaseProgram E :=
  .ask (.renewLease operationId leaseToken) fun
    | .error renewError => forwardOnly operationId leaseToken counts (.journal renewError)
    | .ok untilMs =>
      .done (.unpublishedFailure ⟨operationId, leaseToken, untilMs⟩ counts.retained counts.pending
        error)

/-- `consume_target`, with the counters of a failure and what follows a success. -/
def consumeThen (target : SessionReleaseTarget)
    (counts : ReleaseCounts) (next : ReleaseProgram E) : ReleaseProgram E :=
  .ask (.consumeTarget operationId leaseToken target) fun
    | .error error => forwardOnly operationId leaseToken counts (.journal error)
    | .ok () => next

/-- Nothing was confirmed, retained or possibly published. -/
def ReleaseCounts.untouched (counts : ReleaseCounts) : Bool :=
  counts.confirmed = 0 && counts.possiblyPublished = 0 && counts.retained = 0

/-- The loop of `attempt_owned` over the targets. -/
def attemptOwnedTargets (counts : ReleaseCounts) :
    List SessionReleaseTarget → ReleaseProgram E
  | [] => .done (.complete counts.confirmed counts.retained)
  | target :: rest =>
    .ask (.renewLease operationId leaseToken) fun
    | .error error => forwardOnly operationId leaseToken counts (.journal error)
    | .ok _ => .ask (.fenceOne operationId leaseToken target) fun
      | .error error =>
        if counts.untouched then unpublishedFailure operationId leaseToken counts (.journal error)
        else forwardOnly operationId leaseToken counts (.journal error)
      | .ok .retained =>
        let counts := { counts with retained := counts.retained + 1 }
        consumeThen operationId leaseToken target counts
          (attemptOwnedTargets { counts with pending := counts.pending - 1 } rest)
      | .ok (.cas .confirmed) =>
        let counts := { counts with confirmed := counts.confirmed + 1 }
        consumeThen operationId leaseToken target counts
          (attemptOwnedTargets { counts with pending := counts.pending - 1 } rest)
      | .ok (.cas (.notPublished error)) =>
        if counts.untouched then unpublishedFailure operationId leaseToken counts (.cas error)
        else forwardOnly operationId leaseToken counts (.cas error)
      | .ok (.cas (.possiblyPublished error)) =>
        forwardOnly operationId leaseToken
          { counts with possiblyPublished := counts.possiblyPublished + 1 } (.cas error)

/-- The loop of `attempt_claimed` over the targets. It counts a retained target only once its row is
gone, and every release that is not confirmed ends it. -/
def attemptClaimedTargets (counts : ReleaseCounts) :
    List SessionReleaseTarget → ReleaseProgram E
  | [] => .done (.complete counts.confirmed counts.retained)
  | target :: rest =>
    .ask (.renewLease operationId leaseToken) fun
    | .error error => forwardOnly operationId leaseToken counts (.journal error)
    | .ok _ => .ask (.fenceOne operationId leaseToken target) fun
      | .error error => forwardOnly operationId leaseToken counts (.journal error)
      | .ok .retained =>
        consumeThen operationId leaseToken target counts
          (attemptClaimedTargets
            { counts with retained := counts.retained + 1, pending := counts.pending - 1 } rest)
      | .ok (.cas .confirmed) =>
        let counts := { counts with confirmed := counts.confirmed + 1 }
        consumeThen operationId leaseToken target counts
          (attemptClaimedTargets { counts with pending := counts.pending - 1 } rest)
      | .ok (.cas (.notPublished error)) =>
        forwardOnly operationId leaseToken counts (.cas error)
      | .ok (.cas (.possiblyPublished error)) =>
        forwardOnly operationId leaseToken
          { counts with possiblyPublished := counts.possiblyPublished + 1 } (.cas error)

end

/-- `attempt_owned`. -/
def attemptOwned (receipt : PendingReleaseReceipt) : ReleaseProgram E :=
  let counts : ReleaseCounts := ⟨0, 0, 0, receipt.targetCount⟩
  .ask (.renewLease receipt.operationId receipt.leaseToken) fun
  | .error error => forwardOnly receipt.operationId receipt.leaseToken counts (.journal error)
  | .ok _ => listForLease receipt.operationId receipt.leaseToken fun
    | .error error =>
      unpublishedFailure receipt.operationId receipt.leaseToken counts (.journal error)
    | .ok targets =>
      let counts := { counts with pending := targets.length }
      .ask (.preflight targets) fun
      | .error error => unpublishedFailure receipt.operationId receipt.leaseToken counts (.cas error)
      | .ok () => attemptOwnedTargets receipt.operationId receipt.leaseToken counts targets

/-- `attempt_claimed`. -/
def attemptClaimed (claim : ForwardReleaseClaim) : ReleaseProgram E :=
  let counts : ReleaseCounts := ⟨0, 0, 0, claim.targetCount⟩
  listForLease claim.operationId claim.leaseToken fun
  | .error error => forwardOnly claim.operationId claim.leaseToken counts (.journal error)
  | .ok targets =>
    let counts := { counts with pending := targets.length }
    .ask (.preflight targets) fun
    | .error error => forwardOnly claim.operationId claim.leaseToken counts (.cas error)
    | .ok () => attemptClaimedTargets claim.operationId claim.leaseToken counts targets

/-! ## What an attempt may do with its authority -/

/-- What one passage of the fence said about a target. -/
inductive ReleaseVerdict
  | retained
  | confirmed
  | notPublished
  | possiblyPublished
  deriving DecidableEq

/-- The verdict of a decision. -/
def FencedDecision.verdict : FencedDecision E → ReleaseVerdict
  | .retained => .retained
  | .cas .confirmed => .confirmed
  | .cas (.notPublished _) => .notPublished
  | .cas (.possiblyPublished _) => .possiblyPublished

/-- The two kinds of attempt. -/
inductive AttemptKind
  | owned
  | claimed

/-- Where an attempt stands: whether a verdict touched the operation, and the last target that was
confirmed or retained. -/
structure AttemptPoint where
  touched : Bool
  settled : Option SessionReleaseTarget

/-- The point after a verdict. -/
def AttemptPoint.judged (point : AttemptPoint) (target : SessionReleaseTarget) :
    ReleaseVerdict → AttemptPoint
  | .retained | .confirmed => ⟨true, some target⟩
  | .notPublished => point
  | .possiblyPublished => ⟨true, point.settled⟩

/-- An attempt acts under its own token only, and consumes only the target it settled last. -/
def authority (operationId leaseToken : Uuid) :
    Protocol ReleaseRequest (ReleaseAnswer E) AttemptPoint where
  allowed point
    | .renewLease operation token | .releaseLease operation token
    | .checkLease operation token => operation = operationId ∧ token = leaseToken
    | .listTargets operation => operation = operationId
    | .preflight _ => True
    | .fenceOne operation token _ => operation = operationId ∧ token = leaseToken
    | .consumeTarget operation token target =>
      operation = operationId ∧ token = leaseToken ∧ point.settled = some target
  after point
    | .fenceOne _ _ target, (.ok decision : Except SessionReleaseError (FencedDecision E)) =>
      point.judged target decision.verdict
    | _, _ => point

/-- Only an owned attempt that touched nothing returns the right to compensate, for its own
operation and token. -/
def Entitled (kind : AttemptKind) (operationId leaseToken : Uuid) (point : AttemptPoint) :
    ReleaseOperationOutcome E → Prop
  | .unpublishedFailure compensation _ _ _ =>
    kind = .owned ∧ compensation.operationId = operationId ∧
      compensation.leaseToken = leaseToken ∧ point.touched = false
  | _ => True

/-- From this point on the program uses the authority of its operation and token only. -/
abbrev Authorised (kind : AttemptKind) (operationId leaseToken : Uuid) (point : AttemptPoint)
    (program : ReleaseProgram E) : Prop :=
  program.Follows (authority operationId leaseToken) (Entitled kind operationId leaseToken) point

section
variable {kind : AttemptKind} {operationId leaseToken : Uuid} {point : AttemptPoint}
  {counts : ReleaseCounts} {error : ReleaseFailure E} (targets : List SessionReleaseTarget)

/-- Giving up follows the protocol anywhere. -/
theorem forwardOnly_follows :
    Authorised kind operationId leaseToken point (forwardOnly operationId leaseToken counts error) :=
  .ask ⟨rfl, rfl⟩ fun _ => .done trivial

/-- An owned attempt that touched nothing may ask for the right to compensate. -/
theorem unpublishedFailure_follows (untouched : point.touched = false) :
    Authorised .owned operationId leaseToken point
      (unpublishedFailure operationId leaseToken counts error) :=
  .ask ⟨rfl, rfl⟩ fun
    | .error _ => forwardOnly_follows
    | .ok _ => .done ⟨rfl, rfl, rfl, untouched⟩

/-- A settled target may be consumed. -/
theorem consumeThen_follows {target : SessionReleaseTarget} {next : ReleaseProgram E}
    (settled : point.settled = some target)
    (later : Authorised kind operationId leaseToken point next) :
    Authorised kind operationId leaseToken point
      (consumeThen operationId leaseToken target counts next) :=
  .ask ⟨rfl, rfl, settled⟩ fun
    | .error _ => forwardOnly_follows
    | .ok _ => later

/-- Listing follows the protocol when what comes after it does. -/
theorem listForLease_follows
    {next : Except SessionReleaseError (List SessionReleaseTarget) → ReleaseProgram E}
    (later : ∀ listed, Authorised kind operationId leaseToken point (next listed)) :
    Authorised kind operationId leaseToken point (listForLease operationId leaseToken next) :=
  .ask ⟨rfl, rfl⟩ fun
    | .error _ => later _
    | .ok _ => .ask rfl later

/-- The counters of an owned attempt show whether a verdict touched the operation. -/
def ReleaseCounts.Shows (counts : ReleaseCounts) (point : AttemptPoint) : Prop :=
  counts.untouched = true → point.touched = false

/-- The owned loop follows the protocol while its counters show what was touched. -/
theorem attemptOwnedTargets_follows (counts : ReleaseCounts) (shows : counts.Shows point) :
    Authorised .owned operationId leaseToken point
      (attemptOwnedTargets (E := E) operationId leaseToken counts targets) := by
  induction targets generalizing counts point with
  | nil => exact .done trivial
  | cons _ _ ih =>
    have failed (error : ReleaseFailure E) : Authorised .owned operationId leaseToken point
        (if counts.untouched then unpublishedFailure operationId leaseToken counts error
          else forwardOnly operationId leaseToken counts error) := by
      split
      next untouched => exact unpublishedFailure_follows (shows untouched)
      next => exact forwardOnly_follows
    refine .ask ⟨rfl, rfl⟩ fun
      | .error _ => forwardOnly_follows
      | .ok _ => .ask ⟨rfl, rfl⟩ fun decided => ?_
    rcases decided with error | ⟨_ | ⟨_ | error | error⟩⟩
    · exact failed _
    -- A settled target raises a counter, so the rest of the loop starts from touched counters.
    · refine consumeThen_follows rfl (ih _ fun untouched => ?_)
      simp [ReleaseCounts.untouched] at untouched
    · refine consumeThen_follows rfl (ih _ fun untouched => ?_)
      simp [ReleaseCounts.untouched] at untouched
    · exact failed _
    · exact forwardOnly_follows

/-- The claimed loop follows the protocol, and never returns the right to compensate. -/
theorem attemptClaimedTargets_follows (counts : ReleaseCounts) :
    Authorised .claimed operationId leaseToken point
      (attemptClaimedTargets (E := E) operationId leaseToken counts targets) := by
  induction targets generalizing counts point with
  | nil => exact .done trivial
  | cons _ _ ih =>
    refine .ask ⟨rfl, rfl⟩ fun
      | .error _ => forwardOnly_follows
      | .ok _ => .ask ⟨rfl, rfl⟩ fun decided => ?_
    rcases decided with error | ⟨_ | ⟨_ | error | error⟩⟩
    · exact forwardOnly_follows
    · exact consumeThen_follows rfl (ih _)
    · exact consumeThen_follows rfl (ih _)
    · exact forwardOnly_follows
    · exact forwardOnly_follows

end

/-- The point at which an attempt starts. -/
def AttemptPoint.start : AttemptPoint := ⟨false, none⟩

/-- An owned attempt uses the authority of its receipt only. -/
theorem attemptOwned_follows (receipt : PendingReleaseReceipt) :
    Authorised .owned receipt.operationId receipt.leaseToken .start
      (attemptOwned (E := E) receipt) := by
  refine .ask ⟨rfl, rfl⟩ fun
    | .error _ => forwardOnly_follows
    | .ok _ => listForLease_follows fun
      | .error _ => unpublishedFailure_follows rfl
      | .ok targets => .ask trivial fun
        | .error _ => unpublishedFailure_follows rfl
        | .ok _ => ?_
  exact attemptOwnedTargets_follows _ _ fun _ => rfl

/-- A claimed attempt uses the authority of its claim only. -/
theorem attemptClaimed_follows (claim : ForwardReleaseClaim) :
    Authorised .claimed claim.operationId claim.leaseToken .start
      (attemptClaimed (E := E) claim) := by
  rw [attemptClaimed]
  refine listForLease_follows fun
    | .error _ => forwardOnly_follows
    | .ok _ => .ask trivial fun
      | .error _ => forwardOnly_follows
      | .ok _ => ?_
  exact attemptClaimedTargets_follows _ _

end HydraTerm.Shell
