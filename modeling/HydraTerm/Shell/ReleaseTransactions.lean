import HydraTerm.Lib.Extremes
import HydraTerm.Shell.ReleaseJournal

/-!
# What each journal transaction does

One specification for each transaction of the release journal. Apart from the two that draw a new
token, no transaction adds an operation or makes a token the owner of one: `Descends`.
-/

namespace HydraTerm.Shell

open Grid List

/-! ## Clock readings -/

/-- A checked time is the time itself. -/
theorem checkedMs_ok {value checked : Nat} (ok : checkedMs value = .ok checked) :
    checked = value := by
  unfold checkedMs at ok
  split at ok
  · exact (Except.ok.inj ok).symm
  · cases ok

variable {reading : Option Nat} {now : Nat} {row : ReleaseOperation}
  {operationId token leaseToken : Uuid} {target : SessionReleaseTarget} {tables : OwnerTables}

/-- A transaction that goes on has read its clock. -/
theorem nowMs_ok (ok : nowMs reading = .ok now) : reading = some now := by
  rw [nowMs, Lib.bind_ok_iff] at ok
  obtain ⟨_, isMillis, isNow⟩ := ok
  rw [checkedMs_ok isNow]
  cases reading with
  | none => cases isMillis
  | some =>
    simp only [clockMs] at isMillis
    split at isMillis
    · rw [Except.ok.inj isMillis]
    · cases isMillis

/-- A transaction that sets a lease has read its clock. -/
theorem nowAndUntil_ok {untilMs : Nat} (ok : nowAndUntil reading = .ok (now, untilMs)) :
    reading = some now := by
  simp only [nowAndUntil, Lib.bind_ok_iff] at ok
  obtain ⟨_, isRead, _, -, _, -, isPair⟩ := ok
  cases isPair
  exact nowMs_ok isRead

/-! ## Owners of operations -/

namespace ReleaseJournal

variable (journal : ReleaseJournal)

/-- The operation is in the journal. -/
def Listed (operationId : Uuid) : Prop :=
  ∃ row ∈ journal.operations, row.operationId = operationId

/-- The token owns the operation, expired or not. -/
def Held (operationId token : Uuid) : Prop :=
  ∃ row ∈ journal.operations, row.heldBy operationId token = true

/-- The token owns the operation and has not expired. -/
def Leased (operationId token : Uuid) (now : Nat) : Prop :=
  ∃ row ∈ journal.operations, row.currentFor operationId token now = true

/-- The primary key of the operations. -/
def Keyed : Prop :=
  (journal.operations.map (·.operationId)).Nodup

/-- The operation can be claimed at the time. -/
def Claimable (operationId : Uuid) (now : Nat) : Prop :=
  ∃ row ∈ journal.claimable now, row.operationId = operationId

end ReleaseJournal

/-- An unexpired lease is a lease. -/
theorem ReleaseOperation.heldBy_of_currentFor
    (current : row.currentFor operationId token now = true) :
    row.heldBy operationId token = true := by
  simp only [ReleaseOperation.currentFor, ReleaseOperation.heldBy, Bool.and_eq_true,
    decide_eq_true_eq, Option.any_eq_true] at current ⊢
  obtain ⟨same, lease, isLease, sameToken, -⟩ := current
  exact ⟨same, lease, isLease, sameToken⟩

/-- The lease of a row has one token. -/
theorem ReleaseOperation.heldBy_iff :
    row.heldBy operationId token = true ↔
      row.operationId = operationId ∧ ∃ lease, row.lease = some lease ∧ lease.token = token := by
  simp [ReleaseOperation.heldBy, Bool.and_eq_true, decide_eq_true_eq, Option.any_eq_true]

/-- A row that is claimable has no current lease. -/
theorem ReleaseOperation.not_currentFor (free : row.unleased now = true) :
    ¬ row.currentFor operationId token now = true := by
  intro current
  simp only [ReleaseOperation.currentFor, Bool.and_eq_true, decide_eq_true_eq,
    Option.any_eq_true] at current
  obtain ⟨-, _, isLease, -, _⟩ := current
  simp [ReleaseOperation.unleased, isLease] at free
  omega

/-- A row with a current lease is the one of its operation. -/
theorem ReleaseOperation.operationId_of_currentFor
    (current : row.currentFor operationId token now = true) : row.operationId = operationId :=
  (ReleaseOperation.heldBy_iff.mp (ReleaseOperation.heldBy_of_currentFor current)).1

namespace ReleaseJournal

variable {before after middle journal : ReleaseJournal} {matching : ReleaseOperation → Bool}
  {claim : ForwardReleaseClaim} {set : ReleaseOperation → ReleaseOperation}
  {compensation : UnpublishedCompensationReceipt}

theorem Leased.held (leased : journal.Leased operationId token now) :
    journal.Held operationId token := by
  obtain ⟨row, listed, current⟩ := leased
  exact ⟨row, listed, ReleaseOperation.heldBy_of_currentFor current⟩

theorem Held.listed (held : journal.Held operationId token) : journal.Listed operationId := by
  obtain ⟨row, listed, isHeld⟩ := held
  exact ⟨row, listed, (ReleaseOperation.heldBy_iff.mp isHeld).1⟩

/-- An operation has one row. -/
theorem Keyed.unique (keyed : before.Keyed) {one other : ReleaseOperation}
    (oneListed : one ∈ before.operations) (otherListed : other ∈ before.operations)
    (same : one.operationId = other.operationId) : one = other :=
  inj_on_of_nodup_map keyed oneListed otherListed same

/-- An operation has one owner. -/
theorem Keyed.token_unique (keyed : before.Keyed) {other : Uuid}
    (held : before.Held operationId token) (alsoHeld : before.Held operationId other) :
    token = other := by
  obtain ⟨_, listed, isHeld⟩ := held
  obtain ⟨_, otherListed, isOther⟩ := alsoHeld
  obtain ⟨sameId, lease, isLease, sameToken⟩ := ReleaseOperation.heldBy_iff.mp isHeld
  obtain ⟨otherId, otherLease, isOtherLease, otherToken⟩ := ReleaseOperation.heldBy_iff.mp isOther
  obtain rfl := keyed.unique listed otherListed (sameId.trans otherId.symm)
  obtain rfl : lease = otherLease := Option.some.inj (isLease.symm.trans isOtherLease)
  exact sameToken.symm.trans otherToken

/-- No operation and no owner of one is new. -/
structure Descends (before after : ReleaseJournal) : Prop where
  keyed : before.Keyed → after.Keyed
  listed : ∀ {operationId}, after.Listed operationId → before.Listed operationId
  held : ∀ {operationId token}, after.Held operationId token → before.Held operationId token

theorem Descends.refl (journal : ReleaseJournal) : journal.Descends journal :=
  ⟨id, id, id⟩

theorem Descends.trans (left : before.Descends middle) (right : middle.Descends after) :
    before.Descends after :=
  ⟨fun keyed => right.keyed (left.keyed keyed), fun isListed => left.listed (right.listed isListed),
    fun isHeld => left.held (right.held isHeld)⟩

/-- Changes to the pending rows keep the owners. -/
theorem withPending_descends (pending : List PendingRelease) :
    before.Descends { before with pending } :=
  ⟨id, id, id⟩

/-- An update that keeps the ids lists the same operations. -/
theorem update_listed (keepsId : ∀ row, (set row).operationId = row.operationId) :
    ((before.update matching set).Keyed ↔ before.Keyed) ∧
      ∀ {operationId}, (before.update matching set).Listed operationId ↔
        before.Listed operationId := by
  have same : (before.update matching set).operations.map (·.operationId) =
      before.operations.map (·.operationId) := by
    simp only [update, map_map]
    refine map_congr_left fun row _ => ?_
    simp only [Function.comp_apply]
    split
    · exact keepsId row
    · rfl
  refine ⟨by rw [Keyed, same, Keyed], ?_⟩
  simp [Listed, ← mem_map, same]

/-- An update that keeps the ids and gives no operation to another token. -/
theorem update_descends (keepsId : ∀ row, (set row).operationId = row.operationId)
    (keepsOwner : ∀ row operationId token, matching row = true →
      (set row).heldBy operationId token = true → row.heldBy operationId token = true) :
    before.Descends (before.update matching set) := by
  refine ⟨(update_listed keepsId).1.mpr, (update_listed keepsId).2.mp, ?_⟩
  rintro operationId token ⟨row, listed, isHeld⟩
  obtain ⟨old, oldListed, rfl⟩ := mem_map.mp listed
  refine ⟨old, oldListed, ?_⟩
  by_cases isMatch : matching old = true
  · rw [if_pos isMatch] at isHeld
    exact keepsOwner old operationId token isMatch isHeld
  · rwa [if_neg isMatch] at isHeld

/-- A deletion leaves no new operation. -/
theorem delete_descends (matching : ReleaseOperation → Bool) :
    before.Descends (before.delete matching) := by
  refine ⟨fun keyed => ?_, ?_, ?_⟩
  · exact keyed.sublist (filter_sublist.map _)
  · rintro operationId ⟨row, listed, isRow⟩
    exact ⟨row, mem_of_mem_filter listed, isRow⟩
  · rintro operationId token ⟨row, listed, isHeld⟩
    exact ⟨row, mem_of_mem_filter listed, isHeld⟩

/-- A pending row goes with its operation only. -/
theorem mem_pending_delete {row : PendingRelease} (listed : row ∈ before.pending)
    (stays : ∀ operation ∈ before.operations, matching operation = true →
      operation.operationId ≠ row.operationId) : row ∈ (before.delete matching).pending := by
  refine mem_filter.mpr ⟨listed, ?_⟩
  simpa using stays

/-! ## The transactions -/

/-- A rotated operation comes after every other and after the clock. -/
theorem rotatedAt_ok {rotated : Nat} (ok : before.rotatedAt now = .ok rotated) :
    ∀ row ∈ before.operations, row.createdAtMs < rotated := by
  intro row listed
  rw [checkedMs_ok ok, Nat.lt_succ_iff]
  exact Lib.le_foldl_max.2 row listed

section

variable {untilMs : Nat}
  (ok : before.renewLease operationId leaseToken reading = .ok (untilMs, after))
include ok

/-- What a successful renewal does. -/
theorem renewLease_ok :
    ∃ now, reading = some now ∧
      after = before.update (·.currentFor operationId leaseToken now) fun row =>
        { row with lease := some ⟨leaseToken, untilMs⟩ } := by
  rw [renewLease, Lib.bind_ok_iff] at ok
  obtain ⟨⟨now, _⟩, isNow, ok⟩ := ok
  dsimp only at ok
  split at ok
  · split at ok <;> cases ok
  · cases ok
    exact ⟨now, nowAndUntil_ok isNow, rfl⟩

/-- A renewal gives nothing to another token. -/
theorem renewLease_descends : before.Descends after := by
  obtain ⟨_, -, rfl⟩ := renewLease_ok ok
  refine update_descends (fun _ => rfl) fun row other token current isHeld => ?_
  obtain ⟨sameId, _, isLease, rfl⟩ := ReleaseOperation.heldBy_iff.mp isHeld
  cases isLease
  have held := ReleaseOperation.heldBy_of_currentFor current
  obtain ⟨isOperation, -⟩ := ReleaseOperation.heldBy_iff.mp held
  rwa [← isOperation.symm.trans sameId]

end

/-- What a successful release of the lease does. -/
theorem releaseLease_ok (ok : before.releaseLease operationId leaseToken reading = .ok after) :
    ∃ now rotated, reading = some now ∧ before.rotatedAt now = .ok rotated ∧
      after = before.update (·.currentFor operationId leaseToken now) fun row =>
        { row with lease := none, createdAtMs := rotated } := by
  simp only [releaseLease, Lib.bind_ok_iff, Lib.check_ok_iff] at ok
  obtain ⟨now, isNow, rotated, isRotated, -, isAfter⟩ := ok
  exact ⟨now, rotated, nowMs_ok isNow, isRotated, (Except.ok.inj isAfter).symm⟩

/-- An operation without a lease is not held. -/
theorem unleased_descends (matching : ReleaseOperation → Bool) (createdAtMs : Nat) :
    before.Descends (before.update matching fun row =>
      { row with lease := none, createdAtMs := createdAtMs }) := by
  refine update_descends (fun _ => rfl) fun row other token _ isHeld => ?_
  obtain ⟨-, _, isLease, -⟩ := ReleaseOperation.heldBy_iff.mp isHeld
  cases isLease

/-- What a successful consumption does: it takes the target's row, and the operation with it when
that was the last. -/
structure Consumed (before : ReleaseJournal) (operationId leaseToken : Uuid)
    (target : SessionReleaseTarget) (now : Nat) (after : ReleaseJournal) : Prop where
  leased : before.Leased operationId leaseToken now
  descends : before.Descends after
  kept : ∀ row ∈ before.pending, row ≠ ⟨operationId, target⟩ → row ∈ after.pending
  operations : ∀ row ∈ before.operations, row.heldBy operationId leaseToken = false →
    row ∈ after.operations
  sub : ∀ row ∈ after.operations, row ∈ before.operations

theorem consumeTarget_ok
    (ok : before.consumeTarget operationId leaseToken target reading = .ok after) :
    ∃ now, reading = some now ∧ before.Consumed operationId leaseToken target now after := by
  simp only [consumeTarget, Lib.bind_ok_iff, Lib.check_ok_iff] at ok
  obtain ⟨now, isNow, current, -, ok⟩ := ok
  have leased : before.Leased operationId leaseToken now := by
    simpa [Leased] using current
  have kept : ∀ row ∈ before.pending, row ≠ ⟨operationId, target⟩ →
      row ∈ before.pending.filter (· ≠ ⟨operationId, target⟩) := fun row listed other =>
    mem_filter.mpr ⟨listed, by simpa using other⟩
  refine ⟨now, nowMs_ok isNow, ?_⟩
  split at ok
  · cases ok
    exact ⟨leased, withPending_descends _, kept, fun row listed _ => listed,
      fun row listed => listed⟩
  next none =>
    rw [Lib.check_ok_iff] at ok
    obtain ⟨-, ok⟩ := ok
    cases ok
    refine ⟨leased, (withPending_descends _).trans (delete_descends _), fun row listed other => ?_,
      fun row listed other => ?_, fun row listed => mem_of_mem_filter listed⟩
    -- The cascade finds no row: the consumed one was the last of the operation.
    · refine mem_pending_delete (kept row listed other) fun operation _ isHeld sameId => none ?_
      have ofOperation : row.operationId = operationId :=
        sameId.symm.trans (ReleaseOperation.heldBy_iff.mp isHeld).1
      have isPending : row ∈ pendingOf
          { before with pending := before.pending.filter (· ≠ ⟨operationId, target⟩) }
          operationId :=
        mem_filter.mpr ⟨kept row listed other, by simpa using ofOperation⟩
      simpa using ne_nil_of_mem isPending
    · exact mem_filter.mpr ⟨listed, by simpa using other⟩

/-- What a successful cancellation does. -/
theorem cancelOperation_true
    (ok : before.cancelOperation compensation reading = .ok (true, after)) :
    ∃ now, reading = some now ∧
      before.Leased compensation.operationId compensation.leaseToken now ∧
      after = before.delete (·.currentFor compensation.operationId compensation.leaseToken now) := by
  rw [cancelOperation, Lib.bind_ok_iff] at ok
  obtain ⟨now, isNow, ok⟩ := ok
  split at ok
  · simp [pure, Except.pure] at ok
  · obtain ⟨one, rfl⟩ := Prod.mk.inj (Except.ok.inj ok)
    have counted := of_decide_eq_true one
    obtain ⟨row, listed, current⟩ := countP_pos_iff.mp (Nat.lt_of_lt_of_eq Nat.one_pos counted.symm)
    exact ⟨now, nowMs_ok isNow, ⟨row, listed, current⟩, rfl⟩

/-- A cancelled operation is gone. -/
theorem cancelOperation_not_listed
    (keyed : before.Keyed) (ok : before.cancelOperation compensation reading = .ok (true, after)) :
    ¬ after.Listed compensation.operationId := by
  obtain ⟨_, -, ⟨_, listed, current⟩, rfl⟩ := cancelOperation_true ok
  rintro ⟨left, isLeft, same⟩
  obtain ⟨leftListed, notCurrent⟩ := mem_filter.mp isLeft
  obtain rfl := keyed.unique listed leftListed
    ((ReleaseOperation.operationId_of_currentFor current).trans same.symm)
  simp [current] at notCurrent

/-- A new operation with its first owner and its targets. -/
structure Inserted (before : ReleaseJournal) (operationId leaseToken : Uuid)
    (receipt : PendingReleaseReceipt) (after : ReleaseJournal) : Prop where
  fresh : ¬ before.Listed operationId
  ofOperation : receipt.operationId = operationId
  withToken : receipt.leaseToken = leaseToken
  isAfter : ∃ (createdAtMs untilMs : Nat) (targets : List SessionReleaseTarget), after =
    ⟨before.operations ++ [⟨operationId, createdAtMs, some ⟨leaseToken, untilMs⟩⟩],
      before.pending ++ targets.map (⟨operationId, ·⟩)⟩

variable {targets : List SessionReleaseTarget} {createdAtMs : Nat} {receipt : PendingReleaseReceipt}

theorem insertPendingReleases_some
    (ok : before.insertPendingReleases targets createdAtMs reading operationId leaseToken =
      .ok (some receipt, after)) : before.Inserted operationId leaseToken receipt after := by
  rw [insertPendingReleases, Lib.bind_ok_iff] at ok
  obtain ⟨unique, -, ok⟩ := ok
  split at ok
  · simp [pure, Except.pure] at ok
  simp only [Lib.check_ok_iff, Lib.bind_ok_iff] at ok
  obtain ⟨-, _, -, _, -, created, -, column, -, free, ok⟩ := ok
  cases ok
  refine ⟨?_, rfl, rfl, created, column, unique, rfl⟩
  rintro ⟨row, listed, same⟩
  exact free (any_eq_true.mpr ⟨row, listed, by simpa using same⟩)

theorem enqueueRecovered_some
    (ok : before.enqueueRecovered targets createdAtMs reading operationId leaseToken =
      .ok (some receipt, after)) : before.Inserted operationId leaseToken receipt after := by
  rw [enqueueRecovered, Lib.bind_ok_iff] at ok
  obtain ⟨_, -, ok⟩ := ok
  exact insertPendingReleases_some ok

/-- The candidate is claimable and comes first among the claimable operations. -/
theorem candidate_some {operation : ReleaseOperation}
    (isCandidate : before.candidate now = some operation) :
    operation ∈ before.claimable now ∧
      ∀ other ∈ before.claimable now, operation.schedule ≤ other.schedule := by
  let order (one other : ReleaseOperation) : Prop := one.schedule ≤ other.schedule
  have sorted : ((before.claimable now).insertionSort order).Pairwise order :=
    @pairwise_insertionSort _ order _ ⟨fun one other => le_total one.schedule other.schedule⟩
      ⟨fun _ _ _ => le_trans⟩ _
  obtain ⟨rest, isSorted⟩ := head?_eq_some_iff.mp isCandidate
  rw [isSorted, pairwise_cons] at sorted
  have listed : ∀ other, other ∈ before.claimable now ↔ other ∈ operation :: rest := fun other => by
    rw [← isSorted, mem_insertionSort]
  refine ⟨(listed operation).mpr mem_cons_self, fun other isOther => ?_⟩
  rcases mem_cons.mp ((listed other).mp isOther) with rfl | later
  · exact le_rfl
  · exact sorted.1 other later

/-- What a successful claim does. -/
structure ClaimedNext (before : ReleaseJournal) (now : Nat) (leaseToken : Uuid)
    (claim : ForwardReleaseClaim) (after : ReleaseJournal) : Prop where
  withToken : claim.leaseToken = leaseToken
  isAfter : ∃ operation rotated untilMs, before.candidate now = some operation ∧
    operation.operationId = claim.operationId ∧ before.rotatedAt now = .ok rotated ∧
    after = before.update
      (fun row => row.operationId = claim.operationId && row.unleased now)
      fun row => { row with lease := some ⟨leaseToken, untilMs⟩, createdAtMs := rotated }

theorem claimNext_some (ok : before.claimNext reading leaseToken = .ok (some claim, after)) :
    ∃ now, reading = some now ∧ before.ClaimedNext now leaseToken claim after := by
  rw [claimNext, Lib.bind_ok_iff] at ok
  obtain ⟨⟨now, untilMs⟩, isNow, ok⟩ := ok
  dsimp only at ok
  split at ok
  · simp [pure, Except.pure] at ok
  next operation isCandidate =>
    simp only [Lib.bind_ok_iff, Lib.check_ok_iff] at ok
    obtain ⟨rotated, isRotated, -, ok⟩ := ok
    cases ok
    exact ⟨now, nowAndUntil_ok isNow, rfl, operation, rotated, untilMs, isCandidate, rfl,
      isRotated, rfl⟩

/-- Operations lose their leases one after the other, and the pending rows stay. -/
theorem unleaseEach_ok {lastSchedule : Nat} {operationIds : List Uuid}
    (ok : before.unleaseEach lastSchedule operationIds = .ok after) :
    before.Descends after ∧ after.pending = before.pending := by
  induction operationIds generalizing before lastSchedule with
  | nil =>
    cases ok
    exact ⟨.refl _, rfl⟩
  | cons _ _ ih =>
    simp only [unleaseEach] at ok
    split at ok
    · obtain ⟨descends, samePending⟩ := ih ok
      exact ⟨(unleased_descends _ _).trans descends, samePending⟩
    · cases ok

/-- Adopting a lifetime gives no operation to a token, and takes the rows of that lifetime only. -/
theorem adoptLifetime_ok {sessionId : SessionId} {generation : SessionGeneration}
    {writtenAtMs : Nat} (ok : before.adoptLifetime sessionId generation writtenAtMs = .ok after) :
    before.Descends after ∧ ∀ row ∈ before.pending, row ∉ after.pending →
      row.target.sessionId = sessionId ∧ row.target.expectedGeneration = generation := by
  unfold adoptLifetime at ok
  split at ok
  · rw [Lib.bind_ok_iff] at ok
    obtain ⟨unleased, isUnleased, ok⟩ := ok
    obtain ⟨descends, samePending⟩ := unleaseEach_ok isUnleased
    cases ok
    refine ⟨descends.trans ((withPending_descends _).trans (delete_descends _)),
      fun row listed lost => ?_⟩
    by_contra other
    have isLeft : row ∈ unleased.pending.filter fun row =>
        !(decide (row.target.sessionId = sessionId) &&
          decide (row.target.expectedGeneration = generation)) :=
      mem_filter.mpr ⟨samePending ▸ listed, by simpa [imp_iff_not_or] using other⟩
    refine lost (mem_pending_delete isLeft fun operation _ isEmpty sameId => ?_)
    -- An operation with this row is not one without targets.
    rw [List.isEmpty_iff, pendingOf, filter_eq_nil_iff] at isEmpty
    exact isEmpty row isLeft (decide_eq_true sameId.symm)
  · cases ok

end ReleaseJournal

/-! ## The fence -/

/-- No task, tab or worktree marker names the session. -/
def OwnerTables.Unreferenced (tables : OwnerTables) (sessionId : SessionId) : Prop :=
  (∀ task ∈ tables.tasks, ¬ task.Names sessionId) ∧
    (∀ tab ∈ tables.tabs, tab.sessionId ≠ some sessionId) ∧
    ∀ worktree ∈ tables.worktrees, worktree.sessionId ≠ sessionId

/-- The session row satisfies the policy recorded with the target. -/
def SessionReleaseTarget.RowSatisfied (target : SessionReleaseTarget) (tables : OwnerTables) :
    Prop :=
  ∀ row ∈ tables.sessions, row.sessionId = target.sessionId →
    target.rowPolicy = .matchingRowIsProof ∧
      row.lastKnownGeneration = some target.expectedGeneration

/-- The row policy of the fence is the recorded one. -/
theorem rowSatisfied_of_rowAdmits {graph : SessionOwnershipGraph} (reads : graph.Reads tables)
    (owned : ∀ row ∈ tables.sessions, ∃ owned ∈ graph.sessionRows, owned.sessionId = row.sessionId)
    (admits : rowAdmits target (graph.sessionRows.find? (·.sessionId = target.sessionId)) = true) :
    target.RowSatisfied tables := by
  intro row listed same
  obtain ⟨one, oneListed, oneSame⟩ := owned row listed
  obtain ⟨found, isFound⟩ : ∃ found,
      graph.sessionRows.find? (·.sessionId = target.sessionId) = some found := by
    refine Option.isSome_iff_exists.mp (find?_isSome.mpr ⟨one, oneListed, ?_⟩)
    simpa using oneSame.trans same
  have foundSame : found.sessionId = target.sessionId := by simpa using find?_some isFound
  obtain ⟨other, otherListed, otherSame, -, generation⟩ :=
    (reads.sessionRow found).mp (mem_of_find?_eq_some isFound)
  obtain rfl : row = other := inj_on_of_nodup_map tables.sessionKeys listed otherListed
    (same.trans (foundSame.symm.trans otherSame))
  rw [isFound, rowAdmits] at admits
  split at admits
  next policy =>
    exact ⟨policy, generation ▸ of_decide_eq_true admits⟩
  · cases admits

/-- What the fence established. -/
structure Fenced (journal : ReleaseJournal) (operationId leaseToken : Uuid)
    (target : SessionReleaseTarget) (now : Nat) : Prop where
  leased : journal.Leased operationId leaseToken now
  pending : ⟨operationId, target⟩ ∈ journal.pending

theorem fenceAdmits_ok {journal : ReleaseJournal} {admitted : Bool}
    (ok : fenceAdmits journal tables operationId leaseToken target reading = .ok admitted) :
    ∃ now, reading = some now ∧ Fenced journal operationId leaseToken target now ∧
      (admitted = true → tables.Unreferenced target.sessionId ∧ target.RowSatisfied tables) := by
  simp only [fenceAdmits, Lib.bind_ok_iff, Lib.check_ok_iff] at ok
  obtain ⟨now, isNow, exactClaim, ok⟩ := ok
  simp only [Bool.not_eq_true', Bool.not_eq_false, Bool.and_eq_true, any_eq_true,
    decide_eq_true_eq, exists_eq_right] at exactClaim
  refine ⟨now, nowMs_ok isNow, ⟨exactClaim.1, exactClaim.2⟩, ?_⟩
  split at ok
  · cases ok
  next graph isGraph =>
    have reads := sessionOwnershipGraph_reads isGraph
    split at ok
    · rintro rfl
      cases ok
    next unnamed =>
      rintro rfl
      simp only [Bool.or_eq_true, any_eq_true, decide_eq_true_eq, not_or, not_exists,
        not_and] at unnamed
      obtain ⟨⟨noTask, noTab⟩, noWorktree⟩ := unnamed
      refine ⟨⟨fun task listed names => ?_, fun tab listed named => ?_,
        fun worktree listed named => ?_⟩, ?_⟩
      · obtain ⟨refs, refsListed, -, isNamed⟩ :=
          (reads.taskRef task.projectId target.sessionId).mpr ⟨task, listed, rfl, names⟩
        exact noTask refs refsListed isNamed
      · exact noTab ⟨tab.windowId, tab.tabId, target.sessionId⟩
          ((reads.tabRef _).mpr ⟨tab, listed, rfl, rfl, named⟩) rfl
      · obtain ⟨project, owns⟩ := sessionOwnershipGraph_worktree isGraph listed
        exact noWorktree ⟨worktree.sessionId, worktree.workspaceId, project⟩
          ((reads.worktreeRef _).mpr ⟨worktree, listed, rfl, rfl, owns⟩) named
      · refine rowSatisfied_of_rowAdmits reads (fun row listed => ?_) (Except.ok.inj ok)
        obtain ⟨project, owns⟩ := sessionOwnershipGraph_session isGraph listed
        exact ⟨⟨row.sessionId, project, row.lastKnownGeneration⟩,
          (reads.sessionRow _).mpr ⟨row, listed, rfl, owns, rfl⟩, rfl⟩

end HydraTerm.Shell
