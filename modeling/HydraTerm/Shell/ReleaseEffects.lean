import HydraTerm.Shell.ReleaseSystem
import HydraTerm.Shell.ReleaseTransactions

/-!
# What one step does to the release journal

Three views of a step: which operations and owners can be new, which operations keep their place in
the schedule, and which pending rows can go. Each is proved once for every step; the invariants of
whole runs use nothing else of the journal.
-/

namespace HydraTerm.Shell

open Grid Lib ReleaseJournal List

variable {E : Type} {target : SessionReleaseTarget} {surroundings : Surroundings E}

/-! ## Owners and schedule -/

/-- The step gives the operation to the token. -/
def ReleaseEvent.Gives (event : ReleaseEvent) (operationId token : Uuid) : Prop :=
  ∃ reading, event = .journaled operationId token reading ∨
    event = .claimed operationId token reading

/-- New operations are journaled, and new owners draw their token in the step. -/
structure OwnerEffect (before : ReleaseJournal) (event : ReleaseEvent) (after : ReleaseJournal) :
    Prop where
  keyed : before.Keyed → after.Keyed
  listed : ∀ {operationId}, after.Listed operationId → before.Listed operationId ∨
    ∃ token reading, event = .journaled operationId token reading
  held : ∀ {operationId token}, after.Held operationId token → before.Held operationId token ∨
    event.Gives operationId token

section
variable {before after : ReleaseJournal} {event : ReleaseEvent} {operationId leaseToken : Uuid}
  {reading : Option Nat} {now : Nat} {receipt : PendingReleaseReceipt} {claim : ForwardReleaseClaim}

/-- A step without new owners. -/
theorem ReleaseJournal.Descends.ownerEffect
    (descends : before.Descends after) (event : ReleaseEvent) : OwnerEffect before event after :=
  ⟨descends.keyed, fun isListed => .inl (descends.listed isListed),
    fun isHeld => .inl (descends.held isHeld)⟩

/-- An operation that is free at the step's clock reading keeps its row, and no operation moves
forward in the schedule. -/
structure ScheduleEffect (before : ReleaseJournal) (event : ReleaseEvent)
    (after : ReleaseJournal) : Prop where
  kept : ∀ row ∈ before.operations, (∀ now, event.reading = some now → row.unleased now = true) →
    (∀ token reading, event ≠ .claimed row.operationId token reading) → row ∈ after.operations
  later : ∀ row ∈ after.operations, (∃ old ∈ before.operations,
    old.operationId = row.operationId ∧ old.createdAtMs ≤ row.createdAtMs) ∨
      ∃ token reading, event = .journaled row.operationId token reading

/-- A step that leaves the operations alone. -/
theorem ScheduleEffect.of_operations_eq (event : ReleaseEvent)
    (same : after.operations = before.operations) : ScheduleEffect before event after := by
  refine ⟨fun row listed _ _ => same ▸ listed, fun row listed => .inl ⟨row, same ▸ listed, rfl, le_rfl⟩⟩

/-- A step that moves no row that is to be kept, and none forward. -/
theorem ScheduleEffect.of_update {matching : ReleaseOperation → Bool}
    {set : ReleaseOperation → ReleaseOperation}
    (unmatched : ∀ row, (∀ now, event.reading = some now → row.unleased now = true) →
      (∀ token reading, event ≠ .claimed row.operationId token reading) → ¬ matching row = true)
    (keepsId : ∀ row, (set row).operationId = row.operationId)
    (backward : ∀ row ∈ before.operations, row.createdAtMs ≤ (set row).createdAtMs) :
    ScheduleEffect before event (before.update matching set) := by
  constructor
  · intro row listed free unclaimed
    refine mem_map.mpr ⟨row, listed, ?_⟩
    rw [if_neg (unmatched row free unclaimed)]
  · intro row listed
    obtain ⟨old, oldListed, rfl⟩ := mem_map.mp listed
    refine .inl ⟨old, oldListed, ?_⟩
    split
    · exact ⟨(keepsId old).symm, backward old oldListed⟩
    · exact ⟨rfl, le_rfl⟩

/-- A step that deletes rows with a current lease only. -/
theorem ScheduleEffect.of_sub (sub : ∀ row ∈ after.operations, row ∈ before.operations)
    (kept : ∀ row ∈ before.operations, (∀ now, event.reading = some now → row.unleased now = true) →
      row ∈ after.operations) : ScheduleEffect before event after :=
  ⟨fun row listed free _ => kept row listed free,
    fun row listed => .inl ⟨row, sub row listed, rfl, le_rfl⟩⟩

/-- Consuming a target deletes at most the operation of the current lease. -/
theorem ReleaseJournal.Consumed.schedule
    (consumed : before.Consumed operationId leaseToken target now after) (keyed : before.Keyed) :
    ScheduleEffect before (.consumed operationId leaseToken target (some now)) after := by
  refine .of_sub consumed.sub fun row listed free => consumed.operations row listed ?_
  by_contra isHeld
  rw [Bool.not_eq_false] at isHeld
  obtain ⟨_, leasedListed, current⟩ := consumed.leased
  obtain rfl := keyed.unique listed leasedListed ((ReleaseOperation.heldBy_iff.mp isHeld).1.trans
    (ReleaseOperation.operationId_of_currentFor current).symm)
  exact ReleaseOperation.not_currentFor (free now rfl) current

theorem cancelOperation_schedule {compensation : UnpublishedCompensationReceipt}
    (ok : before.cancelOperation compensation reading = .ok (true, after)) :
    ScheduleEffect before (.cancelled compensation.operationId compensation.leaseToken reading)
      after := by
  obtain ⟨now, isNow, -, rfl⟩ := cancelOperation_true ok
  refine .of_sub (fun row listed => mem_of_mem_filter listed) fun row listed free => ?_
  exact mem_filter.mpr ⟨listed, by simpa using ReleaseOperation.not_currentFor (free now isNow)⟩

theorem ReleaseJournal.Inserted.schedule
    (inserted : before.Inserted operationId leaseToken receipt after) :
    ScheduleEffect before (.journaled operationId leaseToken reading) after := by
  obtain ⟨_, _, _, rfl⟩ := inserted.isAfter
  refine ⟨fun row listed _ _ => mem_append_left _ listed, fun row listed => ?_⟩
  rcases mem_append.mp listed with old | new
  · exact .inl ⟨row, old, rfl, le_rfl⟩
  · rw [mem_singleton.mp new]
    exact .inr ⟨leaseToken, reading, rfl⟩

theorem ReleaseJournal.ClaimedNext.schedule
    (claimed : before.ClaimedNext now leaseToken claim after) :
    ScheduleEffect before (.claimed claim.operationId leaseToken reading) after := by
  obtain ⟨_, _, _, -, -, isRotated, rfl⟩ := claimed.isAfter
  refine .of_update (fun row _ other isClaimed => ?_) (fun _ => rfl) fun row listed =>
    (rotatedAt_ok isRotated row listed).le
  rw [Bool.and_eq_true, decide_eq_true_eq] at isClaimed
  exact other leaseToken reading (by rw [isClaimed.1])

theorem ReleaseJournal.Inserted.ownerEffect
    (inserted : before.Inserted operationId leaseToken receipt after) :
    OwnerEffect before (.journaled operationId leaseToken reading) after := by
  obtain ⟨_, _, _, rfl⟩ := inserted.isAfter
  refine ⟨fun keyed => ?_, ?_, ?_⟩
  · rw [Keyed, map_append]
    refine keyed.append (nodup_singleton _) ?_
    intro listedId isListed isNew
    obtain ⟨row, listed, rfl⟩ := mem_map.mp isListed
    exact inserted.fresh ⟨row, listed, by simpa using isNew⟩
  · rintro other ⟨row, listed, rfl⟩
    rcases mem_append.mp listed with old | new
    · exact .inl ⟨row, old, rfl⟩
    · rw [mem_singleton.mp new]
      exact .inr ⟨leaseToken, reading, rfl⟩
  · rintro other token ⟨row, listed, rowHeld⟩
    rcases mem_append.mp listed with old | new
    · exact .inl ⟨row, old, rowHeld⟩
    · rw [mem_singleton.mp new] at rowHeld
      obtain ⟨rfl, _, isLease, rfl⟩ := ReleaseOperation.heldBy_iff.mp rowHeld
      cases isLease
      exact .inr ⟨reading, .inl rfl⟩

/-- A claim gives one operation to its token and keeps the other owners. -/
theorem ReleaseJournal.ClaimedNext.ownerEffect
    (claimed : before.ClaimedNext now leaseToken claim after) :
    OwnerEffect before (.claimed claim.operationId leaseToken reading) after := by
  obtain ⟨_, _, _, -, -, -, rfl⟩ := claimed.isAfter
  refine ⟨(update_listed ?_).1.mpr, fun isListed => .inl ((update_listed ?_).2.mp isListed), ?_⟩
  · exact fun _ => rfl
  · exact fun _ => rfl
  · rintro other token ⟨row, listed, rowHeld⟩
    obtain ⟨old, oldListed, rfl⟩ := mem_map.mp listed
    split at rowHeld
    next isClaimed =>
      obtain ⟨isOther, _, isLease, rfl⟩ := ReleaseOperation.heldBy_iff.mp rowHeld
      cases isLease
      rw [Bool.and_eq_true, decide_eq_true_eq] at isClaimed
      exact .inr ⟨reading, .inr (by rw [← isClaimed.1, ← isOther])⟩
    · exact .inl ⟨old, oldListed, rowHeld⟩

/-! ## The requests of an attempt -/

/-- A step that may move leases and the schedule, but neither judges nor consumes a target. -/
structure LeaseWork (before : ReleaseJournal) (reading : Option Nat) (after : ReleaseJournal) :
    Prop where
  descends : before.Descends after
  schedule : ScheduleEffect before (.internal reading) after
  pending : after.pending = before.pending

theorem LeaseWork.refl (journal : ReleaseJournal) (reading : Option Nat) :
    LeaseWork journal reading journal :=
  ⟨.refl journal, .of_operations_eq _ rfl, rfl⟩

theorem LeaseWork.of_renewLease {untilMs : Nat}
    (ok : before.renewLease operationId leaseToken reading = .ok (untilMs, after)) :
    LeaseWork before reading after := by
  have descends := renewLease_descends ok
  obtain ⟨now, isNow, rfl⟩ := renewLease_ok ok
  exact ⟨descends, .of_update (fun _ free _ => ReleaseOperation.not_currentFor (free now isNow))
    (fun _ => rfl) fun _ _ => le_rfl, rfl⟩

theorem LeaseWork.of_releaseLease
    (ok : before.releaseLease operationId leaseToken reading = .ok after) :
    LeaseWork before reading after := by
  obtain ⟨now, _, isNow, isRotated, rfl⟩ := releaseLease_ok ok
  exact ⟨unleased_descends _ _,
    .of_update (fun _ free _ => ReleaseOperation.not_currentFor (free now isNow)) (fun _ => rfl)
      fun row listed => (rotatedAt_ok isRotated row listed).le, rfl⟩

end

/-- The authority of a verdict: the fence held, and a release went out only for a session that
nothing references and whose row satisfies the policy. -/
structure Judged (journal : ReleaseJournal) (tables : OwnerTables) (operationId leaseToken : Uuid)
    (target : SessionReleaseTarget) (verdict : ReleaseVerdict) (now : Nat) : Prop where
  fenced : Fenced journal operationId leaseToken target now
  released : verdict ≠ .retained →
    tables.Unreferenced target.sessionId ∧ target.RowSatisfied tables

/-- How a request can be served. -/
inductive ServedAs (system : ReleaseSystem E) :
    (request : ReleaseRequest) → ReleaseAnswer E request → ReleaseJournal → ReleaseEvent → Prop
  | quietly {request : ReleaseRequest} {given : ReleaseAnswer E request}
      {journal : ReleaseJournal} {reading : Option Nat} :
      LeaseWork system.journal reading journal →
      (∀ operationId leaseToken point,
        (authority operationId leaseToken).after point request given = point) →
      ServedAs system request given journal (.internal reading)
  | judged {operationId leaseToken : Uuid} {target : SessionReleaseTarget}
      {decision : FencedDecision E} {now : Nat} :
      Judged system.journal system.tables operationId leaseToken target decision.verdict now →
      ServedAs system (.fenceOne operationId leaseToken target) (.ok decision) system.journal
        (.judged operationId leaseToken target decision.verdict (some now))
  | consumed {operationId leaseToken : Uuid} {target : SessionReleaseTarget}
      {journal : ReleaseJournal} {now : Nat} :
      system.journal.Consumed operationId leaseToken target now journal →
      ServedAs system (.consumeTarget operationId leaseToken target) (.ok ()) journal
        (.consumed operationId leaseToken target (some now))

/-- A transaction that went through did so without a failure of the store. -/
theorem Surroundings.transact_ok {α : Type}
    {transaction : Except SessionReleaseError α} {result : α}
    (ok : surroundings.transact transaction = .ok result) : transaction = .ok result := by
  unfold Surroundings.transact at ok
  split at ok
  · cases ok
  · exact ok

/-- Every request is served in one of the three ways. -/
theorem servedAs_of_serve {system : ReleaseSystem E} {event : ReleaseEvent}
    (request : ReleaseRequest) {given : ReleaseAnswer E request} {journal : ReleaseJournal}
    (served : system.serve surroundings request = (given, journal, event)) :
    ServedAs system request given journal event := by
  cases request with
  | renewLease =>
    simp only [ReleaseSystem.serve] at served
    split at served <;> obtain ⟨rfl, rfl, rfl⟩ := served
    next ok => exact .quietly (.of_renewLease (Surroundings.transact_ok ok)) fun _ _ _ => rfl
    next => exact .quietly (.refl _ _) fun _ _ _ => rfl
  | releaseLease =>
    simp only [ReleaseSystem.serve] at served
    split at served <;> obtain ⟨rfl, rfl, rfl⟩ := served
    next ok => exact .quietly (.of_releaseLease (Surroundings.transact_ok ok)) fun _ _ _ => rfl
    next => exact .quietly (.refl _ _) fun _ _ _ => rfl
  | checkLease operationId leaseToken | listTargets operationId | preflight targets =>
    obtain ⟨rfl, rfl, rfl⟩ := served
    exact .quietly (.refl _ _) fun _ _ _ => rfl
  | fenceOne operationId leaseToken target =>
    simp only [ReleaseSystem.serve] at served
    split at served <;> obtain ⟨rfl, rfl, rfl⟩ := served
    next => exact .quietly (.refl _ _) fun _ _ _ => rfl
    next ok =>
      obtain ⟨now, isNow, fenced, -⟩ := fenceAdmits_ok (Surroundings.transact_ok ok)
      rw [isNow]
      have judged : Judged system.journal system.tables operationId leaseToken target
          (FencedDecision.retained : FencedDecision E).verdict now :=
        ⟨fenced, fun released => absurd rfl released⟩
      exact .judged judged
    next ok =>
      obtain ⟨_, isNow, fenced, released⟩ := fenceAdmits_ok (Surroundings.transact_ok ok)
      rw [isNow]
      exact .judged ⟨fenced, fun _ => released rfl⟩
  | consumeTarget =>
    simp only [ReleaseSystem.serve] at served
    split at served <;> obtain ⟨rfl, rfl, rfl⟩ := served
    next ok =>
      obtain ⟨_, isNow, consumed⟩ := consumeTarget_ok (Surroundings.transact_ok ok)
      rw [isNow]
      exact .consumed consumed
    next => exact .quietly (.refl _ _) fun _ _ _ => rfl

/-! ## Steps -/

variable {before after : ReleaseSystem E} {event : ReleaseEvent}

/-- What every step does to the owners. -/
theorem ReleaseStep.ownerEffect (step : ReleaseStep before event after) :
    OwnerEffect before.journal event after.journal := by
  cases step with
  | destroyed _ ok => exact (insertPendingReleases_some ok).ownerEffect
  | recovered ok => exact (enqueueRecovered_some ok).ownerEffect
  | claimed ok =>
    obtain ⟨_, -, claimed⟩ := claimNext_some ok
    exact claimed.ownerEffect
  | renewedClaim _ ok => exact (LeaseWork.of_renewLease ok).descends.ownerEffect _
  | retriedClaim _ ok | surrendered _ ok => exact (LeaseWork.of_releaseLease ok).descends.ownerEffect _
  | served _ _ served =>
    cases servedAs_of_serve _ served with
    | quietly work => exact work.descends.ownerEffect _
    | judged => exact (Descends.refl _).ownerEffect _
    | consumed consumed => exact consumed.descends.ownerEffect _
  | cancelled _ _ ok =>
    obtain ⟨_, -, -, rfl⟩ := cancelOperation_true ok
    exact (delete_descends _).ownerEffect _
  | adopted _ ok => exact (adoptLifetime_ok ok).1.ownerEffect _
  | _ => exact (Descends.refl _).ownerEffect _

/-- What every step but an adoption does to the schedule. -/
theorem ReleaseStep.scheduleEffect
    (step : ReleaseStep before event after) (keyed : before.journal.Keyed)
    (noAdoption : ∀ sessionId generation, event ≠ .adopted sessionId generation) :
    ScheduleEffect before.journal event after.journal := by
  cases step with
  | destroyed _ ok => exact (insertPendingReleases_some ok).schedule
  | recovered ok => exact (enqueueRecovered_some ok).schedule
  | claimed ok =>
    obtain ⟨_, -, claimed⟩ := claimNext_some ok
    exact claimed.schedule
  | renewedClaim _ ok => exact (LeaseWork.of_renewLease ok).schedule
  | retriedClaim _ ok | surrendered _ ok => exact (LeaseWork.of_releaseLease ok).schedule
  | served _ _ served =>
    cases servedAs_of_serve _ served with
    | quietly work => exact work.schedule
    | judged => exact .of_operations_eq _ rfl
    | consumed consumed => exact consumed.schedule keyed
  | cancelled _ _ ok => exact cancelOperation_schedule ok
  | adopted => exact absurd rfl (noAdoption _ _)
  | _ => exact .of_operations_eq _ rfl

/-- A verdict comes from a thread in an attempt, under the fence. -/
theorem ReleaseStep.judged {operationId leaseToken : Uuid}
    {verdict : ReleaseVerdict} {reading : Option Nat}
    (step : ReleaseStep before (.judged operationId leaseToken target verdict reading) after) :
    ∃ now, reading = some now ∧
      Judged before.journal before.tables operationId leaseToken target verdict now ∧
      ∃ (kind : AttemptKind) (ownOperation ownToken : Uuid)
        (next : ReleaseAnswer E (.fenceOne operationId leaseToken target) → ReleaseProgram E),
        .attempt kind ownOperation ownToken (.ask (.fenceOne operationId leaseToken target) next) ∈
          before.threads := by
  generalize isEvent : ReleaseEvent.judged operationId leaseToken target verdict reading = event at step
  cases step with
  | served _ isThread served =>
    cases servedAs_of_serve _ served with
    | quietly => cases isEvent
    | judged judged =>
      cases isEvent
      exact ⟨_, rfl, judged, _, _, _, _, mem_of_getElem? isThread⟩
    | consumed => cases isEvent
  | diedInFence isThread ok =>
    cases isEvent
    obtain ⟨now, isNow, fenced, released⟩ := fenceAdmits_ok ok
    exact ⟨now, isNow, ⟨fenced, fun _ => released rfl⟩, _, _, _, _, mem_of_getElem? isThread⟩
  | _ => cases isEvent

variable (before : ReleaseSystem E) (row : PendingRelease) in
/-- Why a pending row can go in a step. -/
inductive RowGone : ReleaseEvent → Prop
  | consumed {leaseToken : Uuid} {now : Nat} {index : Nat} {kind : AttemptKind}
      {ownOperation ownToken : Uuid}
      {next : ReleaseAnswer E (.consumeTarget row.operationId leaseToken row.target) →
        ReleaseProgram E} :
      before.threads[index]? = some (.attempt kind ownOperation ownToken
        (.ask (.consumeTarget row.operationId leaseToken row.target) next)) →
      before.journal.Leased row.operationId leaseToken now →
      RowGone (.consumed row.operationId leaseToken row.target (some now))
  | cancelled {leaseToken : Uuid} {now : Nat} :
      before.journal.Leased row.operationId leaseToken now →
      RowGone (.cancelled row.operationId leaseToken (some now))
  | adopted : RowGone
      (.adopted row.target.sessionId row.target.expectedGeneration)

/-- A pending row goes by its consumption, a cancellation of its operation, or the adoption of its
lifetime. -/
theorem ReleaseStep.rowGone (step : ReleaseStep before event after) {row : PendingRelease}
    (listed : row ∈ before.journal.pending) (gone : row ∉ after.journal.pending) :
    RowGone before row event := by
  cases step with
  | destroyed _ ok =>
    obtain ⟨_, _, _, rfl⟩ := (insertPendingReleases_some ok).isAfter
    exact absurd (mem_append_left _ listed) gone
  | recovered ok =>
    obtain ⟨_, _, _, rfl⟩ := (enqueueRecovered_some ok).isAfter
    exact absurd (mem_append_left _ listed) gone
  | claimed ok =>
    obtain ⟨_, -, claimed⟩ := claimNext_some ok
    obtain ⟨_, _, _, -, -, -, rfl⟩ := claimed.isAfter
    exact absurd listed gone
  | renewedClaim _ ok => exact absurd listed ((LeaseWork.of_renewLease ok).pending ▸ gone)
  | retriedClaim _ ok | surrendered _ ok =>
    exact absurd listed ((LeaseWork.of_releaseLease ok).pending ▸ gone)
  | served _ isThread served =>
    cases servedAs_of_serve _ served with
    | quietly work => exact absurd listed (work.pending ▸ gone)
    | judged => exact absurd listed gone
    | consumed consumed =>
      obtain rfl : row = ⟨_, _⟩ := by
        by_contra other
        exact gone (consumed.kept row listed other)
      exact .consumed isThread consumed.leased
  | @cancelled _ compensation _ _ _ _ ok =>
    obtain ⟨_, rfl, leased, rfl⟩ := cancelOperation_true ok
    -- The cascade takes rows of the cancelled operation only.
    have ofOperation : compensation.operationId = row.operationId := by
      by_contra other
      refine gone (mem_pending_delete listed fun operation _ current same => ?_)
      exact other ((ReleaseOperation.operationId_of_currentFor current).symm.trans same)
    rw [ofOperation] at leased ⊢
    exact .cancelled leased
  | adopted _ ok =>
    obtain ⟨rfl, rfl⟩ := (adoptLifetime_ok ok).2 row listed gone
    exact .adopted
  | _ => exact absurd listed gone

end HydraTerm.Shell
