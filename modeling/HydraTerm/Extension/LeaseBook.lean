import Mathlib

/-!
# The viewport leases of one extension connection

An extension leases the viewports of sessions. Its messages carry a cursor: one epoch for the
connection, and a sequence that only grows. A message with another epoch or an old sequence is refused
before anything else is done. Then the leases that have run out are dropped, and the message may still
be refused: its lease id belongs to another session, its session is leased, or there are too many
leases. What was dropped stays dropped.

The table of leases is keyed by lease id; here it is a list, and `Sound` says that the ids are distinct.
Lease ids and session keys are any texts, since the book only compares them.
-/

namespace HydraTerm.Extension

/-- `MAX_ACTIVE_VIEWPORT_LEASES`. -/
def maxActiveViewportLeases : Nat := 64

/-- Where a message stands in its connection. -/
structure LeaseCursor where
  epoch : Nat
  sequence : Nat
  deriving DecidableEq

/-- The size of a viewport, in cells and in pixels. -/
structure ViewportGeometry where
  cols : Nat
  rows : Nat
  pixelWidth : Nat
  pixelHeight : Nat
  deriving DecidableEq

/-- The lease that a message asks for, from its arrival for `ttlMs`. -/
structure ExternalViewportLease where
  leaseId : String
  sessionId : String
  cursor : LeaseCursor
  geometry : ViewportGeometry
  ttlMs : Nat
  deriving DecidableEq

/-- The messages that reach the book. -/
inductive ExtensionToHost where
  | upsertViewportLease (lease : ExternalViewportLease)
  | releaseViewportLease (leaseId : String) (cursor : LeaseCursor)
  | releaseAllViewportLeases (cursor : LeaseCursor)

/-- Every message has a cursor. -/
def ExtensionToHost.cursor : ExtensionToHost → LeaseCursor
  | .upsertViewportLease lease => lease.cursor
  | .releaseViewportLease _ cursor | .releaseAllViewportLeases cursor => cursor

/-- Why a message is refused. -/
inductive ViewportApplyError where
  | unexpectedEpoch (expected got : Nat)
  | staleSequence (last got : Nat)
  | tooManyActiveLeases (max : Nat)
  | leaseIdRebound
  | sessionAlreadyLeased
  deriving DecidableEq

/-- A lease with the time at which it runs out. -/
structure ActiveLease where
  lease : ExternalViewportLease
  expiresAtMs : Nat
  deriving DecidableEq

/-- The book of one connection. It has no epoch before the first message that is accepted. -/
structure ViewportLeaseBook where
  connectionEpoch : Option Nat
  lastSequence : Nat
  leases : List ActiveLease
  deriving DecidableEq

/-- The answer to a message: whether it changed a lease, and how many had run out. -/
structure LeaseApplyOutcome where
  changed : Bool
  expired : Nat
  deriving DecidableEq

namespace ViewportLeaseBook

/-- An empty book. -/
def new : ViewportLeaseBook := ⟨none, 0, []⟩

variable (book : ViewportLeaseBook)

/-- The epoch is that of the connection, and the sequence is new. -/
def checkCursor (cursor : LeaseCursor) :
    Except ViewportApplyError Unit := do
  if let some expected := book.connectionEpoch then
    if cursor.epoch ≠ expected then throw (.unexpectedEpoch expected cursor.epoch)
  if cursor.sequence ≤ book.lastSequence then
    throw (.staleSequence book.lastSequence cursor.sequence)

/-- Drop the leases that have run out. -/
def expire (nowMs : Nat) : ViewportLeaseBook :=
  { book with leases := book.leases.filter (·.expiresAtMs > nowMs) }

/-- Where the time of expiry saturates. -/
def u64Max : Nat := 2 ^ 64 - 1

/-- What a message whose cursor passed does to the leases, and whether it changed them. -/
def change (leases : List ActiveLease) (receivedAtMs : Nat) :
    ExtensionToHost → Except ViewportApplyError (List ActiveLease × Bool)
  | .upsertViewportLease lease => do
    let existing := leases.find? (·.lease.leaseId = lease.leaseId)
    match existing with
    | some existing =>
      if existing.lease.sessionId ≠ lease.sessionId then throw .leaseIdRebound
    | none =>
      if leases.any (·.lease.sessionId = lease.sessionId) then
        throw .sessionAlreadyLeased
      if leases.length ≥ maxActiveViewportLeases then
        throw (.tooManyActiveLeases maxActiveViewportLeases)
    let active : ActiveLease := ⟨lease, min (receivedAtMs + lease.ttlMs) u64Max⟩
    return (leases.filter (·.lease.leaseId ≠ lease.leaseId) ++ [active],
      decide (existing ≠ some active))
  | .releaseViewportLease leaseId _ =>
    return (leases.filter (·.lease.leaseId ≠ leaseId),
      leases.any (·.lease.leaseId = leaseId))
  | .releaseAllViewportLeases _ => return ([], !leases.isEmpty)

/-- A message: its cursor, then the leases that have run out, then what it asks for. -/
def apply (message : ExtensionToHost) (receivedAtMs : Nat) :
    ViewportLeaseBook × Except ViewportApplyError LeaseApplyOutcome :=
  match book.checkCursor message.cursor with
  | .error reason => (book, .error reason)
  | .ok _ =>
    let live := book.expire receivedAtMs
    match change live.leases receivedAtMs message with
    | .error reason => (live, .error reason)
    | .ok (leases, changed) =>
      (⟨some message.cursor.epoch, message.cursor.sequence, leases⟩,
        .ok ⟨changed, book.leases.length - live.leases.length⟩)

/-- The lookup drops what has run out as well. -/
def leaseForSession (sessionId : String) (nowMs : Nat) :
    ViewportLeaseBook × Option ExternalViewportLease :=
  (book.expire nowMs, ((book.expire nowMs).leases.find? (·.lease.sessionId = sessionId)).map ActiveLease.lease)

/-- A connection that ends takes its leases with it. -/
def clearOnDisconnect (_ : ViewportLeaseBook) : ViewportLeaseBook := new

end ViewportLeaseBook

open ViewportLeaseBook List

/-! ## One call -/

/-- What the leases of a book always satisfy. -/
structure Sound (leases : List ActiveLease) : Prop where
  few : leases.length ≤ maxActiveViewportLeases
  ids : (leases.map (·.lease.leaseId)).Nodup
  sessions : (leases.map (·.lease.sessionId)).Nodup

variable {leases next : List ActiveLease} {message : ExtensionToHost} {now : Nat} {changed : Bool}

/-- Dropping leases is always sound. -/
theorem Sound.filter (sound : Sound leases) (keep : ActiveLease → Bool) :
    Sound (leases.filter keep) :=
  ⟨Nat.le_trans (length_filter_le _ _) sound.few, sound.ids.sublist (filter_sublist.map _),
    sound.sessions.sublist (filter_sublist.map _)⟩

/-- A lease that passes the checks: no other id holds its session, its id holds no other session, and
there is room for it. -/
structure Admitted (leases : List ActiveLease) (lease : ExternalViewportLease) : Prop where
  session : ∀ other ∈ leases, other.lease.sessionId = lease.sessionId →
    other.lease.leaseId = lease.leaseId
  id : ∀ other ∈ leases, other.lease.leaseId = lease.leaseId →
    other.lease.sessionId = lease.sessionId
  room : (leases.filter (·.lease.leaseId ≠ lease.leaseId)).length
    < maxActiveViewportLeases

/-- What an accepted upsert has passed, and the leases after it. -/
theorem admitted_of_change (sound : Sound leases) {lease : ExternalViewportLease}
    (isOk : change leases now (.upsertViewportLease lease) = .ok (next, changed)) :
    Admitted leases lease ∧ next = leases.filter (·.lease.leaseId ≠ lease.leaseId)
      ++ [⟨lease, min (now + lease.ttlMs) u64Max⟩] := by
  simp only [change] at isOk
  cases found : leases.find? (fun active => decide (active.lease.leaseId = lease.leaseId)) with
  | some existing =>
    have held := mem_of_find?_eq_some found
    have sameId : existing.lease.leaseId = lease.leaseId := by simpa using find?_some found
    simp only [found] at isOk
    split at isOk
    · cases isOk
    next bound =>
      have sameSession : existing.lease.sessionId = lease.sessionId := not_not.mp bound
      refine ⟨⟨fun other member same => ?_, fun other member same => ?_, ?_⟩, by cases isOk; rfl⟩
      · rw [inj_on_of_nodup_map sound.sessions member held (same.trans sameSession.symm), sameId]
      · rw [inj_on_of_nodup_map sound.ids member held (same.trans sameId.symm), sameSession]
      · refine Nat.lt_of_lt_of_le (length_filter_lt_length_iff_exists.mpr ?_) sound.few
        exact ⟨existing, held, by simp [sameId]⟩
  | none =>
    have absent : ∀ other ∈ leases, other.lease.leaseId ≠ lease.leaseId := by simpa using found
    simp only [found] at isOk
    split at isOk
    · cases isOk
    next unleased =>
      split at isOk
      · cases isOk
      next room =>
        have free : ∀ other ∈ leases, other.lease.sessionId ≠ lease.sessionId := by
          simpa using unleased
        exact ⟨⟨fun other member same => absurd same (free other member),
          fun other member same => absurd same (absent other member),
          Nat.lt_of_le_of_lt (length_filter_le _ _) (Nat.lt_of_not_le room)⟩, by cases isOk; rfl⟩

/-- No lease id has moved to another session. -/
def Steady (before after : List ActiveLease) : Prop :=
  ∀ old ∈ before, ∀ new ∈ after, new.lease.leaseId = old.lease.leaseId →
    new.lease.sessionId = old.lease.sessionId

/-- Among the leases of one sound book an id names one session. -/
theorem Sound.steady (sound : Sound leases) {before after : List ActiveLease}
    (wasHeld : before ⊆ leases) (isHeld : after ⊆ leases) : Steady before after :=
  fun _ isOld _ isNew same => by
    rw [inj_on_of_nodup_map sound.ids (isHeld isNew) (wasHeld isOld) same]

/-- A message that is accepted leaves the leases sound, and moves no lease to another session. -/
theorem Sound.change (sound : Sound leases)
    (isOk : ViewportLeaseBook.change leases now message = .ok (next, changed)) :
    Sound next ∧ Steady leases next := by
  cases message with
  | upsertViewportLease lease =>
    obtain ⟨admitted, rfl⟩ := admitted_of_change sound isOk
    obtain ⟨_, ids, sessions⟩ := sound.filter (·.lease.leaseId ≠ lease.leaseId)
    refine ⟨⟨?_, ?_, ?_⟩, fun old isOld new isNew same => ?_⟩
    · rw [length_append]
      exact admitted.room
    · rw [map_append, nodup_append]
      refine ⟨ids, nodup_singleton _, ?_⟩
      simp only [mem_map, mem_filter, map_cons, map_nil, mem_singleton]
      rintro _ ⟨other, ⟨_, differs⟩, rfl⟩ _ rfl
      exact of_decide_eq_true differs
    · rw [map_append, nodup_append]
      refine ⟨sessions, nodup_singleton _, ?_⟩
      simp only [mem_map, mem_filter, map_cons, map_nil, mem_singleton]
      rintro _ ⟨other, ⟨member, differs⟩, rfl⟩ _ rfl same
      exact of_decide_eq_true differs (admitted.session other member same)
    · rcases mem_append.mp isNew with rest | isLease
      · exact sound.steady (fun _ => id) filter_sublist.subset old isOld new rest same
      · rw [mem_singleton.mp isLease] at same ⊢
        exact (admitted.id old isOld same.symm).symm
  | releaseViewportLease =>
    cases isOk
    exact ⟨sound.filter _, sound.steady (fun _ => id) filter_sublist.subset⟩
  | releaseAllViewportLeases =>
    cases isOk
    exact ⟨⟨Nat.zero_le _, nodup_nil, nodup_nil⟩, by simp [Steady]⟩

variable {book : ViewportLeaseBook}

/-- What an accepted cursor satisfies. -/
theorem checkCursor_ok {cursor : LeaseCursor} (isOk : book.checkCursor cursor = .ok ()) :
    (∀ epoch, book.connectionEpoch = some epoch → cursor.epoch = epoch) ∧
      book.lastSequence < cursor.sequence := by
  cases epoch : book.connectionEpoch with
  | none => simpa [checkCursor, epoch, bind, Except.bind, pure, Except.pure] using isOk
  | some expected =>
    by_cases same : cursor.epoch = expected
    · simpa [checkCursor, epoch, same, bind, Except.bind, pure, Except.pure] using isOk
    · simp [checkCursor, epoch, same, bind, Except.bind, throw, throwThe, MonadExcept.throw,
        MonadExceptOf.throw] at isOk

/-- An expiry changes a book exactly if a lease has run out. -/
theorem expire_eq_self : book.expire now = book ↔
    ∀ active ∈ book.leases, active.expiresAtMs > now := by
  rw [expire, ViewportLeaseBook.mk.injEq]
  simp

/-! ## Whole sequences of calls -/

/-- The calls of the book. -/
inductive Call where
  | apply (message : ExtensionToHost) (receivedAtMs : Nat)
  | expire (nowMs : Nat)
  | leaseForSession (sessionId : String) (nowMs : Nat)
  | clearOnDisconnect

/-- A book with the cursors it has accepted on this connection. -/
structure Connection where
  book : ViewportLeaseBook
  accepted : List LeaseCursor

/-- One call of the book. -/
def Connection.call (connection : Connection) : Call → Connection
  | .apply message receivedAtMs =>
    let (book, result) := connection.book.apply message receivedAtMs
    ⟨book, match result with
      | .ok _ => connection.accepted ++ [message.cursor]
      | .error _ => connection.accepted⟩
  | .expire nowMs => { connection with book := connection.book.expire nowMs }
  | .leaseForSession sessionId nowMs =>
    { connection with book := (connection.book.leaseForSession sessionId nowMs).1 }
  | .clearOnDisconnect => ⟨connection.book.clearOnDisconnect, []⟩

/-- A connection after calls from its start. -/
def Connection.after (calls : List Call) : Connection := calls.foldl Connection.call ⟨new, []⟩

/-- The time of a call, up to which leases may have run out. -/
def Call.time : Call → Nat
  | .apply _ receivedAtMs => receivedAtMs
  | .expire nowMs | .leaseForSession _ nowMs => nowMs
  | .clearOnDisconnect => 0

/-- The invariant of a connection. -/
structure Connection.Inv (connection : Connection) : Prop where
  sound : Sound connection.book.leases
  oneEpoch : ∀ cursor ∈ connection.accepted, connection.book.connectionEpoch = some cursor.epoch
  upTo : ∀ cursor ∈ connection.accepted, cursor.sequence ≤ connection.book.lastSequence
  growing : connection.accepted.Pairwise (fun one other => one.sequence < other.sequence)

/-- The leases that have not run out. -/
def ViewportLeaseBook.live (book : ViewportLeaseBook) (now : Nat) : List ActiveLease :=
  (book.expire now).leases

/-- A call keeps the invariant, and no live lease changes its session. -/
theorem Connection.Inv.call {connection : Connection} (inv : connection.Inv) (call : Call) :
    (connection.call call).Inv ∧
      Steady (connection.book.live call.time) (connection.call call).book.leases := by
  obtain ⟨sound, oneEpoch, upTo, growing⟩ := inv
  cases call with
  | apply _ receivedAtMs =>
    simp only [Connection.call, ViewportLeaseBook.apply, Call.time]
    split
    · exact ⟨⟨sound, oneEpoch, upTo, growing⟩,
        sound.steady filter_sublist.subset (fun _ => id)⟩
    next passed =>
      obtain ⟨sameEpoch, newer⟩ := checkCursor_ok passed
      have live : Sound (connection.book.expire receivedAtMs).leases := sound.filter _
      split
      · exact ⟨⟨live, oneEpoch, upTo, growing⟩,
          live.steady (fun _ => id) (fun _ => id)⟩
      next _ _ isOk =>
        obtain ⟨stays, steady⟩ := live.change isOk
        refine ⟨⟨stays, ?_, ?_, ?_⟩, steady⟩
        · refine forall_mem_append.mpr ⟨fun cursor old => ?_, forall_mem_singleton.mpr rfl⟩
          rw [sameEpoch _ (oneEpoch cursor old)]
        · exact forall_mem_append.mpr
            ⟨fun cursor old => Nat.le_trans (upTo cursor old) (Nat.le_of_lt newer),
              forall_mem_singleton.mpr (Nat.le_refl _)⟩
        · rw [pairwise_append]
          refine ⟨growing, pairwise_singleton _ _, fun one old other isNew => ?_⟩
          rw [mem_singleton.mp isNew]
          exact Nat.lt_of_le_of_lt (upTo one old) newer
  | expire | leaseForSession =>
    exact ⟨⟨sound.filter _, oneEpoch, upTo, growing⟩,
      sound.steady filter_sublist.subset filter_sublist.subset⟩
  | clearOnDisconnect =>
    refine ⟨⟨⟨Nat.zero_le _, .nil, .nil⟩, ?_, ?_, .nil⟩, ?_⟩ <;>
      simp [Connection.call, clearOnDisconnect, new, Steady]

/-- The invariant holds after any calls. -/
theorem Connection.inv_after (calls : List Call) : (Connection.after calls).Inv := by
  induction calls using List.reverseRecOn with
  | nil => exact ⟨⟨Nat.zero_le _, .nil, .nil⟩, by simp [after], by simp [after], .nil⟩
  | append_singleton _ call ih =>
    rw [after, foldl_concat]
    exact (ih.call call).1

/-- The lease book after any sequence of calls. An apply that is refused leaves the book as it was
exactly if its cursor was refused or no lease had run out. -/
theorem lease_book (calls : List Call) :
    (Connection.after calls).book.leases.length ≤ 64 ∧
      ((Connection.after calls).book.leases.map (·.lease.sessionId)).Nodup ∧
      (∀ one ∈ (Connection.after calls).accepted, ∀ other ∈ (Connection.after calls).accepted,
        one.epoch = other.epoch) ∧
      (Connection.after calls).accepted.Pairwise (fun one other => one.sequence < other.sequence) ∧
      (∀ call, Steady ((Connection.after calls).book.live call.time)
        (Connection.after (calls ++ [call])).book.leases) ∧
      ∀ message receivedAtMs reason,
        ((Connection.after calls).book.apply message receivedAtMs).2 = .error reason →
        (((Connection.after calls).book.apply message receivedAtMs).1 = (Connection.after calls).book
          ↔ (Connection.after calls).book.checkCursor message.cursor = .error reason ∨
            ∀ active ∈ (Connection.after calls).book.leases, active.expiresAtMs > receivedAtMs) := by
  have inv := Connection.inv_after calls
  refine ⟨inv.sound.few, inv.sound.sessions, fun one isOne other isOther => ?_, inv.growing,
    fun call => ?_, fun message receivedAtMs reason failed => ?_⟩
  · exact Option.some.inj ((inv.oneEpoch one isOne).symm.trans (inv.oneEpoch other isOther))
  · rw [Connection.after, Connection.after, foldl_concat]
    exact (inv.call call).2
  · rw [← expire_eq_self]
    unfold ViewportLeaseBook.apply at failed ⊢
    cases passed : (Connection.after calls).book.checkCursor message.cursor with
    | error =>
      rw [passed] at failed
      exact iff_of_true rfl (.inl (congrArg _ (Except.error.inj failed)))
    | ok =>
      rw [passed] at failed
      dsimp only at failed ⊢
      split at failed
      · rw [or_iff_right (by simp)]
      · cases failed

/-- A lease of a session, with a number for its cursor. -/
def sampleLease (leaseId sessionId : String) (sequence ttlMs : Nat) : ExternalViewportLease :=
  ⟨leaseId, sessionId, ⟨1, sequence⟩, ⟨80, 24, 640, 384⟩, ttlMs⟩

/-- A refused lease for a session that is leased already takes another lease with it, which had run
out. -/
theorem refused_apply_drops_lease :
    let book := (Connection.after [.apply (.upsertViewportLease (sampleLease "a" "s" 1 10)) 0,
      .apply (.upsertViewportLease (sampleLease "b" "t" 2 1000)) 0]).book
    let outcome := book.apply (.upsertViewportLease (sampleLease "c" "t" 3 1000)) 20
    outcome.2 = .error .sessionAlreadyLeased ∧ book.leases.length = 2 ∧ outcome.1.leases.length = 1
      ∧ outcome.1 ≠ book := by
  decide

end HydraTerm.Extension
