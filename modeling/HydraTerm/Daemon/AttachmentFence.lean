import Mathlib

/-!
# The attachment fence of a session

A session counts the guards of its attachments and keeps two sets of handoff tokens: the
pending ones, each with the connection that offered it, and a bounded window of retired
ones. Every operation runs under the fence's own lock and is one function here.

A guard is consumed by its release, so only guards that are still active exist as values.
The lock's poisoning and the message texts' formatting are left out.
-/

namespace HydraTerm.Daemon

open List

/-- A one-shot capability to take over an attachment. -/
abbrev AttachmentHandoffToken := String

/-- What an attach request does with a token. -/
inductive AttachmentHandoff where
  | offer (token : AttachmentHandoffToken)
  | claim (token : AttachmentHandoffToken)

/-- Most tokens pending at once. -/
def maxAttachmentHandoffTokens : Nat := 64

/-- Size of the window of retired tokens. -/
def maxRetiredAttachmentHandoffTokens : Nat := 256

/-- The first count that does not fit `usize`. -/
def usizeCeiling : Nat := 2 ^ 64

/-- Ownership of one session. -/
structure AttachmentFence where
  activeGuards : Nat
  pendingHandoffs : AList (fun _ : AttachmentHandoffToken => Nat)
  retiredHandoffs : List AttachmentHandoffToken
  deriving DecidableEq

/-- A session starts unowned. -/
def AttachmentFence.default : AttachmentFence where
  activeGuards := 0
  pendingHandoffs := ∅
  retiredHandoffs := []

/-- An active attachment of a connection. -/
structure AttachmentGuard where
  offeredToken : Option AttachmentHandoffToken
  ownerNonce : Nat
  deriving DecidableEq

/-- Why an attachment was refused. -/
inductive AttachmentRefusal where
  | ownerCountOverflow
  | tokenAlreadyRetired
  | tokenPendingForAnotherClient
  | tokenLimitReached
  | tokenNotClaimable

/-- The text of a refusal. -/
def AttachmentRefusal.message : AttachmentRefusal → String
  | .ownerCountOverflow => "attachment owner count overflow"
  | .tokenAlreadyRetired => "attachment handoff token was already retired"
  | .tokenPendingForAnotherClient =>
    "attachment handoff token is already pending for another client"
  | .tokenLimitReached => "attachment handoff token limit reached (64)"
  | .tokenNotClaimable => "attachment handoff token is not claimable"

namespace AttachmentFence

variable (fence : AttachmentFence) (token : AttachmentHandoffToken)

/-- The token is in the window of retired ones. -/
def isRetired : Bool :=
  fence.retiredHandoffs.any (· == token)

/-- Retire a token, dropping the oldest retired one when the window is full. -/
def retire : AttachmentFence :=
  if fence.isRetired token then fence
  else
    let window :=
      if fence.retiredHandoffs.length = maxRetiredAttachmentHandoffTokens then
        fence.retiredHandoffs.tail
      else fence.retiredHandoffs
    { fence with retiredHandoffs := window ++ [token] }

/-- Take a pending token out and retire it. -/
def retirePending : AttachmentFence :=
  { fence with pendingHandoffs := fence.pendingHandoffs.erase token }.retire token

/-- Release a guard. An explicit release also retires the token it offered, if that is
still pending for the same connection. -/
def release (guard : AttachmentGuard) (explicit : Bool) : AttachmentFence :=
  let released := { fence with activeGuards := fence.activeGuards - 1 }
  if explicit then
    match guard.offeredToken with
    | some token =>
      if released.pendingHandoffs.lookup token = some guard.ownerNonce then
        released.retirePending token
      else released
    | none => released
  else released

/-- Acquire a guard. An offer makes its token pending; a claim consumes a pending token. -/
def acquire (handoff : Option AttachmentHandoff) (ownerNonce : Nat) :
    Except AttachmentRefusal (AttachmentFence × AttachmentGuard) :=
  if fence.activeGuards + 1 ≥ usizeCeiling then .error .ownerCountOverflow
  else
    let counted (settled : AttachmentFence) := { settled with activeGuards := fence.activeGuards + 1 }
    match handoff with
    | none => .ok (counted fence, ⟨none, ownerNonce⟩)
    | some (.offer token) =>
      if fence.isRetired token then .error .tokenAlreadyRetired
      else
        match fence.pendingHandoffs.lookup token with
        | some existing =>
          if existing = ownerNonce then .ok (counted fence, ⟨some token, ownerNonce⟩)
          else .error .tokenPendingForAnotherClient
        | none =>
          if fence.pendingHandoffs.entries.length ≥ maxAttachmentHandoffTokens then
            .error .tokenLimitReached
          else
            let offered := { fence with
              pendingHandoffs := fence.pendingHandoffs.insert token ownerNonce }
            .ok (counted offered, ⟨some token, ownerNonce⟩)
    | some (.claim token) =>
      match fence.pendingHandoffs.lookup token with
      | none => .error .tokenNotClaimable
      | some _ => .ok (counted (fence.retirePending token), ⟨none, ownerNonce⟩)

/-- Cancel a pending token. An unknown one is ignored. -/
def cancelHandoff : AttachmentFence :=
  match fence.pendingHandoffs.lookup token with
  | none => fence
  | some _ => fence.retirePending token

/-- Active guards and pending tokens protect the session. -/
def inUse : Bool :=
  decide (fence.activeGuards > 0) || !fence.pendingHandoffs.entries.isEmpty

end AttachmentFence

/-- Pending and retired tokens are kept apart and within their bounds. -/
structure TokensInv (fence : AttachmentFence) : Prop where
  disjoint : ∀ token ∈ fence.pendingHandoffs, token ∉ fence.retiredHandoffs
  pendingCap : fence.pendingHandoffs.entries.length ≤ maxAttachmentHandoffTokens
  retiredCap : fence.retiredHandoffs.length ≤ maxRetiredAttachmentHandoffTokens
  retiredNodup : fence.retiredHandoffs.Nodup

namespace AttachmentFence

variable {fence : AttachmentFence} {token : AttachmentHandoffToken}

theorem isRetired_iff : fence.isRetired token = true ↔ token ∈ fence.retiredHandoffs := by
  simp [isRetired]

@[simp] theorem retire_activeGuards : (fence.retire token).activeGuards = fence.activeGuards := by
  unfold retire
  split <;> rfl

@[simp] theorem retire_pendingHandoffs :
    (fence.retire token).pendingHandoffs = fence.pendingHandoffs := by
  unfold retire
  split <;> rfl

/-- A retired token is in the window. -/
theorem mem_retire : token ∈ (fence.retire token).retiredHandoffs := by
  unfold retire
  split
  next known => exact isRetired_iff.mp known
  · exact mem_append_right _ mem_cons_self

variable {other : AttachmentHandoffToken} {owner ownerNonce : Nat} {guard : AttachmentGuard}
  {handoff : Option AttachmentHandoff} {after : AttachmentFence}

/-- The window only gains the token that is retired. -/
theorem mem_of_mem_retire (member : other ∈ (fence.retire token).retiredHandoffs) :
    other ∈ fence.retiredHandoffs ∨ other = token := by
  unfold retire at member
  split at member
  · exact .inl member
  · rcases mem_append.mp member with old | new
    · left
      split at old
      · exact mem_of_mem_tail old
      · exact old
    · exact .inr (mem_singleton.mp new)

/-- Retiring a token that is not pending keeps the tokens apart and bounded. -/
theorem retire_tokensInv (inv : TokensInv fence) (gone : token ∉ fence.pendingHandoffs) :
    TokensInv (fence.retire token) := by
  by_cases known : fence.isRetired token = true
  · have unchanged : fence.retire token = fence := if_pos known
    rw [unchanged]
    exact inv
  · have fresh : token ∉ fence.retiredHandoffs := fun member => known (isRetired_iff.mpr member)
    have bound := inv.retiredCap
    have room : 0 < maxRetiredAttachmentHandoffTokens := by decide
    refine ⟨?_, ?_, ?_, ?_⟩
    · intro other pending member
      rw [retire_pendingHandoffs] at pending
      rcases mem_of_mem_retire member with old | rfl
      · exact inv.disjoint other pending old
      · exact gone pending
    · rw [retire_pendingHandoffs]
      exact inv.pendingCap
    · simp only [retire, if_neg known, length_append, length_cons, length_nil]
      split
      · rw [length_tail]
        omega
      · omega
    · simp only [retire, if_neg known, ← concat_eq_append]
      split
      · exact inv.retiredNodup.tail.concat fun member => fresh (mem_of_mem_tail member)
      · exact inv.retiredNodup.concat fresh

@[simp] theorem retirePending_activeGuards :
    (fence.retirePending token).activeGuards = fence.activeGuards := by
  simp [retirePending]

@[simp] theorem retirePending_pendingHandoffs :
    (fence.retirePending token).pendingHandoffs = fence.pendingHandoffs.erase token := by
  simp [retirePending]

/-- Retiring a pending token keeps the tokens apart and bounded. -/
theorem retirePending_tokensInv (inv : TokensInv fence) : TokensInv
    (fence.retirePending token) := by
  have erased : TokensInv { fence with pendingHandoffs := fence.pendingHandoffs.erase token } := by
    refine ⟨?_, ?_, inv.retiredCap, inv.retiredNodup⟩
    · intro other pending
      exact inv.disjoint other (AList.mem_erase.mp pending).2
    · have shorter : (fence.pendingHandoffs.erase token).entries.length
          ≤ fence.pendingHandoffs.entries.length :=
        (kerase_sublist token fence.pendingHandoffs.entries).length_le
      exact le_trans shorter inv.pendingCap
  apply retire_tokensInv erased
  intro pending
  exact (AList.mem_erase.mp pending).1 rfl

/-- A token that is still pending after another was retired. -/
theorem retirePending_lookup
    (pending : (fence.retirePending token).pendingHandoffs.lookup other = some owner) :
    other ≠ token ∧ fence.pendingHandoffs.lookup other = some owner := by
  rw [retirePending_pendingHandoffs] at pending
  have different : other ≠ token := by
    rintro rfl
    rw [AList.lookup_erase] at pending
    contradiction
  exact ⟨different, (AList.lookup_erase_ne different).symm.trans pending⟩

/-- After a release there is one guard fewer. -/
theorem release_activeGuards (guard : AttachmentGuard) (explicit : Bool) :
    (fence.release guard explicit).activeGuards = fence.activeGuards - 1 := by
  unfold release
  dsimp only
  split
  · split
    · split
      · simp
      · rfl
    · rfl
  · rfl

/-- A token that is still pending after a release was pending before, and is not the one
that an explicit release took back. -/
theorem release_pending {explicit : Bool}
    (pending : (fence.release guard explicit).pendingHandoffs.lookup other = some owner) :
    fence.pendingHandoffs.lookup other = some owner
      ∧ ¬(explicit = true ∧ guard.offeredToken = some other ∧ guard.ownerNonce = owner) := by
  unfold release at pending
  dsimp only at pending
  split at pending
  next _ =>
    split at pending
    next _ offered =>
      split at pending
      next _ =>
        obtain ⟨different, before⟩ := retirePending_lookup pending
        refine ⟨before, ?_⟩
        rintro ⟨_, sameToken, _⟩
        rw [offered] at sameToken
        exact different (Option.some.inj sameToken).symm
      next notMine =>
        refine ⟨pending, ?_⟩
        rintro ⟨_, sameToken, rfl⟩
        rw [offered] at sameToken
        cases sameToken
        exact notMine pending
    next plain =>
      refine ⟨pending, ?_⟩
      rintro ⟨_, sameToken, _⟩
      rw [plain] at sameToken
      contradiction
  next keeps =>
    refine ⟨pending, ?_⟩
    rintro ⟨retires, _⟩
    exact keeps retires

/-- Releasing keeps the tokens apart and bounded. -/
theorem release_tokensInv (inv : TokensInv fence) (guard : AttachmentGuard) (explicit : Bool) :
    TokensInv (fence.release guard explicit) := by
  have counted : TokensInv { fence with activeGuards := fence.activeGuards - 1 } :=
    ⟨inv.disjoint, inv.pendingCap, inv.retiredCap, inv.retiredNodup⟩
  unfold release
  dsimp only
  split
  · split
    · split
      · exact retirePending_tokensInv counted
      · exact counted
    · exact counted
  · exact counted

variable (fence : AttachmentFence) (ownerNonce : Nat) in
/-- The ways to acquire a guard. -/
inductive Acquired : Option AttachmentHandoff → AttachmentFence → AttachmentGuard → Prop
  | plain : Acquired none
      { fence with activeGuards := fence.activeGuards + 1 } ⟨none, ownerNonce⟩
  | repeated (token : AttachmentHandoffToken)
      (mine : fence.pendingHandoffs.lookup token = some ownerNonce) : Acquired (some (.offer token))
        { fence with activeGuards := fence.activeGuards + 1 } ⟨some token, ownerNonce⟩
  | offered (token : AttachmentHandoffToken) (live : token ∉ fence.retiredHandoffs)
      (absent : token ∉ fence.pendingHandoffs)
      (room : fence.pendingHandoffs.entries.length < maxAttachmentHandoffTokens) :
      Acquired (some (.offer token))
        { fence with
          activeGuards := fence.activeGuards + 1
          pendingHandoffs := fence.pendingHandoffs.insert token ownerNonce }
        ⟨some token, ownerNonce⟩
  | claimed (token : AttachmentHandoffToken) (pending : token ∈ fence.pendingHandoffs) :
      Acquired (some (.claim token))
        { fence.retirePending token with activeGuards := fence.activeGuards + 1 }
        ⟨none, ownerNonce⟩

/-- An acquisition that succeeds is one of these. -/
theorem acquired_of_acquire (succeeded : fence.acquire handoff ownerNonce = .ok (after, guard)) :
    Acquired fence ownerNonce handoff after guard := by
  unfold acquire at succeeded
  split at succeeded
  · contradiction
  · dsimp only at succeeded
    split at succeeded
    · cases succeeded
      exact .plain
    next token =>
      split at succeeded
      · contradiction
      next live =>
        split at succeeded
        next existing pending =>
          split at succeeded
          next mine =>
            cases succeeded
            exact .repeated token (mine ▸ pending)
          · contradiction
        next absent =>
          split at succeeded
          · contradiction
          next room =>
            cases succeeded
            refine .offered token ?_ (AList.lookup_eq_none.mp absent) (by omega)
            exact fun member => live (isRetired_iff.mpr member)
    next token =>
      split at succeeded
      · contradiction
      next owner pending =>
        cases succeeded
        exact .claimed token (AList.lookup_isSome.mp (pending ▸ rfl))

section

variable (acquired : Acquired fence ownerNonce handoff after guard)
include acquired

/-- Acquiring adds one guard, of the asking connection. -/
theorem Acquired.counted :
    after.activeGuards = fence.activeGuards + 1 ∧ guard.ownerNonce = ownerNonce := by
  cases acquired <;> exact ⟨rfl, rfl⟩

/-- A token pending after an acquisition was pending before or is carried by the new guard. -/
theorem Acquired.pending {token : AttachmentHandoffToken}
    (pending : after.pendingHandoffs.lookup token = some owner) :
    fence.pendingHandoffs.lookup token = some owner
      ∨ (owner = ownerNonce ∧ guard.offeredToken = some token) := by
  cases acquired with
  | plain | repeated offered mine => exact .inl pending
  | offered offered =>
    by_cases same : token = offered
    · subst same
      rw [AList.lookup_insert] at pending
      exact .inr ⟨(Option.some.inj pending).symm, rfl⟩
    · rw [AList.lookup_insert_ne same] at pending
      exact .inl pending
  | claimed => exact .inl (retirePending_lookup pending).2

/-- Acquiring keeps the tokens apart and bounded. -/
theorem Acquired.tokensInv (inv : TokensInv fence) : TokensInv after := by
  cases acquired with
  | plain | repeated token mine =>
    exact ⟨inv.disjoint, inv.pendingCap, inv.retiredCap, inv.retiredNodup⟩
  | offered _ live absent =>
    refine ⟨?_, ?_, inv.retiredCap, inv.retiredNodup⟩
    · intro other pending
      rcases AList.mem_insert _ |>.mp pending with rfl | old
      · exact live
      · exact inv.disjoint other old
    · rw [AList.entries_insert_of_notMem absent, length_cons]
      omega
  | claimed token =>
    have retired : TokensInv (fence.retirePending token) := retirePending_tokensInv inv
    exact ⟨retired.disjoint, retired.pendingCap, retired.retiredCap, retired.retiredNodup⟩

end

/-- Cancelling keeps the tokens apart and bounded, the guards as they are, and no token
pending that was not. -/
theorem cancelHandoff_spec (inv : TokensInv fence) (token : AttachmentHandoffToken) :
    TokensInv (fence.cancelHandoff token)
      ∧ (fence.cancelHandoff token).activeGuards = fence.activeGuards
      ∧ ∀ {other : AttachmentHandoffToken} {owner : Nat},
        (fence.cancelHandoff token).pendingHandoffs.lookup other = some owner →
          fence.pendingHandoffs.lookup other = some owner := by
  unfold cancelHandoff
  split
  · exact ⟨inv, rfl, id⟩
  · refine ⟨retirePending_tokensInv inv, retirePending_activeGuards, ?_⟩
    intro other owner pending
    exact (retirePending_lookup pending).2

end AttachmentFence

end HydraTerm.Daemon
