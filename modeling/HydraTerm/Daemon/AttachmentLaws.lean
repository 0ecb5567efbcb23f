import HydraTerm.Daemon.Attachments

/-!
# Ownership and one-shot handoff

The laws of a session's attachments over every interleaving of its connections: the count of
active guards is exact, pending and retired tokens are apart and bounded, every pending token
has a connected owner that still carries it, a claim never leaves the session unprotected,
and a token in the window of retired ones cannot be claimed again.
-/

namespace HydraTerm.Daemon

open Lib List
open Attachments (step)

variable {after system : Attachments} {index : Nat} {actions : List AttachmentAction}
  {action : AttachmentAction} {before : Attachments} {other : Nat}

/-- Every step keeps the invariant. -/
theorem attachmentsInv_step (step : AttachmentStep before action after)
    (inv : AttachmentsInv before) : AttachmentsInv after := by
  cases step
  cases action with
  | connect =>
    simp only [step, Attachments.connect]
    split
    · exact inv
    · refine ⟨inv.tokens, ?_, ?_, ?_⟩
      · rw [tally_append]
        exact inv.counted
      · exact forall_mem_append.mpr
          ⟨inv.clients, forall_mem_singleton.mpr ⟨nofun, nofun, nofun⟩⟩
      · intro token owner pending
        obtain ⟨client, member, rest⟩ := inv.owners token owner pending
        exact ⟨client, mem_append_left _ member, rest⟩
  | acquire index handoff expected => exact inv.acquire index handoff expected
  | install index => exact inv.install index
  | detach index | disconnect index =>
    apply inv.leave index
    intro client free
    simp [ClientState.guards, free]
  | cancel token =>
    obtain ⟨tokens, count, stays⟩ := AttachmentFence.cancelHandoff_spec inv.tokens token
    simp only [step]
    split
    · refine ⟨tokens, count.trans inv.counted, inv.clients, ?_⟩
      exact fun other owner pending => inv.owners other owner (stays pending)
    · exact inv
  | releaseForKill index =>
    apply inv.leave index
    intro client free
    cases client.attachment with
    | none | some old => simp [ClientState.guards, free]
  | take =>
    simp only [step, Attachments.take]
    split
    · exact { inv with }
    · exact inv

/-- The invariant holds for a new session. -/
theorem attachmentsInv_new (generation : String) (nextNonce : Nat) :
    AttachmentsInv (Attachments.new generation nextNonce) := by
  refine ⟨⟨?_, Nat.zero_le _, Nat.zero_le _, nodup_nil⟩, rfl, ?_, ?_⟩
  · intro token pending
    exact absurd pending (AList.notMem_empty token)
  · rintro client ⟨⟩
  · intro token owner pending
    contradiction

/-- The action gives up the attachment of the connection at `index`. -/
def AttachmentAction.leaves (index : Nat) : AttachmentAction → Prop
  | .detach other | .releaseForKill other | .disconnect other => other = index
  | _ => False

/-- The connection at `index` holds a guard. -/
def HoldsGuard (system : Attachments) (index : Nat) : Prop :=
  ∃ client, system.clients[index]? = some client ∧ client.guards ≠ []

/-- While anybody holds a guard the session is protected. -/
theorem AttachmentsInv.protected (inv : AttachmentsInv system)
    (holds : HoldsGuard system index) : system.fence.inUse = true := by
  obtain ⟨client, located, held⟩ := holds
  have enough := inv.guards_le (mem_of_getElem? located)
  have positive : 0 < client.guards.length := length_pos_iff.mpr held
  simp only [AttachmentFence.inUse, Bool.or_eq_true, decide_eq_true_eq]
  left
  omega

/-- Replacing one connection keeps the guards of another. -/
theorem holdsGuard_set {client : ClientState}
    (clients : after.clients = system.clients.set other client) (holds : HoldsGuard system index)
    (keeps : other = index → client.guards ≠ []) : HoldsGuard after index := by
  obtain ⟨old, located, held⟩ := holds
  by_cases here : other = index
  · refine ⟨client, ?_, keeps here⟩
    have inside := (List.getElem?_eq_some_iff.mp located).1
    rw [clients, here, getElem?_set_self inside]
  · exact ⟨old, by rw [clients, getElem?_set_ne here, located], held⟩

/-- Giving up another connection's attachment keeps the guards of this one. -/
theorem holdsGuard_leave (after : ClientState → ClientState) (different : other ≠ index)
    (holds : HoldsGuard system index) : HoldsGuard (system.leave other after) index := by
  unfold Attachments.leave
  split
  · exact holds
  · split
    · exact holdsGuard_set rfl holds (fun same => absurd same different)
    · exact holds

/-- A connection keeps its guard until it gives it up itself. -/
theorem holdsGuard_step (step : AttachmentStep before action after) (stays : ¬action.leaves index)
    (holds : HoldsGuard before index) : HoldsGuard after index := by
  cases step
  cases action with
  | connect =>
    simp only [step, Attachments.connect]
    split
    · exact holds
    · obtain ⟨client, located, held⟩ := holds
      have inside := (List.getElem?_eq_some_iff.mp located).1
      exact ⟨client, by rw [getElem?_append_left inside, located], held⟩
  | acquire =>
    simp only [step, Attachments.acquire]
    split
    · exact holds
    · split
      · split
        · exact holds
        · refine holdsGuard_set rfl holds ?_
          intro _
          simp [ClientState.guards]
      · exact holds
  | install =>
    simp only [step, Attachments.install]
    split
    · exact holds
    · split
      · exact holds
      · refine holdsGuard_set rfl holds ?_
        intro _ empty
        contradiction
  | detach other | releaseForKill other | disconnect other =>
    exact holdsGuard_leave _ stays holds
  | cancel =>
    simp only [step]
    split <;> exact holds
  | take =>
    simp only [step, Attachments.take]
    split <;> exact holds

/-- The same along any interleaving without such an action. -/
theorem holdsGuard_run {first last : Attachments}
    (run : Run AttachmentStep first actions last) (stays : ∀ action ∈ actions, ¬action.leaves index)
    (holds : HoldsGuard first index) : HoldsGuard last index := by
  induction run with
  | nil => exact holds
  | cons step _ ih =>
    obtain ⟨staysNow, staysLater⟩ := forall_mem_cons.mp stays
    exact ih staysLater (holdsGuard_step step staysNow holds)

/-- A claim that changes anything consumed a pending token for a guard of its connection. -/
theorem claim_succeeded {token : AttachmentHandoffToken} {expected : Option String}
    (changed : system.step (.acquire index (some (.claim token)) expected) ≠ system) :
    token ∈ system.fence.pendingHandoffs
      ∧ token ∈ (system.step (.acquire index (some (.claim token)) expected)).fence.retiredHandoffs
      ∧ HoldsGuard (system.step (.acquire index (some (.claim token)) expected)) index := by
  simp only [step, Attachments.acquire] at changed ⊢
  split at changed
  · contradiction
  next _ located =>
    split at changed
    next allowed =>
      split at changed
      · contradiction
      next _ _ succeeded =>
        cases AttachmentFence.acquired_of_acquire succeeded with
        | claimed _ pending =>
          have inside := (List.getElem?_eq_some_iff.mp located).1
          rw [if_pos allowed]
          refine ⟨pending, AttachmentFence.mem_retire, _, getElem?_set_self inside, ?_⟩
          intro empty
          contradiction
    · contradiction

/-- The laws of a session's attachments, in every state of every interleaving. -/
theorem attachment_ownership (generation : String) (nextNonce : Nat)
    {actions : List AttachmentAction} {system : Attachments}
    (run : Run AttachmentStep (Attachments.new generation nextNonce) actions system) :
    system.fence.activeGuards = tally (·.guards.length) system.clients
    ∧ (∀ token ∈ system.fence.pendingHandoffs, token ∉ system.fence.retiredHandoffs)
    ∧ system.fence.pendingHandoffs.entries.length ≤ maxAttachmentHandoffTokens
    ∧ system.fence.retiredHandoffs.length ≤ maxRetiredAttachmentHandoffTokens
    ∧ system.fence.retiredHandoffs.Nodup
    ∧ (∀ token owner, system.fence.pendingHandoffs.lookup token = some owner →
      ∃ client ∈ system.clients, client.ownerNonce = owner ∧ client.connected = true
        ∧ client.Carries token)
    ∧ (∀ index token expected between later,
      system.step (.acquire index (some (.claim token)) expected) ≠ system →
      Run AttachmentStep (system.step (.acquire index (some (.claim token)) expected)) between later →
      (∀ action ∈ between, ¬action.leaves index) →
      system.fence.inUse = true ∧ later.fence.inUse = true
        ∧ (later.step (.install index)).fence.inUse = true)
    ∧ (∀ index token expected,
      system.step (.acquire index (some (.claim token)) expected) ≠ system →
      token ∈ (system.step (.acquire index (some (.claim token)) expected)).fence.retiredHandoffs)
    ∧ (∀ token ∈ system.fence.retiredHandoffs, ∀ index expected,
      system.step (.acquire index (some (.claim token)) expected) = system)
    ∧ ((∀ client ∈ system.clients, client.connected = false) → system.fence.inUse = false) := by
  have inv := run.invariant (attachmentsInv_new generation nextNonce) attachmentsInv_step
  refine ⟨inv.counted, inv.tokens.disjoint, inv.tokens.pendingCap, inv.tokens.retiredCap,
    inv.tokens.retiredNodup, inv.owners, ?_, ?_, ?_, ?_⟩
  · intro index token expected between later changed between_run stays
    obtain ⟨pending, _, holds⟩ := claim_succeeded changed
    have afterClaim : AttachmentsInv
        (system.step (.acquire index (some (.claim token)) expected)) := attachmentsInv_step rfl inv
    have laterInv := between_run.invariant afterClaim attachmentsInv_step
    have held := holdsGuard_run between_run stays holds
    have installed : HoldsGuard (later.step (.install index)) index :=
      holdsGuard_step rfl (fun leaves => leaves) held
    refine ⟨?_, laterInv.protected held, (attachmentsInv_step rfl laterInv).protected installed⟩
    simp only [AttachmentFence.inUse, Bool.or_eq_true, Bool.not_eq_true', isEmpty_eq_false_iff]
    right
    intro empty
    rw [AList.mem_keys, AList.keys, empty] at pending
    contradiction
  · intro index token expected changed
    exact (claim_succeeded changed).2.1
  · intro token retired index expected
    by_contra changed
    exact inv.tokens.disjoint token (claim_succeeded changed).1 retired
  · intro gone
    have unguarded : system.fence.activeGuards = 0 := by
      rw [inv.counted]
      apply tally_eq_zero
      intro client member
      rw [(inv.clients client member).gone (gone client member), length_nil]
    have unclaimed : system.fence.pendingHandoffs.entries = [] := by
      by_contra pending
      obtain ⟨entry, member⟩ := exists_mem_of_ne_nil _ pending
      have found := AList.mem_lookup_iff.mpr member
      obtain ⟨client, inClients, _, connected, _⟩ := inv.owners entry.1 entry.2 found
      rw [gone client inClients] at connected
      contradiction
    simp [AttachmentFence.inUse, unguarded, unclaimed]

/-- Two connections, the first of which attaches and offers a token. -/
def offeredOnce : Attachments :=
  [.connect, .connect, .acquire 0 (some (.offer "t")) none, .install 0].foldl Attachments.step
    (Attachments.new "g" 0)

/-- The second connection can claim the token, and meanwhile the first may leave. -/
theorem attachment_ownership_claim :
    offeredOnce.step (.acquire 1 (some (.claim "t")) none) ≠ offeredOnce
    ∧ offeredOnce.fence.inUse = true
    ∧ ((offeredOnce.step (.acquire 1 (some (.claim "t")) none)).step (.disconnect 0)).fence.inUse
      = true
    ∧ (((offeredOnce.step (.acquire 1 (some (.claim "t")) none)).step (.disconnect 0)).step
      (.install 1)).fence.inUse = true := by
  have claimed : offeredOnce.step (.acquire 1 (some (.claim "t")) none) ≠ offeredOnce := by
    decide +kernel
  have stays : ∀ action ∈ [AttachmentAction.disconnect 0], ¬action.leaves 1 := by
    intro action member
    rw [mem_singleton.mp member]
    exact Nat.zero_ne_one
  have taken : ∀ system action, AttachmentStep system action (system.step action) :=
    fun _ _ => rfl
  have offered : Run AttachmentStep (Attachments.new "g" 0)
      [.connect, .connect, .acquire 0 (some (.offer "t")) none, .install 0] offeredOnce :=
    Run.of_foldl Attachments.step taken _ _
  exact ⟨claimed, (attachment_ownership "g" 0 offered).2.2.2.2.2.2.1 1 "t" none
    [.disconnect 0] _ claimed (.single rfl) stays⟩

end HydraTerm.Daemon
