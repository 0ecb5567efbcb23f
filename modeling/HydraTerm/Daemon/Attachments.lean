import HydraTerm.Daemon.AttachmentFence
import HydraTerm.Lib.Runs
import HydraTerm.Lib.Tally

/-!
# Attachments of all connections to one session

Each connection keeps at most one attachment to the session. A new attach request first
acquires its guard and then installs it in place of the old one. The two are separate steps,
since other connections run in between; the connection itself does nothing else until the
guard is installed, because nothing is awaited between the two. `incoming` is a guard that
has been acquired and not yet installed.

A kill first releases the connection's own guard and then tries to take the session out of
the map, which the fence refuses while anything protects it. A connection that ends releases
its attachment explicitly. Refusals close or silence the connection that caused them; the
model lets it go on, which only adds interleavings.

The session is the one object with its generation; a later session under the same name has
a fence of its own. The Windows path, which adds a retirement flag, is not modelled.
-/

namespace HydraTerm.Daemon

open Lib List

/-- One attachment of a connection. The guard is gone after the connection's own kill. -/
structure ClientAttachment where
  guard : Option AttachmentGuard
  offeredToken : Option AttachmentHandoffToken
  deriving DecidableEq

/-- A connection, as far as this session is concerned. -/
structure ClientState where
  ownerNonce : Nat
  connected : Bool
  attachment : Option ClientAttachment
  incoming : Option AttachmentGuard
  deriving DecidableEq

variable (client : ClientState)

/-- The guards a connection holds. -/
def ClientState.guards : List AttachmentGuard :=
  client.incoming.toList ++ (client.attachment.bind ClientAttachment.guard).toList

/-- The session's fence and every connection there has been. -/
structure Attachments where
  fence : AttachmentFence
  mapped : Bool
  generation : String
  nextNonce : Nat
  clients : List ClientState
  deriving DecidableEq

/-- A freshly started session. -/
def Attachments.new (generation : String) (nextNonce : Nat) : Attachments where
  fence := .default
  mapped := true
  generation := generation
  nextNonce := nextNonce
  clients := []

/-- What can happen to a session's attachments. -/
inductive AttachmentAction where
  | connect
  | acquire (index : Nat) (handoff : Option AttachmentHandoff) (expected : Option String)
  | install (index : Nat)
  | detach (index : Nat)
  | cancel (token : AttachmentHandoffToken)
  | releaseForKill (index : Nat)
  | take (expected : String)
  | disconnect (index : Nat)

section

variable (attachment : ClientAttachment) (fence : AttachmentFence)

/-- Release of the guard of an attachment, if it has one. -/
def ClientAttachment.release (explicit : Bool) : AttachmentFence :=
  match attachment.guard with
  | some guard => fence.release guard explicit
  | none => fence

/-- Explicit release of an attachment. -/
def ClientAttachment.detach : AttachmentFence := attachment.release fence true

/-- Release by dropping the attachment: a token it offered stays pending. -/
def ClientAttachment.drop : AttachmentFence := attachment.release fence false

end

/-- The replacement repeats the offer of the attachment it replaces. -/
def preservesSameOffer (old new : ClientAttachment) : Bool :=
  new.offeredToken.isSome && old.offeredToken == new.offeredToken

/-- A generation a request may name. -/
def expectedGenerationMatches (expected : Option String) (generation : String) : Bool :=
  match expected with
  | none => true
  | some expected =>
    !expected.isEmpty && decide (expected.utf8ByteSize ≤ 128) && expected == generation

/-- The connection can start another request. -/
def ClientState.ready : Bool :=
  client.connected && client.incoming.isNone

/-- The connection with an acquired guard as its attachment. -/
def ClientState.withGuard (guard : AttachmentGuard) : ClientState :=
  { client with attachment := some ⟨some guard, guard.offeredToken⟩, incoming := none }

namespace Attachments

variable (system : Attachments) (index : Nat)

/-- A connection arrives and is given the next owner nonce. -/
def connect : Attachments :=
  if system.nextNonce + 1 ≥ 2 ^ 64 then system
  else
    { system with
      nextNonce := system.nextNonce + 1
      clients := system.clients ++
        [{ ownerNonce := system.nextNonce + 1, connected := true, attachment := none,
           incoming := none }] }

/-- Acquire a guard under the map lock. -/
def acquire (handoff : Option AttachmentHandoff) (expected : Option String) : Attachments :=
  match system.clients[index]? with
  | none => system
  | some client =>
    if client.ready && system.mapped && expectedGenerationMatches expected system.generation then
      match system.fence.acquire handoff client.ownerNonce with
      | .error _ => system
      | .ok (fence, guard) =>
        { system with
          fence := fence
          clients := system.clients.set index { client with incoming := some guard } }
    else system

/-- Install an acquired guard. Only now may the old one go. -/
def install : Attachments :=
  match system.clients[index]? with
  | none => system
  | some client =>
    match client.incoming with
    | none => system
    | some guard =>
      let attachment : ClientAttachment := ⟨some guard, guard.offeredToken⟩
      let fence := match client.attachment with
        | none => system.fence
        | some old =>
          if preservesSameOffer old attachment then old.drop system.fence
          else old.detach system.fence
      { system with
        fence := fence
        clients := system.clients.set index (client.withGuard guard) }

/-- Give up the attachment, if there is one, and leave the connection as `after`. -/
def leave (after : ClientState → ClientState) : Attachments :=
  match system.clients[index]? with
  | none => system
  | some client =>
    if client.ready then
      { system with
        fence := (client.attachment.map (fun old => old.detach system.fence)).getD system.fence
        clients := system.clients.set index (after client) }
    else system

/-- An explicit detach. -/
def detach : Attachments :=
  system.leave index (fun client => { client with attachment := none })

/-- Release the connection's own guard before its kill. The attachment stays, without guard
or token. -/
def releaseForKill : Attachments :=
  system.leave index (fun client =>
    { client with attachment := client.attachment.map (fun _ => ⟨none, none⟩) })

/-- The connection ends. -/
def disconnect : Attachments :=
  system.leave index (fun client => { client with attachment := none, connected := false })

/-- Take the session out of the map, if it is the expected one and nothing protects it. -/
def take (expected : String) : Attachments :=
  if system.mapped && system.generation == expected && !system.fence.inUse then
    { system with mapped := false }
  else system

/-- One step. -/
def step : AttachmentAction → Attachments
  | .connect => system.connect
  | .acquire index handoff expected => system.acquire index handoff expected
  | .install index => system.install index
  | .detach index => system.detach index
  | .cancel token =>
    if system.mapped then { system with fence := system.fence.cancelHandoff token } else system
  | .releaseForKill index => system.releaseForKill index
  | .take expected => system.take expected
  | .disconnect index => system.disconnect index

end Attachments

/-- The attachments as a transition system. -/
def AttachmentStep (before : Attachments) (action : AttachmentAction) (after : Attachments) : Prop :=
  after = before.step action

/-- A guard of the connection carries the token. -/
def ClientState.Carries (token : AttachmentHandoffToken) : Prop :=
  ∃ guard ∈ client.guards, guard.offeredToken = some token

/-- What one connection's record satisfies. -/
structure ClientInv : Prop where
  owned : ∀ guard ∈ client.guards, guard.ownerNonce = client.ownerNonce
  recorded : ∀ attachment guard, client.attachment = some attachment →
    attachment.guard = some guard → attachment.offeredToken = guard.offeredToken
  gone : client.connected = false → client.guards = []

/-- The invariant of a session's attachments. -/
structure AttachmentsInv (system : Attachments) : Prop where
  tokens : TokensInv system.fence
  counted : system.fence.activeGuards = tally (·.guards.length) system.clients
  clients : ∀ client ∈ system.clients, ClientInv client
  owners : ∀ token owner, system.fence.pendingHandoffs.lookup token = some owner →
    ∃ client ∈ system.clients, client.ownerNonce = owner ∧ client.connected = true
      ∧ client.Carries token

variable {client} {system : Attachments} {fence : AttachmentFence}

/-- Replacing one connection and the fence keeps the invariant when the counts agree and
every pending token keeps a carrier. -/
theorem AttachmentsInv.update (inv : AttachmentsInv system) {index : Nat}
    (located : system.clients[index]? = some client)
    {after : ClientState} (tokens : TokensInv fence)
    (counted : fence.activeGuards + client.guards.length
      = system.fence.activeGuards + after.guards.length) (record : ClientInv after)
    (carriers : ∀ token owner, fence.pendingHandoffs.lookup token = some owner →
      (system.fence.pendingHandoffs.lookup token = some owner
          ∧ (client.ownerNonce = owner → client.Carries token →
            after.ownerNonce = owner ∧ after.connected = true ∧ after.Carries token))
        ∨ (after.ownerNonce = owner ∧ after.connected = true ∧ after.Carries token)) :
    AttachmentsInv { system with fence := fence, clients := system.clients.set index after } := by
  have moved := tally_set (fun client : ClientState => client.guards.length) located after
  have inside := (List.getElem?_eq_some_iff.mp located).1
  have replaced : after ∈ system.clients.set index after := mem_set inside after
  refine ⟨tokens, ?_, ?_, ?_⟩
  · have before := inv.counted
    dsimp only at moved ⊢
    omega
  · intro other member
    rcases mem_or_eq_of_mem_set member with old | rfl
    · exact inv.clients other old
    · exact record
  · intro token owner pending
    rcases carriers token owner pending with ⟨before, kept⟩ | ⟨nonce, connected, carries⟩
    · obtain ⟨carrier, member, nonce, connected, carries⟩ := inv.owners token owner before
      obtain ⟨position, found⟩ := mem_iff_getElem?.mp member
      by_cases here : position = index
      · rw [here, located] at found
        cases found
        obtain ⟨sameNonce, stillConnected, stillCarries⟩ := kept nonce carries
        exact ⟨after, replaced, sameNonce, stillConnected, stillCarries⟩
      · refine ⟨carrier, ?_, nonce, connected, carries⟩
        apply mem_iff_getElem?.mpr
        exact ⟨position, by rw [getElem?_set_ne (Ne.symm here), found]⟩
    · exact ⟨after, replaced, nonce, connected, carries⟩

/-- Acquiring a guard keeps the invariant. -/
theorem AttachmentsInv.acquire (inv : AttachmentsInv system) (index : Nat)
    (handoff : Option AttachmentHandoff) (expected : Option String) :
    AttachmentsInv (system.acquire index handoff expected) := by
  unfold Attachments.acquire
  split
  · exact inv
  next client located =>
    have record := inv.clients client (mem_of_getElem? located)
    split
    next allowed =>
      simp only [ClientState.ready, Bool.and_eq_true, Option.isNone_iff_eq_none] at allowed
      obtain ⟨⟨⟨connected, free⟩, _⟩, _⟩ := allowed
      split
      · exact inv
      next _ guard succeeded =>
        have acquired := AttachmentFence.acquired_of_acquire succeeded
        obtain ⟨_, nonce⟩ := acquired.counted
        have guards : ({ client with incoming := some guard } : ClientState).guards
            = guard :: client.guards := by
          simp [ClientState.guards, free]
        refine inv.update located (acquired.tokensInv inv.tokens) ?_ ?_ ?_
        · rw [guards, length_cons]
          omega
        · refine ⟨?_, record.recorded, ?_⟩
          · intro other member
            rw [guards] at member
            rcases mem_cons.mp member with rfl | old
            · exact nonce
            · exact record.owned other old
          · intro disconnected
            rw [connected] at disconnected
            contradiction
        · intro token owner pending
          rcases acquired.pending pending with before | ⟨rfl, offered⟩
          · left
            refine ⟨before, ?_⟩
            rintro rfl ⟨carrier, member, carries⟩
            refine ⟨rfl, connected, carrier, ?_, carries⟩
            rw [guards]
            exact mem_cons_of_mem guard member
          · right
            refine ⟨rfl, connected, guard, ?_, offered⟩
            exact mem_cons_self
    · exact inv

/-- What giving up a guard does to the fence: a token it offered does not stay pending for its owner,
unless it is offered again. -/
structure GivenUp (fence after : AttachmentFence) (old : Option AttachmentGuard)
    (again : Option AttachmentHandoffToken) : Prop where
  tokens : TokensInv after
  count : after.activeGuards = fence.activeGuards - old.toList.length
  stays : ∀ {token owner}, after.pendingHandoffs.lookup token = some owner →
    fence.pendingHandoffs.lookup token = some owner ∧ ∀ guard, old = some guard →
      guard.offeredToken = some token → guard.ownerNonce ≠ owner ∨ again = some token

variable {again : Option AttachmentHandoffToken}

theorem givenUp_none (tokens : TokensInv fence) : GivenUp fence fence none again :=
  ⟨tokens, rfl, fun pending => ⟨pending, nofun⟩⟩

/-- An attachment that is dropped leaves its token pending, which the new guard then offers. -/
theorem givenUp_release (tokens : TokensInv fence) (attachment : ClientAttachment) {explicit : Bool}
    (sameOffer : explicit = true ∨
      ∀ guard, attachment.guard = some guard → guard.offeredToken = again) :
    GivenUp fence (attachment.release fence explicit) attachment.guard again := by
  unfold ClientAttachment.release
  split
  next guard held =>
    rw [held]
    refine ⟨AttachmentFence.release_tokensInv tokens guard explicit,
      AttachmentFence.release_activeGuards guard explicit, fun pending => ?_⟩
    obtain ⟨before, notMine⟩ := AttachmentFence.release_pending pending
    refine ⟨before, ?_⟩
    rintro _ ⟨⟩ offered
    rcases sameOffer with rfl | same
    · exact .inl fun mine => notMine ⟨rfl, offered, mine⟩
    · exact .inr ((same guard held).symm.trans offered)
  next none =>
    rw [none]
    exact givenUp_none tokens

/-- The fence counts at least the guards of any one connection. -/
theorem AttachmentsInv.guards_le (inv : AttachmentsInv system) (member : client ∈ system.clients) :
    client.guards.length ≤ system.fence.activeGuards := by
  rw [inv.counted]
  exact le_tally (fun client : ClientState => client.guards.length) member

/-- Giving up the attachment keeps the invariant, whatever else is recorded, as long as the
connection is left without guards. -/
theorem AttachmentsInv.leave (inv : AttachmentsInv system) (index : Nat)
    {after : ClientState → ClientState}
    (empty : ∀ client, client.incoming = none → (after client).guards = []) :
    AttachmentsInv (system.leave index after) := by
  unfold Attachments.leave
  split
  · exact inv
  next client located =>
    have member := mem_of_getElem? located
    have record := inv.clients client member
    have enough := inv.guards_le member
    split
    next ready =>
      simp only [ClientState.ready, Bool.and_eq_true, Option.isNone_iff_eq_none] at ready
      obtain ⟨_, free⟩ := ready
      have none := empty client free
      have bare : ClientInv (after client) := by
        refine ⟨?_, ?_, fun _ => none⟩
        · intro guard held
          rw [none] at held
          contradiction
        · intro attachment guard installed held
          have carried : guard ∈ (after client).guards := by
            simp only [ClientState.guards, installed, Option.bind_some, held, Option.toList_some]
            exact mem_append_right _ mem_cons_self
          rw [none] at carried
          contradiction
      have guards : client.guards = (client.attachment.bind ClientAttachment.guard).toList := by
        rw [ClientState.guards, free]
        rfl
      have gives : GivenUp system.fence
          ((client.attachment.map fun old => old.detach system.fence).getD system.fence)
          (client.attachment.bind ClientAttachment.guard) .none := by
        cases client.attachment with
        | none => exact givenUp_none inv.tokens
        | some old => exact givenUp_release inv.tokens old (.inl rfl)
      refine inv.update located gives.tokens ?_ bare ?_
      · rw [gives.count, none, length_nil]
        rw [guards] at enough ⊢
        omega
      · intro token owner pending
        obtain ⟨before, notMine⟩ := gives.stays pending
        refine .inl ⟨before, ?_⟩
        rintro rfl ⟨guard, held, offered⟩
        have mine := record.owned guard held
        rw [guards, Option.mem_toList] at held
        exact (notMine guard held offered).elim (absurd mine) nofun
    · exact inv

/-- Installing an acquired guard keeps the invariant. -/
theorem AttachmentsInv.install (inv : AttachmentsInv system) (index : Nat) :
    AttachmentsInv (system.install index) := by
  unfold Attachments.install
  split
  · exact inv
  next client located =>
    have member := mem_of_getElem? located
    have record := inv.clients client member
    have enough := inv.guards_le member
    split
    · exact inv
    next guard acquired =>
      have newGuards : (client.withGuard guard).guards = [guard] := rfl
      have held : guard ∈ client.guards := by
        simp only [ClientState.guards, acquired, Option.toList_some]
        exact mem_append_left _ mem_cons_self
      have connected : client.connected = true := by
        by_contra off
        have none := record.gone (Bool.eq_false_iff.mpr off)
        rw [none] at held
        contradiction
      have after : ClientInv (client.withGuard guard) := by
        refine ⟨?_, ?_, ?_⟩
        · intro other found
          rw [mem_singleton.mp found]
          exact record.owned guard held
        · rintro _ other ⟨⟩ ⟨⟩
          rfl
        · intro off
          rw [show (client.withGuard guard).connected = client.connected from rfl, connected] at off
          contradiction
      have keeps {token : AttachmentHandoffToken} (offered : guard.offeredToken = some token) :
          (client.withGuard guard).ownerNonce = client.ownerNonce
            ∧ (client.withGuard guard).connected = true ∧ (client.withGuard guard).Carries token :=
        ⟨rfl, connected, guard, newGuards ▸ mem_cons_self, offered⟩
      have guards : client.guards =
          guard :: (client.attachment.bind ClientAttachment.guard).toList := by
        rw [ClientState.guards, acquired]
        rfl
      have gives : GivenUp system.fence (match client.attachment with
            | none => system.fence
            | some old =>
              if preservesSameOffer old ⟨some guard, guard.offeredToken⟩ then old.drop system.fence
              else old.detach system.fence)
          (client.attachment.bind ClientAttachment.guard) guard.offeredToken := by
        cases installed : client.attachment with
        | none => exact givenUp_none inv.tokens
        | some old =>
          dsimp only
          split
          next preserves =>
            simp only [preservesSameOffer, Bool.and_eq_true, beq_iff_eq] at preserves
            refine givenUp_release inv.tokens old (.inr fun other there => ?_)
            rw [← record.recorded old other installed there, preserves.2]
          · exact givenUp_release inv.tokens old (.inl rfl)
      refine inv.update located gives.tokens ?_ after ?_
      · rw [guards, length_cons] at enough ⊢
        rw [gives.count, newGuards, length_singleton]
        omega
      · -- A token the connection carries is carried by the new guard, or by the old one.
        intro token owner pending
        obtain ⟨before, notMine⟩ := gives.stays pending
        refine .inl ⟨before, ?_⟩
        rintro rfl ⟨carrier, found, offered⟩
        have mine := record.owned carrier found
        rw [guards] at found
        rcases mem_cons.mp found with rfl | old
        · exact keeps offered
        · rcases notMine carrier (Option.mem_toList.mp old) offered with other | again
          · exact absurd mine other
          · exact keeps again

end HydraTerm.Daemon
