import HydraTerm.Lib.Runs
import HydraTerm.Remote.ControlChannel

/-!
# Who may use the desktop over a control channel

What one message can do to the authority of a channel is said once, by `Move`: leave it as the
examination found it, open one with a first token, or replace its token by a successor. Calls to the
desktop belong to the first case and need an authority that was found live. Over a whole conversation
the authority of the channel can then be read off the messages alone: its claims are those of the last
token that was admitted, and revocation is compared with the last token that opened it.

Time, the services and the source of revocations may be others at every message.
-/

namespace HydraTerm.Remote.Control

open List

/-! ## Live authority -/

/-- The three fields that make up the authority. -/
def Channel.authority (channel : Channel) : Option TokenClaims × Option (List UInt8) × Option Nat :=
  (channel.authedClaims, channel.authedTokenSha256, channel.authedRevocationIatMs)

/-- The channel holds claims that are good at this message. -/
structure Channel.Live (channel : Channel) (delivery : Delivery) (claims : TokenClaims)
    (initialIatMs : Nat) : Prop where
  held : channel.authedClaims = some claims
  since : channel.authedRevocationIatMs = some initialIatMs
  unexpired : delivery.nowMs < claims.expMs
  certified : channel.config.passkey.isSome →
    ∀ cert ∈ channel.config.browserCert, delivery.nowMs < cert.expiryMs
  standing : delivery.revoked claims.accountId channel.config.peerDeviceId initialIatMs = false

/-- The call is about one session: its preview or its management. -/
def Call.Concerns (scope : String) : Call → Prop
  | .preview request | .manage request => request.sessionId = scope
  | _ => False

/-- The message brings a token. -/
def InboundMsg.BringsToken : InboundMsg → Prop
  | .auth .. | .authRefresh _ => True
  | _ => False

namespace Channel

variable {channel : Channel} {delivery : Delivery} {library : Library} {proceed : Channel → Outcome}
  {claims : TokenClaims}

@[simp] theorem clear_authority :
    channel.clearAuthenticatedAuthority.authority = (none, none, none) := rfl

@[simp] theorem clear_config :
    channel.clearAuthenticatedAuthority.config = channel.config := rfl

theorem dropIfExpired_cases (channel : Channel) (nowMs : Nat) :
    channel.dropIfExpired nowMs = channel.clearAuthenticatedAuthority ∨
      channel.dropIfExpired nowMs = channel ∧ ∀ claims, channel.authedClaims = some claims →
        nowMs < claims.expMs ∧ (channel.config.passkey.isSome →
          ∀ cert ∈ channel.config.browserCert, nowMs < cert.expiryMs) := by
  unfold dropIfExpired
  cases held : channel.authedClaims with
  | none => exact .inr ⟨rfl, by simp⟩
  | some =>
    dsimp only
    split_ifs with expired
    · exact .inl rfl
    · refine .inr ⟨rfl, ?_⟩
      rintro _ ⟨⟩
      push Not at expired
      refine ⟨expired.1, fun pinned cert isCert => ?_⟩
      simpa [pinned, Option.mem_def.mp isCert] using expired.2

theorem dropIfRevoked_cases (channel : Channel) (revoked : Revocations) :
    channel.dropIfRevoked revoked = channel.clearAuthenticatedAuthority ∨
      channel.dropIfRevoked revoked = channel ∧ ∀ claims, channel.authedClaims = some claims →
        ∃ initialIatMs, channel.authedRevocationIatMs = some initialIatMs ∧
          revoked claims.accountId channel.config.peerDeviceId initialIatMs = false := by
  unfold dropIfRevoked
  cases held : channel.authedClaims with
  | none => exact .inr ⟨rfl, by simp⟩
  | some =>
    dsimp only
    split_ifs with isRevoked
    · exact .inl rfl
    · refine .inr ⟨rfl, ?_⟩
      rintro _ ⟨⟩
      cases since : channel.authedRevocationIatMs with
      | none => simp [liveAuthorityRevoked, since] at isRevoked
      | some initialIatMs =>
        exact ⟨initialIatMs, rfl, by simpa [liveAuthorityRevoked, since] using isRevoked⟩

/-- The examination clears the authority, or finds none or a live one and leaves the channel alone. -/
theorem reauthorize_cases (channel : Channel) (delivery : Delivery) :
    (channel.reauthorize delivery).authority = (none, none, none) ∧
        (channel.reauthorize delivery).config = channel.config ∨
      channel.reauthorize delivery = channel ∧ ∀ claims, channel.authedClaims = some claims →
        ∃ initialIatMs, channel.Live delivery claims initialIatMs := by
  unfold reauthorize
  rcases dropIfExpired_cases channel delivery.nowMs with expired | ⟨same, unexpired⟩
  · rw [expired]
    rcases dropIfRevoked_cases channel.clearAuthenticatedAuthority delivery.revoked with
      again | ⟨same, _⟩
    · exact .inl (again ▸ ⟨rfl, rfl⟩)
    · exact .inl (same ▸ ⟨rfl, rfl⟩)
  · rw [same]
    rcases dropIfRevoked_cases channel delivery.revoked with isRevoked | ⟨same, standing⟩
    · exact .inl (isRevoked ▸ ⟨rfl, rfl⟩)
    · refine .inr ⟨same, fun claims held => ?_⟩
      obtain ⟨initialIatMs, since, isStanding⟩ := standing claims held
      obtain ⟨inTime, certified⟩ := unexpired claims held
      exact ⟨initialIatMs, held, since, inTime, certified, isStanding⟩

theorem reauthorize_config (channel : Channel) (delivery : Delivery) :
    (channel.reauthorize delivery).config = channel.config := by
  rcases reauthorize_cases channel delivery with ⟨_, same⟩ | ⟨same, _⟩
  · exact same
  · rw [same]

/-- What is held after the examination was held before it and is live. -/
theorem live_of_reauthorize (held : (channel.reauthorize delivery).authedClaims = some claims) :
    ∃ initialIatMs, channel.Live delivery claims initialIatMs := by
  rcases reauthorize_cases channel delivery with ⟨cleared, _⟩ | ⟨same, live⟩
  · have nothing := congrArg Prod.fst cleared
    exact absurd (held.symm.trans nothing) (by simp)
  · exact live claims (same ▸ held)

/-- A live authority survives the examination. -/
theorem Live.reauthorize {initialIatMs : Nat}
    (live : channel.Live delivery claims initialIatMs) : channel.reauthorize delivery = channel := by
  have kept : channel.dropIfExpired delivery.nowMs = channel := by
    unfold dropIfExpired
    simp only [live.held]
    rw [if_neg]
    have inTime := live.unexpired
    rintro (late | late)
    · omega
    · rw [Bool.and_eq_true, Option.any_eq_true] at late
      obtain ⟨pinned, cert, isCert, late⟩ := late
      have certified := live.certified pinned cert isCert
      have := of_decide_eq_true late
      omega
  unfold Channel.reauthorize
  rw [kept]
  simp [dropIfRevoked, live.held, liveAuthorityRevoked, live.since, live.standing]

/-- Once examined, a channel is not found revoked again by the same source. -/
theorem dropIfRevoked_reauthorize (channel : Channel) (delivery : Delivery) :
    (channel.reauthorize delivery).dropIfRevoked delivery.revoked
      = channel.reauthorize delivery := by
  cases held : (channel.reauthorize delivery).authedClaims with
  | none => simp [dropIfRevoked, held]
  | some =>
    obtain ⟨_, live⟩ := live_of_reauthorize held
    rw [live.reauthorize]
    simp [dropIfRevoked, live.held, liveAuthorityRevoked, live.since, live.standing]

/-! ## Gates -/

/-- An outcome that leaves the authority alone and has calls only if there is one. -/
structure Gated (channel : Channel) (outcome : Outcome) : Prop where
  authority : outcome.channel.authority = channel.authority
  config : outcome.channel.config = channel.config
  calls : outcome.calls ≠ [] → channel.authedClaims.isSome

theorem gated_reply (channel : Channel) (message : OutboundMsg) :
    channel.Gated (channel.reply message) :=
  ⟨rfl, rfl, fun called => absurd rfl called⟩

theorem gated_answer (held : channel.authedClaims.isSome) (given : Answer) :
    channel.Gated (channel.answer given) :=
  ⟨rfl, rfl, fun _ => held⟩

theorem gated_withCreationReplay (held : channel.authedClaims.isSome)
    (kind : CreationRequestKind) (requestId : String) (execute : Answer) :
    channel.Gated (channel.withCreationReplay library kind requestId delivery execute) := by
  unfold withCreationReplay
  dsimp only
  split_ifs
  · exact gated_answer held execute
  · exact gated_reply channel _
  · split
    · exact ⟨rfl, rfl, fun _ => held⟩
    · exact ⟨rfl, rfl, fun _ => held⟩

theorem gated_creation (held : channel.authedClaims.isSome) (kind : CreationRequestKind)
    (requestId : String) (accessRefuses : Bool) (execute : Answer) :
    channel.Gated (channel.creation library kind requestId delivery accessRefuses execute) := by
  unfold creation
  split_ifs
  · exact gated_reply channel _
  · exact gated_withCreationReplay held kind requestId execute

section

variable {revoked : Revocations} (settled : channel.dropIfRevoked revoked = channel)
  (refuse : String → OutboundMsg)
include settled refuse

/-- A settled channel is refused only for want of authority, never as revoked. -/
theorem privileged_eq (proceed : Channel → Outcome) :
    channel.privileged revoked refuse proceed =
      if channel.authedClaims.isSome then proceed channel
      else channel.reply (refuse "unauthenticated") := by
  unfold privileged privilegedRefusal
  rw [settled]
  cases held : channel.authedClaims with
  | none | some claims => simp [held]

theorem gated_privileged (proceeds : channel.authedClaims.isSome → channel.Gated (proceed channel))
    : channel.Gated (channel.privileged revoked refuse proceed) := by
  rw [privileged_eq settled]
  split_ifs with held
  · exact proceeds held
  · exact gated_reply channel _

end

theorem gated_authenticated
    (proceeds : channel.authedClaims.isSome → channel.Gated (proceed channel)) :
    channel.Gated (channel.authenticated proceed) := by
  unfold authenticated
  split_ifs with held
  · exact proceeds held
  · exact gated_reply channel _

variable {message : InboundMsg} (platform : Platform) (desktop : Desktop)

/-- Every message that is not about the authority passes a gate or makes no call. -/
theorem gated_dispatch (settled : channel.dropIfRevoked delivery.revoked = channel)
    (other : ¬message.BringsToken) : channel.Gated (channel.dispatch library delivery message) := by
  cases message with
  | auth | authRefresh => exact absurd trivial other
  | hello =>
    simp only [dispatch, hello]
    split_ifs <;> exact ⟨rfl, rfl, fun called => absurd rfl called⟩
  | ping nonce | bye => exact gated_reply channel _
  | listRequest =>
    apply gated_authenticated
    exact fun _ => gated_reply channel _
  | listAgentSessions | listDirectories =>
    apply gated_authenticated
    exact fun held => gated_answer held _
  | stashPane => exact gated_privileged settled _ fun _ => gated_reply channel _
  | setWinsizeOwner | previewAgentSession | manageAgentSession | removePane | rename | focusWindow
  | closeWindow | projectUpdate | deleteProject =>
    exact gated_privileged settled _ fun held => gated_answer held _
  | splitPane | newPane | revivePane | startPaneSession | newWindow | projectCreate =>
    exact gated_privileged settled _ fun held => gated_creation held _ _ _ _
  | createSession =>
    exact gated_privileged settled _ fun held => gated_withCreationReplay held _ _ _

/-! ## Claims for one session -/

theorem previewAgentSession_concerns
    (requestId agent : String) (cwd : Option String) (sessionId : String) (maxLines : Option Nat) :
    ∀ call ∈ (previewAgentSession platform desktop requestId agent cwd sessionId maxLines).2,
      call.Concerns sessionId := by
  intro call isCall
  simp only [previewAgentSession, withService] at isCall
  repeat' split at isCall
  any_goals exact absurd isCall not_mem_nil
  obtain rfl := mem_singleton.mp isCall
  exact exactProviderSessionId_eq ‹_›

theorem manageAgentSession_concerns
    (requestId action agent sessionId : String) (cwd name : Option String) :
    ∀ call ∈ (manageAgentSession platform desktop requestId action agent sessionId cwd name).2,
      call.Concerns sessionId := by
  intro call isCall
  simp only [manageAgentSession, withService, called] at isCall
  repeat' split at isCall
  any_goals exact absurd isCall not_mem_nil
  all_goals
    obtain rfl := mem_singleton.mp isCall
    exact exactProviderSessionId_eq ‹_›

/-- A message that claims for one session let through calls for that session at most. -/
theorem dispatch_concerns (settled : channel.dropIfRevoked delivery.revoked = channel)
    {scope : String} (permitted : message.sessionScopeRefusal scope = none)
    (other : ¬message.BringsToken) :
    ∀ call ∈ (channel.dispatch library delivery message).calls, call.Concerns scope := by
  intro call isCall
  cases message with
  | auth | authRefresh => exact absurd trivial other
  | hello =>
    simp only [dispatch, hello] at isCall
    split_ifs at isCall <;> exact absurd isCall not_mem_nil
  | ping | bye => exact absurd isCall not_mem_nil
  | previewAgentSession _ _ _ sessionId | manageAgentSession _ _ _ sessionId =>
    obtain rfl : sessionId = scope := by
      by_contra other
      simp [InboundMsg.sessionScopeRefusal, other] at permitted
    simp only [dispatch, privileged_eq settled] at isCall
    split_ifs at isCall
    · first
      | exact previewAgentSession_concerns _ _ _ _ _ _ _ call isCall
      | exact manageAgentSession_concerns _ _ _ _ _ _ _ _ call isCall
    · exact absurd isCall not_mem_nil
  | _ => simp [InboundMsg.sessionScopeRefusal] at permitted

end Channel

/-! ## What one message can do -/

/-- A message and the reply to it. -/
structure Exchange where
  delivery : Delivery
  reply : OutboundMsg

/-- A token that was admitted, and the message it came in. -/
structure Admission where
  delivery : Delivery
  token : String

variable (library : Library)

/-- A first token that was admitted. -/
def Exchange.opening? (exchange : Exchange) : Option Admission :=
  match library.parse exchange.delivery.line, exchange.reply with
  | some (.auth token _), .authOk .. => some ⟨exchange.delivery, token⟩
  | _, _ => none

/-- A first token or a successor that was admitted. -/
def Exchange.admission? (exchange : Exchange) : Option Admission :=
  match library.parse exchange.delivery.line, exchange.reply with
  | some (.auth token _), .authOk ..
  | some (.authRefresh token), .authRefreshOk _ => some ⟨exchange.delivery, token⟩
  | _, _ => none

/-- The token was verified at the message it came in. -/
def Admission.Verified (config : ChannelConfig) (admission : Admission)
    (claims : TokenClaims) : Prop :=
  verifyToken library admission.token admission.delivery.nowMs config.peerDeviceId
    admission.delivery.revoked = .ok claims

/-- It was verified and passed the checks of a first token. -/
def Admission.Opens (config : ChannelConfig) (admission : Admission)
    (claims : TokenClaims) : Prop :=
  admission.Verified library config claims ∧
    config.authRefusal library claims admission.delivery.nowMs = none

/-- `claims` continue `previous`, whose token has this digest: only the parent and the two times
differ, and the times have advanced. -/
structure TokenClaims.Continues (claims previous : TokenClaims) (previousHash : List UInt8) :
    Prop where
  parent : claims.refreshParentSha256 = some (hexText previousHash)
  unchanged : claims = { previous with
    refreshParentSha256 := claims.refreshParentSha256, iatMs := claims.iatMs, expMs := claims.expMs }
  issuedLater : previous.iatMs < claims.iatMs
  expiresLater : previous.expMs < claims.expMs

variable (channel : Channel) (delivery : Delivery)

/-- What one message can do. -/
inductive Move : Outcome → Prop
  /-- A line that is no message. -/
  | unread {reply : OutboundMsg} (silent : Exchange.admission? library ⟨delivery, reply⟩ = none) :
      Move (channel.reply reply)
  /-- A message that leaves the examined authority as it is. -/
  | served {outcome : Outcome}
      (gated : (channel.reauthorize delivery).Gated outcome)
      (withinScope : ∀ claims scope, (channel.reauthorize delivery).authedClaims = some claims →
        claims.sessionId = some scope → ∀ call ∈ outcome.calls, call.Concerns scope)
      (silent : Exchange.admission? library ⟨delivery, outcome.reply⟩ = none) :
      Move outcome
  /-- A first token, where there is no authority. -/
  | opened {outcome : Outcome} {token traceId : String} {claims : TokenClaims}
      (isAuth : library.parse delivery.line = some (.auth token traceId))
      (vacant : (channel.reauthorize delivery).authedClaims = none)
      (opens : Admission.Opens library channel.config ⟨delivery, token⟩ claims)
      (admitted : Exchange.opening? library ⟨delivery, outcome.reply⟩ = some ⟨delivery, token⟩)
      (authority : outcome.channel.authority
        = (some claims, some (library.digestText token), some claims.iatMs))
      (config : outcome.channel.config = channel.config) (quiet : outcome.calls = []) :
      Move outcome
  /-- A successor. -/
  | succeeded {outcome : Outcome} {token : String} {claims previous : TokenClaims}
      {previousHash : List UInt8} {initialIatMs : Nat}
      (isRefresh : library.parse delivery.line = some (.authRefresh token))
      (held : (channel.reauthorize delivery).authority
        = (some previous, some previousHash, some initialIatMs))
      (verified : Admission.Verified library channel.config ⟨delivery, token⟩ claims)
      (continues : claims.Continues previous previousHash)
      (answered : outcome.reply = .authRefreshOk claims.expMs)
      (authority : outcome.channel.authority
        = (some claims, some (library.digestText token), some initialIatMs))
      (config : outcome.channel.config = channel.config) (quiet : outcome.calls = []) :
      Move outcome

theorem immutableMatch_iff {claims previous : TokenClaims} :
    immutableMatch claims previous = true ↔
      claims = { previous with
        refreshParentSha256 := claims.refreshParentSha256, iatMs := claims.iatMs,
        expMs := claims.expMs } := by
  cases claims
  cases previous
  simp [immutableMatch, TokenClaims.mk.injEq, and_assoc]

/-- A successor that is not refused continues the claims before it. -/
theorem ChannelConfig.refreshRefusal_none {config : ChannelConfig} {library : Library}
    {revoked : Revocations} {previous claims : TokenClaims} {previousHash : List UInt8}
    {initialIatMs nowMs : Nat}
    (passed : config.refreshRefusal library revoked previous previousHash initialIatMs claims nowMs
      = none) : claims.Continues previous previousHash := by
  unfold ChannelConfig.refreshRefusal at passed
  split at passed
  · contradiction
  next continuous =>
    push Not at continuous
    obtain ⟨parent, immutable, issuedLater, expiresLater⟩ := continuous
    exact ⟨parent, immutableMatch_iff.mp immutable, issuedLater, expiresLater⟩

namespace Channel

variable {library channel delivery} {reply : OutboundMsg}
  {message : InboundMsg}

/-- The reply to a message about something else admits no token. -/
theorem silent_of_other
    (isMessage : library.parse delivery.line = some message) (other : ¬message.BringsToken)
    (reply : OutboundMsg) : Exchange.admission? library ⟨delivery, reply⟩ = none := by
  unfold Exchange.admission?
  rw [isMessage]
  cases message with
  | auth | authRefresh => exact absurd trivial other
  | _ => rfl

/-- A reply without admission leaves an examined channel as it is. -/
theorem move_reply (silent : Exchange.admission? library ⟨delivery, reply⟩ = none) :
    Move library channel delivery ((channel.reauthorize delivery).reply reply) :=
  .served (gated_reply _ _) (fun _ _ _ _ _ isCall => absurd isCall not_mem_nil) silent

/-- Only the two replies to a token that was admitted do. -/
theorem silent_of_reply
    (noFirst : ∀ accountId deviceId build, reply ≠ .authOk accountId deviceId build)
    (noSuccessor : ∀ expMs, reply ≠ .authRefreshOk expMs) :
    Exchange.admission? library ⟨delivery, reply⟩ = none := by
  unfold Exchange.admission?
  split <;> simp_all

/-- The refusal of a scope is not an admission. -/
theorem silent_scopeRefusal {scope : String} {refusal : OutboundMsg}
    (isMessage : library.parse delivery.line = some message)
    (isRefusal : message.sessionScopeRefusal scope = some refusal) :
    Exchange.admission? library ⟨delivery, refusal⟩ = none := by
  refine silent_of_other isMessage (fun brings => ?_) refusal
  cases message with
  | auth | authRefresh => simp [InboundMsg.sessionScopeRefusal] at isRefusal
  | _ => exact brings

theorem move_auth {token traceId : String}
    (isAuth : library.parse delivery.line = some (.auth token traceId)) :
    Move library channel delivery ((channel.reauthorize delivery).auth library delivery token traceId)
    := by
  unfold auth
  split_ifs with held
  · exact move_reply (silent_of_reply nofun nofun)
  · split
    · exact move_reply (silent_of_reply nofun nofun)
    next claims verified =>
      split
      · exact move_reply (silent_of_reply nofun nofun)
      next passed =>
        rw [reauthorize_config] at verified passed
        refine .opened isAuth (by simpa using held) ⟨verified, passed⟩ ?_ rfl
          (reauthorize_config _ _) rfl
        simp [Exchange.opening?, isAuth, reply]

theorem move_authRefresh {token : String}
    (isRefresh : library.parse delivery.line = some (.authRefresh token)) :
    Move library channel delivery ((channel.reauthorize delivery).authRefresh library delivery token)
    := by
  unfold authRefresh
  split_ifs
  · exact move_reply (silent_of_reply nofun nofun)
  · split
    next previous previousHash initialIatMs isPrevious isHash isIat =>
      split
      · exact move_reply (silent_of_reply nofun nofun)
      next claims verified =>
        split
        · exact move_reply (silent_of_reply nofun nofun)
        next passed =>
          rw [reauthorize_config] at verified
          have held : (channel.reauthorize delivery).authority
              = (some previous, some previousHash, some initialIatMs) := by
            rw [authority, isPrevious, isHash, isIat]
          refine .succeeded isRefresh held verified (ChannelConfig.refreshRefusal_none passed) rfl ?_
            (reauthorize_config _ _) rfl
          simp [authority, reply, isIat]
    · exact move_reply (silent_of_reply nofun nofun)

/-- A message after the examination and within its scope. -/
theorem move_dispatch (isMessage : library.parse delivery.line = some message)
    (permitted : (channel.reauthorize delivery).scopeRefusal message = none) :
    Move library channel delivery ((channel.reauthorize delivery).dispatch library delivery message)
    := by
  by_cases other : message.BringsToken
  · cases message with
    | auth => exact move_auth isMessage
    | authRefresh => exact move_authRefresh isMessage
    | _ => exact other.elim
  have settled := dropIfRevoked_reauthorize channel delivery
  refine .served (gated_dispatch settled other) (fun claims scope held isScope => ?_)
    (silent_of_other isMessage other _)
  have inScope : message.sessionScopeRefusal scope = none := by
    simpa [scopeRefusal, held, isScope] using permitted
  exact dispatch_concerns settled inScope other

/-- What one message can do, over the whole of `handle`. -/
theorem move_handle (library : Library) (channel : Channel) (delivery : Delivery) :
    Move library channel delivery (channel.handle library delivery) := by
  unfold handle
  split_ifs
  · exact .unread (silent_of_reply nofun nofun)
  · split
    · exact .unread (silent_of_reply nofun nofun)
    · split
      · exact .unread (silent_of_reply nofun nofun)
      next message isMessage =>
        dsimp only
        split
        next refusal isRefusal =>
          obtain ⟨_, _, refused⟩ := Option.bind_eq_some_iff.mp isRefusal
          exact move_reply (silent_scopeRefusal isMessage refused)
        next permitted =>
          exact move_dispatch isMessage permitted

end Channel

end HydraTerm.Remote.Control
