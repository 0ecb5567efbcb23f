import HydraTerm.Remote.ControlTokens

/-!
# The control channel

One channel serves one connection. It holds the claims it has verified, the digest of the token they
came in and the time of issue of the first token; these three are its authority. Every message is first
measured and screened, then parsed; then the authority is examined again at the time of the message, and
claims for one session limit what may be asked. Only then is the message dispatched.

The gates differ. Most operations ask `privilegedRefusal`, which examines revocation once more and
answers in their own error message. The listings ask only whether the channel is authenticated, which
the examination before has made current. Creations go through a table of recent requests, so that a
request repeated by the browser is answered and not executed again.
-/

namespace HydraTerm.Remote.Control

/-! ## State -/

/-- `CreationRequestKind`. -/
inductive CreationRequestKind where
  | createSession | splitPane | newPane | revivePane | startPaneSession | newWindow | projectCreate
  deriving DecidableEq

/-- `CompletedCreation`. -/
structure CompletedCreation where
  requestId : String
  kind : CreationRequestKind
  requestDigest : List UInt8
  reply : OutboundMsg
  completedAtMs : Nat
  deriving DecidableEq

/-- `ControlChannel`, without the services, which are a `Desktop`, and the source of revocations. -/
structure Channel where
  config : ChannelConfig
  authedClaims : Option TokenClaims
  authedTokenSha256 : Option (List UInt8)
  authedRevocationIatMs : Option Nat
  browserTerminalGzip : Bool
  browserCreationReplay : Bool
  browserDesktopAccessStatus : Bool
  browserAuthorizationRefresh : Bool
  creationReplay : List CompletedCreation
  traceId : String
  deriving DecidableEq

/-- `ControlChannel::new`, set up for a connection. -/
def Channel.new (config : ChannelConfig) : Channel where
  config := config
  authedClaims := none
  authedTokenSha256 := none
  authedRevocationIatMs := none
  browserTerminalGzip := false
  browserCreationReplay := false
  browserDesktopAccessStatus := false
  browserAuthorizationRefresh := false
  creationReplay := []
  traceId := ""

/-- One message as it arrives: the line, the time, the services as they are then, and what is revoked
then. -/
structure Delivery where
  line : String
  nowMs : Nat
  desktop : Desktop
  revoked : Revocations

/-- What a message leads to. -/
structure Outcome where
  channel : Channel
  reply : OutboundMsg
  calls : List Call

namespace Channel

variable (channel : Channel) (revoked : Revocations)

/-- An answer that leaves the channel as it is. -/
def answer (given : Answer) : Outcome := ⟨channel, given.1, given.2⟩

/-- A reply without a call. -/
def reply (message : OutboundMsg) : Outcome := ⟨channel, message, []⟩

/-! ## Authority -/

/-- `clear_authenticated_authority`. -/
def clearAuthenticatedAuthority : Channel :=
  { channel with
    authedClaims := none, authedTokenSha256 := none, authedRevocationIatMs := none,
    creationReplay := [] }

/-- `live_authority_revoked`: an account may be revoked up to some time of issue, and what counts is
when the first token was issued. -/
def liveAuthorityRevoked (claims : TokenClaims) : Bool :=
  match channel.authedRevocationIatMs with
  | none => true
  | some initialIatMs => revoked claims.accountId channel.config.peerDeviceId initialIatMs

/-- `drop_if_expired`. -/
def dropIfExpired (nowMs : Nat) : Channel :=
  match channel.authedClaims with
  | none => channel
  | some claims =>
    let certExpired := channel.config.passkey.isSome
      && channel.config.browserCert.any (fun cert => decide (nowMs ≥ cert.expiryMs))
    if nowMs ≥ claims.expMs ∨ certExpired then channel.clearAuthenticatedAuthority else channel

/-- Drop the authority if it is revoked: the second half of the examination at every message, and
`authenticated_claims`. -/
def dropIfRevoked : Channel :=
  match channel.authedClaims with
  | none => channel
  | some claims =>
    if channel.liveAuthorityRevoked revoked claims then channel.clearAuthenticatedAuthority
    else channel

/-- The examination at every message. -/
def reauthorize (delivery : Delivery) : Channel :=
  (channel.dropIfExpired delivery.nowMs).dropIfRevoked delivery.revoked

/-- `privileged_refusal`: examine revocation again and tell a channel that was authenticated from one
that never was. -/
def privilegedRefusal : Channel × Option String :=
  let examined := channel.dropIfRevoked revoked
  (examined,
    if examined.authedClaims.isNone then
      some (if channel.authedClaims.isSome then "revoked" else "unauthenticated")
    else none)

/-- The gate of the privileged operations. -/
def privileged (refuse : String → OutboundMsg) (proceed : Channel → Outcome) : Outcome :=
  match channel.privilegedRefusal revoked with
  | (examined, some code) => examined.reply (refuse code)
  | (examined, none) => proceed examined

/-- The gate of the listings. -/
def authenticated (proceed : Channel → Outcome) : Outcome :=
  if channel.authedClaims.isSome then proceed channel else channel.reply (.authRefused "missing")

/-! ## Repeated creations -/

end Channel

/-- `creation_error_reply`. -/
def creationErrorReply (kind : CreationRequestKind) (requestId : String) (refusal : Refusal) :
    OutboundMsg :=
  match kind with
  | .createSession => .sessionCreateError requestId refusal
  | .splitPane | .newPane => .splitPaneError requestId refusal
  | .revivePane => .revivePaneError requestId refusal
  | .startPaneSession => .startPaneSessionError requestId refusal
  | .newWindow => .newWindowError requestId refusal
  | .projectCreate => .projectEditError requestId refusal

/-- `prune_expired`: results are kept for two minutes. -/
def pruneExpired (completed : List CompletedCreation) (nowMs : Nat) : List CompletedCreation :=
  completed.filter (fun entry => decide (nowMs - entry.completedAtMs < 120000))

/-- `lookup_or_admit`, on the pruned table. A full table refuses: a result that was forgotten could be
executed twice. -/
def lookupOrAdmit (completed : List CompletedCreation) (kind : CreationRequestKind)
    (requestId : String) (requestDigest : List UInt8) : Option OutboundMsg :=
  match completed.find? (·.requestId == requestId) with
  | some entry =>
    if entry.kind = kind ∧ entry.requestDigest = requestDigest then some entry.reply
    else some (creationErrorReply kind requestId ⟨"request_id_conflict",
      "request id was already used for a different creation request"⟩)
  | none =>
    if completed.length ≥ 64 then
      some (creationErrorReply kind requestId ⟨"request_cache_full",
        "too many recent creation requests; wait and try again"⟩)
    else none

namespace Channel

/-- `with_creation_replay`. -/
def withCreationReplay (channel : Channel) (library : Library) (kind : CreationRequestKind)
    (requestId : String) (delivery : Delivery) (execute : Answer) : Outcome :=
  if !channel.browserCreationReplay then channel.answer execute
  else if requestId.isEmpty ∨ requestId.utf8ByteSize > 128 then
    channel.reply (creationErrorReply kind requestId ⟨"bad_request_id",
      "request id must be between 1 and 128 bytes"⟩)
  else
    let requestDigest := library.digestText delivery.line
    let pruned := pruneExpired channel.creationReplay delivery.nowMs
    match lookupOrAdmit pruned kind requestId requestDigest with
    | some given => { channel with creationReplay := pruned }.reply given
    | none =>
      let done : CompletedCreation := ⟨requestId, kind, requestDigest, execute.1, delivery.nowMs⟩
      { channel with creationReplay := pruned ++ [done] }.answer execute

/-- A creation behind its access check. -/
def creation (channel : Channel) (library : Library) (kind : CreationRequestKind)
    (requestId : String) (delivery : Delivery) (accessRefuses : Bool) (execute : Answer) : Outcome :=
  if accessRefuses then
    channel.reply (creationErrorReply kind requestId fullDiskAccessRequired)
  else channel.withCreationReplay library kind requestId delivery execute

/-! ## The messages about authority -/

/-- The greeting: version, and what the browser can do. -/
def hello (channel : Channel) (protocolVersion : Nat) (capabilities : List String) : Outcome :=
  if protocolVersion ≠ 1 then channel.reply (.error ⟨"version", "unsupported protocol version"⟩)
  else if capabilities.length > 16 ∨ capabilities.any (fun name => decide (name.utf8ByteSize > 64))
  then
    { channel with
      browserTerminalGzip := false, browserCreationReplay := false,
      browserDesktopAccessStatus := false, browserAuthorizationRefresh := false,
      creationReplay := [] }.reply
      (.error ⟨"bad_capabilities", "capability list exceeds bounds"⟩)
  else
    let creationReplay := capabilities.contains "creation_request_replay_v1"
    { channel with
      browserTerminalGzip := capabilities.contains "terminal_gzip_json_v1"
      creationReplay :=
        if channel.browserCreationReplay ≠ creationReplay then [] else channel.creationReplay
      browserCreationReplay := creationReplay
      browserDesktopAccessStatus := capabilities.contains "desktop_access_status_v1"
      browserAuthorizationRefresh := capabilities.contains "authorization_refresh_v1" }.reply
      (.hello 1 channel.config.peerDeviceId "agent"
        ["viewed_resize_v1", "terminal_gzip_json_v1", "creation_request_replay_v1",
          "desktop_access_status_v1", "authorization_refresh_v1"])

end Channel

/-- `public_agent_build_git`. -/
def publicAgentBuildGit (value : String) : Option String :=
  if 7 ≤ value.utf8ByteSize ∧ value.utf8ByteSize ≤ 40
      ∧ value.toList.all (fun c => decide (('0' ≤ c ∧ c ≤ '9') ∨ ('a' ≤ c ∧ c ≤ 'f'))) then
    some value
  else none

namespace Channel

variable (channel : Channel) (library : Library) (delivery : Delivery)

/-- A first token. -/
def auth (token traceId : String) : Outcome :=
  if channel.authedClaims.isSome then channel.reply (.authRefused "refresh_required")
  else
    match verifyToken library token delivery.nowMs channel.config.peerDeviceId delivery.revoked with
    | .error reason => channel.reply (.authRefused reason.refusalReason)
    | .ok claims =>
      match channel.config.authRefusal library claims delivery.nowMs with
      | some reason => channel.reply (.authRefused reason)
      | none =>
        { channel with
          creationReplay := []
          authedRevocationIatMs := some claims.iatMs
          authedClaims := some claims
          authedTokenSha256 := some (library.digestText token)
          traceId := sanitizeIdLike traceId }.reply
          (.authOk claims.accountId claims.deviceId (publicAgentBuildGit delivery.desktop.buildGit))

/-- A successor of the current token. The time of issue that revocation is compared with stays. -/
def authRefresh (token : String) : Outcome :=
  if !channel.browserAuthorizationRefresh then channel.reply (.authRefreshRefused "unsupported")
  else
    match channel.authedClaims, channel.authedTokenSha256, channel.authedRevocationIatMs with
    | some previous, some previousHash, some initialIatMs =>
      match verifyToken library token delivery.nowMs channel.config.peerDeviceId
          delivery.revoked with
      | .error reason => channel.reply (.authRefreshRefused reason.refusalReason)
      | .ok claims =>
        match channel.config.refreshRefusal library delivery.revoked previous previousHash
            initialIatMs claims delivery.nowMs with
        | some reason => channel.reply (.authRefreshRefused reason)
        | none =>
          { channel with
            authedTokenSha256 := some (library.digestText token)
            authedClaims := some claims }.reply (.authRefreshOk claims.expMs)
    | _, _, _ => channel.reply (.authRefreshRefused "missing")

/-! ## Dispatch -/

/-- The body of `handle` for a message that the examination has let through. -/
def dispatch (message : InboundMsg) : Outcome :=
  let platform := library.toPlatform
  let desktop := delivery.desktop
  let now := delivery.nowMs
  let gate := channel.privileged delivery.revoked
  match message with
  | .hello protocolVersion capabilities => channel.hello protocolVersion capabilities
  | .ping nonce => channel.reply (.pong nonce)
  | .bye => channel.reply .bye
  | .auth token traceId => channel.auth library delivery token traceId
  | .authRefresh token => channel.authRefresh library delivery token
  | .setWinsizeOwner selected =>
    gate (fun _ => .authRefused "missing") (·.answer (setWinsizeOwner desktop selected now))
  | .listRequest requestId => channel.authenticated (·.reply (.listResult requestId []))
  | .listAgentSessions requestId agent cwd includeHidden =>
    channel.authenticated
      (·.answer (listAgentSessions platform desktop requestId agent cwd includeHidden))
  | .listDirectories requestId path =>
    channel.authenticated (·.answer (listDirectories platform desktop requestId path))
  | .previewAgentSession requestId agent cwd sessionId maxLines =>
    gate (fun code =>
        .agentSessionPreviewError requestId ⟨code, "authenticate before previewing a session"⟩)
      (·.answer (previewAgentSession platform desktop requestId agent cwd sessionId maxLines))
  | .manageAgentSession requestId action agent sessionId cwd name =>
    gate (fun code =>
        .agentSessionManageError requestId ⟨code, "authenticate before managing a session"⟩)
      (·.answer (manageAgentSession platform desktop requestId action agent sessionId cwd name))
  | .splitPane requestId dir pane =>
    gate (fun code => .splitPaneError requestId ⟨code, "authenticate before splitting a pane"⟩)
      (·.creation library .splitPane requestId delivery (paneAccessRefuses platform desktop pane)
        (splitPane desktop requestId dir pane now))
  | .newPane requestId pane =>
    gate (fun code => .splitPaneError requestId ⟨code, "authenticate before creating a pane"⟩)
      (·.creation library .newPane requestId delivery (paneAccessRefuses platform desktop pane)
        (newPane desktop requestId pane now))
  | .revivePane requestId pane =>
    gate (fun code => .revivePaneError requestId ⟨code, "authenticate before reviving a pane"⟩)
      (·.creation library .revivePane requestId delivery (desktop.accessRefuses [] true)
        (revivePane desktop requestId pane now))
  | .startPaneSession requestId pane =>
    gate (fun code =>
        .startPaneSessionError requestId ⟨code, "authenticate before starting a pane session"⟩)
      (·.creation library .startPaneSession requestId delivery (desktop.accessRefuses [] true)
        (startPaneSession desktop requestId pane now))
  | .stashPane requestId _ _ =>
    gate (fun code => .stashPaneError requestId ⟨code, "authenticate before stashing a pane"⟩)
      (·.reply (.stashPaneError requestId
        ⟨"not_applied", "stash is remote-only; the desktop layout is not modified"⟩))
  | .removePane requestId windowId paneId =>
    gate (fun code => .removePaneError requestId ⟨code, "authenticate before removing a pane"⟩)
      (·.answer (removePane desktop requestId windowId paneId now))
  | .rename requestId windowId paneId name =>
    gate (fun code => .renameError requestId ⟨code, "authenticate before renaming"⟩)
      (·.answer (rename desktop requestId windowId paneId name now))
  | .focusWindow requestId windowId =>
    gate (fun code => .focusWindowError requestId ⟨code, "authenticate before focusing a window"⟩)
      (·.answer (focusWindow desktop requestId windowId now))
  | .closeWindow requestId windowId =>
    gate (fun code => .closeWindowError requestId ⟨code, "authenticate before closing a window"⟩)
      (·.answer (closeWindow desktop requestId windowId now))
  | .newWindow requestId projectId name cwd agent launchFlags cols rows =>
    gate (fun code => .newWindowError requestId ⟨code, "authenticate before creating a window"⟩)
      (·.creation library .newWindow requestId delivery
        (windowAccessRefuses platform desktop cwd launchFlags)
        (newWindow platform desktop requestId projectId name cwd agent launchFlags cols rows now))
  | .projectCreate requestId name root fields cols rows =>
    gate (fun code => .projectEditError requestId ⟨code, "authenticate before editing projects"⟩)
      (·.creation library .projectCreate requestId delivery
        (projectAccessRefuses platform desktop (some root) fields)
        (projectCreate platform desktop requestId name root fields cols rows now))
  | .projectUpdate requestId projectId name root fields =>
    gate (fun code => .projectEditError requestId ⟨code, "authenticate before editing projects"⟩)
      (·.answer (projectUpdate platform desktop requestId projectId name root fields now))
  | .deleteProject requestId projectId =>
    gate (fun code => .projectEditError requestId ⟨code, "authenticate before editing projects"⟩)
      (·.answer (deleteProject desktop requestId projectId now))
  | .createSession requestId label cwd agent launchFlags cols rows =>
    -- No access check before the table: it is part of what is executed.
    gate (fun code => .sessionCreateError requestId ⟨code,
        if code = "revoked" then "this device was revoked — re-enroll to reconnect"
        else "sign in / authenticate before creating a session"⟩)
      (·.withCreationReplay library .createSession requestId delivery
        (createSession platform desktop requestId label cwd agent launchFlags cols rows))

/-- `session_scope_refusal` for the claims of the channel, if they are for one session. -/
def scopeRefusal (message : InboundMsg) : Option OutboundMsg :=
  (channel.authedClaims.bind TokenClaims.sessionId).bind message.sessionScopeRefusal

/-- `handle`. -/
def handle : Outcome :=
  if delivery.line.utf8ByteSize > 8192 then
    channel.reply (.error ⟨"too_large", "message too large"⟩)
  else
    match forbiddenFieldIn delivery.line with
    | some name =>
      channel.reply (.error ⟨"forbidden_field",
        "field \"" ++ name ++ "\" not allowed on the control channel"⟩)
    | none =>
      match library.parse delivery.line with
      | none => channel.reply (.error ⟨"bad_message", "unknown or malformed message"⟩)
      | some message =>
        let examined := channel.reauthorize delivery
        match examined.scopeRefusal message with
        | some refusal => examined.reply refusal
        | none => examined.dispatch library delivery message

end Channel

end HydraTerm.Remote.Control
