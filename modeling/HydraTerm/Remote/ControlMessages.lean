import HydraTerm.Remote.ControlTexts

/-!
# Messages of the control channel and the services behind it

The browser sends one of a closed set of messages; the agent answers each with at most one. A
privileged message is turned into one request to a service of the desktop, here a `Call`. The
services themselves are outside the channel: what they answer is given by a `Desktop`, which may be
another one at every message, and each service may be missing.

An error answer carries a code and a text. Answers that differ only in which operation they belong to
are told apart by their constructors, as on the wire.
-/

namespace HydraTerm.Remote.Control

/-- Code and text of an error answer. -/
structure Refusal where
  code : String
  message : String
  deriving DecidableEq

/-! ## Requests to the desktop -/

/-- `InitialTerminalSize`. -/
structure InitialTerminalSize where
  cols : Nat
  rows : Nat

/-- `InitialTerminalSize::from_optional_pair`: a complete pair within bounds, or 80 by 24. -/
def InitialTerminalSize.fromOptionalPair (cols rows : Option Nat) : InitialTerminalSize :=
  match cols, rows with
  | some cols, some rows =>
    if 2 ≤ cols ∧ cols ≤ 250 ∧ 1 ≤ rows ∧ rows ≤ 100 then ⟨cols, rows⟩ else ⟨80, 24⟩
  | _, _ => ⟨80, 24⟩

/-- The direction of a split. -/
inductive SplitPaneDir where
  | right | down

/-- `sanitize_split_dir`. -/
def sanitizeSplitDir (dir : String) : Option SplitPaneDir :=
  if ["right", "h", "horizontal"].contains dir then some .right
  else if ["down", "v", "vertical"].contains dir then some .down
  else none

/-- `SplitPaneRequest`. -/
structure SplitPaneRequest where
  windowId : String
  fromPaneId : String
  dir : SplitPaneDir
  agent : Option String
  launchFlags : Option Json
  cwd : Option String
  paneName : Option String
  nowMs : Nat

/-- A pane of a window, for revival, start and removal. -/
structure PaneRequest where
  windowId : String
  paneId : String
  nowMs : Nat

/-- `RenameRequest`. -/
structure RenameRequest where
  windowId : String
  paneId : Option String
  name : String
  nowMs : Nat

/-- `NewWindowRequest`. -/
structure NewWindowRequest where
  projectId : String
  name : String
  cwd : Option String
  agent : Option String
  launchFlags : Option Json
  nowMs : Nat

/-- `SessionPreviewRequest`. -/
structure SessionPreviewRequest where
  agent : String
  cwd : Option String
  sessionId : String
  maxLines : Nat

/-- `SessionManageAction`. -/
inductive SessionManageAction where
  | rename (name : Option String)
  | hide
  | unhide (cwd : Option String)
  | delete (cwd : Option String)

/-- `SessionManageRequest`. -/
structure SessionManageRequest where
  agent : String
  sessionId : String
  action : SessionManageAction

/-- `ProjectEditRequest`. -/
structure ProjectEditRequest where
  projectId : Option String
  name : Option String
  root : Option String
  icon : Option String
  accentColor : Option String
  agent : Option String
  resumeMode : Option String
  resumeSessionId : Option String
  model : Option String
  dangerous : Option Bool
  customCommand : Option String
  directories : Option (List ProjectDirectoryWire)
  nowMs : Nat

/-- `ResumeDescriptor`. -/
structure ResumeDescriptor where
  agent : String
  sessionId : Option String
  sessionFile : Option String

/-- `CreateSessionRequest`. -/
structure CreateSessionRequest where
  cwd : Option String
  resume : Option ResumeDescriptor
  model : Option String
  dangerous : Bool
  agent : Option String

/-- One request to a privileged service. -/
inductive Call where
  | listAgentSessions (agent : String) (cwd : Option String) (includeHidden : Bool)
  | listDirectories (path : Option String)
  | preview (request : SessionPreviewRequest)
  | manage (request : SessionManageRequest)
  | createSession (request : CreateSessionRequest) (size : InitialTerminalSize)
  | splitPane (request : SplitPaneRequest) (size : InitialTerminalSize)
  | newPane (request : SplitPaneRequest) (size : InitialTerminalSize)
  | revivePane (request : PaneRequest) (size : InitialTerminalSize)
  | startPaneSession (request : PaneRequest) (size : InitialTerminalSize)
  | removePane (request : PaneRequest)
  | rename (request : RenameRequest)
  | focusWindow (windowId : String) (nowMs : Nat)
  | closeWindow (windowId : String) (nowMs : Nat)
  | newWindow (request : NewWindowRequest) (size : InitialTerminalSize)
  | createProject (request : ProjectEditRequest) (size : InitialTerminalSize)
  | updateProject (request : ProjectEditRequest)
  | deleteProject (projectId : String) (nowMs : Nat)
  | setWinsizeOwner (selected : Bool) (nowMs : Nat)

/-! ## Answers of the desktop -/

/-- `AgentSessionMeta`. -/
structure AgentSessionMeta where
  id : String
  agent : String
  modifiedAtMs : Nat
  messageCount : Option Nat
  inUse : Bool
  customName : Option String
  deriving DecidableEq

/-- `DirectoryEntry`. -/
structure DirectoryEntry where
  name : String
  path : String
  deriving DecidableEq

/-- `DirectoryListing`. -/
structure DirectoryListing where
  path : String
  parent : Option String
  entries : List DirectoryEntry
  deriving DecidableEq, Inhabited

/-- `PreviewLine`. -/
structure PreviewLine where
  role : String
  text : String
  deriving DecidableEq

/-- `SplitPaneCreated`. -/
structure SplitPaneCreated where
  sessionId : String
  tabId : String

/-- `NewWindowCreated`. -/
structure NewWindowCreated where
  windowId : String
  sessionId : String

/-- `ProjectEdited`. -/
structure ProjectEdited where
  projectId : String
  sessionId : Option String

/-- `SplitPaneCreateError`. -/
inductive SplitPaneCreateError where
  | daemonUnavailable | windowNotFound | paneNotFound | paneLimit | invalidDirection | internal

/-- The wire code of the error. -/
def SplitPaneCreateError.code : SplitPaneCreateError → String
  | .daemonUnavailable => "daemon_unavailable"
  | .windowNotFound => "window_not_found"
  | .paneNotFound => "pane_not_found"
  | .paneLimit => "pane_limit"
  | .invalidDirection => "invalid_direction"
  | .internal => "internal"

/-- `RevivePaneError`. -/
inductive RevivePaneError where
  | windowNotFound | paneNotFound | globallyLastVisible | internal
  deriving DecidableEq

/-- The wire code of the error. -/
def RevivePaneError.code : RevivePaneError → String
  | .windowNotFound => "window_not_found"
  | .paneNotFound => "pane_not_found"
  | .globallyLastVisible => "last_visible_window"
  | .internal => "internal"

/-- `RenameError`. -/
inductive RenameError where
  | invalidName | windowNotFound | paneNotFound | internal

/-- The wire code of the error. -/
def RenameError.code : RenameError → String
  | .invalidName => "invalid_name"
  | .windowNotFound => "window_not_found"
  | .paneNotFound => "pane_not_found"
  | .internal => "internal"

/-- `FocusWindowError`. -/
inductive FocusWindowError where
  | windowNotFound | internal

/-- The wire code of the error. -/
def FocusWindowError.code : FocusWindowError → String
  | .windowNotFound => "window_not_found"
  | .internal => "internal"

/-- `CloseWindowError`. -/
inductive CloseWindowError where
  | windowNotFound | globallyLastVisible | internal

/-- Code and text of the error. -/
def CloseWindowError.refusal : CloseWindowError → Refusal
  | .windowNotFound => ⟨"window_not_found", "could not close window"⟩
  | .globallyLastVisible =>
    ⟨"last_visible_window", "the globally last visible window must remain open"⟩
  | .internal => ⟨"internal", "could not close window"⟩

/-- `NewWindowError`. -/
inductive NewWindowError where
  | projectNotFound | daemonUnavailable | internal

/-- The wire code of the error. -/
def NewWindowError.code : NewWindowError → String
  | .projectNotFound => "project_not_found"
  | .daemonUnavailable => "daemon_unavailable"
  | .internal => "internal"

/-- `SessionManageError`. -/
inductive SessionManageError where
  | notFound | internal

/-- The wire code of the error. -/
def SessionManageError.code : SessionManageError → String
  | .notFound => "not_found"
  | .internal => "internal"

/-- `ProjectEditError`. -/
inductive ProjectEditError where
  | invalidName | invalidRoot | projectNotFound | globallyLastVisible | daemonUnavailable | internal

/-- The wire code of the error. -/
def ProjectEditError.code : ProjectEditError → String
  | .invalidName => "invalid_name"
  | .invalidRoot => "invalid_root"
  | .projectNotFound => "project_not_found"
  | .globallyLastVisible => "last_visible_window"
  | .daemonUnavailable => "daemon_unavailable"
  | .internal => "internal"

/-- `CreateSessionError`. -/
inductive CreateSessionError where
  | daemonUnavailable | limitReached | unsupportedProvider

/-- The wire code of the error. -/
def CreateSessionError.code : CreateSessionError → String
  | .daemonUnavailable => "daemon_unavailable"
  | .limitReached => "limit_reached"
  | .unsupportedProvider => "unsupported_provider"

/-- `DesktopAccessStatus`. -/
inductive DesktopAccessStatus where
  | granted | required | unknown | notApplicable
  deriving Inhabited

/-- `PaneSplitter`. -/
structure PaneSplitter where
  splitPane : SplitPaneRequest → InitialTerminalSize → Except SplitPaneCreateError SplitPaneCreated
  newPane : SplitPaneRequest → InitialTerminalSize → Except SplitPaneCreateError SplitPaneCreated

/-- `ProjectEditor`. -/
structure ProjectEditor where
  createProject : ProjectEditRequest → InitialTerminalSize → Except ProjectEditError ProjectEdited
  updateProject : ProjectEditRequest → Except ProjectEditError ProjectEdited
  deleteProject : String → Nat → Except ProjectEditError ProjectEdited

/-- The services of the desktop as they answer during one message. `none` is a service that is not
wired. -/
structure Desktop where
  listAgentSessions : String → Option String → Bool → List AgentSessionMeta
  listDirectories : Option String → DirectoryListing
  sessionPreviewer : Option (SessionPreviewRequest → List PreviewLine)
  sessionManager : Option (SessionManageRequest → Except SessionManageError Unit)
  sessionCreator :
    Option (CreateSessionRequest → InitialTerminalSize → Except CreateSessionError String)
  paneSplitter : Option PaneSplitter
  paneReviver : Option (PaneRequest → InitialTerminalSize → Except RevivePaneError String)
  paneSessionStarter : Option (PaneRequest → InitialTerminalSize → Except RevivePaneError String)
  paneRemover : Option (PaneRequest → Except RevivePaneError Unit)
  renamer : Option (RenameRequest → Except RenameError Unit)
  windowFocuser : Option (String → Nat → Except FocusWindowError Unit)
  windowCloser : Option (String → Nat → Except CloseWindowError Unit)
  windowOpener :
    Option (NewWindowRequest → InitialTerminalSize → Except NewWindowError NewWindowCreated)
  projectEditor : Option ProjectEditor
  winsizeOwner : Option (Bool → Nat → String)
  accessStatus : DesktopAccessStatus
  pathRequiresFullDiskAccess : String → Bool
  defaultHistoryCwd : String
  geminiSessionFile : Option String → String → Option String
  buildGit : String
  deriving Inhabited

/-! ## Messages -/

/-- What a new pane is launched with. -/
structure PaneLaunch where
  windowId : String
  fromPaneId : String
  agent : Option String
  launchFlags : Option Json
  cwd : Option String
  paneName : Option String
  cols : Option Nat
  rows : Option Nat

/-- A pane and the size it is viewed at. -/
structure PaneView where
  windowId : String
  paneId : String
  cols : Option Nat
  rows : Option Nat

/-- The editable fields of a project that creation and update share. -/
structure ProjectFields where
  icon : Option String
  accentColor : Option String
  agent : Option String
  resumeMode : Option String
  resumeSessionId : Option String
  model : Option String
  dangerous : Option Bool
  customCommand : Option String
  directories : Option (List ProjectDirectoryWire)

/-- `InboundMsg`. Device and role of a greeting are parsed and not read. -/
inductive InboundMsg where
  | hello (protocolVersion : Nat) (capabilities : List String)
  | auth (token traceId : String)
  | authRefresh (token : String)
  | ping (nonce : String)
  | listRequest (requestId : String)
  | createSession (requestId : String) (label cwd agent : Option String)
      (launchFlags : Option Json) (cols rows : Option Nat)
  | listAgentSessions (requestId agent : String) (cwd : Option String) (includeHidden : Bool)
  | listDirectories (requestId : String) (path : Option String)
  | previewAgentSession (requestId agent : String) (cwd : Option String) (sessionId : String)
      (maxLines : Option Nat)
  | manageAgentSession (requestId action agent sessionId : String) (cwd name : Option String)
  | splitPane (requestId dir : String) (pane : PaneLaunch)
  | newPane (requestId : String) (pane : PaneLaunch)
  | revivePane (requestId : String) (pane : PaneView)
  | startPaneSession (requestId : String) (pane : PaneView)
  | stashPane (requestId windowId paneId : String)
  | removePane (requestId windowId paneId : String)
  | rename (requestId windowId : String) (paneId : Option String) (name : String)
  | focusWindow (requestId windowId : String)
  | closeWindow (requestId windowId : String)
  | newWindow (requestId projectId name : String) (cwd agent : Option String)
      (launchFlags : Option Json) (cols rows : Option Nat)
  | projectCreate (requestId name root : String) (fields : ProjectFields) (cols rows : Option Nat)
  | projectUpdate (requestId projectId : String) (name root : Option String)
      (fields : ProjectFields)
  | deleteProject (requestId projectId : String)
  | setWinsizeOwner (selected : Bool)
  | bye

/-- `OutboundMsg`, without the messages that no handler of a request sends. -/
inductive OutboundMsg where
  | hello (protocolVersion : Nat) (deviceId role : String) (capabilities : List String)
  | authOk (accountId deviceId : String) (agentBuildGit : Option String)
  | authRefused (reason : String)
  | authRefreshOk (expiresAtMs : Nat)
  | authRefreshRefused (reason : String)
  | pong (nonce : String)
  | listResult (requestId : String) (items : List String)
  | sessionCreated (requestId sessionId : String) (label : Option String)
  | sessionCreateError (requestId : String) (refusal : Refusal)
  | agentSessionsResult (requestId : String) (sessions : List AgentSessionMeta)
  | agentSessionsError (requestId : String) (refusal : Refusal)
  | directoriesResult (requestId : String) (listing : DirectoryListing)
  | directoriesError (requestId : String) (refusal : Refusal)
  | agentSessionPreview (requestId : String) (lines : List PreviewLine)
  | agentSessionPreviewError (requestId : String) (refusal : Refusal)
  | agentSessionManaged (requestId : String)
  | agentSessionManageError (requestId : String) (refusal : Refusal)
  | splitPaneOk (requestId sessionId tabId : String)
  | splitPaneError (requestId : String) (refusal : Refusal)
  | revivePaneOk (requestId sessionId : String)
  | revivePaneError (requestId : String) (refusal : Refusal)
  | startPaneSessionOk (requestId sessionId : String)
  | startPaneSessionError (requestId : String) (refusal : Refusal)
  | stashPaneError (requestId : String) (refusal : Refusal)
  | removePaneOk (requestId : String)
  | removePaneError (requestId : String) (refusal : Refusal)
  | renameOk (requestId : String)
  | renameError (requestId : String) (refusal : Refusal)
  | focusWindowOk (requestId : String)
  | focusWindowError (requestId : String) (refusal : Refusal)
  | closeWindowOk (requestId : String)
  | closeWindowError (requestId : String) (refusal : Refusal)
  | newWindowOk (requestId windowId sessionId : String)
  | newWindowError (requestId : String) (refusal : Refusal)
  | projectEditOk (requestId projectId : String) (sessionId : Option String)
  | projectEditError (requestId : String) (refusal : Refusal)
  | winsizeOwnerChanged (owner : String)
  | error (refusal : Refusal)
  | bye
  deriving DecidableEq

/-- `session_scope_refusal`: what a token for one session may not ask for. -/
def InboundMsg.sessionScopeRefusal (message : InboundMsg) (allowedSessionId : String) :
    Option OutboundMsg :=
  let refusal : Refusal := ⟨"session_scope", "this token is restricted to another session"⟩
  match message with
  | .hello .. | .auth .. | .authRefresh .. | .ping .. | .bye => none
  | .previewAgentSession requestId _ _ sessionId _ =>
    if sessionId ≠ allowedSessionId then some (.agentSessionPreviewError requestId refusal) else none
  | .manageAgentSession requestId _ _ sessionId _ _ =>
    if sessionId ≠ allowedSessionId then some (.agentSessionManageError requestId refusal) else none
  | .createSession requestId .. => some (.sessionCreateError requestId refusal)
  | .listAgentSessions requestId .. => some (.agentSessionsError requestId refusal)
  | .listDirectories requestId .. => some (.directoriesError requestId refusal)
  | .splitPane requestId .. | .newPane requestId .. => some (.splitPaneError requestId refusal)
  | .revivePane requestId .. => some (.revivePaneError requestId refusal)
  | .startPaneSession requestId .. => some (.startPaneSessionError requestId refusal)
  | .stashPane requestId .. => some (.stashPaneError requestId refusal)
  | .removePane requestId .. => some (.removePaneError requestId refusal)
  | .rename requestId .. => some (.renameError requestId refusal)
  | .focusWindow requestId .. => some (.focusWindowError requestId refusal)
  | .closeWindow requestId .. => some (.closeWindowError requestId refusal)
  | .newWindow requestId .. => some (.newWindowError requestId refusal)
  | .projectCreate requestId .. | .projectUpdate requestId .. | .deleteProject requestId .. =>
    some (.projectEditError requestId refusal)
  | .listRequest .. | .setWinsizeOwner .. => some (.error refusal)

end HydraTerm.Remote.Control
