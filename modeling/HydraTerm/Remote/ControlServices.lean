import HydraTerm.Remote.ControlMessages

/-!
# The privileged operations

What an operation does once its message has passed the gate: the texts are cleaned, protected folders
are refused where the desktop has no access to them, and the service is asked. An operation yields the
answer for the browser and the calls it made on the way, of which there is at most one. None of them
touches the channel, so no operation can change who is authorized.
-/

namespace HydraTerm.Remote.Control

/-- An answer and the calls that were made for it. -/
abbrev Answer := OutboundMsg × List Call

/-- What the operations need from outside the source. -/
structure Platform where
  isAbsolute : String → Bool
  canonicalUuid : String → Option String
  deriving Inhabited

/-- The refusal of a protected folder. -/
def fullDiskAccessRequired : Refusal :=
  ⟨"macos_full_disk_access_required",
    "Full Disk Access is required on the desktop before using this folder"⟩

/-- The refusal of an agent that is not in the list. -/
def unsupportedProvider : Refusal := ⟨"unsupported_provider", "unsupported agent provider"⟩

/-- The refusal of a session identifier that is not in normal form. -/
def invalidProviderSessionId : Refusal := ⟨"invalid_session_id", "provider session id is invalid"⟩

/-- The refusal of a session without a record. -/
def recordlessCreationHeld : Refusal :=
  ⟨"recordless_creation_held", "record-less remote session creation is held in this release"⟩

/-- `desktop_access_refuses`. -/
def Desktop.accessRefuses (desktop : Desktop) (paths : List String)
    (inheritedOrUnknownPath : Bool) : Bool :=
  match desktop.accessStatus with
  | .granted | .notApplicable => false
  | .required | .unknown =>
    inheritedOrUnknownPath || paths.any desktop.pathRequiresFullDiskAccess

/-- `filter_agent_sessions_for_wire`. -/
def filterAgentSessionsForWire (platform : Platform) (requestedAgent : String)
    (sessions : List AgentSessionMeta) : List AgentSessionMeta :=
  sessions.filter (fun session =>
    session.agent == requestedAgent
      && normalizeProviderSessionId platform.canonicalUuid requestedAgent session.id
        == some session.id)

section

variable {Service Result Reason : Type}

/-- Ask a service that the desktop may not have. -/
def withService (service : Option Service) (refuse : Refusal → OutboundMsg) (missing : String)
    (proceed : Service → Answer) : Answer :=
  match service with
  | none => (refuse ⟨"not_implemented", missing⟩, [])
  | some service => proceed service

/-- Go on with an agent that is in the list, or with none. -/
def withAgent (agent : Option String) (refuse : Refusal → OutboundMsg)
    (proceed : Option String → Answer) : Answer :=
  match validateOptionalAgent agent with
  | .error () => (refuse unsupportedProvider, [])
  | .ok agent => proceed agent

/-- The answer to a call: what became of it. -/
def called (call : Call) (result : Except Reason Result) (succeed : Result → OutboundMsg)
    (refuse : Reason → OutboundMsg) : Answer :=
  (match result with
    | .ok value => succeed value
    | .error reason => refuse reason, [call])

end

variable (platform : Platform) (desktop : Desktop) (requestId windowId : String) (pane : PaneLaunch)

/-- The history of an agent in a folder. -/
def listAgentSessions (requestId agent : String) (cwd : Option String) (includeHidden : Bool) :
    Answer :=
  let cwd := sanitizeCwd platform.isAbsolute cwd
  if desktop.accessRefuses cwd.toList false then
    (.agentSessionsError requestId fullDiskAccessRequired, [])
  else
    match sanitizeHistoryAgent agent with
    | some agent =>
      (.agentSessionsResult requestId (filterAgentSessionsForWire platform agent
          (desktop.listAgentSessions agent cwd includeHidden)),
        [.listAgentSessions agent cwd includeHidden])
    | none => (.agentSessionsResult requestId [], [])

/-- The folders of a folder. -/
def listDirectories (path : Option String) : Answer :=
  let path := sanitizeCwd platform.isAbsolute path
  if desktop.accessRefuses [path.getD desktop.defaultHistoryCwd] false then
    (.directoriesError requestId fullDiskAccessRequired, [])
  else (.directoriesResult requestId (desktop.listDirectories path), [.listDirectories path])

/-- The beginning of a prior session. -/
def previewAgentSession (requestId agent : String) (cwd : Option String) (sessionId : String)
    (maxLines : Option Nat) : Answer :=
  let cwd := sanitizeCwd platform.isAbsolute cwd
  if desktop.accessRefuses cwd.toList false then
    (.agentSessionPreviewError requestId fullDiskAccessRequired, [])
  else
    match sanitizeHistoryAgent agent with
    | none => (.agentSessionPreview requestId [], [])
    | some agent =>
      match exactProviderSessionId platform.canonicalUuid agent sessionId with
      | none => (.agentSessionPreviewError requestId invalidProviderSessionId, [])
      | some sessionId =>
        withService desktop.sessionPreviewer (.agentSessionPreviewError requestId)
          "desktop-backed session preview not ready" fun preview =>
          let request : SessionPreviewRequest :=
            ⟨agent, cwd, sessionId, max 1 (min 200 (maxLines.getD 40))⟩
          (.agentSessionPreview requestId (preview request), [.preview request])

/-- The action that a name stands for. -/
def manageAction (action : String) (cwd name : Option String) : Option SessionManageAction :=
  if action = "rename" then some (.rename (sanitizeLabel name))
  else if action = "hide" then some .hide
  else if action = "unhide" then some (.unhide cwd)
  else if action = "delete" then some (.delete cwd)
  else none

/-- Rename, hide, show or delete a prior session. -/
def manageAgentSession (requestId action agent sessionId : String) (cwd name : Option String) :
    Answer :=
  let cwd := sanitizeCwd platform.isAbsolute cwd
  if desktop.accessRefuses cwd.toList false then
    (.agentSessionManageError requestId fullDiskAccessRequired, [])
  else
    match manageAction action cwd name with
    | none =>
      (.agentSessionManageError requestId
        ⟨"invalid_action", "action must be rename, hide, unhide, or delete"⟩, [])
    | some action =>
      match sanitizeHistoryAgent agent with
      | none => (.agentSessionManageError requestId ⟨"not_found", "unknown agent"⟩, [])
      | some agent =>
        match exactProviderSessionId platform.canonicalUuid agent sessionId with
        | none => (.agentSessionManageError requestId invalidProviderSessionId, [])
        | some sessionId =>
          withService desktop.sessionManager (.agentSessionManageError requestId)
            "desktop-backed session manage not ready" fun manage =>
            let request : SessionManageRequest := ⟨agent, sessionId, action⟩
            called (.manage request) (manage request)
              (fun _ => .agentSessionManaged requestId) fun reason =>
              .agentSessionManageError requestId ⟨reason.code, "could not manage session"⟩

/-- The access check of a pane request, made before a repeated request is looked up. -/
def paneAccessRefuses : Bool :=
  let cwd := trimmedCwd pane.cwd
  desktop.accessRefuses
    (cwd.toList ++ (resumeFileFromLaunchFlags platform.isAbsolute pane.launchFlags).toList)
    cwd.isNone

/-- The request to the splitter for a pane. -/
def splitRequest (dir : SplitPaneDir) (agent : Option String) (nowMs : Nat) :
    SplitPaneRequest where
  windowId := sanitizeIdLike pane.windowId
  fromPaneId := sanitizeIdLike pane.fromPaneId
  dir := dir
  agent := agent
  launchFlags := pane.launchFlags
  cwd := trimmedCwd pane.cwd
  paneName := sanitizePaneName pane.paneName
  nowMs := nowMs

/-- Split a pane. -/
def splitPane (requestId dir : String) (pane : PaneLaunch) (nowMs : Nat) : Answer :=
  match sanitizeSplitDir dir with
  | none =>
    (.splitPaneError requestId
      ⟨SplitPaneCreateError.invalidDirection.code, "split direction must be right or down"⟩, [])
  | some dir =>
    withAgent pane.agent (.splitPaneError requestId) fun agent =>
      withService desktop.paneSplitter (.splitPaneError requestId) "desktop-backed split not ready"
        fun splitter =>
        let request := splitRequest pane dir agent nowMs
        let size := InitialTerminalSize.fromOptionalPair pane.cols pane.rows
        called (.splitPane request size) (splitter.splitPane request size)
          (fun created => .splitPaneOk requestId created.sessionId created.tabId) fun reason =>
          .splitPaneError requestId ⟨reason.code, "could not split pane"⟩

/-- Create a pane without a split. -/
def newPane (nowMs : Nat) : Answer :=
  withAgent pane.agent (.splitPaneError requestId) fun agent =>
    withService desktop.paneSplitter (.splitPaneError requestId)
      "desktop-backed pane create not ready" fun splitter =>
      let request := splitRequest pane .right agent nowMs
      let size := InitialTerminalSize.fromOptionalPair pane.cols pane.rows
      called (.newPane request size) (splitter.newPane request size)
        (fun created => .splitPaneOk requestId created.sessionId created.tabId) fun reason =>
        .splitPaneError requestId ⟨reason.code, "could not create pane"⟩

/-- The request about a pane that a window holds. -/
def paneRequest (windowId paneId : String) (nowMs : Nat) : PaneRequest :=
  ⟨sanitizeIdLike windowId, sanitizeIdLike paneId, nowMs⟩

/-- Bring a stashed pane back. -/
def revivePane (pane : PaneView) (nowMs : Nat) : Answer :=
  withService desktop.paneReviver (.revivePaneError requestId)
    "desktop-backed pane revive not ready" fun revive =>
    let request := paneRequest pane.windowId pane.paneId nowMs
    let size := InitialTerminalSize.fromOptionalPair pane.cols pane.rows
    called (.revivePane request size) (revive request size) (.revivePaneOk requestId) fun reason =>
      .revivePaneError requestId ⟨reason.code, "could not restore pane"⟩

/-- Start the session behind a pane. -/
def startPaneSession (pane : PaneView) (nowMs : Nat) : Answer :=
  withService desktop.paneSessionStarter (.startPaneSessionError requestId)
    "pane session start not ready" fun start =>
    let request := paneRequest pane.windowId pane.paneId nowMs
    let size := InitialTerminalSize.fromOptionalPair pane.cols pane.rows
    called (.startPaneSession request size) (start request size) (.startPaneSessionOk requestId)
      fun reason => .startPaneSessionError requestId ⟨reason.code, "could not start pane session"⟩

/-- Remove a pane's record. -/
def removePane (requestId windowId paneId : String) (nowMs : Nat) : Answer :=
  withService desktop.paneRemover (.removePaneError requestId) "desktop-backed remove not ready"
    fun remove =>
    let request := paneRequest windowId paneId nowMs
    called (.removePane request) (remove request) (fun _ => .removePaneOk requestId) fun reason =>
      .removePaneError requestId ⟨reason.code,
        if reason = .globallyLastVisible then "the globally last visible window must remain open"
        else "could not remove the pane"⟩

/-- Rename a pane or a window. -/
def rename (paneId : Option String) (name : String) (nowMs : Nat) : Answer :=
  match sanitizeLabel (some name) with
  | none =>
    (.renameError requestId ⟨RenameError.invalidName.code, "name must be non-empty"⟩, [])
  | some name =>
    withService desktop.renamer (.renameError requestId) "desktop-backed rename not ready"
      fun rename =>
      let request : RenameRequest :=
        ⟨sanitizeIdLike windowId, paneId.map sanitizeIdLike, name, nowMs⟩
      called (.rename request) (rename request) (fun _ => .renameOk requestId) fun reason =>
        .renameError requestId ⟨reason.code, "could not rename"⟩

/-- Switch the desktop to a window. -/
def focusWindow (nowMs : Nat) : Answer :=
  withService desktop.windowFocuser (.focusWindowError requestId)
    "live desktop focus hook not ready" fun focus =>
    called (.focusWindow (sanitizeIdLike windowId) nowMs) (focus (sanitizeIdLike windowId) nowMs)
      (fun _ => .focusWindowOk requestId) fun reason =>
      .focusWindowError requestId ⟨reason.code, "could not focus window"⟩

/-- Close a window. -/
def closeWindow (nowMs : Nat) : Answer :=
  withService desktop.windowCloser (.closeWindowError requestId)
    "desktop-backed close window not ready" fun close =>
    called (.closeWindow (sanitizeIdLike windowId) nowMs) (close (sanitizeIdLike windowId) nowMs)
      (fun _ => .closeWindowOk requestId) fun reason => .closeWindowError requestId reason.refusal

/-- The access check of a window request. -/
def windowAccessRefuses (cwd : Option String) (launchFlags : Option Json) : Bool :=
  let cwd := sanitizeCwd platform.isAbsolute cwd
  desktop.accessRefuses
    (cwd.toList ++ (resumeFileFromLaunchFlags platform.isAbsolute launchFlags).toList) cwd.isNone

/-- Open a window. -/
def newWindow (requestId projectId name : String) (cwd agent : Option String)
    (launchFlags : Option Json) (cols rows : Option Nat) (nowMs : Nat) : Answer :=
  withAgent agent (.newWindowError requestId) fun agent =>
    withService desktop.windowOpener (.newWindowError requestId)
      "desktop-backed new window not ready" fun opener =>
      let request : NewWindowRequest :=
        ⟨sanitizeIdLike projectId, (sanitizeLabel (some name)).getD "",
          sanitizeCwd platform.isAbsolute cwd, agent, launchFlags, nowMs⟩
      let size := InitialTerminalSize.fromOptionalPair cols rows
      called (.newWindow request size) (opener request size)
        (fun created => .newWindowOk requestId created.windowId created.sessionId) fun reason =>
        .newWindowError requestId ⟨reason.code, "could not create window"⟩

/-- The access check of a project request: its root and its pinned directories. -/
def projectAccessRefuses (root : Option String) (fields : ProjectFields) : Bool :=
  desktop.accessRefuses
    ((sanitizeCwd platform.isAbsolute root).toList
      ++ ((sanitizeDirectories fields.directories).getD []).map ProjectDirectoryWire.path) false

/-- The request to the project editor. -/
def projectRequest (projectId name root : Option String) (fields : ProjectFields)
    (agent : Option String) (nowMs : Nat) : ProjectEditRequest where
  projectId := projectId.map sanitizeIdLike
  name := sanitizeLabel name
  root := sanitizeCwd platform.isAbsolute root
  icon := sanitizeLabel fields.icon
  accentColor := sanitizeAccentColor fields.accentColor
  agent := agent
  resumeMode := sanitizeResumeMode fields.resumeMode
  resumeSessionId := sanitizeResumeSessionId agent fields.resumeSessionId
  model := sanitizeModel fields.model
  dangerous := fields.dangerous
  customCommand := sanitizeCustomCommand fields.customCommand
  directories := sanitizeDirectories fields.directories
  nowMs := nowMs

/-- Create a project. -/
def projectCreate (requestId name root : String) (fields : ProjectFields) (cols rows : Option Nat)
    (nowMs : Nat) : Answer :=
  withAgent fields.agent (.projectEditError requestId) fun agent =>
    withService desktop.projectEditor (.projectEditError requestId)
      "desktop-backed project create not ready" fun editor =>
      let request := projectRequest platform none (some name) (some root) fields agent nowMs
      let size := InitialTerminalSize.fromOptionalPair cols rows
      called (.createProject request size) (editor.createProject request size)
        (fun edited => .projectEditOk requestId edited.projectId edited.sessionId) fun reason =>
        .projectEditError requestId ⟨reason.code, "could not edit project"⟩

/-- `project_edit_reply`. -/
def projectEditReply : Except ProjectEditError ProjectEdited → OutboundMsg
  | .ok edited => .projectEditOk requestId edited.projectId edited.sessionId
  | .error .daemonUnavailable =>
    .projectEditError requestId
      ⟨"daemon_unavailable", "terminal service unavailable; project was not changed"⟩
  | .error .globallyLastVisible =>
    .projectEditError requestId ⟨"last_visible_window", "keep one window open globally"⟩
  | .error reason => .projectEditError requestId ⟨reason.code, "could not edit project"⟩

/-- Change a project. -/
def projectUpdate (requestId projectId : String) (name root : Option String)
    (fields : ProjectFields) (nowMs : Nat) : Answer :=
  if projectAccessRefuses platform desktop root fields then
    (.projectEditError requestId fullDiskAccessRequired, [])
  else
    withAgent fields.agent (.projectEditError requestId) fun agent =>
      withService desktop.projectEditor (.projectEditError requestId)
        "desktop-backed project update not ready" fun editor =>
        let request := projectRequest platform (some projectId) name root fields agent nowMs
        (projectEditReply requestId (editor.updateProject request), [.updateProject request])

/-- Delete a project. -/
def deleteProject (requestId projectId : String) (nowMs : Nat) : Answer :=
  withService desktop.projectEditor (.projectEditError requestId)
    "desktop-backed project delete not ready" fun editor =>
    (projectEditReply requestId (editor.deleteProject (sanitizeIdLike projectId) nowMs),
      [.deleteProject (sanitizeIdLike projectId) nowMs])

/-- `resume_descriptor_from_launch_flags`. -/
def resumeDescriptorFromLaunchFlags (agent : Option String) (flags : Option Json) :
    Option ResumeDescriptor :=
  match agent.bind sanitizeAgent with
  | none => none
  | some agent =>
    if (firstField flags ["resumeMode", "resume_mode"]).bind Json.text? = some "resume" then
      let raw := (firstField flags ["resumeSessionId", "resume_session_id"]).bind Json.text?
      some ⟨agent, sanitizeResumeSessionId (some agent) raw,
        resumeFileFromLaunchFlags platform.isAbsolute flags⟩
    else none

/-- `resolve_gemini_resume_file`: an older session is found by its file. -/
def resolveGeminiResumeFile (cwd : Option String) (descriptor : ResumeDescriptor) :
    ResumeDescriptor :=
  if descriptor.agent ≠ "gemini" ∨ descriptor.sessionFile.isSome then descriptor
  else
    match descriptor.sessionId with
    | none => descriptor
    | some sessionId =>
      if platform.canonicalUuid sessionId = some sessionId then descriptor
      else { descriptor with sessionFile := desktop.geminiSessionFile cwd sessionId }

/-- Create a session without a record. -/
def createSession (label cwd agent : Option String)
    (launchFlags : Option Json) (cols rows : Option Nat) : Answer :=
  match desktop.sessionCreator with
  | none => (.sessionCreateError requestId recordlessCreationHeld, [])
  | some create =>
    let cwd := sanitizeCwd platform.isAbsolute cwd
    if desktop.accessRefuses (cwd.getD desktop.defaultHistoryCwd
        :: (resumeFileFromLaunchFlags platform.isAbsolute launchFlags).toList) false then
      (.sessionCreateError requestId fullDiskAccessRequired, [])
    else
      withAgent agent (.sessionCreateError requestId) fun agent =>
        let resume := (resumeDescriptorFromLaunchFlags platform agent launchFlags).map
          (resolveGeminiResumeFile platform desktop cwd)
        let request : CreateSessionRequest :=
          ⟨cwd, resume, modelFromLaunchFlags launchFlags, dangerousFromLaunchFlags launchFlags,
            agent.filter (· != "terminal")⟩
        let size := InitialTerminalSize.fromOptionalPair cols rows
        called (.createSession request size) (create request size)
          (fun sessionId => .sessionCreated requestId sessionId (sanitizeLabel label)) fun reason =>
          .sessionCreateError requestId ⟨reason.code, "could not create a session"⟩

/-- Who owns the size of the shared terminal, after the browser's choice. -/
def setWinsizeOwner (selected : Bool) (nowMs : Nat) : Answer :=
  match desktop.winsizeOwner with
  | some choose =>
    (.winsizeOwnerChanged (choose selected nowMs), [.setWinsizeOwner selected nowMs])
  | none => (.winsizeOwnerChanged (if selected then "remote" else "local"), [])

end HydraTerm.Remote.Control
