import HydraTerm.Lib.Keyed
import HydraTerm.Lib.Checks
import HydraTerm.Shell.Records

/-!
# Who owns a session

A session is named by its own row, by agent tasks (the current session and the history), by tabs
and by worktree markers. The shell reads all four from one snapshot before it destroys anything,
and refuses to go on where one of them cannot be trusted: an id that is not a plain path
component, a history that is not a list of distinct ids, a workspace that is not there.

The ids of every row are columns under a primary key; the columns that no owner check reads are
left out.
-/

namespace HydraTerm.Shell

open Grid

/-! ## Ids -/

/-- `MAX_ID_LEN`, in bytes. -/
def maxIdLen : Nat := 128

/-- Why an id cannot be a path component. -/
inductive IdError
  | empty
  | tooLong (len max : Nat)
  | illegalChar (ch : Char)
  deriving DecidableEq

/-- The alphabet of ids: ASCII letters and digits, the hyphen and the underscore. -/
def isAllowed (c : Char) : Bool := c.isAlphanum || c == '-' || c == '_'

/-- `validate_id`: the id itself, or its first problem. -/
def validateId (id : String) : Except IdError String :=
  if id.isEmpty then .error .empty
  else if id.utf8ByteSize > maxIdLen then .error (.tooLong id.utf8ByteSize maxIdLen)
  else
    match id.toList.find? (fun c => !isAllowed c) with
    | some ch => .error (.illegalChar ch)
    | none => .ok id

/-- The text is an id. -/
def IsId (id : String) : Prop := validateId id = .ok id
  deriving Decidable

/-! ## The owner tables -/

abbrev ProjectId := String
abbrev WorkspaceId := String
abbrev AgentTaskId := String

/-- A row of `workspaces`. -/
structure WorkspaceRow where
  workspaceId : WorkspaceId
  projectId : ProjectId
  deriving DecidableEq

/-- A row of `agent_tasks`. The history column holds a JSON text; `none` is a text that is not a
list of strings. -/
structure AgentTaskRow where
  agentTaskId : AgentTaskId
  projectId : ProjectId
  currentSessionId : Option SessionId
  sessionHistory : Option (List SessionId)
  deriving DecidableEq

/-- A row of `sessions`. -/
structure SessionRow where
  sessionId : SessionId
  workspaceId : WorkspaceId
  agentTaskId : Option AgentTaskId
  lastKnownGeneration : Option SessionGeneration
  deriving DecidableEq

/-- A row of `tabs`. -/
structure TabRow where
  windowId : WindowId
  tabId : TabId
  sessionId : Option SessionId
  stashed : Bool
  deriving DecidableEq

/-- A row of `worktree_provenance`, which has no foreign key. -/
structure WorktreeRow where
  sessionId : SessionId
  workspaceId : WorkspaceId
  deriving DecidableEq

/-- The tables that name sessions, each under its primary key. -/
structure OwnerTables where
  workspaces : List WorkspaceRow
  tasks : List AgentTaskRow
  sessions : List SessionRow
  tabs : List TabRow
  worktrees : List WorktreeRow
  workspaceKeys : (workspaces.map (·.workspaceId)).Nodup
  taskKeys : (tasks.map (·.agentTaskId)).Nodup
  sessionKeys : (sessions.map (·.sessionId)).Nodup
  tabKeys : (tabs.map fun tab => (tab.windowId, tab.tabId)).Nodup
  worktreeKeys : (worktrees.map (·.sessionId)).Nodup
  deriving DecidableEq

/-! ## The ownership graph -/

/-- What makes the ownership evidence unusable: the errors of `session_ownership_graph`, with the
label each check gives to the id or the list it reads. -/
inductive OwnershipError
  | invalidId (what id : String) (error : IdError)
  | invalidList (what : String)
  | duplicateId (what id : String)
  | sessionWithoutWorkspace (sessionId : SessionId)
  | invalidGeneration (sessionId : SessionId)
  | worktreeWithoutWorkspace (sessionId : SessionId) (workspaceId : WorkspaceId)
  deriving DecidableEq

/-- `checked_deletion_id`. -/
def checkedDeletionId (id what : String) : Except OwnershipError String :=
  match validateId id with
  | .ok valid => .ok valid
  | .error error => .error (.invalidId what id error)

/-- The checks of `parse_id_list` on each id, with those already seen. -/
def checkIdList (what : String) (seen : List String) : List String → Except OwnershipError Unit
  | [] => .ok ()
  | id :: rest => do
    let _ ← checkedDeletionId id what
    if id ∈ seen then .error (.duplicateId what id) else checkIdList what (id :: seen) rest

/-- `parse_id_list`: valid ids, each once. -/
def parseIdList (json : Option (List String)) (what : String) :
    Except OwnershipError (List String) :=
  match json with
  | none => .error (.invalidList what)
  | some ids => do
    checkIdList what [] ids
    return ids

/-- A session row with the project of its workspace. -/
structure OwnedSession where
  sessionId : SessionId
  owner : ProjectId
  generation : Option SessionGeneration
  deriving DecidableEq

/-- The sessions an agent task names, with its project. -/
structure TaskRefs where
  owner : ProjectId
  sessions : List SessionId
  deriving DecidableEq

/-- A tab that names a session. -/
structure TabRef where
  windowId : WindowId
  tabId : TabId
  sessionId : SessionId
  deriving DecidableEq

/-- A worktree marker with the project of its workspace. -/
structure WorktreeRef where
  sessionId : SessionId
  workspaceId : WorkspaceId
  owner : ProjectId
  deriving DecidableEq

/-- `SessionOwnershipGraph`. -/
structure SessionOwnershipGraph where
  sessionRows : List OwnedSession
  taskRefs : List TaskRefs
  tabRefs : List TabRef
  worktreeRefs : List WorktreeRef
  deriving DecidableEq

variable (workspaces : List WorkspaceRow) (row : AgentTaskRow)

/-- The project of a workspace: the left join of the ownership queries. -/
def projectOfWorkspace (workspaceId : WorkspaceId) : Option ProjectId :=
  (workspaces.find? (·.workspaceId = workspaceId)).map (·.projectId)

/-- One row of the session query. A generation is one to 128 bytes long. -/
def readSessionRow (row : SessionRow) :
    Except OwnershipError OwnedSession := do
  let sessionId ← checkedDeletionId row.sessionId "session"
  match projectOfWorkspace workspaces row.workspaceId with
  | none => .error (.sessionWithoutWorkspace sessionId)
  | some project =>
    let owner ← checkedDeletionId project "session workspace project"
    if row.lastKnownGeneration.any (fun g => g.isEmpty || g.utf8ByteSize > 128) then
      .error (.invalidGeneration sessionId)
    else return ⟨sessionId, owner, row.lastKnownGeneration⟩

/-- One row of the task query: the history and the current session, sorted, each once. Repeated
ids of a sorted list are adjacent, where the source's `dedup` removes them. -/
def readTaskRefs : Except OwnershipError TaskRefs := do
  let owner ← checkedDeletionId row.projectId "agent task project"
  let history ← parseIdList row.sessionHistory "agent task session_history"
  match row.currentSessionId with
  | none => return ⟨owner, (history.insertionSort (· ≤ ·)).dedup⟩
  | some current =>
    let current ← checkedDeletionId current "agent task current session"
    return ⟨owner, ((history ++ [current]).insertionSort (· ≤ ·)).dedup⟩

/-- One row of the tab query. -/
def readTabRef (row : TabRow) (sessionId : SessionId) : Except OwnershipError TabRef := do
  let windowId ← checkedDeletionId row.windowId "tab window"
  let tabId ← checkedDeletionId row.tabId "tab"
  let sessionId ← checkedDeletionId sessionId "tab session"
  return ⟨windowId, tabId, sessionId⟩

/-- One row of the worktree query. -/
def readWorktreeRef (row : WorktreeRow) :
    Except OwnershipError WorktreeRef := do
  let sessionId ← checkedDeletionId row.sessionId "worktree session"
  let workspaceId ← checkedDeletionId row.workspaceId "worktree workspace"
  match projectOfWorkspace workspaces row.workspaceId with
  | none => .error (.worktreeWithoutWorkspace sessionId workspaceId)
  | some project =>
    let owner ← checkedDeletionId project "worktree workspace project"
    return ⟨sessionId, workspaceId, owner⟩

/-- The tabs of `tabs WHERE session_id IS NOT NULL`, with their sessions. -/
def tabsWithSession (tabs : List TabRow) : List (TabRow × SessionId) :=
  tabs.filterMap fun tab => tab.sessionId.map (tab, ·)

/-- `session_ownership_graph`: all evidence, or the first row that cannot be trusted. -/
def sessionOwnershipGraph (tables : OwnerTables) :
    Except OwnershipError SessionOwnershipGraph := do
  let sessionRows ← tables.sessions.mapM (readSessionRow tables.workspaces)
  let taskRefs ← tables.tasks.mapM readTaskRefs
  let tabRefs ← (tabsWithSession tables.tabs).mapM fun tab => readTabRef tab.1 tab.2
  let worktreeRefs ← tables.worktrees.mapM (readWorktreeRef tables.workspaces)
  return ⟨sessionRows, taskRefs, tabRefs, worktreeRefs⟩

/-! ## What the graph says about the tables -/

/-- The agent task names the session, as its current one or in its history. -/
def AgentTaskRow.Names (sessionId : SessionId) : Prop :=
  sessionId ∈ row.sessionHistory.getD [] ∨ row.currentSessionId = some sessionId
  deriving Decidable

/-- The owner columns of a task can be trusted: ids, and a history that names each session once. -/
def AgentTaskRow.Trusted : Prop :=
  IsId row.projectId ∧ (∀ id ∈ row.currentSessionId, IsId id) ∧
    ∃ history, row.sessionHistory = some history ∧ (∀ id ∈ history, IsId id) ∧ history.Nodup

/-- The session row belongs to the project, through its workspace. -/
def OwnerTables.Owns (tables : OwnerTables) (projectId : ProjectId)
    (workspaceId : WorkspaceId) : Prop :=
  projectOfWorkspace tables.workspaces workspaceId = some projectId
  deriving Decidable

/-- A valid id is passed on unchanged. -/
theorem validateId_ok {id valid : String} (checked : validateId id = .ok valid) : valid = id := by
  rw [validateId, Lib.check_ok_iff, Lib.check_ok_iff] at checked
  obtain ⟨-, -, checked⟩ := checked
  split at checked
  · cases checked
  · exact (Except.ok.inj checked).symm

/-- Exactly ids are passed on, unchanged. -/
theorem checkedDeletionId_ok_iff {id what valid : String} :
    checkedDeletionId id what = .ok valid ↔ valid = id ∧ IsId id := by
  unfold checkedDeletionId IsId
  split
  next isValid =>
    obtain rfl := validateId_ok isValid
    simp [isValid, eq_comm]
  next isError => simp [isError]

/-- The checks pass exactly on new ids, each once. -/
theorem checkIdList_ok_iff {what : String} {seen ids : List String} {done : Unit} :
    checkIdList what seen ids = .ok done ↔
      (∀ id ∈ ids, IsId id ∧ id ∉ seen) ∧ ids.Nodup := by
  induction ids generalizing seen with
  | nil => simp [checkIdList]
  | cons id _ ih =>
    rw [List.forall_mem_cons, List.nodup_cons]
    simp only [checkIdList, Lib.bind_ok_iff, checkedDeletionId_ok_iff, Lib.check_ok_iff, ih,
      List.mem_cons, not_or]
    constructor
    · rintro ⟨_, ⟨rfl, isId⟩, fresh, later, distinct⟩
      refine ⟨⟨⟨isId, fresh⟩, fun other member => ?_⟩, fun repeated => ?_, distinct⟩
      · exact ⟨(later other member).1, (later other member).2.2⟩
      · exact (later _ repeated).2.1 rfl
    · rintro ⟨⟨⟨isId, fresh⟩, later⟩, notRest, distinct⟩
      refine ⟨id, ⟨rfl, isId⟩, fresh, fun other member => ?_, distinct⟩
      obtain ⟨otherId, otherFresh⟩ := later other member
      exact ⟨otherId, fun same => notRest (same ▸ member), otherFresh⟩

/-- A list is parsed exactly when it is one of ids, each once. -/
theorem parseIdList_ok_iff {json : Option (List String)} {what : String} {ids : List String} :
    parseIdList json what = .ok ids ↔ json = some ids ∧ (∀ id ∈ ids, IsId id) ∧ ids.Nodup := by
  cases json with
  | none => simp [parseIdList]
  | some =>
    simp only [parseIdList, Lib.bind_ok_iff, checkIdList_ok_iff, Option.some.injEq]
    constructor
    · rintro ⟨-, ⟨each, distinct⟩, ok⟩
      cases ok
      exact ⟨rfl, fun id member => (each id member).1, distinct⟩
    · rintro ⟨rfl, each, distinct⟩
      exact ⟨(), ⟨fun id member => ⟨each id member, List.not_mem_nil⟩, distinct⟩, rfl⟩

variable {row} {tables : OwnerTables} {graph : SessionOwnershipGraph} {sessionId : SessionId}

/-- A session row is read with the project of its workspace. -/
theorem readSessionRow_ok {row : SessionRow} {owned : OwnedSession}
    (read : readSessionRow tables.workspaces row = .ok owned) :
    owned.sessionId = row.sessionId ∧ tables.Owns owned.owner row.workspaceId ∧
      owned.generation = row.lastKnownGeneration := by
  simp only [readSessionRow, Lib.bind_ok_iff, checkedDeletionId_ok_iff] at read
  obtain ⟨_, ⟨rfl, -⟩, read⟩ := read
  split at read
  · cases read
  next isProject =>
    simp only [Lib.bind_ok_iff, checkedDeletionId_ok_iff, Lib.check_ok_iff] at read
    obtain ⟨_, ⟨rfl, -⟩, -, read⟩ := read
    cases read
    exact ⟨rfl, isProject, rfl⟩

/-- An agent task is read with the sessions it names. -/
theorem readTaskRefs_ok {refs : TaskRefs} (read : readTaskRefs row = .ok refs) :
    refs.owner = row.projectId ∧ ∀ sessionId, sessionId ∈ refs.sessions ↔ row.Names sessionId := by
  simp only [readTaskRefs, Lib.bind_ok_iff, checkedDeletionId_ok_iff, parseIdList_ok_iff] at read
  obtain ⟨_, ⟨rfl, -⟩, _, ⟨listed, -⟩, read⟩ := read
  split at read
  next noCurrent =>
    cases read
    exact ⟨rfl, fun sessionId => by simp [AgentTaskRow.Names, listed, noCurrent]⟩
  next isCurrent =>
    simp only [Lib.bind_ok_iff, checkedDeletionId_ok_iff] at read
    obtain ⟨_, ⟨rfl, -⟩, read⟩ := read
    cases read
    exact ⟨rfl, fun sessionId => by simp [AgentTaskRow.Names, listed, isCurrent, eq_comm]⟩

/-- A task is read exactly when its columns can be trusted. -/
theorem readTaskRefs_ok_iff : (∃ refs, readTaskRefs row = .ok refs) ↔ row.Trusted := by
  obtain ⟨_, _, current, _⟩ := row
  simp only [AgentTaskRow.Trusted, readTaskRefs, Lib.bind_ok_iff, checkedDeletionId_ok_iff,
    parseIdList_ok_iff]
  cases current with
  | none =>
    constructor
    · rintro ⟨refs, _, ⟨-, project⟩, history, parsed, -⟩
      exact ⟨project, nofun, history, parsed⟩
    · rintro ⟨project, -, history, parsed⟩
      exact ⟨_, _, ⟨rfl, project⟩, history, parsed, rfl⟩
  | some =>
    simp only [Lib.bind_ok_iff, checkedDeletionId_ok_iff]
    constructor
    · rintro ⟨refs, _, ⟨-, project⟩, history, parsed, _, ⟨-, isId⟩, -⟩
      exact ⟨project, fun _ same => Option.some.inj same ▸ isId, history, parsed⟩
    · rintro ⟨project, isId, history, parsed⟩
      exact ⟨_, _, ⟨rfl, project⟩, history, parsed, _, ⟨rfl, isId _ rfl⟩, rfl⟩

/-- A tab is read as it is. -/
theorem readTabRef_ok {row : TabRow} {ref : TabRef}
    (read : readTabRef row sessionId = .ok ref) : ref = ⟨row.windowId, row.tabId, sessionId⟩ := by
  simp only [readTabRef, Lib.bind_ok_iff, checkedDeletionId_ok_iff] at read
  obtain ⟨_, ⟨rfl, -⟩, _, ⟨rfl, -⟩, _, ⟨rfl, -⟩, read⟩ := read
  exact (Except.ok.inj read).symm

/-- A worktree marker is read with the project of its workspace. -/
theorem readWorktreeRef_ok {row : WorktreeRow} {ref : WorktreeRef}
    (read : readWorktreeRef tables.workspaces row = .ok ref) :
    ref.sessionId = row.sessionId ∧ ref.workspaceId = row.workspaceId ∧
      tables.Owns ref.owner row.workspaceId := by
  simp only [readWorktreeRef, Lib.bind_ok_iff, checkedDeletionId_ok_iff] at read
  obtain ⟨_, ⟨rfl, -⟩, _, ⟨rfl, -⟩, read⟩ := read
  split at read
  · cases read
  next isProject =>
    simp only [Lib.bind_ok_iff, checkedDeletionId_ok_iff] at read
    obtain ⟨_, ⟨rfl, -⟩, read⟩ := read
    cases read
    exact ⟨rfl, rfl, isProject⟩

/-- The graph names exactly what the tables name. -/
structure SessionOwnershipGraph.Reads (graph : SessionOwnershipGraph) (tables : OwnerTables) :
    Prop where
  sessionRow : ∀ owned, owned ∈ graph.sessionRows ↔ ∃ row ∈ tables.sessions,
    owned.sessionId = row.sessionId ∧ tables.Owns owned.owner row.workspaceId ∧
      owned.generation = row.lastKnownGeneration
  taskRef : ∀ projectId sessionId,
    (∃ refs ∈ graph.taskRefs, refs.owner = projectId ∧ sessionId ∈ refs.sessions) ↔
      ∃ row ∈ tables.tasks, row.projectId = projectId ∧ row.Names sessionId
  tabRef : ∀ ref, ref ∈ graph.tabRefs ↔ ∃ row ∈ tables.tabs,
    row.windowId = ref.windowId ∧ row.tabId = ref.tabId ∧ row.sessionId = some ref.sessionId
  worktreeRef : ∀ ref, ref ∈ graph.worktreeRefs ↔ ∃ row ∈ tables.worktrees,
    ref.sessionId = row.sessionId ∧ ref.workspaceId = row.workspaceId ∧
      tables.Owns ref.owner row.workspaceId

/-- A tab is listed with its session when it has one. -/
theorem mem_tabsWithSession {tabs : List TabRow} {tab : TabRow} :
    (tab, sessionId) ∈ tabsWithSession tabs ↔ tab ∈ tabs ∧ tab.sessionId = some sessionId := by
  simp [tabsWithSession]

section

variable (read : sessionOwnershipGraph tables = .ok graph)
include read

/-- A graph that could be read names exactly what the tables name. -/
theorem sessionOwnershipGraph_reads : graph.Reads tables := by
  simp only [sessionOwnershipGraph, Lib.bind_ok_iff] at read
  obtain ⟨sessionRows, isSessions, taskRefs, isTasks, tabRefs, isTabs, worktreeRefs, isWorktrees,
    isGraph⟩ := read
  cases isGraph
  refine ⟨fun owned => ?_, fun projectId sessionId => ?_, fun ref => ?_, fun ref => ?_⟩
  · rw [Lib.mem_of_mapM_ok isSessions]
    constructor
    · rintro ⟨row, listed, isOwned⟩
      exact ⟨row, listed, readSessionRow_ok isOwned⟩
    · rintro ⟨row, listed, sameId, owns, sameGeneration⟩
      obtain ⟨other, -, isOther⟩ := Lib.exists_of_mapM_ok isSessions listed
      obtain ⟨_, otherOwns, _⟩ := readSessionRow_ok isOther
      have sameOwner : owned.owner = other.owner := Option.some.inj (owns.symm.trans otherOwns)
      refine ⟨row, listed, ?_⟩
      cases owned
      cases other
      simp_all
  · constructor
    · rintro ⟨refs, listed, rfl, named⟩
      obtain ⟨row, rowListed, isRefs⟩ := (Lib.mem_of_mapM_ok isTasks).mp listed
      obtain ⟨sameOwner, names⟩ := readTaskRefs_ok isRefs
      exact ⟨row, rowListed, sameOwner.symm, (names sessionId).mp named⟩
    · rintro ⟨row, listed, rfl, named⟩
      obtain ⟨refs, refsListed, isRefs⟩ := Lib.exists_of_mapM_ok isTasks listed
      obtain ⟨sameOwner, names⟩ := readTaskRefs_ok isRefs
      exact ⟨refs, refsListed, sameOwner, (names sessionId).mpr named⟩
  · rw [Lib.mem_of_mapM_ok isTabs]
    constructor
    · rintro ⟨⟨row, sessionId⟩, listed, isRef⟩
      obtain ⟨rowListed, named⟩ := mem_tabsWithSession.mp listed
      rw [readTabRef_ok isRef]
      exact ⟨row, rowListed, rfl, rfl, named⟩
    · rintro ⟨row, listed, sameWindow, sameTab, named⟩
      have withSession := mem_tabsWithSession.mpr ⟨listed, named⟩
      obtain ⟨_, -, isOther⟩ := Lib.exists_of_mapM_ok isTabs withSession
      refine ⟨_, withSession, ?_⟩
      rw [isOther, readTabRef_ok isOther, sameWindow, sameTab]
  · rw [Lib.mem_of_mapM_ok isWorktrees]
    constructor
    · rintro ⟨row, listed, isRef⟩
      exact ⟨row, listed, readWorktreeRef_ok isRef⟩
    · rintro ⟨row, listed, sameId, sameWorkspace, owns⟩
      obtain ⟨other, -, isOther⟩ := Lib.exists_of_mapM_ok isWorktrees listed
      obtain ⟨_, _, otherOwns⟩ := readWorktreeRef_ok isOther
      have sameOwner : ref.owner = other.owner := Option.some.inj (owns.symm.trans otherOwns)
      refine ⟨row, listed, ?_⟩
      cases ref
      cases other
      simp_all

/-- Where the graph could be read, every session row has a workspace with a project. -/
theorem sessionOwnershipGraph_session {row : SessionRow}
    (listed : row ∈ tables.sessions) : ∃ project, tables.Owns project row.workspaceId := by
  rw [sessionOwnershipGraph, Lib.bind_ok_iff] at read
  obtain ⟨_, isSessions, -⟩ := read
  obtain ⟨owned, -, isOwned⟩ := Lib.exists_of_mapM_ok isSessions listed
  exact ⟨owned.owner, (readSessionRow_ok isOwned).2.1⟩

/-- Where the graph could be read, every worktree marker has a workspace with a project. -/
theorem sessionOwnershipGraph_worktree {row : WorktreeRow}
    (listed : row ∈ tables.worktrees) : ∃ project, tables.Owns project row.workspaceId := by
  simp only [sessionOwnershipGraph, Lib.bind_ok_iff] at read
  obtain ⟨-, -, -, -, -, -, _, isWorktrees, -⟩ := read
  obtain ⟨ref, -, isRef⟩ := Lib.exists_of_mapM_ok isWorktrees listed
  exact ⟨ref.owner, (readWorktreeRef_ok isRef).2.2⟩

end

/-- What tasks are there decides on the graph only by their own columns. -/
theorem sessionOwnershipGraph_ok_iff :
    (∃ graph, sessionOwnershipGraph tables = .ok graph) ↔
      (∀ row ∈ tables.tasks, row.Trusted) ∧
        (∃ rows, tables.sessions.mapM (readSessionRow tables.workspaces) = .ok rows) ∧
        (∃ refs, (tabsWithSession tables.tabs).mapM (fun tab => readTabRef tab.1 tab.2) = .ok refs) ∧
        ∃ refs, tables.worktrees.mapM (readWorktreeRef tables.workspaces) = .ok refs := by
  simp only [← readTaskRefs_ok_iff, ← Lib.mapM_ok_iff, sessionOwnershipGraph, Lib.bind_ok_iff]
  constructor
  · rintro ⟨-, rows, isRows, tasks, isTasks, tabs, isTabs, worktrees, isWorktrees, -⟩
    exact ⟨⟨tasks, isTasks⟩, ⟨rows, isRows⟩, ⟨tabs, isTabs⟩, worktrees, isWorktrees⟩
  · rintro ⟨⟨tasks, isTasks⟩, ⟨rows, isRows⟩, ⟨tabs, isTabs⟩, worktrees, isWorktrees⟩
    exact ⟨_, rows, isRows, tasks, isTasks, tabs, isTabs, worktrees, isWorktrees, rfl⟩

/-- Tables that name no session. -/
def noOwners : OwnerTables := ⟨[], [], [], [], [], .nil, .nil, .nil, .nil, .nil⟩

end HydraTerm.Shell
