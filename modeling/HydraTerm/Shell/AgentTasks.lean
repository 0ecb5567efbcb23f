import HydraTerm.Lib.Maps
import HydraTerm.Lib.Runs
import HydraTerm.Shell.Ownership

/-!
# Agent tasks

Each call of the lifecycle service loads the row of one task, changes the task and writes the row
back. The load and the write are each one call to the store, and nothing holds the row between
them. The ownership check can read what the calls leave exactly while no switch of sessions writes
a session into a history a second time. Drafts stay single and histories complete where every row
is written over the one its call loaded.

The SQLite store keeps no version with a row, so that no load reports a newer version.
-/

namespace HydraTerm.Shell

open Grid Lib List

/-! ## Tasks and their store -/

inductive AgentTaskState
  | draft
  | running
  | waitingOnUser
  | blocked
  | succeeded
  | failed
  | cancelled
  deriving DecidableEq

structure AgentTask where
  agentTaskId : AgentTaskId
  projectId : ProjectId
  goal : String
  state : AgentTaskState
  currentSessionId : Option SessionId
  sessionHistory : List SessionId
  createdAtMs : Nat
  updatedAtMs : Nat
  resultSummary : Option String
  deriving DecidableEq

/-- The failures of the store. -/
inductive StoreError
  | id (error : IdError)
  | db (message : String)
  | map (message : String)
  deriving DecidableEq

inductive AgentTaskServiceError
  | taskNotFound (agentTaskId : AgentTaskId)
  | taskAlreadyExists (agentTaskId : AgentTaskId)
  | corrupt (reason : String)
  | store (error : StoreError)
  deriving DecidableEq

/-- A row of `agent_tasks`: a task, or columns that are not one, with what a load reports and what
the owner checks still read. -/
inductive StoredTask
  | task (task : AgentTask)
  | unreadable (error : AgentTaskServiceError) (row : AgentTaskRow)
  deriving DecidableEq

/-- The owner columns of a row, under its key. -/
def StoredTask.row (agentTaskId : AgentTaskId) : StoredTask → AgentTaskRow
  | .task held => ⟨agentTaskId, held.projectId, held.currentSessionId, some held.sessionHistory⟩
  | .unreadable _ row => { row with agentTaskId }

@[simp] theorem StoredTask.row_agentTaskId (agentTaskId : AgentTaskId) (stored : StoredTask) :
    (stored.row agentTaskId).agentTaskId = agentTaskId := by
  cases stored <;> rfl

/-- The rows of `agent_tasks` by their key, and the keys of `projects`, which they refer to. -/
structure TaskStore where
  projects : List ProjectId
  tasks : AList fun _ : AgentTaskId => StoredTask

variable (store : TaskStore)

/-- The owner tables with these tasks. -/
def TaskStore.tables (others : OwnerTables) : OwnerTables :=
  { others with
    tasks := store.tasks.entries.map fun entry => entry.2.row entry.1
    taskKeys := by
      have keys : (store.tasks.entries.map Sigma.fst).Nodup := store.tasks.nodupKeys
      simpa [Function.comp_def] using keys }

/-- What the database itself answers a call with, where it fails. -/
abbrev Fault := Option StoreError

/-- `load`. `create_draft` reads its row in the same way. -/
def TaskStore.load (fault : Fault) (agentTaskId : AgentTaskId) :
    Except AgentTaskServiceError (Option AgentTask) :=
  match validateId agentTaskId, fault, store.tasks.lookup agentTaskId with
  | .error error, _, _ => .error (.store (.id error))
  | .ok _, some error, _ => .error (.store error)
  | .ok _, none, none => .ok none
  | .ok _, none, some (.task task) => .ok (some task)
  | .ok _, none, some (.unreadable error _) => .error error

/-- `write_record` of a task: its row is inserted or replaced. An update time that is no `i64` is
stored as zero. -/
def TaskStore.writeRecord (fault : Fault) (agentTaskId : AgentTaskId)
    (task : AgentTask) : Except StoreError TaskStore :=
  match validateId agentTaskId, fault with
  | .error error, _ => .error (.id error)
  | .ok _, some error => .error error
  | .ok _, none =>
    if 2 ^ 63 ≤ task.createdAtMs then
      .error (.map "record shape: missing integer field `created_at_ms`")
    else if task.projectId ∉ store.projects then
      .error (.map "sqlite: FOREIGN KEY constraint failed")
    else
      let updatedAtMs := if task.updatedAtMs < 2 ^ 63 then task.updatedAtMs else 0
      .ok { store with tasks := store.tasks.insert agentTaskId (.task { task with updatedAtMs }) }

/-! ## The calls -/

/-- The methods of the service, with what each takes beside the id of the task and the time. -/
inductive TaskOp
  | createDraft (projectId : ProjectId) (goal : String)
  | markRunning (sessionId : SessionId)
  | markWaitingOnUser
  | markBlocked
  | markSucceeded (summary : Option String)
  | markFailed (summary : Option String)
  | markCancelled (summary : Option String)
  deriving DecidableEq

structure TaskCall where
  agentTaskId : AgentTaskId
  op : TaskOp
  nowMs : Nat
  deriving DecidableEq

/-- The change of `mark_running`: the session it leaves goes to the history. -/
def AgentTask.markRunning (sessionId : SessionId) (task : AgentTask) : AgentTask :=
  let left := task.currentSessionId.filter (· ≠ sessionId)
  { task with
    sessionHistory := task.sessionHistory ++ left.toList
    state := .running
    currentSessionId := some sessionId
    resultSummary := none }

/-- The change of `finish`. -/
def AgentTask.finish (state : AgentTaskState) (resultSummary : Option String) (task : AgentTask) :
    AgentTask :=
  { task with state, resultSummary }

namespace TaskCall

/-- What `create_draft` writes where it loaded no task. -/
def createDraft (call : TaskCall) (projectId : ProjectId) (goal : String) :
    Option AgentTask → Except AgentTaskServiceError AgentTask
  | some _ => .error (.taskAlreadyExists call.agentTaskId)
  | none => .ok ⟨call.agentTaskId, projectId, goal, .draft, none, [], call.nowMs, call.nowMs, none⟩

/-- What `transition` writes over the task it loaded. -/
def transition (call : TaskCall) (apply : AgentTask → AgentTask) :
    Option AgentTask → Except AgentTaskServiceError AgentTask
  | none => .error (.taskNotFound call.agentTaskId)
  | some task => .ok { apply task with updatedAtMs := call.nowMs }

/-- What a call writes after it loaded a row. -/
def change (call : TaskCall) : Option AgentTask → Except AgentTaskServiceError AgentTask :=
  match call.op with
  | .createDraft projectId goal => call.createDraft projectId goal
  | .markRunning sessionId => call.transition (·.markRunning sessionId)
  | .markWaitingOnUser => call.transition ({ · with state := .waitingOnUser })
  | .markBlocked => call.transition ({ · with state := .blocked })
  | .markSucceeded summary => call.transition (·.finish .succeeded summary)
  | .markFailed summary => call.transition (·.finish .failed summary)
  | .markCancelled summary => call.transition (·.finish .cancelled summary)

end TaskCall

/-! ## Calls of several processes -/

/-- A call between its load and its write. -/
structure Flight where
  call : TaskCall
  seen : Option AgentTask
  task : AgentTask

/-- The store, the calls under way and the results of those that returned. -/
structure TaskSystem where
  store : TaskStore
  flights : List Flight
  results : List (TaskCall × Except AgentTaskServiceError AgentTask)

/-- A call's load, with which it begins, and its write. A call made alone is its load and then
the write of the only flight. -/
inductive TaskEvent
  | load (call : TaskCall) (fault : Fault)
  | write (index : Nat) (fault : Fault)

variable (system : TaskSystem)

def TaskSystem.next : TaskEvent → TaskSystem
  | .load call fault =>
    match system.store.load fault call.agentTaskId with
    | .error error => { system with results := system.results ++ [(call, .error error)] }
    | .ok seen =>
      match call.change seen with
      | .error error => { system with results := system.results ++ [(call, .error error)] }
      | .ok task => { system with flights := system.flights ++ [⟨call, seen, task⟩] }
  | .write index fault =>
    match system.flights[index]? with
    | none => system
    | some ⟨call, _, task⟩ =>
      let flights := system.flights.eraseIdx index
      match system.store.writeRecord fault call.agentTaskId task with
      | .error error => ⟨system.store, flights, system.results ++ [(call, .error (.store error))]⟩
      | .ok store => ⟨store, flights, system.results ++ [(call, .ok task)]⟩

/-! ## What one call does -/

namespace TaskCall

variable (call : TaskCall)

/-- The session a call makes the current one. -/
def session : Option SessionId :=
  match call.op with
  | .markRunning sessionId => some sessionId
  | _ => none

/-- What a call adds to the history of the task it loaded. -/
def leaves (old : AgentTask) : List SessionId :=
  match call.session with
  | none => []
  | some sessionId => (old.currentSessionId.filter (· ≠ sessionId)).toList

def creates : Bool :=
  match call.op with
  | .createDraft _ _ => true
  | _ => false

variable {call} {task : AgentTask} {old : AgentTask}

/-- A draft is written where no task was loaded. -/
theorem change_none (changes : call.change none = .ok task) :
    call.creates = true ∧ call.session = none ∧
      task.currentSessionId = none ∧ task.sessionHistory = [] := by
  obtain ⟨_, op, _⟩ := call
  cases op <;> cases changes
  exact ⟨rfl, rfl, rfl, rfl⟩

/-- Every other call changes the task it loaded. -/
theorem change_some (changes : call.change (some old) = .ok task) :
    call.creates = false ∧ task.currentSessionId = call.session.or old.currentSessionId ∧
      task.sessionHistory = old.sessionHistory ++ call.leaves old := by
  obtain ⟨_, op, _⟩ := call
  cases op <;> cases changes
  case markRunning => exact ⟨rfl, rfl, rfl⟩
  all_goals exact ⟨rfl, rfl, (append_nil _).symm⟩

variable {sessionId : SessionId}

/-- A call leaves the current session, and only for another one. -/
theorem mem_leaves :
    sessionId ∈ call.leaves old ↔
      old.currentSessionId = some sessionId ∧ ∃ next ∈ call.session, sessionId ≠ next := by
  unfold leaves
  cases call.session <;> simp [Option.filter_eq_some_iff]

theorem leaves_nodup (call : TaskCall) (old : AgentTask) : (call.leaves old).Nodup := by
  unfold leaves
  split
  · exact nodup_nil
  · exact Option.toList_nodup _

end TaskCall

namespace TaskStore

variable {store} {after : TaskStore} {fault : Fault} {agentTaskId : AgentTaskId}
  {seen : Option AgentTask}

/-- A load returns the row as it stands. -/
theorem lookup_of_load (loads : store.load fault agentTaskId = .ok seen) :
    store.tasks.lookup agentTaskId = seen.map .task := by
  unfold load at loads
  split at loads <;> cases loads <;> assumption

/-- A write replaces one row, under a project that is there. -/
theorem writeRecord_ok {task : AgentTask}
    (writes : store.writeRecord fault agentTaskId task = .ok after) :
    task.projectId ∈ store.projects ∧ ∃ updatedAtMs, after =
      { store with tasks := store.tasks.insert agentTaskId (.task { task with updatedAtMs }) } := by
  unfold writeRecord at writes
  split at writes
  · cases writes
  · cases writes
  · simp only [check_ok_iff, not_not] at writes
    obtain ⟨-, listed, ok⟩ := writes
    exact ⟨listed, _, (Except.ok.inj ok).symm⟩

/-- The ownership check can trust every row. -/
def Trusted (store : TaskStore) : Prop :=
  ∀ agentTaskId, ∀ stored ∈ store.tasks.lookup agentTaskId, (stored.row agentTaskId).Trusted

variable {others : OwnerTables}

theorem trusted_iff : store.Trusted ↔ ∀ row ∈ (store.tables others).tasks, row.Trusted := by
  simp only [tables, forall_mem_map, Trusted, AList.mem_lookup_iff]
  exact ⟨fun trusted entry member => trusted _ _ member, fun trusted _ _ member => trusted _ member⟩

/-- Whether the graph can be read after other tasks were written depends on those alone. -/
theorem graph_ok_iff (reads : ∃ graph, sessionOwnershipGraph (store.tables others) = .ok graph) :
    (∃ graph, sessionOwnershipGraph (after.tables others) = .ok graph) ↔ after.Trusted := by
  rw [sessionOwnershipGraph_ok_iff] at reads ⊢
  exact ⟨fun ok => (@trusted_iff _ others).mpr ok.1,
    fun trusted => ⟨trusted_iff.mp trusted, reads.2⟩⟩

end TaskStore

namespace TaskSystem

/-- The calls that succeeded, with what they wrote. -/
def done (system : TaskSystem) : List (TaskCall × AgentTask) :=
  system.results.filterMap fun result => result.2.toOption.map (result.1, ·)

variable {system} {event : TaskEvent}

/-- A step is a load that got its row, a write that went through, or it leaves the store as it is
and starts nothing. -/
theorem next_cases {motive : TaskSystem → Prop}
    (loads : ∀ call fault seen task, event = .load call fault →
      system.store.tasks.lookup call.agentTaskId = seen.map .task → call.change seen = .ok task →
      motive { system with flights := system.flights ++ [⟨call, seen, task⟩] })
    (writes : ∀ index fault flight after, event = .write index fault →
      system.flights[index]? = some flight →
      system.store.writeRecord fault flight.call.agentTaskId flight.task = .ok after.store →
      after.flights ⊆ system.flights → after.done = system.done ++ [(flight.call, flight.task)] →
      motive after) (rests : ∀ after, after.store = system.store → after.flights ⊆ system.flights →
      after.done = system.done → motive after) : motive (system.next event) := by
  cases event with
  | load call fault =>
    simp only [next]
    split
    · exact rests _ rfl (List.Subset.refl _) (by simp [done, Except.toOption])
    next seen isSeen =>
      split
      · exact rests _ rfl (List.Subset.refl _) (by simp [done, Except.toOption])
      next task isTask => exact loads call fault seen task rfl (TaskStore.lookup_of_load isSeen) isTask
  | write index fault =>
    simp only [next]
    split
    · exact rests _ rfl (List.Subset.refl _) rfl
    next call seen task found =>
      have subset := (eraseIdx_sublist system.flights index).subset
      split
      · exact rests _ rfl subset (by simp [done, Except.toOption])
      next store written =>
        exact writes index fault ⟨call, seen, task⟩ _ rfl found written subset
          (by simp [done, Except.toOption])

end TaskSystem

/-! ## What the ownership check reads -/

/-- The session a call leaves is in the history already. -/
def Flight.Repeats (flight : Flight) : Prop :=
  ∃ old ∈ flight.seen, ∃ sessionId ∈ flight.call.leaves old, sessionId ∈ old.sessionHistory
  deriving Decidable

/-- The step writes a history that names a session twice. -/
def TaskSystem.Repeats : TaskEvent → Prop
  | .load _ _ => False
  | .write index fault => ∃ flight ∈ system.flights[index]?, flight.Repeats ∧
      ∃ store, system.store.writeRecord fault flight.call.agentTaskId flight.task = .ok store

/-- A call that names a session names a valid one. -/
def TaskEvent.Valid : TaskEvent → Prop
  | .load call _ => ∀ sessionId ∈ call.session, IsId sessionId
  | .write _ _ => True

/-- A call under way that loaded a row to be trusted, and names a valid session. -/
structure Flight.Sound (flight : Flight) : Prop where
  changes : flight.call.change flight.seen = .ok flight.task
  session : ∀ sessionId ∈ flight.call.session, IsId sessionId
  seen : ∀ old ∈ flight.seen, ((StoredTask.task old).row flight.call.agentTaskId).Trusted

variable {flight : Flight} {fault : Fault}

/-- What such a call writes can be trusted unless it repeats a session. -/
theorem Flight.Sound.trusted_iff (sound : flight.Sound) (updatedAtMs : Nat)
    (project : IsId flight.task.projectId) :
    ((StoredTask.task { flight.task with updatedAtMs }).row flight.call.agentTaskId).Trusted ↔
      ¬flight.Repeats := by
  have changes := sound.changes
  simp only [AgentTaskRow.Trusted, StoredTask.row, project, true_and, Option.some.injEq,
    exists_eq_left', Flight.Repeats]
  cases isSeen : flight.seen with
  | none =>
    rw [isSeen] at changes
    obtain ⟨-, -, current, history⟩ := TaskCall.change_none changes
    simp [current, history]
  | some old =>
    rw [isSeen] at changes
    obtain ⟨-, current, history⟩ := TaskCall.change_some changes
    obtain ⟨-, oldCurrent, _, same, oldHistory, distinct⟩ := sound.seen old isSeen
    cases same
    simp only [current, history, nodup_append, forall_mem_append, distinct,
      TaskCall.leaves_nodup, true_and, Option.mem_def, Option.some.injEq, exists_eq_left']
    constructor
    · rintro ⟨-, -, apart⟩ ⟨sessionId, leaves, listed⟩
      exact apart sessionId listed sessionId leaves rfl
    · intro fresh
      refine ⟨fun sessionId isCurrent => ?_, ⟨oldHistory, fun sessionId leaves => ?_⟩, ?_⟩
      · rcases Option.or_eq_some_iff.mp isCurrent with next | ⟨-, kept⟩
        · exact sound.session sessionId next
        · exact oldCurrent sessionId kept
      · exact oldCurrent sessionId (TaskCall.mem_leaves.mp leaves).1
      · rintro sessionId listed _ leaves rfl
        exact fresh ⟨sessionId, leaves, listed⟩

/-- Every row and every call under way can be trusted. -/
structure TaskSystem.Sound : Prop where
  projects : ∀ projectId ∈ system.store.projects, IsId projectId
  trusted : system.store.Trusted
  flights : ∀ flight ∈ system.flights, flight.Sound

namespace TaskSystem.Sound

variable {system} {event : TaskEvent} (sound : system.Sound)
include sound

/-- A write leaves rows to be trusted unless it repeats a session. -/
theorem write_trusted_iff {after : TaskStore} (member : flight ∈ system.flights)
    (written : system.store.writeRecord fault flight.call.agentTaskId flight.task = .ok after) :
    after.Trusted ↔ ¬flight.Repeats := by
  obtain ⟨listed, updatedAtMs, rfl⟩ := TaskStore.writeRecord_ok written
  rw [← (sound.flights flight member).trusted_iff updatedAtMs (sound.projects _ listed)]
  constructor
  · exact fun trusted => trusted _ _ (AList.lookup_insert _)
  · intro row other stored found
    rw [Option.mem_def, lookup_insert_eq] at found
    split at found
    next same => cases found; exact same ▸ row
    next => exact sound.trusted other stored found

/-- A step that repeats no session keeps everything trusted. -/
theorem next (valid : event.Valid) (fresh : ¬system.Repeats event) : (system.next event).Sound := by
  refine TaskSystem.next_cases ?_ ?_ ?_
  · rintro call fault seen task rfl isRow changes
    refine ⟨sound.projects, sound.trusted, forall_mem_append.mpr ⟨sound.flights, ?_⟩⟩
    refine forall_mem_singleton.mpr ⟨changes, valid, fun old isOld => ?_⟩
    exact sound.trusted _ _ (isRow ▸ Option.mem_map_of_mem _ isOld)
  · rintro index fault flight after rfl found written subset -
    have member := mem_of_getElem? found
    have trusted := (sound.write_trusted_iff member written).mpr fun repeats =>
      fresh ⟨flight, found, repeats, _, written⟩
    obtain ⟨-, _, isStore⟩ := TaskStore.writeRecord_ok written
    exact ⟨isStore ▸ sound.projects, trusted, fun other kept => sound.flights other (subset kept)⟩
  · intro after same subset _
    exact ⟨same ▸ sound.projects, same ▸ sound.trusted,
      fun flight kept => sound.flights flight (subset kept)⟩

/-- A step leaves rows to be trusted unless it repeats a session. -/
theorem next_trusted_iff (valid : event.Valid) :
    (system.next event).store.Trusted ↔ ¬system.Repeats event := by
  refine ⟨fun trusted repeats => ?_, fun fresh => (sound.next valid fresh).trusted⟩
  cases event with
  | load => exact repeats
  | write =>
    obtain ⟨_, found, again, _, written⟩ := repeats
    simp only [TaskSystem.next, Option.mem_def.mp found, written] at trusted
    exact (sound.write_trusted_iff (mem_of_getElem? found) written).mp trusted again

end TaskSystem.Sound

/-- A step with valid sessions that repeats none. -/
def TaskSystem.CleanStep (before : TaskSystem) (event : TaskEvent) (after : TaskSystem) : Prop :=
  after = before.next event ∧ event.Valid ∧ ¬before.Repeats event

/-- Over every interleaving of calls that name valid sessions, the ownership graph can be read as
long as no call writes a session into a history a second time, and the first one that does makes it
unreadable. -/
theorem ownership_readable_until_repeat {others : OwnerTables} {store : TaskStore}
    {events : List TaskEvent} {last : TaskSystem} {event : TaskEvent}
    (projects : ∀ projectId ∈ store.projects, IsId projectId)
    (reads : ∃ graph, sessionOwnershipGraph (store.tables others) = .ok graph)
    (run : Run TaskSystem.CleanStep ⟨store, [], []⟩ events last) (valid : event.Valid) :
    (∃ graph, sessionOwnershipGraph (last.store.tables others) = .ok graph) ∧
      ((∃ graph, sessionOwnershipGraph ((last.next event).store.tables others) = .ok graph) ↔
        ¬last.Repeats event) := by
  have trusted : store.Trusted := (TaskStore.graph_ok_iff reads).mp reads
  have sound : last.Sound := by
    refine run.invariant ⟨projects, trusted, forall_mem_nil _⟩ ?_
    rintro before event _ ⟨rfl, valid, fresh⟩ sound
    exact sound.next valid fresh
  rw [TaskStore.graph_ok_iff reads, TaskStore.graph_ok_iff reads]
  exact ⟨sound.trusted, sound.next_trusted_iff valid⟩

/-- One project without tasks. -/
def oneProject : TaskStore := ⟨["p"], ∅⟩

/-- The calls one after the other, on a database without faults. -/
def TaskSystem.inTurn (calls : List TaskCall) : TaskSystem :=
  calls.foldl (fun system call => (system.next (.load call none)).next (.write 0 none)) system

/-- Conditions under which a step is clean, checked. -/
def TaskSystem.cleanCheck : TaskEvent → Bool
  | .load call _ => decide (∀ sessionId ∈ call.session, IsId sessionId)
  | .write index _ => system.flights[index]?.all fun flight => !decide flight.Repeats

theorem TaskSystem.cleanStep_of_check (system : TaskSystem) (event : TaskEvent)
    (checked : system.cleanCheck event = true) : system.CleanStep event (system.next event) := by
  cases event with
  | load call =>
    have valid : ∀ sessionId ∈ call.session, IsId sessionId := of_decide_eq_true checked
    exact ⟨rfl, valid, not_false⟩
  | write =>
    refine ⟨rfl, trivial, ?_⟩
    rintro ⟨flight, found, repeats, -⟩
    rw [cleanCheck, Option.mem_def.mp found, Option.all_some] at checked
    simp [repeats] at checked

/-- A task that leaves two sessions in turn: both are in its history, and the graph can be read. -/
theorem ownership_readable_after_switches :
    let last := TaskSystem.inTurn ⟨oneProject, [], []⟩ [⟨"t", .createDraft "p" "goal", 1⟩,
      ⟨"t", .markRunning "a", 2⟩, ⟨"t", .markRunning "b", 3⟩, ⟨"t", .markRunning "a", 4⟩]
    (∃ stored ∈ last.store.tasks.lookup "t", (stored.row "t").sessionHistory = some ["a", "b"]) ∧
      ∃ graph, sessionOwnershipGraph (last.store.tables noOwners) = .ok graph := by
  refine ⟨by decide +kernel, ?_⟩
  have run : Run TaskSystem.CleanStep ⟨oneProject, [], []⟩ [.load ⟨"t", .createDraft "p" "goal", 1⟩ none,
      .write 0 none, .load ⟨"t", .markRunning "a", 2⟩ none, .write 0 none,
      .load ⟨"t", .markRunning "b", 3⟩ none, .write 0 none, .load ⟨"t", .markRunning "a", 4⟩ none] _ :=
    .of_checks TaskSystem.cleanStep_of_check (by decide +kernel)
  exact (@ownership_readable_until_repeat noOwners oneProject _ _ (.write 0 none)
    (by decide +kernel) ⟨⟨[], [], [], []⟩, by decide⟩ run trivial).2.mpr
      (TaskSystem.cleanStep_of_check _ _ (by decide +kernel)).2.2

/-- A task that goes back and forth between two sessions: all calls succeed, and the history names
the first session twice. -/
theorem switching_back_blocks_ownership :
    let last := TaskSystem.inTurn ⟨oneProject, [], []⟩ [⟨"t", .createDraft "p" "goal", 1⟩,
      ⟨"t", .markRunning "a", 2⟩, ⟨"t", .markRunning "b", 3⟩, ⟨"t", .markRunning "a", 4⟩, ⟨"t", .markRunning "b", 5⟩]
    last.done.length = 5 ∧ sessionOwnershipGraph (last.store.tables noOwners) =
      .error (.duplicateId "agent task session_history" "a") := by
  decide +kernel

/-! ## What interleaved calls keep -/

/-- A write finds the row that its call loaded. -/
def TaskSystem.Fresh : TaskEvent → Prop
  | .load _ _ => True
  | .write index _ => ∀ flight ∈ system.flights[index]?,
      system.store.tasks.lookup flight.call.agentTaskId = flight.seen.map .task

def TaskSystem.FreshStep (before : TaskSystem) (event : TaskEvent) (after : TaskSystem) : Prop :=
  after = before.next event ∧ before.Fresh event

/-- How many drafts of a task succeeded. -/
def TaskSystem.created (agentTaskId : AgentTaskId) : Nat :=
  system.done.countP fun made => made.1.creates && made.1.agentTaskId == agentTaskId

/-- How many rows a key has. -/
def TaskStore.rows (agentTaskId : AgentTaskId) : Nat :=
  (store.tasks.lookup agentTaskId).toList.length

/-- The row of a task names the session. -/
def TaskStore.Names (agentTaskId : AgentTaskId) (sessionId : SessionId) : Prop :=
  ∃ stored ∈ store.tasks.lookup agentTaskId, (stored.row agentTaskId).Names sessionId

/-- A changed task names the session of the call and all that the task named before. -/
theorem TaskCall.change_names {sessionId : SessionId} {seen : Option AgentTask} {call : TaskCall}
    {task : AgentTask}
    (changes : call.change seen = .ok task)
    (named : sessionId ∈ call.session ∨ ∃ old ∈ seen,
      ((StoredTask.task old).row call.agentTaskId).Names sessionId) :
    sessionId ∈ task.sessionHistory ∨ task.currentSessionId = some sessionId := by
  cases seen with
  | none =>
    obtain ⟨-, noSession, -⟩ := change_none changes
    simp [noSession] at named
  | some old =>
    obtain ⟨-, current, history⟩ := change_some changes
    rw [current, history, mem_append, mem_leaves, Option.or_eq_some_iff]
    rcases named with next | ⟨_, ⟨⟩, listed | isCurrent⟩
    · exact .inr (.inl next)
    · exact .inl (.inl listed)
    · cases isNext : call.session with
      | none => exact .inr (.inr ⟨rfl, isCurrent⟩)
      | some next =>
        by_cases same : sessionId = next
        · exact .inr (.inl (same ▸ rfl))
        · exact .inl (.inr ⟨isCurrent, next, rfl, same⟩)

/-- What the calls so far made is there: no draft twice, and every session that was current. -/
structure TaskSystem.Kept (first : TaskStore) (system : TaskSystem) : Prop where
  flights : ∀ flight ∈ system.flights, flight.call.change flight.seen = .ok flight.task
  drafts : ∀ agentTaskId,
    first.rows agentTaskId + system.created agentTaskId ≤ system.store.rows agentTaskId
  named : ∀ made ∈ system.done, ∀ sessionId ∈ made.1.session,
    system.store.Names made.1.agentTaskId sessionId

namespace TaskSystem.Kept

variable {system} {first : TaskStore} {event : TaskEvent} (kept : system.Kept first)
include kept

/-- A draft is loaded where there is no task. -/
theorem seen_of_creates (member : flight ∈ system.flights)
    (creates : flight.call.creates = true) : flight.seen = none := by
  have changes := kept.flights flight member
  cases isSeen : flight.seen with
  | none => rfl
  | some =>
    rw [isSeen] at changes
    rw [(TaskCall.change_some changes).1] at creates
    cases creates

/-- A write over the row that was loaded keeps what the calls made. -/
theorem write {after : TaskSystem} (member : flight ∈ system.flights)
    (fresh : system.store.tasks.lookup flight.call.agentTaskId = flight.seen.map .task)
    (written : system.store.writeRecord fault flight.call.agentTaskId flight.task = .ok after.store)
    (subset : after.flights ⊆ system.flights)
    (done : after.done = system.done ++ [(flight.call, flight.task)]) : after.Kept first := by
  have changes := kept.flights flight member
  obtain ⟨-, updatedAtMs, isStore⟩ := TaskStore.writeRecord_ok written
  have row : ∀ agentTaskId, after.store.tasks.lookup agentTaskId = if agentTaskId =
      flight.call.agentTaskId then some (.task { flight.task with updatedAtMs })
      else system.store.tasks.lookup agentTaskId := by
    intro agentTaskId
    rw [isStore]
    exact lookup_insert_eq _ _ _ _
  have names : ∀ sessionId, (sessionId ∈ flight.call.session ∨ ∃ old ∈ flight.seen,
      ((StoredTask.task old).row flight.call.agentTaskId).Names sessionId) →
      after.store.Names flight.call.agentTaskId sessionId := by
    intro sessionId named
    have written := TaskCall.change_names changes named
    exact ⟨.task { flight.task with updatedAtMs }, (row _).trans (if_pos rfl), written⟩
  refine ⟨fun other still => kept.flights other (subset still), fun agentTaskId => ?_, ?_⟩
  · have before := kept.drafts agentTaskId
    simp only [TaskStore.rows, created, done, countP_append, countP_singleton, row] at before ⊢
    by_cases same : agentTaskId = flight.call.agentTaskId
    · subst same
      cases creates : flight.call.creates with
      | true =>
        rw [fresh, kept.seen_of_creates member creates] at before
        have none_ := Nat.le_zero.mp before
        simp only [Bool.true_and, beq_self_eq_true, if_true, ← add_assoc, none_]
        exact le_refl 1
      | false =>
        have atMost : (system.store.tasks.lookup flight.call.agentTaskId).toList.length ≤ 1 := by
          cases system.store.tasks.lookup flight.call.agentTaskId <;> simp
        simpa using before.trans atMost
    · simpa [same, Ne.symm same] using before
  · rw [done]
    refine forall_mem_append.mpr ⟨fun made member sessionId isSession => ?_, ?_⟩
    · obtain ⟨stored, found, named⟩ := kept.named made member sessionId isSession
      by_cases same : made.1.agentTaskId = flight.call.agentTaskId
      · rw [same] at found named ⊢
        rw [fresh] at found
        obtain ⟨old, isOld, rfl⟩ := Option.mem_map.mp found
        exact names sessionId (.inr ⟨old, isOld, named⟩)
      · exact ⟨stored, by rwa [row, if_neg same], named⟩
    · exact forall_mem_singleton.mpr fun sessionId isSession => names sessionId (.inl isSession)

theorem next (fresh : system.Fresh event) : (system.next event).Kept first := by
  refine next_cases ?_ ?_ ?_
  · rintro call fault seen task rfl - changes
    refine ⟨forall_mem_append.mpr ⟨kept.flights, ?_⟩, kept.drafts, kept.named⟩
    exact forall_mem_singleton.mpr changes
  · rintro index fault flight after rfl found written subset done
    exact kept.write (mem_of_getElem? found) (fresh flight found) written subset done
  · intro after same subset done
    refine ⟨fun flight still => kept.flights flight (subset still), ?_, ?_⟩
    · simpa [created, same, done] using kept.drafts
    · simpa [same, done] using kept.named

end TaskSystem.Kept

/-- Over every interleaving in which each write finds the row its call loaded, at most one draft of
a task succeeds, and none where there is a task; no draft is written over a task; and the row of a
task names every session that a successful call made current. -/
theorem fresh_writes_keep_tasks {store : TaskStore} {events : List TaskEvent} {last : TaskSystem}
    (run : Run TaskSystem.FreshStep ⟨store, [], []⟩ events last) :
    (∀ agentTaskId, store.rows agentTaskId + last.created agentTaskId ≤ 1) ∧
      (∀ index fault, last.Fresh (.write index fault) → ∀ flight ∈ last.flights[index]?,
        flight.call.creates = true → last.store.rows flight.call.agentTaskId = 0) ∧
      ∀ made ∈ last.done, ∀ sessionId ∈ made.1.session,
        last.store.Names made.1.agentTaskId sessionId := by
  have kept : last.Kept store := by
    refine run.invariant ⟨forall_mem_nil _, fun _ => le_refl _, forall_mem_nil _⟩ ?_
    rintro before event _ ⟨rfl, fresh⟩ kept
    exact kept.next fresh
  refine ⟨fun agentTaskId => (kept.drafts agentTaskId).trans ?_, ?_, kept.named⟩
  · unfold TaskStore.rows
    cases last.store.tasks.lookup agentTaskId <;> simp
  · intro index fault fresh flight found creates
    rw [TaskStore.rows, fresh flight found, kept.seen_of_creates (mem_of_getElem? found) creates]
    rfl

instance : (event : TaskEvent) → Decidable (system.Fresh event)
  | .load .. => isTrue trivial
  | .write .. => inferInstanceAs (Decidable (∀ flight ∈ system.flights[_]?, _ = _))

/-- Two tasks that are drafted and started at the same time, each write after both loads; then the first
is drafted again, and switched. -/
def twoTasks : List TaskEvent :=
  [.load ⟨"t", .createDraft "p" "goal", 1⟩ none, .load ⟨"u", .createDraft "p" "goal", 2⟩ none,
    .write 1 none, .write 0 none, .load ⟨"t", .markRunning "a", 3⟩ none,
    .load ⟨"u", .markRunning "b", 4⟩ none, .write 1 none, .write 0 none,
    .load ⟨"t", .createDraft "p" "again", 5⟩ none, .load ⟨"t", .markRunning "c", 6⟩ none, .write 0 none]

/-- The first task was created once, and still names the session that it left. -/
theorem fresh_writes_keep_twoTasks :
    let last := twoTasks.foldl TaskSystem.next ⟨oneProject, [], []⟩
    last.created "t" ≤ 1 ∧ last.store.Names "t" "a" := by
  have run : Run TaskSystem.FreshStep ⟨oneProject, [], []⟩ twoTasks _ :=
    .of_checks (fun _ _ fresh => ⟨rfl, of_decide_eq_true fresh⟩) (by decide +kernel)
  obtain ⟨once, -, named⟩ := fresh_writes_keep_tasks run
  have isDone : ∃ made ∈ (twoTasks.foldl TaskSystem.next ⟨oneProject, [], []⟩).done,
      made.1 = ⟨"t", .markRunning "a", 3⟩ := by decide +kernel
  obtain ⟨made, isMade, same⟩ := isDone
  have kept := named made isMade "a"
  rw [same] at kept
  exact ⟨(Nat.le_add_left _ _).trans (once "t"), kept rfl⟩

/-- Two calls that load before either writes: both drafts succeed, the second over the first, and
the session that one call made current is gone. -/
theorem interleaved_calls_overwrite :
    let drafts := [TaskEvent.load ⟨"t", .createDraft "p" "one", 1⟩ none,
      .load ⟨"t", .createDraft "p" "two", 2⟩ none, .write 0 none, .write 0 none]
    let switches := [TaskEvent.load ⟨"t", .markRunning "a", 3⟩ none,
      .load ⟨"t", .markRunning "b", 4⟩ none, .write 0 none, .write 0 none]
    let drafted := drafts.foldl TaskSystem.next ⟨oneProject, [], []⟩
    let switched := switches.foldl TaskSystem.next drafted
    drafted.created "t" = 2 ∧ switched.done.length = 4 ∧
      (switched.done.any fun made => made.1.session = some "a") ∧
      ¬∃ stored ∈ switched.store.tasks.lookup "t", (stored.row "t").Names "a" := by
  decide +kernel

end HydraTerm.Shell
