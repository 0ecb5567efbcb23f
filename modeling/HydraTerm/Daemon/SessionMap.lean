import HydraTerm.Daemon.Sessions
import HydraTerm.Lib.Maps

/-!
# The daemon's session map

The daemon keeps its sessions in a map of bounded size and every operation runs under one
lock, so each is one function here. A start reattaches to a live session, replaces an exited
one only on explicit authority, and takes the slot of another exited session only when the
map is full and the new process exists. A kill names the generation it means. On Windows a
kill installs a retirement on the session, which stays mapped until the retirement ends.

Exit latches are set by reader threads and guards are dropped without the lock. Both only
make more sessions reclaimable, so a start during which they happen is the same as one
before or after which they happen, and each is a step of its own.

Channels and their subscriptions are not part of this model.
-/

namespace HydraTerm.Daemon

open Lib Grid

/-- Most sessions of the map. -/
def maxSessions : Nat := 64

/-- The session map. -/
abbrev SessionTable := AList (fun _ : SessionId => Session)

/-- Identifies one start operation. -/
abbrev SessionStartOperationToken := String

/-- Why a conditional start was refused. -/
inductive ConditionalSessionStartRefusal where
  | attachmentInUse
  | preconditionFailed
  | spawnFailed
  deriving DecidableEq

/-- What the ledger knows of an operation. Only Windows keeps retired ones. -/
inductive StartOperationLedgerEntry where
  | reserved (id : SessionId)
  | applied (id : SessionId) (generation : SessionGeneration)
  | refused (id : SessionId) (reason : ConditionalSessionStartRefusal)
  | retired (id : SessionId)
  deriving DecidableEq

/-- The session an operation is for. -/
def StartOperationLedgerEntry.id : StartOperationLedgerEntry → SessionId
  | .reserved id | .applied id _ | .refused id _ | .retired id => id

/-- The start operations by token. -/
abbrev StartLedger := AList (fun _ : SessionStartOperationToken => StartOperationLedgerEntry)

end HydraTerm.Daemon

namespace HydraTerm

/-- The daemon's state. Only Windows sets `closing`. -/
structure Daemon where
  sessions : Daemon.SessionTable
  startOperations : Daemon.StartLedger
  closing : Bool
  deriving DecidableEq

end HydraTerm

namespace HydraTerm.Daemon

open Lib Grid

/-- A daemon that has just started. -/
def default : Daemon where
  sessions := ∅
  startOperations := ∅
  closing := false

/-- An operation's answer, the daemon after it, and whether a process was spawned. -/
structure Reply (α : Type) where
  daemon : Daemon
  answer : α
  spawned : Bool

/-- Read an answer as another. -/
def Reply.map {α β : Type} (reply : Reply α) (wrap : α → β) : Reply β :=
  ⟨reply.daemon, wrap reply.answer, reply.spawned⟩

/-- What a generation-conditional kill found. -/
inductive ConditionalSessionTake where
  | absent
  | generationMismatch
  | attachmentInUse
  | taken (session : Session)
  deriving DecidableEq

/-- Why an attachment was not acquired. -/
inductive SessionAttachmentAcquireError where
  | missing
  | generationMismatch
  | invalid (message : String)
  deriving DecidableEq

/-- How many sessions a shutdown found and how many were confirmed gone. -/
structure ShutdownReport where
  total : Nat
  reaped : Nat
  unconfirmed : List SessionId
  deriving DecidableEq

/-- The text of a start that meets a shutdown or a retirement. -/
def startBlockedMessage : String := "daemon shutdown or exact session retirement is in progress"

variable (platform : Platform) (daemon : Daemon) (id : SessionId) (generation : SessionGeneration)

/-- On Windows a shutdown blocks every start, a retirement the starts of its session. -/
def startBlocked : Bool :=
  platform == .windows
    && (daemon.closing || (daemon.sessions.lookup id).any (·.retirement.isSome))

/-- The sessions whose slot may be taken. -/
def reclaimable : List SessionId :=
  (daemon.sessions.entries.filter (fun entry => entry.2.canReclaim platform)).map (·.1)

/-- The reclaimable session that the map's iteration meets first. The order is arbitrary, so
any of them can be the first. -/
def evictionCandidate (scan : Nat) : Option SessionId :=
  (daemon.reclaimable platform)[scan % (daemon.reclaimable platform).length]?

/-- The map with one slot freed, if one is needed. -/
def evict (needed : Bool) (scan : Nat) : SessionTable :=
  if needed then
    match daemon.evictionCandidate platform scan with
    | some victim => daemon.sessions.erase victim
    | none => daemon.sessions
  else daemon.sessions

/-- The part of a start that spawns: the inputs are checked, a slot is looked for, and only
when the process exists is the map changed. -/
def spawnSession (request : StartRequest) (replacingExitedSameId : Bool) (world : SpawnWorld) :
    Reply (Except String Unit) :=
  match checkSpawnInputs platform world.files request with
  | .error message => ⟨daemon, .error message, false⟩
  | .ok () =>
    let needsCapacityEviction :=
      !replacingExitedSameId && decide (mapSize daemon.sessions ≥ maxSessions)
    if needsCapacityEviction && (daemon.reclaimable platform).isEmpty then
      ⟨daemon, .error "session limit reached (64); kill a session before starting another", false⟩
    else
      match world.spawned with
      | .error message => ⟨daemon, .error message, false⟩
      | .ok () =>
        let kept := daemon.evict platform needsCapacityEviction world.scan
        ⟨{ daemon with sessions := kept.insert request.id (.spawn world.uuids.new) }, .ok (), true⟩

/-- Start a new session, reattach to a live one, or replace an exited one on explicit
authority. -/
def startSessionWithRestartAndEnvironment (request : StartRequest) (restartExited : Bool)
    (world : SpawnWorld) : Reply (Except String Unit) :=
  if daemon.startBlocked platform request.id then ⟨daemon, .error startBlockedMessage, false⟩
  else
    match daemon.sessions.lookup request.id with
    | none => daemon.spawnSession platform request false world
    | some existing =>
      if existing.exitState.isNone then ⟨daemon, .ok (), false⟩
      else if !restartExited then
        ⟨daemon, .error (s!"session {request.id} has exited and is retained; "
          ++ "explicit restart authority is required"), false⟩
      else if existing.attachmentInUse then
        ⟨daemon, .error (s!"session {request.id} has an active attachment "
          ++ "or pending attachment handoff"), false⟩
      else daemon.spawnSession platform request true world

/-- Take a session out of the map, if it has the expected generation and nothing protects
it. -/
def takeSessionIfGeneration (expectedGeneration : SessionGeneration) :
    Reply ConditionalSessionTake :=
  match daemon.sessions.lookup id with
  | none => ⟨daemon, .absent, false⟩
  | some session =>
    if session.generation ≠ expectedGeneration then ⟨daemon, .generationMismatch, false⟩
    else if session.attachmentInUse then ⟨daemon, .attachmentInUse, false⟩
    else ⟨{ daemon with sessions := daemon.sessions.erase id }, .taken session, false⟩

/-- The session a Windows retirement is for. -/
def retirementTarget (shutdown : Bool) : Except String (Option Session) :=
  match daemon.sessions.lookup id with
  | none => .ok none
  | some session =>
    if session.generation ≠ generation then
      .error "session generation changed before retirement"
    else if !shutdown && session.attachmentInUse then
      .error "session has an active attachment or pending handoff"
    else .ok (some session)

/-- Admit a retirement: the first one owns the session, later ones wait for it. The answer
says whether there is something to wait for. -/
def admitRetirement (shutdown : Bool) (owner : Nat) : Reply (Except String Bool) :=
  match daemon.retirementTarget id generation shutdown with
  | .error message => ⟨daemon, .error message, false⟩
  | .ok none => ⟨daemon, .ok false, false⟩
  | .ok (some session) =>
    if session.retirement.isSome then ⟨daemon, .ok true, false⟩
    else
      ⟨{ daemon with sessions := daemon.sessions.insert id { session with retirement := some owner } },
        .ok true, false⟩

/-- End a retirement. The session goes only if it is still the owner's and has exited;
otherwise the retirement is lifted. -/
def finishRetirement (owner : Nat) (result : Except String Unit) : Reply (Except String Session) :=
  match daemon.sessions.lookup id with
  | none =>
    ⟨daemon, .error "retiring session mapping disappeared before completion", false⟩
  | some session =>
    if session.generation ≠ generation ∨ session.retirement ≠ some owner then
      ⟨daemon, .error "retiring session lifetime or owner changed before completion", false⟩
    else if session.exitState.isSome then
      ⟨{ daemon with sessions := daemon.sessions.erase id }, .ok session, false⟩
    else
      let message := match result with
        | .error message => message
        | .ok () => "session retirement was not confirmed"
      ⟨{ daemon with sessions := daemon.sessions.insert id { session with retirement := none } },
        .error message, false⟩

/-- Shut down on Unix: every child is killed and the map is cleared, whether or not the
child's end was confirmed in time. -/
def shutdown (confirmed : SessionId → Bool) : Reply ShutdownReport :=
  let ids := daemon.sessions.keys
  ⟨{ daemon with sessions := ∅ },
    ⟨ids.length, (ids.filter confirmed).length, ids.filter (fun id => !confirmed id)⟩, false⟩

/-- Begin the shutdown on Windows: no start is admitted any more. -/
def beginShutdown : Reply (List (SessionId × SessionGeneration)) :=
  ⟨{ daemon with closing := true },
    daemon.sessions.entries.map (fun entry => (entry.1, entry.2.generation)), false⟩

/-- Attach to a session under the map's lock. -/
def attachTo (session : Session) (handoff : Option AttachmentHandoff)
    (ownerNonce : Nat) : Reply (Except SessionAttachmentAcquireError AttachmentGuard) :=
  match session.acquireAttachment platform handoff ownerNonce with
  | .error message => ⟨daemon, .error (.invalid message), false⟩
  | .ok (attached, guard) =>
    ⟨{ daemon with sessions := daemon.sessions.insert id attached }, .ok guard, false⟩

/-- Acquire a guard of the session mapped now. -/
def acquireSessionAttachment (handoff : Option AttachmentHandoff)
    (ownerNonce : Nat) : Reply (Except SessionAttachmentAcquireError AttachmentGuard) :=
  if platform = .windows ∧ daemon.closing then
    ⟨daemon, .error (.invalid "daemon shutdown is in progress"), false⟩
  else
    match daemon.sessions.lookup id with
    | none => ⟨daemon, .error (.invalid s!"no such session: {id}"), false⟩
    | some session => daemon.attachTo platform id session handoff ownerNonce

/-- Acquire a guard of one generation of a session. -/
def acquireSessionAttachmentIfGeneration (expected : SessionGeneration)
    (handoff : Option AttachmentHandoff) (ownerNonce : Nat) :
    Reply (Except SessionAttachmentAcquireError AttachmentGuard) :=
  if platform = .windows ∧ daemon.closing then
    ⟨daemon, .error (.invalid "daemon shutdown is in progress"), false⟩
  else
    match daemon.sessions.lookup id with
    | none => ⟨daemon, .error .missing, false⟩
    | some session =>
      if session.generation ≠ expected then ⟨daemon, .error .generationMismatch, false⟩
      else daemon.attachTo platform id session handoff ownerNonce

/-- The daemon with one session changed in place, if it is mapped. -/
def updateSession (change : Session → Session) : Daemon :=
  match daemon.sessions.lookup id with
  | none => daemon
  | some session => { daemon with sessions := daemon.sessions.insert id (change session) }

section Specifications

variable {platform daemon}

/-- The reclaimable ids are those of the mapped sessions that may go. -/
theorem mem_reclaimable {id : SessionId} : id ∈ daemon.reclaimable platform ↔
    ∃ session, daemon.sessions.lookup id = some session ∧ session.canReclaim platform = true := by
  constructor
  · intro member
    obtain ⟨⟨_, session⟩, kept, rfl⟩ := List.mem_map.mp member
    obtain ⟨mapped, free⟩ := List.mem_filter.mp kept
    exact ⟨session, AList.mem_lookup_iff.mpr mapped, free⟩
  · rintro ⟨session, found, free⟩
    apply List.mem_map.mpr
    exact ⟨⟨id, session⟩, List.mem_filter.mpr ⟨AList.mem_lookup_iff.mp found, free⟩, rfl⟩

/-- When some session may go, the iteration finds one of those. -/
theorem evictionCandidate_found (scan : Nat) (some_may : daemon.reclaimable platform ≠ []) :
    ∃ victim session, daemon.evictionCandidate platform scan = some victim
      ∧ daemon.sessions.lookup victim = some session ∧ session.canReclaim platform = true := by
  have inside : scan % (daemon.reclaimable platform).length < (daemon.reclaimable platform).length :=
    Nat.mod_lt _ (List.length_pos_iff.mpr some_may)
  obtain ⟨session, found, free⟩ := mem_reclaimable.mp (List.getElem_mem inside)
  exact ⟨_, session, List.getElem?_eq_getElem inside, found, free⟩

variable (platform : Platform) (before : SessionTable) (id : SessionId) (session : Session) in
/-- What a spawn may do to the map: the new session replaces a reclaimable one of its own
id, takes a free slot, or takes the slot of one reclaimable session of a full map. -/
inductive Installed : SessionTable → Prop
  | replaced {existing : Session} (found : before.lookup id = some existing)
      (free : existing.canReclaim platform = true) : Installed (before.insert id session)
  | added (absent : id ∉ before) (room : mapSize before < maxSessions) :
      Installed (before.insert id session)
  | evicted {victim : SessionId} {old : Session} (absent : id ∉ before)
      (full : maxSessions ≤ mapSize before) (found : before.lookup victim = some old)
      (free : old.canReclaim platform = true) : Installed ((before.erase victim).insert id session)

namespace Installed

variable {id} {before after : SessionTable} {session : Session}

section

variable (installed : Installed platform before id session after)
include installed

/-- The map stays within its bound. -/
theorem size_le (bound : mapSize before ≤ maxSessions) : mapSize after ≤ maxSessions := by
  cases installed with
  | replaced found =>
    rw [mapSize_insert_of_mem session (mem_of_lookup found)]
    exact bound
  | added absent room =>
    rw [mapSize_insert_of_notMem session absent]
    exact room
  | @evicted victim _ absent _ found =>
    have gone := mapSize_erase_of_mem (mem_of_lookup found)
    have stillAbsent : id ∉ before.erase victim := fun member => absent (AList.mem_erase.mp member).2
    rw [mapSize_insert_of_notMem session stillAbsent]
    omega

/-- A session that may not go is where it was, and the new one is not in its place. -/
theorem keeps {other : SessionId} {kept : Session} (found : before.lookup other = some kept)
    (owned : kept.canReclaim platform = false) : other ≠ id ∧ after.lookup other = some kept := by
  have absent_ne (absent : id ∉ before) : other ≠ id := by
    rintro rfl
    exact absent (mem_of_lookup found)
  cases installed with
  | replaced located free =>
    have different : other ≠ id := by
      rintro rfl
      rw [found] at located
      cases located
      rw [owned] at free
      cases free
    exact ⟨different, by rw [lookup_insert_eq, if_neg different, found]⟩
  | added absent =>
    exact ⟨absent_ne absent, by rw [lookup_insert_eq, if_neg (absent_ne absent), found]⟩
  | @evicted victim _ absent _ located free =>
    have survives : other ≠ victim := by
      rintro rfl
      rw [found] at located
      cases located
      rw [owned] at free
      cases free
    refine ⟨absent_ne absent, ?_⟩
    rw [lookup_insert_eq, if_neg (absent_ne absent), lookup_erase_eq, if_neg survives, found]

/-- In a full map exactly one session makes way, a reclaimable one: it is replaced under its
own id or is gone. -/
theorem makes_way (full : mapSize before = maxSessions) :
    ∃ victim old, before.lookup victim = some old ∧ old.canReclaim platform = true
      ∧ (victim = id ∨ victim ∉ after)
      ∧ ∀ other ∈ before, other ≠ victim → after.lookup other = before.lookup other := by
  cases installed with
  | @replaced existing found free =>
    refine ⟨id, existing, found, free, .inl rfl, ?_⟩
    intro other _ different
    rw [lookup_insert_eq, if_neg different]
  | added => omega
  | @evicted victim old absent _ found free =>
    have victim_ne : victim ≠ id := by
      rintro rfl
      exact absent (mem_of_lookup found)
    refine ⟨victim, old, found, free, .inr ?_, ?_⟩
    · intro member
      rcases (AList.mem_insert _).mp member with same | kept
      · exact victim_ne same
      · exact (AList.mem_erase.mp kept).1 rfl
    · intro other mapped different
      have other_ne : other ≠ id := by
        rintro rfl
        exact absent mapped
      rw [lookup_insert_eq, if_neg other_ne, lookup_erase_eq, if_neg different]

end

end Installed

variable (platform : Platform) (daemon : Daemon) (request : StartRequest) in
/-- What a plain start can answer. -/
inductive Started : Reply (Except String Unit) → Prop
  | refused (message : String) : Started ⟨daemon, .error message, false⟩
  | reattached {existing : Session} (found : daemon.sessions.lookup request.id = some existing)
      (live : existing.exitState = none) : Started ⟨daemon, .ok (), false⟩
  | installed {sessions : SessionTable} {generation : SessionGeneration}
      (change : Installed platform daemon.sessions request.id (.spawn generation) sessions) :
      Started ⟨{ daemon with sessions := sessions }, .ok (), true⟩

/-- The spawning part of a start refuses or installs the session. -/
theorem spawnSession_started {request : StartRequest} {replacing : Bool} (world : SpawnWorld)
    (same : replacing = true → ∃ existing, daemon.sessions.lookup request.id = some existing
      ∧ existing.canReclaim platform = true)
    (new : replacing = false → request.id ∉ daemon.sessions) :
    Started platform daemon request (daemon.spawnSession platform request replacing world) := by
  unfold spawnSession
  split
  · exact .refused _
  · dsimp only
    split
    · exact .refused _
    next slot =>
      split
      · exact .refused _
      · refine .installed (show Installed platform _ _ (.spawn world.uuids.new) _ from ?_)
        cases replacing with
        | true =>
          obtain ⟨_, found, free⟩ := same rfl
          exact .replaced found free
        | false =>
          have absent := new rfl
          by_cases full : maxSessions ≤ mapSize daemon.sessions
          · have some_may : daemon.reclaimable platform ≠ [] := by
              simpa [full] using slot
            obtain ⟨_, _, chosen, found, free⟩ :=
              evictionCandidate_found world.scan some_may
            simp only [evict, Bool.not_false, Bool.true_and, ge_iff_le, full, decide_true, if_true,
              chosen]
            exact .evicted absent full found free
          · simp only [evict, Bool.not_false, Bool.true_and, ge_iff_le, full, decide_false,
              Bool.false_eq_true, if_false]
            exact .added absent (Nat.lt_of_not_le full)

/-- A plain start refuses, reattaches or installs a session. -/
theorem startSession_started (request : StartRequest) (restartExited : Bool) (world : SpawnWorld) :
    Started platform daemon request
      (daemon.startSessionWithRestartAndEnvironment platform request restartExited world) := by
  unfold startSessionWithRestartAndEnvironment
  split
  · exact .refused _
  next admitted =>
    split
    next absent =>
      exact spawnSession_started world (fun impossible => by cases impossible)
        (fun _ => AList.lookup_eq_none.mp absent)
    next existing found =>
      split
      next live => exact .reattached found (Option.isNone_iff_eq_none.mp live)
      next exited =>
        split
        · exact .refused _
        · split
          · exact .refused _
          next unowned =>
            refine spawnSession_started world (fun _ => ⟨existing, found, ?_⟩)
              (fun impossible => by cases impossible)
            apply Session.canReclaim_of_exited
            · rintro ⟨rfl, retiring⟩
              simp [startBlocked, found, retiring] at admitted
            · simpa [Option.isSome_iff_ne_none] using exited
            · simpa using unowned

end Specifications

end HydraTerm.Daemon
