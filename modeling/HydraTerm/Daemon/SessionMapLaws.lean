import HydraTerm.Daemon.Requests

/-!
# Safety of the session map

In every run of the daemon the map stays within its bound. A start, conditional or not,
either leaves the map as it is or installs one spawned session, for which at most one
session makes way, and never one that is running or attached. A kill removes only the
generation it names.

A start can succeed without spawning: a reattach to a live session, or a replay of an
operation that was applied before. Neither touches the map, full or not.
-/

namespace HydraTerm.Daemon

open Lib Grid

variable {platform : Platform}

/-- The session a start is for. -/
def DaemonAction.startTarget : DaemonAction → Option SessionId
  | .start request _ _ | .startConditionally request _ _ => some request.id
  | _ => none

/-- The session and generation a kill, or the end of its retirement, is for. -/
def DaemonAction.killTarget : DaemonAction → Option (SessionId × SessionGeneration)
  | .kill id generation _ | .finishRetirement id generation _ _ => some (id, generation)
  | _ => none

/-- A start that was refused. -/
def Exchange.Failed (exchange : Exchange) : Prop :=
  (∃ message, exchange.answer = .started (.error message))
    ∨ ∃ reason, exchange.answer = .conditional (.refused reason)

variable {before after : Daemon} {exchange : Exchange} {id : SessionId}

/-- A start leaves the map alone or installs what it spawned. -/
theorem start_effect (taken : Exchanged platform before exchange after)
    (target : exchange.action.startTarget = some id) :
    (exchange.spawned = false ∧ after.sessions = before.sessions)
      ∨ (exchange.spawned = true ∧ ¬exchange.Failed ∧ ∃ generation,
          Installed platform before.sessions id (.spawn generation) after.sessions) := by
  obtain ⟨action, _, _⟩ := exchange
  cases action with
  | start =>
    cases target
    obtain ⟨_, started, rfl, rfl, rfl⟩ := exchanged_start taken
    cases started with
    | refused message | reattached found live => exact .inl ⟨rfl, rfl⟩
    | @installed _ generation change =>
      refine .inr ⟨rfl, ?_, generation, change⟩
      rintro (⟨_, impossible⟩ | ⟨_, impossible⟩) <;> cases impossible
  | startConditionally =>
    cases target
    obtain ⟨_, result, rfl, rfl, rfl⟩ := exchanged_startConditionally taken
    cases result with
    | @applied generation _ _ change =>
      refine .inr ⟨rfl, ?_, generation, change⟩
      rintro (⟨_, impossible⟩ | ⟨_, impossible⟩) <;> cases impossible
    | _ => exact .inl ⟨rfl, rfl⟩
  | _ => cases target

/-- The map stays within its bound. -/
theorem sessions_bounded_step (taken : Exchanged platform before exchange after)
    (bound : mapSize before.sessions ≤ maxSessions) : mapSize after.sessions ≤ maxSessions := by
  obtain ⟨action, _, _⟩ := exchange
  by_cases starts : action.isStart = false
  · by_cases writes : action.writesLedger = false
    · have reached : (before.handle platform action).daemon = after := congrArg Reply.daemon taken
      rw [← reached]
      exact le_trans (handle_maintained starts writes).size_le bound
    · cases action with
      | reserve =>
        obtain ⟨_, result, rfl, _, _⟩ := exchanged_reserve taken
        cases result <;> exact bound
      | retire =>
        obtain ⟨_, result, rfl, _, _⟩ := exchanged_retire taken
        cases result <;> exact bound
      | startConditionally => cases starts
      | _ => exact absurd rfl writes
  · have target : ∃ id, action.startTarget = some id := by
      cases action with
      | start request restartExited world | startConditionally request conditional world =>
        exact ⟨request.id, rfl⟩
      | _ => exact absurd rfl starts
    obtain ⟨_, target⟩ := target
    rcases start_effect taken target with ⟨_, kept⟩ | ⟨_, _, _, change⟩
    · rw [kept]
      exact bound
    · exact change.size_le bound

/-- What holds of every start. -/
structure StartSafe (platform : Platform) (before : Daemon) (exchange : Exchange)
    (id : SessionId) (after : Daemon) : Prop where
  /-- A running or attached session stays, and nothing is spawned under its id. -/
  protects : ∀ other session, before.sessions.lookup other = some session →
    session.exitState = none ∨ session.attachmentInUse = true →
    after.sessions.lookup other = some session ∧ (exchange.spawned = true → other ≠ id)
  /-- A failed start spawns nothing and leaves the map exactly as it was. -/
  failed : exchange.Failed → exchange.spawned = false ∧ after.sessions = before.sessions
  /-- A start that spawns nothing leaves the map exactly as it was. -/
  unspawned : exchange.spawned = false → after.sessions = before.sessions
  /-- In a full map, exactly one session makes way for what is spawned, a reclaimable one. -/
  full : mapSize before.sessions = maxSessions → exchange.spawned = true →
    ∃ victim old, before.sessions.lookup victim = some old ∧ old.canReclaim platform = true
      ∧ (victim = id ∨ victim ∉ after.sessions)
      ∧ ∀ other ∈ before.sessions, other ≠ victim →
        after.sessions.lookup other = before.sessions.lookup other

theorem start_safe (taken : Exchanged platform before exchange after)
    (target : exchange.action.startTarget = some id) :
    StartSafe platform before exchange id after := by
  rcases start_effect taken target with ⟨unspawned, kept⟩ | ⟨spawned, succeeded, _, change⟩
  · constructor
    · intro other session found _
      rw [kept, unspawned]
      exact ⟨found, fun impossible => by cases impossible⟩
    · exact fun _ => ⟨unspawned, kept⟩
    · exact fun _ => kept
    · intro _ impossible
      rw [unspawned] at impossible
      cases impossible
  · constructor
    · intro other session found guarded
      have owned : session.canReclaim platform = false := by
        apply Bool.eq_false_iff.mpr
        intro free
        obtain ⟨exited, unowned⟩ := Session.reclaimable_exited free
        rcases guarded with running | attached
        · rw [running] at exited
          cases exited
        · rw [unowned] at attached
          cases attached
      obtain ⟨different, stays⟩ := change.keeps found owned
      exact ⟨stays, fun _ => different⟩
    · exact fun refused => absurd refused succeeded
    · intro impossible
      rw [spawned] at impossible
      cases impossible
    · exact fun full _ => change.makes_way full

/-- A kill removes only the generation it names. -/
theorem kill_safe
    {generation : SessionGeneration} (taken : Exchanged platform before exchange after)
    (target : exchange.action.killTarget = some (id, generation)) {other : SessionId}
    {session : Session} (found : before.sessions.lookup other = some session)
    (gone : other ∉ after.sessions) : other = id ∧ session.generation = generation := by
  obtain ⟨action, _, _⟩ := exchange
  have reached : (before.handle platform action).daemon = after := congrArg Reply.daemon taken
  subst reached
  cases action with
  | kill _ _ owner =>
    cases target
    cases platform with
    | unix => exact takeSessionIfGeneration_killed.only found gone
    | windows => exact (admitRetirement_killed false owner).only found gone
  | finishRetirement _ _ owner result =>
    cases target
    cases platform with
    | unix => exact absurd (mem_of_lookup found) gone
    | windows => exact (finishRetirement_killed owner result).only found gone
  | _ => cases target

/-- Starts of as many shells as the map holds. -/
def shells : List DaemonAction :=
  (List.range maxSessions).map (fun index => .start (shellRequest (toString index)) false shellWorld)

/-- The session map is safe in every run. The map never holds more than its bound; every
start keeps running and attached sessions, changes nothing when it fails or spawns nothing,
and in a full map makes exactly one reclaimable session give way to what it spawns; a kill
removes only the session of the generation it names. -/
theorem session_map_safe {history : List Exchange} {daemon : Daemon}
    (past : Run (Exchanged platform) default history daemon) :
    mapSize daemon.sessions ≤ maxSessions
    ∧ ∀ exchange after, Exchanged platform daemon exchange after →
        (∀ id, exchange.action.startTarget = some id →
          StartSafe platform daemon exchange id after)
        ∧ ∀ id generation, exchange.action.killTarget = some (id, generation) →
          ∀ other session, daemon.sessions.lookup other = some session →
            other ∉ after.sessions → other = id ∧ session.generation = generation := by
  refine ⟨?_, ?_⟩
  · exact past.invariant (by simp [default, mapSize_empty]) sessions_bounded_step
  · intro exchange after taken
    constructor
    · exact fun id target => start_safe taken target
    · exact fun id generation target other session found gone => kill_safe taken target found gone

/-- The shells fill the map. A start of a live one succeeds without a spawn; once one has
exited, a new shell can be spawned in its place. -/
theorem shells_fill :
    let full := default.after .unix shells
    let reattach := full.handle .unix (.start (shellRequest "0") false shellWorld)
    let exited := (full.handle .unix (.exited "0" (some 0))).daemon
    let start := exited.handle .unix (.start (shellRequest "new") false shellWorld)
    (mapSize full.sessions = maxSessions ∧ reattach.answer = .started (.ok ())
        ∧ reattach.spawned = false)
      ∧ mapSize exited.sessions = maxSessions ∧ start.answer = .started (.ok ())
        ∧ start.spawned = true ∧ "0" ∉ start.daemon.sessions := by
  decide +kernel

/-- When the map is full and one shell has exited, that one gives way to a new shell. -/
theorem session_map_safe_exited :
    let exited := ((default.after .unix shells).handle .unix (.exited "0" (some 0))).daemon
    let start : DaemonAction := .start (shellRequest "new") false shellWorld
    let after := (exited.handle .unix start).daemon
    mapSize exited.sessions = maxSessions ∧ "0" ∉ after.sessions
      ∧ StartSafe .unix exited ⟨start, .started (.ok ()), true⟩ "new" after := by
  obtain ⟨_, full, answer, spawned, gone⟩ := shells_fill
  have past : Run (Exchanged .unix) default
      (exchanges .unix default shells ++ [⟨.exited "0" (some 0), .done, false⟩])
      ((default.after .unix shells).handle .unix (.exited "0" (some 0))).daemon :=
    (run_exchanges .unix default shells).append (.single (exchanged_of_answer rfl rfl))
  refine ⟨full, gone, ?_⟩
  exact ((session_map_safe past).2 _ _ (exchanged_of_answer answer spawned)).1 _ rfl

/-- A start of a live session in a full map succeeds and nothing makes way for it. -/
theorem reattach_when_full :
    let full := default.after .unix shells
    mapSize full.sessions = maxSessions
    ∧ Run (Exchanged .unix) default (exchanges .unix default shells) full
    ∧ ∃ after, Exchanged .unix full
        ⟨.start (shellRequest "0") false shellWorld, .started (.ok ()), false⟩ after
      ∧ after.sessions = full.sessions := by
  obtain ⟨⟨full, answer, spawned⟩, _⟩ := shells_fill
  have taken := exchanged_of_answer answer spawned
  exact ⟨full, run_exchanges .unix _ _, _, taken, (start_safe taken rfl).unspawned rfl⟩

end HydraTerm.Daemon
