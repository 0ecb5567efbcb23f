import HydraTerm.Signaling.Calls

/-!
# Cancelled and expired sessions

A call reads whether the session is live in one operation and acts on it in a later one. Each call
is `Checked`: it stores an answer or a candidate, or returns the session as live, only if its last
read of the session found it live. A session that is cancelled or expired therefore stays so, and no
later call gets anything of it, as long as no call is between such a read and its action when the
terminal status is stored.

That condition is needed. An answer whose read came before the cancellation and whose write comes
after it brings the session back to `answered`, and live for every later call.
-/

namespace HydraTerm.Signaling

open Lib List Option

/-! ## What a call reads, and what it does with it -/

/-- A read of the session's liveness. -/
def ReadsSession (sessionId : String) : BrokerAsk → Prop
  | .getSession id | .getSessionHeader id | .getProgress id _ _ _ => id = sessionId
  | .listPendingOffers _ _ => True
  | _ => False

/-- The read found the session live. -/
def FoundLive (sessionId : String) : (request : BrokerAsk) → BrokerAnswer request → Prop
  | .getSession _, found => ∃ session, found = some session ∧ session.status.isTerminal = false
  | .getSessionHeader _, found => ∃ header, found = some header ∧ header.status.isTerminal = false
  | .getProgress _ _ _ _, found =>
    ∃ snapshot, found = some snapshot ∧ snapshot.status.isTerminal = false
  | .listPendingOffers _ _, found => ∃ offer, List.Mem offer found ∧ offer.sessionId = sessionId
  | _, _ => False

/-- A write that only a live session may get. -/
def WritesLive (sessionId : String) : BrokerAsk → Prop
  | .setAnswer id _ | .appendIce id _ _ _ => id = sessionId
  | .setStatus id status => id = sessionId ∧ status.isTerminal = false
  | _ => False

/-- The session a call is about. -/
def BrokerCall.sessionId : BrokerCall → Option String
  | .createSession _ _ _ _ | .pendingForTarget _ _ | .pendingForTargetWait _ _ _ => none
  | .getSession _ _ sessionId | .validateSignalBinding _ sessionId _ _ | .answer _ _ sessionId _
  | .addIce _ _ sessionId _ | .iceSince _ _ sessionId _ | .progress _ _ sessionId _ _
  | .progressWait _ _ sessionId _ _ _ | .cancel _ _ sessionId => some sessionId

/-- A result that only a live session gives. -/
def CallResult.isLive : CallResult → Bool
  | .session _ | .binding _ | .answered | .candidate _ | .candidates _ | .progress _ => true
  | .refused _ | .created _ _ | .offers _ | .nothing | .cancelled => false

/-- The call returns the session as live: its result says so, or its list of offers has it. -/
def BrokerCall.ReturnsLive (sessionId : String) (call : BrokerCall) (result : CallResult) : Prop :=
  (call.sessionId = some sessionId ∧ result.isLive = true) ∨
    ∃ offers, result = .offers offers ∧ ∃ offer ∈ offers, offer.sessionId = sessionId

/-- The call has seen the session live and has still to act on it or to return it. -/
def BrokerThread.Pending (sessionId : String) (thread : BrokerThread) : Prop :=
  thread.program.Reaches (ReadsSession sessionId) (WritesLive sessionId)
    (thread.call.ReturnsLive sessionId)

/-! ## Every call checks first -/

section Programs

variable {sessionId : String} {goal : CallResult → Prop} {passed : Prop}

/-- The program acts on the session, or gives a result of `goal`, only if its last read of the
session found it live. -/
abbrev Careful (sessionId : String) (goal : CallResult → Prop) (passed : Prop)
    (program : BrokerProgram) : Prop :=
  program.Checked (ReadsSession sessionId) (WritesLive sessionId) (FoundLive sessionId) goal passed

variable {result : CallResult}

theorem auditThen_careful {detail accountId : String} {kind : AuditKind} {deviceId : Option String}
    (fits : goal result → passed) :
    Careful sessionId goal passed (auditThen accountId kind deviceId detail result) :=
  .ask nofun nofun fun _ => .done fits

variable {request : BrokerAsk} {next : BrokerAnswer request → BrokerProgram} {id : String}

/-- A read of `id` is one of the session only if `id` is the session. -/
theorem readThen_careful
    (reads : ReadsSession sessionId request ↔ id = sessionId) (noAct : ¬ WritesLive sessionId request)
    (later : ∀ {passed : Prop} found, (id = sessionId → FoundLive sessionId request found → passed) →
      Careful sessionId goal passed (next found)) :
    Careful sessionId goal passed (.ask request next) := by
  by_cases same : id = sessionId
  · exact .check (reads.mpr same) noAct fun found => later found fun _ alive => alive
  · exact .ask (mt reads.mp same) (fun isAct => absurd isAct noAct) fun found =>
      later found fun isSame => absurd isSame same

variable {checks acts : BrokerAsk → Prop}
  {passes : (request : BrokerAsk) → BrokerAnswer request → Prop}
  (noRefusal : ∀ refusal, ¬ goal (.refused refusal)) {next : BrokerProgram}
include noRefusal

theorem refused_checked {refusal : SignalRefusal} :
    Program.Checked checks acts passes goal passed (.done (.refused refusal)) :=
  .done fun isGoal => absurd isGoal (noRefusal refusal)

theorem orRefuse_checked {refusal : Option SignalRefusal}
    (later : next.Checked checks acts passes goal passed) :
    (orRefuse refusal next).Checked checks acts passes goal passed := by
  cases refusal with
  | none => exact later
  | some => exact refused_checked noRefusal

theorem assertBlob_careful {value : String} {maxBytes : Nat}
    (later : Careful sessionId goal passed next) :
    Careful sessionId goal passed (assertBlob value maxBytes next) := by
  unfold assertBlob
  split
  next _ _ => exact refused_checked noRefusal
  · exact later

variable {accountId deviceId : String} {since : Nat} {answerSeen : Bool}
  {next : Device → BrokerProgram} (rounds : Nat)

theorem requireUsableDevice_checked
    (unchecked : ¬ checks (.getDevice deviceId)) (noAct : ¬ acts (.getDevice deviceId))
    (later : ∀ device, (next device).Checked checks acts passes goal passed) :
    (requireUsableDevice accountId deviceId next).Checked checks acts passes goal passed := by
  refine .ask unchecked (fun isAct => absurd isAct noAct) fun found => ?_
  cases enrolledDevice accountId found with
  | error => exact refused_checked noRefusal
  | ok device => exact later device

theorem requireUsableDevice_careful (later : ∀ device, Careful sessionId goal passed (next device))
    : Careful sessionId goal passed (requireUsableDevice accountId deviceId next) :=
  requireUsableDevice_checked noRefusal id id later

/-- What follows a check of `id` may rely on it only if `id` is the session. -/
theorem requireLive_careful {α : Type} {status : α → SignalingStatus}
    {expiresAtMs : α → Nat} {found : Option α} {next : α → BrokerProgram} (live : id = sessionId →
      (∃ session, found = some session ∧ (status session).isTerminal = false) → passed)
    (later : ∀ session, Careful sessionId goal (id = sessionId) (next session)) :
    Careful sessionId goal passed (requireLive id status expiresAtMs found next) := by
  unfold requireLive
  cases found with
  | none => exact refused_checked noRefusal
  | some session =>
    have going (alive : (status session).isTerminal = false) :
        Careful sessionId goal passed (.ask .nowMs fun (now : Nat) =>
          if expiresAtMs session ≤ now then
            .ask (.setStatus id .expired) fun _ => .done (.refused .expired)
          else next session) := by
      refine .ask nofun nofun fun (now : Nat) => ?_
      split
      · refine .ask False.elim (fun isAct => absurd isAct.2 (by decide)) fun _ => ?_
        exact refused_checked noRefusal
      · exact (later session).mono fun same => live same ⟨session, rfl, alive⟩
    dsimp only
    split
    · exact refused_checked noRefusal
    · exact refused_checked noRefusal
    next isPending => exact going (by rw [isPending]; rfl)
    next isAnswered => exact going (by rw [isAnswered]; rfl)

theorem liveSessionHeader_careful {next : SignalingSessionHeader → BrokerProgram}
    (later : ∀ header, Careful sessionId goal (id = sessionId) (next header)) :
    Careful sessionId goal passed (liveSessionHeader id next) :=
  readThen_careful Iff.rfl nofun fun _ live => requireLive_careful noRefusal live later

theorem progressThen_careful {next : SignalProgressReply → BrokerProgram}
    (later : ∀ reply, Careful sessionId goal (id = sessionId) (next reply)) :
    Careful sessionId goal passed (progressThen accountId deviceId id since answerSeen next) := by
  refine requireUsableDevice_careful noRefusal fun _ => ?_
  refine readThen_careful Iff.rfl nofun fun _ live => requireLive_careful noRefusal live fun snapshot => ?_
  exact orRefuse_checked noRefusal (later snapshot.reply)

theorem pendingForTargetThen_careful {next : List PendingOffer → BrokerProgram}
    (later : ∀ offers, Careful sessionId goal (∃ offer ∈ offers, offer.sessionId = sessionId)
      (next offers)) :
    Careful sessionId goal passed (pendingForTargetThen accountId deviceId next) := by
  refine requireUsableDevice_careful noRefusal fun _ => ?_
  refine .check trivial (fun isAct => isAct) fun (all : List PendingOffer) => ?_
  refine .ask nofun nofun fun now => (later _).mono ?_
  rintro ⟨offer, listed, same⟩
  exact ⟨offer, mem_of_mem_filter listed, same⟩

theorem pendingForTargetWait_careful
    (listed : ∀ offers, goal (.offers offers) → ∃ offer ∈ offers, offer.sessionId = sessionId) :
    Careful sessionId goal passed (pendingForTargetWait accountId deviceId rounds) := by
  have empty {passed : Prop} : Careful sessionId goal passed (.done (.offers [])) := .done fun isGoal => by
    simpa using listed [] isGoal
  induction rounds generalizing passed with
  | zero => exact empty
  | succ _ ih =>
    refine .ask nofun nofun fun
      | true => empty
      | false => .ask nofun nofun fun subscribed => ?_
    refine pendingForTargetThen_careful noRefusal fun offers => ?_
    refine .ask nofun nofun fun
      | true => empty
      | false => ?_
    dsimp only
    split
    · exact .done (listed offers)
    · cases subscribed with
      | false => exact empty
      | true =>
        refine .ask nofun nofun fun
          | true => empty
          | false => .ask nofun nofun fun
            | .hint => ih
            | .timeout | .unavailable | .aborted => empty

theorem finalProgress_careful (noNothing : ¬ goal .nothing)
    (own : ∀ reply, goal (.progress reply) → id = sessionId) :
    Careful sessionId goal passed (finalProgress accountId deviceId id since answerSeen) := by
  refine progressThen_careful noRefusal fun reply => .ask nofun nofun fun
    | true => .done fun isGoal => absurd isGoal noNothing
    | false => .done (own reply)

theorem progressWait_careful (noNothing : ¬ goal .nothing)
    (own : ∀ reply, goal (.progress reply) → id = sessionId) :
    Careful sessionId goal passed (progressWait accountId deviceId id since answerSeen rounds) := by
  have nothing {passed : Prop} : Careful sessionId goal passed (.done .nothing) := .done fun isGoal =>
    absurd isGoal noNothing
  have last {passed : Prop} :
      Careful sessionId goal passed (finalProgress accountId deviceId id since answerSeen) :=
    finalProgress_careful noRefusal noNothing own
  induction rounds generalizing passed with
  | zero => exact nothing
  | succ _ ih =>
    refine .ask nofun nofun fun
      | true => nothing
      | false => .ask nofun nofun fun subscribed => ?_
    refine progressThen_careful noRefusal fun reply => ?_
    refine .ask nofun nofun fun
      | true => nothing
      | false => ?_
    dsimp only
    split
    · exact .done (own reply)
    · cases subscribed with
      | false => exact .done (own reply)
      | true =>
        refine .ask nofun nofun fun
          | true => last
          | false => .ask nofun nofun fun
            | .hint => ih
            | .aborted => nothing
            | .timeout | .unavailable => last

end Programs

section Calls

variable {sessionId : String} {call : BrokerCall} {result : CallResult}

theorem ReturnsLive.isLive (returns : call.ReturnsLive sessionId result)
    (noOffers : ∀ offers, result ≠ .offers offers) : result.isLive = true := by
  rcases returns with ⟨-, live⟩ | ⟨offers, isOffers, -⟩
  · exact live
  · exact absurd isOffers (noOffers offers)

theorem ReturnsLive.not_refused (call : BrokerCall) (refusal : SignalRefusal) :
    ¬ call.ReturnsLive sessionId (.refused refusal) :=
  fun returns => nomatch ReturnsLive.isLive returns nofun

/-- A result other than a list of offers counts for the session of the call only. -/
theorem ReturnsLive.own {id : String}
    (named : call.sessionId = some id) (live : result.isLive = true)
    (returns : call.ReturnsLive sessionId result) : id = sessionId := by
  rcases returns with ⟨own, -⟩ | ⟨offers, rfl, -⟩
  · exact Option.some.inj (named.symm.trans own)
  · cases live

theorem ReturnsLive.listed {offers : List PendingOffer}
    (returns : call.ReturnsLive sessionId (.offers offers)) :
    ∃ offer ∈ offers, offer.sessionId = sessionId := by
  rcases returns with ⟨-, impossible⟩ | ⟨_, same, listed⟩
  · cases impossible
  · cases same
    exact listed

/-- Every call is careful from its start. -/
theorem BrokerCall.program_careful (call : BrokerCall) :
    Careful sessionId (call.ReturnsLive sessionId) False call.program := by
  have noRefusal (refusal : SignalRefusal) : ¬ call.ReturnsLive sessionId (.refused refusal) :=
    ReturnsLive.not_refused call refusal
  cases call with
  | createSession =>
    simp only [BrokerCall.program, Signaling.createSession]
    split
    · exact auditThen_careful (noRefusal _)
    · refine assertBlob_careful noRefusal (requireUsableDevice_careful noRefusal fun device => ?_)
      split
      · exact auditThen_careful (noRefusal _)
      · refine .ask nofun nofun fun found => ?_
        split
        · exact auditThen_careful (noRefusal _)
        · refine .ask nofun nofun fun now => ?_
          refine .ask nofun nofun fun uuid => ?_
          refine .ask nofun nofun fun _ => auditThen_careful fun isGoal => ?_
          cases ReturnsLive.isLive isGoal nofun
  | pendingForTarget =>
    exact pendingForTargetThen_careful noRefusal fun offers => .done ReturnsLive.listed
  | pendingForTargetWait _ _ rounds =>
    exact pendingForTargetWait_careful noRefusal rounds fun offers => ReturnsLive.listed
  | getSession =>
    refine requireUsableDevice_careful noRefusal fun _ => readThen_careful Iff.rfl nofun fun _ live => ?_
    refine requireLive_careful noRefusal live fun _ => ?_
    exact orRefuse_checked noRefusal (.done (ReturnsLive.own rfl rfl))
  | validateSignalBinding =>
    refine requireUsableDevice_careful noRefusal fun device => ?_
    split
    · exact refused_checked noRefusal
    · refine requireUsableDevice_careful noRefusal fun device => ?_
      split
      · exact refused_checked noRefusal
      · refine liveSessionHeader_careful noRefusal fun header => ?_
        exact orRefuse_checked noRefusal (.done (ReturnsLive.own rfl rfl))
  | answer =>
    refine assertBlob_careful noRefusal (requireUsableDevice_careful noRefusal fun _ => ?_)
    refine liveSessionHeader_careful noRefusal fun header => ?_
    split
    · exact refused_checked noRefusal
    · split
      · exact refused_checked noRefusal
      · refine .ask False.elim (fun same => same) fun _ => ?_
        exact auditThen_careful (ReturnsLive.own rfl rfl)
  | addIce =>
    refine assertBlob_careful noRefusal (requireUsableDevice_careful noRefusal fun _ => ?_)
    refine liveSessionHeader_careful noRefusal fun header => orRefuse_checked noRefusal ?_
    refine .ask False.elim (fun same => same) fun
      | .sessionNotFound | .tooManyCandidates => refused_checked noRefusal
      | .existing seq => .done (ReturnsLive.own rfl rfl)
      | .appended seq => auditThen_careful (ReturnsLive.own rfl rfl)
  | iceSince =>
    refine requireUsableDevice_careful noRefusal fun _ => ?_
    refine liveSessionHeader_careful noRefusal fun header => orRefuse_checked noRefusal ?_
    refine .ask nofun nofun fun _ => ?_
    exact .done (ReturnsLive.own rfl rfl)
  | progress =>
    exact progressThen_careful noRefusal fun reply =>
      .done (ReturnsLive.own rfl rfl)
  | progressWait _ _ _ _ _ rounds =>
    exact progressWait_careful noRefusal rounds (fun isGoal => nomatch ReturnsLive.isLive isGoal nofun)
      fun reply => ReturnsLive.own rfl rfl
  | cancel =>
    refine requireUsableDevice_careful noRefusal fun _ => ?_
    refine readThen_careful Iff.rfl nofun fun
      | none, _ => refused_checked noRefusal
      | some header, _ => orRefuse_checked noRefusal ?_
    refine .ask False.elim (fun isAct => absurd isAct.2 (by decide)) fun _ => ?_
    exact auditThen_careful fun isGoal => nomatch ReturnsLive.isLive isGoal nofun

end Calls

/-! ## The stored status -/

/-- The read found the session stored. -/
def Found : (request : BrokerAsk) → BrokerAnswer request → Prop
  | .getSession _, found => ∃ session, found = some session
  | .getSessionHeader _, found => ∃ header, found = some header
  | .getProgress _ _ _ _, found => ∃ snapshot, found = some snapshot
  | _, _ => False

namespace SignalingStore

/-- The session is stored, and cancelled or expired. -/
def Closed (store : SignalingStore) (sessionId : String) : Prop :=
  (∃ session ∈ store.sessions, session.sessionId = sessionId) ∧
    ∀ session ∈ store.sessions, session.sessionId = sessionId → session.status.isTerminal = true

variable {store : SignalingStore} {sessionId id : String}

/-- A session found under an id is stored with it. -/
theorem mem_of_session? {session : SignalingSession}
    (found : store.session? id = some session) :
    session ∈ store.sessions ∧ session.sessionId = id :=
  ⟨mem_of_find?_eq_some found, by simpa using find?_some found⟩

/-- A session of a closed id is found, and terminal. -/
theorem Closed.session? (closed : store.Closed sessionId) :
    ∃ session, store.session? sessionId = some session ∧ session.status.isTerminal = true := by
  obtain ⟨⟨session, listed, same⟩, terminal⟩ := closed
  have present : (store.session? sessionId).isSome :=
    find?_isSome.mpr ⟨session, listed, by simpa using same⟩
  obtain ⟨found, isFound⟩ := isSome_iff_exists.mp present
  obtain ⟨foundListed, foundSame⟩ := mem_of_session? isFound
  exact ⟨found, isFound, terminal found foundListed foundSame⟩

section

variable {change : SignalingSession → SignalingSession}
  (keepsId : ∀ session, (change session).sessionId = session.sessionId)
include keepsId

theorem update_sessionId (session : SignalingSession) :
    (if session.sessionId = id then change session else session).sessionId = session.sessionId := by
  split
  · exact keepsId session
  · rfl

/-- A session that is stored is closed by an update that makes or leaves it terminal. -/
theorem closed_update
    (present : ∃ session ∈ store.sessions, session.sessionId = sessionId)
    (terminal : ∀ session ∈ store.sessions, session.sessionId = sessionId →
      (if session.sessionId = id then change session else session).status.isTerminal = true) :
    (store.update id change).Closed sessionId := by
  obtain ⟨session, listed, same⟩ := present
  refine ⟨⟨_, mem_map_of_mem listed, (update_sessionId keepsId session).trans same⟩,
    fun updated isUpdated own => ?_⟩
  obtain ⟨old, oldListed, rfl⟩ := mem_map.mp isUpdated
  exact terminal old oldListed ((update_sessionId keepsId old).symm.trans own)

/-- An update that keeps the ids keeps a closed session closed if it keeps the status terminal. -/
theorem Closed.update (closed : store.Closed sessionId)
    (keeps : id = sessionId → ∀ session, session.status.isTerminal = true →
      (change session).status.isTerminal = true) : (store.update id change).Closed sessionId := by
  refine closed_update keepsId closed.1 fun session listed own => ?_
  split
  next here => exact keeps (here.symm.trans own) session (closed.2 session listed own)
  next => exact closed.2 session listed own

end

variable {status : SignalingStatus}

/-- A terminal status that is stored closes the session. -/
theorem closed_setStatus
    (present : (store.session? sessionId).isSome) (terminal : status.isTerminal = true) :
    (store.setStatus sessionId status).Closed sessionId := by
  obtain ⟨session, isSession⟩ := isSome_iff_exists.mp present
  refine closed_update (fun _ => rfl) ⟨session, mem_of_session? isSession⟩ fun session _ own => ?_
  rw [if_pos own]
  exact terminal

variable {request : BrokerAsk}

/-- A read of a closed session does not find it live. -/
theorem Closed.not_foundLive (closed : store.Closed sessionId)
    (reads : ReadsSession sessionId request) (senses : Senses) :
    ¬ FoundLive sessionId request (store.serve senses request).1 := by
  obtain ⟨_, isSession, terminal⟩ := closed.session?
  cases request with
  | getSession id =>
    obtain rfl : id = sessionId := reads
    rintro ⟨found, isFound, alive⟩
    obtain rfl := Option.some.inj (isSession.symm.trans isFound)
    cases terminal.symm.trans alive
  | getSessionHeader id =>
    obtain rfl : id = sessionId := reads
    rintro ⟨header, isHeader, alive⟩
    simp only [SignalingStore.serve, isSession, map_some] at isHeader
    cases isHeader
    cases terminal.symm.trans alive
  | getProgress id =>
    obtain rfl : id = sessionId := reads
    rintro ⟨snapshot, isSnapshot, alive⟩
    simp only [SignalingStore.serve, progress?, isSession, map_some] at isSnapshot
    cases isSnapshot
    cases terminal.symm.trans alive
  | listPendingOffers =>
    rintro ⟨offer, listed, same⟩
    obtain ⟨stored, isStored, rfl⟩ := mem_map.mp listed
    obtain ⟨storedListed, pending⟩ := mem_filter.mp ((mem_insertionSort _).mp isStored)
    have isTerminal := closed.2 stored storedListed same
    simp only [Bool.and_eq_true, decide_eq_true_eq] at pending
    rw [pending.2] at isTerminal
    cases isTerminal
  | _ => exact reads.elim

/-- An operation that only a live session may get does not touch a closed one. -/
theorem Closed.serve (closed : store.Closed sessionId)
    (dead : ¬ WritesLive sessionId request) (senses : Senses) :
    (store.serve senses request).2.1.Closed sessionId := by
  cases request with
  | createSession =>
    simp only [SignalingStore.serve, createSession]
    split
    · exact closed
    next absent =>
      obtain ⟨⟨old, listed, same⟩, terminal⟩ := closed
      refine ⟨⟨old, mem_cons_of_mem _ listed, same⟩, fun other isOther own => ?_⟩
      rcases mem_cons.mp isOther with rfl | isOld
      · refine absurd (find?_isSome.mpr ⟨old, listed, ?_⟩) absent
        simpa using same.trans own.symm
      · exact terminal other isOld own
  | setAnswer =>
    exact closed.update (fun _ => rfl) fun same => absurd same dead
  | setStatus =>
    refine closed.update (fun _ => rfl) fun same session _ => ?_
    by_contra alive
    exact dead ⟨same, Bool.eq_false_iff.mpr alive⟩
  | appendIce =>
    simp only [SignalingStore.serve, appendIce]
    split
    · exact closed
    · split
      · exact closed
      · split
        · exact closed
        · exact closed.update (fun _ => rfl) fun same => absurd same dead
  | _ => exact closed

/-- Sessions are never deleted. -/
theorem isSome_serve (present : (store.session? sessionId).isSome)
    (request : BrokerAsk) (senses : Senses) :
    ((store.serve senses request).2.1.session? sessionId).isSome := by
  obtain ⟨session, isSession⟩ := isSome_iff_exists.mp present
  obtain ⟨listed, same⟩ := mem_of_session? isSession
  have updated (id : String) (change : SignalingSession → SignalingSession)
      (keepsId : ∀ session, (change session).sessionId = session.sessionId) :
      ((store.update id change).session? sessionId).isSome := by
    refine find?_isSome.mpr ⟨_, mem_map_of_mem listed, ?_⟩
    simpa using (update_sessionId keepsId session).trans same
  cases request with
  | createSession =>
    simp only [SignalingStore.serve, createSession]
    split
    · exact present
    · exact find?_isSome.mpr ⟨_, mem_cons_of_mem _ listed, by simpa using same⟩
  | setAnswer id answer | setStatus id status => exact updated id _ fun _ => rfl
  | appendIce id =>
    simp only [SignalingStore.serve, appendIce]
    split
    · exact present
    · split
      · exact present
      · split
        · exact present
        · exact updated id _ fun _ => rfl
  | _ => exact present

/-- A session that a read has found is stored. -/
theorem isSome_of_found {senses : Senses} (reads : ReadsSession sessionId request)
    (found : Found request (store.serve senses request).1) : (store.session? sessionId).isSome := by
  cases request with
  | getSession id =>
    obtain rfl : id = sessionId := reads
    obtain ⟨session, isSession⟩ := found
    exact isSome_iff_exists.mpr ⟨session, isSession⟩
  | getSessionHeader id | getProgress id _ _ _ =>
    obtain rfl : id = sessionId := reads
    obtain ⟨_, isRead⟩ := found
    obtain ⟨session, isSession, -⟩ := map_eq_some_iff.mp isRead
    exact isSome_iff_exists.mpr ⟨session, isSession⟩
  | _ => exact found.elim

end SignalingStore

/-! ## Calls in progress -/

/-- A cancellation of the session. -/
def BrokerCall.Cancels (sessionId : String) (call : BrokerCall) : Prop :=
  ∃ accountId deviceId, call = .cancel accountId deviceId sessionId

/-- What is known of a call in progress, depending on whether a terminal status has been stored and
on whether the session is stored at all. A cancellation writes the status of a stored session only,
and returns only after it has. -/
structure BrokerThread.Sound (sessionId : String) (ended present : Prop) (thread : BrokerThread) :
    Prop where
  careful : Careful sessionId (thread.call.ReturnsLive sessionId) (¬ ended) thread.program
  known : thread.call.Cancels sessionId → thread.program.Checked (ReadsSession sessionId)
    (· = .setStatus sessionId .cancelled) Found (fun _ => False) present
  cancelled : thread.call.Cancels sessionId → thread.program.Checked
    (· = .setStatus sessionId .cancelled) (fun _ => False) (fun _ _ => True) (· = .cancelled) ended

section Threads

variable {sessionId : String} {ended present : Prop}

/-- A call starts soundly. -/
theorem BrokerThread.sound_of_call (call : BrokerCall) :
    BrokerThread.Sound sessionId ended present ⟨call, call.program⟩ := by
  refine ⟨call.program_careful.mono False.elim, ?_, ?_⟩
  · rintro ⟨accountId, deviceId, rfl⟩
    refine requireUsableDevice_checked (fun _ => id) id nofun fun _ => ?_
    refine .check rfl nofun fun
      | none => .done fun isGoal => isGoal.elim
      | some header => orRefuse_checked (fun _ => id) ?_
    refine .ask id (fun _ => ⟨header, rfl⟩) fun _ => ?_
    exact .ask id nofun fun _ => .done fun isGoal => isGoal.elim
  · rintro ⟨accountId, deviceId, rfl⟩
    refine requireUsableDevice_checked nofun nofun id fun _ => ?_
    refine .ask nofun (·.elim) fun
      | none => .done nofun
      | some header => orRefuse_checked nofun ?_
    refine .check rfl id fun _ => ?_
    exact .ask nofun (·.elim) fun _ => .done fun _ => trivial

/-- A call stays sound while others run, if it is not pending when the session ends. -/
theorem BrokerThread.Sound.others {endedAfter presentAfter : Prop} {thread : BrokerThread}
    (sound : thread.Sound sessionId ended present)
    (quiet : endedAfter → ended ∨ ¬ thread.Pending sessionId) (later : ended → endedAfter)
    (stays : present → presentAfter) : thread.Sound sessionId endedAfter presentAfter := by
  refine ⟨?_, fun cancels => (sound.known cancels).mono stays,
    fun cancels => (sound.cancelled cancels).mono later⟩
  by_cases hasEnded : endedAfter
  · rcases quiet hasEnded with already | calm
    · exact sound.careful.mono fun running => absurd already running
    · exact (sound.careful.forget calm).mono False.elim
  · exact sound.careful.mono fun _ => hasEnded

/-- So does a call that has had an answer. -/
theorem BrokerThread.Sound.answered {request : BrokerAsk}
    {next : BrokerAnswer request → BrokerProgram} {call : BrokerCall}
    (sound : BrokerThread.Sound sessionId ended present ⟨call, .ask request next⟩)
    (given : BrokerAnswer request)
    (dead : ReadsSession sessionId request → FoundLive sessionId request given → ¬ ended)
    (found : ReadsSession sessionId request → Found request given → present)
    (cancels : request = .setStatus sessionId .cancelled → call.Cancels sessionId → ended) :
    BrokerThread.Sound sessionId ended present ⟨call, next given⟩ := by
  refine ⟨?_, fun isCancel => ?_, fun isCancel => ?_⟩
  · refine Program.Checked.mono (sound.careful.answered given) ?_
    rintro (⟨reads, alive⟩ | ⟨_, running⟩)
    · exact dead reads alive
    · exact running
  · refine Program.Checked.mono ((sound.known isCancel).answered given) ?_
    rintro (⟨reads, isFound⟩ | ⟨_, isPresent⟩)
    · exact found reads isFound
    · exact isPresent
  · refine Program.Checked.mono ((sound.cancelled isCancel).answered given) ?_
    rintro (⟨isStatus, _⟩ | ⟨_, hasEnded⟩)
    · exact cancels isStatus isCancel
    · exact hasEnded

end Threads

/-! ## Whole runs -/

/-- A terminal status of the session has been stored. -/
def Ended (sessionId : String) (past : List BrokerEvent) : Prop :=
  ∃ status, status.isTerminal = true ∧ BrokerEvent.statusStored sessionId status ∈ past

/-- No call is pending on the session when a status of it is stored. -/
def Quiet (sessionId : String) (before : BrokerSystem) (event : BrokerEvent) : Prop :=
  ∀ status, event = .statusStored sessionId status →
    ∀ thread ∈ before.threads, ¬ thread.Pending sessionId

/-- A step that meets the condition. -/
def QuietStep (sessionId : String) (before : BrokerSystem) (event : BrokerEvent)
    (after : BrokerSystem) : Prop :=
  BrokerStep before event after ∧ Quiet sessionId before event

/-- Once a terminal status is stored it stays, and every call in progress is sound. -/
structure BrokerInv (sessionId : String) (past : List BrokerEvent) (system : BrokerSystem) :
    Prop where
  closed : Ended sessionId past → system.store.Closed sessionId
  sound : ∀ thread ∈ system.threads,
    thread.Sound sessionId (Ended sessionId past) (system.store.session? sessionId).isSome

section Steps

variable {sessionId : String} {past : List BrokerEvent} {event : BrokerEvent}

theorem Ended.later (ended : Ended sessionId past) : Ended sessionId (past ++ [event]) := by
  obtain ⟨status, terminal, stored⟩ := ended
  exact ⟨status, terminal, mem_append_left _ stored⟩

/-- A session ends with the event that stores the status. -/
theorem Ended.last (ended : Ended sessionId (past ++ [event])) :
    Ended sessionId past ∨
      ∃ status, status.isTerminal = true ∧ event = .statusStored sessionId status := by
  obtain ⟨status, terminal, stored⟩ := ended
  rcases mem_append.mp stored with earlier | now
  · exact .inl ⟨status, terminal, earlier⟩
  · exact .inr ⟨status, terminal, (mem_singleton.mp now).symm⟩

variable {request : BrokerAsk} {store : SignalingStore}

/-- A status is stored by the request for it, on a session that is there. -/
theorem SignalingStore.serve_statusStored {status : SignalingStatus} {senses : Senses}
    (stored : (store.serve senses request).2.2 = .statusStored sessionId status) :
    request = .setStatus sessionId status ∧ (store.session? sessionId).isSome := by
  have served := store.serve_event senses request
  rw [stored] at served
  cases served with
  | status =>
    refine ⟨rfl, ?_⟩
    by_contra absent
    simp [SignalingStore.serve, absent] at stored

variable {before : BrokerSystem} {call : BrokerCall} (inv : BrokerInv sessionId past before)
  {next : BrokerAnswer request → BrokerProgram}
include inv

/-- An operation keeps a session closed that has ended, and closes one that it ends. -/
theorem BrokerInv.closed_served (isThread : ⟨call, .ask request next⟩ ∈ before.threads)
    (senses : Senses) (ended : Ended sessionId (past ++ [(before.store.serve senses request).2.2]))
    : (before.store.serve senses request).2.1.Closed sessionId := by
  rcases ended.last with already | ⟨status, terminal, stored⟩
  · refine (inv.closed already).serve (fun writes => ?_) senses
    exact (inv.sound _ isThread).careful.allowed writes already
  · obtain ⟨rfl, present⟩ := SignalingStore.serve_statusStored stored
    exact SignalingStore.closed_setStatus present terminal

/-- One operation of a call. -/
theorem BrokerInv.served {index : Nat}
    (senses : Senses) (isThread : before.threads[index]? = some ⟨call, .ask request next⟩)
    (quiet : Quiet sessionId before (before.store.serve senses request).2.2) :
    BrokerInv sessionId (past ++ [(before.store.serve senses request).2.2])
      ⟨(before.store.serve senses request).2.1, before.threads.set index
        ⟨call, next (before.store.serve senses request).1⟩⟩ := by
  have listed := mem_of_getElem? isThread
  have present (isPresent : (before.store.session? sessionId).isSome) :
      ((before.store.serve senses request).2.1.session? sessionId).isSome :=
    SignalingStore.isSome_serve isPresent request senses
  -- Every thread, the one that is served included, stays sound while the operation runs.
  have others : ∀ thread ∈ before.threads, thread.Sound sessionId
      (Ended sessionId (past ++ [(before.store.serve senses request).2.2]))
      ((before.store.serve senses request).2.1.session? sessionId).isSome := by
    intro thread member
    refine (inv.sound thread member).others (fun ended => ?_) Ended.later present
    rcases ended.last with already | ⟨status, _, stored⟩
    · exact .inl already
    · exact .inr (quiet status stored thread member)
  refine ⟨inv.closed_served listed senses, fun thread member => ?_⟩
  rcases mem_or_eq_of_mem_set member with old | rfl
  · exact others thread old
  · refine (others _ listed).answered _ (fun reads alive ended => ?_) (fun reads found => ?_)
      fun isStatus cancels => ?_
    · rcases ended.last with already | ⟨status, _, stored⟩
      · exact (inv.closed already).not_foundLive reads senses alive
      · obtain ⟨rfl, -⟩ := SignalingStore.serve_statusStored stored
        exact reads
    · exact present (SignalingStore.isSome_of_found reads found)
    · subst isStatus
      have isPresent := ((inv.sound _ listed).known cancels).allowed rfl
      refine ⟨.cancelled, rfl, mem_append_right _ ?_⟩
      simp [SignalingStore.serve, isPresent]

/-- Every step keeps the invariant. -/
theorem BrokerInv.step {after : BrokerSystem} (taken : QuietStep sessionId before event after) :
    BrokerInv sessionId (past ++ [event]) after := by
  obtain ⟨step, quiet⟩ := taken
  -- A step that stores no status and leaves the sessions alone, with some of the threads.
  have kept {threads : List BrokerThread} (other : ∀ status, event ≠ .statusStored sessionId status)
      (sound : ∀ thread ∈ threads, thread.Sound sessionId (Ended sessionId past)
        (before.store.session? sessionId).isSome) (store : SignalingStore)
      (same : store.sessions = before.store.sessions) :
      BrokerInv sessionId (past ++ [event]) ⟨store, threads⟩ := by
    have endedBefore (ended : Ended sessionId (past ++ [event])) : Ended sessionId past := by
      rcases ended.last with already | ⟨status, _, stored⟩
      · exact already
      · exact absurd stored (other status)
    have found : store.session? sessionId = before.store.session? sessionId := by
      simp [SignalingStore.session?, same]
    refine ⟨fun ended => ?_, fun thread member => ?_⟩
    · simpa [SignalingStore.Closed, same] using inv.closed (endedBefore ended)
    · rw [found]
      exact (sound thread member).others (fun ended => .inl (endedBefore ended)) Ended.later id
  cases step.cases with
  | called call =>
    exact kept (by simp) (forall_mem_append.mpr ⟨inv.sound,
      forall_mem_singleton.mpr (BrokerThread.sound_of_call call)⟩) before.store rfl
  | served senses isThread => exact inv.served senses isThread quiet
  | completed =>
    exact kept (by simp) (fun thread member => inv.sound thread (mem_of_mem_eraseIdx member))
      before.store rfl
  | dropped _ subset =>
    exact kept (by simp) (fun thread member => inv.sound thread (subset member)) before.store rfl
  | enrolled => exact kept (by simp) inv.sound _ rfl

end Steps

/-- The session has been cancelled by a call that has completed, or marked expired. -/
def BrokerEvent.Ends (sessionId : String) : BrokerEvent → Prop
  | .completed (.cancel _ _ id) .cancelled | .statusStored id .expired => id = sessionId
  | _ => False

/-- The session is returned as live, its token binding is validated, or it gets an answer, a
candidate or a status of a live session. -/
def BrokerEvent.Revives (sessionId : String) : BrokerEvent → Prop
  | .completed call result => call.ReturnsLive sessionId result
  | .answerStored id | .iceAppended id => id = sessionId
  | .statusStored id status => id = sessionId ∧ status.isTerminal = false
  | .called _ | .internal => False

section Laws

variable {sessionId : String} {past : List BrokerEvent} {event : BrokerEvent}
  {before after : BrokerSystem}

/-- An operation revives the session only by a write that a live session gets. -/
theorem ServedEvent.writesLive {request : BrokerAsk} (served : ServedEvent request event)
    (revives : event.Revives sessionId) : WritesLive sessionId request := by
  cases served with
  | internal => exact revives.elim
  | answer | status | ice => exact revives

/-- Nothing revives a session that has ended. -/
theorem BrokerInv.not_revives (inv : BrokerInv sessionId past before)
    (step : BrokerStep before event after) (ended : Ended sessionId past) :
    ¬ event.Revives sessionId := by
  intro revives
  cases step.cases with
  | called call | dropped threads subset | enrolled devices => exact revives
  | completed isThread =>
    exact (inv.sound _ (mem_of_getElem? isThread)).careful.result revives ended
  | served senses isThread =>
    have writes := (before.store.serve_event senses _).writesLive revives
    exact (inv.sound _ (mem_of_getElem? isThread)).careful.allowed writes ended

/-- After an event that ends the session a terminal status is stored. -/
theorem BrokerInv.ended_of_ends (inv : BrokerInv sessionId past before)
    (step : BrokerStep before event after) (ends : event.Ends sessionId) :
    Ended sessionId (past ++ [event]) := by
  have expired : event = .statusStored sessionId .expired → Ended sessionId (past ++ [event]) :=
    fun stored => ⟨.expired, rfl, mem_append_right _ (mem_singleton.mpr stored.symm)⟩
  cases step.cases with
  | called call | dropped threads subset | enrolled devices => exact ends.elim
  | @completed _ call result isThread =>
    cases call with
    | cancel accountId deviceId id =>
      cases result with
      | cancelled =>
        obtain rfl : id = sessionId := ends
        have sound := inv.sound _ (mem_of_getElem? isThread)
        exact ((sound.cancelled ⟨accountId, deviceId, rfl⟩).result rfl).later
      | _ => exact ends.elim
    | _ => exact ends.elim
  | @served _ _ request _ senses =>
    have served := before.store.serve_event senses request
    generalize (before.store.serve senses request).2.2 = event at served ends expired
    cases served with
    | internal | answer | ice => exact ends.elim
    | status id status =>
      cases status with
      | expired =>
        obtain rfl : id = sessionId := ends
        exact expired rfl
      | _ => exact ends.elim

end Laws

/-- The invariant holds in every run whose steps meet the condition. -/
theorem brokerInv_of_run {store : SignalingStore} {sessionId : String} {events : List BrokerEvent}
    {system : BrokerSystem} (run : Run (QuietStep sessionId) ⟨store, []⟩ events system) :
    BrokerInv sessionId events system := by
  have first : BrokerInv sessionId [] ⟨store, []⟩ := by
    refine ⟨?_, nofun⟩
    rintro ⟨_, _, stored⟩
    cases stored
  exact run.history first fun taken inv => inv.step taken

/-- If no call is pending on a session whenever a status of it is stored, then a session that was
cancelled or marked expired stays so, and nothing that completes later returns it as live, stores an
answer or a candidate for it or validates a token for it. -/
theorem terminal_states_absorb {sessionId : String} {store : SignalingStore}
    {events : List BrokerEvent} {system : BrokerSystem}
    (run : Run (QuietStep sessionId) ⟨store, []⟩ events system) :
    ∀ earlier event later, events = earlier ++ event :: later → event.Ends sessionId →
      (∀ next ∈ later, ¬ next.Revives sessionId) ∧ system.store.Closed sessionId := by
  rintro earlier event later rfl ends
  obtain ⟨_, runEarlier, runRest⟩ := run.split
  cases runRest with
  | cons taken runLater =>
    have atEnd : Ended sessionId (earlier ++ [event]) :=
      (brokerInv_of_run runEarlier).ended_of_ends taken.1 ends
    have stays {more : List BrokerEvent} : Ended sessionId (earlier ++ event :: more) := by
      obtain ⟨status, terminal, stored⟩ := atEnd
      refine ⟨status, terminal, ?_⟩
      rw [append_cons]
      exact mem_append_left _ stored
    refine ⟨fun next listed => ?_, (brokerInv_of_run run).closed stays⟩
    obtain ⟨_, _, rfl⟩ := append_of_mem listed
    obtain ⟨_, runFront, runNext⟩ := runLater.split
    cases runNext with
    | cons nextTaken =>
      exact (brokerInv_of_run (runEarlier.append (.cons taken runFront))).not_revives nextTaken.1
        stays

/-! ## One session -/

/-- A store with one pending session between a browser and a desktop. -/
def oneSession : SignalingStore where
  devices := [⟨"browser", "account", "key", some .p256, .browser, false⟩,
    ⟨"desktop", "account", "key", none, .desktop, false⟩]
  sessions := [⟨⟨"s", "account", "browser", "desktop", "offer", none, .pending, 0, 120000⟩, []⟩]
  audits := []

/-- Surroundings before the session expires. -/
def early : Senses := ⟨0, "", false, false, false, .timeout⟩

/-- A cancellation and a read that comes after it. -/
def cancelThenRead : List BrokerMove :=
  [.call (.cancel "account" "browser" "s"), .serve 0 early, .serve 0 early, .serve 0 early,
    .serve 0 early, .complete 0,
    .call (.getSession "account" "browser" "s"), .serve 0 early, .serve 0 early, .complete 0]

/-- The cancellation alone is not pending when it stores the status. -/
theorem cancelFound_not_pending (header : SignalingSessionHeader) :
    ¬ BrokerThread.Pending "s" ⟨.cancel "account" "browser" "s",
      cancelFound "account" "browser" "s" header⟩ := by
  have careful : Careful "s" ((BrokerCall.cancel "account" "browser" "s").ReturnsLive "s") False
      (cancelFound "account" "browser" "s" header) := by
    refine orRefuse_checked (ReturnsLive.not_refused _) ?_
    refine .ask id (fun isAct => absurd isAct.2 (by decide)) fun _ => auditThen_careful fun isGoal => ?_
    cases ReturnsLive.isLive isGoal nofun
  exact careful.not_reaches

/-- The moves meet the condition one after the other. -/
def QuietMoves (sessionId : String) : BrokerSystem → List BrokerMove → Prop
  | _, [] => True
  | system, move :: rest =>
    Quiet sessionId system (system.take move).1 ∧ QuietMoves sessionId (system.take move).2 rest

theorem BrokerSystem.run_quietMoves {sessionId : String} (system : BrokerSystem)
    (moves : List BrokerMove) (quiet : QuietMoves sessionId system moves) :
    Run (QuietStep sessionId) system (system.events moves) (system.after moves) := by
  induction moves generalizing system with
  | nil => exact .nil system
  | cons move _ ih =>
    exact .cons ⟨⟨move, rfl⟩, quiet.1⟩ (ih _ quiet.2)

theorem cancelThenRead_quiet : QuietMoves "s" ⟨oneSession, []⟩ cancelThenRead := by
  have other {before : BrokerSystem} {event : BrokerEvent} (same : BrokerEvent)
      (isSame : event = same) (unstored : ∀ status, same ≠ .statusStored "s" status) :
      Quiet "s" before event := fun status stored => absurd (isSame.symm.trans stored) (unstored status)
  refine ⟨other (.called _) rfl nofun, other .internal rfl nofun, other .internal rfl nofun, ?_,
    other .internal rfl nofun, other (.completed _ _) rfl nofun, other (.called _) rfl nofun,
    other .internal rfl nofun, other .internal rfl nofun, other (.completed _ _) rfl nofun, trivial⟩
  intro status _ thread member
  rw [mem_singleton.mp member]
  exact cancelFound_not_pending ⟨"s", "account", "browser", "desktop", "offer", none, .pending, 0,
    120000⟩

/-- A session that is cancelled with no call pending is closed to the read that comes after. -/
theorem terminal_states_absorb_cancelThenRead :
    .completed (.getSession "account" "browser" "s") (.refused .cancelled) ∈
        (⟨oneSession, []⟩ : BrokerSystem).events cancelThenRead ∧
      ((⟨oneSession, []⟩ : BrokerSystem).after cancelThenRead).store.Closed "s" := by
  have run := (⟨oneSession, []⟩ : BrokerSystem).run_quietMoves cancelThenRead cancelThenRead_quiet
  refine ⟨by decide +kernel, ?_⟩
  exact (terminal_states_absorb run
    (((⟨oneSession, []⟩ : BrokerSystem).events cancelThenRead).take 5)
    (.completed (.cancel "account" "browser" "s") .cancelled)
    (((⟨oneSession, []⟩ : BrokerSystem).events cancelThenRead).drop 6) (by decide +kernel) rfl).2

/-- An answer reads the session as live, a cancellation runs to its end, the answer is stored, and a
read finds the session live again. -/
def overtaken : List BrokerMove :=
  [.call (.answer "account" "desktop" "s" "answer"), .serve 0 early, .serve 0 early,
    .call (.cancel "account" "browser" "s"), .serve 1 early, .serve 1 early, .serve 1 early,
    .serve 1 early, .complete 1,
    .serve 0 early, .serve 0 early, .serve 0 early, .complete 0,
    .call (.getSession "account" "browser" "s"), .serve 0 early, .serve 0 early, .serve 0 early,
    .complete 0]

/-- An answer that was checked before a cancellation and stored after it undoes the cancellation:
the answer is accepted, the stored status is `answered` again, and a later read returns the session
as live. -/
theorem answer_undoes_cancellation :
    ∃ events system, Run BrokerStep ⟨oneSession, []⟩ events system ∧
      ∃ earlier event later, events = earlier ++ event :: later ∧ event.Ends "s" ∧
        .answerStored "s" ∈ later ∧
        .completed (.answer "account" "desktop" "s" "answer") .answered ∈ later ∧
        (∃ session, .completed (.getSession "account" "browser" "s") (.session session) ∈ later) ∧
        system.store.sessions.map (·.status) = [.answered] := by
  refine ⟨_, _, (⟨oneSession, []⟩ : BrokerSystem).run_moves overtaken,
    ((⟨oneSession, []⟩ : BrokerSystem).events overtaken).take 8,
    .completed (.cancel "account" "browser" "s") .cancelled,
    ((⟨oneSession, []⟩ : BrokerSystem).events overtaken).drop 9, by decide +kernel, rfl,
    by decide +kernel, by decide +kernel, ⟨⟨⟨"s", "account", "browser", "desktop", "offer",
      some "answer", .answered, 0, 120000⟩, []⟩, by decide +kernel⟩, by decide +kernel⟩

end HydraTerm.Signaling
