import HydraTerm.Daemon.Requests

/-!
# A conditional start runs at most once

What the ledger holds for one token moves along a fixed graph: absent, reserved, then
applied or refused, until a retirement. `EntryMove` is that graph with the exchange that
takes each edge, and every exchange of the daemon is one of its edges. The laws of whole
runs are inductions over it:

* between the reservation of a token and its retirement at most one process is spawned under
  it, and a replay is answered as the first start was;
* after a retirement was acknowledged, no start of that operation spawns anything until the
  token is reserved for the same session again.
-/

namespace HydraTerm.Daemon

open Lib Grid List

variable (platform : Platform) (token : SessionStartOperationToken) (exchange : Exchange)

/-- What a retirement leaves of an operation. -/
def retiredEntry (id : SessionId) : Option StartOperationLedgerEntry :=
  match platform with
  | .windows => some (.retired id)
  | .unix => none

/-- The edges of one token's life, each with the exchange that takes it. -/
inductive EntryMove :
    Option StartOperationLedgerEntry → Option StartOperationLedgerEntry → Prop
  | idle {entry : Option StartOperationLedgerEntry} (unstarted : ∀ id, ¬exchange.Starts id token)
      (unreserved : ∀ id, ¬exchange.Reserves id token) : EntryMove entry entry
  | reserved {id : SessionId} (taken : exchange.Reserves id token) :
      EntryMove none (some (.reserved id))
  | retired {entry : StartOperationLedgerEntry} (taken : exchange.Retires entry.id token) :
      EntryMove (some entry) (retiredEntry platform entry.id)
  | recorded {id : SessionId} (asked : exchange.AsksToRetire id token) :
      EntryMove none (some (.retired id))
  | unmatched {id : SessionId} {entry : Option StartOperationLedgerEntry}
      (taken : exchange.Starts id token)
      (other : ∀ known, entry = some known → known.id = id → known = .retired id)
      (answer : exchange.answer = .conditional (.refused .preconditionFailed))
      (quiet : exchange.spawned = false) : EntryMove entry entry
  | replayed {id : SessionId} {entry : StartOperationLedgerEntry}
      {outcome : ConditionalSessionStartOutcome} (replays : entry.Replays id outcome)
      (answer : exchange.answer = .conditional outcome) (quiet : exchange.spawned = false) :
      EntryMove (some entry) (some entry)
  | refused {id : SessionId} {reason : ConditionalSessionStartRefusal}
      (taken : exchange.Starts id token)
      (answer : exchange.answer = .conditional (.refused reason))
      (quiet : exchange.spawned = false) :
      EntryMove (some (.reserved id)) (some (.refused id reason))
  | applied {id : SessionId} {generation : SessionGeneration} (taken : exchange.Starts id token)
      (answer : exchange.answer = .conditional (.applied generation))
      (spawned : exchange.spawned = true) :
      EntryMove (some (.reserved id)) (some (.applied id generation))

variable {platform token exchange}

/-- What a retirement leaves of any token. -/
theorem lookup_retiredLedger (daemon : Daemon) (id : SessionId)
    (token other : SessionStartOperationToken) :
    (daemon.retiredLedger platform id token).lookup other
      = if other = token then retiredEntry platform id
        else daemon.startOperations.lookup other := by
  cases platform with
  | windows => exact lookup_insert_eq daemon.startOperations token other (.retired id)
  | unix => exact lookup_erase_eq daemon.startOperations token other

variable {before after first last : Daemon} {id other : SessionId}
  {entry : StartOperationLedgerEntry} {during rest : List Exchange}

theorem Exchange.Starts.isStart (starts : exchange.Starts id token) :
    exchange.action.isStart = true := by
  obtain ⟨_, _, _, isAction, _⟩ := starts
  rw [isAction]
  rfl

/-- Every exchange takes one edge of each token's life. -/
theorem entryMove_step (taken : Exchanged platform before exchange after)
    (token : SessionStartOperationToken) :
    EntryMove platform token exchange (before.startOperations.lookup token)
      (after.startOperations.lookup token) := by
  obtain ⟨action, answer, spawned⟩ := exchange
  by_cases quiet : action.writesLedger = false
  · have kept := exchanged_startOperations taken quiet
    rw [kept]
    apply EntryMove.idle
    · rintro id ⟨request, conditional, world, rfl, _⟩
      cases quiet
    · rintro id ⟨rfl, _⟩
      cases quiet
  cases action with
  | reserve =>
    obtain ⟨_, result, rfl, rfl, rfl⟩ := exchanged_reserve taken
    cases result with
    | kept old =>
      exact .idle (fun _ starts => nomatch starts.isStart)
        fun _ reserves => old (DaemonAnswer.reserved.inj reserves.2)
    | reserved absent =>
      rw [lookup_insert_eq]
      split
      next same =>
        subst same
        rw [absent]
        exact .reserved ⟨rfl, rfl⟩
      next different =>
        refine .idle (fun _ starts => nomatch starts.isStart) ?_
        rintro _ ⟨named, _⟩
        cases named
        exact different rfl
  | retire id other expected =>
    obtain ⟨_, result, rfl, rfl, rfl⟩ := exchanged_retire taken
    have idle (entry : Option StartOperationLedgerEntry) (outcome : DaemonAnswer) :
        EntryMove platform token ⟨.retire id other expected, outcome, false⟩ entry entry :=
      .idle (fun _ starts => nomatch starts.isStart) fun _ reserves => nomatch reserves.1
    cases result with
    | retired found own =>
      rw [lookup_retiredLedger]
      split
      next same =>
        subst same own
        rw [found]
        exact .retired ⟨⟨expected, rfl⟩, rfl⟩
      · exact idle _ _
    | unknown => exact idle _ _
    | recorded absent =>
      rw [lookup_insert_eq]
      split
      next same =>
        subst same
        rw [absent]
        exact .recorded ⟨expected, rfl⟩
      · exact idle _ _
    | conflict => exact idle _ _
  | startConditionally request conditional world =>
    obtain ⟨reply, result, rfl, rfl, rfl⟩ := exchanged_startConditionally taken
    by_cases same : token = conditional.operationToken
    · subst same
      have starts (answer : DaemonAnswer) (spawned : Bool) : Exchange.Starts
          ⟨.startConditionally request conditional world, answer, spawned⟩ request.id
            conditional.operationToken := ⟨request, conditional, world, rfl, rfl, rfl⟩
      cases result with
      | unmatched other => exact .unmatched (starts _ _) other rfl rfl
      | replayed found replays =>
        rw [found]
        exact .replayed replays rfl rfl
      | refused _ found =>
        simp only [refuseReservedStart, AList.lookup_insert, found]
        exact .refused (starts _ _) rfl rfl
      | applied found =>
        simp only [AList.lookup_insert, found]
        exact .applied (starts _ _) rfl rfl
    · have kept : reply.daemon.startOperations.lookup token = before.startOperations.lookup token := by
        cases result with
        | refused reason found | applied found change => exact AList.lookup_insert_ne same
        | _ => rfl
      rw [kept]
      apply EntryMove.idle
      · rintro _ ⟨_, _, _, named, _, here⟩
        cases named
        exact same here.symm
      · rintro _ ⟨impossible, _⟩
        cases impossible
  | _ => exact absurd rfl quiet

/-- A start names one operation. -/
theorem Exchange.Starts.unique (left : exchange.Starts id token)
    (right : exchange.Starts other token) : id = other := by
  obtain ⟨_, _, _, taken, rfl, _⟩ := left
  obtain ⟨_, _, _, again, rfl, _⟩ := right
  rw [taken] at again
  cases again
  rfl

/-- What does not start the operation, or starts it without a process, spawns nothing under
its token. -/
theorem Exchange.spawnsUnder_false
    (quiet : ∀ id, exchange.Starts id token → exchange.spawned = false) :
    exchange.spawnsUnder token = false := by
  apply Bool.eq_false_iff.mpr
  intro spawns
  obtain ⟨⟨id, starts⟩, spawned⟩ := Exchange.starts_of_spawnsUnder spawns
  rw [quiet id starts] at spawned
  cases spawned

/-- The exchange answers a start of the operation from what the ledger holds. -/
structure AnswersFrom (entry : StartOperationLedgerEntry) (token : SessionStartOperationToken)
    (exchange : Exchange) : Prop where
  quiet : ∀ id, exchange.Starts id token → exchange.spawned = false
  replayed : ∀ id outcome, exchange.Starts id token → entry.Replays id outcome →
    exchange.answer = .conditional outcome

/-- A settled operation stays as it is until it is retired, and answers from the ledger. -/
theorem EntryMove.settled {next : Option StartOperationLedgerEntry}
    (move : EntryMove platform token exchange (some entry) next)
    (settled : ∀ id, entry ≠ .reserved id) (unretired : ∀ id, ¬exchange.Retires id token) :
    next = some entry ∧ AnswersFrom entry token exchange := by
  cases move with
  | idle unstarted =>
    exact ⟨rfl, fun id starts => absurd starts (unstarted id),
      fun id _ starts => absurd starts (unstarted id)⟩
  | retired taken => exact absurd taken (unretired _)
  | unmatched taken foreign _ quiet =>
    refine ⟨rfl, fun _ _ => quiet, fun id outcome starts replays => ?_⟩
    cases replays <;> cases foreign _ rfl (starts.unique taken)
  | replayed known answer quiet =>
    refine ⟨rfl, fun _ _ => quiet, fun _ _ _ replays => ?_⟩
    cases known <;> cases replays <;> exact answer
  | refused taken answer quiet | applied taken answer spawned => exact absurd rfl (settled _)

/-- So does every exchange of a run without a retirement. -/
theorem settled_run (run : Run (Exchanged platform) first during last)
    (found : first.startOperations.lookup token = some entry) (settled : ∀ id, entry ≠ .reserved id)
    (unretired : ∀ exchange ∈ during, ∀ id, ¬exchange.Retires id token) :
    ∀ exchange ∈ during, AnswersFrom entry token exchange := by
  induction run with
  | nil => simp
  | cons taken _ ih =>
    obtain ⟨unretiredNow, unretiredLater⟩ := forall_mem_cons.mp unretired
    have move := entryMove_step taken token
    rw [found] at move
    obtain ⟨kept, answers⟩ := move.settled settled unretiredNow
    exact forall_mem_cons.mpr ⟨answers, ih kept unretiredLater⟩

/-- How a replay of a start with this outcome is answered. -/
def ConditionalSessionStartOutcome.replayed :
    ConditionalSessionStartOutcome → ConditionalSessionStartOutcome
  | .applied generation | .alreadyApplied generation => .alreadyApplied generation
  | .refused reason => .refused reason

/-- The operation runs at most once in a sequence of exchanges, and its replays are answered
as its first start was. -/
structure RunsOnce (id : SessionId) (token : SessionStartOperationToken) (during : List Exchange) :
    Prop where
  once : during.countP (·.spawnsUnder token) ≤ 1
  replays : ∀ first start rest outcome, during = first ++ start :: rest →
    start.Starts id token → start.answer = .conditional outcome →
    ∀ replay ∈ rest, replay.Starts id token →
      replay.answer = .conditional outcome.replayed ∧ replay.spawned = false

/-- An exchange that is no start of the operation changes nothing about that. -/
theorem RunsOnce.skip (later : RunsOnce id token rest) (unstarted : ¬exchange.Starts id token)
    (quiet : ∀ named, exchange.Starts named token → exchange.spawned = false) :
    RunsOnce id token (exchange :: rest) := by
  constructor
  · rw [countP_cons_of_neg (by simp [Exchange.spawnsUnder_false quiet])]
    exact later.once
  · intro first start tail outcome here starts
    cases first with
    | nil =>
      cases here
      exact absurd starts unstarted
    | cons _ front =>
      cases here
      exact later.replays front start tail outcome rfl starts

/-- The start that settles the operation is the only one that can spawn. -/
theorem RunsOnce.settle {outcome : ConditionalSessionStartOutcome}
    (later : ∀ replay ∈ rest, AnswersFrom entry token replay)
    (answered : exchange.answer = .conditional outcome)
    (recorded : entry.Replays id outcome.replayed) : RunsOnce id token (exchange :: rest) := by
  have replayed (replay : Exchange) (member : replay ∈ rest) (starts : replay.Starts id token) :
      replay.answer = .conditional outcome.replayed ∧ replay.spawned = false :=
    ⟨(later replay member).replayed id _ starts recorded, (later replay member).quiet id starts⟩
  constructor
  · have noneLater : rest.countP (·.spawnsUnder token) = 0 := by
      apply countP_eq_zero.mpr
      intro replay member
      simp [Exchange.spawnsUnder_false (later replay member).quiet]
    rw [countP_cons, noneLater]
    split <;> decide
  · intro first start tail given here starts answer replay member replays
    cases first with
    | nil =>
      cases here
      cases answered.symm.trans answer
      exact replayed replay member replays
    | cons =>
      cases here
      -- A replay that is replayed in turn: its answer is the one that the ledger gives.
      cases (replayed start (by simp) starts).1.symm.trans answer
      have same : outcome.replayed.replayed = outcome.replayed := by cases outcome <;> rfl
      rw [same]
      exact replayed replay (by simp [member]) replays

/-- From its reservation to its retirement an operation runs at most once. -/
theorem reserved_run (run : Run (Exchanged platform) first during last)
    (found : first.startOperations.lookup token = some (.reserved id))
    (unretired : ∀ exchange ∈ during, ∀ id, ¬exchange.Retires id token) :
    RunsOnce id token during := by
  induction run with
  | nil => exact ⟨by simp, by simp⟩
  | @cons _ next _ _ _ taken later ih =>
    obtain ⟨unretiredNow, unretiredLater⟩ := forall_mem_cons.mp unretired
    have move := entryMove_step taken token
    rw [found] at move
    generalize reached : next.startOperations.lookup token = entry at move
    cases move with
    | idle unstarted =>
      exact (ih reached unretiredLater).skip (unstarted id)
        (fun named starts => absurd starts (unstarted named))
    | retired retires => exact absurd retires (unretiredNow _)
    | unmatched starts foreign _ quiet =>
      refine (ih reached unretiredLater).skip ?_ (fun _ _ => quiet)
      intro own
      cases foreign _ rfl (own.unique starts)
    | refused _ answer =>
      exact .settle (settled_run later reached (by simp) unretiredLater) answer (.refused _)
    | applied _ answer =>
      exact .settle (settled_run later reached (by simp) unretiredLater) answer (.applied _)
    | replayed replays => cases replays

/-- The ledger stays within its bound. -/
theorem ledger_bounded_step (taken : Exchanged platform before exchange after)
    (bound : mapSize before.startOperations ≤ maxStartOperationLedgerEntries) :
    mapSize after.startOperations ≤ maxStartOperationLedgerEntries := by
  obtain ⟨action, _, _⟩ := exchange
  by_cases quiet : action.writesLedger = false
  · have kept := exchanged_startOperations taken quiet
    rw [kept]
    exact bound
  cases action with
  | reserve =>
    obtain ⟨_, result, rfl, rfl, rfl⟩ := exchanged_reserve taken
    cases result with
    | kept => exact bound
    | reserved absent room =>
      exact (mapSize_insert_of_notMem _ (AList.lookup_eq_none.mp absent)).symm ▸ room
  | retire =>
    obtain ⟨_, result, rfl, rfl, rfl⟩ := exchanged_retire taken
    cases result with
    | retired found =>
      cases platform with
      | windows => exact (mapSize_insert_of_mem _ (mem_of_lookup found)).symm ▸ bound
      | unix => exact le_trans (mapSize_erase_le _ _) bound
    | unknown => exact bound
    | recorded absent room =>
      exact (mapSize_insert_of_notMem _ (AList.lookup_eq_none.mp absent)).symm ▸ room
    | conflict => exact bound
  | startConditionally =>
    obtain ⟨_, result, rfl, rfl, rfl⟩ := exchanged_startConditionally taken
    cases result with
    | refused reason found | applied found change =>
      exact (mapSize_insert_of_mem _ (mem_of_lookup found)).symm ▸ bound
    | _ => exact bound
  | _ => exact absurd rfl quiet

/-- The operation a request names. -/
def DaemonAction.operation : DaemonAction → Option (SessionId × SessionStartOperationToken)
  | .reserve id token | .lookup id token | .retire id token _ => some (id, token)
  | .startConditionally request conditional _ => some (request.id, conditional.operationToken)
  | _ => none

/-- A request that names an operation of another session changes nothing. -/
theorem foreign_unchanged (taken : Exchanged platform before exchange after)
    (named : exchange.action.operation = some (id, token))
    (found : before.startOperations.lookup token = some entry)
    (foreign : entry.id ≠ id) : after = before ∧ exchange.spawned = false := by
  obtain ⟨action, _, _⟩ := exchange
  cases action with
  | reserve =>
    cases named
    obtain ⟨_, result, rfl, rfl, rfl⟩ := exchanged_reserve taken
    cases result with
    | kept => exact ⟨rfl, rfl⟩
    | reserved absent =>
      rw [absent] at found
      cases found
  | lookup =>
    exact ⟨(congrArg Reply.daemon taken).symm, (congrArg Reply.spawned taken).symm⟩
  | retire =>
    cases named
    obtain ⟨_, result, rfl, rfl, rfl⟩ := exchanged_retire taken
    cases result with
    | retired located own =>
      rw [found] at located
      cases located
      exact absurd own foreign
    | unknown => exact ⟨rfl, rfl⟩
    | recorded absent =>
      rw [absent] at found
      cases found
    | conflict => exact ⟨rfl, rfl⟩
  | startConditionally =>
    cases named
    obtain ⟨_, result, rfl, rfl, rfl⟩ := exchanged_startConditionally taken
    cases result with
    | refused reason located | applied located change =>
      rw [found] at located
      cases located
      exact absurd rfl foreign
    | _ => exact ⟨rfl, rfl⟩
  | _ => cases named

/-- A retirement whose expectation fails changes nothing. -/
theorem conflict_unchanged (taken : Exchanged platform before exchange after)
    (asked : exchange.AsksToRetire id token) {current : SessionStartOperationStatus}
    (answered : exchange.answer = .retired (.conflict current)) : after = before := by
  obtain ⟨_, _, _⟩ := exchange
  obtain ⟨_, rfl⟩ := asked
  obtain ⟨_, result, rfl, rfl, rfl⟩ := exchanged_retire taken
  cases result with
  | conflict => rfl
  | _ => cases answered

/-- A conditional start executes at most once. In every state the daemon reaches, the ledger
is within its bound, a request that names an operation of another session or a retirement
that expects another state of it changes nothing, and from the reservation of an operation
to its retirement at most one process is spawned under its token, with every replay answered
as the first start was. -/
theorem conditional_start_at_most_once {history : List Exchange} {daemon : Daemon}
    (past : Run (Exchanged platform) default history daemon) :
    mapSize daemon.startOperations ≤ maxStartOperationLedgerEntries
    ∧ (∀ exchange after id token, Exchanged platform daemon exchange after →
        (exchange.action.operation = some (id, token) →
          ∀ entry, daemon.startOperations.lookup token = some entry → entry.id ≠ id →
            after = daemon ∧ exchange.spawned = false)
        ∧ (exchange.AsksToRetire id token →
          ∀ current, exchange.answer = .retired (.conflict current) → after = daemon))
    ∧ ∀ reservation granted id token, Exchanged platform daemon reservation granted →
        reservation.Reserves id token →
        ∀ during last, Run (Exchanged platform) granted during last →
          (∀ exchange ∈ during, ∀ other, ¬exchange.Retires other token) →
          RunsOnce id token during := by
  refine ⟨?_, ?_, ?_⟩
  · exact past.invariant (by simp [default, mapSize_empty]) ledger_bounded_step
  · intro exchange after id token taken
    constructor
    · intro named entry found foreign
      exact foreign_unchanged taken named found foreign
    · intro asked current answered
      exact conflict_unchanged taken asked answered
  · rintro ⟨action, answer, spawned⟩ granted id token taken ⟨rfl, rfl⟩ during last run unretired
    obtain ⟨_, result, rfl, answered, _⟩ := exchanged_reserve taken
    cases result with
    | kept old => exact absurd (DaemonAnswer.reserved.inj answered).symm old
    | reserved => exact reserved_run run (AList.lookup_insert _) unretired

/-- A reserved start that is sent twice and then looked up spawns one shell. -/
theorem conditional_start_at_most_once_resent :
    let reserve : DaemonAction := .reserve "shell" "token"
    let start : DaemonAction :=
      .startConditionally (shellRequest "shell") ⟨"token", .absent none⟩ shellWorld
    let granted := default.after .unix [reserve]
    let during := exchanges .unix granted [start, start, .lookup "shell" "token"]
    during.countP (·.spawnsUnder "token") = 1 ∧ RunsOnce "shell" "token" during := by
  have past : Run (Exchanged .unix) default [] default := .nil default
  have reserved : Exchanged .unix default
      ⟨.reserve "shell" "token", .reserved .reserved, false⟩
      (default.after .unix [.reserve "shell" "token"]) :=
    exchanged_of_answer (by decide +kernel) (by decide +kernel)
  refine ⟨by decide +kernel, ?_⟩
  apply (conditional_start_at_most_once past).2.2 _ _ _ _ reserved ⟨rfl, rfl⟩ _ _
    (run_exchanges .unix _ _)
  simp [exchanges, Exchange.Retires, Exchange.AsksToRetire]

/-- After a retirement was acknowledged, an operation of that session does not start until
its token is reserved for the session again. -/
theorem EntryMove.barred {entry next : Option StartOperationLedgerEntry}
    (move : EntryMove platform token exchange entry next) (barred : entry ≠ some (.reserved id))
    (unreserved : ¬exchange.Reserves id token) :
    next ≠ some (.reserved id) ∧ (exchange.Starts id token →
      (∀ generation, exchange.answer ≠ .conditional (.applied generation))
        ∧ exchange.spawned = false) := by
  cases move with
  | idle unstarted => exact ⟨barred, fun starts => absurd starts (unstarted id)⟩
  | reserved taken =>
    refine ⟨?_, fun starts => ?_⟩
    · rintro ⟨⟩
      exact unreserved taken
    · cases taken.1 ▸ starts.isStart
  | retired taken =>
    refine ⟨?_, fun starts => ?_⟩
    · cases platform <;> simp [retiredEntry]
    · obtain ⟨⟨_, asked⟩, _⟩ := taken
      cases asked ▸ starts.isStart
  | recorded asked =>
    refine ⟨by simp, fun starts => ?_⟩
    obtain ⟨_, asked⟩ := asked
    cases asked ▸ starts.isStart
  | unmatched _ _ answer quiet => exact ⟨barred, fun _ => ⟨by simp [answer], quiet⟩⟩
  | replayed replays answer quiet =>
    exact ⟨barred, fun _ => ⟨by cases replays <;> simp [answer], quiet⟩⟩
  | refused _ answer quiet => exact ⟨by simp, fun _ => ⟨by simp [answer], quiet⟩⟩
  | applied taken =>
    refine ⟨by simp, fun starts => ?_⟩
    rw [starts.unique taken] at barred
    exact absurd rfl barred

/-- The bar holds in every run without such a reservation. -/
theorem barred_run {later : List Exchange} (run : Run (Exchanged platform) first later last)
    (barred : first.startOperations.lookup token ≠ some (.reserved id))
    (unreserved : ∀ exchange ∈ later, ¬exchange.Reserves id token) :
    ∀ start ∈ later, start.Starts id token →
      (∀ generation, start.answer ≠ .conditional (.applied generation)) ∧ start.spawned = false := by
  induction run with
  | nil => simp
  | cons taken _ ih =>
    obtain ⟨unreservedNow, unreservedLater⟩ := forall_mem_cons.mp unreserved
    obtain ⟨stillBarred, refused⟩ := (entryMove_step taken token).barred barred unreservedNow
    exact forall_mem_cons.mpr ⟨refused, ih stillBarred unreservedLater⟩

/-- An acknowledged retirement leaves no reservation of the operation. -/
theorem unreserved_of_retire (taken : Exchanged platform before exchange after)
    (asked : exchange.AsksToRetire id token)
    (answered : exchange.answer = .retired .retired ∨ exchange.answer = .retired .alreadyRetired) :
    after.startOperations.lookup token ≠ some (.reserved id) := by
  obtain ⟨_, _, _⟩ := exchange
  obtain ⟨_, rfl⟩ := asked
  obtain ⟨_, result, rfl, rfl, rfl⟩ := exchanged_retire taken
  cases result with
  | retired =>
    rw [lookup_retiredLedger, if_pos rfl]
    cases platform <;> simp [retiredEntry]
  | unknown unmatched =>
    intro reserved
    cases unmatched _ reserved rfl
  | recorded =>
    simp
  | conflict => rcases answered with impossible | impossible <;> cases impossible

/-- A retirement is a barrier. Once the retirement of an operation has been answered
`retired` or `alreadyRetired`, in whatever state of the daemon, no later start of that
operation is applied or spawns a process, unless its token has been reserved for the session
anew. -/
theorem retirement_is_barrier {before after last : Daemon} {retirement : Exchange}
    {later : List Exchange} {id : SessionId} {token : SessionStartOperationToken}
    (taken : Exchanged platform before retirement after) (asked : retirement.AsksToRetire id token)
    (answered : retirement.answer = .retired .retired
      ∨ retirement.answer = .retired .alreadyRetired)
    (run : Run (Exchanged platform) after later last)
    (unreserved : ∀ exchange ∈ later, ¬exchange.Reserves id token) :
    ∀ start ∈ later, start.Starts id token →
      (∀ generation, start.answer ≠ .conditional (.applied generation)) ∧ start.spawned = false :=
  barred_run run (unreserved_of_retire taken asked answered) unreserved

/-- A start that arrives after the retirement of its reservation spawns nothing. -/
theorem retirement_is_barrier_delayed :
    let start : DaemonAction :=
      .startConditionally (shellRequest "shell") ⟨"token", .absent none⟩ shellWorld
    let retired := default.after .unix
      [.reserve "shell" "token", .retire "shell" "token" .unapplied]
    ∀ exchange ∈ exchanges .unix retired [start], exchange.Starts "shell" "token" →
      (∀ generation, exchange.answer ≠ .conditional (.applied generation))
        ∧ exchange.spawned = false := by
  have taken : Exchanged .unix (default.after .unix [.reserve "shell" "token"])
      ⟨.retire "shell" "token" .unapplied, .retired .retired, false⟩
      (default.after .unix [.reserve "shell" "token", .retire "shell" "token" .unapplied]) :=
    exchanged_of_answer (by decide +kernel) (by decide +kernel)
  apply retirement_is_barrier taken ⟨_, rfl⟩ (.inl rfl) (run_exchanges .unix _ _)
  simp [exchanges, Exchange.Reserves]

end HydraTerm.Daemon
