import HydraTerm.Shell.ReleaseEffects

/-!
# Safety of the release journal

The invariant ties three things together: the owners in the journal, the capabilities the threads
hold, and the verdicts of the past. A token is drawn once and held by one thread; the token an
operation was journaled with, once replaced, never comes back. So while it still owns the operation,
every verdict so far was given under it, by the one thread that holds it, and that thread knows
whether it touched anything.

The UUIDs drawn in a run are taken to be distinct.
-/

namespace HydraTerm.Shell

open Grid Lib List

variable {E : Type} {past : List ReleaseEvent} {event : ReleaseEvent}

/-! ## The past -/

/-- The UUIDs drawn so far. -/
def drawsOf (past : List ReleaseEvent) : List Uuid := past.flatMap ReleaseEvent.draws

/-- The operation was journaled with the token. -/
def Journaled (past : List ReleaseEvent) (operationId token : Uuid) : Prop :=
  ∃ reading, .journaled operationId token reading ∈ past

/-- The event is a verdict under the token that says more than that nothing went out. -/
def ReleaseEvent.Touches (event : ReleaseEvent) (token : Uuid) : Prop :=
  ∃ operationId target verdict reading,
    event = .judged operationId token target verdict reading ∧ verdict ≠ .notPublished

/-- No verdict under the token touched anything. -/
def Untouched (past : List ReleaseEvent) (token : Uuid) : Prop :=
  ∀ event ∈ past, ¬ event.Touches token

/-- The target was confirmed or retained under the token. -/
def SettledUnder (past : List ReleaseEvent) (operationId token : Uuid) (target : SessionReleaseTarget) :
    Prop :=
  ∃ verdict reading, .judged operationId token target verdict reading ∈ past ∧
    (verdict = .confirmed ∨ verdict = .retained)

/-- A release of the operation was confirmed or possibly published. -/
def ReleaseEvent.Publishes (event : ReleaseEvent) (operationId : Uuid) : Prop :=
  ∃ token target verdict reading, event = .judged operationId token target verdict reading ∧
    (verdict = .confirmed ∨ verdict = .possiblyPublished)

/-- A release of the operation was sent to the daemon. -/
def ReleaseEvent.Issues (event : ReleaseEvent) (operationId : Uuid) : Prop :=
  ∃ token target verdict reading, event = .judged operationId token target verdict reading ∧
    verdict ≠ .retained

theorem drawsOf_append (past later : List ReleaseEvent) :
    drawsOf (past ++ later) = drawsOf past ++ drawsOf later :=
  flatMap_append

variable {uuid operationId token leaseToken other : Uuid} {target : SessionReleaseTarget}
  {before after : ReleaseSystem E} {threads : List (ReleaseThread E)} {reading : Option Nat}
  {now : Nat} {first last : ReleaseSystem E} {between : List ReleaseEvent}
  {old new : ReleaseThread E} {system : ReleaseSystem E} {journal : ReleaseJournal}
  {verdict : ReleaseVerdict} {kind : AttemptKind} {index : Nat}

theorem mem_drawsOf_later (drawn : uuid ∈ drawsOf past) (later : List ReleaseEvent) :
    uuid ∈ drawsOf (past ++ later) := by
  rw [drawsOf_append]
  exact mem_append_left _ drawn

theorem mem_drawsOf_last (drawn : uuid ∈ event.draws) : uuid ∈ drawsOf (past ++ [event]) := by
  rw [drawsOf_append]
  refine mem_append_right _ ?_
  simpa [drawsOf] using drawn

theorem nodup_drawsOf_left {later : List ReleaseEvent}
    (distinct : (drawsOf (past ++ later)).Nodup) : (drawsOf past).Nodup := by
  rw [drawsOf_append] at distinct
  exact distinct.of_append_left

/-- An owner is given a token that is drawn. -/
theorem ReleaseEvent.Gives.drawn (gives : event.Gives operationId token) : token ∈ event.draws := by
  obtain ⟨reading, rfl | rfl⟩ := gives <;> simp [ReleaseEvent.draws]

/-- What is drawn now was not drawn before. -/
theorem not_mem_drawsOf (distinct : (drawsOf (past ++ [event])).Nodup)
    (drawn : uuid ∈ event.draws) : uuid ∉ drawsOf past := by
  rw [drawsOf_append] at distinct
  intro before
  refine disjoint_of_nodup_append distinct before ?_
  simpa [drawsOf] using drawn

theorem Journaled.later (journaled : Journaled past operationId token) :
    Journaled (past ++ [event]) operationId token := by
  obtain ⟨reading, listed⟩ := journaled
  exact ⟨reading, mem_append_left _ listed⟩

theorem SettledUnder.later (settled : SettledUnder past operationId token target) :
    SettledUnder (past ++ [event]) operationId token target := by
  obtain ⟨verdict, reading, listed, settles⟩ := settled
  exact ⟨verdict, reading, mem_append_left _ listed, settles⟩

theorem Untouched.later (untouched : Untouched past token)
    (untouching : ¬ event.Touches token) : Untouched (past ++ [event]) token := by
  intro other listed
  rcases mem_append.mp listed with before | last
  · exact untouched other before
  · rwa [mem_singleton.mp last]

/-! ## The invariant -/

/-- A thread's capability is what the past says about its token. -/
def ReleaseThread.Sound (past : List ReleaseEvent) : ReleaseThread E → Prop
  | .receipt held => Journaled past held.operationId held.leaseToken ∧ Untouched past held.leaseToken
  | .claim held => Untouched past held.leaseToken
  | .compensation held =>
    Journaled past held.operationId held.leaseToken ∧ Untouched past held.leaseToken
  | .attempt kind operationId leaseToken program =>
    ∃ point, program.Follows (Shell.authority operationId leaseToken)
        (Entitled kind operationId leaseToken) point ∧
      (point.touched = false → Untouched past leaseToken) ∧
      (kind = .owned → Journaled past operationId leaseToken) ∧
      ∀ target, point.settled = some target → SettledUnder past operationId leaseToken target
  | .ended => True

/-- A thread stays sound through an event that does not touch its token. -/
theorem ReleaseThread.Sound.later {thread : ReleaseThread E} (sound : thread.Sound past)
    (untouching : ∀ operationId token, thread.authority = some (operationId, token) →
      ¬ event.Touches token) : thread.Sound (past ++ [event]) := by
  cases thread with
  | receipt => exact ⟨sound.1.later, sound.2.later (untouching _ _ rfl)⟩
  | claim => exact Untouched.later sound (untouching _ _ rfl)
  | compensation => exact ⟨sound.1.later, sound.2.later (untouching _ _ rfl)⟩
  | attempt =>
    obtain ⟨point, follows, untouched, journaled, settled⟩ := sound
    exact ⟨point, follows, fun isUntouched => (untouched isUntouched).later (untouching _ _ rfl),
      fun isOwned => (journaled isOwned).later, fun target isSettled => (settled target isSettled).later⟩
  | ended => trivial

/-- No two threads hold one token. -/
def Exclusive (threads : List (ReleaseThread E)) : Prop :=
  ∀ (i j : Nat) (one other : ReleaseThread E) (operationId otherId token : Uuid),
    threads[i]? = some one → threads[j]? = some other →
    one.authority = some (operationId, token) → other.authority = some (otherId, token) → i = j

/-- What holds after every run. -/
structure ReleaseInv (past : List ReleaseEvent) (system : ReleaseSystem E) : Prop where
  keyed : system.journal.Keyed
  listed : ∀ {operationId}, system.journal.Listed operationId → operationId ∈ drawsOf past
  held : ∀ {operationId token}, system.journal.Held operationId token → token ∈ drawsOf past
  owners : ∀ thread ∈ system.threads, ∀ operationId token,
    thread.authority = some (operationId, token) → token ∈ drawsOf past
  exclusive : Exclusive system.threads
  sound : ∀ thread ∈ system.threads, thread.Sound past
  judged : ∀ {operationId token target verdict reading},
    .judged operationId token target verdict reading ∈ past →
      operationId ∈ drawsOf past ∧ token ∈ drawsOf past
  original : ∀ {operationId token other target verdict reading}, Journaled past operationId token →
    system.journal.Held operationId token →
    .judged operationId other target verdict reading ∈ past → other = token
  cancelled : ∀ {operationId token reading}, .cancelled operationId token reading ∈ past →
    operationId ∈ drawsOf past ∧ ¬ system.journal.Listed operationId

/-- Nothing has happened yet. -/
theorem releaseInv_initial (tables : OwnerTables) :
    ReleaseInv [] (ReleaseSystem.initial tables : ReleaseSystem E) where
  keyed := nodup_nil
  listed := nofun
  held := nofun
  owners := nofun
  exclusive := nofun
  sound := nofun
  judged := nofun
  original := nofun
  cancelled := nofun

/-! ## Threads through a step -/

variable (threads : List (ReleaseThread E)) (event : ReleaseEvent) in
/-- How a step changes the threads: a thread joins with the authority the step gives, or one thread
goes on with its own authority or without any. -/
inductive ThreadEffect : List (ReleaseThread E) → Prop
  | same : ThreadEffect threads
  | joined {thread : ReleaseThread E} {operationId token : Uuid} :
      thread.authority = some (operationId, token) → event.Gives operationId token →
      ThreadEffect (threads ++ [thread])
  | moved {index : Nat} {old new : ReleaseThread E} : threads[index]? = some old →
      (new.authority = old.authority ∨ new.authority = none) →
      ThreadEffect (threads.set index new)

/-- The right to compensate is for the operation and the token of the attempt. -/
theorem capability_authority {outcome : ReleaseOperationOutcome E}
    (sound : (ReleaseThread.attempt kind operationId leaseToken (.done outcome)).Sound past) :
    outcome.capability.authority = some (operationId, leaseToken) ∨
      outcome.capability.authority = none := by
  obtain ⟨_, follows, -, -, -⟩ := sound
  have entitled := follows.result
  cases outcome with
  | unpublishedFailure =>
    obtain ⟨-, rfl, rfl, -⟩ := entitled
    exact .inl rfl
  | complete _ _ | forwardOnly _ _ => exact .inr rfl

/-- What every step does to the threads. -/
theorem ReleaseStep.threadEffect
    (step : ReleaseStep before event after) (sound : ∀ thread ∈ before.threads, thread.Sound past) :
    ThreadEffect before.threads event after.threads := by
  cases step with
  | destroyed _ ok =>
    obtain ⟨-, rfl, rfl, -⟩ := ReleaseJournal.insertPendingReleases_some ok
    exact .joined rfl ⟨_, .inl rfl⟩
  | recovered ok =>
    obtain ⟨-, rfl, rfl, -⟩ := ReleaseJournal.enqueueRecovered_some ok
    exact .joined rfl ⟨_, .inl rfl⟩
  | claimed ok =>
    obtain ⟨_, -, rfl, -⟩ := ReleaseJournal.claimNext_some ok
    exact .joined rfl ⟨_, .inr rfl⟩
  | renewedClaim isThread _ | beganOwned isThread | beganClaimed isThread | served _ isThread _ =>
    exact .moved isThread (.inl rfl)
  | retriedClaim isThread _ | surrendered isThread _ | diedInFence isThread _ =>
    exact .moved isThread (.inr rfl)
  | finished isThread =>
    exact .moved isThread (capability_authority (sound _ (mem_of_getElem? isThread)))
  | crashed index =>
    by_cases inside : index < before.threads.length
    · exact .moved (getElem?_eq_getElem inside) (.inr rfl)
    · rw [set_eq_of_length_le (Nat.le_of_not_lt inside)]
      exact .same
  | _ => exact .same

section

variable {new : List (ReleaseThread E)} (effect : ThreadEffect threads event new)
include effect

/-- An authority after the step is that of the thread in its place, or given to a thread that
joined. -/
theorem ThreadEffect.was {i : Nat} {one : ReleaseThread E} (isOne : new[i]? = some one)
    (isAuthority : one.authority = some (operationId, token)) :
    (∃ was, threads[i]? = some was ∧ was.authority = some (operationId, token)) ∨
      i = threads.length ∧ event.Gives operationId token := by
  cases effect with
  | same => exact .inl ⟨one, isOne, isAuthority⟩
  | joined given gives =>
    rw [getElem?_append, getElem?_singleton] at isOne
    split_ifs at isOne with inside isEnd
    · exact .inl ⟨one, isOne, isAuthority⟩
    · cases isOne
      cases given.symm.trans isAuthority
      exact .inr ⟨by omega, gives⟩
  | moved isOld kept =>
    rw [getElem?_set] at isOne
    split_ifs at isOne with sameIndex inside
    · cases isOne
      rcases kept with same | none
      · exact .inl ⟨_, sameIndex ▸ isOld, same ▸ isAuthority⟩
      · cases none.symm.trans isAuthority
    · exact .inl ⟨one, isOne, isAuthority⟩

variable (drawn : ∀ thread ∈ threads, ∀ operationId token,
  thread.authority = some (operationId, token) → token ∈ drawsOf past)
include drawn

/-- Every token in use was drawn. -/
theorem ThreadEffect.owners : ∀ thread ∈ new, ∀ operationId token,
    thread.authority = some (operationId, token) → token ∈ drawsOf (past ++ [event]) := by
  intro thread listed operationId token isAuthority
  obtain ⟨_, isThread⟩ := mem_iff_getElem?.mp listed
  rcases effect.was isThread isAuthority with ⟨was, isWas, wasAuthority⟩ | ⟨-, gives⟩
  · exact mem_drawsOf_later (drawn was (mem_of_getElem? isWas) _ _ wasAuthority) _
  · exact mem_drawsOf_last gives.drawn

/-- Tokens stay with one thread. -/
theorem ThreadEffect.exclusive (exclusive : Exclusive threads)
    (distinct : (drawsOf (past ++ [event])).Nodup) : Exclusive new := by
  -- A thread that was there holds a token drawn before, and the one that joins a new one.
  have fresh : ∀ {i} {one : ReleaseThread E} {operationId otherId token}, threads[i]? = some one →
      one.authority = some (otherId, token) → ¬ event.Gives operationId token :=
    fun isOne isAuthority gives => not_mem_drawsOf distinct gives.drawn
      (drawn _ (mem_of_getElem? isOne) _ _ isAuthority)
  intro i j one other operationId otherId shared isOne isOther isAuthority isOtherAuthority
  rcases effect.was isOne isAuthority with ⟨wasOne, isWas, was⟩ | ⟨rfl, gives⟩ <;>
    rcases effect.was isOther isOtherAuthority with ⟨wasOther, isWasOther, wasTheirs⟩ | ⟨rfl, givesOther⟩
  · exact exclusive i j wasOne wasOther _ _ shared isWas isWasOther was wasTheirs
  · exact absurd givesOther (fresh isWas was)
  · exact absurd gives (fresh isWasOther wasTheirs)
  · rfl

end

/-! ## Soundness through a step -/

/-- Threads stay sound through an event that touches nothing. -/
theorem sound_later (sound : ∀ thread ∈ threads, thread.Sound past)
    (untouching : ∀ token, ¬ event.Touches token) :
    ∀ thread ∈ threads, thread.Sound (past ++ [event]) :=
  fun thread listed => (sound thread listed).later fun _ token _ => untouching token

/-- Replacing a thread by a sound one, through an event that touches only its token. -/
theorem ReleaseInv.sound_set
    (inv : ReleaseInv past before) (isOld : before.threads[index]? = some old)
    (touching : ∀ token, event.Touches token → ∃ operationId, old.authority = some (operationId, token))
    (soundNew : new.Sound (past ++ [event])) :
    ∀ thread ∈ before.threads.set index new, thread.Sound (past ++ [event]) := by
  intro thread listed
  obtain ⟨i, isThread⟩ := mem_iff_getElem?.mp listed
  rw [getElem?_set] at isThread
  split_ifs at isThread with same inside
  · cases isThread
    exact soundNew
  · refine (inv.sound thread (mem_of_getElem? isThread)).later fun _ token isAuthority touches => ?_
    obtain ⟨_, oldAuthority⟩ := touching token touches
    exact same (inv.exclusive index i old thread _ _ token isOld isThread oldAuthority isAuthority)

/-- An internal event touches nothing. -/
theorem not_touches_internal : ¬ (ReleaseEvent.internal reading).Touches token := by
  simp [ReleaseEvent.Touches]

/-- The next point of an attempt is sound when the verdict, if any, is its own. -/
theorem sound_served {request : ReleaseRequest} {next : ReleaseAnswer E request → ReleaseProgram E}
    {given : ReleaseAnswer E request} (served : ServedAs system request given journal event)
    (sound : (ReleaseThread.attempt kind operationId leaseToken (.ask request next)).Sound past) :
    (ReleaseThread.attempt kind operationId leaseToken (next given)).Sound (past ++ [event]) ∧
      ∀ token, event.Touches token → token = leaseToken := by
  obtain ⟨point, follows, untouched, journaled, settled⟩ := sound
  have later := follows.answered given
  -- Where the point stays, the event says nothing about any token.
  have unmoved (follows : (next given).Follows _ _ point)
      (untouching : ∀ token, ¬ event.Touches token) :
      (ReleaseThread.attempt kind operationId leaseToken (next given)).Sound (past ++ [event]) ∧
        ∀ token, event.Touches token → token = leaseToken :=
    ⟨⟨point, follows, fun isUntouched => (untouched isUntouched).later (untouching _),
      fun isOwned => (journaled isOwned).later, fun target isSettled => (settled target isSettled).later⟩,
      fun token touches => absurd touches (untouching token)⟩
  cases served with
  | quietly _ still =>
    rw [still] at later
    exact unmoved later fun _ => not_touches_internal
  | consumed => exact unmoved later (by simp [ReleaseEvent.Touches])
  | @judged operation own target decision now =>
    obtain ⟨rfl, rfl⟩ := follows.allowed
    have isLast : ReleaseEvent.judged operation own target decision.verdict (some now) ∈
        past ++ [.judged operation own target decision.verdict (some now)] := by simp
    refine ⟨⟨point.judged target decision.verdict, later, fun isUntouched => ?_,
      fun isOwned => (journaled isOwned).later, fun settledTarget isSettled => ?_⟩, ?_⟩
    -- Only a verdict that nothing went out leaves the point untouched.
    · cases isVerdict : decision.verdict with
      | notPublished =>
        rw [isVerdict] at isUntouched
        refine (untouched isUntouched).later ?_
        rintro ⟨_, _, _, _, isEvent, published⟩
        cases isEvent
        exact published rfl
      | retained | confirmed | possiblyPublished => rw [isVerdict] at isUntouched; cases isUntouched
    · cases isVerdict : decision.verdict with
      | notPublished | possiblyPublished =>
        rw [isVerdict] at isSettled
        exact (settled settledTarget isSettled).later
      | retained =>
        rw [isVerdict] at isSettled isLast
        cases isSettled
        exact ⟨_, _, isLast, .inr rfl⟩
      | confirmed =>
        rw [isVerdict] at isSettled isLast
        cases isSettled
        exact ⟨_, _, isLast, .inl rfl⟩
    · rintro token ⟨_, _, _, _, isEvent, -⟩
      cases isEvent
      rfl

/-- A thread that is replaced in an internal step. -/
theorem ReleaseInv.sound_moved
    (inv : ReleaseInv past before) (isOld : before.threads[index]? = some old)
    (soundNew : old.Sound past → new.Sound (past ++ [.internal reading])) :
    ∀ thread ∈ before.threads.set index new, thread.Sound (past ++ [.internal reading]) :=
  inv.sound_set isOld (fun _ touches => absurd touches not_touches_internal)
    (soundNew (inv.sound old (mem_of_getElem? isOld)))

/-- The threads stay sound through every step. -/
theorem ReleaseInv.sound_step (inv : ReleaseInv past before)
    (step : ReleaseStep before event after) (distinct : (drawsOf (past ++ [event])).Nodup) :
    ∀ thread ∈ after.threads, thread.Sound (past ++ [event]) := by
  -- A thread that joins holds a token drawn just now.
  have joined : ∀ (new : ReleaseThread E), (∀ token, ¬ event.Touches token) →
      ((∀ token ∈ event.draws, Untouched (past ++ [event]) token) → new.Sound (past ++ [event])) →
      ∀ thread ∈ before.threads ++ [new], thread.Sound (past ++ [event]) := by
    intro new untouching soundNew thread listed
    rcases mem_append.mp listed with old | isNew
    · exact sound_later inv.sound untouching thread old
    · rw [mem_singleton.mp isNew]
      refine soundNew fun token drawn => ?_
      have fresh : Untouched past token := by
        rintro other listed ⟨_, _, _, _, rfl, -⟩
        exact not_mem_drawsOf distinct drawn (inv.judged listed).2
      exact fresh.later (untouching token)
  cases step with
  | destroyed _ ok =>
    obtain ⟨-, rfl, rfl, -⟩ := ReleaseJournal.insertPendingReleases_some ok
    refine joined _ (by simp [ReleaseEvent.Touches]) fun untouched => ?_
    exact ⟨⟨_, mem_concat_self⟩, untouched _ (by simp [ReleaseEvent.draws])⟩
  | recovered ok =>
    obtain ⟨-, rfl, rfl, -⟩ := ReleaseJournal.enqueueRecovered_some ok
    refine joined _ (by simp [ReleaseEvent.Touches]) fun untouched => ?_
    exact ⟨⟨_, mem_concat_self⟩, untouched _ (by simp [ReleaseEvent.draws])⟩
  | claimed ok =>
    obtain ⟨_, -, rfl, -⟩ := ReleaseJournal.claimNext_some ok
    refine joined _ (by simp [ReleaseEvent.Touches]) fun untouched => ?_
    exact untouched _ (by simp [ReleaseEvent.draws])
  | renewedClaim isThread =>
    refine inv.sound_moved isThread fun sound => ?_
    exact Untouched.later sound not_touches_internal
  | retriedClaim isThread _ | surrendered isThread _ =>
    exact inv.sound_moved isThread fun _ => trivial
  | @beganOwned _ receipt isThread =>
    refine inv.sound_moved isThread fun sound => ?_
    exact ⟨.start, attemptOwned_follows receipt, fun _ => sound.2.later not_touches_internal,
      fun _ => sound.1.later, nofun⟩
  | @beganClaimed _ claim isThread =>
    refine inv.sound_moved isThread fun sound => ?_
    exact ⟨.start, attemptClaimed_follows claim,
      fun _ => Untouched.later sound not_touches_internal, nofun, nofun⟩
  | served _ isThread served =>
    obtain ⟨soundNext, touching⟩ := sound_served (servedAs_of_serve _ served)
      (inv.sound _ (mem_of_getElem? isThread))
    refine inv.sound_set isThread (fun token touches => ?_) soundNext
    exact ⟨_, by rw [touching token touches]; rfl⟩
  | diedInFence isThread =>
    obtain ⟨_, follows, -⟩ := inv.sound _ (mem_of_getElem? isThread)
    obtain ⟨rfl, rfl⟩ := follows.allowed
    refine inv.sound_set isThread ?_ trivial
    rintro other ⟨_, _, _, _, isEvent, -⟩
    cases isEvent
    exact ⟨_, rfl⟩
  | @finished _ _ _ _ outcome isThread =>
    refine inv.sound_moved isThread fun sound => ?_
    obtain ⟨_, follows, untouched, journaled, -⟩ := sound
    have entitled := follows.result
    cases outcome with
    | unpublishedFailure =>
      obtain ⟨isOwned, rfl, rfl, isUntouched⟩ := entitled
      exact ⟨(journaled isOwned).later, (untouched isUntouched).later not_touches_internal⟩
    | complete _ _ | forwardOnly _ _ => trivial
  | crashed index =>
    by_cases inside : index < before.threads.length
    · exact inv.sound_moved (getElem?_eq_getElem inside) fun _ => trivial
    · rw [set_eq_of_length_le (Nat.le_of_not_lt inside)]
      exact sound_later inv.sound fun _ => not_touches_internal
  | edited _ | refused _ | cancelled _ _ _ | adopted _ _ =>
    exact sound_later inv.sound (by simp [ReleaseEvent.Touches])

/-- A verdict is given under the authority of the thread that asked for it. -/
theorem ReleaseInv.judged_by_holder (inv : ReleaseInv past before)
    (step : ReleaseStep before (.judged operationId leaseToken target verdict reading) after) :
    ∃ thread ∈ before.threads, thread.authority = some (operationId, leaseToken) := by
  obtain ⟨_, -, -, _, _, _, _, listed⟩ := step.judged
  obtain ⟨_, follows, -⟩ := inv.sound _ listed
  obtain ⟨rfl, rfl⟩ := follows.allowed
  exact ⟨_, listed, rfl⟩

/-- While the first token owns the operation, every verdict was given under it. -/
theorem ReleaseInv.original_step (inv : ReleaseInv past before)
    (step : ReleaseStep before event after) (distinct : (drawsOf (past ++ [event])).Nodup)
    (journaled : Journaled (past ++ [event]) operationId token)
    (isHeld : after.journal.Held operationId token)
    (isJudged : .judged operationId other target verdict reading ∈ past ++ [event]) :
    other = token := by
  rcases mem_append.mp isJudged with pastJudged | lastJudged
  · obtain ⟨journaledAt, listed⟩ := journaled
    rcases mem_append.mp listed with pastJournaled | lastJournaled
    · rcases step.ownerEffect.held isHeld with heldBefore | gives
      · exact inv.original ⟨journaledAt, pastJournaled⟩ heldBefore pastJudged
      -- A token that is drawn now was not the one of an earlier transaction.
      · have earlier : token ∈ drawsOf past := by
          refine mem_flatMap.mpr ⟨_, pastJournaled, ?_⟩
          simp [ReleaseEvent.draws]
        exact absurd earlier (not_mem_drawsOf distinct (ReleaseEvent.Gives.drawn gives))
    -- A new operation has no verdicts.
    · obtain rfl := mem_singleton.mp lastJournaled
      refine absurd (inv.judged pastJudged).1 (not_mem_drawsOf distinct ?_)
      simp [ReleaseEvent.draws]
  · obtain rfl := mem_singleton.mp lastJudged
    obtain ⟨_, -, judged, -⟩ := step.judged
    have heldBefore : before.journal.Held operationId token := by
      rcases step.ownerEffect.held isHeld with heldBefore | ⟨_, isOther | isOther⟩
      · exact heldBefore
      · cases isOther
      · cases isOther
    exact inv.keyed.token_unique judged.fenced.leased.held heldBefore

/-- The invariant is kept by every step. -/
theorem ReleaseInv.step (inv : ReleaseInv past before)
    (step : ReleaseStep before event after) (distinct : (drawsOf (past ++ [event])).Nodup) :
    ReleaseInv (past ++ [event]) after where
  keyed := step.ownerEffect.keyed inv.keyed
  listed := by
    intro operationId isListed
    rcases step.ownerEffect.listed isListed with before | ⟨token, reading, rfl⟩
    · exact mem_drawsOf_later (inv.listed before) _
    · exact mem_drawsOf_last (by simp [ReleaseEvent.draws])
  held := by
    intro operationId token isHeld
    rcases step.ownerEffect.held isHeld with before | gives
    · exact mem_drawsOf_later (inv.held before) _
    · exact mem_drawsOf_last (ReleaseEvent.Gives.drawn gives)
  owners := (step.threadEffect inv.sound).owners inv.owners
  exclusive := (step.threadEffect inv.sound).exclusive inv.owners inv.exclusive distinct
  sound := inv.sound_step step distinct
  judged := by
    intro operationId token target verdict reading isJudged
    rcases mem_append.mp isJudged with earlier | last
    · exact ⟨mem_drawsOf_later (inv.judged earlier).1 _, mem_drawsOf_later (inv.judged earlier).2 _⟩
    · obtain rfl := mem_singleton.mp last
      obtain ⟨_, -, judged, -⟩ := step.judged
      have isHeld := judged.fenced.leased.held
      exact ⟨mem_drawsOf_later (inv.listed isHeld.listed) _, mem_drawsOf_later (inv.held isHeld) _⟩
  original := inv.original_step step distinct
  cancelled := by
    intro operationId token reading isCancelled
    rcases mem_append.mp isCancelled with earlier | last
    · obtain ⟨drawn, gone⟩ := inv.cancelled earlier
      refine ⟨mem_drawsOf_later drawn _, fun isListed => ?_⟩
      rcases step.ownerEffect.listed isListed with before | ⟨_, _, rfl⟩
      · exact gone before
      · exact not_mem_drawsOf distinct (by simp [ReleaseEvent.draws]) drawn
    · obtain rfl := mem_singleton.mp last
      cases step with
      | served _ _ served => cases servedAs_of_serve _ served
      | cancelled _ _ ok =>
        obtain ⟨_, -, leased, -⟩ := ReleaseJournal.cancelOperation_true ok
        exact ⟨mem_drawsOf_later (inv.listed leased.held.listed) _,
          ReleaseJournal.cancelOperation_not_listed inv.keyed ok⟩

/-- The invariant holds after every run from a new journal. -/
theorem releaseInv_of_run {tables : OwnerTables} {events : List ReleaseEvent}
    (run : Run ReleaseStep (.initial tables) events system)
    (distinct : (drawsOf events).Nodup) : ReleaseInv events system := by
  have always := @Run.history _ _ ReleaseStep _ _ events run
    (fun past state => (drawsOf past).Nodup → ReleaseInv past state) []
    (fun _ => releaseInv_initial tables) fun step inv distinct =>
      (inv (nodup_drawsOf_left distinct)).step step distinct
  exact always distinct

/-! ## Cancellations -/

/-- A cancellation finds that nothing of the operation was published. -/
theorem ReleaseInv.cancelled_unpublished (inv : ReleaseInv past before)
    (step : ReleaseStep before (.cancelled operationId token reading) after) :
    ∀ earlier ∈ past, ¬ earlier.Publishes operationId := by
  rintro earlier listed ⟨other, target, verdict, readAt, rfl, published⟩
  cases step with
  | served _ _ served => cases servedAs_of_serve _ served
  | cancelled _ isThread ok =>
    obtain ⟨journaled, untouched⟩ := inv.sound _ (mem_of_getElem? isThread)
    obtain ⟨_, -, leased, -⟩ := ReleaseJournal.cancelOperation_true ok
    obtain rfl := inv.original journaled leased.held listed
    refine untouched _ listed ⟨_, _, _, _, rfl, ?_⟩
    rcases published with rfl | rfl <;> simp

/-- A verdict needs an operation that is still in the journal. -/
theorem ReleaseInv.not_judged_of_cancelled (inv : ReleaseInv past before)
    (isCancelled : .cancelled operationId token reading ∈ past)
    (step : ReleaseStep before event after) : ¬ event.Issues operationId := by
  rintro ⟨other, target, verdict, readAt, rfl, -⟩
  obtain ⟨_, -, judged, -⟩ := step.judged
  exact (inv.cancelled isCancelled).2 judged.fenced.leased.held.listed

/-! ## The schedule -/

/-- Steps taken while the operation could be claimed at every clock reading. -/
def WhileClaimable (operationId : Uuid) (before : ReleaseSystem E) (event : ReleaseEvent)
    (after : ReleaseSystem E) : Prop :=
  ReleaseStep before event after ∧
    ∀ now, event.reading = some now → before.journal.Claimable operationId now

/-- The first operation comes after the second in the schedule. -/
def Behind (journal : ReleaseJournal) (operationId other : Uuid) : Prop :=
  ∀ row ∈ journal.operations, row.operationId = operationId →
    ∀ otherRow ∈ journal.operations, otherRow.operationId = other →
      otherRow.createdAtMs < row.createdAtMs

/-- A claimable operation is in the journal, without a current lease. -/
theorem ReleaseJournal.Claimable.row (claimable : journal.Claimable operationId now) :
    ∃ row ∈ journal.operations, row.operationId = operationId ∧ row.unleased now = true := by
  obtain ⟨row, isClaimable, same⟩ := claimable
  obtain ⟨listed, free⟩ := mem_filter.mp isClaimable
  rw [Bool.and_eq_true] at free
  exact ⟨row, listed, same, free.1⟩

section

variable {before after : ReleaseJournal} {claim : ForwardReleaseClaim}
  (claimed : before.ClaimedNext now leaseToken claim after)
include claimed

/-- A claim puts the operation behind every other. -/
theorem ReleaseJournal.ClaimedNext.behind (keyed : before.Keyed)
    (different : other ≠ claim.operationId) : Behind after claim.operationId other := by
  obtain ⟨_, _, _, isCandidate, isOperation, isRotated, rfl⟩ := claimed.isAfter
  obtain ⟨listed, free⟩ := mem_filter.mp (ReleaseJournal.candidate_some isCandidate).1
  rw [Bool.and_eq_true] at free
  intro row rowListed sameRow otherRow otherListed sameOther
  obtain ⟨old, oldListed, rfl⟩ := mem_map.mp rowListed
  obtain ⟨otherOld, otherOldListed, rfl⟩ := mem_map.mp otherListed
  have oldId : old.operationId = claim.operationId := by
    rw [← sameRow]
    split <;> rfl
  obtain rfl := keyed.unique oldListed listed (oldId.trans isOperation.symm)
  have otherKept : ¬ (decide (otherOld.operationId = claim.operationId) &&
      otherOld.unleased now) = true := by
    intro isClaimed
    rw [Bool.and_eq_true, decide_eq_true_eq] at isClaimed
    rw [if_pos (by simpa using isClaimed)] at sameOther
    exact different (sameOther.symm.trans isClaimed.1)
  rw [if_neg otherKept, if_pos (by simpa using ⟨oldId, free.1⟩)]
  exact ReleaseJournal.rotatedAt_ok isRotated otherOld otherOldListed

/-- A claim takes no operation that is behind a claimable one. -/
theorem ReleaseJournal.ClaimedNext.not_behind
    (claimable : before.Claimable other now) : ¬ Behind before claim.operationId other := by
  intro behind
  obtain ⟨operation, _, _, isCandidate, isOperation, -, -⟩ := claimed.isAfter
  obtain ⟨isClaimable, first⟩ := ReleaseJournal.candidate_some isCandidate
  obtain ⟨otherRow, otherClaimable, sameOther⟩ := claimable
  have later := behind operation (mem_of_mem_filter isClaimable) isOperation otherRow
    (mem_of_mem_filter otherClaimable) sameOther
  rcases Prod.Lex.le_iff.mp (first otherRow otherClaimable) with earlier | ⟨same, -⟩
  · exact absurd earlier (by simpa [ReleaseOperation.schedule] using later.le)
  · have same : operation.createdAtMs = otherRow.createdAtMs := same
    omega

end

/-- While the other operation is claimable and unclaimed, the order stays. -/
theorem Behind.step
    (behind : Behind before.journal operationId other) (inv : ReleaseInv past before)
    (taken : WhileClaimable other before event after)
    (noAdoption : ∀ sessionId generation, event ≠ .adopted sessionId generation)
    (notJournaled : ∀ token reading, event ≠ .journaled operationId token reading ∧
      event ≠ .journaled other token reading)
    (unclaimed : ∀ token reading, event ≠ .claimed other token reading) :
    Behind after.journal operationId other := by
  obtain ⟨step, claimable⟩ := taken
  have schedule := step.scheduleEffect inv.keyed noAdoption
  have keyedAfter := step.ownerEffect.keyed inv.keyed
  intro row listed sameRow otherRow otherListed sameOther
  rcases schedule.later row listed with ⟨old, oldListed, oldSame, notForward⟩ | ⟨_, _, isJournaled⟩
  swap
  · exact absurd (sameRow ▸ isJournaled) (notJournaled _ _).1
  rcases schedule.later otherRow otherListed with ⟨was, wasListed, wasSame, -⟩ | ⟨_, _, isJournaled⟩
  swap
  · exact absurd (sameOther ▸ isJournaled) (notJournaled _ _).2
  have wasOther : was.operationId = other := wasSame.trans sameOther
  have kept : was ∈ after.journal.operations := by
    refine schedule.kept was wasListed (fun now isNow => ?_) (wasOther ▸ unclaimed)
    obtain ⟨_, freeListed, freeSame, _⟩ := (claimable now isNow).row
    rwa [inv.keyed.unique wasListed freeListed (wasOther.trans freeSame.symm)]
  obtain rfl := keyedAfter.unique otherListed kept wasSame.symm
  exact (behind old oldListed (oldSame.trans sameRow) otherRow wasListed wasOther).trans_le notForward

/-- Through a run in which the other operation stays claimable and unclaimed, the order stays. -/
theorem Behind.run (run : Run (WhileClaimable other) first between last)
    (behind : Behind first.journal operationId other) (inv : ReleaseInv past first)
    (drawn : operationId ∈ drawsOf past ∧ other ∈ drawsOf past)
    (distinct : (drawsOf (past ++ between)).Nodup)
    (noAdoption : ∀ sessionId generation, .adopted sessionId generation ∉ between)
    (unclaimed : ∀ token reading, .claimed other token reading ∉ between) :
    Behind last.journal operationId other := by
  induction run generalizing past with
  | nil => exact behind
  | @cons _ next _ event _ taken _ ih =>
    have distinctNow : (drawsOf (past ++ [event])).Nodup := by
      rw [append_cons] at distinct
      exact nodup_drawsOf_left distinct
    have fresh : ∀ {uuid}, uuid ∈ drawsOf past → uuid ∉ event.draws := fun isDrawn again =>
      not_mem_drawsOf distinctNow again isDrawn
    have behindNext : Behind next.journal operationId other := by
      refine behind.step inv taken ?_ (fun token reading => ⟨?_, ?_⟩) ?_
      · rintro sessionId generation rfl
        exact noAdoption _ _ mem_cons_self
      · rintro rfl
        exact fresh drawn.1 (by simp [ReleaseEvent.draws])
      · rintro rfl
        exact fresh drawn.2 (by simp [ReleaseEvent.draws])
      · rintro token reading rfl
        exact unclaimed _ _ mem_cons_self
    refine ih behindNext (inv.step taken.1 distinctNow)
      ⟨mem_drawsOf_later drawn.1 _, mem_drawsOf_later drawn.2 _⟩ ?_ ?_ ?_
    · rwa [append_assoc]
    · exact fun sessionId generation listed => noAdoption _ _ (mem_cons_of_mem _ listed)
    · exact fun token reading listed => unclaimed _ _ (mem_cons_of_mem _ listed)

/-- What a claiming step does. -/
theorem ReleaseStep.claimedNext
    (step : ReleaseStep before (.claimed operationId leaseToken reading) after) :
    ∃ now claim, reading = some now ∧ claim.operationId = operationId ∧
      before.journal.ClaimedNext now leaseToken claim after.journal := by
  cases step with
  | served _ _ served => cases servedAs_of_serve _ served
  | claimed ok =>
    obtain ⟨now, isNow, claimed⟩ := ReleaseJournal.claimNext_some ok
    exact ⟨now, _, isNow, rfl, claimed⟩

/-- Between two claims of one operation, another that was claimable throughout is claimed. -/
theorem claimed_between {firstToken secondToken : Uuid}
    {firstReading secondReading : Option Nat}
    (inv : ReleaseInv past first) (different : other ≠ operationId)
    (run : Run (WhileClaimable other) first (.claimed operationId firstToken firstReading ::
      (between ++ [.claimed operationId secondToken secondReading])) last)
    (distinct : (drawsOf (past ++ .claimed operationId firstToken firstReading ::
      (between ++ [.claimed operationId secondToken secondReading]))).Nodup)
    (noAdoption : ∀ sessionId generation, .adopted sessionId generation ∉ between) :
    ∃ token reading, .claimed other token reading ∈ between := by
  by_contra unclaimed
  push Not at unclaimed
  cases run with
  | cons firstClaim later =>
    obtain ⟨_, runBetween, secondRun⟩ := later.split
    cases secondRun with
    | cons secondClaim =>
      obtain ⟨now, claim, isNow, rfl, claimed⟩ := firstClaim.1.claimedNext
      obtain ⟨row, listed, sameRow, -⟩ := (firstClaim.2 now isNow).row
      have otherDrawn : other ∈ drawsOf past := inv.listed ⟨row, listed, sameRow⟩
      have ownDrawn : claim.operationId ∈ drawsOf past := by
        obtain ⟨operation, -, -, isCandidate, isOperation, -⟩ := claimed.isAfter
        have isClaimable := (ReleaseJournal.candidate_some isCandidate).1
        exact inv.listed ⟨operation, mem_of_mem_filter isClaimable, isOperation⟩
      have distinctBetween : (drawsOf ((past ++ [.claimed claim.operationId firstToken
          firstReading]) ++ between)).Nodup := by
        rw [append_cons, ← append_assoc] at distinct
        exact nodup_drawsOf_left distinct
      have behind := (claimed.behind inv.keyed different).run runBetween
        (inv.step firstClaim.1 (nodup_drawsOf_left distinctBetween))
        ⟨mem_drawsOf_later ownDrawn _, mem_drawsOf_later otherDrawn _⟩ distinctBetween noAdoption
        unclaimed
      obtain ⟨secondNow, _, isSecondNow, isOwner, claimedAgain⟩ :=
        secondClaim.1.claimedNext
      rw [← isOwner] at behind
      exact claimedAgain.not_behind (secondClaim.2 secondNow isSecondNow) behind

/-! ## The laws of the journal -/

/-- In every interleaving of destructive transactions, attempts, claims, renewals, expiries,
retries, cancellations and crashes: a verdict is given only by the holder of the current lease, for
a target that is still pending, and a release is sent only for a session that nothing references and
whose row satisfies the recorded policy;
a pending target goes only after it was confirmed or retained under the current lease, or with a
cancellation; a cancelled operation published nothing before and sends nothing after; and no
operation is claimed twice while another one stays claimable and unclaimed.

Adopting a lifetime again is a step of the system too. It also takes pending targets and moves
operations in the schedule, so the second and the last part leave it out. -/
theorem release_journal_safe {tables : OwnerTables} {events : List ReleaseEvent}
    {system : ReleaseSystem E} (run : Run ReleaseStep (.initial tables) events system)
    (distinct : (drawsOf events).Nodup) :
    (∀ operationId leaseToken target verdict reading after,
      ReleaseStep system (.judged operationId leaseToken target verdict reading) after →
      ∃ now, reading = some now ∧ system.journal.Leased operationId leaseToken now ∧
        ⟨operationId, target⟩ ∈ system.journal.pending ∧
        (∃ thread ∈ system.threads, thread.authority = some (operationId, leaseToken)) ∧
        (verdict ≠ .retained →
          system.tables.Unreferenced target.sessionId ∧ target.RowSatisfied system.tables)) ∧
    (∀ row event after, ReleaseStep system event after → row ∈ system.journal.pending →
      row ∉ after.journal.pending →
      (∀ sessionId generation, event ≠ .adopted sessionId generation) →
      ∃ leaseToken now, system.journal.Leased row.operationId leaseToken now ∧
        (event = .cancelled row.operationId leaseToken (some now) ∨
          event = .consumed row.operationId leaseToken row.target (some now) ∧
            SettledUnder events row.operationId leaseToken row.target)) ∧
    (∀ before after operationId leaseToken reading,
      events = before ++ .cancelled operationId leaseToken reading :: after →
      (∀ event ∈ before, ¬ event.Publishes operationId) ∧
        ∀ event ∈ after, ¬ event.Issues operationId) ∧
    (∀ operationId other firstToken firstReading between secondToken secondReading last,
      other ≠ operationId →
      Run (WhileClaimable other) system (.claimed operationId firstToken firstReading ::
        (between ++ [.claimed operationId secondToken secondReading])) last →
      (drawsOf (events ++ .claimed operationId firstToken firstReading ::
        (between ++ [.claimed operationId secondToken secondReading]))).Nodup →
      (∀ sessionId generation, .adopted sessionId generation ∉ between) →
      ∃ token reading, .claimed other token reading ∈ between) := by
  have inv := releaseInv_of_run run distinct
  refine ⟨?_, ?_, ?_, ?_⟩
  · intro operationId leaseToken target verdict reading after step
    obtain ⟨now, isNow, judged, -⟩ := step.judged
    exact ⟨now, isNow, judged.fenced.leased, judged.fenced.pending, inv.judged_by_holder step,
      judged.released⟩
  · intro row event after step listed gone noAdoption
    cases step.rowGone listed gone with
    | @consumed leaseToken now _ _ _ _ _ isThread leased =>
      obtain ⟨_, follows, -, -, settled⟩ := inv.sound _ (mem_of_getElem? isThread)
      obtain ⟨rfl, rfl, isSettled⟩ := follows.allowed
      exact ⟨leaseToken, now, leased, .inr ⟨rfl, settled _ isSettled⟩⟩
    | @cancelled leaseToken now leased => exact ⟨leaseToken, now, leased, .inl rfl⟩
    | adopted => exact absurd rfl (noAdoption _ _)
  · rintro before after operationId leaseToken reading rfl
    obtain ⟨_, runBefore, runAfter⟩ := run.split
    have invBefore := releaseInv_of_run runBefore (nodup_drawsOf_left distinct)
    cases runAfter with
    | cons cancelStep runLater =>
      refine ⟨invBefore.cancelled_unpublished cancelStep, fun event listed => ?_⟩
      obtain ⟨earlier, _, rfl⟩ := append_of_mem listed
      obtain ⟨_, runEarlier, runEvent⟩ := runLater.split
      cases runEvent with
      | cons taken =>
        have runToEvent := runBefore.append (.cons cancelStep runEarlier)
        have distinctEvent : (drawsOf (before ++ .cancelled operationId leaseToken reading ::
            earlier)).Nodup := by
          rw [← cons_append, ← append_assoc] at distinct
          exact nodup_drawsOf_left distinct
        exact (releaseInv_of_run runToEvent distinctEvent).not_judged_of_cancelled
          (mem_append_right _ mem_cons_self) taken
  · intro operationId other firstToken firstReading between secondToken secondReading last
      different runClaims distinctAll noAdoption
    exact claimed_between inv different runClaims distinctAll noAdoption

/-! ## One attempt -/

/-- The UUIDs of one operation and its first owner. -/
def soleOperation : Uuid := ⟨"00000000-0000-4000-8000-00000000000a", by decide +kernel⟩

@[inherit_doc soleOperation]
def soleToken : Uuid := ⟨"00000000-0000-4000-8000-00000000000b", by decide +kernel⟩

/-- The one target of the operation. -/
def soleTarget : SessionReleaseTarget :=
  ⟨"s", "g", .rowMustBeAbsent, by decide +kernel, by decide +kernel⟩

/-- The journal with the operation. -/
def soleJournal : ReleaseJournal :=
  ⟨[⟨soleOperation, 5, some ⟨soleToken, 120000⟩⟩], [⟨soleOperation, soleTarget⟩]⟩

/-- The system in which the operation's first owner is in its attempt. -/
def soleAttempt (program : ReleaseProgram Unit) : ReleaseSystem Unit :=
  ⟨soleJournal, noOwners, [.attempt .owned soleOperation soleToken program]⟩

/-- Surroundings in which everything works. -/
def obliging : Surroundings Unit := ⟨some 0, false, .ok (), .confirmed⟩

/-- A request of the attempt that leaves the journal as it is. -/
theorem soleAttempt_step (request : ReleaseRequest)
    {next : ReleaseAnswer Unit request → ReleaseProgram Unit} (given : ReleaseAnswer Unit request)
    {event : ReleaseEvent} (served : (soleAttempt (.ask request next)).serve obliging request =
      (given, soleJournal, event)) :
    ReleaseStep (soleAttempt (.ask request next)) event (soleAttempt (next given)) :=
  .served obliging (rfl : (soleAttempt (.ask request next)).threads[0]? = some _) served

/-- The events up to the fence. -/
def soleEvents : List ReleaseEvent :=
  [.journaled soleOperation soleToken (some 0), .internal none, .internal (some 0),
    .internal (some 0), .internal none, .internal none, .internal (some 0)]

/-- The attempt reaches the fence. -/
theorem soleAttempt_run : ∃ next, Run ReleaseStep (.initial noOwners) soleEvents
    (soleAttempt (.ask (.fenceOne soleOperation soleToken soleTarget) next)) := by
  have journaled : (⟨[], []⟩ : ReleaseJournal).insertPendingReleases [soleTarget] 5 (some 0)
      soleOperation soleToken =
        .ok (some ⟨soleOperation, soleToken, 120000, 1⟩, soleJournal) := by decide +kernel
  refine ⟨?_, .cons (.destroyed noOwners journaled) ?_⟩
  rotate_left
  · refine .cons (.beganOwned (rfl : [ReleaseThread.receipt _][0]? = some _)) ?_
    refine .cons (soleAttempt_step (.renewLease soleOperation soleToken) (.ok 120000) rfl) ?_
    refine .cons (soleAttempt_step (.checkLease soleOperation soleToken) (.ok ()) rfl) ?_
    refine .cons (soleAttempt_step (.listTargets soleOperation) (.ok [soleTarget]) rfl) ?_
    refine .cons (soleAttempt_step (.preflight [soleTarget]) (.ok ()) rfl) ?_
    refine .cons (soleAttempt_step (.renewLease soleOperation soleToken) (.ok 120000) rfl) ?_
    exact .nil _

/-- There a release goes out, under the lease and for a session without owners. -/
theorem release_journal_safe_at_fence :
    ∃ next after, ReleaseStep
        (soleAttempt (.ask (.fenceOne soleOperation soleToken soleTarget) next))
        (.judged soleOperation soleToken soleTarget .confirmed (some 0)) after ∧
      soleJournal.Leased soleOperation soleToken 0 ∧ noOwners.Unreferenced "s" := by
  obtain ⟨next, run⟩ := soleAttempt_run
  have step := @soleAttempt_step (.fenceOne soleOperation soleToken soleTarget) next
    (.ok (.cas .confirmed)) (.judged soleOperation soleToken soleTarget .confirmed (some 0)) rfl
  obtain ⟨_, isNow, leased, -, -, released⟩ := (release_journal_safe run (by decide +kernel)).1
    _ _ _ _ _ _ step
  cases isNow
  exact ⟨next, _, step, leased, (released (by decide)).1⟩

end HydraTerm.Shell
