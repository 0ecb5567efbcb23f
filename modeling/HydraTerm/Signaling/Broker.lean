import HydraTerm.Lib.Programs

/-!
# The signaling broker

The broker passes opaque offers, answers and ICE candidates between two devices of one account. It
keeps no state: every call is a sequence of reads and writes of a shared store, each of them atomic,
and between two of them any other call may run, on this replica or on another.

A call is therefore a program over the store's operations. What it reads from its surroundings (the
clock, the random part of a new id, whether its caller has gone, what became of a wait) is a request
too, and may be answered in any way.

The store is the port of the broker: an answer is stored together with the status `answered`, a
status by itself. The columns that no call reads (labels, update times, the times and ids of audit
events) are left out.
-/

namespace HydraTerm.Signaling

open Lib

/-! ## Records -/

/-- `SignalingStatus`. -/
inductive SignalingStatus
  | pending
  | answered
  | cancelled
  | expired
  deriving DecidableEq

/-- The statuses a session does not come back from. -/
def SignalingStatus.isTerminal : SignalingStatus → Bool
  | .cancelled | .expired => true
  | .pending | .answered => false

/-- The kinds of a device. -/
inductive DeviceKind
  | desktop
  | mobile
  | browser
  deriving DecidableEq

/-- The algorithms of a browser's key. -/
inductive KeyAlgorithm
  | ed25519
  | p256
  deriving DecidableEq

/-- An enrolled device. -/
structure Device where
  deviceId : String
  accountId : String
  publicKey : String
  publicKeyAlg : Option KeyAlgorithm
  kind : DeviceKind
  revoked : Bool
  deriving DecidableEq

/-- A candidate and its place in the session's sequence. -/
structure IceCandidateBlob where
  sender : String
  candidate : String
  seq : Nat
  deriving DecidableEq

/-- A session without its candidates. -/
structure SignalingSessionHeader where
  sessionId : String
  accountId : String
  sourceDeviceId : String
  targetDeviceId : String
  offer : String
  answer : Option String
  status : SignalingStatus
  createdAtMs : Nat
  expiresAtMs : Nat
  deriving DecidableEq

/-- A session. -/
structure SignalingSession extends SignalingSessionHeader where
  ice : List IceCandidateBlob
  deriving DecidableEq

/-- What a target sees of an offer. -/
structure PendingOffer where
  sessionId : String
  sourceDeviceId : String
  offer : String
  createdAtMs : Nat
  expiresAtMs : Nat
  deriving DecidableEq

/-- The peer's candidates, and the cursor over those of both parties. -/
structure PeerIceSince where
  candidates : List IceCandidateBlob
  nextSince : Nat
  deriving DecidableEq

/-- A snapshot of a session's progress for one party. -/
structure SignalingProgress extends PeerIceSince where
  accountId : String
  sourceDeviceId : String
  targetDeviceId : String
  status : SignalingStatus
  expiresAtMs : Nat
  answer : Option String

/-- The kinds of audit event that the broker writes. -/
inductive AuditKind
  | created
  | answered
  | ice
  | cancelled
  | refused
  deriving DecidableEq

/-- An audit event. -/
structure AuditEvent where
  accountId : String
  kind : AuditKind
  deviceId : Option String
  detail : String
  deriving DecidableEq

/-- `AppendIceResult`. -/
inductive AppendIceResult
  | appended (seq : Nat)
  | existing (seq : Nat)
  | sessionNotFound
  | tooManyCandidates

/-! ## The store -/

/-- The tables the broker uses. -/
structure SignalingStore where
  devices : List Device
  sessions : List SignalingSession
  audits : List AuditEvent
  deriving DecidableEq

namespace SignalingStore

variable (store : SignalingStore) (session : SignalingSession) (sessionId : String)

/-- A session by its id. -/
def session? : Option SignalingSession :=
  store.sessions.find? (·.sessionId = sessionId)

/-- Change one session. -/
def update (change : SignalingSession → SignalingSession) : SignalingStore :=
  { store with
    sessions := store.sessions.map fun session =>
      if session.sessionId = sessionId then change session else session }

/-- Store an answer and the status that goes with it. -/
def setAnswer (sessionId answer : String) : SignalingStore :=
  store.update sessionId fun session => { session with answer := some answer, status := .answered }

/-- Store a status. -/
def setStatus (status : SignalingStatus) : SignalingStore :=
  store.update sessionId fun session => { session with status := status }

/-- Store a new session. Ids are random, so one that is stored already is never drawn again. -/
def createSession : SignalingStore :=
  if (store.session? session.sessionId).isSome then store
  else { store with sessions := session :: store.sessions }

/-- The highest sequence number of a session. -/
def lastSeq : Nat := (session.ice.map (·.seq)).foldl max 0

/-- Append a candidate, unless it is there already or there are too many. -/
def appendIce (sessionId sender candidate : String) (maxCandidates : Nat) :
    AppendIceResult × SignalingStore :=
  match store.session? sessionId with
  | none => (.sessionNotFound, store)
  | some session =>
    match session.ice.find? fun blob => blob.sender = sender && blob.candidate = candidate with
    | some known => (.existing known.seq, store)
    | none =>
      if session.ice.length ≥ maxCandidates then (.tooManyCandidates, store)
      else
        (.appended (lastSeq session + 1), store.update sessionId fun session =>
          { session with ice := session.ice ++ [⟨sender, candidate, lastSeq session + 1⟩] })

/-- The other party's candidates after a cursor. -/
def peerIceSince (callerDeviceId : String) (since : Nat) : PeerIceSince :=
  ⟨session.ice.filter fun blob => blob.sender ≠ callerDeviceId && decide (since < blob.seq),
    lastSeq session⟩

/-- A session's progress in one read. -/
def progress? (sessionId callerDeviceId : String) (since : Nat) (answerSeen : Bool) :
    Option SignalingProgress :=
  (store.session? sessionId).map fun session =>
    { toPeerIceSince := peerIceSince session callerDeviceId since
      accountId := session.accountId
      sourceDeviceId := session.sourceDeviceId
      targetDeviceId := session.targetDeviceId
      status := session.status
      expiresAtMs := session.expiresAtMs
      answer := if answerSeen then none else session.answer }

/-- The pending offers for a device, oldest first. -/
def pendingOffers (accountId deviceId : String) : List PendingOffer :=
  ((store.sessions.filter fun session =>
      session.accountId = accountId && session.targetDeviceId = deviceId &&
        session.status = .pending).insertionSort
    fun one other => one.createdAtMs ≤ other.createdAtMs).map
    fun session => ⟨session.sessionId, session.sourceDeviceId, session.offer, session.createdAtMs,
      session.expiresAtMs⟩

end SignalingStore

/-! ## Requests -/

/-- What a wait for a hint can come to. -/
inductive WakeOutcome
  | hint
  | timeout
  | unavailable
  | aborted

/-- What a call asks of the store and of its surroundings. -/
inductive BrokerAsk
  | getDevice (deviceId : String)
  | appendAudit (event : AuditEvent)
  | createSession (session : SignalingSession)
  | getSession (sessionId : String)
  | getSessionHeader (sessionId : String)
  | listPendingOffers (accountId deviceId : String)
  | getPeerIceSince (sessionId callerDeviceId : String) (since : Nat)
  | getProgress (sessionId callerDeviceId : String) (since : Nat) (answerSeen : Bool)
  | setAnswer (sessionId answer : String)
  | setStatus (sessionId : String) (status : SignalingStatus)
  | appendIce (sessionId sender candidate : String) (maxCandidates : Nat)
  | nowMs
  | randomUuid
  | aborted
  | subscribe
  | overdue
  | wait

/-- The answers. -/
def BrokerAnswer : BrokerAsk → Type
  | .getDevice _ => Option Device
  | .appendAudit _ | .createSession _ => Unit
  | .getSession _ => Option SignalingSession
  | .getSessionHeader _ => Option SignalingSessionHeader
  | .listPendingOffers _ _ => List PendingOffer
  | .getPeerIceSince _ _ _ => PeerIceSince
  | .getProgress _ _ _ _ => Option SignalingProgress
  | .setAnswer _ _ | .setStatus _ _ => Unit
  | .appendIce _ _ _ _ => AppendIceResult
  | .nowMs => Nat
  | .randomUuid => String
  | .aborted | .subscribe | .overdue => Bool
  | .wait => WakeOutcome

/-! ## Results -/

/-- `SignalRefusal`, with the error a blob with private-key material is refused with. -/
inductive SignalRefusal
  | deviceNotEnrolled
  | revoked
  | crossAccount
  | notAParty
  | targetInvalid
  | sessionNotFound
  | expired
  | cancelled
  | tooLarge
  | tooManyCandidates
  | notSource
  | targetMismatch
  | sourceInvalid
  | contentBlindViolation
  deriving DecidableEq

/-- `SignalProgressReply`. -/
structure SignalProgressReply where
  status : SignalingStatus
  expiresAtMs : Nat
  answer : Option String
  candidates : List (String × Nat)
  nextSince : Nat
  deriving DecidableEq

/-- What a call returns or throws. -/
inductive CallResult
  | refused (refusal : SignalRefusal)
  | created (sessionId : String) (expiresAtMs : Nat)
  | offers (offers : List PendingOffer)
  | session (session : SignalingSession)
  | binding (header : SignalingSessionHeader)
  | answered
  | candidate (seq : Nat)
  | candidates (since : PeerIceSince)
  | progress (reply : SignalProgressReply)
  | nothing
  | cancelled
  deriving DecidableEq

/-- A call. -/
abbrev BrokerProgram := Program BrokerAsk BrokerAnswer CallResult

/-! ## Checks -/

/-- `SESSION_TTL_MS`. -/
def sessionTtlMs : Nat := 120000

/-- `MAX_OFFER_BYTES` and `MAX_ANSWER_BYTES`. -/
def maxOfferBytes : Nat := 16384

@[inherit_doc maxOfferBytes]
def maxAnswerBytes : Nat := 16384

/-- `MAX_ICE_BYTES`. -/
def maxIceBytes : Nat := 2048

/-- `MAX_ICE_PER_SESSION`. -/
def maxIcePerSession : Nat := 128

/-- The end of a private key's first line, after any number of capitals and blanks. -/
def privateKeyEnds : List Char → Bool
  | [] => false
  | char :: rest =>
    "PRIVATE KEY-----".toList.isPrefixOf (char :: rest) ||
      ((('A' ≤ char && char ≤ 'Z') || char = ' ') && privateKeyEnds rest)

/-- `/-----BEGIN [A-Z ]*PRIVATE KEY-----/`. -/
def hasPrivateKey : List Char → Bool
  | [] => false
  | char :: rest =>
    ("-----BEGIN ".toList.isPrefixOf (char :: rest) &&
        privateKeyEnds ((char :: rest).drop "-----BEGIN ".toList.length)) || hasPrivateKey rest

/-- `assertBlob`: the refusal, if there is one. -/
def blobRefusal (value : String) (maxBytes : Nat) : Option SignalRefusal :=
  if value.isEmpty then some .tooLarge
  else if value.utf8ByteSize > maxBytes then some .tooLarge
  else if hasPrivateKey value.toList then some .contentBlindViolation
  else none

/-- `enrolledDevice` with the refusals of `requireUsableDevice`. -/
def enrolledDevice (accountId : String) : Option Device → Except SignalRefusal Device
  | none => .error .deviceNotEnrolled
  | some device =>
    if device.accountId ≠ accountId then .error .crossAccount
    else if device.revoked then .error .revoked
    else .ok device

/-- A browser with a key that can prove possession. -/
def Device.isProvenBrowser (device : Device) : Bool :=
  device.kind = .browser && !device.publicKey.isEmpty && device.publicKeyAlg.isSome

/-! ## The parts of a call -/

/-- `assertBlob`, and how to go on. -/
def assertBlob (value : String) (maxBytes : Nat) (next : BrokerProgram) : BrokerProgram :=
  match blobRefusal value maxBytes with
  | some refusal => .done (.refused refusal)
  | none => next

section

variable (accountId deviceId : String)

/-- `requireUsableDevice`, and how to go on. -/
def requireUsableDevice (next : Device → BrokerProgram) : BrokerProgram :=
  .ask (.getDevice deviceId) fun found =>
    match enrolledDevice accountId found with
    | .error refusal => .done (.refused refusal)
    | .ok device => next device

/-- `requireLive` on any projection of a session. The clock is read only if the status allows it,
and a session that has run out is marked so. -/
def requireLive {α : Type} (sessionId : String) (status : α → SignalingStatus)
    (expiresAtMs : α → Nat) (found : Option α) (next : α → BrokerProgram) : BrokerProgram :=
  match found with
  | none => .done (.refused .sessionNotFound)
  | some session =>
    match status session with
    | .cancelled => .done (.refused .cancelled)
    | .expired => .done (.refused .expired)
    | .pending | .answered => .ask .nowMs fun (now : Nat) =>
      if expiresAtMs session ≤ now then
        .ask (.setStatus sessionId .expired) fun _ => .done (.refused .expired)
      else next session

/-- `liveSessionHeader`. -/
def liveSessionHeader (sessionId : String) (next : SignalingSessionHeader → BrokerProgram) :
    BrokerProgram :=
  .ask (.getSessionHeader sessionId) fun found =>
    requireLive sessionId (·.status) (·.expiresAtMs) found next

/-- `liveSession`. -/
def liveSession (sessionId : String) (next : SignalingSession → BrokerProgram) : BrokerProgram :=
  .ask (.getSession sessionId) fun found =>
    requireLive sessionId (·.status) (·.expiresAtMs) found next

/-- The account check and `assertParty`. -/
def partyRefusal (owner source target : String) : Option SignalRefusal :=
  if owner ≠ accountId then some .crossAccount
  else if deviceId ≠ source ∧ deviceId ≠ target then some .notAParty
  else none

/-- Refuse, or go on. -/
def orRefuse (refusal : Option SignalRefusal) (next : BrokerProgram) : BrokerProgram :=
  match refusal with
  | some refusal => .done (.refused refusal)
  | none => next

/-- `audit`, and then the result. -/
def auditThen (accountId : String) (kind : AuditKind) (deviceId : Option String) (detail : String)
    (result : CallResult) : BrokerProgram :=
  .ask (.appendAudit ⟨accountId, kind, deviceId, detail⟩) fun _ => .done result

/-! ## The calls -/

/-- The name a refusal of the target is audited under. -/
def SignalRefusal.targetDetail : SignalRefusal → String
  | .deviceNotEnrolled => "target_device_not_enrolled"
  | .crossAccount => "target_cross_account"
  | .revoked => "target_revoked"
  | _ => "target_target_invalid"

/-- Why a device cannot be the target of an offer. -/
def targetRefusal (accountId : String) (found : Option Device) : Option SignalRefusal :=
  match enrolledDevice accountId found with
  | .error refusal => some refusal
  | .ok target => if target.kind = .desktop then none else some .targetInvalid

/-- `createSession`. -/
def createSession (accountId sourceDeviceId targetDeviceId offer : String) : BrokerProgram :=
  if sourceDeviceId = targetDeviceId then
    auditThen accountId .refused none "target_invalid" (.refused .targetInvalid)
  else assertBlob offer maxOfferBytes <|
    requireUsableDevice accountId sourceDeviceId fun source =>
      if !source.isProvenBrowser then
        auditThen accountId .refused (some sourceDeviceId) "source_invalid"
          (.refused .sourceInvalid)
      else .ask (.getDevice targetDeviceId) fun found =>
        match targetRefusal accountId found with
        | some refusal =>
          auditThen accountId .refused (some targetDeviceId) refusal.targetDetail
            (.refused .targetInvalid)
        | none => .ask .nowMs fun (now : Nat) => .ask .randomUuid fun (uuid : String) =>
          let session : SignalingSession :=
            { sessionId := "sig_" ++ uuid
              accountId := accountId
              sourceDeviceId := sourceDeviceId
              targetDeviceId := targetDeviceId
              offer := offer
              answer := none
              status := .pending
              createdAtMs := now
              expiresAtMs := now + sessionTtlMs
              ice := [] }
          .ask (.createSession session) fun _ =>
            auditThen accountId .created (some sourceDeviceId) session.sessionId
              (.created session.sessionId session.expiresAtMs)

/-- `pendingForTarget`, and how to go on. -/
def pendingForTargetThen (next : List PendingOffer → BrokerProgram) : BrokerProgram :=
  requireUsableDevice accountId deviceId fun _ =>
    .ask (.listPendingOffers accountId deviceId) fun (all : List PendingOffer) =>
      .ask .nowMs fun (now : Nat) => next (all.filter fun offer => now < offer.expiresAtMs)

/-- `pendingForTarget`. -/
def pendingForTarget : BrokerProgram :=
  pendingForTargetThen accountId deviceId fun offers => .done (.offers offers)

end

/-- The loop of `pendingForTargetWait`. Its deadline ends it after some number of rounds. -/
def pendingForTargetWait (accountId deviceId : String) : Nat → BrokerProgram
  | 0 => .done (.offers [])
  | rounds + 1 => .ask .aborted fun
    | true => .done (.offers [])
    | false => .ask .subscribe fun subscribed =>
      pendingForTargetThen accountId deviceId fun offers => .ask .aborted fun
        | true => .done (.offers [])
        | false =>
          if offers ≠ [] then .done (.offers offers)
          else match subscribed with
            | false => .done (.offers [])
            | true => .ask .overdue fun
              | true => .done (.offers [])
              | false => .ask .wait fun
                | .hint => pendingForTargetWait accountId deviceId rounds
                | _ => .done (.offers [])

section

variable (accountId deviceId sessionId : String) (since : Nat) (answerSeen : Bool)

/-- `getSession`. -/
def getSession : BrokerProgram :=
  requireUsableDevice accountId deviceId fun _ => liveSession sessionId fun session =>
    orRefuse (partyRefusal accountId deviceId session.accountId session.sourceDeviceId
      session.targetDeviceId) (.done (.session session))

/-- The role checks of `validateSignalBinding`. -/
def bindingRefusal (accountId sourceDeviceId targetDeviceId : String)
    (header : SignalingSessionHeader) : Option SignalRefusal :=
  if header.accountId ≠ accountId then some .crossAccount
  else if header.sourceDeviceId ≠ sourceDeviceId then some .notSource
  else if header.targetDeviceId ≠ targetDeviceId then some .targetMismatch
  else none

/-- `validateSignalBinding`. -/
def validateSignalBinding (accountId sessionId sourceDeviceId targetDeviceId : String) :
    BrokerProgram :=
  requireUsableDevice accountId sourceDeviceId fun source =>
    if !source.isProvenBrowser then .done (.refused .sourceInvalid)
    else requireUsableDevice accountId targetDeviceId fun target =>
      if target.kind ≠ .desktop then .done (.refused .targetInvalid)
      else liveSessionHeader sessionId fun header =>
        orRefuse (bindingRefusal accountId sourceDeviceId targetDeviceId header)
          (.done (.binding header))

/-- `answer`. Only the target may answer. -/
def answer (accountId deviceId sessionId blob : String) : BrokerProgram :=
  assertBlob blob maxAnswerBytes <| requireUsableDevice accountId deviceId fun _ =>
    liveSessionHeader sessionId fun header =>
      if header.accountId ≠ accountId then .done (.refused .crossAccount)
      else if deviceId ≠ header.targetDeviceId then .done (.refused .notAParty)
      else .ask (.setAnswer sessionId blob) fun _ =>
        auditThen accountId .answered (some deviceId) sessionId .answered

/-- `addIce`. -/
def addIce (accountId deviceId sessionId blob : String) : BrokerProgram :=
  assertBlob blob maxIceBytes <| requireUsableDevice accountId deviceId fun _ =>
    liveSessionHeader sessionId fun header =>
      orRefuse (partyRefusal accountId deviceId header.accountId header.sourceDeviceId
        header.targetDeviceId) <|
      .ask (.appendIce sessionId deviceId blob maxIcePerSession) fun
        | .sessionNotFound => .done (.refused .sessionNotFound)
        | .tooManyCandidates => .done (.refused .tooManyCandidates)
        | .existing seq => .done (.candidate seq)
        | .appended seq => auditThen accountId .ice (some deviceId) sessionId (.candidate seq)

/-- `iceSince`. -/
def iceSince : BrokerProgram :=
  requireUsableDevice accountId deviceId fun _ => liveSessionHeader sessionId fun header =>
    orRefuse (partyRefusal accountId deviceId header.accountId header.sourceDeviceId
      header.targetDeviceId) <|
    .ask (.getPeerIceSince sessionId deviceId since) fun peer => .done (.candidates peer)

/-- The reply of `progress`. -/
def SignalingProgress.reply (snapshot : SignalingProgress) : SignalProgressReply where
  status := snapshot.status
  expiresAtMs := snapshot.expiresAtMs
  answer := snapshot.answer
  candidates := snapshot.candidates.map fun blob => (blob.candidate, blob.seq)
  nextSince := snapshot.nextSince

/-- `progress`, and how to go on. -/
def progressThen (next : SignalProgressReply → BrokerProgram) : BrokerProgram :=
  requireUsableDevice accountId deviceId fun _ =>
    .ask (.getProgress sessionId deviceId since answerSeen) fun found =>
      requireLive sessionId (·.status) (·.expiresAtMs) found fun snapshot =>
        orRefuse (partyRefusal accountId deviceId snapshot.accountId snapshot.sourceDeviceId
          snapshot.targetDeviceId) (next snapshot.reply)

/-- `progress`. -/
def progress : BrokerProgram :=
  progressThen accountId deviceId sessionId since answerSeen fun reply => .done (.progress reply)

/-- `hasProgressDelta`. -/
def hasProgressDelta (reply : SignalProgressReply) (since : Nat) : Bool :=
  reply.answer.isSome || !reply.candidates.isEmpty || decide (since < reply.nextSince)

/-- The last read of `progressWait`: nothing is returned to a caller that has gone. -/
def finalProgress : BrokerProgram :=
  progressThen accountId deviceId sessionId since answerSeen fun reply => .ask .aborted fun
    | true => .done .nothing
    | false => .done (.progress reply)

/-- The loop of `progressWait`. Its deadline ends it after some number of rounds. -/
def progressWait (accountId deviceId sessionId : String) (since : Nat) (answerSeen : Bool) :
    Nat → BrokerProgram
  | 0 => .done .nothing
  | rounds + 1 => .ask .aborted fun
    | true => .done .nothing
    | false => .ask .subscribe fun subscribed =>
      progressThen accountId deviceId sessionId since answerSeen fun reply => .ask .aborted fun
        | true => .done .nothing
        | false =>
          if hasProgressDelta reply since then .done (.progress reply)
          else match subscribed with
            | false => .done (.progress reply)
            | true => .ask .overdue fun
              | true => finalProgress accountId deviceId sessionId since answerSeen
              | false => .ask .wait fun
                | .hint => progressWait accountId deviceId sessionId since answerSeen rounds
                | .aborted => .done .nothing
                | _ => finalProgress accountId deviceId sessionId since answerSeen

/-- The part of `cancel` that has found the session. -/
def cancelFound (header : SignalingSessionHeader) : BrokerProgram :=
  orRefuse (partyRefusal accountId deviceId header.accountId header.sourceDeviceId
    header.targetDeviceId) <|
  .ask (.setStatus sessionId .cancelled) fun _ =>
    auditThen accountId .cancelled (some deviceId) sessionId .cancelled

/-- `cancel`. A session that is expired or cancelled can be cancelled again. -/
def cancel : BrokerProgram :=
  requireUsableDevice accountId deviceId fun _ =>
    .ask (.getSessionHeader sessionId) fun
      | none => .done (.refused .sessionNotFound)
      | some header => cancelFound accountId deviceId sessionId header

end

/-- The calls of the broker. A bounded wait is called with the number of rounds it gets to. -/
inductive BrokerCall
  | createSession (accountId sourceDeviceId targetDeviceId offer : String)
  | pendingForTarget (accountId deviceId : String)
  | pendingForTargetWait (accountId deviceId : String) (rounds : Nat)
  | getSession (accountId deviceId sessionId : String)
  | validateSignalBinding (accountId sessionId sourceDeviceId targetDeviceId : String)
  | answer (accountId deviceId sessionId blob : String)
  | addIce (accountId deviceId sessionId blob : String)
  | iceSince (accountId deviceId sessionId : String) (since : Nat)
  | progress (accountId deviceId sessionId : String) (since : Nat) (answerSeen : Bool)
  | progressWait (accountId deviceId sessionId : String) (since : Nat) (answerSeen : Bool)
      (rounds : Nat)
  | cancel (accountId deviceId sessionId : String)
  deriving DecidableEq

/-- The program of a call. -/
def BrokerCall.program : BrokerCall → BrokerProgram
  | .createSession accountId source target offer =>
    Signaling.createSession accountId source target offer
  | .pendingForTarget accountId deviceId => Signaling.pendingForTarget accountId deviceId
  | .pendingForTargetWait accountId deviceId rounds =>
    Signaling.pendingForTargetWait accountId deviceId rounds
  | .getSession accountId deviceId sessionId => Signaling.getSession accountId deviceId sessionId
  | .validateSignalBinding accountId sessionId source target =>
    Signaling.validateSignalBinding accountId sessionId source target
  | .answer accountId deviceId sessionId blob =>
    Signaling.answer accountId deviceId sessionId blob
  | .addIce accountId deviceId sessionId blob =>
    Signaling.addIce accountId deviceId sessionId blob
  | .iceSince accountId deviceId sessionId since =>
    Signaling.iceSince accountId deviceId sessionId since
  | .progress accountId deviceId sessionId since answerSeen =>
    Signaling.progress accountId deviceId sessionId since answerSeen
  | .progressWait accountId deviceId sessionId since answerSeen rounds =>
    Signaling.progressWait accountId deviceId sessionId since answerSeen rounds
  | .cancel accountId deviceId sessionId => Signaling.cancel accountId deviceId sessionId

end HydraTerm.Signaling
