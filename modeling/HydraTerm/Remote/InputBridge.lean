import HydraTerm.Lib.Utf8
import HydraTerm.Remote.TerminalFrame

/-!
# Input from the browser to the daemon

The browser encodes what is typed, cuts it into frames and puts them on the data channel. The agent
takes one message after the other: it decodes the frame, asks for the connection's authority, lets
the bridge check the frame and count it, and hands the payload to the daemon backend, which makes a
string of it and queues one `Write` for the session.

A well-formed string is here its list of characters. What the agent cannot decide by itself is part of
a delivery: the readings of its clock, and whether the request queue takes the line.
-/

namespace HydraTerm.Remote

open Lib

/-! ## The browser -/

/-- The fields of a `RemoteSession` that its input reads. -/
structure RemoteSession where
  authenticated : Bool
  attachedChannel : Option Nat

/-- `sendInputPayloadBatch`: the frames that go to the transport as one batch. -/
def sendInputPayloadBatch (channel : Nat) (payloads : List (List UInt8)) :
    Except Nat (List (List UInt8)) := do
  let frames ← payloads.mapM (encodeInputFrames channel)
  .ok frames.flatten

/-- `sendInputBatch`. -/
def sendInputBatch (channel : Nat) (bytes : List UInt8) : Except Nat (List (List UInt8)) :=
  sendInputPayloadBatch channel [bytes]

namespace RemoteSession

variable (session : RemoteSession)

/-- `sendInputBytes`. -/
def sendInputBytes (data : List Char) : Except Nat (List (List UInt8)) :=
  if !session.authenticated then .ok []
  else
    match session.attachedChannel with
    | none => .ok []
    | some channel => sendInputBatch channel (Utf8.encode data)

/-- `sendText`. -/
def sendText (text : List Char) : Except Nat (List (List UInt8)) :=
  if text.isEmpty then .ok [] else session.sendInputBytes text

/-- `sendRawInput`. -/
def sendRawInput (bytes : List UInt8) : Except Nat (List (List UInt8)) :=
  if !session.authenticated then .ok []
  else
    match session.attachedChannel with
    | none => .ok []
    | some channel => sendInputBatch channel bytes

end RemoteSession

/-! ## The rate limiter -/

/-- `InputRateLimiter`. -/
structure InputRateLimiter where
  capacity : Nat
  refillPerSec : Nat
  tokens : Nat
  lastMs : Option Nat
  deriving DecidableEq

/-- The largest `u64`, where its arithmetic saturates. -/
def u64Max : Nat := 2 ^ 64 - 1

/-- What `saturating_mul` and `saturating_add` make of their exact result. -/
def saturatingU64 (exact : Nat) : Nat := min exact u64Max

namespace InputRateLimiter

/-- `InputRateLimiter::new`. -/
def new (capacity refillPerSec : Nat) : InputRateLimiter := ⟨capacity, refillPerSec, capacity, none⟩

/-- `InputRateLimiter::default`. -/
def default : InputRateLimiter := new (1024 * 1024) (256 * 1024)

/-- The refill at the beginning of `allow`. -/
def refill (limiter : InputRateLimiter) (nowMs : Nat) : InputRateLimiter :=
  match limiter.lastMs with
  | none => { limiter with lastMs := some nowMs }
  | some prev =>
    let elapsedMs := nowMs - prev
    if elapsedMs > 0 then
      let added := saturatingU64 (limiter.refillPerSec * elapsedMs) / 1000
      { limiter with
        tokens := min (saturatingU64 (limiter.tokens + added)) limiter.capacity
        lastMs := some nowMs }
    else limiter

/-- `allow`. -/
def allow (limiter : InputRateLimiter) (bytes nowMs : Nat) : Bool × InputRateLimiter :=
  let limiter := limiter.refill nowMs
  if bytes ≤ limiter.tokens then (true, { limiter with tokens := limiter.tokens - bytes })
  else (false, limiter)

end InputRateLimiter

/-! ## The daemon backend -/

/-- `DAEMON_PROTOCOL_VERSION`. -/
def daemonProtocolVersion : Nat := 3

/-- `DaemonSessionOutputRoute`. -/
inductive DaemonSessionOutputRoute
  | legacy
  | pending (generation : Nat)
  | confirmed (generation : Nat)

/-- `DaemonMutationRoute`. -/
inductive DaemonMutationRoute
  | pending (generation : Nat)
  | confirmed (generation : Nat)
  | unavailable

/-- `DaemonOutputRoutes`. -/
structure DaemonOutputRoutes where
  outputGenerationEcho : Bool
  sessions : String → Option DaemonSessionOutputRoute

/-- `mutation_route`. -/
def DaemonOutputRoutes.mutationRoute (routes : DaemonOutputRoutes) (sessionId : String) :
    DaemonMutationRoute :=
  if !routes.outputGenerationEcho then .unavailable
  else
    match routes.sessions sessionId with
    | some (.pending generation) => .pending generation
    | some (.confirmed generation) => .confirmed generation
    | some .legacy | none => .unavailable

/-- `AttachedPtyGeneration`. -/
structure AttachedPtyGeneration where
  outputGeneration : Nat
  ptyGeneration : String

/-- The fields of a `SessionCache` that a mutation reads. -/
structure SessionCache where
  liveGenerations : String → Option AttachedPtyGeneration
  daemonProtocolVersion : Option Nat
  generationConditionalMutations : Bool
  attachmentAwareConditionalKill : Bool

namespace SessionCache

/-- `generation_conditional_mutations_allowed`. -/
def generationConditionalMutationsAllowed (cache : SessionCache) : Bool :=
  cache.daemonProtocolVersion = some Remote.daemonProtocolVersion &&
    cache.generationConditionalMutations && cache.attachmentAwareConditionalKill

/-- `generation_for_mutation`. -/
def generationForMutation (cache : SessionCache) (sessionId : String) (outputGeneration : Nat) :
    Option String :=
  if cache.generationConditionalMutationsAllowed then
    ((cache.liveGenerations sessionId).filter (·.outputGeneration = outputGeneration)).map
      (·.ptyGeneration)
  else none

end SessionCache

/-- `ClientRequest::Write`. -/
structure WriteRequest where
  id : String
  expectedGeneration : String
  data : List Char

/-- The fields of a `DaemonBackend` that its input reads, and the lines it has queued. A poisoned
session cache is `none`. -/
structure DaemonBackend where
  outputRoutes : DaemonOutputRoutes
  sessions : Option SessionCache
  queued : List WriteRequest

/-- `input`. The queue takes the line or refuses it. -/
def DaemonBackend.input (backend : DaemonBackend) (id : String) (bytes : List UInt8)
    (queueTakes : Bool) : Except String Unit × DaemonBackend :=
  let data := Utf8.decodeLossy bytes
  match backend.outputRoutes.mutationRoute id with
  | .confirmed outputGeneration =>
    match backend.sessions with
    | none => (.error "terminal generation unavailable", backend)
    | some sessions =>
      match sessions.generationForMutation id outputGeneration with
      | none => (.error "terminal generation unavailable", backend)
      | some generation =>
        if queueTakes then
          (.ok (), { backend with queued := backend.queued ++ [⟨id, generation, data⟩] })
        else (.error "daemon connection unavailable", backend)
  | _ => (.error "terminal attach generation unconfirmed", backend)

/-! ## The bridge -/

/-- A `TerminalReply::Error`. -/
structure ReplyError where
  code : String
  message : String

/-- The fields of a `TerminalBridge` that its input reads. An attachment is its session id. -/
structure TerminalBridge where
  backend : DaemonBackend
  attaches : UInt16 → Option String
  revoked : Bool
  inputRate : InputRateLimiter

/-- `handle_input_at`. -/
def TerminalBridge.handleInputAt (bridge : TerminalBridge) (channel : UInt16) (bytes : List UInt8)
    (nowMs : Nat) (queueTakes : Bool) : List ReplyError × TerminalBridge :=
  if bridge.revoked then ([⟨"revoked", "device revoked"⟩], bridge)
  else if bytes.length > maxInputPayload then
    ([⟨"input_too_large", "terminal input frame exceeds the size cap"⟩], bridge)
  else
    let (allowed, inputRate) := bridge.inputRate.allow bytes.length nowMs
    let bridge := { bridge with inputRate := inputRate }
    if !allowed then
      ([⟨"input_rate_limited", "terminal input rate limit exceeded"⟩], bridge)
    else
      match bridge.attaches channel with
      | some sessionId =>
        let (result, backend) := bridge.backend.input sessionId bytes queueTakes
        let bridge := { bridge with backend := backend }
        match result with
        | .error message => ([⟨"input_failed", message⟩], bridge)
        | .ok () => ([], bridge)
      | none => ([⟨"not_attached", "input for unknown channel"⟩], bridge)

/-! ## The connection -/

/-- The fields of a `ConnectionAuthorityGate` that a permit reads. -/
structure ConnectionAuthorityGate where
  expiresAtMs : Option Nat
  revocationObserved : Bool

/-- `permits_at`, and the check of `with_permit_at`. -/
def ConnectionAuthorityGate.permitsAt (gate : ConnectionAuthorityGate) (nowMs : Nat) : Bool :=
  if gate.revocationObserved then false
  else gate.expiresAtMs.any (nowMs < ·)

/-- The agent's end of the data channel. -/
structure Peer where
  bridge : Option TerminalBridge
  authority : ConnectionAuthorityGate

/-- What the agent does not decide when a message comes: the clock when it comes, when the bridge is
locked and when the bridge counts it, and whether the request queue takes its line. -/
structure Delivery where
  receivedMs : Nat
  permittedMs : Nat
  nowMs : Nat
  queueTakes : Bool

/-- `TerminalInputOutcome`, and a message that is no input frame. -/
inductive TerminalInputOutcome
  | handled (outbound : List ReplyError)
  | authorityEnded
  | dropped

/-- `handle_binary_terminal_input`. -/
def Peer.handleBinaryTerminalInput (peer : Peer) (channel : UInt16) (bytes : List UInt8)
    (delivery : Delivery) : TerminalInputOutcome × Peer :=
  if !peer.authority.permitsAt delivery.receivedMs then (.authorityEnded, peer)
  else if !peer.authority.permitsAt delivery.permittedMs then (.authorityEnded, peer)
  else
    match peer.bridge with
    | none => (.handled [], peer)
    | some bridge =>
      let (outbound, bridge) :=
        bridge.handleInputAt channel bytes delivery.nowMs delivery.queueTakes
      (.handled outbound, { peer with bridge := some bridge })

/-- `on_message`, for a binary message. -/
def Peer.onMessage (peer : Peer) (message : List UInt8) (delivery : Delivery) :
    TerminalInputOutcome × Peer :=
  match decode message with
  | .ok frame =>
    if frame.kind = .terminalInput then
      peer.handleBinaryTerminalInput frame.channel frame.payload delivery
    else (.dropped, peer)
  | .error _ => (.dropped, peer)

/-- Messages that come one after the other. -/
def Peer.onMessages (peer : Peer) : List (List UInt8 × Delivery) → List TerminalInputOutcome × Peer
  | [] => ([], peer)
  | (message, delivery) :: later =>
    let (outcome, next) := peer.onMessage message delivery
    let (outcomes, last) := next.onMessages later
    (outcome :: outcomes, last)

end HydraTerm.Remote
