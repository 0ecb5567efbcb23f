import HydraTerm.Remote.InputBridge

/-!
# Whether input arrives as it was typed

Every frame of an input becomes one `Write`, and the agent decodes every frame by itself. The writes
are therefore the text if no frame ends inside a character, and only then: a character of several
bytes that lies across a multiple of `MAX_INPUT_PAYLOAD` arrives as replacement characters.
-/

namespace HydraTerm.Remote

open Lib List

/-! ## What a frame needs -/

/-- The bridge has the session attached on a channel, with a confirmed route and a known generation. -/
structure TerminalBridge.Confirmed (bridge : TerminalBridge) (channel : UInt16)
    (sessionId generation : String) : Prop where
  live : bridge.revoked = false
  attached : bridge.attaches channel = some sessionId
  route : ∃ outputGeneration cache,
    bridge.backend.outputRoutes.mutationRoute sessionId = .confirmed outputGeneration ∧
    bridge.backend.sessions = some cache ∧
    cache.generationForMutation sessionId outputGeneration = some generation

/-- The bridge after a `Write` was queued. -/
def TerminalBridge.wrote (bridge : TerminalBridge) (inputRate : InputRateLimiter)
    (writes : List WriteRequest) : TerminalBridge :=
  { bridge with
    inputRate := inputRate
    backend := { bridge.backend with queued := bridge.backend.queued ++ writes } }

theorem TerminalBridge.Confirmed.wrote {bridge : TerminalBridge} {channel : UInt16}
    {sessionId generation : String} (confirmed : bridge.Confirmed channel sessionId generation)
    (inputRate : InputRateLimiter) (writes : List WriteRequest) :
    (bridge.wrote inputRate writes).Confirmed channel sessionId generation :=
  ⟨confirmed.live, confirmed.attached, confirmed.route⟩

/-- The limiter takes every one of the messages, in their order. -/
def InputRateLimiter.Admits : InputRateLimiter → List (List UInt8 × Delivery) → Prop
  | _, [] => True
  | limiter, (message, delivery) :: later =>
    (limiter.allow (message.length - headerLen) delivery.nowMs).1 = true ∧
      (limiter.allow (message.length - headerLen) delivery.nowMs).2.Admits later

/-- The connection has its authority at both checks, and the queue takes the line. -/
def Peer.Passes (peer : Peer) (delivery : Delivery) : Prop :=
  peer.authority.permitsAt delivery.receivedMs = true ∧
    peer.authority.permitsAt delivery.permittedMs = true ∧ delivery.queueTakes = true

/-! ## One frame -/

theorem encodeFrame_length {kind : FrameKind} {channel : Nat} {payload buf : List UInt8}
    (encoded : encodeFrame kind channel payload = .ok buf) :
    buf.length - headerLen = payload.length := by
  unfold encodeFrame at encoded
  split at encoded
  · cases encoded
  · cases encoded
    simp only [headerLen, length_append, length_cons, length_nil]
    omega

variable {peer : Peer} {bridge : TerminalBridge} {channel : Nat} {sessionId generation : String}

/-- A frame that nothing refuses becomes a `Write` of what it decodes to. -/
theorem Peer.onMessage_confirmed {piece message : List UInt8} {delivery : Delivery}
    (isBridge : peer.bridge = some bridge)
    (confirmed : bridge.Confirmed (UInt16.ofNat channel) sessionId generation)
    (encoded : encodeFrame .terminalInput channel piece = .ok message)
    (short : piece.length ≤ maxInputPayload) (passes : peer.Passes delivery)
    (allowed : (bridge.inputRate.allow piece.length delivery.nowMs).1 = true) :
    peer.onMessage message delivery =
      (.handled [], { peer with
        bridge := some (bridge.wrote (bridge.inputRate.allow piece.length delivery.nowMs).2
          [⟨sessionId, generation, Utf8.decodeLossy piece⟩]) }) := by
  obtain ⟨received, permitted, takes⟩ := passes
  obtain ⟨_, _, isRoute, isCache, isGeneration⟩ := confirmed.route
  have written : bridge.backend.input sessionId piece delivery.queueTakes =
      (.ok (), { bridge.backend with
        queued := bridge.backend.queued ++ [⟨sessionId, generation,
          Utf8.decodeLossy piece⟩] }) := by
    simp [DaemonBackend.input, isRoute, isCache, isGeneration, takes]
  have handled : bridge.handleInputAt (UInt16.ofNat channel) piece delivery.nowMs
      delivery.queueTakes = ([], bridge.wrote (bridge.inputRate.allow piece.length delivery.nowMs).2
        [⟨sessionId, generation, Utf8.decodeLossy piece⟩]) := by
    simp [TerminalBridge.handleInputAt, confirmed.live, confirmed.attached, allowed, written,
      TerminalBridge.wrote, if_neg (not_lt.mpr short)]
  simp [Peer.onMessage, decode_encodeFrame encoded, Peer.handleBinaryTerminalInput, received,
    permitted, isBridge, handled]

/-! ## All frames -/

variable {messages : List (List UInt8)} {bytes : List UInt8} {pieces : List (List UInt8)}
  {text : List Char}

/-- So do several, one after the other. -/
theorem Peer.onMessages_confirmed {deliveries : List Delivery}
    (isBridge : peer.bridge = some bridge)
    (confirmed : bridge.Confirmed (UInt16.ofNat channel) sessionId generation)
    (encoded : List.Forall₂
      (fun piece message => encodeFrame .terminalInput channel piece = .ok message) pieces messages)
    (short : ∀ piece ∈ pieces, piece.length ≤ maxInputPayload)
    (same : deliveries.length = messages.length)
    (passes : ∀ delivery ∈ deliveries, peer.Passes delivery)
    (admits : bridge.inputRate.Admits (messages.zip deliveries)) :
    ∃ inputRate, peer.onMessages (messages.zip deliveries) =
      (List.replicate messages.length (.handled []), { peer with
        bridge := some (bridge.wrote inputRate
          (pieces.map fun piece => ⟨sessionId, generation, Utf8.decodeLossy piece⟩)) }) := by
  induction encoded generalizing peer bridge deliveries with
  | nil =>
    refine ⟨bridge.inputRate, ?_⟩
    simp [Peer.onMessages, TerminalBridge.wrote, ← isBridge]
  | @cons piece _ _ _ isMessage _ ih =>
    cases deliveries with
    | nil => simp at same
    | cons delivery =>
      rw [zip_cons_cons, InputRateLimiter.Admits, encodeFrame_length isMessage] at admits
      have first := Peer.onMessage_confirmed isBridge confirmed isMessage
        (short piece mem_cons_self) (passes delivery mem_cons_self) admits.1
      have next := Eq.refl ({ peer with
        bridge := some (bridge.wrote (bridge.inputRate.allow piece.length delivery.nowMs).2
          [⟨sessionId, generation, Utf8.decodeLossy piece⟩]) } : Peer).bridge
      obtain ⟨inputRate, others⟩ := ih next (confirmed.wrote _ _)
        (fun other member => short other (mem_cons_of_mem _ member))
        (Nat.succ.inj same)
        (fun other member => passes other (mem_cons_of_mem _ member)) admits.2
      refine ⟨inputRate, ?_⟩
      rw [zip_cons_cons, Peer.onMessages, first]
      dsimp only
      rw [others]
      simp [TerminalBridge.wrote, replicate_succ]

/-- No multiple of the bound lies inside a character. -/
def Uncut (text : List Char) : Prop :=
  ∀ count, count * maxInputPayload < (Utf8.encode text).length →
    Utf8.Boundary text (count * maxInputPayload)

/-- The pieces of an input end between characters just when the multiples of the bound do. -/
theorem Pieces.between_iff
    (isPieces : Pieces (Utf8.encode text) 0 pieces) : Utf8.Between pieces text ↔ Uncut text := by
  constructor
  · intro between count inside
    have reached := between (pieces.take count) ( take_prefix count pieces)
    have cut := isPieces.cuts (pieces.take count) ( take_prefix count pieces)
    have all := isPieces.cuts pieces (prefix_refl pieces)
    rw [isPieces.whole, drop_zero, Nat.sub_zero] at all
    have enough : count ≤ pieces.length := by
      by_contra few
      have less := Nat.mul_le_mul_right maxInputPayload (Nat.le_of_not_le few)
      omega
    rw [length_take, Nat.min_eq_left enough, Nat.sub_zero, Nat.min_eq_left (by omega)] at cut
    rwa [cut] at reached
  · intro uncut front isFront
    rw [isPieces.cuts front isFront, Nat.sub_zero]
    rcases Nat.lt_or_ge (front.length * maxInputPayload) (Utf8.encode text).length with
      inside | beyond
    · rw [Nat.min_eq_left (by omega)]
      exact uncut front.length inside
    · rw [min_eq_right beyond]
      exact ⟨text, prefix_refl text, rfl⟩

/-- What a connection does with the input of a text, however it was sent: it is handled without a
refusal, and the session's writes are queued behind what is there. They hold the text exactly when
no multiple of the bound lies inside one of its characters. -/
def Delivers (session : String) (generation : String) (peer : Peer) (bridge : TerminalBridge)
    (text : List Char) (messages : List (List UInt8)) : Prop :=
  ∀ deliveries : List Delivery, deliveries.length = messages.length →
    (∀ delivery ∈ deliveries, peer.Passes delivery) →
    bridge.inputRate.Admits (messages.zip deliveries) →
    ∃ inputRate writes, peer.onMessages (messages.zip deliveries) =
        (List.replicate messages.length (.handled []),
          { peer with bridge := some (bridge.wrote inputRate writes) }) ∧
      (∀ write ∈ writes, write.id = session ∧ write.expectedGeneration = generation) ∧
      (writes.flatMap (·.data) = text ↔ Uncut text)

/-- A batch of one payload is its frames. -/
theorem sendInputBatch_ok {frames : List (List UInt8)}
    (isOk : encodeInputFrames channel bytes = .ok frames) :
    sendInputBatch channel bytes = .ok frames := by
  simp only [sendInputBatch, sendInputPayloadBatch, mapM_cons, mapM_nil, isOk]
  simp [bind, Except.bind, pure, Except.pure]

/-- The frames of an encoded text. -/
theorem delivers_encoded (isBridge : peer.bridge = some bridge)
    (confirmed : bridge.Confirmed (UInt16.ofNat channel) sessionId generation) (text : List Char) :
    ∃ messages, sendInputBatch channel (Utf8.encode text) = .ok messages ∧
      Delivers sessionId generation peer bridge text messages := by
  obtain ⟨pieces, messages, isOk, isPieces, encoded⟩ :=
    encodeInputFrames_ok channel (Utf8.encode text)
  refine ⟨messages, sendInputBatch_ok isOk, ?_⟩
  intro deliveries same passes admits
  obtain ⟨inputRate, handled⟩ := Peer.onMessages_confirmed isBridge confirmed encoded
    isPieces.short same passes admits
  refine ⟨inputRate, _, handled, ?_, ?_⟩
  · intro write member
    obtain ⟨_, -, rfl⟩ := mem_map.mp member
    exact ⟨rfl, rfl⟩
  · have whole : pieces.flatten = Utf8.encode text := isPieces.whole
    rw [← isPieces.between_iff, ← Utf8.decodeLossy_pieces_iff whole, flatMap_map]

/-- An empty input sends nothing. -/
theorem delivers_nothing (isBridge : peer.bridge = some bridge) :
    Delivers sessionId generation peer bridge [] [] := by
  intro deliveries same passes admits
  refine ⟨bridge.inputRate, [], ?_, by simp, ?_⟩
  · simp [Peer.onMessages, TerminalBridge.wrote, ← isBridge]
  · exact ⟨fun _ count inside => absurd inside (Nat.not_lt_zero _), fun _ => rfl⟩

/-- Typed text and raw bytes reach the session's writes unchanged exactly when no multiple of the
frame bound lies inside a character. -/
theorem input_arrives_iff_uncut {session : RemoteSession}
    (authenticated : session.authenticated = true)
    (attached : session.attachedChannel = some channel) (isBridge : peer.bridge = some bridge)
    (confirmed : bridge.Confirmed (UInt16.ofNat channel) sessionId generation) (text : List Char) :
    (∃ messages, session.sendText text = .ok messages ∧
      Delivers sessionId generation peer bridge text messages) ∧
    ∃ messages, session.sendRawInput (Utf8.encode text) = .ok messages ∧
      Delivers sessionId generation peer bridge text messages := by
  have sent := delivers_encoded isBridge confirmed text
  constructor
  · by_cases isEmpty : text.isEmpty = true
    · refine ⟨[], if_pos isEmpty, ?_⟩
      rw [isEmpty_iff.mp isEmpty]
      exact delivers_nothing isBridge
    · obtain ⟨messages, isOk, delivers⟩ := sent
      refine ⟨messages, ?_, delivers⟩
      simp only [RemoteSession.sendText, if_neg isEmpty, RemoteSession.sendInputBytes,
        authenticated, attached, isOk, Bool.not_true, Bool.false_eq_true, if_false]
  · obtain ⟨messages, isOk, delivers⟩ := sent
    refine ⟨messages, ?_, delivers⟩
    simp [RemoteSession.sendRawInput, authenticated, attached, isOk]

/-! ## A text that fills a frame, and a cut one -/

/-- A limiter that was not used yet, or was used at the same time, takes what its tokens cover. -/
theorem InputRateLimiter.admits_of_total {limiter : InputRateLimiter} {nowMs : Nat}
    {arrivals : List (List UInt8 × Delivery)}
    (fresh : limiter.lastMs = none ∨ limiter.lastMs = some nowMs)
    (atOnce : ∀ arrival ∈ arrivals, arrival.2.nowMs = nowMs)
    (covered : (arrivals.map fun arrival => arrival.1.length - headerLen).sum ≤ limiter.tokens) :
    limiter.Admits arrivals := by
  induction arrivals generalizing limiter with
  | nil => trivial
  | cons arrival _ ih =>
    obtain ⟨message, delivery⟩ := arrival
    have isNow : delivery.nowMs = nowMs := atOnce (message, delivery) mem_cons_self
    have refilled : limiter.refill nowMs = { limiter with lastMs := some nowMs } := by
      rcases fresh with unused | used
      · simp [InputRateLimiter.refill, unused]
      · simp only [InputRateLimiter.refill, used, Nat.sub_self, gt_iff_lt, lt_irrefl, if_false]
        rw [← used]
    rw [map_cons, sum_cons] at covered
    have fits : message.length - headerLen ≤ limiter.tokens := by
      dsimp only at covered
      omega
    have spent : limiter.allow (message.length - headerLen) delivery.nowMs =
        (true, { limiter with
          lastMs := some nowMs, tokens := limiter.tokens - (message.length - headerLen) }) := by
      simp only [InputRateLimiter.allow, isNow, refilled, if_pos fits]
    rw [InputRateLimiter.Admits, spent]
    refine ⟨rfl, ih (.inr rfl)
      (fun other member => atOnce other (mem_cons_of_mem _ member)) ?_⟩
    dsimp only at covered ⊢
    omega

/-- The frames of a batch carry its bytes. -/
theorem sendInputBatch_total (sent : sendInputBatch channel bytes = .ok messages) :
    (messages.map fun message => message.length - headerLen).sum = bytes.length := by
  obtain ⟨pieces, _, isOk, isPieces, encoded⟩ := encodeInputFrames_ok channel bytes
  obtain rfl := Except.ok.inj (sent.symm.trans (sendInputBatch_ok isOk))
  have whole : pieces.flatten = bytes := isPieces.whole
  rw [← whole]
  clear sent isOk isPieces whole
  induction encoded with
  | nil => rfl
  | cons isFrame _ ih =>
    rw [map_cons, sum_cons, ih, encodeFrame_length isFrame, flatten_cons, length_append]

/-- Messages that all come at time 0, and are taken by the queue. -/
def atOnce (messages : List (List UInt8)) : List Delivery :=
  List.replicate messages.length ⟨0, 0, 0, true⟩

/-- A connection with one attached session whose route is confirmed. -/
def attachedBridge : TerminalBridge where
  backend :=
    { outputRoutes := ⟨true, fun id => if id = "s" then some (.confirmed 1) else none⟩
      sessions := some ⟨fun id => if id = "s" then some ⟨1, "g"⟩ else none,
        some daemonProtocolVersion, true, true⟩
      queued := [] }
  attaches channel := if channel = 1 then some "s" else none
  revoked := false
  inputRate := .default

def attachedPeer : Peer := ⟨some attachedBridge, ⟨some 1000, false⟩⟩

theorem attachedBridge_confirmed : attachedBridge.Confirmed (UInt16.ofNat 1) "s" "g" :=
  ⟨rfl, rfl, 1, _, rfl, rfl, rfl⟩

/-- Nothing refuses a batch that the limiter's tokens cover. -/
theorem Delivers.taken (delivers : Delivers "s" "g" attachedPeer attachedBridge text messages)
    (sent : sendInputBatch channel bytes = .ok messages) (covered : bytes.length ≤ 1024 * 1024) :
    ∃ last, attachedPeer.onMessages (messages.zip (atOnce messages)) =
        (List.replicate messages.length (.handled []), ⟨some last, attachedPeer.authority⟩) ∧
      (last.backend.queued.flatMap (·.data) = text ↔ Uncut text) := by
  have same : (atOnce messages).length = messages.length := length_replicate
  have passes : ∀ delivery ∈ atOnce messages, attachedPeer.Passes delivery := by
    intro delivery member
    rw [eq_of_mem_replicate member]
    exact ⟨by decide, by decide, rfl⟩
  have timed : ∀ arrival ∈ messages.zip (atOnce messages), arrival.2.nowMs = 0 := by
    rintro ⟨message, delivery⟩ member
    rw [eq_of_mem_replicate (of_mem_zip member).2]
  have firsts : ((messages.zip (atOnce messages)).map
      fun arrival => arrival.1.length - headerLen) =
        messages.map fun message => message.length - headerLen := by
    rw [← Function.comp_def (fun message : List UInt8 => message.length - headerLen) Prod.fst,
      ← map_map, map_fst_zip (le_of_eq same.symm)]
  have admits : attachedBridge.inputRate.Admits (messages.zip (atOnce messages)) := by
    refine InputRateLimiter.admits_of_total (.inl rfl) timed ?_
    rw [firsts, sendInputBatch_total sent]
    exact covered
  obtain ⟨_, writes, handled, -, arrives⟩ := delivers (atOnce messages) same passes admits
  exact ⟨_, handled, arrives⟩

/-- Letters of one byte, and behind them one of two bytes. -/
def letters (count : Nat) : List Char := List.replicate count 'a' ++ ['é']

theorem encode_replicate (count : Nat) :
    Utf8.encode (List.replicate count 'a') = List.replicate count 0x61 := by
  induction count with
  | zero => rfl
  | succ _ ih =>
    rw [replicate_succ, Utf8.encode_cons, ih]
    rfl

theorem letters_length (count : Nat) : (Utf8.encode (letters count)).length = count + 2 := by
  rw [letters, Utf8.encode_append, encode_replicate, length_append, length_replicate]
  rfl

/-- A text that is not empty is sent as a batch. -/
theorem sendText_letters (count : Nat) : (⟨true, some 1⟩ : RemoteSession).sendText (letters count) =
    sendInputBatch 1 (Utf8.encode (letters count)) := by
  simp [RemoteSession.sendText, RemoteSession.sendInputBytes, letters]

/-- A second frame that begins with the last letter. -/
theorem letters_uncut : Uncut (letters 65536) := by
  intro count inside
  rw [letters_length, maxInputPayload] at inside
  obtain rfl | rfl : count = 0 ∨ count = 1 := by omega
  · exact ⟨[], nil_prefix, rfl⟩
  · refine ⟨List.replicate 65536 'a', prefix_append _ _, ?_⟩
    rw [encode_replicate, length_replicate]
    rfl

/-- Two frames that end between characters: the text arrives. -/
theorem input_arrives_iff_uncut_twoFrames :
    ∃ messages last, (⟨true, some 1⟩ : RemoteSession).sendText (letters 65536) = .ok messages ∧
      attachedPeer.onMessages (messages.zip (atOnce messages)) =
        (List.replicate messages.length (.handled []), ⟨some last, attachedPeer.authority⟩) ∧
      last.backend.queued.flatMap (·.data) = letters 65536 := by
  have authenticated : (⟨true, some 1⟩ : RemoteSession).authenticated = true := rfl
  have attached : (⟨true, some 1⟩ : RemoteSession).attachedChannel = some 1 := rfl
  have isBridge : attachedPeer.bridge = some attachedBridge := rfl
  obtain ⟨⟨messages, sent, delivers⟩, -⟩ := input_arrives_iff_uncut authenticated attached isBridge
    attachedBridge_confirmed (letters 65536)
  obtain ⟨last, handled, arrives⟩ := delivers.taken ((sendText_letters _).symm.trans sent)
    ((letters_length _).trans_le (by decide))
  exact ⟨messages, last, sent, handled, arrives.mpr letters_uncut⟩

/-- A first frame that ends with the first byte of the last letter. -/
theorem letters_cut : ¬ Uncut (letters 65535) := by
  intro uncut
  have reached := uncut 1 (by rw [letters_length]; decide)
  have position : 1 * maxInputPayload = (Utf8.encode (List.replicate 65535 'a')).length + 1 := by
    rw [encode_replicate, length_replicate]
    rfl
  have cut : Utf8.encodeChar 'é' = [0xC3] ++ [0xA9] := by decide
  rw [position, letters, Utf8.boundary_append] at reached
  exact Utf8.not_boundary_inside cut (by decide) (by decide) reached

/-- It is sent and handled without a refusal, and arrives as another text. -/
theorem cut_input_differs :
    ∃ messages last, (⟨true, some 1⟩ : RemoteSession).sendText (letters 65535) = .ok messages ∧
      attachedPeer.onMessages (messages.zip (atOnce messages)) =
        (List.replicate messages.length (.handled []), ⟨some last, attachedPeer.authority⟩) ∧
      last.backend.queued.flatMap (·.data) ≠ letters 65535 := by
  have isBridge : attachedPeer.bridge = some attachedBridge := rfl
  obtain ⟨messages, sent, delivers⟩ :=
    delivers_encoded isBridge attachedBridge_confirmed (letters 65535)
  obtain ⟨last, handled, arrives⟩ := delivers.taken sent ((letters_length _).trans_le (by decide))
  exact ⟨messages, last, (sendText_letters _).trans sent, handled,
    fun unchanged => letters_cut (arrives.mp unchanged)⟩

/-! ## What the limiter lets through -/

namespace InputRateLimiter

/-- The bytes that calls of `allow`, each with its bytes and its time, accept, and the limiter then. -/
def spend : InputRateLimiter → List (UInt64 × UInt64) → Nat × InputRateLimiter
  | limiter, [] => (0, limiter)
  | limiter, call :: calls =>
    let answer := limiter.allow call.1.toNat call.2.toNat
    let rest := answer.2.spend calls
    ((if answer.1 then call.1.toNat else 0) + rest.1, rest.2)

/-- The largest of a first time and the times of some calls. -/
def latest (firstMs : Nat) (calls : List (UInt64 × UInt64)) : Nat :=
  calls.foldl (fun ms call => max ms call.2.toNat) firstMs

/-- Every number of the limiter is one of its type. -/
structure Fits (limiter : InputRateLimiter) : Prop where
  capacity : limiter.capacity ≤ u64Max
  refillPerSec : limiter.refillPerSec ≤ u64Max
  tokens : limiter.tokens ≤ limiter.capacity
  lastMs : ∀ ms ∈ limiter.lastMs, ms ≤ u64Max

theorem toNat_le_u64Max (value : UInt64) : value.toNat ≤ u64Max := Nat.le_pred_of_lt value.toNat_lt

variable {limiter : InputRateLimiter} {prev : Nat}

theorem Fits.allow (fits : limiter.Fits) (bytes : Nat) (nowMs : UInt64) :
    (limiter.allow bytes nowMs.toNat).2.Fits := by
  have refilled : (limiter.refill nowMs.toNat).Fits := by
    have now := toNat_le_u64Max nowMs
    unfold InputRateLimiter.refill
    split
    · exact ⟨fits.capacity, fits.refillPerSec, fits.tokens, by simpa using now⟩
    · dsimp only
      split_ifs
      · exact ⟨fits.capacity, fits.refillPerSec, min_le_right _ _, by simpa using now⟩
      · exact fits
  simp only [InputRateLimiter.allow]
  split_ifs
  · exact { refilled with tokens := (Nat.sub_le _ _).trans refilled.tokens }
  · exact refilled

theorem Fits.spend (fits : limiter.Fits) (calls : List (UInt64 × UInt64)) :
    (limiter.spend calls).2.Fits := by
  induction calls generalizing limiter with
  | nil => exact fits
  | cons call calls ih => exact ih (fits.allow _ _)

/-- What is spent and what is left come from the tokens and from the time that has passed. -/
theorem allow_balance (seen : limiter.lastMs = some prev) (bytes nowMs : Nat) :
    (limiter.allow bytes nowMs).2.lastMs = some (max prev nowMs) ∧
      (limiter.allow bytes nowMs).2.refillPerSec = limiter.refillPerSec ∧
      1000 * ((if (limiter.allow bytes nowMs).1 then bytes else 0)
          + (limiter.allow bytes nowMs).2.tokens) ≤
        1000 * limiter.tokens + limiter.refillPerSec * (max prev nowMs - prev) := by
  have refilled : (limiter.refill nowMs).lastMs = some (max prev nowMs) ∧
      (limiter.refill nowMs).refillPerSec = limiter.refillPerSec ∧
      1000 * (limiter.refill nowMs).tokens ≤
        1000 * limiter.tokens + limiter.refillPerSec * (max prev nowMs - prev) := by
    simp only [refill, seen, saturatingU64]
    split_ifs with later
    · rw [max_eq_right (by omega)]
      exact ⟨rfl, rfl, by dsimp only; omega⟩
    · rw [max_eq_left (by omega)]
      exact ⟨seen, rfl, by omega⟩
  by_cases within : bytes ≤ (limiter.refill nowMs).tokens
  · simp only [allow, within, if_true]
    exact ⟨refilled.1, refilled.2.1, by omega⟩
  · simpa [allow, within] using refilled

theorem le_latest (firstMs : Nat) (calls : List (UInt64 × UInt64)) :
    firstMs ≤ latest firstMs calls := by
  induction calls generalizing firstMs with
  | nil => exact le_rfl
  | cons call calls ih => exact (le_max_left _ _).trans (ih _)

theorem spend_balance (seen : limiter.lastMs = some prev) (calls : List (UInt64 × UInt64)) :
    1000 * (limiter.spend calls).1 ≤
      1000 * limiter.tokens + limiter.refillPerSec * (latest prev calls - prev) := by
  induction calls generalizing limiter prev with
  | nil => exact Nat.zero_le _
  | cons call calls ih =>
    obtain ⟨nextSeen, rate, paid⟩ := allow_balance seen call.1.toNat call.2.toNat
    have rest := ih nextSeen
    have reached := le_latest (max prev call.2.toNat) calls
    have further : latest prev (call :: calls) - prev = (max prev call.2.toNat - prev)
        + (latest (max prev call.2.toNat) calls - max prev call.2.toNat) := by
      rw [latest, foldl_cons, ← latest]
      omega
    rw [rate] at rest
    rw [further, Nat.mul_add, spend]
    omega

/-- However the times run, what has been accepted is at most the capacity and what the time between
the first call and the latest one refills, and every number stays one of its type. The product and
the sum of a refill do so too: where they would leave the type, both saturate. -/
theorem spend_bounded (capacity refillPerSec : UInt64) (first : UInt64 × UInt64)
    (calls : List (UInt64 × UInt64)) :
    1000 * ((new capacity.toNat refillPerSec.toNat).spend (first :: calls)).1 ≤
        1000 * capacity.toNat
          + refillPerSec.toNat * (latest first.2.toNat calls - first.2.toNat) ∧
      ((new capacity.toNat refillPerSec.toNat).spend (first :: calls)).2.Fits := by
  have fits : (new capacity.toNat refillPerSec.toNat).Fits :=
    ⟨toNat_le_u64Max _, toNat_le_u64Max _, le_rfl, nofun⟩
  refine ⟨?_, fits.spend _⟩
  -- The first call refills nothing: it is as if its time had been seen before.
  let seen := { new capacity.toNat refillPerSec.toNat with lastMs := some first.2.toNat }
  have same : (new capacity.toNat refillPerSec.toNat).refill first.2.toNat =
      seen.refill first.2.toNat := by
    simp [refill, new, seen]
  have paid := @spend_balance seen first.2.toNat rfl (first :: calls)
  rw [latest, foldl_cons, max_self] at paid
  rw [spend, allow, same]
  exact paid

end InputRateLimiter

end HydraTerm.Remote
