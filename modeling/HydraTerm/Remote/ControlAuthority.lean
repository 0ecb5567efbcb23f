import HydraTerm.Remote.ControlLaws

/-!
# Conversations on a control channel

A conversation is a list of messages, each with its own time, services and source of revocations. The
record of a conversation is what was said: the messages and the replies. `Recorded` ties the authority
that the channel holds to this record; every message carries it on. `Guarded` then says what the next
message can do, in terms of the record and of the message alone.
-/

namespace HydraTerm.Remote.Control

variable (library : Library) (config : ChannelConfig) (past : List Exchange) (channel : Channel)

/-- One message of a conversation. -/
def Exchanged (before : Channel) (exchange : Exchange) (after : Channel) : Prop :=
  (before.handle library exchange.delivery).reply = exchange.reply ∧
    (before.handle library exchange.delivery).channel = after

/-- A conversation: its record, and the channel after it. -/
def converse (library : Library) (channel : Channel) : List Delivery → List Exchange × Channel
  | [] => ([], channel)
  | delivery :: rest =>
    let outcome := channel.handle library delivery
    let later := converse library outcome.channel rest
    (⟨delivery, outcome.reply⟩ :: later.1, later.2)

theorem run_converse (library : Library) (channel : Channel) (deliveries : List Delivery) :
    Lib.Run (Exchanged library) channel (converse library channel deliveries).1
      (converse library channel deliveries).2 := by
  induction deliveries generalizing channel with
  | nil => exact .nil channel
  | cons _ _ ih => exact .cons ⟨rfl, rfl⟩ (ih _)

/-- The first token of the last authority that was opened. -/
def lastOpening : Option Admission :=
  (past.filterMap (Exchange.opening? library)).getLast?

/-- The last token that was admitted. -/
def lastAdmission : Option Admission :=
  (past.filterMap (Exchange.admission? library)).getLast?

section Record

variable {library past} {exchange : Exchange} {admission : Admission}

theorem lastOpening_silent (silent : exchange.opening? library = none) :
    lastOpening library (past ++ [exchange]) = lastOpening library past := by
  simp [lastOpening, silent]

theorem lastOpening_opened (opened : exchange.opening? library = some admission) :
    lastOpening library (past ++ [exchange]) = some admission := by
  simp [lastOpening, opened]

theorem lastAdmission_admitted (admitted : exchange.admission? library = some admission) :
    lastAdmission library (past ++ [exchange]) = some admission := by
  simp [lastAdmission, admitted]

/-- A successor is admitted. -/
theorem admission_of_refresh {token : String} {expiresAtMs : Nat}
    (isRefresh : library.parse exchange.delivery.line = some (.authRefresh token))
    (answered : exchange.reply = .authRefreshOk expiresAtMs) :
    exchange.admission? library = some ⟨exchange.delivery, token⟩ := by
  simp [Exchange.admission?, isRefresh, answered]

/-- Opening is the other way to be admitted. -/
theorem admission_of_opening (opened : exchange.opening? library = some admission) :
    exchange.admission? library = some admission := by
  unfold Exchange.opening? at opened
  split at opened
  next isAuth isOk =>
    rw [← opened, Exchange.admission?, isAuth, isOk]
  · contradiction

theorem opening_silent (silent : exchange.admission? library = none) :
    exchange.opening? library = none := by
  cases opened : exchange.opening? library with
  | none => rfl
  | some => rw [admission_of_opening opened] at silent; contradiction

end Record

/-- What the record says of the authority: the last token that opened it had the claims `first`, and
the last one that was admitted, `current`, has `claims`. -/
structure OnRecord (current : Admission) (first claims : TokenClaims) : Prop where
  opening : ∃ opening, lastOpening library past = some opening ∧ opening.Opens library config first
  admission : lastAdmission library past = some current
  verified : current.Verified library config claims

/-- The authority of the channel, if it has one, is that of the record. -/
structure Recorded : Prop where
  setUp : channel.config = config
  authority : channel.authority = (none, none, none) ∨
    ∃ current first claims, OnRecord library config past current first claims ∧
      channel.authority = (some claims, some (library.digestText current.token), some first.iatMs)

namespace Recorded

variable {library config past channel} {after : Channel} {exchange : Exchange} {claims : TokenClaims}

/-- An authority that the channel holds is on record. -/
theorem of_held (recorded : Recorded library config past channel) {hash : Option (List UInt8)}
    {initialIatMs : Option Nat} (held : channel.authority = (some claims, hash, initialIatMs)) :
    ∃ current first, OnRecord library config past current first claims ∧
      hash = some (library.digestText current.token) ∧ initialIatMs = some first.iatMs := by
  rcases recorded.authority with nothing | ⟨current, first, _, onRecord, whole⟩
  · rw [held] at nothing
    simp at nothing
  · cases held.symm.trans whole
    exact ⟨current, first, onRecord, rfl, rfl⟩

/-- Silence carries the record on, as long as the authority is the same or gone. -/
theorem silent (recorded : Recorded library config past channel)
    (silent : exchange.admission? library = none) (sameConfig : after.config = channel.config)
    (kept : after.authority = channel.authority ∨ after.authority = (none, none, none)) :
    Recorded library config (past ++ [exchange]) after := by
  refine ⟨sameConfig.trans recorded.setUp, ?_⟩
  rcases kept with same | gone
  · have sameOpening : lastOpening library (past ++ [exchange]) = lastOpening library past :=
      lastOpening_silent (opening_silent silent)
    rw [same]
    refine recorded.authority.imp id fun ⟨current, first, claims, onRecord, whole⟩ =>
      ⟨current, first, claims, ⟨sameOpening ▸ onRecord.opening, ?_, onRecord.verified⟩, whole⟩
    simpa [lastAdmission, silent] using onRecord.admission
  · exact .inl gone

end Recorded

/-- The examination leaves the authority or clears it. -/
theorem Channel.reauthorize_authority (delivery : Delivery) :
    (channel.reauthorize delivery).authority = channel.authority ∨
      (channel.reauthorize delivery).authority = (none, none, none) := by
  rcases Channel.reauthorize_cases channel delivery with ⟨cleared, _⟩ | ⟨same, _⟩
  · exact .inr cleared
  · exact .inl (by rw [same])

variable {library config past channel} {claims : TokenClaims} {delivery : Delivery}

/-- If something is left, the examination has left everything. -/
theorem Channel.authority_of_reauthorize {hash : Option (List UInt8)} {initialIatMs : Option Nat}
    (held : (channel.reauthorize delivery).authority = (some claims, hash, initialIatMs)) :
    channel.authority = (some claims, hash, initialIatMs) := by
  rcases Channel.reauthorize_authority channel delivery with same | cleared
  · rw [← same, held]
  · rw [cleared] at held
    simp at held

/-- Every message carries the record on. -/
theorem recorded_step {exchange : Exchange} {before after : Channel}
    (step : Exchanged library before exchange after) (recorded : Recorded library config past before) :
    Recorded library config (past ++ [exchange]) after := by
  obtain ⟨delivery, _⟩ := exchange
  obtain ⟨replied, left⟩ := step
  have move := Channel.move_handle library before delivery
  generalize before.handle library delivery = outcome at move replied left
  subst replied left
  cases move with
  | unread silent => exact recorded.silent silent rfl (.inl rfl)
  | served gated _ silent =>
    refine recorded.silent silent (gated.config.trans (Channel.reauthorize_config _ _)) ?_
    rw [gated.authority]
    exact Channel.reauthorize_authority before delivery
  | opened _ _ opens admitted authority sameConfig =>
    rw [recorded.setUp] at opens
    exact ⟨sameConfig.trans recorded.setUp, .inr ⟨_, _, _, ⟨⟨_, lastOpening_opened admitted, opens⟩,
      lastAdmission_admitted (admission_of_opening admitted), opens.1⟩, authority⟩⟩
  | @succeeded _ token claims previous previousHash initialIatMs isRefresh held verified continues
      answered authority sameConfig quiet =>
    have notOpened : Exchange.opening? library ⟨delivery, outcome.reply⟩ = none := by
      simp [Exchange.opening?, isRefresh]
    rw [recorded.setUp] at verified
    obtain ⟨_, first, ⟨⟨opening, isOpening, opens⟩, _, _⟩, _, since⟩ :=
      recorded.of_held (Channel.authority_of_reauthorize held)
    cases since
    exact ⟨sameConfig.trans recorded.setUp, .inr ⟨_, first, claims,
      ⟨⟨opening, (lastOpening_silent notOpened).trans isOpening, opens⟩,
        lastAdmission_admitted (admission_of_refresh isRefresh answered), verified⟩, authority⟩⟩

variable (library config past channel)

/-- The authority of a channel is that of the record, after every conversation. -/
theorem recorded_converse (deliveries : List Delivery) :
    Recorded library config (converse library (Channel.new config) deliveries).1
      (converse library (Channel.new config) deliveries).2 := by
  have fresh : Recorded library config [] (Channel.new config) := ⟨rfl, .inl rfl⟩
  exact (run_converse library (Channel.new config) deliveries).history fresh recorded_step

/-! ## What the next message can do -/

/-- What the next message can do after a conversation with this record. -/
structure Guarded (delivery : Delivery) (outcome : Outcome) : Prop where
  setUp : channel.config = config
  /-- The desktop is called only with a live authority. Its claims are those of the last token that
  was admitted, and it is not revoked by the time of issue of the token that opened it. -/
  callsAuthorized : outcome.calls ≠ [] →
    ∃ current first claims, OnRecord library config past current first claims ∧
      channel.Live delivery claims first.iatMs ∧ outcome.channel.authority = channel.authority
  /-- Claims for one session reach its preview and its management. -/
  callsInScope : ∀ claims scope, channel.authedClaims = some claims →
    claims.sessionId = some scope → ∀ call ∈ outcome.calls, call.Concerns scope
  /-- No second first token while an authority is live. -/
  authOnce : ∀ claims initialIatMs, channel.Live delivery claims initialIatMs →
    Exchange.opening? library ⟨delivery, outcome.reply⟩ = none
  /-- A successor continues the last token that was admitted. -/
  refreshContinues : ∀ token expiresAtMs,
    library.parse delivery.line = some (.authRefresh token) →
    outcome.reply = .authRefreshOk expiresAtMs →
    ∃ current first previous claims, OnRecord library config past current first previous ∧
      Admission.Verified library config ⟨delivery, token⟩ claims ∧
      claims.Continues previous (library.digestText current.token) ∧ expiresAtMs = claims.expMs
  /-- Whatever admits no token leaves the authority whole or clears it whole. -/
  refusalKeeps : Exchange.admission? library ⟨delivery, outcome.reply⟩ = none →
    outcome.channel.authority = channel.authority ∨
      outcome.channel.authority = (none, none, none)

variable {library config past channel} in
/-- The outcome of a message that arrives at a recorded channel is guarded. -/
theorem Move.guarded {outcome : Outcome}
    (move : Move library channel delivery outcome) (recorded : Recorded library config past channel) :
    Guarded library config past channel delivery outcome where
  setUp := recorded.setUp
  callsAuthorized := by
    intro called
    cases move with
    | unread => exact absurd rfl called
    | opened _ _ _ _ _ _ quiet | succeeded _ _ _ _ _ _ _ quiet => exact absurd quiet called
    | served gated =>
      obtain ⟨claims, held⟩ := Option.isSome_iff_exists.mp (gated.calls called)
      obtain ⟨initialIatMs, live⟩ := Channel.live_of_reauthorize held
      have same : outcome.channel.authority = channel.authority := by
        rw [gated.authority, live.reauthorize]
      obtain ⟨current, first, onRecord, _, since⟩ :=
        recorded.of_held (by rw [Channel.authority, live.held, live.since])
      cases since
      exact ⟨current, first, claims, onRecord, live, same⟩
  callsInScope := by
    intro claims scope held isScope call isCall
    cases move with
    | unread => exact absurd isCall List.not_mem_nil
    | opened _ _ _ _ _ _ quiet | succeeded _ _ _ _ _ _ _ quiet =>
      rw [quiet] at isCall; exact absurd isCall List.not_mem_nil
    | served gated withinScope =>
      obtain ⟨examined, isExamined⟩ :=
        Option.isSome_iff_exists.mp (gated.calls (List.ne_nil_of_mem isCall))
      obtain ⟨_, live⟩ := Channel.live_of_reauthorize isExamined
      obtain rfl : examined = claims := Option.some.inj (live.held.symm.trans held)
      exact withinScope examined scope isExamined isScope call isCall
  authOnce := by
    intro claims initialIatMs live
    cases move with
    | unread silent | served _ _ silent => exact opening_silent silent
    | succeeded isRefresh => simp [Exchange.opening?, isRefresh]
    | opened _ vacant =>
      rw [live.reauthorize, live.held] at vacant
      contradiction
  refreshContinues := by
    intro token expiresAtMs isRefresh accepted
    cases move with
    | unread silent | served _ _ silent =>
      exact absurd (silent.symm.trans (admission_of_refresh isRefresh accepted)) (by simp)
    | opened isAuth => exact absurd (isAuth.symm.trans isRefresh) (by simp)
    | @succeeded _ other claims previous previousHash _ isOther held verified continues answered =>
      obtain rfl : other = token := by simpa using isOther.symm.trans isRefresh
      obtain rfl : expiresAtMs = claims.expMs := by simpa using accepted.symm.trans answered
      obtain ⟨current, first, onRecord, isHash, _⟩ :=
        recorded.of_held (Channel.authority_of_reauthorize held)
      cases isHash
      rw [recorded.setUp] at verified
      exact ⟨current, first, previous, claims, onRecord, verified, continues, rfl⟩
  refusalKeeps := by
    intro silent
    cases move with
    | unread => exact .inl rfl
    | served gated => rw [gated.authority]; exact Channel.reauthorize_authority channel delivery
    | opened _ _ _ admitted => rw [admission_of_opening admitted] at silent; contradiction
    | succeeded isRefresh _ _ _ answered =>
      rw [admission_of_refresh isRefresh answered] at silent; contradiction

/-- Every conversation leaves the channel so that the next message, at any time and with any services
and revocations, uses the desktop only within a live authority. -/
theorem control_authority_guarded (library : Library) (config : ChannelConfig)
    (deliveries : List Delivery) (delivery : Delivery) :
    let conversation := converse library (Channel.new config) deliveries
    Guarded library config conversation.1 conversation.2 delivery
      (conversation.2.handle library delivery) :=
  (Channel.move_handle library _ delivery).guarded (recorded_converse library config deliveries)

/-! ## A conversation -/

/-- Claims of a first token. -/
def sampleClaims : TokenClaims :=
  { (default : TokenClaims) with
    accountId := "account", deviceId := "browser", iatMs := 10, expMs := 100 }

/-- Claims that continue them. -/
def sampleSuccessor : TokenClaims :=
  { sampleClaims with refreshParentSha256 := some "612e73", iatMs := 20, expMs := 200 }

/-- A library under which `a.s` and `b.s` are good tokens and a text is its own digest. -/
def sampleLibrary : Library :=
  { (default : Library) with
    parse := fun line =>
      if line = "hello" then some (.hello 1 ["authorization_refresh_v1"])
      else if line = "auth" then some (.auth "a.s" "trace")
      else if line = "refresh" then some (.authRefresh "b.s")
      else if line = "folders" then some (.listDirectories "1" none)
      else none
    decodeUrl := fun text => some (Lib.Utf8.encode text.toList)
    digest := id
    isSignature := fun _ => true
    cloudVerifies := fun _ _ => true
    parseClaims := fun bytes =>
      if bytes = [97] then some sampleClaims
      else if bytes = [98] then some sampleSuccessor else none }

/-- A channel that asks for nothing but a token. -/
def sampleConfig : ChannelConfig :=
  { (default : ChannelConfig) with peerDeviceId := "browser", expectedAccountId := some "account" }

/-- A message to a desktop that only lists folders, while tokens issued before a time are revoked. -/
def sampleDelivery (line : String) (nowMs revokedBefore : Nat) : Delivery :=
  ⟨line, nowMs, default, fun _ _ iatMs => decide (iatMs < revokedBefore)⟩

/-- The token is replaced before it expires. -/
def sampleDeliveries : List Delivery :=
  [sampleDelivery "hello" 11 0, sampleDelivery "auth" 12 0, sampleDelivery "auth" 13 0,
    sampleDelivery "refresh" 90 0]

/-- After the first expiry the successor serves, until the token that opened the authority is revoked,
although the successor was issued later. -/
theorem control_authority_guarded_refreshed :
    let conversation := converse sampleLibrary (Channel.new sampleConfig) sampleDeliveries
    let served := conversation.2.handle sampleLibrary (sampleDelivery "folders" 150 10)
    served.calls.length = 1 ∧
      (conversation.2.handle sampleLibrary (sampleDelivery "folders" 150 11)).calls.length = 0 ∧
      Guarded sampleLibrary sampleConfig conversation.1 conversation.2
        (sampleDelivery "folders" 150 10) served :=
  ⟨by decide +kernel, by decide +kernel,
    control_authority_guarded sampleLibrary sampleConfig sampleDeliveries
      (sampleDelivery "folders" 150 10)⟩

end HydraTerm.Remote.Control
