import HydraTerm.Lib.Utf8
import HydraTerm.Remote.ControlServices

/-!
# Tokens and browser certificates

A token carries claims that the cloud signed; the agent checks the signature offline, then expiry,
device and revocation. A channel that was set up for one signaling session, account or desktop asks for
claims bound to it. Where the desktop pinned a passkey, the browser also has to present a certificate
that the passkey signed.

Signatures, digests, encodings and parsing are libraries. They are the fields of `Library`; nothing is
assumed of them here. The checks that the source makes itself are written out.
-/

namespace HydraTerm.Remote.Control

/-- `TokenClaims`. -/
structure TokenClaims where
  accountId : String
  deviceId : String
  sessionId : Option String
  signalSessionId : Option String
  targetDeviceId : Option String
  browserPubkey : Option String
  browserPubkeyAlg : Option String
  refreshParentSha256 : Option String
  iatMs : Nat
  expMs : Nat
  deriving DecidableEq, Inhabited

/-- `TokenError`. -/
inductive TokenError where
  | malformed | badSignature | expired | revoked | wrongDevice

/-- `refusal_reason`. -/
def TokenError.refusalReason : TokenError → String
  | .malformed | .badSignature | .expired => "invalid"
  | .revoked => "revoked"
  | .wrongDevice => "wrong_device"

/-- `PasskeyPublicKey`. -/
structure PasskeyPublicKey where
  spkiB64 : String
  alg : String
  rpId : String
  deriving DecidableEq

/-- `WebauthnAssertion`. -/
structure WebauthnAssertion where
  authenticatorData : String
  clientDataJson : String
  signature : String
  deriving DecidableEq

/-- `BrowserCert`. -/
structure BrowserCert where
  browserPubkey : String
  desktopId : String
  accountId : String
  expiryMs : Nat
  nonce : String
  assertion : WebauthnAssertion
  deriving DecidableEq

/-- `CertError`. -/
inductive CertError where
  | expired | expiryTooFar | bindingMismatch | badChallenge | badClientData | badOrigin | badRpId
  | userNotPresent | userNotVerified | badSignature | malformed

/-- `CertPolicy`. -/
structure CertPolicy where
  allowedOrigins : List String
  maxTtlMs : Nat
  deriving DecidableEq, Inhabited

/-- `OfferProof`: what the browser signed in its offer. -/
structure OfferProof where
  deviceId : String
  fingerprint : String
  sigB64 : String
  deriving DecidableEq

/-- What is read of the client data of an assertion. `crossOriginAllowed` is that the flag is absent or
the boolean `false`. -/
structure ClientData where
  type : Option String
  challenge : Option String
  origin : Option String
  crossOriginAllowed : Bool
  topOriginPresent : Bool

/-- Code outside the source: parsers, base64, SHA-256, and the verifiers of signatures with the keys
they are given. The key of the cloud is part of `cloudVerifies`. -/
structure Library extends Platform where
  parse : String → Option InboundMsg
  decodeUrl : String → Option (List UInt8)
  encodeUrl : List UInt8 → String
  decodeStandard : String → Option (List UInt8)
  digest : List UInt8 → List UInt8
  isSignature : List UInt8 → Bool
  cloudVerifies : String → List UInt8 → Bool
  parseClaims : List UInt8 → Option TokenClaims
  parseClientData : List UInt8 → Option ClientData
  offerVerifies : String → List UInt8 → String → List UInt8 → Bool
  passkeyVerifies : String → List UInt8 → List UInt8 → List UInt8 → Bool
  deriving Inhabited

variable (library : Library) (cert : BrowserCert)

/-- The digest of a text. -/
def Library.digestText (text : String) : List UInt8 :=
  library.digest (Lib.Utf8.encode text.toList)

/-- `split_once`, at the first dot. -/
def splitOnceDot (text : String) : Option (String × String) :=
  match text.toList.span (· ≠ '.') with
  | (before, _ :: after) => some (String.ofList before, String.ofList after)
  | (_, []) => none

/-- The first half of `verify_token`: the parts of the token, the signature over the encoded claims,
and the claims. -/
def openToken (token : String) : Except TokenError TokenClaims :=
  match splitOnceDot token with
  | none => .error .malformed
  | some (claimsB64, sigB64) =>
    match library.decodeUrl sigB64 with
    | none => .error .malformed
    | some signature =>
      if !library.isSignature signature then .error .malformed
      else if !library.cloudVerifies claimsB64 signature then .error .badSignature
      else
        match (library.decodeUrl claimsB64).bind library.parseClaims with
        | none => .error .malformed
        | some claims => .ok claims

/-- The agent's source of revocations: account, device, and time of issue. -/
abbrev Revocations := String → String → Nat → Bool

/-- `verify_token`. -/
def verifyToken (token : String) (nowMs : Nat) (expectedDeviceId : String)
    (revoked : Revocations) : Except TokenError TokenClaims :=
  match openToken library token with
  | .error reason => .error reason
  | .ok claims =>
    if nowMs ≥ claims.expMs then .error .expired
    else if claims.deviceId ≠ expectedDeviceId then .error .wrongDevice
    else if revoked claims.accountId claims.deviceId claims.iatMs then .error .revoked
    else .ok claims

/-- `cert_signed_bytes`. -/
def certSignedText : String :=
  "hydra-browser-cert-v1\n" ++ cert.browserPubkey ++ "\n" ++ cert.desktopId ++ "\n"
    ++ cert.accountId ++ "\n" ++ toString cert.expiryMs ++ "\n" ++ cert.nonce

/-- The client data: a ceremony over this certificate, on a page of an allowed origin that is not
embedded in another. -/
def checkClientData (policy : CertPolicy) (clientData : List UInt8) : Except CertError Unit :=
  match library.parseClientData clientData with
  | none => .error .badClientData
  | some data =>
    if data.type ≠ some "webauthn.get" then .error .badClientData
    else if data.challenge
        ≠ some (library.encodeUrl (library.digestText (certSignedText cert))) then
      .error .badChallenge
    else if ¬ policy.allowedOrigins.contains (data.origin.getD "") then .error .badOrigin
    else if !data.crossOriginAllowed || data.topOriginPresent then .error .badOrigin
    else .ok ()

/-- The authenticator's data: made for the passkey's site, with the user present and verified. -/
def checkAuthenticatorData (passkey : PasskeyPublicKey)
    (authData : List UInt8) : Except CertError Unit :=
  if authData.length < 37 then .error .malformed
  else if authData.take 32 ≠ library.digestText passkey.rpId then .error .badRpId
  else if authData.getD 32 0 &&& 0x01 = 0 then .error .userNotPresent
  else if authData.getD 32 0 &&& 0x04 = 0 then .error .userNotVerified
  else .ok ()

/-- The signature of the passkey, over the authenticator's data and the digest of the client data. -/
def checkPasskeySignature (passkey : PasskeyPublicKey)
    (authData clientData signature : List UInt8) : Except CertError Unit :=
  match library.decodeStandard passkey.spkiB64 with
  | none => .error .malformed
  | some key =>
    if ["es256", "eddsa", "rs256"].contains passkey.alg
        && library.passkeyVerifies passkey.alg key (authData ++ library.digest clientData) signature
    then .ok () else .error .badSignature

/-- The second half of `verify_browser_cert`: what the passkey signed. -/
def checkAssertion (passkey : PasskeyPublicKey) (policy : CertPolicy) : Except CertError Unit :=
  match library.decodeUrl cert.assertion.authenticatorData,
      library.decodeUrl cert.assertion.clientDataJson,
      library.decodeUrl cert.assertion.signature with
  | some authData, some clientData, some signature => do
    checkClientData library cert policy clientData
    checkAuthenticatorData library passkey authData
    checkPasskeySignature library passkey authData clientData signature
  | _, _, _ => .error .malformed

/-- `verify_browser_cert`. -/
def verifyBrowserCert (passkey : PasskeyPublicKey)
    (expectedBrowserPubkey thisDesktopId expectedAccount : String) (nowMs : Nat)
    (policy : CertPolicy) : Except CertError Unit :=
  if cert.browserPubkey ≠ expectedBrowserPubkey ∨ cert.desktopId ≠ thisDesktopId
      ∨ cert.accountId ≠ expectedAccount then .error .bindingMismatch
  else if nowMs ≥ cert.expiryMs then .error .expired
  else if cert.expiryMs - nowMs > policy.maxTtlMs then .error .expiryTooFar
  else checkAssertion library cert passkey policy

/-- `verify_offer_proof`. -/
def verifyOfferProof (pubkeyB64 alg deviceId fingerprint sigB64 : String) : Bool :=
  match library.decodeStandard pubkeyB64, library.decodeStandard sigB64 with
  | some key, some signature =>
    ["ed25519", "p256"].contains alg
      && library.offerVerifies alg key
        ("hydra-webrtc-offer-v1:" ++ deviceId ++ ":" ++ fingerprint) signature
  | _, _ => false

/-- What a channel is set up with. -/
structure ChannelConfig where
  peerDeviceId : String
  expectedSignalSessionId : Option String
  expectedAccountId : Option String
  requireBrowserProof : Bool
  offerProof : Option OfferProof
  browserCert : Option BrowserCert
  passkey : Option PasskeyPublicKey
  allowLegacyBrowsers : Bool
  certPolicy : CertPolicy
  thisDesktopId : String
  deriving DecidableEq, Inhabited

namespace ChannelConfig

variable (config : ChannelConfig)

/-- The certificate of the offer, for the browser key of the claims. -/
def certVerifies (passkey : PasskeyPublicKey) (cert : BrowserCert) (pubkey : String)
    (claims : TokenClaims) (nowMs : Nat) : Bool :=
  match verifyBrowserCert library cert passkey pubkey config.thisDesktopId claims.accountId nowMs
      config.certPolicy with
  | .ok () => true
  | .error _ => false

/-- The claims are for another account than the enrolled one. -/
def otherAccount (claims : TokenClaims) : Bool :=
  match config.expectedAccountId with
  | some expected => claims.accountId != expected
  | none => false

/-- The claims are for another desktop, where this one is known. -/
def otherTarget (claims : TokenClaims) : Bool :=
  !config.thisDesktopId.isEmpty && claims.targetDeviceId != some config.thisDesktopId

/-- The offer proves possession of the claimed browser key. -/
def offerProves (claims : TokenClaims) (pubkey : String) : Bool :=
  match config.offerProof with
  | some proof =>
    proof.deviceId == claims.deviceId
      && verifyOfferProof library pubkey (claims.browserPubkeyAlg.getD "ed25519") claims.deviceId
        proof.fingerprint proof.sigB64
  | none => false

/-- The certificate check of a first token. A missing certificate is tolerated only where the desktop
itself allows older browsers. -/
def certRefusal (claims : TokenClaims) (nowMs : Nat) : Option String :=
  match config.passkey with
  | none => none
  | some passkey =>
    match claims.browserPubkey, config.browserCert with
    | some pubkey, some cert =>
      if config.certVerifies library passkey cert pubkey claims nowMs then none
      else some "bad_browser_cert"
    | _, _ => if config.allowLegacyBrowsers then none else some "browser_cert_required"

/-- The checks of a first token after its verification, in order: the reason of the first that
fails. -/
def authRefusal (claims : TokenClaims) (nowMs : Nat) : Option String :=
  if claims.refreshParentSha256.isSome then some "refresh_required"
  else if config.expectedSignalSessionId.isSome
      ∧ claims.signalSessionId ≠ config.expectedSignalSessionId then some "wrong_signal_session"
  else if config.otherAccount claims then some "wrong_account"
  else if config.otherTarget claims then some "wrong_target"
  else if config.requireBrowserProof ∧ config.passkey.isNone then
    some "passkey_reenrollment_required"
  else if config.requireBrowserProof ∧ claims.browserPubkey.isNone then
    some "browser_proof_required"
  else
    match claims.browserPubkey with
    | some pubkey =>
      if config.offerProves library claims pubkey then config.certRefusal library claims nowMs
      else some "bad_browser_proof"
    | none => config.certRefusal library claims nowMs

end ChannelConfig

/-- The digit of a number below sixteen. -/
def hexDigit (value : Nat) : Char :=
  if value < 10 then Char.ofNat (48 + value) else Char.ofNat (87 + value)

/-- A digest in lower-case hexadecimal. -/
def hexText (bytes : List UInt8) : String :=
  String.ofList (bytes.flatMap (fun byte =>
    [hexDigit (byte.toNat / 16), hexDigit (byte.toNat % 16)]))

/-- The claims that a successor may not change. -/
def immutableMatch (claims previous : TokenClaims) : Bool :=
  claims.accountId == previous.accountId && claims.deviceId == previous.deviceId
    && claims.sessionId == previous.sessionId && claims.signalSessionId == previous.signalSessionId
    && claims.targetDeviceId == previous.targetDeviceId
    && claims.browserPubkey == previous.browserPubkey
    && claims.browserPubkeyAlg == previous.browserPubkeyAlg

namespace ChannelConfig

variable (config : ChannelConfig)

/-- The certificate check of a successor. A certificate that is there is checked again, whatever the
desktop tolerates. -/
def successorCertRefusal (claims : TokenClaims) (nowMs : Nat) : Option String :=
  match config.passkey with
  | none => none
  | some passkey =>
    if !config.allowLegacyBrowsers || config.browserCert.isSome then
      match claims.browserPubkey, config.browserCert with
      | some pubkey, some cert =>
        if config.certVerifies library passkey cert pubkey claims nowMs then none
        else some "bad_browser_cert"
      | _, _ => some "browser_cert_required"
    else none

/-- The checks of a successor after its verification, in order. -/
def refreshRefusal (revoked : Revocations) (previous : TokenClaims) (previousHash : List UInt8)
    (initialIatMs : Nat) (claims : TokenClaims) (nowMs : Nat) : Option String :=
  if claims.refreshParentSha256 ≠ some (hexText previousHash)
      ∨ ¬ immutableMatch claims previous ∨ claims.iatMs ≤ previous.iatMs
      ∨ claims.expMs ≤ previous.expMs then some "stale_continuity"
  else if config.otherAccount claims then some "wrong_account"
  else if config.requireBrowserProof ∧ claims.browserPubkey.isNone then
    some "browser_proof_required"
  else if config.expectedSignalSessionId ≠ claims.signalSessionId ∨ config.otherTarget claims then
    some "wrong_binding"
  else if revoked claims.accountId config.peerDeviceId initialIatMs then some "revoked"
  else config.successorCertRefusal library claims nowMs

end ChannelConfig

end HydraTerm.Remote.Control
