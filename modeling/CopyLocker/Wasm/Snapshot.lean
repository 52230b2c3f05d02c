import CopyLocker.Wasm.Session

/-!
# The rest of the browser session

The operations of `copylocker-wasm::session` besides validation: device keys, the snapshot that the
shell stores, activation, key derivation and the host's events; and `Session.step`, which dispatches
them. A snapshot is imported into a session that holds nothing: credential and ticket are opened
again, and the state machine is told.

Randomness is an argument, absent when the generator fails, and so is whether a request could be
built or a key be derived. The decoding of an operation's fields is left out. As in the desktop
client, a blob is its length together with what decoding it answers.

-/

namespace CopyLocker.Wasm

open CopyLocker.Core Proto Suite Client

def errBadField : ℕ := 3

def errAlreadyActivated : ℕ := 11

def errNotEntitled : ℕ := 13

def errBadSnapshot : ℕ := 16

def errDerivation : ℕ := 17

def errBadState : ℕ := 18

/-! ### The snapshot -/

def maxSnapshotBytes : ℕ := 1024 * 1024

/-- What a session exports. -/
structure SessionSnapshot where
  kemSecretKey : Option Bytes
  signingSecretKey : Option Bytes
  credentialEnvelope : Option (Wire Envelope)
  epochCertificates : List (Wire Envelope)
  ticketEnvelope : Option (Wire Envelope)
  pendingActivationNonce : Option (ByteId 32)
  lastSeenMax : ℤ
  lastServerTime : ℤ
  rollbackEvents : ℕ
  maxSecurityFloor : ℕ
  maxRevocationEpoch : ℕ

/-- The length of an integer in the deterministic encoding. -/
def cborInt (n : ℤ) : ℕ := cborHead (if n < 0 then (-(n + 1)).toNat else n.toNat)

/-- The length of the encoded map: every key is one byte. -/
def SessionSnapshot.encodedLen (s : SessionSnapshot) : ℕ :=
  let secret (value : Option Bytes) := (value.map fun key => 1 + cborBytes key.length).getD 0
  let artifact (value : Option (Wire Envelope)) := (value.map fun w => 1 + cborBytes w.size).getD 0
  1 + 2 + secret s.kemSecretKey + secret s.signingSecretKey + artifact s.credentialEnvelope +
    (1 + cborHead s.epochCertificates.length +
      (s.epochCertificates.map fun w => cborBytes w.size).sum) +
    artifact s.ticketEnvelope + (s.pendingActivationNonce.map fun _ => 1 + cborBytes 32).getD 0 +
    (1 + cborInt s.lastSeenMax) + (1 + cborInt s.lastServerTime) +
    (1 + cborHead s.rollbackEvents) + (1 + cborHead s.maxSecurityFloor) +
    (1 + cborHead s.maxRevocationEpoch)

/-- A stored blob: its length, and the snapshot in it if it is one of the known schema. -/
structure SnapshotBlob where
  size : ℕ
  decoded : Option SessionSnapshot

/-- The device keys of a snapshot; one without the other, or one that cannot be decoded, makes it
unusable. -/
def SessionSnapshot.device (S : CryptoSuite) (s : SessionSnapshot) : Option (Option DeviceKeys) :=
  match s.kemSecretKey, s.signingSecretKey with
  | none, none => some none
  | some kem, some signing =>
    if ¬ ClientSnapshot.validSecret kem ∨ ¬ ClientSnapshot.validSecret signing then none
    else if ¬ S.validKemKey kem then none
    else
      match (fastSig S.primitives).decodeSk signing with
      | .error _ => none
      | .ok _ => some (some { kem, signing })
  | _, _ => none

/-- The clock of a snapshot, whose count of rollbacks is a 32-bit word. -/
def SessionSnapshot.clock (s : SessionSnapshot) : Option ClockState :=
  if 2 ^ 32 ≤ s.rollbackEvents then none
  else ClockState.fromPersisted s.lastSeenMax s.lastServerTime s.rollbackEvents

/-- The keys and the clock of a snapshot that is usable. -/
def SessionSnapshot.check (S : CryptoSuite) (s : SessionSnapshot) :
    Option (Option DeviceKeys × ClockState) :=
  match s.device S, s.clock with
  | some device, some clock =>
    if ClientSnapshot.validCertificates s.epochCertificates then some (device, clock) else none
  | _, _ => none

namespace Session

variable {S : CryptoSuite} (config : Config) (anchors : TrustAnchors S) (s : Session S)

/-- A fresh session. -/
def new (seedNow : ℤ) : Session S where
  state := .new config.core seedNow
  device := none
  credential := none
  credentialEnvelope := none
  ticketEnvelope := none
  epochCertificates := []
  chain := none
  material := none
  entitlements := .empty
  onlineWrappedKeks := []
  maxSecurityFloor := 0
  maxRevocationEpoch := 0
  pendingActivationNonce := none
  pendingValidateNonce := none

/-- Generate the device keys on first use. -/
def ensureDeviceKeys (generated : Option DeviceKeys) : Session S × Answer :=
  match s.device, generated with
  | some _, _ => (s, .ok none)
  | none, none => (s, .error errEntropy)
  | none, some keys => ({ s with device := some keys }, .ok none)

/-- What a session exports. -/
def snapshot : SessionSnapshot where
  kemSecretKey := s.device.map (·.kem)
  signingSecretKey := s.device.map (·.signing)
  credentialEnvelope := s.credentialEnvelope
  epochCertificates := s.epochCertificates
  ticketEnvelope := s.ticketEnvelope
  pendingActivationNonce := s.pendingActivationNonce
  lastSeenMax := s.state.clock.lastSeenMax
  lastServerTime := s.state.clock.lastServerTime
  rollbackEvents := s.state.clock.rollbackEvents
  maxSecurityFloor := s.maxSecurityFloor
  maxRevocationEpoch := s.maxRevocationEpoch

/-- The blob that the shell stores. -/
def snapshotExport : Except ℕ SnapshotBlob :=
  if maxSnapshotBytes < s.snapshot.encodedLen then .error errBadSnapshot
  else .ok { size := s.snapshot.encodedLen, decoded := some s.snapshot }

/-! ### Opening a credential -/

/-- The credential was issued for this build, or carries keys for its variant. -/
def coversBuild (c : MachineCredential) : Prop :=
  (c.buildFingerprint = some config.buildFingerprint ∧ c.variantId = config.variantId) ∨
    c.preloadedKeks.any (fun keks => keks.any (·.1 == config.variantId)) = true

instance (config : Config) (c : MachineCredential) : Decidable (coversBuild config c) :=
  inferInstanceAs (Decidable (_ ∨ _))

/-- A field of the credential that does not match the session, its marks or the time. -/
def credentialRefused (S : CryptoSuite) (config : Config) (envelope : Envelope)
    (c : MachineCredential) (now : ℤ) (knownSecurityFloor knownRevocationEpoch : ℕ) : Prop :=
  c.protoVer ≠ Proto.protoVer ∨ c.suiteId ≠ S.suiteId ∨ c.productId ≠ config.productId ∨
    envelope.epochRef ≠ some c.epochId ∨ c.fingerprint ≠ config.fingerprint ∨
    ¬ coversBuild config c ∨ c.securityFloor < knownSecurityFloor ∨
    c.revocationEpoch < knownRevocationEpoch ∨ c.issuedAt > now ∨ c.refreshAfter ≤ c.issuedAt ∨
    (c.notAfter ≠ 0 ∧ c.notAfter ≤ now)

instance (config : Config) (envelope : Envelope) (c : MachineCredential) (now : ℤ)
    (floor epoch : ℕ) : Decidable (credentialRefused S config envelope c now floor epoch) :=
  inferInstanceAs (Decidable (_ ∨ _))

/-- Open a credential with the device key. -/
def openMachineCredential (encoded : Wire Envelope) (chain : VerifiedChain S.sig)
    (kemSecretKey : Bytes) (now : ℤ) (floor epoch : ℕ) : Except FatalError (MachineCredential ×
    S.Material) :=
  openCredential (credentialRefused S config · · now floor epoch) config encoded chain kemSecretKey
    now floor epoch

/-! ### Import -/

/-- The session of an import before a credential is loaded. -/
def restored (config : Config) (snap : SessionSnapshot) (device : Option DeviceKeys)
    (clock : ClockState) : Session S :=
  { s with
    state := { StateMachine.new config.core snap.lastSeenMax with clock }
    device
    maxSecurityFloor := snap.maxSecurityFloor
    maxRevocationEpoch := snap.maxRevocationEpoch
    epochCertificates := snap.epochCertificates
    pendingActivationNonce := snap.pendingActivationNonce }

/-- The marks and entitlements of an opened credential. -/
def observeCredential (c : MachineCredential) : Session S :=
  { s with
    maxSecurityFloor := max s.maxSecurityFloor c.securityFloor
    maxRevocationEpoch := max s.maxRevocationEpoch c.revocationEpoch
    entitlements := c.entitlements }

/-- Check the stored ticket against its own nonce: the session, the material and the ticket, or how
the import ends. -/
def restoreTicket (chain : VerifiedChain S.sig) (c : MachineCredential) (material : S.Material)
    (encoded : Wire Envelope) (now : ℤ) : Except (Session S × Answer) (Session S × S.Material ×
    ValidationTicket) :=
  match orFatal encoded.decoded with
  | .error e => .error (s.failClosed e now)
  | .ok envelope =>
    match s.openOnline ValidationTicket config chain envelope now with
    | .error e => .error (s.failClosed e now)
    | .ok ticket =>
      match envelope.epochRef with
      | none => .error (s.failClosed .chainInvalid now)
      | some epoch =>
        match checkTicket ticket (s.ticketChecks config c epoch ticket.nonceCEcho) s.state.clock
            now with
        | none => .error (s, .trapped)
        | some (_, .error e) => .error (s.failClosed e now)
        | some (clock, .ok _) =>
          let s := s.observeTicket ticket clock
          if ticket.verdict = .ok then
            .ok ({ s with
                onlineWrappedKeks := ticket.wrappedKeks.getD []
                ticketEnvelope := some encoded },
              S.setOnlineSession material ticket.serverNonce ticket.epochId, ticket)
          else
            .ok ({ s with onlineWrappedKeks := [], ticketEnvelope := some encoded }, material,
              ticket)

/-- The event by which the state machine learns of a stored denial. -/
def deny (verdict : Option Verdict) (now : ℤ) : Session S :=
  match verdict with
  | none | some .ok => s
  | some verdict => s.handle (.ticketDenied verdict) now

/-- The end of an import: the state machine is told and everything verified is kept. -/
def finishImport (c : MachineCredential) (encoded : Wire Envelope) (material : S.Material)
    (chain : VerifiedChain S.sig) (deadlines : Deadlines) (verdict : Option Verdict) (now : ℤ) :
    Session S :=
  let s := { s with state := s.state.setDeadlines deadlines }
  let s := ((s.handle .credentialLoaded now).handle .tick now).deny verdict now
  { s with
    credential := some c
    credentialEnvelope := some encoded
    material := some material
    chain := some chain }

/-- Open the imported credential, and the ticket stored with it. -/
def loadCredential (encoded : Wire Envelope) (ticket : Option (Wire Envelope)) (now : ℤ) : Session S
    × Answer :=
  match s.device with
  | none => (s, .error errBadSnapshot)
  | some keys =>
    let keyset : Keyset :=
      { protoVer := Proto.protoVer, epochCertificates := s.epochCertificates,
        revocationEpoch := s.maxRevocationEpoch }
    let effectiveNow := s.state.clock.effectiveNow now
    match anchors.verifyKeyset keyset config.productId effectiveNow s.maxRevocationEpoch [] with
    | .error e => s.failClosed e now
    | .ok chain =>
      match openMachineCredential config encoded chain keys.kem effectiveNow s.maxSecurityFloor
          s.maxRevocationEpoch with
      | .error e => s.failClosed e now
      | .ok (c, material) =>
        let s := s.observeCredential c
        match ticket with
        | none =>
          (s.finishImport c encoded material chain (credentialDeadlines c) none now, .ok none)
        | some response =>
          match s.restoreTicket config chain c material response now with
          | .error ended => ended
          | .ok (s, material, t) =>
            (s.finishImport c encoded material chain (deadlinesFromTicket c t) (some t.verdict) now,
              .ok none)

/-- Import a snapshot into a session that holds neither keys nor a credential. -/
def snapshotImport (blob : SnapshotBlob) (now : ℤ) : Session S × Answer :=
  if s.device.isSome ∨ s.credential.isSome then (s, .error errBadState)
  else if blob.size = 0 ∨ maxSnapshotBytes < blob.size then (s, .error errBadSnapshot)
  else
    match blob.decoded with
    | none => (s, .error errBadSnapshot)
    | some snap =>
      match snap.check S with
      | none => (s, .error errBadSnapshot)
      | some (device, clock) =>
        let s := s.restored config snap device clock
        match snap.credentialEnvelope with
        | none => (s, .ok none)
        | some encoded => s.loadCredential config anchors encoded snap.ticketEnvelope now

/-! ### Activation -/

/-- Build an activation request; `wellFormed` says that exactly one credential is given, and `fits`
that the request could be built with the device keys. -/
def buildActivateRequest (wellFormed : Bool) (generated : Option DeviceKeys)
    (nonce : Option (ByteId 32)) (fits : Bool) : Session S × Answer :=
  if s.credential.isSome then (s, .error errAlreadyActivated)
  else if ¬ wellFormed then (s, .error errBadField)
  else
    match s.ensureDeviceKeys generated with
    | (s, .ok _) =>
      match nonce with
      | none => (s, .error errEntropy)
      | some nonce =>
        if ¬ fits then (s, .error (fatalCode .credentialCorrupt))
        else ({ s with pendingActivationNonce := some nonce }, .ok none)
    | ended => ended

/-- A verified keyset is kept. -/
def ingestKeyset (bytes : Except ProtoError Keyset) (now : ℤ) : Session S × Answer :=
  match orFatal bytes with
  | .error e => s.failClosed e now
  | .ok keyset =>
    match anchors.verifyKeyset keyset config.productId (s.state.clock.effectiveNow now)
        s.maxRevocationEpoch [] with
    | .error e => s.failClosed e now
    | .ok chain =>
      ({ s with
          epochCertificates := keyset.epochCertificates
          maxRevocationEpoch := max s.maxRevocationEpoch keyset.revocationEpoch
          chain := some chain }, .ok none)

/-- Open the credential of an activation and install it. -/
def ingestActivateResponse (encoded : Wire Envelope) (now : ℤ) : Session S × Answer :=
  if s.credential.isSome then (s, .error errAlreadyActivated)
  else
    match s.chain, s.device with
    | none, _ => (s, .error errNoChain)
    | some _, none => (s, .error errNoDeviceKeys)
    | some chain, some keys =>
      match openMachineCredential config encoded chain keys.kem (s.state.clock.effectiveNow now)
          s.maxSecurityFloor s.maxRevocationEpoch with
      | .error e => s.failClosed e now
      | .ok (c, material) =>
        let s := s.observeCredential c
        let s := { s with state := s.state.setDeadlines (credentialDeadlines c) }
        let s := s.handle .activationVerified now
        ({ s with
            pendingActivationNonce := none
            credential := some c
            credentialEnvelope := some encoded
            material := some material }, .ok none)

/-- Build a deactivation request; the wipe is a host event. -/
def buildDeactivateRequest (nonce : Option (ByteId 32)) (signs : Bool) (now : ℤ) : Session S ×
    Answer :=
  match nonce, s.credential, s.device with
  | none, _, _ => (s, .error errEntropy)
  | some _, none, _ => (s, .error errNoCredential)
  | some _, some _, none => (s, .error errNoDeviceKeys)
  | some _, some _, some keys =>
    match (fastSig S.primitives).decodeSk keys.signing with
    | .error _ => s.failClosed .credentialCorrupt now
    | .ok _ => if signs then (s, .ok none) else s.failClosed .credentialCorrupt now

/-! ### Derivation -/

def maxFeatureIdBytes : ℕ := 1024

/-- Derive half-baked material: tick, then look at entitlement and state; `derives` says whether the
derivation succeeds. -/
def deriveM (feature : String) (derives : Bool) (now : ℤ) : Session S × Answer :=
  if maxFeatureIdBytes < feature.utf8ByteSize then (s, .error errBadField)
  else
    let s := s.handle .tick now
    match s.material with
    | none => (s, .error errNoCredential)
    | some _ =>
      if ¬ s.state.permitsKeyDerivation ∨ ¬ s.entitlements.hasFeature feature then
        (s, .error errNotEntitled)
      else if derives then (s, .ok none) else (s, .error errDerivation)

/-- Unwrap the key of an asset: tick, then unwrap; every failure has one code. -/
def unsealAsset (feature : String) (unwraps : Bool) (now : ℤ) : Session S × Answer :=
  if maxFeatureIdBytes < feature.utf8ByteSize then (s, .error errBadField)
  else
    let s := s.handle .tick now
    match s.credential, s.material with
    | some _, some _ =>
      if s.state.state.permitsKeyDerivation ∧ s.entitlements.hasFeature feature ∧ unwraps then
        (s, .ok none)
      else (s, .error errNotEntitled)
    | _, _ => (s, .error errNoCredential)

/-! ### Dispatch -/

/-- The host's events. -/
inductive HostEvent
  | tick
  | networkAvailable
  | appResumed (monotonicGapMs : ℕ)
  | networkFailed
  | userDeactivate
  deriving DecidableEq

/-- The event of the state machine. -/
def HostEvent.event : HostEvent → Event
  | .tick => .tick
  | .networkAvailable => .networkAvailable
  | .appResumed gap => .appResumed gap
  | .networkFailed => .networkFailed .offline
  | .userDeactivate => .userDeactivate

/-- Drive the state machine; a deactivation also wipes. -/
def hostEvent (kind : HostEvent) (now : ℤ) : Session S × Answer :=
  let s := s.handle kind.event now
  (if kind = .userDeactivate then s.wipeMaterial else s, .ok none)

end Session

/-- The operations of a session. -/
inductive SessionOp
  | deviceKeygen (generated : Option DeviceKeys)
  | snapshotExport
  | snapshotImport (blob : SnapshotBlob)
  | buildActivateRequest (wellFormed : Bool) (generated : Option DeviceKeys)
      (nonce : Option (ByteId 32)) (fits : Bool)
  | ingestKeyset (bytes : Except ProtoError Keyset)
  | ingestActivateResponse (encoded : Wire Envelope)
  | buildValidateRequest (nonce : Option (ByteId 32))
  | ingestValidateResponse (response : Wire Envelope)
  | deriveM (feature : String) (derives : Bool)
  | unsealAsset (feature : String) (unwraps : Bool)
  | event (kind : Session.HostEvent)
  | stateQuery
  | buildDeactivateRequest (nonce : Option (ByteId 32)) (signs : Bool)

/-- An operation at a time. -/
structure SessionCall where
  now : ℤ
  op : SessionOp

/-- One operation of the session, with its answer. -/
def Session.answer {S : CryptoSuite} (config : Config) (anchors : TrustAnchors S) (s : Session S)
    (call : SessionCall) : Session S × Answer :=
  match call.op with
  | .deviceKeygen generated => s.ensureDeviceKeys generated
  | .snapshotExport =>
    (s, match s.snapshotExport with
      | .ok _ => .ok none
      | .error code => .error code)
  | .snapshotImport blob => s.snapshotImport config anchors blob call.now
  | .buildActivateRequest wellFormed generated nonce fits =>
    s.buildActivateRequest wellFormed generated nonce fits
  | .ingestKeyset bytes => s.ingestKeyset config anchors bytes call.now
  | .ingestActivateResponse encoded => s.ingestActivateResponse config encoded call.now
  | .buildValidateRequest nonce => s.buildValidateRequest nonce call.now
  | .ingestValidateResponse response => s.ingestValidateResponse config response call.now
  | .deriveM feature derives => s.deriveM feature derives call.now
  | .unsealAsset feature unwraps => s.unsealAsset feature unwraps call.now
  | .event kind => s.hostEvent kind call.now
  | .stateQuery => (s, .ok none)
  | .buildDeactivateRequest nonce signs => s.buildDeactivateRequest nonce signs call.now

/-- The session after an operation. -/
def Session.step {S : CryptoSuite} (config : Config) (anchors : TrustAnchors S) (s : Session S)
    (call : SessionCall) : Session S := (s.answer config anchors call).1

end CopyLocker.Wasm
