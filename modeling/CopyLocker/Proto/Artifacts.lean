import CopyLocker.Foundation.Saturating
import CopyLocker.Suite.Signature

/-!
# Signed artifacts and their envelopes

The artifact bodies of `copylocker-proto::artifacts` and the envelope that carries one with
its signature.

Encoded bytes are seen through the two things the protocol code does with them: it measures
them and it decodes them. `Wire α` is a byte string with its length and the answer of the
decoder for `α`; a body to be signed is a value of `Tbs`, one constructor for each artifact,
and `malformed` for bytes that no decoder accepts. An offline activation response carries
encoded envelopes inside its own body, so `Tbs` is a nested inductive type.
-/

namespace CopyLocker.Proto

open Foundation.Saturating Suite

/-- An encoding failure. -/
inductive CodecError
  | malformed
  | missingField (field : ℕ)
  | typeMismatch (field : ℕ)
  | depthExceeded
  | tooLong
  | notCanonical
  | trailingBytes
  | unknownDiscriminant
  deriving DecidableEq

/-- A protocol-level failure; every one is fail-closed. -/
inductive ProtoError
  | codec (error : CodecError)
  | crypto (error : CryptoError)
  | unsupportedProtoVersion (version : ℕ)
  | unsupportedSuite
  | artifactKindMismatch
  | rootPinMismatch
  | outsideValidityWindow
  | epochRevoked
  | unknownEpoch
  | monotonicityViolation
  | nonceMismatch
  | machineMismatch
  | fieldOutOfRange (field : ℕ)
  | malformedLicenseKey
  deriving DecidableEq

/-- The protocol version this build speaks. -/
def protoVer : ℕ := 1

/-- The length of an item's head in the deterministic encoding. -/
def cborHead (n : ℕ) : ℕ :=
  if n < 24 then 1 else if n < 2 ^ 8 then 2 else if n < 2 ^ 16 then 3
  else if n < 2 ^ 32 then 5 else 9

/-- The length of a byte string of `n` bytes. -/
def cborBytes (n : ℕ) : ℕ := cborHead n + n

/-- Encoded bytes: their length, and what decoding them as an `α` answers. -/
structure Wire (α : Type) where
  size : ℕ
  decoded : Except ProtoError α

/-- Wrapped key-encryption keys by feature. -/
abbrev WrappedKeks := List (String × Bytes)

/-- Wrapped keys for the builds of other variants. -/
abbrev PreloadedKeks := List (ℕ × WrappedKeks)

/-- The entitlement snapshot; the client reads its feature list only. -/
structure Entitlements where
  features : List String
  deriving DecidableEq

/-- No features. -/
def Entitlements.empty : Entitlements := { features := [] }

def Entitlements.hasFeature (e : Entitlements) (feature : String) : Bool :=
  e.features.contains feature

/-! ### Artifact bodies -/

/-- Root-signed certificate for an epoch signing key. -/
structure EpochCert where
  protoVer : ℕ
  suiteId : SuiteId
  epochId : EpochId
  vk : Bytes
  vkFast : Bytes
  notBefore : ℤ
  notAfter : ℤ
  productScope : Option ProductId
  issuerVkDigest : Digest
  deriving DecidableEq

/-- When the epoch may sign. -/
def EpochCert.window (c : EpochCert) : TimeWindow :=
  { notBefore := c.notBefore, notAfter := c.notAfter }

/-- The durable per-device credential. -/
structure MachineCredential where
  protoVer : ℕ
  suiteId : SuiteId
  productId : ProductId
  licenseId : LicenseId
  machineId : MachineId
  fingerprint : Fingerprint
  kemCt : Bytes
  sealedCs : Bytes
  offlineNonce : ByteId 32
  entitlements : Entitlements
  issuedAt : ℤ
  notAfter : ℤ
  refreshAfter : ℤ
  graceSeconds : ℕ
  revocationEpoch : ℕ
  epochId : EpochId
  buildFingerprint : Option String
  securityFloor : ℕ
  variantId : ℕ
  wrappedKeks : WrappedKeks
  preloadedKeks : Option PreloadedKeks
  deriving DecidableEq

/-- The instant at which the client must stop working offline. -/
def MachineCredential.graceDeadline (c : MachineCredential) : ℤ :=
  let soft := signedAdd 64 c.refreshAfter c.graceSeconds
  if c.notAfter = 0 then soft else min soft c.notAfter

/-- Per-validation ticket. -/
structure ValidationTicket where
  protoVer : ℕ
  suiteId : SuiteId
  machineId : MachineId
  nonceCEcho : ByteId 32
  serverNonce : ByteId 32
  serverTime : ℤ
  nextRefreshAfter : ℤ
  notAfter : ℤ
  revocationEpoch : ℕ
  verdict : Verdict
  entitlements : Option Entitlements
  epochId : EpochId
  securityFloor : ℕ
  wrappedKeks : Option WrappedKeks
  deriving DecidableEq

/-- Immediate revocation instruction for one device. -/
structure KillOrder where
  protoVer : ℕ
  suiteId : SuiteId
  machineId : MachineId
  nonceCEcho : ByteId 32
  serverTime : ℤ
  reason : KillReason
  userMessage : Option String
  revocationEpoch : ℕ
  deriving DecidableEq

/-- Batched revocation state. -/
structure RevocationBatch where
  protoVer : ℕ
  suiteId : SuiteId
  fromEpoch : ℕ
  toEpoch : ℕ
  issuedAt : ℤ
  revokedLicenseIds : List LicenseId
  revokedMachineIds : List MachineId
  revokedEpochIds : List EpochId
  deriving DecidableEq

/-- Compact offline license key. -/
structure OfflineLicenseKey where
  protoVer : ℕ
  suiteId : SuiteId
  productId : ProductId
  licenseId : LicenseId
  entitlements : Entitlements
  issuedAt : ℤ
  notAfter : ℤ
  boundFingerprint : Option Fingerprint
  maxSeats : ℕ
  epochId : EpochId
  machineId : MachineId
  offlineNonce : ByteId 32
  keySeed : ByteId 32
  buildFingerprint : String
  variantId : ℕ
  securityFloor : ℕ
  revocationEpoch : ℕ
  wrappedKeks : WrappedKeks
  deriving DecidableEq

/-- An envelope around a body of type `β`. -/
structure EnvelopeOf (β : Type) where
  protoVer : ℕ
  suiteId : SuiteId
  kind : ArtifactKind
  tbs : β
  sig : Bytes
  epochRef : Option EpochId

/-- Offline activation response around bodies of type `β`. -/
structure ActivationResponseOf (β : Type) where
  protoVer : ℕ
  suiteId : SuiteId
  nonceCEcho : ByteId 32
  credential : Wire (EnvelopeOf β)
  chain : List (Wire (EnvelopeOf β))
  serverTime : ℤ
  validUntil : ℤ

/-- The canonical form of an artifact: what a signature covers. -/
inductive Tbs
  | epochCert (a : EpochCert)
  | machineCred (a : MachineCredential)
  | validationTicket (a : ValidationTicket)
  | killOrder (a : KillOrder)
  | revocationBatch (a : RevocationBatch)
  | offlineLicenseKey (a : OfflineLicenseKey)
  | activationResponse (a : ActivationResponseOf Tbs)
  | malformed (error : CodecError)

/-- A signed artifact as it travels on the wire or sits on disk. -/
abbrev Envelope := EnvelopeOf Tbs

/-- Offline activation response. -/
abbrev ActivationResponse := ActivationResponseOf Tbs

/-- The published set of epoch certificates. It is not signed itself. -/
structure Keyset where
  protoVer : ℕ
  epochCertificates : List (Wire Envelope)
  revocationEpoch : ℕ

/-- An artifact type: its kind, its canonical form and the reading of one. -/
class Artifact (α : Type) where
  kind : ArtifactKind
  toCanonical : α → Tbs
  fromCanonical : Tbs → Except CodecError α
  from_to : ∀ a, fromCanonical (toCanonical a) = .ok a

instance : Artifact EpochCert where
  kind := .epochCert
  toCanonical := .epochCert
  fromCanonical
    | .epochCert a => .ok a
    | .malformed e => .error e
    | _ => .error .malformed
  from_to _ := rfl

instance : Artifact MachineCredential where
  kind := .machineCred
  toCanonical := .machineCred
  fromCanonical
    | .machineCred a => .ok a
    | .malformed e => .error e
    | _ => .error .malformed
  from_to _ := rfl

instance : Artifact ValidationTicket where
  kind := .validationTicket
  toCanonical := .validationTicket
  fromCanonical
    | .validationTicket a => .ok a
    | .malformed e => .error e
    | _ => .error .malformed
  from_to _ := rfl

instance : Artifact KillOrder where
  kind := .killOrder
  toCanonical := .killOrder
  fromCanonical
    | .killOrder a => .ok a
    | .malformed e => .error e
    | _ => .error .malformed
  from_to _ := rfl

instance : Artifact RevocationBatch where
  kind := .revocationBatch
  toCanonical := .revocationBatch
  fromCanonical
    | .revocationBatch a => .ok a
    | .malformed e => .error e
    | _ => .error .malformed
  from_to _ := rfl

instance : Artifact OfflineLicenseKey where
  kind := .offlineLicenseKey
  toCanonical := .offlineLicenseKey
  fromCanonical
    | .offlineLicenseKey a => .ok a
    | .malformed e => .error e
    | _ => .error .malformed
  from_to _ := rfl

instance : Artifact ActivationResponse where
  kind := .activationResponse
  toCanonical := .activationResponse
  fromCanonical
    | .activationResponse a => .ok a
    | .malformed e => .error e
    | _ => .error .malformed
  from_to _ := rfl

/-! ### The envelope -/

namespace EnvelopeOf

/-- Read the body of an artifact, with the codec's failure as a protocol error. -/
def readBody (α : Type) [Artifact α] (tbs : Tbs) : Except ProtoError α :=
  match (Artifact.fromCanonical tbs : Except CodecError α) with
  | .ok a => .ok a
  | .error e => .error (.codec e)

/-- Sign an artifact. -/
def sealArtifact {α : Type} [Artifact α] (S : SignatureScheme Tbs) (artifact : α)
    (suiteId : SuiteId) (productId : ProductId) (epochRef : Option EpochId) (sk : S.SigningKey) :
    Except ProtoError Envelope :=
  let tbs := Artifact.toCanonical artifact
  match S.sign sk { kind := Artifact.kind α, suiteId, productId } tbs with
  | .error e => .error (.crypto e)
  | .ok sig =>
    .ok { protoVer := Proto.protoVer, suiteId, kind := Artifact.kind α, tbs, sig, epochRef }

/-- Verify the signature and decode the body. -/
def openArtifact (α : Type) [Artifact α] (S : SignatureScheme Tbs) (env : Envelope)
    (productId : ProductId) (vk : S.VerifyingKey) : Except ProtoError α :=
  if env.protoVer ≠ Proto.protoVer then .error (.unsupportedProtoVersion env.protoVer)
  else if env.kind ≠ Artifact.kind α then .error .artifactKindMismatch
  else
    match S.verify vk { kind := Artifact.kind α, suiteId := env.suiteId, productId } env.tbs
        env.sig with
    | .error e => .error (.crypto e)
    | .ok () => readBody α env.tbs

/-- Decode the body without checking the signature. -/
def peekUnverified (α : Type) [Artifact α] (env : Envelope) : Except ProtoError α :=
  if env.kind ≠ Artifact.kind α then .error .artifactKindMismatch else readBody α env.tbs

theorem kind_of_peekUnverified {α : Type} [Artifact α] {env : Envelope} {a : α}
    (h : env.peekUnverified α = .ok a) : env.kind = Artifact.kind α := by
  unfold peekUnverified at h
  split_ifs at h with hkind
  exact not_not.1 hkind

/-- A successfully opened body is the envelope's own body. -/
theorem peekUnverified_of_openArtifact {α : Type} [Artifact α] {S : SignatureScheme Tbs}
    {env : Envelope} {productId : ProductId} {vk : S.VerifyingKey} {a : α}
    (h : env.openArtifact α S productId vk = .ok a) : env.peekUnverified α = .ok a := by
  unfold openArtifact at h
  split_ifs at h with hver hkind
  cases hv : S.verify vk { kind := Artifact.kind α, suiteId := env.suiteId, productId } env.tbs
      env.sig with
  | error e => simp [hv] at h
  | ok _ =>
    simp only [hv] at h
    rw [peekUnverified, if_neg hkind, h]

end EnvelopeOf

/-! ### Sample artifacts -/

/-- An envelope with a signature of the shape of a hybrid one. -/
def sampleEnvelope (kind : ArtifactKind) (tbs : Tbs) (epochRef : Option EpochId) :
    Wire Envelope where
  size := 100
  decoded := .ok
    { protoVer := 1, suiteId := 0x01000001, kind, tbs,
      sig := [0, 0, 0, 0] ++ [0, 0, 0, 64] ++ List.replicate 64 0, epochRef }

/-- An epoch of one product, from an instant on. -/
def sampleCert (epochId : EpochId) (notBefore : ℤ := 0) : EpochCert where
  protoVer := 1
  suiteId := 0x01000001
  epochId := epochId
  vk := List.replicate 32 0
  vkFast := List.replicate 32 0
  notBefore := notBefore
  notAfter := 1000000
  productScope := some "app"
  issuerVkDigest := 0

/-- Its certificate. -/
def certificateOf (epochId : EpochId) (notBefore : ℤ := 0) : Wire Envelope :=
  sampleEnvelope .epochCert (.epochCert (sampleCert epochId notBefore)) none

/-- A credential issued at `1000` that expires at the given instant. -/
def sampleCredential (notAfter : ℤ) : MachineCredential where
  protoVer := 1
  suiteId := 0x01000001
  productId := "app"
  licenseId := 1
  machineId := 2
  fingerprint := [7]
  kemCt := []
  sealedCs := []
  offlineNonce := 0
  entitlements := .empty
  issuedAt := 1000
  notAfter
  refreshAfter := 50000
  graceSeconds := 600
  revocationEpoch := 0
  epochId := 5
  buildFingerprint := some "build"
  securityFloor := 0
  variantId := 1
  wrappedKeks := []
  preloadedKeks := none

end CopyLocker.Proto
