import CopyLocker.Client.Snapshot
import CopyLocker.Core.Ticket

/-!
# What the client trusts

Verification of a published keyset against the roots compiled into the client
(`copylocker-client::trust`), and the opening of a machine credential or an offline license key
against a verified chain and the client's high-water marks.

The suite's key encapsulation, authenticated encryption and key derivation are seen through what
they yield: the key material bound to a credential, or nothing.

## Main results

* `openCredential_eq_ok`, `openOfflineLicense_eq_ok`: what an opened artifact satisfies;
  neither of its two counters is below the client's mark.
* `openMachineCredential_eq_rollback_iff`: when a credential is refused as a revocation rollback.
-/

namespace CopyLocker.Client

open CopyLocker.Core Foundation Proto Suite

/-- The suite of a client. `bindCredential` opens the sealed secret of a credential with the
device's decapsulation key and binds key material to it; `bindOlk` does so for an offline key. -/
structure CryptoSuite where
  suiteId : SuiteId
  primitives : Primitives Tbs
  sig : SignatureScheme Tbs
  hash : Bytes → Digest
  Material : Type
  validKemKey : Bytes → Bool
  bindCredential : Bytes → MachineCredential → Option Material
  bindOlk : OfflineLicenseKey → Option Material
  setOnlineSession : Material → ByteId 32 → EpochId → Material

/-- The configuration that verification reads, with the device's fingerprint. -/
structure Config where
  productId : ProductId
  supportedSuites : List SuiteId
  buildFingerprint : String
  variantId : ℕ
  currentRootKey : Bytes
  nextRootKey : Option Bytes
  allowUnboundOlk : Bool
  core : CoreConfig
  fingerprint : Fingerprint
  deriving DecidableEq

variable {S : CryptoSuite}

/-! ### Keysets -/

/-- A root key and its digest. -/
structure RootVerifier (S : CryptoSuite) where
  digest : Digest
  key : S.sig.VerifyingKey

/-- The root of now and the next one. -/
structure TrustAnchors (S : CryptoSuite) where
  current : RootVerifier S
  next : Option (RootVerifier S)

/-- Read a root key. -/
def decodeRoot (S : CryptoSuite) (encoded : Bytes) : Except FatalError (RootVerifier S) :=
  match S.sig.decodeVk encoded with
  | .error _ => .error .chainInvalid
  | .ok key => .ok { digest := S.hash encoded, key }

namespace TrustAnchors

/-- Read the configured roots. -/
def decode (S : CryptoSuite) (current : Bytes) (next : Option Bytes) :
    Except FatalError (TrustAnchors S) := do
  let current ← decodeRoot S current
  match next with
  | none => return { current, next := none }
  | some next =>
    let next ← decodeRoot S next
    return { current, next := some next }

variable (anchors : TrustAnchors S)

/-- The digests that a chain may start from. -/
def pins : PinnedRoots :=
  { current := anchors.current.digest, next := anchors.next.map (·.digest) }

/-- The root with this digest. -/
def rootFor (digest : Digest) : Option S.sig.VerifyingKey :=
  if anchors.current.digest = digest then some anchors.current.key
  else (anchors.next.filter fun next => next.digest = digest).map (·.key)

/-- Add one certificate of a keyset. Certificates of other products, or outside their window, are
passed over. -/
def addCertificate (productId : ProductId) (now : ℤ) (chain : VerifiedChain S.sig)
    (encoded : Wire Envelope) : Except FatalError (VerifiedChain S.sig) := do
  let envelope ← orFatal encoded.decoded
  let certificate ← orFatal (envelope.peekUnverified EpochCert)
  if certificate.productScope ≠ some productId then return chain
  if envelope.protoVer ≠ Proto.protoVer ∨ envelope.suiteId ≠ S.suiteId ∨ envelope.epochRef.isSome ∨
      certificate.protoVer ≠ Proto.protoVer ∨ certificate.suiteId ≠ S.suiteId ∨
      certificate.notAfter ≤ certificate.notBefore then
    throw .credentialCorrupt
  if ¬ certificate.window.contains now then return chain
  match anchors.rootFor certificate.issuerVkDigest with
  | none => throw .chainInvalid
  | some root => orFatal (chain.addEpoch S.hash envelope productId root now)

/-- Verify a keyset. The chain starts from the client's own knowledge of revoked epochs. -/
def verifyKeyset (keyset : Keyset) (productId : ProductId) (now : ℤ) (knownRevocationEpoch : ℕ)
    (revokedEpochs : List EpochId) : Except FatalError (VerifiedChain S.sig) := do
  if keyset.protoVer ≠ Proto.protoVer then throw .credentialCorrupt
  if keyset.revocationEpoch < knownRevocationEpoch then throw .revocationRollback
  let chain : VerifiedChain S.sig := .new anchors.pins
  let revocation ← orFatal (chain.revocation.advance knownRevocationEpoch revokedEpochs)
  keyset.epochCertificates.foldlM (anchors.addCertificate productId now) { chain with revocation }

end TrustAnchors

/-! ### Machine credentials -/

/-- A field of the credential that does not match the client, its marks or the time. -/
def credentialRefused (S : CryptoSuite) (config : Config) (envelope : Envelope)
    (c : MachineCredential) (now : ℤ) (knownSecurityFloor knownRevocationEpoch : ℕ) : Prop :=
  c.protoVer ≠ Proto.protoVer ∨ c.suiteId ≠ S.suiteId ∨ c.productId ≠ config.productId ∨
    envelope.epochRef ≠ some c.epochId ∨ c.fingerprint ≠ config.fingerprint ∨
    c.buildFingerprint ≠ some config.buildFingerprint ∨ c.variantId ≠ config.variantId ∨
    c.securityFloor < knownSecurityFloor ∨ c.revocationEpoch < knownRevocationEpoch ∨
    c.issuedAt > now ∨ c.refreshAfter ≤ c.issuedAt ∨ (c.notAfter ≠ 0 ∧ c.notAfter ≤ now)

instance (config : Config) (envelope : Envelope) (c : MachineCredential) (now : ℤ)
    (floor epoch : ℕ) : Decidable (credentialRefused S config envelope c now floor epoch) :=
  inferInstanceAs (Decidable (_ ∨ _))

/-- The error of a refused credential. -/
def credentialError (config : Config) (c : MachineCredential)
    (knownSecurityFloor knownRevocationEpoch : ℕ) : FatalError :=
  if c.securityFloor < knownSecurityFloor then .securityFloorRegression
  else if c.revocationEpoch < knownRevocationEpoch then .revocationRollback
  else if c.fingerprint ≠ config.fingerprint then .machineMismatch
  else .credentialCorrupt

/-- Open a credential: the body of a client's `open_machine_credential`, with the fields that the
client refuses. -/
def openCredential (refused : Envelope → MachineCredential → Prop)
    [∀ envelope c, Decidable (refused envelope c)] (config : Config) (encoded : Wire Envelope)
    (chain : VerifiedChain S.sig) (kemSecretKey : Bytes) (now : ℤ)
    (knownSecurityFloor knownRevocationEpoch : ℕ) :
    Except FatalError (MachineCredential × S.Material) := do
  let envelope ← orFatal encoded.decoded
  if envelope.protoVer ≠ Proto.protoVer ∨ envelope.suiteId ≠ S.suiteId then
    throw .credentialCorrupt
  let c ← orFatal (chain.verifyArtifact MachineCredential envelope config.productId now)
  if refused envelope c then
    throw (credentialError config c knownSecurityFloor knownRevocationEpoch)
  match S.bindCredential kemSecretKey c with
  | none => throw .credentialCorrupt
  | some material => return (c, material)

/-- Open a credential with the device keys of the snapshot. -/
def openMachineCredential (config : Config) (encoded : Wire Envelope) (chain : VerifiedChain S.sig)
    (snapshot : ClientSnapshot) (now : ℤ) (floor epoch : ℕ) :
    Except FatalError (MachineCredential × S.Material) :=
  openCredential (credentialRefused S config · · now floor epoch) config encoded chain
    snapshot.kemSecretKey now floor epoch

/-! ### Offline license keys -/

/-- Why an offline license key is not opened. -/
inductive OpenOlkError
  | fatal (error : FatalError)
  | unboundDisabled
  deriving DecidableEq

/-- A field of the key that does not match the client, its marks or the time. -/
def licenseRefused (S : CryptoSuite) (config : Config) (envelope : Envelope)
    (l : OfflineLicenseKey) (now : ℤ) (knownSecurityFloor knownRevocationEpoch : ℕ) : Prop :=
  l.protoVer ≠ Proto.protoVer ∨ l.suiteId ≠ S.suiteId ∨ l.productId ≠ config.productId ∨
    envelope.protoVer ≠ Proto.protoVer ∨ envelope.suiteId ≠ S.suiteId ∨
    envelope.epochRef ≠ some l.epochId ∨ l.buildFingerprint ≠ config.buildFingerprint ∨
    l.variantId ≠ config.variantId ∨ l.maxSeats = 0 ∨ l.securityFloor < knownSecurityFloor ∨
    l.revocationEpoch < knownRevocationEpoch ∨ l.issuedAt > now ∨
    (l.notAfter ≠ 0 ∧ (l.notAfter ≤ l.issuedAt ∨ now ≥ l.notAfter)) ∨
    l.wrappedKeks.any fun (feature, _) => !l.entitlements.hasFeature feature

instance (config : Config) (envelope : Envelope) (l : OfflineLicenseKey) (now : ℤ)
    (floor epoch : ℕ) : Decidable (licenseRefused S config envelope l now floor epoch) :=
  inferInstanceAs (Decidable (_ ∨ _))

/-- The error for it: a rollback is named. -/
def licenseError (l : OfflineLicenseKey) (knownSecurityFloor knownRevocationEpoch : ℕ) :
    FatalError :=
  if l.securityFloor < knownSecurityFloor then .securityFloorRegression
  else if l.revocationEpoch < knownRevocationEpoch then .revocationRollback
  else .credentialCorrupt

/-- Open an offline license key; its signature is checked at its own issue time. -/
def openOfflineLicense (config : Config) (envelope : Envelope) (chain : VerifiedChain S.sig)
    (now : ℤ) (knownSecurityFloor knownRevocationEpoch : ℕ) :
    Except OpenOlkError (OfflineLicenseKey × S.Material) :=
  match orFatal (envelope.peekUnverified OfflineLicenseKey) with
  | .error e => .error (.fatal e)
  | .ok preview =>
    match orFatal (chain.verifyArtifact OfflineLicenseKey envelope config.productId
        preview.issuedAt) with
    | .error e => .error (.fatal e)
    | .ok l =>
      if licenseRefused S config envelope l now knownSecurityFloor knownRevocationEpoch then
        .error (.fatal (licenseError l knownSecurityFloor knownRevocationEpoch))
      else if l.boundFingerprint.any fun bound => bound ≠ config.fingerprint then
        .error (.fatal .machineMismatch)
      else if l.boundFingerprint.isNone ∧ ¬ config.allowUnboundOlk then .error .unboundDisabled
      else
        match S.bindOlk l with
        | none => .error (.fatal .credentialCorrupt)
        | some material => .ok (l, material)

/-! ### What an opened artifact satisfies -/

section Opened

variable {config : Config} {chain : VerifiedChain S.sig} {now : ℤ} {floor epoch : ℕ}
  {material : S.Material} {encoded : Wire Envelope} {snapshot : ClientSnapshot}
  {c : MachineCredential}

/-- An opened credential is the body of its envelope, and nothing about it was refused. -/
theorem openCredential_eq_ok {refused : Envelope → MachineCredential → Prop}
    [∀ envelope c, Decidable (refused envelope c)] {kem : Bytes} (h : openCredential refused config
      encoded chain kem now floor epoch = .ok (c, material)) :
    ∃ envelope, encoded.decoded = .ok envelope ∧ envelope.peekUnverified MachineCredential = .ok c ∧
      ¬ refused envelope c := by
  obtain ⟨envelope, hdecoded, h⟩ := Result.bind_eq_ok.1 h
  dsimp only at h
  split at h
  · cases h
  obtain ⟨c', hverify, h⟩ := Result.bind_eq_ok.1 h
  split at h
  · cases h
  next hfine =>
  split at h
  · cases h
  · cases h
    exact ⟨envelope, orFatal_eq_ok.1 hdecoded,
      VerifiedChain.peek_of_verifyArtifact (orFatal_eq_ok.1 hverify), hfine⟩

/-- For a credential whose signature verifies, a rollback is reported exactly when its epoch is
behind the mark and its floor is not. -/
theorem openMachineCredential_eq_rollback_iff {envelope : Envelope}
    (hdecoded : encoded.decoded = .ok envelope) (hver : envelope.protoVer = protoVer)
    (hsuite : envelope.suiteId = S.suiteId)
    (hverify : chain.verifyArtifact MachineCredential envelope config.productId now = .ok c) :
    openMachineCredential config encoded chain snapshot now floor epoch =
        .error .revocationRollback ↔
      floor ≤ c.securityFloor ∧ c.revocationEpoch < epoch := by
  have hheader : ¬ (envelope.protoVer ≠ protoVer ∨ envelope.suiteId ≠ S.suiteId) := by
    simp [hver, hsuite]
  unfold openMachineCredential openCredential
  simp only [hdecoded, orFatal, hverify, bind, Except.bind, if_neg hheader, pure, Except.pure]
  by_cases hrefused : credentialRefused S config envelope c now floor epoch
  · rw [if_pos hrefused]
    simp only [throw, throwThe, MonadExceptOf.throw, credentialError]
    split_ifs with hfloor hepoch hprint
    · simp [Nat.not_le.2 hfloor]
    · simp [hepoch, Nat.not_lt.1 hfloor]
    · simp [hepoch]
    · simp [hepoch]
  · have hepoch : ¬ c.revocationEpoch < epoch := by
      intro hlt
      exact hrefused (by simp [credentialRefused, hlt])
    rw [if_neg hrefused]
    cases S.bindCredential snapshot.kemSecretKey c <;>
      simp [hepoch, throw, throwThe, MonadExceptOf.throw]

/-- An opened offline key is the body of its envelope, and nothing about it was refused. -/
theorem openOfflineLicense_eq_ok {envelope : Envelope} {l : OfflineLicenseKey}
    (h : openOfflineLicense config envelope chain now floor epoch = .ok (l, material)) :
    envelope.peekUnverified OfflineLicenseKey = .ok l ∧
      ¬ licenseRefused S config envelope l now floor epoch := by
  revert h
  fun_cases openOfflineLicense config envelope chain now floor epoch with
  | case7 _ _ _ hverify hfine =>
    rintro ⟨⟩
    exact ⟨VerifiedChain.peek_of_verifyArtifact (orFatal_eq_ok.1 hverify), hfine⟩
  | _ => rintro ⟨⟩

end Opened

end CopyLocker.Client
