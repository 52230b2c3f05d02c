import CopyLocker.Proto.Chain

/-!
# What the client keeps on disk

The client's snapshot (`copylocker-client::snapshot`) inside the store's record
(`copylocker-store::record`), and the store as a cell that holds the last record saved. A save
merges the high-water marks of the record it replaces.

As elsewhere, encoded bytes are their length together with the decoder's answer. The lengths are
those of the deterministic encoding, so the size limits are the source's.
-/

namespace CopyLocker.Client

open Proto Except

/-! ### The snapshot -/

/-- Why a snapshot is not written or read. -/
inductive SnapshotError
  | codec (error : CodecError)
  | malformed
  | unsupportedSchema
  | tooLarge
  deriving DecidableEq

def maxRecordLen : ℕ := 16 * 1024 * 1024

def maxSecretKeyBytes : ℕ := 64 * 1024

def maxArtifactBytes : ℕ := 1024 * 1024

def maxKeysetCertificates : ℕ := 1000

def maxEpochCertificateBytes : ℕ := 64 * 1024

/-- The largest array that the snapshot's decoder accepts. -/
def snapshotMaxItems : ℕ := 4096

/-- What the client persists besides the high-water marks. -/
structure ClientSnapshot where
  kemSecretKey : Bytes
  signingSecretKey : Bytes
  credentialEnvelope : Option (Wire Envelope)
  epochCertificates : List (Wire Envelope)
  validationTicket : Option (Wire Envelope)
  pendingActivationNonce : Option (ByteId 32)
  revokedEpochs : List EpochId

/-- Freshly generated device keys. -/
structure DeviceKeys where
  kem : Bytes
  signing : Bytes
  deriving DecidableEq

namespace ClientSnapshot

/-- A snapshot of device keys only. -/
def new (keys : DeviceKeys) : ClientSnapshot where
  kemSecretKey := keys.kem
  signingSecretKey := keys.signing
  credentialEnvelope := none
  epochCertificates := []
  validationTicket := none
  pendingActivationNonce := none
  revokedEpochs := []

/-- A key is not empty and not too long. -/
def validSecret (value : Bytes) : Bool :=
  !value.isEmpty && decide (value.length ≤ maxSecretKeyBytes)

/-- A stored artifact is not empty and not too long. -/
def validOptionalArtifact (value : Option (Wire Envelope)) : Bool :=
  value.all fun w => decide (0 < w.size) && decide (w.size ≤ maxArtifactBytes)

/-- Neither the certificates nor their number are too large. -/
def validCertificates (values : List (Wire Envelope)) : Bool :=
  decide (values.length ≤ maxKeysetCertificates) &&
    values.all fun w => decide (0 < w.size) && decide (w.size ≤ maxEpochCertificateBytes)

/-- The length of the encoded map: every key is one byte. -/
def encodedLen (s : ClientSnapshot) : ℕ :=
  let artifact (value : Option (Wire Envelope)) := (value.map fun w => 1 + cborBytes w.size).getD 0
  1 + 2 + (1 + cborBytes s.kemSecretKey.length) + (1 + cborBytes s.signingSecretKey.length) +
    artifact s.credentialEnvelope +
    (1 + cborHead s.epochCertificates.length +
      (s.epochCertificates.map fun w => cborBytes w.size).sum) +
    artifact s.validationTicket +
    (s.pendingActivationNonce.map fun _ => 1 + cborBytes 32).getD 0 +
    (1 + cborHead s.revokedEpochs.length + s.revokedEpochs.length * cborBytes 8)

/-- What decoding the encoded snapshot answers: long arrays are refused, and repeated revoked
epochs are dropped. -/
def readBack (s : ClientSnapshot) : Except SnapshotError ClientSnapshot :=
  if snapshotMaxItems < s.revokedEpochs.length then .error (.codec .tooLong)
  else .ok { s with revokedEpochs := mergeEpochs [] s.revokedEpochs }

end ClientSnapshot

/-- An encoded snapshot: its length, and what decoding it answers. -/
structure Payload where
  size : ℕ
  decoded : Except SnapshotError ClientSnapshot

namespace ClientSnapshot

/-- Check the fields of a snapshot, and write it. -/
def encode (s : ClientSnapshot) : Except SnapshotError Payload :=
  if ¬ validSecret s.kemSecretKey ∨ ¬ validSecret s.signingSecretKey then .error .malformed
  else if ¬ validOptionalArtifact s.credentialEnvelope ∨
      ¬ validOptionalArtifact s.validationTicket then .error .tooLarge
  else if ¬ validCertificates s.epochCertificates then .error .tooLarge
  else if maxRecordLen < s.encodedLen then .error .tooLarge
  else .ok { size := s.encodedLen, decoded := s.readBack }

/-- The snapshot that is read back differs at most in repeated revoked epochs. -/
theorem readBack_eq_ok {s s' : ClientSnapshot} (h : s.readBack = .ok s') :
    s' = { s with revokedEpochs := mergeEpochs [] s.revokedEpochs } := by
  unfold readBack at h
  split_ifs at h
  exact (ok.inj h).symm

end ClientSnapshot

/-! ### The record -/

/-- The marks that only move forwards. -/
structure MonotonicState where
  lastSeenMax : ℤ
  lastServerTime : ℤ
  rollbackEvents : ℕ
  maxSeenSecurityFloor : ℕ
  maxSeenRevocationEpoch : ℕ
  deriving DecidableEq

namespace MonotonicState

/-- Merge another replica without letting a mark decrease. -/
def merge (m other : MonotonicState) : MonotonicState where
  lastSeenMax := max m.lastSeenMax other.lastSeenMax
  lastServerTime := max m.lastServerTime other.lastServerTime
  rollbackEvents := max m.rollbackEvents other.rollbackEvents
  maxSeenSecurityFloor := max m.maxSeenSecurityFloor other.maxSeenSecurityFloor
  maxSeenRevocationEpoch := max m.maxSeenRevocationEpoch other.maxSeenRevocationEpoch

/-- No server time is ahead of the clock's mark. -/
def isWellFormed (m : MonotonicState) : Bool := decide (m.lastServerTime ≤ m.lastSeenMax)

end MonotonicState

/-- The errors of a store. -/
inductive StoreError
  | invalidRecord
  | recordTooLarge
  | unavailable
  deriving DecidableEq

/-- What is stored: the marks, and the snapshot. -/
structure StoreRecord where
  monotonic : MonotonicState
  payload : Payload

/-- The length of a record before its payload. -/
def recordHeaderLen : ℕ := 58

/-- The checks of encoding a record; the encoding itself is read back as the record. -/
def StoreRecord.encode (r : StoreRecord) : Except StoreError StoreRecord :=
  if ¬ r.monotonic.isWellFormed then .error .invalidRecord
  else if 2 ^ 32 ≤ r.payload.size then .error .recordTooLarge
  else if maxRecordLen < recordHeaderLen + r.payload.size then .error .recordTooLarge
  else .ok r

theorem StoreRecord.encode_eq_ok {r r' : StoreRecord} (h : r.encode = .ok r') : r' = r := by
  unfold StoreRecord.encode at h
  split_ifs at h
  exact (ok.inj h).symm

/-! ### The store -/

/-- The durable cell: the last record saved. -/
abbrev KeyStore := Option StoreRecord

namespace KeyStore

/-- Save a record with the marks of the one it replaces merged in; an outage leaves the store as
it is. -/
def save (store : KeyStore) (r : StoreRecord) (available : Bool) : Except StoreError KeyStore :=
  if ¬ available then .error .unavailable
  else
    match store with
    | none => .ok (some r)
    | some old => .ok (some { r with monotonic := r.monotonic.merge old.monotonic })

/-- Delete the record; an outage leaves it. -/
def wipe (store : KeyStore) (available : Bool) : KeyStore := if available then none else store

/-- What is saved has the payload given, and no mark below the given ones. -/
theorem save_eq_ok {store store' : KeyStore} {r : StoreRecord} {available : Bool}
    (h : store.save r available = .ok store') :
    ∃ r', store' = some r' ∧ r'.payload = r.payload ∧
      r.monotonic.lastSeenMax ≤ r'.monotonic.lastSeenMax ∧
      r.monotonic.maxSeenSecurityFloor ≤ r'.monotonic.maxSeenSecurityFloor ∧
      r.monotonic.maxSeenRevocationEpoch ≤ r'.monotonic.maxSeenRevocationEpoch := by
  unfold save at h
  split_ifs at h
  cases store with
  | none =>
    obtain rfl : some r = store' := ok.inj h
    exact ⟨r, rfl, rfl, Int.le_refl _, Nat.le_refl _, Nat.le_refl _⟩
  | some old =>
    obtain rfl : some { r with monotonic := r.monotonic.merge old.monotonic } = store' :=
      ok.inj h
    exact ⟨_, rfl, rfl, Int.le_max_left .., Nat.le_max_left .., Nat.le_max_left ..⟩

end KeyStore

end CopyLocker.Client
