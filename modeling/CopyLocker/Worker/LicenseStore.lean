import CopyLocker.Foundation.Table
import CopyLocker.Proto.Artifacts
import CopyLocker.Server.Rules
import Mathlib.Data.List.Dedup

/-!
# The store of a LicenseDO

The SQLite tables of one `LicenseDO` (`durable/license.rs`) and the statements that several of
its requests share.

`init` writes the identity keys of the `meta` table together with the seat count, the status and
the nonce retention, and no other request creates or deletes one of them; every request that
writes activations, nonces or the outbox is refused before that. The store of an initialised
object is therefore one record `License`, and `State` holds it as an option beside what may exist
earlier: the administrator's version, an update received too early, and the idempotency rows.
-/

namespace CopyLocker.Worker.LicenseDO

open Foundation Server Proto

/-- How a machine was first activated. -/
inductive ActivationPath
  | online
  | offlineAr
  | olk
  | account
  deriving DecidableEq

/-- The way of an activation, and the build that it is for. -/
structure BuildDetails where
  activationPath : ActivationPath
  releaseId : String
  buildFp : Option String
  appVersion : Option String
  os : Option String
  arch : Option String
  sdkVersion : Option String
  deriving DecidableEq

/-- What a request for a reservation and its row say alike of the activation. -/
structure ReserveDetails extends BuildDetails where
  attrs : Option Bytes
  deviceKemEk : Bytes
  deviceSigVk : Bytes
  refreshAfter : ℤ
  notAfter : ℤ
  geo : Option String
  deriving DecidableEq

/-- What a reservation fixes about the activation. -/
structure ReserveMaterial extends ReserveDetails where
  variantId : ℤ
  deriving DecidableEq

/-- A row of `activations`; the columns that a reservation fixes are its `material`. -/
structure Activation where
  machineId : MachineId
  fingerprint : Bytes
  material : ReserveMaterial
  status : ActivationStatus
  createdAt : ℤ
  lastSeenAt : Option ℤ
  lastHbAt : Option ℤ
  suspicion : ℕ
  credentialState : Option Bytes
  deriving DecidableEq

namespace Activation

/-- `COALESCE(last_seen_at, created_at)`. -/
def seenAt (a : Activation) : ℤ := a.lastSeenAt.getD a.createdAt

/-- `COALESCE(last_hb_at, last_seen_at, created_at)`. -/
def beatAt (a : Activation) : ℤ := a.lastHbAt.getD a.seenAt

end Activation

/-- The answer to a reservation, stored under its idempotency key. -/
structure ReserveResponse where
  machineId : MachineId
  reusedExisting : Bool
  status : ActivationStatus
  revocationEpoch : ℕ
  securityFloor : ℕ
  variantId : ℤ
  refreshAfter : ℤ
  notAfter : ℤ
  buildFp : Option String
  fingerprint : Bytes
  credentialState : Option Bytes
  activationEnvelope : Option (Wire Envelope)
  material : Option ReserveMaterial

/-- A row of `nonces`. -/
structure NonceRow where
  nonce : ByteId 32
  seenAt : ℤ
  deriving DecidableEq

/-- The operations with an idempotency row. Each has its own key prefix and its own `kind`. -/
inductive Operation
  | adminUpdate
  | adminForget
  | reserve
  | deactivate
  deriving DecidableEq

structure IdemKey where
  operation : Operation
  key : String
  deriving DecidableEq

/-- A row of `idem`; only a reservation keeps an answer that is read again. -/
structure IdemRow where
  key : IdemKey
  requestHash : Digest
  reservation : Option ReserveResponse
  createdAt : ℤ

/-- The copy of an activation row that a projection carries. -/
structure MachineProjection extends BuildDetails where
  machineId : MachineId
  fingerprint : Bytes
  status : ActivationStatus
  firstSeenAt : ℤ
  lastSeenAt : Option ℤ
  variantId : ℤ
  geoCountry : Option String
  suspicion : ℕ
  deriving DecidableEq

/-- What the database is told of a row. -/
def MachineProjection.ofActivation (a : Activation) : MachineProjection where
  toBuildDetails := a.material.toBuildDetails
  machineId := a.machineId
  fingerprint := a.fingerprint
  status := a.status
  firstSeenAt := a.createdAt
  lastSeenAt := a.lastSeenAt
  variantId := a.material.variantId
  geoCountry := a.material.geo
  suspicion := a.suspicion

/-- What the object tells the database about itself. -/
structure ProjectionEvent where
  licenseId : LicenseId
  licenseStatus : LicenseStatus
  seatsUsed : ℕ
  lastSeenAt : Option ℤ
  machine : Option MachineProjection
  projVersion : ℕ
  occurredAt : ℤ
  deriving DecidableEq

/-- A row of `outbox`; rows are never deleted, so its `id` is its position. -/
structure OutboxRow where
  event : ProjectionEvent
  sentAt : Option ℤ
  deriving DecidableEq

/-- The tables of an initialised object. -/
structure License where
  licenseId : LicenseId
  productId : ProductId
  suiteId : SuiteId
  seats : ℕ
  heartbeatSec : Option ℤ
  expiresAt : Option ℤ
  nonceTtlSec : ℤ
  status : LicenseStatus
  projVersion : ℕ
  revocationEpoch : ℕ
  securityFloor : ℕ
  anomalyWindowStart : Option ℤ
  anomalyWindowCount : ℕ
  activations : Table Activation.machineId
  nonces : Table NonceRow.nonce
  outbox : List OutboxRow

/-- An administrator's update that arrived before `init`. -/
structure PendingAdmin where
  status : LicenseStatus
  seats : ℕ
  heartbeatSec : Option ℤ
  expiresAt : Option ℤ
  deriving DecidableEq

/-- The whole store of one object. -/
structure State where
  license : Option License
  adminVersion : ℤ
  pendingAdmin : Option PendingAdmin
  idem : Table IdemRow.key

/-- A freshly created object. -/
def State.new : State where
  license := none
  adminVersion := 0
  pendingAdmin := none
  idem := Table.empty

variable (s : State)

/-- The license status an initialised object holds. -/
def State.status : Option LicenseStatus := s.license.map (·.status)

namespace License

/-- `SELECT status FROM activations WHERE machine_id = ?`. -/
def activationStatus (l : License) (machineId : MachineId) : Option ActivationStatus :=
  (l.activations.find machineId).map (·.status)

/-- `SELECT COUNT(*) FROM activations WHERE status IN (0, 3)`. -/
def occupied (l : License) : ℕ := l.activations.countWhere (·.status.occupiesSeat)

/-- Whether the object's own copy of the expiry has passed. -/
def expired (l : License) (now : ℤ) : Bool := l.expiresAt.any fun expiry => decide (expiry ≤ now)

/-- Append one row to the outbox, with the next projection version. Every caller that names a
machine has just written its row. -/
def appendProjection (l : License) (machineId : Option MachineId) (now : ℤ) : License :=
  let event : ProjectionEvent :=
    { licenseId := l.licenseId
      licenseStatus := l.status
      seatsUsed := l.occupied
      lastSeenAt := (l.activations.rows.map Activation.seenAt).max?
      machine := (machineId.bind l.activations.find).map MachineProjection.ofActivation
      projVersion := l.projVersion + 1
      occurredAt := now }
  { l with
    projVersion := l.projVersion + 1
    outbox := l.outbox ++ [{ event, sentAt := none }] }

/-- One projection for each machine of a list. -/
def appendProjections (l : License) (machineIds : List MachineId) (now : ℤ) : License :=
  machineIds.foldl (fun l m => l.appendProjection (some m) now) l

/-- `INSERT OR IGNORE INTO nonces`: `none` for a nonce seen before. -/
def recordNonce (l : License) (nonce : ByteId 32) (now : ℤ) : Option License :=
  (l.nonces.insert { nonce, seenAt := now }).map fun nonces => { l with nonces }

/-- `UPDATE activations SET … WHERE p`. -/
def updateActivations (l : License) (p : Activation → Bool) (f : Activation → Activation)
    (hf : ∀ a, (f a).machineId = a.machineId := by intro a; rfl) : License :=
  { l with activations := l.activations.updateWhere p f hf }

/-- Raise the security floor to one the worker read from the policy. -/
def raiseFloor (l : License) (floor : ℕ) : License :=
  { l with securityFloor := max l.securityFloor floor }

/-- Raise the revocation epoch to one the worker read from the revocation log. -/
def raiseEpoch (l : License) (epoch : ℕ) : License :=
  { l with revocationEpoch := max l.revocationEpoch epoch }

end License

/-- Whether an idempotency key was used before, and for the same request. -/
inductive OperationReplay
  | completed (row : IdemRow)
  | conflict
  | missing

namespace State

/-- What is stored under a key. -/
def loadOperation (key : IdemKey) (requestHash : Digest) : OperationReplay :=
  match s.idem.find key with
  | none => .missing
  | some row => if row.requestHash = requestHash then .completed row else .conflict

/-- `INSERT INTO idem`, after the key was found to be free. -/
def storeOperation (row : IdemRow) : State := { s with idem := s.idem.upsert row }

def setLicense (l : License) : State := { s with license := some l }

/-- The activation row of a machine. -/
def machine (machineId : MachineId) : Option Activation :=
  s.license.bind fun l => l.activations.find machineId

/-- The status of a machine's row. -/
def machineStatus (machineId : MachineId) : Option ActivationStatus :=
  (s.machine machineId).map (·.status)

end State

/-! ### Frame lemmas -/

section Frame

variable (l : License) (ms : List MachineId) (now : ℤ)

/-- What an appended projection keeps, several of them keep. -/
theorem License.appendProjections_keep {α : Type} {f : License → α}
    (hf : ∀ l m, f (l.appendProjection m now) = f l) : f (l.appendProjections ms now) = f l := by
  induction ms generalizing l with
  | nil => rfl
  | cons m ms ih => exact (ih _).trans (hf l (some m))

@[simp] theorem License.appendProjections_activations :
    (l.appendProjections ms now).activations = l.activations :=
  l.appendProjections_keep ms now fun _ _ => rfl

@[simp] theorem License.appendProjections_status :
    (l.appendProjections ms now).status = l.status :=
  l.appendProjections_keep ms now fun _ _ => rfl

@[simp] theorem License.appendProjections_expiresAt :
    (l.appendProjections ms now).expiresAt = l.expiresAt :=
  l.appendProjections_keep ms now fun _ _ => rfl

end Frame

theorem loadOperation_eq_completed {s : State} {key : IdemKey} {requestHash : Digest}
    {row : IdemRow} (h : s.loadOperation key requestHash = .completed row) :
    s.idem.find key = some row ∧ row.requestHash = requestHash := by
  unfold State.loadOperation at h
  split at h
  · cases h
  next row' hfind =>
    split at h
    next hhash =>
      cases h
      exact ⟨hfind, hhash⟩
    · cases h

end CopyLocker.Worker.LicenseDO
