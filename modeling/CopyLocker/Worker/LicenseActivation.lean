import CopyLocker.Worker.LicenseStore

/-!
# Administration and activation requests of a LicenseDO

The requests of `durable/license.rs` that the worker sends on behalf of an administrator
(`init`, `admin_update`, `admin_forget`, `revoke`) and the three phases of an activation
(`reserve`, `complete`, `commit`).

A request runs without yielding between its first read and its last write, so it is one function
of the store. Writes made before a request is refused stay. The byte lengths of identifiers are
part of their types, and the branches of the source that answer `storage_corrupt` when an update
of a row read a moment ago finds nothing are not reachable.

-/

namespace CopyLocker.Worker.LicenseDO

open Foundation Saturating Server Proto

/-- The error codes of the object. -/
inductive ErrorCode
  | invalidRequest
  | identityConflict
  | idempotencyConflict
  | licenseRevoked
  | notInitialized
  | invalidCredential
  | activationPending
  | seatExhausted
  | reservationMissing
  | reservationIncompatible
  | invalidArtifact
  | replayedNonce
  | storageCorrupt
  | notFound
  | staleRevocationEpoch
  deriving DecidableEq

/-- The answer to a validation: a kill order's reason, or what a ticket needs. -/
structure ValidateState where
  killReason : Option ℕ
  revocationEpoch : ℕ
  securityFloor : ℕ
  suspicion : ℕ
  previousSuspicion : ℕ
  suspicionContributions : Option (List Anomaly.Contribution)
  fingerprint : Option Bytes
  credentialState : Option Bytes
  activationPath : Option ActivationPath
  deriving DecidableEq

/-- The answers of the object; `fault` is an error that leaves the request without an answer,
`alarm` the events an alarm handed to the queue. -/
inductive Response
  | ok
  | adminUpdated (initialized : Bool)
  | forgotten (forgotten : Bool)
  | reserved (httpStatus : ℕ) (reservation : ReserveResponse)
  | completed (envelope : Wire Envelope)
  | heartbeat (nextAfter : ℤ)
  | revoked (changed : Bool) (revocationEpoch : ℕ)
  | validated (outcome : ValidateState)
  | alarm (sent : List ProjectionEvent)
  | error (httpStatus : ℕ) (code : ErrorCode)
  | fault (sent : List ProjectionEvent)

/-! ### Requests -/

/-- Set the object up. -/
structure InitRequest where
  licenseId : LicenseId
  productId : ProductId
  suiteId : SuiteId
  seats : ℕ
  heartbeatSec : Option ℕ
  expiresAt : Option ℤ
  nonceTtlSec : Option ℤ
  deriving DecidableEq

/-- A versioned change by an administrator. -/
structure AdminUpdateRequest where
  licenseId : LicenseId
  operationId : String
  version : ℤ
  status : LicenseStatus
  seats : ℕ
  heartbeatSec : Option ℕ
  expiresAt : Option ℤ
  deriving DecidableEq

/-- Erase a machine. -/
structure AdminForgetRequest where
  licenseId : LicenseId
  machineId : MachineId
  operationId : String
  deriving DecidableEq

/-- Reserve a seat for a machine. -/
structure ReserveRequest extends ReserveDetails where
  idempotencyKey : String
  requestHash : Option Digest
  machineId : MachineId
  fingerprint : Bytes
  variantId : ℕ
  credentialState : Option Bytes
  authoritativeSecurityFloor : ℕ
  deriving DecidableEq

/-- Store the credential of a reservation. -/
structure CompleteRequest where
  idempotencyKey : String
  requestHash : Digest
  machineId : MachineId
  activationEnvelope : Wire Envelope

/-- What a revocation targets. -/
inductive RevokeSubject
  | license
  | machine (machineId : MachineId)
  deriving DecidableEq

/-- Revoke the license or a machine. -/
structure RevokeRequest where
  licenseId : LicenseId
  subject : RevokeSubject
  revocationEpoch : ℕ
  deriving DecidableEq

/-- The fields that every request of a device carries. `proofInput` is the signed encoding of
its own request, seen as a map with unsigned keys. -/
inductive CborField
  | uint (n : ℕ)
  | bytes (b : Bytes)
  | other
  deriving DecidableEq

/-- What a device signs. -/
abbrev ProofInput := Wire (List (ℕ × CborField))

/-- A request that a device has signed. -/
structure AuthenticatedRequest where
  licenseId : LicenseId
  machineId : MachineId
  suiteId : SuiteId
  nonce : ByteId 32
  proofInput : ProofInput
  proof : Bytes
  idempotencyKey : String

/-- The requests whose hash guards an idempotency key. -/
inductive OperationBody
  | adminUpdate (r : AdminUpdateRequest)
  | adminForget (r : AdminForgetRequest)
  | reserve (r : ReserveRequest)
  | authenticated (kind : ArtifactKind) (r : AuthenticatedRequest)

/-- What an object gets from outside: the license its name stands for, the hash of a request,
and the signature primitives under which device proofs are checked. -/
structure Env where
  owner : LicenseId
  operationHash : OperationBody → Digest
  primitives : Suite.Primitives ProofInput

/-- `i64::try_from` of an unsigned word succeeds. -/
def fitsI64 (n : ℕ) : Bool := decide ((n : ℤ) ≤ signedMax 64)

/-- An optional unsigned word that fits, as the signed column value. -/
def asI64 (value : Option ℕ) : Option ℤ := value.map fun n => (n : ℤ)

/-- The characters and the length of a product id. -/
def isProductId (value : String) : Bool :=
  !value.isEmpty && decide (value.utf8ByteSize ≤ 128) &&
    value.toList.all fun c => c.isAlphanum || c == '-' || c == '_' || c == '.'

/-- A nonempty identifier of at most 512 visible ASCII characters. -/
def isOperationId (value : String) : Bool :=
  !value.isEmpty && decide (value.utf8ByteSize ≤ 512) &&
    value.toList.all fun c => decide (33 ≤ c.toNat) && decide (c.toNat ≤ 126)

def maxSeats : ℕ := 100000

/-- The retention of nonces unless `init` says otherwise. -/
def defaultNonceTtlSecs : ℤ := 48 * 60 * 60

def maxInternalBody : ℕ := 64 * 1024

def maxCredentialState : ℕ := 256

/-! ### Administration -/

/-- The seat, heartbeat and range checks that `init` and `admin_update` share. -/
def limitsValid (seats : ℕ) (heartbeatSec : Option ℕ) : Bool :=
  heartbeatSec.all fitsI64 && decide (seats ≠ 0) && decide (seats ≤ maxSeats) &&
    heartbeatSec != some 0

variable (l : License)

/-- What `init` writes over an initialised object. -/
def License.configure (input : InitRequest) : License :=
  { l with
    seats := input.seats
    heartbeatSec := asI64 input.heartbeatSec
    expiresAt := input.expiresAt
    nonceTtlSec := input.nonceTtlSec.getD defaultNonceTtlSecs }

/-- The tables that `init` creates. -/
def License.new (input : InitRequest) : License where
  licenseId := input.licenseId
  productId := input.productId
  suiteId := input.suiteId
  seats := input.seats
  heartbeatSec := asI64 input.heartbeatSec
  expiresAt := input.expiresAt
  nonceTtlSec := input.nonceTtlSec.getD defaultNonceTtlSecs
  status := .active
  projVersion := 0
  revocationEpoch := 0
  securityFloor := 0
  anomalyWindowStart := none
  anomalyWindowCount := 0
  activations := Table.empty
  nonces := Table.empty
  outbox := []

/-- `apply_pending_admin_update`. -/
def License.applyPending (pending : PendingAdmin) : License :=
  { l with
    status := pending.status
    seats := pending.seats
    heartbeatSec := pending.heartbeatSec
    expiresAt := pending.expiresAt }

/-- Set the object up, or refresh what it was set up with. -/
def init (env : Env) (s : State) (input : InitRequest) : State × Response :=
  if ¬ limitsValid input.seats input.heartbeatSec ∨ ¬ isProductId input.productId ∨
      input.nonceTtlSec.any (fun v => decide (v ≤ 0)) then
    (s, .error 400 .invalidRequest)
  else if input.licenseId ≠ env.owner then (s, .error 409 .identityConflict)
  else if s.license.any fun l => l.licenseId != input.licenseId || l.productId != input.productId ||
      l.suiteId != input.suiteId then
    (s, .error 409 .identityConflict)
  else
    let written := match s.license with
      | some l => l.configure input
      | none => License.new input
    match s.pendingAdmin with
    | none => (s.setLicense written, .ok)
    | some pending =>
      ({ s.setLicense (written.applyPending pending) with pendingAdmin := none }, .ok)

/-- The values of an administrator's update. -/
def AdminUpdateRequest.pending (input : AdminUpdateRequest) : PendingAdmin where
  status := input.status
  seats := input.seats
  heartbeatSec := asI64 input.heartbeatSec
  expiresAt := input.expiresAt

/-- Apply an update that is newer than the last one. -/
def adminUpdate (env : Env) (s : State) (input : AdminUpdateRequest) (now : ℤ) :
    State × Response :=
  if ¬ limitsValid input.seats input.heartbeatSec ∨ ¬ isOperationId input.operationId ∨
      input.version ≤ 0 ∨ input.expiresAt.any (fun v => decide (v < 0)) ∨
      input.status = .revoked then
    (s, .error 400 .invalidRequest)
  else if input.licenseId ≠ env.owner then (s, .error 409 .identityConflict)
  else
    let row : IdemRow :=
      { key := { operation := .adminUpdate, key := input.operationId }
        requestHash := env.operationHash (.adminUpdate input)
        reservation := none
        createdAt := now }
    match s.loadOperation row.key row.requestHash with
    | .completed _ => (s, .adminUpdated s.license.isSome)
    | .conflict => (s, .error 409 .idempotencyConflict)
    | .missing =>
      if input.version ≤ s.adminVersion then
        (s.storeOperation row, .adminUpdated s.license.isSome)
      else
        match s.license with
        | none =>
          ({ s with
              pendingAdmin := some input.pending
              adminVersion := input.version }.storeOperation row, .adminUpdated false)
        | some l =>
          if l.licenseId ≠ input.licenseId then (s, .error 409 .identityConflict)
          else if l.status = .revoked then (s, .error 409 .licenseRevoked)
          else
            let s := s.setLicense ((l.applyPending input.pending).appendProjection none now)
            ({ s with adminVersion := input.version }.storeOperation row, .adminUpdated true)

/-- `DELETE FROM activations WHERE machine_id = ?`. -/
def License.forget (machineId : MachineId) : License :=
  { l with activations := l.activations.deleteWhere fun a => a.machineId == machineId }

/-- The erasure of an activation row; no projection follows it. -/
def adminForget (env : Env) (s : State) (input : AdminForgetRequest) (now : ℤ) :
    State × Response :=
  if ¬ isOperationId input.operationId then (s, .error 400 .invalidRequest)
  else if input.licenseId ≠ env.owner then (s, .error 409 .identityConflict)
  else
    let row : IdemRow :=
      { key := { operation := .adminForget, key := input.operationId }
        requestHash := env.operationHash (.adminForget input)
        reservation := none
        createdAt := now }
    match s.loadOperation row.key row.requestHash with
    | .completed _ => (s, .forgotten false)
    | .conflict => (s, .error 409 .idempotencyConflict)
    | .missing =>
      match s.license with
      | none => (s.storeOperation row, .forgotten false)
      | some l =>
        if l.licenseId = input.licenseId then
          ((s.setLicense (l.forget input.machineId)).storeOperation row,
            .forgotten (l.activations.find input.machineId).isSome)
        else (s.storeOperation row, .forgotten false)

/-- The row of a machine revoked by an administrator. -/
def License.revokeMachine (machineId : MachineId) (now : ℤ) : License :=
  l.updateActivations (fun a => a.machineId == machineId && a.status != .revoked) fun a =>
    { a with status := .revoked, lastSeenAt := some now }

/-- The status of a license revoked by an administrator. -/
def License.revoke : License := { l with status := .revoked }

/-- Revoke the license or a machine at a later epoch. -/
def revoke (env : Env) (s : State) (input : RevokeRequest) (now : ℤ) : State × Response :=
  if input.revocationEpoch = 0 ∨ ¬ fitsI64 input.revocationEpoch then
    (s, .error 400 .invalidRequest)
  else if input.licenseId ≠ env.owner then (s, .error 409 .identityConflict)
  else
    match s.license with
    | none => (s, .error 409 .notInitialized)
    | some l =>
      if l.licenseId ≠ input.licenseId then (s, .error 409 .notInitialized)
      else
        let plan := match input.subject with
          | .license => Revoke.planLicense l.status l.revocationEpoch input.revocationEpoch
          | .machine m =>
            Revoke.planMachine (l.activationStatus m) l.revocationEpoch input.revocationEpoch
        match plan with
        | .error .unknownMachine => (s, .error 404 .notFound)
        | .error .staleEpoch => (s, .error 409 .staleRevocationEpoch)
        | .ok plan =>
          let answer := Response.revoked (plan.stateChanged || plan.epochChanged)
            plan.revocationEpoch
          let raised := { l with revocationEpoch := plan.revocationEpoch }
          if plan.stateChanged then
            match input.subject with
            | .license => (s.setLicense (raised.revoke.appendProjection none now), answer)
            | .machine m =>
              (s.setLicense ((raised.revokeMachine m now).appendProjection (some m) now), answer)
          else (s.setLicense raised, answer)

/-! ### Activation -/

/-- `optional_string_is_bounded`. -/
def isBounded (value : Option String) (maxLen : ℕ) : Bool :=
  value.all fun v => decide (v.utf8ByteSize ≤ maxLen)

/-- The variant of an acceptable reservation. -/
def validateReservation (input : ReserveRequest) : Option ℤ :=
  let valid := !input.idempotencyKey.isEmpty && decide (input.idempotencyKey.utf8ByteSize ≤ 128) &&
    !input.fingerprint.isEmpty && decide (input.fingerprint.length ≤ 128) &&
    input.attrs.all (fun attrs => decide (attrs.length ≤ 4096)) &&
    !input.deviceKemEk.isEmpty && decide (input.deviceKemEk.length ≤ 16 * 1024) &&
    !input.deviceSigVk.isEmpty && decide (input.deviceSigVk.length ≤ 1024) &&
    !input.releaseId.isEmpty && decide (input.releaseId.utf8ByteSize ≤ 128) &&
    isBounded input.buildFp 256 && isBounded input.appVersion 128 && isBounded input.os 128 &&
    isBounded input.arch 128 && isBounded input.sdkVersion 128 && isBounded input.geo 16 &&
    input.credentialState.all fun state =>
      !state.isEmpty && decide (state.length ≤ maxCredentialState)
  if valid ∧ fitsI64 input.variantId then some input.variantId else none

def ReserveMaterial.ofRequest (input : ReserveRequest) : ReserveMaterial :=
  { input.toReserveDetails with variantId := min (input.variantId : ℤ) (signedMax 64) }

/-- The window of the anomaly counters. -/
def anomalyWindowSecs : ℤ := 24 * 60 * 60

/-- What the recent rows say about misuse. -/
def anomalySignals (validationsInWindow expectedValidations : ℕ) (now : ℤ) : Anomaly.Signals :=
  let cutoff := signedSub 64 now anomalyWindowSecs
  let recent := l.activations.rows.filter fun a => decide (cutoff ≤ a.seenAt)
  let fingerprints := (recent.map (·.fingerprint)).dedup.length
  let versions := (l.activations.rows.filterMap (·.material.appVersion)).dedup.length
  { distinctFingerprints24h := min fingerprints (unsignedMax 32)
    seats := min l.seats (unsignedMax 32)
    impossibleTravel := false
    attrChurn := 0
    validationsInWindow
    expectedValidations
    distinctAppVersions := min versions (unsignedMax 32) }

/-- The rate signal is inert at activation: none observed, one expected. -/
def scoreActivation (now : ℤ) : ℕ := (Anomaly.score (anomalySignals l 0 1 now)).score

/-- `UPDATE activations SET suspicion = ? WHERE machine_id = ?`. -/
def License.setSuspicion (machineId : MachineId) (suspicion : ℕ) : License :=
  l.updateActivations (fun a => a.machineId == machineId) fun a => { a with suspicion }

/-- The answer to a reservation of the given machine. -/
def reservation (input : ReserveRequest) (variantId : ℤ) (machineId : MachineId)
    (reusedExisting : Bool) (status : ActivationStatus) : ReserveResponse where
  machineId := machineId
  reusedExisting := reusedExisting
  status := status
  revocationEpoch := l.revocationEpoch
  securityFloor := l.securityFloor
  variantId := variantId
  refreshAfter := input.refreshAfter
  notAfter := input.notAfter
  buildFp := input.buildFp
  fingerprint := input.fingerprint
  credentialState := input.credentialState
  activationEnvelope := none
  material := some (ReserveMaterial.ofRequest input)

/-- The row of a fresh reservation. -/
def pendingRow (input : ReserveRequest) (variantId now : ℤ) : Activation where
  machineId := input.machineId
  fingerprint := input.fingerprint
  material := { ReserveMaterial.ofRequest input with variantId }
  status := .pending
  createdAt := now
  lastSeenAt := some now
  lastHbAt := none
  suspicion := 0
  credentialState := input.credentialState

/-- `ORDER BY status, created_at`. -/
def Activation.before (a b : Activation) : Bool :=
  decide (a.status.code < b.status.code) ||
    (a.status.code == b.status.code && decide (a.createdAt < b.createdAt))

/-- The part of `reserve` after its idempotency key was found to be free. -/
def reserveFresh (s : State) (l : License) (input : ReserveRequest) (variantId : ℤ)
    (requestHash : Digest) (now : ℤ) : State × Response :=
  let row (r : ReserveResponse) : IdemRow :=
    { key := { operation := .reserve, key := input.idempotencyKey }
      requestHash
      reservation := some r
      createdAt := now }
  let sameDevice := fun a : Activation =>
    a.fingerprint == input.fingerprint && a.status.occupiesSeat
  match l.activations.firstBy sameDevice Activation.before with
  | some existing =>
    if existing.status = .pending then (s, .error 409 .activationPending)
    else
      let r := reservation l input variantId existing.machineId true existing.status
      (s.storeOperation (row r), .reserved 200 r)
  | none =>
    if l.seats ≤ l.occupied then (s, .error 409 .seatExhausted)
    else
      match l.activations.insert (pendingRow input variantId now) with
      | none => (s, .fault [])
      | some activations =>
        let l := { l with activations }
        let l := l.setSuspicion input.machineId (scoreActivation l now)
        let l := l.appendProjection (some input.machineId) now
        let r := reservation l input variantId input.machineId false .pending
        ((s.setLicense l).storeOperation (row r), .reserved 201 r)

/-- Reserve a seat, or find the one that the device has. -/
def reserve (env : Env) (s : State) (input : ReserveRequest) (now : ℤ) : State × Response :=
  match validateReservation input with
  | none => (s, .error 400 .invalidRequest)
  | some variantId =>
    match s.license with
    | none => (s, .error 409 .notInitialized)
    | some l =>
      if l.status ≠ .active ∨ l.expired now then (s, .error 401 .invalidCredential)
      else if ¬ fitsI64 input.authoritativeSecurityFloor then (s, .error 400 .invalidRequest)
      else
        let l := l.raiseFloor input.authoritativeSecurityFloor
        let s := s.setLicense l
        let key : IdemKey := { operation := .reserve, key := input.idempotencyKey }
        let requestHash := input.requestHash.getD (env.operationHash (.reserve input))
        match s.loadOperation key requestHash with
        | .conflict => (s, .error 409 .idempotencyConflict)
        | .missing => reserveFresh s l input variantId requestHash now
        | .completed row =>
          match row.reservation with
          | none => (s, .fault [])
          | some cached =>
            if cached.activationEnvelope.isSome ∨
                (l.activationStatus cached.machineId).any (·.occupiesSeat) then
              (s, .reserved (if cached.reusedExisting then 200 else 201) cached)
            else
              -- the reserved row is gone: the key is free again
              let s := { s with idem := s.idem.deleteWhere fun row => row.key == key }
              reserveFresh s l input variantId requestHash now

/-- Whether an envelope carries the credential that a reservation was made for. -/
def completionMatches (envelope : Wire Envelope) (r : ReserveResponse)
    (material : ReserveMaterial) : Bool :=
  match envelope.decoded with
  | .error _ => false
  | .ok env =>
    match env.peekUnverified MachineCredential with
    | .error _ => false
    | .ok c =>
      c.licenseId == l.licenseId && c.productId == l.productId && c.suiteId == l.suiteId &&
        c.machineId == r.machineId && c.fingerprint == r.fingerprint &&
        c.variantId == (if 0 ≤ material.variantId then material.variantId.toNat
          else unsignedMax 64) &&
        c.refreshAfter == material.refreshAfter && c.notAfter == material.notAfter &&
        c.buildFingerprint == material.buildFp

/-- `UPDATE activations SET …, status = 0 WHERE machine_id = ? AND status IN (0, 3)`. -/
def License.activate (machineId : MachineId) (fingerprint : Bytes) (material : ReserveMaterial)
    (credentialState : Bytes) (now : ℤ) : License :=
  l.updateActivations (fun a => a.machineId == machineId && a.status.occupiesSeat) fun a =>
    { a with
      fingerprint
      material
      status := .active
      lastSeenAt := some now
      credentialState := some credentialState }

/-- Store the credential with the reservation. -/
def complete (s : State) (input : CompleteRequest) (now : ℤ) : State × Response :=
  let key : IdemKey := { operation := .reserve, key := input.idempotencyKey }
  if input.idempotencyKey.isEmpty ∨ 128 < input.idempotencyKey.utf8ByteSize ∨
      input.activationEnvelope.size = 0 ∨ maxInternalBody < input.activationEnvelope.size then
    (s, .error 400 .invalidRequest)
  else
    match s.loadOperation key input.requestHash with
    | .conflict => (s, .error 409 .idempotencyConflict)
    | .missing => (s, .error 409 .reservationMissing)
    | .completed row =>
      match row.reservation with
      | none => (s, .fault [])
      | some r =>
        if r.machineId ≠ input.machineId then (s, .error 409 .idempotencyConflict)
        else
          match r.activationEnvelope with
          | some envelope => (s, .completed envelope)
          | none =>
            match r.material, r.credentialState with
            | some material, some credentialState =>
              match s.license with
              | none => (s, .error 400 .invalidArtifact)
              | some l =>
                if ¬ completionMatches l input.activationEnvelope r material then
                  (s, .error 400 .invalidArtifact)
                else
                  match l.activationStatus input.machineId with
                  | none => (s, .error 409 .reservationMissing)
                  | some status =>
                    if ¬ status.occupiesSeat then (s, .error 401 .invalidCredential)
                    else
                      let l := l.activate input.machineId r.fingerprint material credentialState now
                      let l := l.appendProjection (some input.machineId) now
                      let r := { r with
                        status := .active
                        activationEnvelope := some input.activationEnvelope }
                      ((s.setLicense l).storeOperation { row with reservation := some r },
                        .completed input.activationEnvelope)
            | _, _ => (s, .error 409 .reservationIncompatible)

/-- `UPDATE activations SET status = 0, last_seen_at = ? WHERE machine_id = ? AND status = 3`. -/
def License.commitPending (machineId : MachineId) (now : ℤ) : License :=
  l.updateActivations (fun a => a.machineId == machineId && a.status == .pending) fun a =>
    { a with status := .active, lastSeenAt := some now }

/-- A reserved seat becomes active. -/
def commit (s : State) (machineId : MachineId) (now : ℤ) : State × Response :=
  match s.license with
  | none => (s, .error 401 .invalidCredential)
  | some l =>
    match l.activationStatus machineId with
    | none => (s, .error 401 .invalidCredential)
    | some .pending =>
      (s.setLicense ((l.commitPending machineId now).appendProjection (some machineId) now), .ok)
    | some .active => (s, .ok)
    | some .released | some .revoked => (s, .error 401 .invalidCredential)

end CopyLocker.Worker.LicenseDO
