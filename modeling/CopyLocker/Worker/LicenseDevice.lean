import CopyLocker.Foundation.Run
import CopyLocker.Worker.LicenseActivation

/-!
# Device requests and the alarm of a LicenseDO

The requests of `durable/license.rs` that carry a device's signature (`deactivate`, `heartbeat`,
`validate`), the alarm, and the object as a machine that handles one request after another.

The alarm hands the unsent rows of its outbox to a queue, up to a batch, and stops at the first
send that fails. How many sends succeed is a parameter of the alarm.

-/

namespace CopyLocker.Worker.LicenseDO

open Foundation Saturating Server Proto

def maxBodyBytes : ℕ := 16 * 1024

/-- The keys of the license, the machine and the proof in a signed request. -/
def proofKeys : ArtifactKind → Option (ℕ × ℕ × ℕ)
  | .validateRequest => some (12, 2, 8)
  | .heartbeatRequest | .deactivateRequest => some (2, 3, 6)
  | _ => none

/-- Whether the signed encoding of a request says what the request says, without a proof. -/
def proofInputMatches (kind : ArtifactKind) (input : AuthenticatedRequest) : Bool :=
  match input.proofInput.decoded, proofKeys kind with
  | .ok entries, some (licenseKey, machineKey, proofKey) =>
    let get (key : ℕ) := (entries.find? fun e => e.1 == key).map (·.2)
    (get proofKey).isNone && get 0 == some (.uint protoVer) &&
      get 1 == some (.bytes (Suite.ByteId.toBytes input.suiteId)) &&
      get licenseKey == some (.bytes (Suite.ByteId.toBytes input.licenseId)) &&
      get machineKey == some (.bytes (Suite.ByteId.toBytes input.machineId)) &&
      get 4 == some (.bytes (Suite.ByteId.toBytes input.nonce))
  | _, _ => false

/-- Whether the proof verifies under a device key. -/
def proofVerifies (P : Suite.Primitives ProofInput) (deviceSigVk : Bytes)
    (ctx : Suite.DomainCtx) (input : AuthenticatedRequest) : Bool :=
  match (Suite.fastSig P).decodeVk deviceSigVk with
  | .error _ => false
  | .ok vk =>
    match (Suite.fastSig P).verify vk ctx input.proofInput input.proof with
    | .error _ => false
    | .ok () => true

variable (env : Env)

/-- The tables and the row of the device that signed a request. -/
def authenticateDevice (s : State) (input : AuthenticatedRequest) (kind : ArtifactKind) :
    Option (License × Activation) :=
  if input.proofInput.size = 0 ∨ maxBodyBytes < input.proofInput.size ∨
      input.proof.length ≠ 64 ∨ ¬ proofInputMatches kind input ∨ input.licenseId ≠ env.owner then
    none
  else
    s.license.bind fun l =>
      if l.licenseId ≠ input.licenseId ∨ l.suiteId ≠ input.suiteId then none
      else
        (l.activations.find input.machineId).bind fun a =>
          let ctx : Suite.DomainCtx := { kind, suiteId := input.suiteId, productId := l.productId }
          if proofVerifies env.primitives a.material.deviceSigVk ctx input then some (l, a)
          else none

/-- The row of a seat given back or reclaimed. -/
def Activation.release (a : Activation) (now : ℤ) : Activation :=
  { a with status := .released, lastSeenAt := some now }

variable (l : License)

/-- `UPDATE activations SET status = 1, last_seen_at = ? WHERE p`. -/
def License.releaseRows (p : Activation → Bool) (now : ℤ) : License :=
  l.updateActivations p fun a => a.release now

/-- A row of the machine that holds a seat. -/
def isSeatOf (machineId : MachineId) (a : Activation) : Bool :=
  a.machineId == machineId && a.status.occupiesSeat

/-- `UPDATE activations SET last_hb_at = ?, last_seen_at = ? WHERE machine_id = ? AND status = 0`.
-/
def License.recordBeat (machineId : MachineId) (now : ℤ) : License :=
  l.updateActivations (fun a => a.machineId == machineId && a.status == .active) fun a =>
    { a with lastHbAt := some now, lastSeenAt := some now }

/-- A device gives its seat back. -/
def deactivate (s : State) (input : AuthenticatedRequest) (now : ℤ) : State × Response :=
  if input.idempotencyKey.isEmpty ∨ 117 < input.idempotencyKey.utf8ByteSize then
    (s, .error 400 .invalidRequest)
  else
    let row : IdemRow :=
      { key := { operation := .deactivate, key := input.idempotencyKey }
        requestHash := env.operationHash (.authenticated .deactivateRequest input)
        reservation := none
        createdAt := now }
    match s.loadOperation row.key row.requestHash with
    | .completed _ => (s, .ok)
    | .conflict => (s, .error 409 .idempotencyConflict)
    | .missing =>
      match authenticateDevice env s input .deactivateRequest with
      | none => (s, .error 401 .invalidCredential)
      | some (l, a) =>
        match l.recordNonce input.nonce now with
        | none => (s, .error 409 .replayedNonce)
        | some l =>
          match Deactivate.plan a.status with
          | none => (s.setLicense l, .error 401 .invalidCredential)
          | some false => ((s.setLicense l).storeOperation row, .ok)
          | some true =>
            let l := l.releaseRows (isSeatOf input.machineId) now
            let l := l.appendProjection (some input.machineId) now
            ((s.setLicense l).storeOperation row, .ok)

/-- A device reports that it runs. -/
def heartbeat (s : State) (input : AuthenticatedRequest) (now : ℤ) : State × Response :=
  match authenticateDevice env s input .heartbeatRequest with
  | none => (s, .error 401 .invalidCredential)
  | some (l, a) =>
    if l.heartbeatSec.any fun v => decide (v ≤ 0) then (s, .error 500 .storageCorrupt)
    else
      match Heartbeat.plan l.status l.expiresAt a.status l.heartbeatSec now with
      | none => (s, .error 401 .invalidCredential)
      | some nextAfter =>
        match l.recordNonce input.nonce now with
        | none => (s, .error 409 .replayedNonce)
        | some l =>
          let l := l.recordBeat input.machineId now
          (s.setLicense (l.appendProjection (some input.machineId) now), .heartbeat nextAfter)

/-- A signed request with what the worker knows. -/
structure ValidateRequest where
  auth : AuthenticatedRequest
  knownRevocationEpoch : ℕ
  authoritativeRevocationEpoch : ℕ
  knownSecurityFloor : ℕ
  nextRefreshAfter : ℤ
  notAfter : ℤ
  variantId : Option ℤ
  authoritativeSecurityFloor : ℕ

/-- The kill reason of a validation, by the license and then by the machine. -/
def killReason (license : LicenseStatus) (activation : ActivationStatus) : Option ℕ :=
  if license = .revoked then some 1
  else
    match activation with
    | .revoked => some 2
    | .released => some 3
    | .active | .pending => none

/-- Count the validation in its window. -/
def License.countValidation (now : ℤ) : License :=
  match l.anomalyWindowStart with
  | some start =>
    if 0 ≤ start ∧ signedSub 64 now start < anomalyWindowSecs then
      { l with anomalyWindowCount := unsignedAdd 63 l.anomalyWindowCount 1 }
    else { l with anomalyWindowStart := some now, anomalyWindowCount := 1 }
  | none => { l with anomalyWindowStart := some now, anomalyWindowCount := 1 }

/-- Counting changes the window alone. -/
theorem License.countValidation_eq (now : ℤ) :
    ∃ start count, l.countValidation now =
      { l with anomalyWindowStart := start, anomalyWindowCount := count } := by
  unfold License.countValidation
  split
  · split_ifs
    · exact ⟨l.anomalyWindowStart, _, rfl⟩
    · exact ⟨_, _, rfl⟩
  · exact ⟨_, _, rfl⟩

/-- The suspicion score of a validation that was counted. -/
def validationScore (nextRefreshAfter now : ℤ) : Anomaly.Score :=
  let interval := max (signedSub 64 nextRefreshAfter now) 1
  let perMachine := anomalyWindowSecs / interval + 1
  let expected := min (signedMul 64 perMachine (max (l.occupied : ℤ) 1)) (unsignedMax 32)
  Anomaly.score (anomalySignals l (min l.anomalyWindowCount (unsignedMax 32)) expected.toNat now)

/-- `UPDATE activations SET last_seen_at, refresh_after, not_after, variant_id`. -/
def License.recordValidation (input : ValidateRequest) (now : ℤ) : License :=
  l.updateActivations (isSeatOf input.auth.machineId) fun a =>
    { a with
      lastSeenAt := some now
      material := { a.material with
        refreshAfter := input.nextRefreshAfter
        notAfter := input.notAfter
        variantId := input.variantId.getD a.material.variantId } }

/-- Answer a validation with the state of the license, or a kill order. -/
def validate (s : State) (input : ValidateRequest) (now : ℤ) : State × Response :=
  if input.nextRefreshAfter ≤ 0 ∨ input.notAfter < 0 ∨
      input.variantId.any (fun v => decide (v < 0)) then
    (s, .error 400 .invalidRequest)
  else if ¬ fitsI64 input.knownRevocationEpoch then (s, .error 401 .invalidCredential)
  else if ¬ fitsI64 input.authoritativeRevocationEpoch then (s, .error 400 .invalidRequest)
  else if ¬ fitsI64 input.knownSecurityFloor then (s, .error 401 .invalidCredential)
  else if ¬ fitsI64 input.authoritativeSecurityFloor then (s, .error 400 .invalidRequest)
  else
    match authenticateDevice env s input.auth .validateRequest with
    | none => (s, .error 401 .invalidCredential)
    | some (l, a) =>
      let revocationEpoch := max l.revocationEpoch input.authoritativeRevocationEpoch
      let securityFloor := max l.securityFloor input.authoritativeSecurityFloor
      if revocationEpoch < input.knownRevocationEpoch ∨
          securityFloor < input.knownSecurityFloor then
        (s, .error 401 .invalidCredential)
      else
        let l := (l.raiseEpoch input.authoritativeRevocationEpoch).raiseFloor
          input.authoritativeSecurityFloor
        match l.recordNonce input.auth.nonce now with
        | none => (s.setLicense l, .error 409 .replayedNonce)
        | some l =>
          match killReason l.status a.status with
          | some reason =>
            (s.setLicense l, .validated
              { killReason := some reason
                revocationEpoch
                securityFloor
                suspicion := a.suspicion
                previousSuspicion := a.suspicion
                suspicionContributions := none
                fingerprint := none
                credentialState := none
                activationPath := none })
          | none =>
            if l.status ≠ .active ∨ l.expired now then
              (s.setLicense l, .error 401 .invalidCredential)
            else
              let l := (l.recordValidation input now).countValidation now
              let scored := validationScore l input.nextRefreshAfter now
              let l := l.setSuspicion input.auth.machineId scored.score
              let l := l.appendProjection (some input.auth.machineId) now
              (s.setLicense l, .validated
                { killReason := none
                  revocationEpoch
                  securityFloor
                  suspicion := scored.score
                  previousSuspicion := a.suspicion
                  suspicionContributions := some scored.contributions
                  fingerprint := some a.fingerprint
                  credentialState := a.credentialState
                  activationPath := some a.material.activationPath })

/-! ### The alarm -/

def pendingTtlSecs : ℤ := 60

def idempotencyTtlSecs : ℤ := 24 * 60 * 60

def releasedRetentionSecs : ℤ := 90 * 24 * 60 * 60

def outboxBatchSize : ℕ := 100

/-- Release the rows that satisfy `p`, with a projection for each. -/
def License.releaseWhere (p : Activation → Bool) (now : ℤ) : License :=
  let released := (l.activations.rows.filter p).map (·.machineId)
  (l.releaseRows p now).appendProjections released now

/-- A reservation whose commit never came. -/
def isStalePending (now : ℤ) (a : Activation) : Bool :=
  a.status == .pending && decide (a.createdAt ≤ signedSub 64 now pendingTtlSecs)

/-- An active row without a sign of life since the cutoff. -/
def isZombie (cutoff : ℤ) (a : Activation) : Bool :=
  a.status == .active && decide (a.beatAt < cutoff)

/-- The last part of `reclaim` on the tables: what is too old goes. -/
def License.purge (now : ℤ) : License :=
  { l with
    nonces := l.nonces.deleteWhere fun n => decide (n.seenAt ≤ signedSub 64 now l.nonceTtlSec)
    activations := l.activations.deleteWhere fun a =>
      a.status == .released && decide (a.seenAt ≤ signedSub 64 now releasedRetentionSecs) }

/-- The expiry of the license: every seat is given back. -/
def License.expire (now : ℤ) : License :=
  if l.status = .active ∧ l.expired now then
    ({ l with status := .expired }.releaseWhere (·.status.occupiesSeat) now).appendProjection
      none now
  else l

/-- The heartbeat rule; `none` for an interval that is not positive. -/
def License.reclaimZombies (now : ℤ) : Option License :=
  match l.heartbeatSec with
  | none => some l
  | some interval => (Heartbeat.zombieCutoff interval now).map fun cutoff =>
      l.releaseWhere (isZombie cutoff) now

/-- The store after the reclamation, and whether it ran to its end. -/
def reclaim (s : State) (now : ℤ) : State × Bool :=
  let purged := { s with
    idem := s.idem.deleteWhere fun row =>
      decide (row.createdAt ≤ signedSub 64 now idempotencyTtlSecs) }
  match s.license with
  | none => (purged, true)
  | some l =>
    let l := l.releaseWhere (isStalePending now) now
    match l.reclaimZombies now with
    | none => (s.setLicense l, false)
    | some l => (purged.setLicense ((l.expire now).purge now), true)

/-- The fields of a machine are in range. -/
def MachineProjection.isValid (m : MachineProjection) : Bool :=
  !m.fingerprint.isEmpty && decide (m.fingerprint.length ≤ 128) && decide (0 ≤ m.firstSeenAt) &&
    m.lastSeenAt.all (fun v => decide (0 ≤ v)) && decide (0 ≤ m.variantId) &&
    isBounded m.os 128 && isBounded m.arch 128 && isBounded m.appVersion 128 &&
    isBounded m.sdkVersion 128 && decide (m.releaseId.utf8ByteSize ≤ 128) &&
    isBounded m.buildFp 256 && isBounded m.geoCountry 16

/-- The fields of an event are in range. -/
def ProjectionEvent.isValid (e : ProjectionEvent) : Bool :=
  decide (0 < e.projVersion) && decide (0 ≤ e.occurredAt) &&
    e.lastSeenAt.all (fun v => decide (0 ≤ v)) && e.machine.all MachineProjection.isValid

/-- The result of handing outbox rows to the queue. -/
structure Flushed where
  outbox : List OutboxRow
  sent : List ProjectionEvent
  ok : Bool
  deriving DecidableEq

/-- Send the unsent rows in order, at most `limit` of them; `sends` of the sends succeed. -/
def flushOutbox (limit sends : ℕ) (now : ℤ) : List OutboxRow → Flushed
  | [] => { outbox := [], sent := [], ok := true }
  | row :: rest =>
    if row.sentAt.isSome then
      let r := flushOutbox limit sends now rest
      { r with outbox := row :: r.outbox }
    else
      match limit, sends with
      | 0, _ => { outbox := row :: rest, sent := [], ok := true }
      | _ + 1, 0 => { outbox := row :: rest, sent := [], ok := false }
      | limit + 1, sends + 1 =>
        if row.event.isValid then
          let r := flushOutbox limit sends now rest
          { r with
            outbox := { row with sentAt := some now } :: r.outbox
            sent := row.event :: r.sent }
        else { outbox := row :: rest, sent := [], ok := false }

/-- Reclaim, send, and set the next alarm. -/
def alarm (s : State) (sends : ℕ) (now : ℤ) : State × Response :=
  match reclaim s now with
  | (s, false) => (s, .fault [])
  | (s, true) =>
    match s.license with
    | none => (s, .alarm [])
    | some l =>
      let r := flushOutbox outboxBatchSize sends now l.outbox
      (s.setLicense { l with outbox := r.outbox }, if r.ok then .alarm r.sent else .fault r.sent)

/-! ### The object -/

/-- The requests of the object. -/
inductive Request
  | init (input : InitRequest)
  | adminUpdate (input : AdminUpdateRequest)
  | adminForget (input : AdminForgetRequest)
  | reserve (input : ReserveRequest)
  | complete (input : CompleteRequest)
  | commit (machineId : MachineId)
  | deactivate (input : AuthenticatedRequest)
  | heartbeat (input : AuthenticatedRequest)
  | revoke (input : RevokeRequest)
  | validate (input : ValidateRequest)
  | alarm (sends : ℕ)

/-- Handle one request at one instant. -/
def handle (s : State) (now : ℤ) : Request → State × Response
  | .init input => init env s input
  | .adminUpdate input => adminUpdate env s input now
  | .adminForget input => adminForget env s input now
  | .reserve input => reserve env s input now
  | .complete input => complete s input now
  | .commit machineId => commit s machineId now
  | .deactivate input => deactivate env s input now
  | .heartbeat input => heartbeat env s input now
  | .revoke input => revoke env s input now
  | .validate input => validate env s input now
  | .alarm sends => alarm s sends now

/-- One request of a run, with the instant it is handled at. -/
structure Call where
  now : ℤ
  request : Request

/-- The store after one request. -/
def step (s : State) (c : Call) : State := (handle env s c.now c.request).1

/-- The answer to one request. -/
def answer (s : State) (c : Call) : Response := (handle env s c.now c.request).2

end CopyLocker.Worker.LicenseDO
