import CopyLocker.Foundation.Handler
import CopyLocker.Worker.AdminAudit
import CopyLocker.Worker.IssuanceLog
import CopyLocker.Worker.RevocationPublication

/-!
# Finishing a reserved revocation

A revocation of a license or a machine that was reserved is carried out by `apply_and_publish`
(`admin.rs`): its audit event is written or found, the license object is told, the batch is signed
and stored, and the row is marked as published. When that stops half-way, `reconcile_pending` of the
cron job takes the first unpublished row and does the same again. As long as a row is unpublished no
other revocation can be reserved.

Here one run of `reconcile_pending` is one function, in which every call of another service answers.
What it needs in order to come to its end is read off the state before it.

The queue to which the audit event is sent, and the columns that record this, are left out.

## Main results

* `reconcile_publishes_iff`: a run publishes the pending row exactly if the row is finishable.
* `reused_key_blocks_revocations`: a row that no run ever publishes.
-/

namespace CopyLocker.Worker.Reconciliation

open Foundation Run Suite AdminAudit RevocationPublication LicenseDO Handler Server Option Table
  Function

/-! ### The target and its audit event -/

/-- A target with its license, product and policy. -/
structure TargetContext where
  licenseId : LicenseId
  productId : ProductId
  vendorId : String
  status : String
  seats : ℕ
  heartbeatSec : Option ℕ
  expiresAt : Option ℤ
  affectedMachines : ℕ
  deriving DecidableEq

/-- The kind and the identifier of a target that `revoke` of the administration handles. -/
def targetKind : RevocationTarget → Option (TargetKind × ByteId 16)
  | .license id => some (.license, id)
  | .machine id => some (.machine, id)
  | .epoch _ => none

/-- The statuses of a target. -/
def validStatuses : TargetKind → List String
  | .license => ["active", "suspended", "expired", "revoked"]
  | .machine => ["active", "pending", "released", "revoked"]

section Audit

variable (env : AuditEnv) (t : TargetContext) (kind : TargetKind) (target : ByteId 16)
  (row : RevocationRow)

/-- The checks of `try_from_row`; the columns are 64-bit integers. -/
def TargetContext.isValid : Bool :=
  LicenseDO.isProductId t.productId && LicenseDO.isProductId t.vendorId &&
    (validStatuses kind).contains t.status && LicenseDO.limitsValid t.seats t.heartbeatSec &&
    t.expiresAt.all fun v => decide (0 ≤ v)

/-- What an audit event says of its target. -/
def TargetContext.auditSnapshot (status : String) (affectedMachines revocationEpoch : ℕ) :
    Snapshot :=
  .revocation {
    kind, target, licenseId := t.licenseId, productId := t.productId, status, seats := t.seats,
    heartbeatSec := t.heartbeatSec, expiresAt := t.expiresAt, affectedMachines, revocationEpoch }

/-- The contents of the audit event of a revocation. -/
def revocationEntry : AuditEntry where
  occurredAt := row.createdAt
  vendorId := t.vendorId
  actor := row.actor
  action := "revoke:" ++ kind.asStr
  target := hexEncode (ByteId.toBytes target)
  reason := some row.reason
  requestId := row.requestId
  before := t.auditSnapshot kind target t.status t.affectedMachines (row.seq - 1)
  after := t.auditSnapshot kind target "revoked" 0 row.seq

/-- Admin operations and revocations share these identifiers. -/
def adminOperationId (vendorId requestId : String) : String := vendorId ++ "/" ++ requestId

/-- A stored event is the one of the revocation. -/
def matchesRevocation (event : AdminAuditEvent) : Bool :=
  match event.entry.before, event.entry.after with
  | .revocation before, .revocation after =>
    event.isValid env && event.entry.vendorId == t.vendorId && event.entry.actor == row.actor &&
      event.entry.action == "revoke:" ++ kind.asStr &&
      event.entry.target == hexEncode (ByteId.toBytes target) &&
      event.entry.reason == some row.reason && event.entry.requestId == row.requestId &&
      before.kind == kind && before.target == target && before.licenseId == t.licenseId &&
      before.productId == t.productId && after.status == "revoked" &&
      after.revocationEpoch == row.seq
  | _, _ => false

/-- The checks of a row that is read back. -/
def rowIsValid : Bool :=
  decide (0 < row.seq) && decide ((row.seq : ℤ) ≤ maxSafeInteger) && isKillReason row.reason &&
    !row.actor.isEmpty && decide (row.actor.utf8ByteSize ≤ 128) && decide (0 ≤ row.createdAt) &&
    row.appliedAt.all (fun v => decide (0 ≤ v)) && row.publishedAt.all fun v => decide (0 ≤ v)

/-! ### The state -/

/-- Hashes, the issuer's surroundings and those of the license objects. -/
structure DeskEnv where
  audit : AuditEnv
  issuer : IssuerDO.Env
  object : LicenseDO.Env

/-- The rows of D1 behind the targets, the license objects, the revocations, the audit chain and its
table, the issuer's memory and the two kinds of keys in KV. -/
structure Desk where
  targets : RevocationTarget → Option TargetContext
  objects : LicenseId → LicenseDO.State
  revocations : Table RevocationRow.seq
  chain : AuditState
  mirror : List AuditRow
  answers : ℕ → Option SignedBatch
  batches : ℕ → Option SignedBatch
  epoch : ℕ

namespace Desk

def new : Desk where
  targets _ := none
  objects _ := .new
  revocations := .empty
  chain := .new
  mirror := []
  answers _ := none
  batches _ := none
  epoch := 0

/-- `SELECT … WHERE published_at IS NULL ORDER BY seq LIMIT 1`. -/
def pending (s : Desk) : Option RevocationRow :=
  s.revocations.firstBy (·.publishedAt.isNone) fun a b => decide (a.seq < b.seq)

def setObject (s : Desk) (id : LicenseId) (object : LicenseDO.State) : Desk :=
  { s with objects := update s.objects id object }

end Desk

/-! ### One run -/

/-- A head that the table may show. -/
def isSafeHead (head : ChainHead) : Bool := decide ((head.seq : ℤ) ≤ maxSafeInteger)

/-- Append an event, and copy it into the table. -/
def recordAudit (input : AppendRequest) : Handler Desk String Unit := fun s =>
  let appended := s.chain.append env input
  match appended.2 with
  | .appended _ event =>
    match mirrorInsert s.mirror { operationId := input.operationId, event } with
    | none => ({ s with chain := appended.1 }, .error "UNIQUE constraint failed")
    | some mirror => ({ s with chain := appended.1, mirror }, .ok ())
  | _ => ({ s with chain := appended.1 }, .error "Admin audit append failed")

/-- Record an event at the head that the table shows. -/
def createAudit (operationId : String) (entry : AuditEntry) : Handler Desk String Unit := fun s =>
  if isSafeHead (mirrorHead s.mirror) then
    recordAudit env { operationId, entry, bootstrap := mirrorHead s.mirror } s
  else (s, .error "Admin audit chain head is corrupt")

/-- Find the audit event of the revocation, or write it. -/
def loadOrCreateAdminAudit : Handler Desk String Unit := fun s =>
  match loadAudit s.mirror (adminOperationId t.vendorId row.requestId) with
  | some stored =>
    (s, if matchesRevocation env t kind target row stored.event then .ok ()
      else .error "stored Admin audit event conflicts with the revocation")
  | none =>
    createAudit env (adminOperationId t.vendorId row.requestId)
      (revocationEntry t kind target row) s

end Audit

section Object

variable (env : LicenseDO.Env) (t : TargetContext) (kind : TargetKind) (target : ByteId 16)
  (row : RevocationRow) (now : ℤ)

/-- The object is set up as the database says. -/
def initRequest : LicenseDO.InitRequest where
  licenseId := t.licenseId
  productId := t.productId
  suiteId := clStd1SuiteId
  seats := t.seats
  heartbeatSec := t.heartbeatSec
  expiresAt := t.expiresAt
  nonceTtlSec := none

/-- The revocation, as the object is told. -/
def revokeRequest : LicenseDO.RevokeRequest where
  licenseId := t.licenseId
  subject := match kind with
    | .license => .license
    | .machine => .machine target
  revocationEpoch := row.seq

/-- `UPDATE revocations SET applied_at = COALESCE(applied_at, ?) …`, which has to find the row. -/
def markApplied : Handler Desk String Unit := fun s =>
  if (s.revocations.find row.seq).any fun r => r.requestId == row.requestId then
    ({ s with
      revocations := Worker.markApplied s.revocations row.seq row.requestId now }, .ok ())
  else (s, .error "revocation disappeared before apply checkpoint")

/-- The surroundings of the object of a license. -/
def objectEnv : LicenseDO.Env := { env with owner := t.licenseId }

/-- How an answer to `/init` is taken. -/
def initAnswer : LicenseDO.Response → Except String Unit
  | .ok => .ok ()
  | _ => .error "LicenseDO initialization failed"

/-- How an answer to `/revoke` is taken. -/
def revokeAnswer (seq : ℕ) : LicenseDO.Response → Except String Unit
  | .revoked _ epoch =>
    if epoch = seq then .ok () else .error "LicenseDO returned inconsistent revocation state"
  | _ => .error "LicenseDO revocation failed"

/-- Set the object up. -/
def initObject : Handler Desk String Unit := fun s =>
  let called := LicenseDO.init (objectEnv env t) (s.objects t.licenseId) (initRequest t)
  (s.setObject t.licenseId called.1, initAnswer called.2)

/-- Tell it of the revocation. -/
def revokeObject : Handler Desk String Unit := fun s =>
  let called := LicenseDO.revoke (objectEnv env t) (s.objects t.licenseId)
    (revokeRequest t kind target row) now
  (s.setObject t.licenseId called.1, revokeAnswer row.seq called.2)

/-- Tell the license object, unless that is done. -/
def applyRevocation : Handler Desk String Unit :=
  if row.appliedAt.isSome then pure ()
  else do
    initObject env t
    revokeObject env t kind target row now
    markApplied row now

end Object

/-- Have the batch signed. -/
def issueBatch (env : IssuerDO.Env) (secret : Option IssuerDO.EpochSecretPayload)
    (t : TargetContext) (row : RevocationRow) : Handler Desk String SignedBatch := fun s =>
  match RevocationPublication.issueBatch
      { issuer := env, route := fun _ => (t.licenseId, t.productId) } s.answers secret row with
  | some b => ({ s with answers := update s.answers row.seq (some b) }, .ok b)
  | none => (s, .error "IssuerDO failed to sign")

/-- Move the pointer, never back. -/
def putEpoch (n : ℕ) : Handler Desk String Unit := fun s =>
  match epochRefusal s.epoch n with
  | some message => (s, .error message)
  | none => ({ s with epoch := n }, .ok ())

/-- Store the batch and move the pointer. -/
def publishBatch (n : ℕ) (b : SignedBatch) : Handler Desk String Unit := fun s =>
  match s.batches (n - 1) with
  | some existing =>
    if existing = b then putEpoch n s
    else (s, .error "immutable revocation batch key contains different bytes")
  | none => putEpoch n { s with batches := update s.batches (n - 1) (some b) }

/-- `UPDATE revocations SET published_at = COALESCE(published_at, ?) …`, which has to find the
row applied. -/
def markPublished (row : RevocationRow) (now : ℤ) : Handler Desk String Unit := fun s =>
  if (s.revocations.find row.seq).any fun r => r.requestId == row.requestId && r.appliedAt.isSome
  then
    ({ s with
      revocations := Worker.markPublished s.revocations row.seq row.requestId now }, .ok ())
  else (s, .error "revocation disappeared before publication checkpoint")

/-- Carry a reserved revocation out. -/
def applyAndPublish (env : DeskEnv) (secret : Option IssuerDO.EpochSecretPayload)
    (t : TargetContext) (kind : TargetKind) (target : ByteId 16) (row : RevocationRow) (now : ℤ) :
    Handler Desk String Unit := do
  loadOrCreateAdminAudit env.audit t kind target row
  applyRevocation env.object t kind target row now
  let b ← issueBatch env.issuer secret t row
  publishBatch row.seq b
  markPublished row now

/-- The answer tells whether a revocation was carried out. -/
def reconcilePending (env : DeskEnv) (secret : Option IssuerDO.EpochSecretPayload) (now : ℤ) :
    Handler Desk String Bool := fun s =>
  match s.pending with
  | none => (s, .ok false)
  | some row =>
    if ¬ validIdempotencyKey row.requestId then
      (s, .error "pending revocation has an invalid idempotency key")
    else
      match targetKind row.target with
      | none => (s, .ok false)
      | some (kind, target) =>
        if ¬ rowIsValid row then (s, .error "revocation row contains invalid data")
        else
          match s.targets row.target with
          | none => (s, .error "pending revocation target is missing")
          | some t =>
            if ¬ t.isValid kind then (s, .error "Admin target row contains invalid data")
            else (do applyAndPublish env secret t kind target row now; return true) s

/-! ### The audit event -/

/-- The object hands out an event for a request: the one of that operation, if the request is the
same, or the next one, if the request names the head. -/
def Grants (env : AuditEnv) (chain : AuditState) (input : AppendRequest) (event : AdminAuditEvent) :
    Prop :=
  (∃ logged, chain.loadOperation input.operationId = some logged ∧
    logged.requestHash = env.requestHash input.entry ∧ logged.event = event) ∨
  (chain.loadOperation input.operationId = none ∧ chain.head input.bootstrap = input.bootstrap ∧
    AuditState.nextEvent env input = some event)

variable {env : AuditEnv} {s s' : Desk} {t : TargetContext} {kind : TargetKind}
  {target : ByteId 16} {row : RevocationRow} {object : LicenseDO.State} {now : ℤ} {u : Unit}
  {secret : Option IssuerDO.EpochSecretPayload} {b : SignedBatch} {n : ℕ}

theorem appended_iff {chain : AuditState} {input : AppendRequest} {event : AdminAuditEvent} :
    (∃ status, (chain.append env input).2 = .appended status event) ↔
      AuditState.validateAppend env input ∧ Grants env chain input event := by
  unfold AuditState.append Grants
  by_cases hvalid : AuditState.validateAppend env input
  swap
  · simp [hvalid]
  rw [if_neg (not_not.2 hvalid), and_iff_right hvalid]
  cases hlogged : chain.loadOperation input.operationId with
  | some logged =>
    by_cases hhash : logged.requestHash = env.requestHash input.entry <;> simp [hhash]
  | none =>
    by_cases hhead : chain.head input.bootstrap = input.bootstrap
    · cases AuditState.nextEvent env input <;> simp [hhead]
    · simp [hhead]

/-- An event can be appended at the table's head and copied. -/
def Recordable (env : AuditEnv) (s : Desk) (operationId : String) (entry : AuditEntry) : Prop :=
  isSafeHead (mirrorHead s.mirror) = true ∧
  AuditState.validateAppend env { operationId, entry, bootstrap := mirrorHead s.mirror } = true ∧
  ∃ event, Grants env s.chain { operationId, entry, bootstrap := mirrorHead s.mirror } event ∧
    ∀ r ∈ s.mirror, r.event.seq ≠ event.seq

private theorem mirrorInsert_isSome_iff {mirror : List AuditRow} {r : AuditRow}
    (hfresh : loadAudit mirror r.operationId = none) :
    (mirrorInsert mirror r).isSome ↔ ∀ r' ∈ mirror, r'.event.seq ≠ r.event.seq := by
  unfold mirrorInsert
  rw [hfresh]
  simp

theorem recordAudit_succeeds_iff {input : AppendRequest}
    (hfresh : loadAudit s.mirror input.operationId = none) :
    (recordAudit env input).Succeeds s ↔ AuditState.validateAppend env input ∧
        ∃ event, Grants env s.chain input event ∧ ∀ r ∈ s.mirror, r.event.seq ≠ event.seq := by
  unfold Succeeds recordAudit
  dsimp only
  constructor
  · rintro ⟨s', a, h⟩
    split at h
    next status event happended =>
      obtain ⟨hvalid, hgrants⟩ := appended_iff.1 ⟨status, happended⟩
      refine ⟨hvalid, event, hgrants, ?_⟩
      split at h
      · cases h
      next mirror hmirror => exact (mirrorInsert_isSome_iff hfresh).1 (by rw [hmirror]; rfl)
    · cases h
  · rintro ⟨hvalid, event, hgrants, hnumber⟩
    obtain ⟨status, happended⟩ := appended_iff.2 ⟨hvalid, hgrants⟩
    obtain ⟨mirror, hmirror⟩ := isSome_iff_exists.1
      ((mirrorInsert_isSome_iff (r := { operationId := input.operationId, event }) hfresh).2
        hnumber)
    rw [happended]
    dsimp only
    rw [hmirror]
    exact ⟨_, _, rfl⟩

/-- The audit event of the revocation is there, or can be made. -/
def AuditReady (env : AuditEnv) (s : Desk) (t : TargetContext) (kind : TargetKind)
    (target : ByteId 16) (row : RevocationRow) : Prop :=
  match loadAudit s.mirror (adminOperationId t.vendorId row.requestId) with
  | some stored => matchesRevocation env t kind target row stored.event = true
  | none =>
    Recordable env s (adminOperationId t.vendorId row.requestId) (revocationEntry t kind target row)

theorem loadOrCreateAdminAudit_succeeds_iff (env : AuditEnv) (t : TargetContext)
    (kind : TargetKind) (target : ByteId 16) (row : RevocationRow) (s : Desk) :
    (loadOrCreateAdminAudit env t kind target row).Succeeds s ↔
      AuditReady env s t kind target row := by
  unfold AuditReady
  cases hstored : loadAudit s.mirror (adminOperationId t.vendorId row.requestId) with
  | some stored =>
    unfold Succeeds loadOrCreateAdminAudit
    rw [hstored]
    by_cases hmatches : matchesRevocation env t kind target row stored.event <;>
      simp [hmatches]
  | none =>
    have hsame : loadOrCreateAdminAudit env t kind target row s =
        createAudit env (adminOperationId t.vendorId row.requestId)
          (revocationEntry t kind target row) s := by
      unfold loadOrCreateAdminAudit
      rw [hstored]
    unfold Recordable Succeeds
    rw [hsame, createAudit]
    by_cases hhead : isSafeHead (mirrorHead s.mirror)
    · simp only [hhead, true_and]
      exact recordAudit_succeeds_iff hstored
    · simp [hhead]

/-- Writing the audit event leaves everything but the chain and its table. -/
theorem loadOrCreateAdminAudit_frame {a : Except String Unit}
    (h : loadOrCreateAdminAudit env t kind target row s = (s', a)) :
    ∃ chain mirror, s' = { s with chain, mirror } := by
  have hrecord : ∀ input, ∃ chain mirror,
      (recordAudit env input s).1 = { s with chain, mirror } := by
    intro input
    fun_cases recordAudit env input s <;> exact ⟨_, _, rfl⟩
  obtain rfl : (loadOrCreateAdminAudit env t kind target row s).1 = s' := by rw [h]
  unfold loadOrCreateAdminAudit createAudit
  repeat' split
  all_goals first | exact ⟨_, _, rfl⟩ | exact hrecord _

/-! ### The license object -/

/-- The license after an accepted `init`. -/
def initialized (object : LicenseDO.State) (input : LicenseDO.InitRequest) : LicenseDO.License :=
  let written := match object.license with
    | some l => l.configure input
    | none => .new input
  match object.pendingAdmin with
  | none => written
  | some pending => written.applyPending pending

/-- Whether the target is revoked already; an unknown machine has no answer. -/
def alreadyRevoked (l : LicenseDO.License) (kind : TargetKind) (target : ByteId 16) : Option Bool :=
  match kind with
  | .license => some (l.status == .revoked)
  | .machine => (l.activationStatus target).map (· == .revoked)

/-- The object stands for this license, knows the target, and has not seen the revocation's number
before it was asked to revoke. -/
def ObjectReady (object : LicenseDO.State) (t : TargetContext) (kind : TargetKind)
    (target : ByteId 16) (seq : ℕ) : Prop :=
  (∀ l, object.license = some l →
    l.licenseId = t.licenseId ∧ l.productId = t.productId ∧ l.suiteId = clStd1SuiteId) ∧
  ∃ already, alreadyRevoked (initialized object (initRequest t)) kind target = some already ∧
    ((initialized object (initRequest t)).revocationEpoch < seq ∨
      already = true ∧ (initialized object (initRequest t)).revocationEpoch = seq)

/-- A valid target is refused only by an object of another license, product or suite. -/
theorem init_eq_ok_iff (env : Env) (object : State) (hvalid : t.isValid kind) :
    (init (objectEnv env t) object (initRequest t)).2 = .ok ↔ ∀ l, object.license = some l →
        l.licenseId = t.licenseId ∧ l.productId = t.productId ∧ l.suiteId = clStd1SuiteId := by
  simp only [TargetContext.isValid, Bool.and_eq_true] at hvalid
  unfold init
  rw [if_neg (by simp [initRequest, hvalid]), if_neg (by simp [initRequest, objectEnv])]
  constructor
  · intro h l hl
    split at h
    · cases h
    next hsame =>
      simpa [hl, initRequest, and_assoc] using hsame
  · intro h
    rw [if_neg]
    · cases object.pendingAdmin <;> rfl
    · cases hl : object.license with
      | none => simp
      | some l => simp [h l hl, initRequest]

theorem license_of_init {env : Env} {input : InitRequest} (h : (init env object input).2 = .ok) :
    (init env object input).1.license = some (initialized object input) := by
  revert h
  fun_cases init env object input with
  | case4 _ _ _ _ hpending | case5 _ _ _ _ pending hpending =>
    intro _
    unfold initialized
    rw [hpending]
    rfl
  | _ => rintro ⟨⟩

theorem licenseId_initialized (h : ∀ l, object.license = some l → l.licenseId = t.licenseId) :
    (initialized object (initRequest t)).licenseId = t.licenseId := by
  unfold initialized
  cases hl : object.license with
  | none => cases object.pendingAdmin <;> rfl
  | some l => cases object.pendingAdmin <;> exact h l hl

/-- The plan of a revocation is accepted, with its own number, unless the object has seen that
number already and the target is not revoked. -/
theorem planForState_fits_iff {already : Bool} {current requested : ℕ} (hpos : 0 < requested) :
    (∃ plan, Revoke.planForState already current requested = .ok plan ∧
        plan.revocationEpoch = requested) ↔
      current < requested ∨ already ∧ current = requested := by
  unfold Revoke.planForState
  rw [if_neg (by omega)]
  cases already with
  | true =>
    simp only [if_true, Except.ok.injEq, exists_eq_left', true_and]
    omega
  | false =>
    simp only [Bool.false_eq_true, if_false, false_and, or_false]
    by_cases hle : requested ≤ current
    · rw [if_pos hle]
      refine iff_of_false ?_ (by omega)
      rintro ⟨plan, hplan, -⟩
      cases hplan
    · rw [if_neg hle]
      exact iff_of_true ⟨_, rfl, rfl⟩ (by omega)

theorem revoke_answers_iff (env : Env) (now : ℤ) {l : License}
    (hl : object.license = some l) (hid : l.licenseId = t.licenseId) (hpos : 0 < row.seq)
    (hfits : fitsI64 row.seq) :
    (∃ changed, (revoke (objectEnv env t) object (revokeRequest t kind target row)
        now).2 = .revoked changed row.seq) ↔
      ∃ already, alreadyRevoked l kind target = some already ∧
        (l.revocationEpoch < row.seq ∨ already ∧ l.revocationEpoch = row.seq) := by
  simp only [← planForState_fits_iff hpos]
  unfold revoke
  rw [if_neg (by simp [revokeRequest, hfits]; omega),
    if_neg (by simp [revokeRequest, objectEnv]), hl]
  dsimp only
  rw [if_neg (by simp [revokeRequest, hid])]
  cases kind with
  | license =>
    simp only [revokeRequest, alreadyRevoked, some.injEq, exists_eq_left',
      Revoke.planLicense]
    cases hplan : Revoke.planForState (l.status == .revoked) l.revocationEpoch row.seq with
    | error e => cases e <;> simp
    | ok plan =>
      simp only [Except.ok.injEq, exists_eq_left']
      split_ifs <;> simp
  | machine =>
    simp only [revokeRequest, alreadyRevoked]
    cases hstatus : l.activationStatus target with
    | none => simp [Revoke.planMachine]
    | some status =>
      simp only [Revoke.planMachine, map_some, some.injEq, exists_eq_left']
      cases hplan : Revoke.planForState (status == .revoked) l.revocationEpoch row.seq with
      | error e => cases e <;> simp
      | ok plan =>
        simp only [Except.ok.injEq, exists_eq_left']
        split_ifs <;> simp

/-- The row is in the table, applied. -/
def IsApplied (s : Desk) (row : RevocationRow) : Prop :=
  ∃ r, s.revocations.find row.seq = some r ∧ r.requestId = row.requestId ∧ r.appliedAt.isSome

theorem markApplied_eq (now : ℤ) (hrow : s.revocations.find row.seq = some row) :
    ∃ revocations, markApplied row now s = ({ s with revocations }, .ok ()) ∧
      IsApplied { s with revocations } row := by
  unfold markApplied Worker.markApplied
  rw [hrow, if_pos (by simp)]
  refine ⟨_, rfl, { row with appliedAt := row.appliedAt <|> some now }, ?_, rfl, ?_⟩
  · rw [find_updateWhere, hrow, map_some, if_pos (by simp)]
  · cases row.appliedAt <;> rfl

theorem initAnswer_eq_ok_iff {r : Response} : initAnswer r = .ok () ↔ r = .ok := by
  cases r <;> simp [initAnswer]

private theorem revokeAnswer_eq_ok_iff {seq : ℕ} {r : Response} :
    revokeAnswer seq r = .ok () ↔ ∃ changed, r = .revoked changed seq := by
  cases r with
  | revoked changed epoch => by_cases hepoch : epoch = seq <;> simp [revokeAnswer, hepoch]
  | _ => simp [revokeAnswer]

theorem applyRevocation_succeeds_iff (env : Env) (target : ByteId 16) (now : ℤ)
    (hvalid : t.isValid kind) (hpos : 0 < row.seq) (hfits : fitsI64 row.seq)
    (hrow : s.revocations.find row.seq = some row) :
    (applyRevocation env t kind target row now).Succeeds s ↔
      row.appliedAt.isSome ∨ ObjectReady (s.objects t.licenseId) t kind target row.seq := by
  unfold applyRevocation
  by_cases happlied : row.appliedAt.isSome
  · rw [if_pos happlied]
    exact iff_of_true ⟨s, (), rfl⟩ (.inl happlied)
  rw [if_neg happlied, or_iff_right happlied]
  unfold ObjectReady
  rw [← init_eq_ok_iff env (s.objects t.licenseId) hvalid]
  rw [succeeds_bind_iff, succeeds_iff, initObject, initAnswer_eq_ok_iff]
  rintro s₁ _ hinit
  obtain ⟨rfl, hok⟩ := Prod.mk.inj hinit
  have hok := initAnswer_eq_ok_iff.1 hok
  have hid := licenseId_initialized fun l hl => ((init_eq_ok_iff env _ hvalid).1 hok l hl).1
  rw [← revoke_answers_iff env now (license_of_init hok) hid hpos hfits, ← revokeAnswer_eq_ok_iff,
    succeeds_bind_iff (P := True), and_true, succeeds_iff]
  · simp [revokeObject, Desk.setObject]
  · intro s₂ _ hrevoke
    obtain ⟨rfl, -⟩ := Prod.mk.inj hrevoke
    obtain ⟨revocations, hmarked, -⟩ :=
      markApplied_eq (s := (revokeObject env t kind target row now (initObject env t s).1).1) now
        hrow
    exact iff_of_true ⟨_, (), hmarked⟩ trivial

/-- Telling the object leaves what the batch depends on, and the row applied. -/
theorem applyRevocation_frame {env : Env}
    (h : applyRevocation env t kind target row now s = (s', .ok u))
    (hrow : s.revocations.find row.seq = some row) :
    IsApplied s' row ∧ s'.answers = s.answers ∧ s'.batches = s.batches ∧ s'.epoch = s.epoch := by
  unfold applyRevocation at h
  by_cases happlied : row.appliedAt.isSome
  · rw [if_pos happlied] at h
    cases h
    exact ⟨⟨row, hrow, rfl, happlied⟩, rfl, rfl, rfl⟩
  · rw [if_neg happlied] at h
    obtain ⟨s₁, _, hinit, h⟩ := bind_eq_ok h
    obtain ⟨s₂, _, hrevoke, h⟩ := bind_eq_ok h
    obtain ⟨rfl, -⟩ := Prod.mk.inj hinit
    obtain ⟨rfl, -⟩ := Prod.mk.inj hrevoke
    obtain ⟨revocations, hmarked, hdone⟩ :=
      markApplied_eq (s := (revokeObject env t kind target row now (initObject env t s).1).1)
        now hrow
    cases hmarked.symm.trans h
    exact ⟨hdone, rfl, rfl, rfl⟩

/-! ### The batch -/

section Batch

variable (env : IssuerDO.Env) (secret : Option IssuerDO.EpochSecretPayload) (s : Desk)
  (t : TargetContext) (row : RevocationRow)

/-- The issuer has or makes this batch. -/
def Issues (b : SignedBatch) : Prop :=
  s.answers row.seq = some b ∨ s.answers row.seq = none ∧
    signBatch { issuer := env, route := fun _ => (t.licenseId, t.productId) } secret row = some b

/-- There is a batch to store, nothing else is stored in its place, and the pointer stands at the
number before it or at its own. -/
def BatchReady : Prop :=
  (∃ b, Issues env secret s t row b ∧
    (s.batches (row.seq - 1) = none ∨ s.batches (row.seq - 1) = some b)) ∧
  (s.epoch + 1 = row.seq ∨ s.epoch = row.seq)

end Batch

theorem issueBatch_eq_ok_iff {env : IssuerDO.Env} :
    (∃ s', issueBatch env secret t row s = (s', .ok b)) ↔ Issues env secret s t row b := by
  unfold issueBatch RevocationPublication.issueBatch Issues
  cases hanswer : s.answers row.seq with
  | some b' => simp
  | none =>
    cases signBatch { issuer := env, route := fun _ => (t.licenseId, t.productId) } secret row <;>
      simp

theorem issueBatch_frame {env : IssuerDO.Env} (h : issueBatch env secret t row s = (s', .ok b)) :
    ∃ answers, s' = { s with answers } := by
  revert h
  fun_cases issueBatch env secret t row s <;> rintro ⟨⟩
  exact ⟨_, rfl⟩

private theorem putEpoch_succeeds_iff (hn : 0 < n) :
    (putEpoch n).Succeeds s ↔ s.epoch + 1 = n ∨ s.epoch = n := by
  have hpointer : epochRefusal s.epoch n = none ↔ s.epoch + 1 = n ∨ s.epoch = n := by
    rw [epochRefusal_eq_none_iff]
    omega
  rw [← hpointer]
  unfold Succeeds putEpoch
  cases epochRefusal s.epoch n <;> simp

theorem publishBatch_succeeds_iff (hn : 0 < n) :
    (publishBatch n b).Succeeds s ↔ (s.batches (n - 1) = none ∨ s.batches (n - 1) = some b) ∧
        (s.epoch + 1 = n ∨ s.epoch = n) := by
  unfold Succeeds publishBatch
  cases hstored : s.batches (n - 1) with
  | none =>
    simp only [true_or, true_and]
    exact putEpoch_succeeds_iff (s := { s with batches := _ }) hn
  | some existing =>
    by_cases hsame : existing = b
    · simp only [hsame, if_true, reduceCtorEq, false_or, true_and]
      exact putEpoch_succeeds_iff hn
    · simp [hsame]

theorem isApplied_publishBatch (h : publishBatch n b s = (s', .ok u)) (happlied : IsApplied s row) :
    IsApplied s' row := by
  have hkept : (publishBatch n b s).1.revocations = s.revocations := by
    unfold publishBatch putEpoch
    repeat' split
    all_goals rfl
  rw [h] at hkept
  unfold IsApplied
  rw [hkept]
  exact happlied

/-! ### The whole run -/

theorem markPublished_of_isApplied (now : ℤ) (h : IsApplied s row) :
    ∃ s', markPublished row now s = (s', .ok ()) ∧
      ∃ r, s'.revocations.find row.seq = some r ∧ r.publishedAt.isSome := by
  obtain ⟨r, hr, hrequest, happlied⟩ := h
  have hseq := key_of_find hr
  unfold markPublished Worker.markPublished
  rw [hr, if_pos (by simp [hrequest, happlied])]
  refine ⟨_, rfl, { r with publishedAt := r.publishedAt <|> some now }, ?_, ?_⟩
  · rw [find_updateWhere, hr, map_some, if_pos (by simp [hseq, hrequest, happlied])]
  · cases r.publishedAt <;> rfl

/-- What a run needs in order to publish the pending row: the row and its target are there and
well formed, its audit event is there or can be made, the license object accepts it, and its batch
can be stored. -/
def Finishable (env : DeskEnv) (secret : Option IssuerDO.EpochSecretPayload) (s : Desk)
    (row : RevocationRow) : Prop :=
  validIdempotencyKey row.requestId = true ∧ rowIsValid row = true ∧
  ∃ kind target t, targetKind row.target = some (kind, target) ∧
    s.targets row.target = some t ∧ t.isValid kind = true ∧
    AuditReady env.audit s t kind target row ∧
    (row.appliedAt.isSome ∨ ObjectReady (s.objects t.licenseId) t kind target row.seq) ∧
    BatchReady env.issuer secret s t row

/-- The run answers that it has carried out a revocation, and the row is published. -/
def Publishes (env : DeskEnv) (secret : Option IssuerDO.EpochSecretPayload) (now : ℤ) (s : Desk)
    (row : RevocationRow) : Prop :=
  (reconcilePending env secret now s).2 = .ok true ∧
    ∃ r, (reconcilePending env secret now s).1.revocations.find row.seq = some r ∧
      r.publishedAt.isSome

/-- The stages of a run do not disturb each other, so all of them are judged by the state before
the run. -/
theorem applyAndPublish_succeeds_iff (env : DeskEnv) (secret : Option IssuerDO.EpochSecretPayload)
    (target : ByteId 16) (now : ℤ) (hvalid : t.isValid kind) (hpos : 0 < row.seq)
    (hfits : fitsI64 row.seq) (hrow : s.revocations.find row.seq = some row) :
    (applyAndPublish env secret t kind target row now).Succeeds s ↔
      AuditReady env.audit s t kind target row ∧
        (row.appliedAt.isSome ∨ ObjectReady (s.objects t.licenseId) t kind target row.seq) ∧
        BatchReady env.issuer secret s t row := by
  unfold applyAndPublish
  rw [succeeds_bind_iff, loadOrCreateAdminAudit_succeeds_iff]
  intro s₁ _ haudit
  obtain ⟨chain, mirror, rfl⟩ := loadOrCreateAdminAudit_frame haudit
  have hobject := applyRevocation_succeeds_iff (s := { s with chain, mirror }) env.object target now
    hvalid hpos hfits hrow
  rw [succeeds_bind_iff, hobject]
  intro s₂ _ happly
  obtain ⟨happlied, hanswers, hbatches, hepoch⟩ := applyRevocation_frame happly hrow
  have hrest {s₃ : Desk} {b : SignedBatch}
      (hissue : issueBatch env.issuer secret t row s₂ = (s₃, .ok b)) :
      (do publishBatch row.seq b; markPublished row now : Handler Desk String Unit).Succeeds s₃ ↔
        (s.batches (row.seq - 1) = none ∨ s.batches (row.seq - 1) = some b) ∧
          (s.epoch + 1 = row.seq ∨ s.epoch = row.seq) := by
    obtain ⟨answers, rfl⟩ := issueBatch_frame hissue
    rw [succeeds_bind_iff (P := True), publishBatch_succeeds_iff hpos, hbatches, hepoch, and_true]
    intro s₄ _ hpublish
    obtain ⟨s₅, hmarked, -⟩ :=
      markPublished_of_isApplied now (isApplied_publishBatch hpublish happlied)
    exact iff_of_true ⟨s₅, (), hmarked⟩ trivial
  have hissues (b : SignedBatch) :
      (∃ s₃, issueBatch env.issuer secret t row s₂ = (s₃, .ok b)) ↔
        Issues env.issuer secret s t row b := by
    rw [issueBatch_eq_ok_iff, Issues, hanswers]
    rfl
  rw [succeeds_bind]
  constructor
  · rintro ⟨s₃, b, hissue, h⟩
    obtain ⟨hstored, hnext⟩ := (hrest hissue).1 h
    exact ⟨⟨b, (hissues b).1 ⟨s₃, hissue⟩, hstored⟩, hnext⟩
  · rintro ⟨⟨b, hb, hstored⟩, hnext⟩
    obtain ⟨s₃, hissue⟩ := (hissues b).2 hb
    exact ⟨s₃, b, hissue, (hrest hissue).2 ⟨hstored, hnext⟩⟩

theorem published_of_applyAndPublish {env : DeskEnv} (hrow : s.revocations.find row.seq = some row)
    (h : applyAndPublish env secret t kind target row now s = (s', .ok u)) :
    ∃ r, s'.revocations.find row.seq = some r ∧ r.publishedAt.isSome := by
  obtain ⟨s₁, _, haudit, h⟩ := bind_eq_ok h
  obtain ⟨chain, mirror, rfl⟩ := loadOrCreateAdminAudit_frame haudit
  obtain ⟨s₂, _, happly, h⟩ := bind_eq_ok h
  obtain ⟨happlied, -⟩ := applyRevocation_frame happly hrow
  obtain ⟨s₃, b, hissue, h⟩ := bind_eq_ok h
  obtain ⟨answers, rfl⟩ := issueBatch_frame hissue
  obtain ⟨s₄, _, hpublish, h⟩ := bind_eq_ok h
  obtain ⟨s₅, hmarked, hpublished⟩ :=
    markPublished_of_isApplied now (isApplied_publishBatch hpublish happlied)
  cases hmarked.symm.trans h
  exact hpublished

theorem rowIsValid_seq (h : rowIsValid row) : 0 < row.seq ∧ fitsI64 row.seq := by
  simp only [rowIsValid, Bool.and_eq_true, decide_eq_true_eq] at h
  have hsafe : (row.seq : ℤ) ≤ maxSafeInteger := h.1.1.1.1.1.1.2
  refine ⟨h.1.1.1.1.1.1.1, ?_⟩
  have hmax : maxSafeInteger ≤ Saturating.signedMax 64 := by decide
  exact decide_eq_true (hsafe.trans hmax)

theorem reconcilePending_eq {env : DeskEnv} (hpending : s.pending = some row)
    (hkind : targetKind row.target = some (kind, target))
    (hkey : validIdempotencyKey row.requestId) (hrow : rowIsValid row)
    (ht : s.targets row.target = some t) (hvalid : t.isValid kind) :
    reconcilePending env secret now s =
      (do applyAndPublish env secret t kind target row now; return true : Handler Desk String Bool)
        s := by
  unfold reconcilePending
  rw [hpending]
  dsimp only
  rw [if_neg (not_not.2 hkey), hkind]
  dsimp only
  rw [if_neg (not_not.2 hrow), ht]
  dsimp only
  rw [if_neg (not_not.2 hvalid)]

private theorem checks_of_reconcilePending {env : DeskEnv} (hpending : s.pending = some row)
    (hkind : targetKind row.target = some (kind, target))
    (h : (reconcilePending env secret now s).2 = .ok true) :
    validIdempotencyKey row.requestId ∧ rowIsValid row ∧
      ∃ t, s.targets row.target = some t ∧ t.isValid kind := by
  revert h
  fun_cases reconcilePending env secret now s with
  | case7 row' hrow' hkey kind' target' hkind' hrow t ht hvalid =>
    intro _
    cases hpending.symm.trans hrow'
    cases hkind.symm.trans hkind'
    exact ⟨not_not.1 hkey, not_not.1 hrow, t, ht, not_not.1 hvalid⟩
  | _ => rintro ⟨⟩

/-- A run of `reconcile_pending` publishes the pending row of a license or a machine exactly if the
row is finishable. -/
theorem reconcile_publishes_iff (env : DeskEnv) (secret : Option IssuerDO.EpochSecretPayload)
    (now : ℤ) (s : Desk) (row : RevocationRow) (hpending : s.pending = some row)
    (hkind : (targetKind row.target).isSome) :
    Publishes env secret now s row ↔ Finishable env secret s row := by
  obtain ⟨⟨kind, target⟩, hkind⟩ := isSome_iff_exists.1 hkind
  have hfind := mem_rows_iff.1 (mem_of_firstBy hpending).1
  constructor
  · rintro ⟨hok, -⟩
    obtain ⟨hkey, hrow, t, ht, hvalid⟩ := checks_of_reconcilePending hpending hkind hok
    obtain ⟨hpos, hfits⟩ := rowIsValid_seq hrow
    rw [reconcilePending_eq hpending hkind hkey hrow ht hvalid] at hok
    obtain ⟨s', _, happly, -⟩ := bind_eq_ok (Prod.ext rfl hok)
    have hready := (applyAndPublish_succeeds_iff env secret target now hvalid hpos hfits hfind).1
      ⟨s', _, happly⟩
    exact ⟨hkey, hrow, kind, target, t, hkind, ht, hvalid, hready⟩
  · rintro ⟨hkey, hrow, kind', target', t, hkind', ht, hvalid, hready⟩
    cases hkind.symm.trans hkind'
    obtain ⟨hpos, hfits⟩ := rowIsValid_seq hrow
    obtain ⟨s', _, happly⟩ :=
      (applyAndPublish_succeeds_iff env secret target now hvalid hpos hfits hfind).2 hready
    have hrun : reconcilePending env secret now s = (s', .ok true) := by
      rw [reconcilePending_eq hpending hkind hkey hrow ht hvalid]
      simp only [bind, happly]
      rfl
    unfold Publishes
    rw [hrun]
    exact ⟨rfl, published_of_applyAndPublish hfind happly⟩

/-! ### How the state comes about -/

/-- What changes the state between two runs: writes to the rows behind a target (a license is
created or patched, a machine is projected or erased), audit events of other Admin operations, calls
of the license objects, reservations, and the issuer forgetting an answer. -/
inductive DeskStep
  | writeTarget (target : RevocationTarget) (context : Option TargetContext)
  | auditOperation (operationId : String) (entry : AuditEntry)
  | callObject (id : LicenseId) (call : LicenseDO.Call)
  | reserve (target : RevocationTarget) (reason : ℕ) (actor requestId : String) (now : ℤ)
  | forget (seq : ℕ)
  | reconcile (secret : Option IssuerDO.EpochSecretPayload) (now : ℤ)

namespace Desk

/-- The reservation of a target that was found. -/
def reserve (s : Desk) (target : RevocationTarget) (reason : ℕ) (actor requestId : String)
    (now : ℤ) : Table RevocationRow.seq × Reservation :=
  reserveRevocation s.revocations target ((s.targets target).any (·.status == "revoked")) reason
    actor requestId now

/-- The state after a step. -/
def step (env : DeskEnv) (s : Desk) : DeskStep → Desk
  | .writeTarget target context => { s with targets := update s.targets target context }
  | .auditOperation operationId entry =>
    if (loadAudit s.mirror operationId).isSome then s
    else (createAudit env.audit operationId entry s).1
  | .callObject id call =>
    s.setObject id (LicenseDO.step { env.object with owner := id } (s.objects id) call)
  | .reserve target reason actor requestId now =>
    { s with revocations := (s.reserve target reason actor requestId now).1 }
  | .forget seq => { s with answers := update s.answers seq none }
  | .reconcile secret now => (reconcilePending env secret now s).1

end Desk

/-! ### A key that was used before -/

def deskEnv : DeskEnv where
  audit := { auditHash := fun input => BitVec.ofNat _ input.seq
             requestHash := fun entry => BitVec.ofNat _ entry.requestId.length
             isCanonical := fun _ => true }
  issuer := IssuerDO.batchIssuer
  object := { owner := 0, operationHash := fun _ => 0, primitives := .permissive _ }

/-- License `8` of a vendor. -/
def soldLicense : TargetContext where
  licenseId := 8
  productId := "app"
  vendorId := "vendor"
  status := "active"
  seats := 3
  heartbeatSec := none
  expiresAt := none
  affectedMachines := 0

/-- The audit event of an Admin operation that renamed a product. -/
def productPatched : AuditEntry where
  occurredAt := 900
  vendorId := "vendor"
  actor := "ops"
  action := "product:update"
  target := "products/app"
  reason := none
  requestId := "key-1"
  before := .document "before"
  after := .document "after"

def licensesSold : List DeskStep :=
  [.writeTarget (.license 8) (some soldLicense),
    .writeTarget (.license 9) (some { soldLicense with licenseId := 9 })]

/-- The key of the product's change is used again for the revocation of license `8`. -/
def keyReused : List DeskStep :=
  licensesSold ++ [.auditOperation "vendor/key-1" productPatched,
    .reserve (.license 8) 1 "ops" "key-1" 1000]

def blockedDesk : Desk := exec (Desk.step deskEnv) .new keyReused

/-- The revocation is reserved, every run fails on the audit event of the other operation and
changes nothing, and meanwhile no other license can be revoked. -/
theorem reused_key_blocks_revocations :
    ∃ row, blockedDesk.pending = some row ∧ row.target = .license 8 ∧
      (∀ secret now, reconcilePending deskEnv secret now blockedDesk =
        (blockedDesk, .error "stored Admin audit event conflicts with the revocation")) ∧
      (∀ runs : List (Option IssuerDO.EpochSecretPayload × ℤ),
        exec (Desk.step deskEnv) blockedDesk (runs.map fun r => .reconcile r.1 r.2) = blockedDesk) ∧
      ∀ reason actor requestId now, requestId ≠ "key-1" →
        (blockedDesk.reserve (.license 9) reason actor requestId now).2 = .anotherPending := by
  have hrun : ∀ secret now, reconcilePending deskEnv secret now blockedDesk =
      (blockedDesk, .error "stored Admin audit event conflicts with the revocation") := by
    intro secret now
    rw [reconcilePending_eq (t := soldLicense) rfl rfl (by decide) (by decide) rfl (by decide)]
    rfl
  refine ⟨_, rfl, rfl, hrun, ?_, ?_⟩
  · intro runs
    induction runs with
    | nil => rfl
    | cons r runs ih =>
      rw [List.map_cons, exec_cons]
      have hstep : Desk.step deskEnv blockedDesk (.reconcile r.1 r.2) = blockedDesk := by
        simp [Desk.step, hrun]
      rw [hstep]
      exact ih
  · intro reason actor requestId now hne
    have hrows : blockedDesk.revocations.rows =
        [reservedRow .empty (.license 8) 1 "ops" "key-1" 1000] := rfl
    have htarget : (blockedDesk.targets (.license 9)).any (·.status == "revoked") = false := rfl
    unfold Desk.reserve reserveRevocation
    rw [hrows, htarget]
    simp [reservedRow, hne.symm]

/-- The revocation of license `8` is reserved under a key of its own. -/
def freshDesk : Desk :=
  exec (Desk.step deskEnv) .new (licensesSold ++ [.reserve (.license 8) 1 "ops" "key-2" 1000])

/-- The theorem at that state. -/
theorem fresh_key_is_finished :
    ∃ row, freshDesk.pending = some row ∧ (targetKind row.target).isSome ∧
      Publishes deskEnv (some IssuerDO.batchSecret) 1001 freshDesk row ∧
      Finishable deskEnv (some IssuerDO.batchSecret) freshDesk row := by
  have hpublishes : Publishes deskEnv (some IssuerDO.batchSecret) 1001 freshDesk
      (reservedRow .empty (.license 8) 1 "ops" "key-2" 1000) := ⟨rfl, _, rfl, rfl⟩
  exact ⟨_, rfl, rfl, hpublishes,
    (reconcile_publishes_iff deskEnv _ 1001 freshDesk _ rfl rfl).1 hpublishes⟩

end CopyLocker.Worker.Reconciliation
