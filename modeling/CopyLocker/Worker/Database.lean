import CopyLocker.Server.Subscription
import CopyLocker.Worker.LicenseDevice

/-!
# The worker's database

The D1 tables that billing, the projections and the administrator write: licenses with the
validity of their policy, subscriptions, the log of billing events, and the machines.

Every integer that reaches D1 goes through a JavaScript number, so a value outside the safe range
makes the request fail before anything is written.
-/

namespace CopyLocker.Worker

open Foundation Server LicenseDO

/-- The payment providers. -/
inductive BillingProvider
  | stripe
  | paddle
  | lemonSqueezy
  deriving DecidableEq

/-- The name of a provider in the database. -/
def BillingProvider.asStr : BillingProvider → String
  | stripe => "stripe"
  | paddle => "paddle"
  | lemonSqueezy => "lemonsqueezy"

/-- A row of `licenses`, joined with the validity of its policy; `none` for a policy whose
validity does not parse. -/
structure LicenseRow where
  id : LicenseId
  validity : Option Validity
  status : LicenseStatus
  versionScopeOverride : Option ℤ
  expiresAt : Option ℤ
  updatedAt : ℤ
  seatsUsed : ℕ
  lastSeenAt : Option ℤ
  projVersion : ℕ
  deriving DecidableEq

/-- A row of `subscriptions`. -/
structure SubscriptionRow where
  licenseId : LicenseId
  provider : BillingProvider
  externalId : String
  state : SubscriptionState
  currentPeriodStart : ℤ
  currentPeriodEnd : ℤ
  dunningUntil : Option ℤ
  continuousPaidMonths : ℕ
  fallbackEarnedAt : Option ℤ
  canceledAt : Option ℤ
  updatedAt : ℤ
  refundObserveUntil : Option ℤ
  deriving DecidableEq

/-- A row of `billing_events`, which is its key. -/
structure BillingEventRow where
  provider : BillingProvider
  eventId : String
  deriving DecidableEq

/-- A row of `machines`: the last projection of the machine and its version. -/
structure MachineRow where
  licenseId : LicenseId
  machine : MachineProjection
  projVersion : ℕ
  deriving DecidableEq

def MachineRow.id (r : MachineRow) : MachineId := r.machine.machineId

/-- The tables that billing writes. -/
structure Database where
  licenses : Table LicenseRow.id
  subscriptions : Table SubscriptionRow.licenseId
  billingEvents : Table (id : BillingEventRow → BillingEventRow)
  machines : Table MachineRow.id

/-- The greatest integer that a JavaScript number holds exactly. -/
def maxSafeInteger : ℤ := 9007199254740991

def isSafeInteger (v : ℤ) : Bool := decide (-maxSafeInteger ≤ v) && decide (v ≤ maxSafeInteger)

theorem isSafeInteger_iff {v : ℤ} :
    isSafeInteger v ↔ -9007199254740991 ≤ v ∧ v ≤ 9007199254740991 :=
  Bool.and_eq_true_iff.trans (and_congr decide_eq_true_iff decide_eq_true_iff)

namespace Database

/-- `SELECT status FROM licenses WHERE id = ?`. -/
def licenseStatus (db : Database) (licenseId : LicenseId) : Option LicenseStatus :=
  (db.licenses.find licenseId).map (·.status)

/-- `UPDATE licenses SET … WHERE id = ? AND p`. -/
def updateLicense (db : Database) (licenseId : LicenseId) (p : LicenseRow → Bool)
    (f : LicenseRow → LicenseRow) (hf : ∀ r, (f r).id = r.id := by intro r; rfl) : Database :=
  { db with licenses := db.licenses.updateWhere (fun r => r.id == licenseId && p r) f hf }

end Database

/-- The status of a license after an update of one license: only a row with that id which
satisfies the condition changes. -/
theorem licenseStatus_updateLicense (db : Database) (licenseId : LicenseId)
    (p : LicenseRow → Bool) (f : LicenseRow → LicenseRow) (hf : ∀ r, (f r).id = r.id)
    (id : LicenseId) :
    (db.updateLicense licenseId p f hf).licenseStatus id = (db.licenses.find id).map fun r =>
        if id = licenseId ∧ p r then (f r).status else r.status := by
  rw [Database.licenseStatus, Database.updateLicense, Table.find_updateWhere, Option.map_map]
  cases hfind : db.licenses.find id with
  | none => rfl
  | some r =>
    have hid : r.id = id := Table.key_of_find hfind
    simp only [Option.map_some, Function.comp_apply, hid, Bool.and_eq_true, beq_iff_eq]
    split_ifs <;> rfl

/-! ### Projections -/

/-- The integers that a projection binds. -/
def LicenseDO.ProjectionEvent.integers (e : ProjectionEvent) : List ℤ :=
  [(e.seatsUsed : ℤ), e.occurredAt, (e.projVersion : ℤ)] ++ e.lastSeenAt.toList ++
    match e.machine with
    | none => []
    | some m => [m.firstSeenAt, m.variantId, (m.suspicion : ℤ)] ++ m.lastSeenAt.toList

/-- `INSERT INTO machines … ON CONFLICT(id) DO UPDATE … WHERE proj_version < excluded`. -/
def Database.upsertMachine (db : Database) (row : MachineRow) : Database :=
  match db.machines.find row.id with
  | none => { db with machines := db.machines.upsert row }
  | some old =>
    if old.projVersion < row.projVersion then { db with machines := db.machines.upsert row } else db

/-- `projection::apply`: the machine's row, then the license's row, each only for a newer
version; `none` when an integer cannot be bound. -/
def projectionApply (db : Database) (e : ProjectionEvent) : Option Database :=
  if e.integers.all isSafeInteger then
    let db := match e.machine with
      | none => db
      | some machine =>
        db.upsertMachine { licenseId := e.licenseId, machine, projVersion := e.projVersion }
    some (db.updateLicense e.licenseId (fun r => decide (r.projVersion < e.projVersion)) fun r =>
      { r with
        status := e.licenseStatus
        seatsUsed := e.seatsUsed
        lastSeenAt := e.lastSeenAt
        updatedAt := e.occurredAt
        projVersion := e.projVersion })
  else none

@[simp] theorem Database.upsertMachine_licenses (db : Database) (row : MachineRow) :
    (db.upsertMachine row).licenses = db.licenses := by
  unfold upsertMachine
  split
  · rfl
  · split <;> rfl

/-- A projection sets the status of its own license, and only over an older version. -/
theorem licenseStatus_projectionApply {db db' : Database} {e : ProjectionEvent}
    (h : projectionApply db e = some db') (id : LicenseId) :
    db'.licenseStatus id = (db.licenses.find id).map fun r =>
      if id = e.licenseId ∧ r.projVersion < e.projVersion then e.licenseStatus else r.status := by
  unfold projectionApply at h
  split at h
  · cases h
    rw [licenseStatus_updateLicense]
    cases e.machine with
    | none => simp only [decide_eq_true_eq]
    | some machine => simp only [Database.upsertMachine_licenses, decide_eq_true_eq]
  · cases h

end CopyLocker.Worker
