import CopyLocker.Worker.Service
import CopyLocker.Worker.System

/-!
# The whole deployment

The service of `CopyLocker.Worker.Service`, the license table of the database, and the queue that
carries the projections of the license objects to it. A revocation goes through the service: its
row is reserved, the object of the license revokes, and the row is marked as applied. The database
hears of it when a projection of the object is delivered.

An update by an administrator reads the row of the license and writes it back later, so other
steps run in between, also on the same license.
-/

namespace CopyLocker.Worker

open Foundation LicenseDO

/-! ### The deployment -/

/-- A patch that was read and is to be written. -/
structure PendingPatch where
  patch : LicensePatch
  proposed : LicenseRow

/-- The service, the database, and what is under way between them. -/
structure Deployment where
  service : Service
  database : Database
  queue : List ProjectionEvent
  patches : List PendingPatch

/-- What can happen. -/
inductive DeploymentStep
  | service (step : ServiceStep)
  | billing (e : BillingEvent)
  | settleRefund (licenseId : LicenseId) (reviewUntil now : ℤ)
  | readPatch (p : LicensePatch)
  | writePatch (n : ℕ)
  | deliver (n : ℕ)

namespace Deployment

/-- The events that a step of the service hands to the queue. -/
def sent (env : ServiceEnv) (d : Deployment) : ServiceStep → List ProjectionEvent
  | .license id call => (answer (env.licenseAt id) (d.service.licenses id) call).sent
  | _ => []

/-- The deployment after a step. -/
def step (env : ServiceEnv) (d : Deployment) : DeploymentStep → Deployment
  | .service step =>
    { d with service := d.service.step env step, queue := d.queue ++ d.sent env step }
  | .billing e => { d with database := databaseStep d.database (.billing e) }
  | .settleRefund licenseId reviewUntil now =>
    { d with database := databaseStep d.database (.settleRefund licenseId reviewUntil now) }
  | .readPatch p =>
    match checkPatch d.database p with
    | none => d
    | some proposed => { d with patches := d.patches ++ [{ patch := p, proposed }] }
  | .writePatch n =>
    match d.patches[n]? with
    | none => d
    | some pending => { d with database := writePatch d.database pending.patch pending.proposed }
  | .deliver n =>
    match d.queue[n]? with
    | none => d
    | some e => { d with database := databaseStep d.database (.projection e) }

/-- A revocation of the license has been applied. -/
def Applied (d : Deployment) (id : LicenseId) : Prop :=
  ∃ row ∈ d.service.registry.revocations.rows, row.target = .license id ∧
    row.appliedAt.isSome = true

instance (d : Deployment) (id : LicenseId) : Decidable (d.Applied id) :=
  inferInstanceAs (Decidable (∃ row ∈ d.service.registry.revocations.rows,
    row.target = .license id ∧ row.appliedAt.isSome = true))

/-- The license is not active in the database. -/
def Down (d : Deployment) (id : LicenseId) : Prop := d.database.licenseStatus id ≠ some .active

/-- The step applies a revocation of the license, the first one. -/
def Applies (env : ServiceEnv) (id : LicenseId) (d : Deployment) (e : DeploymentStep) : Prop :=
  ¬ d.Applied id ∧ (d.step env e).Applied id

end Deployment

end CopyLocker.Worker
