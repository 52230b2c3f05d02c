import CopyLocker.Worker.Billing

/-!
# One license across its two stores

The status of a license lives in two places. The LicenseDO decides activations and validations from
its own tables, and the database row serves billing, the administrator and the issue of new
credentials. The object reports to the database through the projection queue only, which may deliver
an event late, out of order or twice; billing and the administrator write the database directly. The
object of a run has seen its own requests and nothing else (`exec_object`).
-/

namespace CopyLocker.Worker

open Foundation Run LicenseDO

/-- The events that an answer has handed to the queue. -/
def LicenseDO.Response.sent : Response → List ProjectionEvent
  | .alarm sent | .fault sent => sent
  | _ => []

/-- The database, the object of one license, and every event it has sent so far. -/
structure System where
  database : Database
  object : State
  queue : List ProjectionEvent

/-- What can happen. -/
inductive SystemStep
  | billing (e : BillingEvent)
  | settleRefund (licenseId : LicenseId) (reviewUntil now : ℤ)
  | patch (p : LicensePatch)
  | object (c : Call)
  | deliver (n : ℕ)

namespace SystemStep

/-- The request to the database that a step makes; a delivery takes any event sent so far. -/
def databaseRequest (s : System) : SystemStep → Option DatabaseStep
  | .billing e => some (.billing e)
  | .settleRefund licenseId reviewUntil now => some (.settleRefund licenseId reviewUntil now)
  | .patch p => some (.patch p)
  | .object _ => none
  | .deliver n => s.queue[n]?.map .projection

/-- The request to the object that a step makes. -/
def call : SystemStep → Option Call
  | .object c => some c
  | _ => none

/-- The step delivers a projection. -/
def IsDelivery : SystemStep → Prop
  | .deliver _ => True
  | _ => False

end SystemStep

/-- One step of the system: billing and the administrator do not reach the object. -/
def systemStep (env : Env) (s : System) (step : SystemStep) : System where
  database := (step.databaseRequest s).elim s.database (databaseStep s.database)
  object := step.call.elim s.object (LicenseDO.step env s.object)
  queue := s.queue ++ step.call.elim [] fun c => (answer env s.object c).sent

/-- The object after a run is the object after its own requests. -/
theorem exec_object (env : Env) (s : System) (steps : List SystemStep) :
    (exec (systemStep env) s steps).object =
      exec (LicenseDO.step env) s.object (steps.filterMap SystemStep.call) := by
  induction steps generalizing s with
  | nil => rfl
  | cons step steps ih =>
    rw [exec_cons, ih]
    cases hcall : step.call with
    | none => rw [List.filterMap_cons_none hcall, systemStep, hcall, Option.elim_none]
    | some c => rw [List.filterMap_cons_some hcall, exec_cons, systemStep, hcall, Option.elim_some]

end CopyLocker.Worker
