import CopyLocker.Worker.ActivationSafety
import CopyLocker.Worker.RevokedLicense
import CopyLocker.Worker.System

/-!
# Projections after a billing suspension

Billing writes `suspended` or `expired` to the database and does not tell the LicenseDO, whose own
status stays `active`. The projection statement compares versions of the object only, so the next
event of the object carries `active` over the status that billing wrote. This file determines the
runs in which a license stays down.
-/

namespace CopyLocker.Worker

open Foundation Run LicenseDO

/-- The billing event commits on the license and leaves it suspended or expired, because a refund
was reported or the dunning period lapsed. -/
def SetsDown (id : LicenseId) (s : System) : SystemStep → Prop
  | .billing e =>
    (e.kind = .refundReported ∨ e.kind = .dunningLapsed) ∧ Commits s.database e id ∧
      (((process s.database e).getD s.database).licenseStatus id = some .suspended ∨
        ((process s.database e).getD s.database).licenseStatus id = some .expired)
  | _ => False

/-- The consumer applies the event, and it is for the license and newer than its row. -/
def LicenseDO.ProjectionEvent.Reaches (e : ProjectionEvent) (db : Database) (id : LicenseId) :
    Prop :=
  e.isValid = true ∧ e.integers.all isSafeInteger = true ∧ e.licenseId = id ∧
    ∃ row, db.licenses.find id = some row ∧ row.projVersion < e.projVersion

/-- The delivered event reaches the license and says `active`. -/
def Reactivates (id : LicenseId) (s : System) : SystemStep → Prop
  | .deliver n => ∃ e, s.queue[n]? = some e ∧ e.Reaches s.database id ∧ e.licenseStatus = .active
  | _ => False

/-- The license is not active in the database. -/
def System.Down (id : LicenseId) (s : System) : Prop := s.database.licenseStatus id ≠ some .active

variable {id : LicenseId}

section Deliver

variable {db : Database} {e : ProjectionEvent}

theorem licenseStatus_of_reaches (h : e.Reaches db id) :
    (deliver db e).licenseStatus id = some e.licenseStatus := by
  obtain ⟨hvalid, hsafe, rfl, row, hrow, hversion⟩ := h
  cases happly : projectionApply db e with
  | none => simp [projectionApply, hsafe] at happly
  | some db' =>
    simp [deliver, hvalid, happly, licenseStatus_projectionApply happly, hrow, hversion]

theorem licenseStatus_of_not_reaches (h : ¬ e.Reaches db id) :
    (deliver db e).licenseStatus id = db.licenseStatus id := by
  unfold deliver
  split
  · refine Database.getD_of (P := fun db' => db'.licenseStatus id = db.licenseStatus id) rfl
      fun db' happly => ?_
    have hsafe : e.integers.all isSafeInteger := by
      by_contra hunsafe
      simp [projectionApply, hunsafe] at happly
    rw [licenseStatus_projectionApply happly]
    cases hrow : db.licenses.find id with
    | none => simp [Database.licenseStatus, hrow]
    | some row =>
      have hold : ¬ (id = e.licenseId ∧ row.projVersion < e.projVersion) := fun hnew =>
        h ⟨by assumption, hsafe, hnew.1.symm, row, hrow, hnew.2⟩
      simp [hold, Database.licenseStatus, hrow]
  · rfl

end Deliver

variable {env : Env} {s : System} {step : SystemStep}

theorem down_deliver_iff (hdown : s.Down id) (hdelivery : step.IsDelivery) :
    (systemStep env s step).Down id ↔ ¬ Reactivates id s step := by
  cases step with
  | deliver n =>
    cases hevent : s.queue[n]? with
    | none =>
      have hsame : (systemStep env s (.deliver n)).Down id := by
        simpa only [System.Down, systemStep, SystemStep.databaseRequest, hevent, Option.map_none,
          Option.elim_none] using hdown
      refine iff_of_true hsame ?_
      rintro ⟨e, he, -⟩
      rw [hevent] at he
      cases he
    | some e =>
      have hdb : (systemStep env s (.deliver n)).database = deliver s.database e := by
        simp [systemStep, SystemStep.databaseRequest, hevent, databaseStep]
      have hiff : Reactivates id s (.deliver n) ↔
          e.Reaches s.database id ∧ e.licenseStatus = .active := by simp [Reactivates, hevent]
      rw [System.Down, hdb, hiff]
      by_cases hreaches : e.Reaches s.database id
      · simp [licenseStatus_of_reaches hreaches, hreaches]
      · simpa [licenseStatus_of_not_reaches hreaches, hreaches, System.Down] using hdown
  | _ => exact hdelivery.elim

private theorem down_of_setsDown (h : SetsDown id s step) : (systemStep env s step).Down id := by
  cases step with
  | billing e =>
    obtain ⟨-, -, hstatus⟩ := h
    have hdb : (systemStep env s (.billing e)).database =
        (process s.database e).getD s.database := rfl
    rw [System.Down, hdb]
    rcases hstatus with hstatus | hstatus <;> simp [hstatus]
  | _ => exact h.elim

/-- Once a refund or a lapsed dunning period has taken a license down, and for as long as billing
and the administrator leave it down, projections leave it down exactly when none of them is newer
than the row and says `active`. -/
theorem staysDown_iff (env : Env) (id : LicenseId) (s : System) (steps : List SystemStep) :
    HeldAfter (systemStep env) (SetsDown id) (System.Down id) SystemStep.IsDelivery s steps ↔
      DuringWindows (systemStep env) (SetsDown id)
        (fun s step => ¬ step.IsDelivery → (systemStep env s step).Down id)
        (fun s step => ¬ Reactivates id s step) s steps := by
  refine heldAfter_iff_duringWindows ?_ ?_ ?_ s steps
  · intro s step h
    exact down_of_setsDown h
  · intro s step hdown hdelivery
    exact down_deliver_iff hdown hdelivery
  · intro s step hother hreactivates
    cases step with
    | deliver n => exact hother trivial
    | _ => exact hreactivates

/-! ### A reservation that outlives a refund -/

def beforeRefund : System where
  database := sampleDatabase
  object := State.new
  queue := []

/-- A device reserves a seat, the subscription starts, and a refund is reported. -/
def refunded : List SystemStep :=
  [ .object ⟨0, .init sampleInit⟩,
    .object ⟨10, .reserve sampleReserve⟩,
    .billing (sampleEvent "evt_1" 20 (.started 1 20 2592020 "month")),
    .billing (sampleEvent "evt_2" 30 .refundReported) ]

/-- The alarm gives the seat back and sends the object's two events; delivering the second makes
the refunded license active. -/
theorem delivery_reactivates_refunded_license :
    (exec (systemStep sampleEnv) beforeRefund refunded).database.licenseStatus 1 = some .suspended ∧
    (exec (systemStep sampleEnv) beforeRefund (refunded ++
      [.object ⟨80, .alarm 2⟩, .deliver 1])).database.licenseStatus 1 =
      some .active := by
  decide

end CopyLocker.Worker
