import CopyLocker.Worker.ActivationSafety
import CopyLocker.Worker.SubscriptionRows
import CopyLocker.Worker.System

/-!
# The rows that projections leave

A projection event is two statements, one for the row of its machine and one for the row of its
license. Both compare versions, but a machine without a row gets one, whatever the version. So a row
that was deleted comes back with any event of the machine that is still under way.
`erasure_final_iff` says when a machine that was erased stays erased.
-/

namespace CopyLocker.Worker

open Foundation Run LicenseDO Table

/-- The consumer accepts the event, and its integers can be bound. -/
def LicenseDO.ProjectionEvent.applies (e : ProjectionEvent) : Bool :=
  e.isValid && e.integers.all isSafeInteger

variable {db : Database}

theorem deliver_of_not_applies {e : ProjectionEvent} (h : ¬ e.applies) :
    deliver db e = db := by
  unfold deliver projectionApply
  split_ifs with hvalid hsafe
  · exact absurd (Bool.and_eq_true_iff.2 ⟨hvalid, hsafe⟩) h
  · rfl
  · rfl

/-- A machine without a row gets one, whatever the version. -/
theorem find_upsertMachine_of_none {m : MachineId}
    (h : db.machines.find m = none) (row : MachineRow) :
    (db.upsertMachine row).machines.find m ≠ none ↔ row.id = m := by
  unfold Database.upsertMachine
  cases hold : db.machines.find row.id with
  | none => simp [find_upsert, h]
  | some old =>
    have hm : row.id ≠ m := by
      rintro rfl
      rw [h] at hold
      cases hold
    dsimp only
    split_ifs <;> simp [find_upsert, hm, h]

/-! ### Erasure -/

theorem machines_databaseStep (db : Database) (step : DatabaseStep)
    (h : ∀ e, step ≠ .projection e) : (databaseStep db step).machines = db.machines := by
  cases step with
  | billing e =>
    refine Database.getD_of (P := fun db' => db'.machines = db.machines) rfl fun db' hprocess => ?_
    cases process_cases hprocess with
    | again => rfl
    | started _ _ _ _ hcommit =>
      obtain ⟨-, -, _, _, -, -, rfl⟩ := commitStarted_eq_some_iff.1 hcommit
      rfl
    | existing _ _ _ _ _ hcommit =>
      obtain ⟨-, _, -, rfl⟩ := commitExisting_eq_some_iff.1 hcommit
      rfl
  | settleRefund licenseId reviewUntil now => rfl
  | projection e => exact absurd rfl (h e)
  | patch p =>
    exact Database.getD_of (P := fun db' => db'.machines = db.machines) rfl fun db' hpatch =>
      (patchLicense_frame hpatch).2.2.1

/-- The object has forgotten the machine, and its row is deleted. -/
structure System.Erased (m : MachineId) (s : System) : Prop where
  forgotten : s.object.machine m = none
  deleted : s.database.machines.find m = none

/-- `DELETE FROM machines WHERE id = ?`. -/
def System.deleteMachine (m : MachineId) (s : System) : System :=
  { s with
    database := { s.database with machines := s.database.machines.deleteWhere (·.id = m) } }

/-- The delivered event is one that the consumer applies, and it names the machine. -/
def Recreates (m : MachineId) (s : System) : SystemStep → Bool
  | .deliver n => s.queue[n]?.any fun e => e.applies && e.machine.any (·.machineId = m)
  | _ => false

private theorem find_machines_deliver_of_none {m : MachineId}
    (h : db.machines.find m = none) (e : ProjectionEvent) :
    (deliver db e).machines.find m ≠ none ↔ (e.applies && e.machine.any (·.machineId = m)) := by
  by_cases happlies : e.applies
  swap
  · rw [deliver_of_not_applies happlies, h]
    simp [happlies]
  obtain ⟨hvalid, hsafe⟩ := Bool.and_eq_true_iff.1 happlies
  rw [deliver, if_pos hvalid, projectionApply, if_pos hsafe, Option.getD_some, happlies,
    Bool.true_and]
  cases e.machine with
  | none => simp [Database.updateLicense, h]
  | some machine =>
    refine (find_upsertMachine_of_none h _).trans ?_
    simp [MachineRow.id]

/-- A machine that was erased stays without a row exactly when no event that names it is
delivered. -/
theorem erasure_final_iff (env : Env) (m : MachineId) (s : System) (steps : List SystemStep)
    (herased : s.Erased m) :
    (∀ pre post, steps = pre ++ post →
      (exec (systemStep env) s pre).database.machines.find m = none) ↔
      Along (systemStep env) (fun s step => ¬ Recreates m s step) s steps := by
  have hstep (s : System) (step : SystemStep) (habsent : ¬ s.database.machines.find m ≠ none)
      (_ : True) :
      (systemStep env s step).database.machines.find m ≠ none ↔ Recreates m s step := by
    rw [not_not] at habsent
    cases step with
    | deliver n =>
      have hdatabase : (systemStep env s (.deliver n)).database =
          s.queue[n]?.elim s.database (deliver s.database) := by
        cases hevent : s.queue[n]? <;>
          simp [systemStep, SystemStep.databaseRequest, hevent, databaseStep]
      rw [hdatabase]
      cases hevent : s.queue[n]? with
      | none => simp [Recreates, hevent, habsent]
      | some e =>
        rw [Option.elim_some, find_machines_deliver_of_none habsent]
        simp [Recreates, hevent]
    | object | settleRefund => exact iff_of_false (not_not.2 habsent) Bool.noConfusion
    | billing e =>
      refine iff_of_false (not_not.2 ?_) Bool.noConfusion
      exact (congrArg (find · m) (machines_databaseStep _ (.billing e) (by simp))).trans habsent
    | patch p =>
      refine iff_of_false (not_not.2 ?_) Bool.noConfusion
      exact (congrArg (find · m) (machines_databaseStep _ (.patch p) (by simp))).trans habsent
  have hnever := never_iff_along hstep (not_not.2 herased.deleted)
    fun step (_ : step ∈ steps) => trivial
  simpa only [not_not] using hnever

/-- A device is activated, and the alarm sends the events of its reservation and its completion. The
first is delivered, so the machine has its row. -/
def activatedDevice : System :=
  exec (systemStep sampleEnv) { database := sampleDatabase, object := State.new, queue := [] }
    [ .object ⟨0, .init sampleInit⟩,
      .object ⟨10, .reserve sampleReserve⟩,
      .object ⟨11, .complete sampleComplete⟩,
      .object ⟨12, .alarm 9⟩,
      .deliver 0 ]

/-- Its row is deleted and the object forgets it. -/
def erasedDevice : System :=
  systemStep sampleEnv (activatedDevice.deleteMachine 7) (.object
      ⟨13, .adminForget { licenseId := 1, machineId := 7, operationId := "f" }⟩)

theorem erased_erasedDevice : erasedDevice.Erased 7 := ⟨by decide, by decide⟩

/-- The second event then inserts the row again. -/
theorem late_delivery_recreates_machine :
    activatedDevice.database.machines.find 7 ≠ none ∧ erasedDevice.Erased 7 ∧
      (systemStep sampleEnv erasedDevice (.deliver 1)).database.machines.find 7 ≠ none :=
  ⟨by decide, erased_erasedDevice, by decide⟩

/-- The revocation of the license is an event that names no machine. -/
theorem license_event_leaves_device_erased :
    let revoked : RevokeRequest := { licenseId := 1, subject := .license, revocationEpoch := 1 }
    let steps := [ .object ⟨14, .revoke revoked⟩,
      .object ⟨15, .alarm 9⟩, .deliver 2 ]
    erasedDevice.Erased 7 ∧ ∀ pre post, steps = pre ++ post →
        (exec (systemStep sampleEnv) erasedDevice pre).database.machines.find 7 = none :=
  ⟨erased_erasedDevice,
    (erasure_final_iff _ _ _ _ erased_erasedDevice).2 ⟨by decide, by decide, by decide, trivial⟩⟩

end CopyLocker.Worker
