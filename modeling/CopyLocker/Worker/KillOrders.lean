import CopyLocker.Worker.Renewal
import CopyLocker.Worker.Seats

/-!
# Kill orders

A validation answers with a kill order when the license is revoked, or when the row of the machine
is revoked or released. The row does not say why its seat was given back, so the reason for a kill
order has to be looked for in the run before it.

Besides the machine's own deactivation and the two reclamations of the alarm there is a third way
to lose a seat: the alarm that expires a license gives back the seats of all its machines. When the
license is renewed or reactivated afterwards, these machines are killed at their next validation,
although nothing was revoked and none of them fell silent. `killed_without_justification` has such
a run. Otherwise a kill order has one of the intended reasons, `kill_has_cause`. A seat that is lost
is never regained, `seat_never_regained`.
-/

namespace CopyLocker.Worker.LicenseDO

open Foundation Run Server Proto State Option

/-- The heartbeat rule finds the machine silent for too long. -/
def License.findsSilent (l : License) (m : MachineId) (now : ℤ) : Bool :=
  (l.activations.find m).any fun a => l.heartbeatSec.any fun interval =>
    (Heartbeat.zombieCutoff interval now).any fun cutoff => isZombie cutoff a

/-- The call gives the machine's row a status that it did not have before. -/
def turns (env : Env) (m : MachineId) (status : ActivationStatus) (s : State) (c : Call) : Bool :=
  s.machineStatus m != some status && (step env s c).machineStatus m == some status

/-- The calls that justify a kill order for a machine: the revocation and the deactivation that its
row records, and the alarm that takes its seat and finds it silent. -/
def justifiesKill (env : Env) (m : MachineId) (s : State) (c : Call) : Bool :=
  match c.request with
  | .revoke input => input.subject == .machine m && turns env m .revoked s c
  | .deactivate input => input.machineId == m && turns env m .released s c
  | .alarm _ => s.license.any (·.findsSilent m c.now) && turns env m .released s c
  | _ => false

/-- An alarm takes back the reservation of a machine that was not committed in time. -/
def dropsReservation (env : Env) (m : MachineId) (s : State) (c : Call) : Bool :=
  match c.request with
  | .alarm _ => (s.machine m).any (isStalePending c.now) && turns env m .released s c
  | _ => false

/-- An alarm finds the license active and its own expiry passed, while the machine holds a seat. -/
def expiresSeat (m : MachineId) (s : State) (c : Call) : Bool :=
  match c.request with
  | .alarm _ => s.license.any fun l => l.status == .active && l.expired c.now &&
      (l.activations.find m).any (·.status.occupiesSeat)
  | _ => false

/-! ### The answer -/

/-- A kill order is given for a revoked license, or a row that is revoked or released. -/
theorem validate_kill {env : Env} {s : State} {input : ValidateRequest} {now : ℤ}
    {outcome : ValidateState} {reason : ℕ}
    (h : (validate env s input now).2 = .validated outcome)
    (hkill : outcome.killReason = some reason) :
    s.status = some .revoked ∨ s.machineStatus input.auth.machineId = some .revoked ∨
      s.machineStatus input.auth.machineId = some .released := by
  revert h
  fun_cases validate env s input now with
  | case9 _ _ _ _ _ l a hauth _ _ _ _ l₁ hnonce _ hreason =>
    rintro -
    obtain ⟨hl, ha⟩ := authenticateDevice_spec hauth
    obtain ⟨nonces, -, rfl⟩ := map_eq_some_iff.1 hnonce
    have hrow : s.machineStatus input.auth.machineId = some a.status := by
      rw [machineStatus, machine_of_license hl, ha, map_some]
    unfold killReason at hreason
    split at hreason
    next hrevoked => exact .inl (by rw [status, hl]; exact congrArg some hrevoked)
    split at hreason
    next hstatus => exact .inr (.inl (hrow.trans (congrArg some hstatus)))
    next hstatus => exact .inr (.inr (hrow.trans (congrArg some hstatus)))
    · cases hreason
    · cases hreason
  | case11 =>
    rintro ⟨⟩
    cases hkill
  | _ => rintro ⟨⟩

/-! ### How a row came to be revoked or released -/

section Cause

variable {env : Env} {m : MachineId} {status : ActivationStatus}

/-- A call that revokes the row of a machine, or gives its seat back for another reason than the
expiry of the license, justifies a kill order or drops a reservation. -/
theorem cause_of_step {s : State} {c : Call}
    (hstatus : status.occupiesSeat = false) (hbefore : s.machineStatus m ≠ some status)
    (hafter : (step env s c).machineStatus m = some status) (hexpiry : expiresSeat m s c = false) :
    justifiesKill env m s c ∨ dropsReservation env m s c := by
  have hturns : turns env m status s c := by simp [turns, hbefore, hafter]
  obtain ⟨a', ha', rfl⟩ := map_eq_some_iff.1 hafter
  rcases step_row env s c m a' ha' with ⟨a, ha, hstep⟩ | hnew
  · have hid := key_of_machine ha
    obtain ⟨l, hl, hfind⟩ := bind_eq_some_iff.1 ha
    cases hstep with
    | kept hkeeps =>
      refine absurd ?_ hbefore
      rw [machineStatus, ha, map_some, hkeeps.status]
    | committed _ _ hactive | completed _ _ _ _ _ hactive =>
      rw [hactive] at hstatus
      cases hstatus
    | revoked hrequest hsubject _ hrevoked =>
      rw [hid] at hsubject
      refine .inl ?_
      simp [justifiesKill, hrequest, hsubject, ← hrevoked, hturns]
    | released hseat _ hreleased hcause =>
      rw [hreleased] at hturns
      cases hcause with
      | deactivated hrequest hauth =>
        have hmachine := Table.key_of_find (authenticateDevice_spec hauth).2
        rw [hid] at hmachine
        refine .inl ?_
        simp [justifiesKill, hrequest, ← hmachine, hturns]
      | stale hrequest hstale =>
        refine .inr ?_
        simp [dropsReservation, hrequest, ha, hstale, hturns]
      | silent hrequest hl' hinterval hcutoff hzombie =>
        cases hl.symm.trans hl'
        refine .inl ?_
        simp [justifiesKill, hrequest, hl, License.findsSilent, hfind, hinterval, hcutoff, hzombie,
          hturns]
      | expired hrequest hl' hactive hexpired =>
        cases hl.symm.trans hl'
        simp [expiresSeat, hrequest, hl, hactive, hexpired, hfind, hseat] at hexpiry
  · rw [hnew.status] at hstatus
    cases hstatus

private theorem occurs_cause {calls : List Call} (hstatus : status.occupiesSeat = false)
    (hreached : (exec (step env) new calls).machineStatus m = some status)
    (hexpiry : Along (step env) (fun s c => expiresSeat m s c = false) new calls) :
    Occurs (step env) (fun s c => justifiesKill env m s c) new calls ∨
      Occurs (step env) (fun s c => dropsReservation env m s c) new calls := by
  have hnew : new.machineStatus m ≠ some status := by
    intro h
    cases h
  obtain ⟨pre, c, post, hcalls, hbefore, hafter⟩ :=
    occurs_of_reached (T := fun s : State => s.machineStatus m = some status) hnew hreached
  have hkept := (along_iff_forall_split _ _).1 hexpiry pre c post hcalls
  exact (cause_of_step hstatus hbefore hafter hkept).imp
    (fun h => ⟨pre, c, post, hcalls, h⟩) fun h => ⟨pre, c, post, hcalls, h⟩

end Cause

/-- In every run in which the machine does not lose its seat to an alarm that expires the license,
a validation answers with a kill order only if the license is revoked, or if before it the machine
was revoked, deactivated itself or was reclaimed as silent, or its reservation was not committed in
time. -/
theorem kill_has_cause (env : Env) (calls : List Call) (now : ℤ) (input : ValidateRequest)
    (outcome : ValidateState) (reason : ℕ)
    (hexpiry : Along (step env) (fun s c => expiresSeat input.auth.machineId s c = false) State.new
      calls)
    (hanswer : answer env (exec (step env) State.new calls) ⟨now, .validate input⟩ =
      .validated outcome)
    (hkill : outcome.killReason = some reason) :
    (exec (step env) State.new calls).status = some .revoked ∨
      Occurs (step env) (fun s c => justifiesKill env input.auth.machineId s c = true) State.new
        calls ∨
      Occurs (step env) (fun s c => dropsReservation env input.auth.machineId s c = true) State.new
        calls := by
  rcases validate_kill hanswer hkill with hlicense | hrevoked | hreleased
  · exact .inl hlicense
  · exact .inr (occurs_cause rfl hrevoked hexpiry)
  · exact .inr (occurs_cause rfl hreleased hexpiry)

/-! ### A machine killed after a renewal -/

/-- A request of machine 7 for license 1, with these fields of a proof besides. -/
def sampleAuth (nonce : ByteId 32) (rest : List (ℕ × CborField)) : AuthenticatedRequest where
  licenseId := 1
  machineId := 7
  suiteId := 1
  nonce := nonce
  proofInput :=
    { size := 1
      decoded := .ok ([(0, .uint protoVer), (1, .bytes (Suite.ByteId.toBytes (1 : SuiteId)))] ++
        rest) }
  proof := List.replicate 64 0
  idempotencyKey := ""

/-- A validation of machine 7. -/
def sampleValidate : ValidateRequest where
  auth := sampleAuth 5 [ (2, .bytes (Suite.ByteId.toBytes (7 : MachineId))),
    (4, .bytes (Suite.ByteId.toBytes (5 : ByteId 32))),
    (12, .bytes (Suite.ByteId.toBytes (1 : LicenseId))) ]
  knownRevocationEpoch := 0
  authoritativeRevocationEpoch := 0
  knownSecurityFloor := 0
  nextRefreshAfter := 2000
  notAfter := 0
  variantId := none
  authoritativeSecurityFloor := 0

/-- The reservation of machine 7 with a device key of full length. -/
def keyedReserve : ReserveRequest := { sampleReserve with deviceSigVk := List.replicate 32 0 }

/-- A committed machine, the alarm at the expiry, and the renewal. -/
def renewedTooLate : List Call :=
  [ ⟨0, .init { sampleInit with expiresAt := some 100 }⟩,
    ⟨10, .reserve keyedReserve⟩,
    ⟨11, .commit 7⟩,
    ⟨100, .alarm 0⟩,
    ⟨101, .adminUpdate
        { licenseId := 1, operationId := "renew", version := 1, status := .active, seats := 1,
          heartbeatSec := none, expiresAt := some 1000 }⟩ ]

/-- A reservation that is not committed before the alarm. -/
def uncommitted : List Call :=
  [ ⟨0, .init sampleInit⟩,
    ⟨10, .reserve keyedReserve⟩,
    ⟨71, .alarm 0⟩ ]

/-- A machine that is revoked by an administrator. -/
def machineRevoked : List Call :=
  [ ⟨0, .init sampleInit⟩,
    ⟨10, .reserve keyedReserve⟩,
    ⟨11, .commit 7⟩,
    ⟨12, .revoke { licenseId := 1, subject := .machine 7, revocationEpoch := 1 }⟩ ]

/-- Its kill order goes back to the revocation. -/
theorem kill_of_machineRevoked :
    Occurs (step sampleEnv) (fun s c => justifiesKill sampleEnv 7 s c = true) State.new
        machineRevoked ∨
      Occurs (step sampleEnv) (fun s c => dropsReservation sampleEnv 7 s c = true) State.new
        machineRevoked := by
  have hstatus : (exec (step sampleEnv) new machineRevoked).status ≠ some .revoked := by
    decide
  exact (kill_has_cause sampleEnv machineRevoked 102 sampleValidate _ 2 (by decide) rfl
    rfl).resolve_left hstatus

/-- The kill reason of an answer. -/
def Response.killReason : Response → Option ℕ
  | .validated outcome => outcome.killReason
  | _ => none

/-- After the renewal the license is active again, nothing happened to the machine that justifies a
kill order, and its validation is answered with one. The same answer goes to a machine whose
reservation was dropped. -/
theorem killed_without_justification :
    ((exec (step sampleEnv) State.new renewedTooLate).status = some .active ∧
      Along (step sampleEnv) (fun s c => justifiesKill sampleEnv 7 s c = false ∧
        dropsReservation sampleEnv 7 s c = false) State.new renewedTooLate ∧
      (answer sampleEnv (exec (step sampleEnv) State.new renewedTooLate)
        ⟨102, .validate sampleValidate⟩).killReason = some 3) ∧
    ((exec (step sampleEnv) State.new uncommitted).status = some .active ∧
      Along (step sampleEnv) (fun s c => justifiesKill sampleEnv 7 s c = false) State.new
        uncommitted ∧
      (answer sampleEnv (exec (step sampleEnv) State.new uncommitted)
        ⟨102, .validate sampleValidate⟩).killReason = some 3) := by
  decide

/-! ### Machines without a seat -/

section Unseated

variable {env : Env} {s : State} {m : MachineId} {now : ℤ}

/-- The machine has no row that holds a seat. -/
def State.Unseated (s : State) (m : MachineId) : Prop :=
  ∀ a, s.machine m = some a → a.status.occupiesSeat = false

theorem unseated_step (c : Call) (h : s.Unseated m)
    (hdrawn : ∀ input, c.request = .reserve input → input.machineId ≠ m) :
    (step env s c).Unseated m := by
  intro a' ha'
  rcases step_row env s c m a' ha' with ⟨a, ha, hstep⟩ | hnew
  · refine Bool.eq_false_of_not_eq_true fun hseat => ?_
    cases (h a ha).symm.trans (hstep.occupiesSeat hseat)
  · obtain ⟨input, hc, hid, -⟩ := hnew.request
    exact absurd (hid.symm.trans (key_of_machine ha')) (hdrawn input hc)

/-- A machine without a seat is validated to a kill order or not at all. -/
theorem killReason_of_unseated {input : ValidateRequest} {outcome : ValidateState}
    (h : s.Unseated input.auth.machineId)
    (hanswer : (validate env s input now).2 = .validated outcome) : outcome.killReason ≠ none := by
  revert hanswer
  fun_cases validate env s input now with
  | case9 =>
    rintro ⟨⟩
    exact some_ne_none _
  | case11 _ _ _ _ _ l a hauth _ _ _ _ l₁ hnonce hreason =>
    obtain ⟨hl, ha⟩ := authenticateDevice_spec hauth
    have hseat := h a ((machine_of_license hl _).trans ha)
    unfold killReason at hreason
    split_ifs at hreason
    cases hstatus : a.status <;> simp [hstatus, ActivationStatus.occupiesSeat] at hreason hseat
  | _ => rintro ⟨⟩

end Unseated

/-- A machine that has lost its seat, in any state of the object, never has one again and is never
validated to a ticket again, as long as its id is not drawn for a new reservation. -/
theorem seat_never_regained (env : Env) (s : State) (m : MachineId) (hlost : s.Unseated m)
    (calls : List Call)
    (hdrawn : ∀ c ∈ calls, ∀ input, c.request = .reserve input → input.machineId ≠ m) :
    (exec (step env) s calls).Unseated m ∧
      ∀ now input outcome, input.auth.machineId = m →
        answer env (exec (step env) s calls) ⟨now, .validate input⟩ = .validated outcome →
          outcome.killReason ≠ none := by
  have hunseated : (exec (step env) s calls).Unseated m :=
    exec_induction_along (I := fun s : State => s.Unseated m)
      (fun _ c h hc => unseated_step c h hc) hlost ((along_const s calls).2 hdrawn)
  refine ⟨hunseated, ?_⟩
  rintro now input outcome rfl hanswer
  exact killReason_of_unseated hunseated hanswer

/-- The machine that was revoked is still refused when its device has reserved again. -/
theorem seat_of_revoked_machine :
    (exec (step sampleEnv) State.new (machineRevoked ++
      [⟨13, .reserve { keyedReserve with machineId := 8 }⟩])).Unseated 7 := by
  rw [exec_append]
  refine (seat_never_regained sampleEnv _ 7 ?_ _ ?_).1
  · unfold Unseated
    decide
  · simp

end CopyLocker.Worker.LicenseDO
