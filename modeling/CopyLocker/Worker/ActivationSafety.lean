import CopyLocker.Worker.LicenseRows

/-!
# Activations of a license that is not active

A reservation checks that the license is active. The two later phases, `complete` and `commit`,
run as requests of their own and check only the machine's row, so a license that was suspended,
revoked or expired in between still hands out its credential. This file states the intended rule
over whole runs of a LicenseDO and determines the runs that keep it.

## Main results

* `quiet_step`: only `complete` and `commit` turn a row active.
* `quietWhileInactive_iff`: a run keeps the rule exactly when no call finishes an activation of an
  inactive license.
-/

namespace CopyLocker.Worker.LicenseDO

open Foundation Run Proto Option

/-- The license has a status, and it is not active. -/
def State.Inactive (s : State) : Prop := ∃ status, s.status = some status ∧ status ≠ .active

variable {s : State}

theorem State.Inactive.license (hs : s.Inactive) :
    ∃ l, s.license = some l ∧ l.status ≠ .active := by
  obtain ⟨status, hstatus, hne⟩ := hs
  obtain ⟨l, hl, rfl⟩ := map_eq_some_iff.1 hstatus
  exact ⟨l, hl, hne⟩

/-- Every active row of `s'` was active in `s`. -/
def Quiet (s s' : State) : Prop :=
  ∀ m, s'.machineStatus m = some .active → s.machineStatus m = some .active

/-- No call that finds an inactive license turns a machine active or hands out an envelope. -/
def QuietWhileInactive (env : Env) (s : State) (calls : List Call) : Prop :=
  ∀ pre c post, calls = pre ++ c :: post → let found := exec (step env) s pre
    found.Inactive → Quiet found (step env found c) ∧ (answer env found c).carriesEnvelope = false

/-- A completion that will be answered: its reservation is stored under its key and hash, for its
machine, and either holds an envelope already or matches the offered one while its row still
holds a seat. -/
def Completable (s : State) (input : CompleteRequest) : Prop :=
  ¬ (input.idempotencyKey.isEmpty ∨ 128 < input.idempotencyKey.utf8ByteSize ∨
      input.activationEnvelope.size = 0 ∨ maxInternalBody < input.activationEnvelope.size) ∧
    ∃ row r, s.idem.find { operation := .reserve, key := input.idempotencyKey } = some row ∧
      row.requestHash = input.requestHash ∧ row.reservation = some r ∧
      r.machineId = input.machineId ∧
      (r.activationEnvelope.isSome ∨
        ∃ material credentialState l status, r.material = some material ∧
          r.credentialState = some credentialState ∧ s.license = some l ∧
          completionMatches l input.activationEnvelope r material = true ∧
          l.activationStatus input.machineId = some status ∧ status.occupiesSeat = true)

/-- The call finishes an activation: a completion that will be answered, or the commit of a
reserved row. -/
def Finishes (s : State) (c : Call) : Prop :=
  (∃ input, c.request = .complete input ∧ Completable s input) ∨
    ∃ machineId, c.request = .commit machineId ∧ s.machineStatus machineId = some .pending

/-! ### Rows that turn active -/

/-- A call other than `complete` and `commit` turns no row active. -/
theorem quiet_step (env : Env) (s : State) (c : Call)
    (hcomplete : ∀ input, c.request ≠ .complete input)
    (hcommit : ∀ machineId, c.request ≠ .commit machineId) : Quiet s (step env s c) := by
  intro m hm
  obtain ⟨a', ha', hactive⟩ := map_eq_some_iff.1 hm
  rcases step_row env s c m a' ha' with ⟨a, ha, hstep⟩ | hnew
  · rw [State.machineStatus, ha, map_some]
    cases hstep with
    | kept hkeeps => rw [← hkeeps.status, hactive]
    | committed _ _ _ hc => exact absurd hc (hcommit _)
    | completed hc => exact absurd hc (hcomplete _)
    | released _ _ hstatus | revoked _ _ _ hstatus =>
      rw [hstatus] at hactive
      cases hactive
  · rw [hnew.status] at hactive
    cases hactive

/-! ### The answers -/

/-- A completion that is not answered with an envelope changes nothing. -/
theorem complete_fst_or_carriesEnvelope (env : Env) (s : State) (input : CompleteRequest)
    (now : ℤ) : (complete s input now).1 = s ∨ (complete s input now).2.carriesEnvelope := by
  have h := complete_outcome env s now input
  generalize complete s input now = result at h ⊢
  cases h with
  | same | replayed => exact .inl rfl
  | noted hrequest => exact absurd rfl (hrequest input)
  | completed => exact .inr rfl

private theorem completable_of_carriesEnvelope (env : Env) {input : CompleteRequest}
    {now : ℤ} (h : (complete s input now).2.carriesEnvelope) : Completable s input := by
  have houtcome := complete_outcome env s now input
  generalize complete s input now = result at h houtcome
  cases houtcome with
  | same hr | noted _ _ hr =>
    rw [hr] at h
    cases h
  | replayed hfinds henvelope =>
    refine ⟨hfinds.sized, _, _, hfinds.found, hfinds.hash, hfinds.reservation, hfinds.machine, ?_⟩
    rw [henvelope]
    exact .inl rfl
  | completed hfinds hmaterial hcredential hl hmatches ha hseat =>
    refine ⟨hfinds.sized, _, _, hfinds.found, hfinds.hash, hfinds.reservation, hfinds.machine,
      .inr ⟨_, _, _, _, hmaterial, hcredential, hl, hmatches, ?_, hseat⟩⟩
    rw [License.activationStatus, ha, map_some]

/-- A completion is answered with an envelope exactly when it is completable. -/
theorem complete_carriesEnvelope_iff (env : Env) (s : State) (input : CompleteRequest) (now : ℤ) :
    (complete s input now).2.carriesEnvelope ↔ Completable s input := by
  refine ⟨completable_of_carriesEnvelope env, ?_⟩
  rintro ⟨hsize, row, r, hfind, hhash, hr, hmachine, hcase⟩
  have hload : s.loadOperation { operation := .reserve, key := input.idempotencyKey }
      input.requestHash = .completed row := by
    simp [State.loadOperation, hfind, hhash]
  unfold complete
  simp only [if_neg hsize, hload, hr, hmachine, ne_eq, not_true_eq_false, if_false]
  cases henvelope : r.activationEnvelope with
  | some envelope => rfl
  | none =>
    rcases hcase with hsome |
      ⟨material, credentialState, l, status, hmaterial, hcredential, hl, hmatches, hstatus, hseat⟩
    · rw [henvelope] at hsome
      cases hsome
    · simp [hmaterial, hcredential, hl, hmatches, hstatus, hseat, Response.carriesEnvelope]

/-- While the license is inactive, only a completion is answered with an envelope. -/
theorem carriesEnvelope_eq_false (env : Env) (hs : s.Inactive) (c : Call)
    (hcomplete : ∀ input, c.request ≠ .complete input) :
    (answer env s c).carriesEnvelope = false := by
  obtain ⟨l, hl, hinactive⟩ := hs.license
  obtain ⟨now, request⟩ := c
  have h := handle_outcome env s now request
  unfold answer
  generalize handle env s now request = result at h ⊢
  cases h with
  | same hr | noted _ _ hr | declined _ _ hr | checked _ _ hr | reclaimed hr | flushed _ hr =>
    exact hr
  | floored hl' hstatus | fresh hl' hstatus =>
    -- a reservation is refused while the license is inactive
    cases hl.symm.trans hl'
    exact absurd hstatus hinactive
  | replayed | completed => exact absurd rfl (hcomplete _)
  | _ => rfl

/-! ### The rule over a run -/

theorem commit_machineStatus {machineId : MachineId}
    (h : s.machineStatus machineId = some .pending) (now : ℤ) :
    (commit s machineId now).1.machineStatus machineId = some .active := by
  obtain ⟨a, ha, hpending⟩ := map_eq_some_iff.1 h
  obtain ⟨l, hl, hfind⟩ := bind_eq_some_iff.1 ha
  have hstatus : l.activationStatus machineId = some .pending := by
    rw [License.activationStatus, hfind, map_some, hpending]
  have hrow : a.machineId = machineId := Table.key_of_find hfind
  unfold commit
  simp only [hl, hstatus]
  change (l.commitPending machineId now).activationStatus machineId = some .active
  rw [License.commitPending, License.activationStatus, License.updateActivations,
    Table.find_updateWhere, hfind]
  simp [hrow, hpending]

private theorem commit_fst_of_not_pending {machineId : MachineId}
    (h : s.machineStatus machineId ≠ some .pending) (now : ℤ) :
    (commit s machineId now).1 = s := by
  unfold commit
  split
  · rfl
  next l hl =>
    have hstatus : s.machineStatus machineId = l.activationStatus machineId := by
      simp [State.machineStatus, State.machine, hl, License.activationStatus]
    rw [hstatus] at h
    split
    · rfl
    next hpending => exact absurd hpending h
    · rfl
    · rfl
    · rfl

/-- One call finds an inactive license and keeps the rule exactly when it finishes nothing. -/
theorem quiet_and_no_envelope_iff (env : Env) (hs : s.Inactive) (c : Call) :
    (Quiet s (step env s c) ∧ (answer env s c).carriesEnvelope = false) ↔ ¬ Finishes s c := by
  obtain ⟨now, request⟩ := c
  constructor
  · rintro ⟨hquiet, hanswer⟩ (⟨input, rfl, hcompletable⟩ | ⟨machineId, rfl, hpending⟩)
    · have hcarries := (complete_carriesEnvelope_iff env s input now).2 hcompletable
      exact Bool.false_ne_true (hanswer.symm.trans hcarries)
    · have hactive := hquiet machineId (commit_machineStatus hpending now)
      rw [hpending] at hactive
      cases hactive
  · intro hfinishes
    cases hrequest : request with
    | complete input =>
      have hnot : (complete s input now).2.carriesEnvelope = false := by
        rw [← Bool.not_eq_true, complete_carriesEnvelope_iff env]
        exact fun hcompletable => hfinishes (.inl ⟨input, hrequest, hcompletable⟩)
      have hsame : (complete s input now).1 = s :=
        (complete_fst_or_carriesEnvelope env s input now).resolve_right (by simp [hnot])
      refine ⟨fun m hm => ?_, hnot⟩
      change (complete s input now).1.machineStatus m = some .active at hm
      rwa [hsame] at hm
    | commit machineId =>
      have hsame : (commit s machineId now).1 = s :=
        commit_fst_of_not_pending
          (fun hpending => hfinishes (.inr ⟨machineId, hrequest, hpending⟩)) now
      refine ⟨fun m hm => ?_, carriesEnvelope_eq_false env hs _ (by simp)⟩
      change (commit s machineId now).1.machineStatus m = some .active at hm
      rwa [hsame] at hm
    | _ =>
      exact ⟨quiet_step env s _ (by simp) (by simp), carriesEnvelope_eq_false env hs _ (by simp)⟩

/-- A run of a LicenseDO keeps the rule exactly when none of its calls finishes an activation
while the license is inactive. -/
theorem quietWhileInactive_iff (env : Env) (s : State) (calls : List Call) :
    QuietWhileInactive env s calls ↔
      ∀ pre c post, calls = pre ++ c :: post → (exec (step env) s pre).Inactive →
        ¬ Finishes (exec (step env) s pre) c := by
  constructor
  · intro h pre c post hsplit hinactive
    exact (quiet_and_no_envelope_iff env hinactive c).1 (h pre c post hsplit hinactive)
  · intro h pre c post hsplit found hinactive
    exact (quiet_and_no_envelope_iff env hinactive c).2 (h pre c post hsplit hinactive)

/-! ### A credential for a revoked license -/

/-- The object of license 1, with the hash that sends every request to 0. -/
def sampleEnv : Env where
  owner := 1
  operationHash _ := 0
  primitives := Suite.Primitives.permissive _

def sampleInit : InitRequest where
  licenseId := 1
  productId := "app"
  suiteId := 1
  seats := 1
  heartbeatSec := none
  expiresAt := none
  nonceTtlSec := none

def sampleReserve : ReserveRequest where
  idempotencyKey := "k"
  requestHash := none
  machineId := 7
  fingerprint := [1]
  attrs := none
  deviceKemEk := [1]
  deviceSigVk := [1]
  activationPath := .online
  releaseId := "r1"
  variantId := 0
  refreshAfter := 100
  notAfter := 0
  buildFp := none
  appVersion := none
  os := none
  arch := none
  sdkVersion := none
  geo := none
  credentialState := some [1]
  authoritativeSecurityFloor := 0

/-- The credential that the worker signs for `sampleReserve`. -/
def reservedCredential : MachineCredential :=
  { sampleCredential 0 with
    suiteId := 1, machineId := 7, fingerprint := [1], issuedAt := 10, refreshAfter := 100,
    graceSeconds := 0, epochId := 1, buildFingerprint := none, variantId := 0 }

def sampleComplete : CompleteRequest where
  idempotencyKey := "k"
  requestHash := 0
  machineId := 7
  activationEnvelope :=
    { size := 1
      decoded := .ok
        { protoVer := 1
          suiteId := 1
          kind := .machineCred
          tbs := .machineCred reservedCredential
          sig := []
          epochRef := some 1 } }

/-- The license is revoked between the reservation and the completion. -/
def revokedMidway : List Call :=
  [ ⟨0, .init sampleInit⟩,
    ⟨10, .reserve sampleReserve⟩,
    ⟨11, .revoke { licenseId := 1, subject := .license, revocationEpoch := 1 }⟩ ]

/-- The completion that follows hands out the credential of the revoked license. -/
theorem revoked_license_completes_activation :
    ¬ QuietWhileInactive sampleEnv State.new
      (revokedMidway ++ [⟨12, .complete sampleComplete⟩]) := by
  intro h
  have hinactive : (exec (step sampleEnv) State.new revokedMidway).Inactive :=
    ⟨.revoked, by decide, by decide⟩
  obtain ⟨-, hanswer⟩ := h revokedMidway _ [] rfl hinactive
  exact absurd hanswer (by decide)

end CopyLocker.Worker.LicenseDO
