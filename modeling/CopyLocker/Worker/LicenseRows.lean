import CopyLocker.Worker.LicenseWrites

/-!
# What a call does to a machine's row

The elementary writes of `LicenseWrites` follow one table through one request. Statements about
single machines need the same once more by the row: where the row that a call leaves comes from,
and why its status changed. Both are said here for every request at once, together with where a
stored reservation comes from.

## Main results

* `step_row`: a row after a call was found by it and changed as listed, or was added by it.
* `step_stored`, `step_reservation`: the same for the stored reservations.
-/

namespace CopyLocker.Worker.LicenseDO

open Foundation Server Relation State Table Option

/-! ### Rows that a call leaves alone -/

/-- The device and the status of a row stay. -/
structure Activation.Keeps (a a' : Activation) : Prop where
  fingerprint : a'.fingerprint = a.fingerprint
  status : a'.status = a.status

theorem Activation.Keeps.refl (a : Activation) : a.Keeps a := ⟨rfl, rfl⟩

theorem Activation.Keeps.trans {a b c : Activation} (h : a.Keeps b) (h' : b.Keeps c) : a.Keeps c :=
  ⟨h'.fingerprint.trans h.fingerprint, h'.status.trans h.status⟩

/-- Every row of the later tables is a row of the earlier ones with its device and status. -/
def License.KeepsRows (l l' : License) : Prop :=
  ∀ m a', l'.activations.find m = some a' → ∃ a, l.activations.find m = some a ∧ a.Keeps a'

variable (p : Activation → Bool)

section KeepsRows

variable {l l' : License}

theorem License.KeepsRows.of_activations_eq (h : l'.activations = l.activations) :
    l.KeepsRows l' := by
  intro m a' ha'
  rw [h] at ha'
  exact ⟨a', ha', .refl a'⟩

theorem License.KeepsRows.trans {l'' : License} (h : l.KeepsRows l') (h' : l'.KeepsRows l'') :
    l.KeepsRows l'' := by
  intro m a'' ha''
  obtain ⟨a', ha', hkeeps'⟩ := h' m a'' ha''
  obtain ⟨a, ha, hkeeps⟩ := h m a' ha'
  exact ⟨a, ha, hkeeps.trans hkeeps'⟩

theorem keepsRows_updateActivations (f : Activation → Activation)
    (hf : ∀ a, (f a).machineId = a.machineId) (hkeeps : ∀ a : Activation, a.Keeps (f a)) :
    l.KeepsRows (l.updateActivations p f hf) := by
  intro m a' ha'
  rw [License.updateActivations, find_updateWhere] at ha'
  obtain ⟨a, ha, rfl⟩ := map_eq_some_iff.1 ha'
  refine ⟨a, ha, ?_⟩
  split_ifs
  · exact hkeeps a
  · exact .refl a

theorem keepsRows_setSuspicion (machineId : MachineId) (suspicion : ℕ) :
    l.KeepsRows (l.setSuspicion machineId suspicion) :=
  keepsRows_updateActivations _ (fun a => { a with suspicion }) (fun _ => rfl) fun _ => ⟨rfl, rfl⟩

theorem keepsRows_deleteWhere (h : l'.activations = l.activations.deleteWhere p) :
    l.KeepsRows l' := by
  intro m a' ha'
  rw [h, find_deleteWhere] at ha'
  exact ⟨a', (filter_eq_some_iff.1 ha').1, .refl a'⟩

end KeepsRows

/-- The requests that neither add a row nor change the status of one. -/
def Request.LeavesRows : Request → Prop
  | .init _ | .adminUpdate _ | .adminForget _ | .heartbeat _ | .validate _ => True
  | _ => False

variable {c : Call} {l l' : License} {s : State} {row : IdemRow} {env : Env}
  {input : ReserveRequest} {now : ℤ}

theorem keepsRows_of_write (h : Write c l l') (hc : c.request.LeavesRows) : l.KeepsRows l' := by
  cases h with
  | configure | applyPending | administer | raiseFloor | raiseEpoch | appendProjection =>
    exact .of_activations_eq rfl
  | forget => exact keepsRows_deleteWhere _ rfl
  | recordNonce hnonce =>
    obtain ⟨nonces, -, rfl⟩ := map_eq_some_iff.1 hnonce
    exact .of_activations_eq rfl
  | setSuspicion => exact keepsRows_setSuspicion _ _
  | recordBeat | recordValidation => exact keepsRows_updateActivations _ _ _ fun _ => ⟨rfl, rfl⟩
  | countValidation =>
    obtain ⟨start, count, heq⟩ := l.countValidation_eq c.now
    exact .of_activations_eq (by rw [heq])
  | insertPending h | activate h | commitPending h | deactivate h | revokeLicense h
  | revokeMachine h | reclaimPending h | reclaimZombies h | expire h | releaseExpired h | purge h
  | flush h =>
    rw [h] at hc
    exact hc.elim

theorem keepsRows_of_writes (h : ReflTransGen (Write c) l l') (hc : c.request.LeavesRows) :
    l.KeepsRows l' := by
  induction h with
  | refl => exact .of_activations_eq rfl
  | tail _ hwrite ih => exact ih.trans (keepsRows_of_write hwrite hc)

/-! ### Seats given back -/

section Release

variable (l : License) (p : Activation → Bool) (now : ℤ)

@[simp] theorem License.appendProjections_heartbeatSec (ms : List MachineId) :
    (l.appendProjections ms now).heartbeatSec = l.heartbeatSec :=
  l.appendProjections_keep ms now fun _ _ => rfl

@[simp] theorem License.releaseWhere_status : (l.releaseWhere p now).status = l.status := by
  simp [releaseWhere, appendProjections_status, releaseRows, updateActivations]

@[simp] theorem License.releaseWhere_expiresAt :
    (l.releaseWhere p now).expiresAt = l.expiresAt := by
  simp [releaseWhere, appendProjections_expiresAt, releaseRows, updateActivations]

@[simp] theorem License.releaseWhere_heartbeatSec :
    (l.releaseWhere p now).heartbeatSec = l.heartbeatSec := by
  simp [releaseWhere, appendProjections_heartbeatSec, releaseRows, updateActivations]

end Release

/-- Every row of the later tables is a row of the earlier ones, or one whose seat was given back
for a reason. -/
def License.GivesBack (why : Activation → Prop) (now : ℤ) (l l' : License) : Prop :=
  ∀ m a', l'.activations.find m = some a' → ∃ a, l.activations.find m = some a ∧
    (a' = a ∨ a.status.occupiesSeat = true ∧ a' = a.release now ∧ why a)

section GivesBack

variable {why : Activation → Prop}

theorem License.GivesBack.of_activations_eq (h : l'.activations = l.activations) :
    l.GivesBack why now l' := by
  intro m a' ha'
  rw [h] at ha'
  exact ⟨a', ha', .inl rfl⟩

theorem License.GivesBack.trans {l'' : License} (h : l.GivesBack why now l')
    (h' : l'.GivesBack why now l'') : l.GivesBack why now l'' := by
  intro m a'' ha''
  obtain ⟨a', ha', hrow'⟩ := h' m a'' ha''
  obtain ⟨a, ha, hrow⟩ := h m a' ha'
  refine ⟨a, ha, ?_⟩
  rcases hrow with rfl | ⟨hseat, rfl, hwhy⟩
  · exact hrow'
  · -- a seat is not given back a second time
    rcases hrow' with rfl | ⟨hseat', -⟩
    · exact .inr ⟨hseat, rfl, hwhy⟩
    · cases hseat'

private theorem givesBack_releaseRows
    (hp : ∀ a ∈ l.activations.rows, p a → a.status.occupiesSeat ∧ why a) :
    l.GivesBack why now (l.releaseRows p now) := by
  intro m a' ha'
  have hfind := find_updateWhere l.activations p (fun a => a.release now) (fun _ => rfl) m
  obtain ⟨a, ha, rfl⟩ := map_eq_some_iff.1 (hfind.symm.trans ha')
  refine ⟨a, ha, ?_⟩
  split_ifs with hpa
  · obtain ⟨hseat, hwhy⟩ := hp a (find_eq_some_iff.1 ha).1 hpa
    exact .inr ⟨hseat, rfl, hwhy⟩
  · exact .inl rfl

theorem givesBack_releaseWhere
    (hp : ∀ a ∈ l.activations.rows, p a → a.status.occupiesSeat ∧ why a) :
    l.GivesBack why now (l.releaseWhere p now) :=
  (givesBack_releaseRows p hp).trans
    (.of_activations_eq (License.appendProjections_activations _ _ _))

theorem givesBack_purge : l.GivesBack why now (l.purge now) := by
  intro m a' ha'
  simp only [License.purge, find_deleteWhere] at ha'
  exact ⟨a', (filter_eq_some_iff.1 ha').1, .inl rfl⟩

end GivesBack

/-! ### What a call does to a row -/

/-- The reservation stored under a key. -/
def State.reservation (s : State) (key : IdemKey) : Option ReserveResponse :=
  (s.idem.find key).bind (·.reservation)

theorem CompleteRequest.Finds.stored {input : CompleteRequest} {r : ReserveResponse}
    (h : input.Finds s row r) :
    s.reservation { operation := .reserve, key := input.idempotencyKey } = some r := by
  rw [State.reservation, h.found, bind_some, h.reservation]

/-- The number of rows that hold a seat. -/
def State.occupied (s : State) : ℕ := (s.license.map License.occupied).getD 0

/-- The seat limit in force. -/
def State.seats (s : State) : ℕ := (s.license.map License.seats).getD 0

/-- Why a call gives the seat of a row back. -/
inductive Release (env : Env) (s : State) (c : Call) (a : Activation) : Prop
  | deactivated {input : AuthenticatedRequest} {l : License} (h : c.request = .deactivate input)
      (hauth : authenticateDevice env s input .deactivateRequest = some (l, a))
  | stale {sends : ℕ} (h : c.request = .alarm sends) (hstale : isStalePending c.now a = true)
  | silent {sends : ℕ} {l : License} {interval cutoff : ℤ} (h : c.request = .alarm sends)
      (hl : s.license = some l) (hinterval : l.heartbeatSec = some interval)
      (hcutoff : Heartbeat.zombieCutoff interval c.now = some cutoff)
      (hzombie : isZombie cutoff a = true)
  | expired {sends : ℕ} {l : License} (h : c.request = .alarm sends) (hl : s.license = some l)
      (hstatus : l.status = .active) (hexpired : l.expired c.now = true)

/-- What a call may do to a row. -/
inductive RowStep (env : Env) (s : State) (c : Call) (a a' : Activation) : Prop
  | kept (h : a.Keeps a')
  | committed (hpending : a.status = .pending) (hfingerprint : a'.fingerprint = a.fingerprint)
      (hstatus : a'.status = .active) (h : c.request = .commit a.machineId)
  | completed {input : CompleteRequest} {key : IdemKey} {r : ReserveResponse}
      (h : c.request = .complete input) (hr : s.reservation key = some r)
      (hmachine : r.machineId = a.machineId) (hseat : a.status.occupiesSeat = true)
      (hfingerprint : a'.fingerprint = r.fingerprint) (hstatus : a'.status = .active)
  | released (hseat : a.status.occupiesSeat = true) (hfingerprint : a'.fingerprint = a.fingerprint)
      (hstatus : a'.status = .released) (hcause : Release env s c a)
  | revoked {input : RevokeRequest} (h : c.request = .revoke input)
      (hsubject : input.subject = .machine a.machineId)
      (hfingerprint : a'.fingerprint = a.fingerprint) (hstatus : a'.status = .revoked)

/-- What holds when a call adds a row: the machine has none, no seat is held by the same device,
and a seat is free. -/
structure Inserted (s : State) (c : Call) (a' : Activation) : Prop where
  request : ∃ input, c.request = .reserve input ∧ a'.machineId = input.machineId ∧
    a'.fingerprint = input.fingerprint
  status : a'.status = .pending
  fresh : s.machine a'.machineId = none
  alone : ∀ m a, s.machine m = some a → a.status.occupiesSeat = true →
    a.fingerprint ≠ a'.fingerprint
  seat : s.occupied < s.seats

/-- Every row of a store comes from an earlier one by the given call. -/
def RowsAfter (env : Env) (s : State) (c : Call) (s' : State) : Prop :=
  ∀ m a', s'.machine m = some a' →
    (∃ a, s.machine m = some a ∧ RowStep env s c a a') ∨ Inserted s c a'

section RowsAfter

variable {s' : State}

theorem State.machine_of_license (hl : s.license = some l) (m : MachineId) :
    s.machine m = l.activations.find m := by
  rw [machine, hl, bind_some]

theorem State.key_of_machine {m : MachineId} {a : Activation} (h : s.machine m = some a) :
    a.machineId = m := by
  obtain ⟨l, -, ha⟩ := bind_eq_some_iff.1 h
  exact key_of_find ha

theorem RowsAfter.of_eq (h : s'.license = s.license) : RowsAfter env s c s' := by
  intro m a' ha'
  rw [machine, h] at ha'
  exact .inl ⟨a', ha', .kept (.refl a')⟩

theorem RowsAfter.of_keepsRows (hl : s.license = some l) (hl' : s'.license = some l')
    (h : l.KeepsRows l') : RowsAfter env s c s' := by
  intro m a' ha'
  rw [machine_of_license hl'] at ha'
  obtain ⟨a, ha, hkeeps⟩ := h m a' ha'
  rw [← machine_of_license hl] at ha
  exact .inl ⟨a, ha, .kept hkeeps⟩

theorem RowsAfter.of_givesBack (hl : s.license = some l) (hl' : s'.license = some l')
    (h : l.GivesBack (Release env s c) c.now l') : RowsAfter env s c s' := by
  intro m a' ha'
  rw [machine_of_license hl'] at ha'
  obtain ⟨a, ha, hrow⟩ := h m a' ha'
  rw [← machine_of_license hl] at ha
  refine .inl ⟨a, ha, ?_⟩
  rcases hrow with rfl | ⟨hseat, rfl, hwhy⟩
  · exact .kept (.refl _)
  · exact .released hseat rfl rfl hwhy

end RowsAfter

/-- A reservation adds the row of its machine and keeps the others. -/
theorem RowsAfter.of_insert {s' : State} {variantId : ℤ} {activations : Table Activation.machineId}
    (hl : s.license = some l) (hl' : s'.license = some l') (hseat : l.occupied < l.seats)
    (halone : ∀ a ∈ l.activations.rows, a.status.occupiesSeat →
      a.fingerprint ≠ input.fingerprint)
    (hinsert : l.activations.insert (pendingRow input variantId now) = some activations)
    (hkeeps : License.KeepsRows { l with activations } l') :
    RowsAfter env s ⟨now, .reserve input⟩ s' := by
  intro m a' ha'
  have hkey := key_of_machine ha'
  rw [machine_of_license hl'] at ha'
  obtain ⟨a, ha, hrow⟩ := hkeeps m a' ha'
  rw [find_insert hinsert] at ha
  split_ifs at ha with hm
  · cases ha
    have hm : m = input.machineId := hm.symm
    have hfree : l.activations.find input.machineId = none := by
      by_contra hne
      rw [insert_eq_none_iff.2 hne] at hinsert
      cases hinsert
    refine .inr ⟨⟨input, rfl, hkey.trans hm, hrow.fingerprint⟩, hrow.status, ?_, ?_, ?_⟩
    · rw [machine_of_license hl, hkey, hm, hfree]
    · intro m₀ a₀ ha₀ hseat₀
      rw [machine_of_license hl] at ha₀
      rw [hrow.fingerprint]
      exact halone a₀ (find_eq_some_iff.1 ha₀).1 hseat₀
    · rw [occupied, seats, hl]
      exact hseat
  · rw [← machine_of_license hl] at ha
    exact .inl ⟨a, ha, .kept hrow⟩

/-- An update of the rows does to each of them what the update says. -/
theorem RowsAfter.of_update {s' : State} {p : Activation → Bool} {f : Activation → Activation}
    {h : ∀ a, (f a).machineId = a.machineId} (hl : s.license = some l) (hl' : s'.license = some l')
    (hrows : l'.activations = l.activations.updateWhere p f h)
    (hstep : ∀ a, l.activations.find a.machineId = some a → p a → RowStep env s c a (f a)) :
    RowsAfter env s c s' := by
  intro m a' ha'
  rw [machine_of_license hl', hrows, find_updateWhere] at ha'
  obtain ⟨a, ha, rfl⟩ := map_eq_some_iff.1 ha'
  refine .inl ⟨a, (machine_of_license hl m).trans ha, ?_⟩
  split_ifs with hp
  · refine hstep a ?_ hp
    rw [key_of_find ha]
    exact ha
  · exact .kept (.refl a)

private theorem reserveFresh_rows {s₀ : State} {floor : ℕ} (hl₀ : s₀.license = some l)
    (hl : s.license = some (l.raiseFloor floor)) (variantId : ℤ) (requestHash : Digest) :
    RowsAfter env s₀ ⟨now, .reserve input⟩
      (reserveFresh s (l.raiseFloor floor) input variantId requestHash now).1 := by
  have hsame (s' : State) (h : s'.license = s.license) :
      RowsAfter env s₀ ⟨now, .reserve input⟩ s' :=
    .of_keepsRows hl₀ (h.trans hl) (.of_activations_eq rfl)
  fun_cases reserveFresh s (l.raiseFloor floor) input variantId requestHash now with
  | case5 _ sameDevice hfirst hseat activations hinsert =>
    have hlimit : l.occupied < l.seats := Nat.lt_of_not_le hseat
    have hkeeps (score : ℕ) : License.KeepsRows { l with activations }
        ((License.setSuspicion { l.raiseFloor floor with activations } input.machineId
          score).appendProjection (some input.machineId) now) := by
      have hfloor : License.KeepsRows { l with activations }
          { l.raiseFloor floor with activations } := .of_activations_eq rfl
      exact hfloor.trans ((keepsRows_setSuspicion _ score).trans (.of_activations_eq rfl))
    refine RowsAfter.of_insert hl₀ rfl hlimit ?_ hinsert (hkeeps _)
    intro a ha hseat' hfingerprint
    have hnot := eq_false_of_firstBy_eq_none hfirst ha
    simp only [sameDevice, hseat', Bool.and_true, beq_eq_false_iff_ne] at hnot
    exact hnot hfingerprint
  | _ => exact hsame _ rfl

private theorem reclaim_givesBack (sends : ℕ) (hl : s.license = some l) :
    ∃ l', (reclaim s now).1.license = some l' ∧
      l.GivesBack (Release env s ⟨now, .alarm sends⟩) now l' := by
  unfold reclaim
  rw [hl]
  dsimp only
  have hstale : l.GivesBack (Release env s ⟨now, .alarm sends⟩) now
      (l.releaseWhere (isStalePending now) now) := by
    refine givesBack_releaseWhere _ fun a _ ha => ⟨?_, .stale rfl ha⟩
    rw [eq_of_beq (Bool.and_eq_true_iff.1 ha).1]
    rfl
  split
  · exact ⟨_, rfl, hstale⟩
  next l₂ hzombies =>
  -- the heartbeat rule reads the interval that the call found
  have hsilent : l.GivesBack (Release env s ⟨now, .alarm sends⟩) now l₂ ∧
      l₂.status = l.status ∧ l₂.expiresAt = l.expiresAt := by
    unfold License.reclaimZombies at hzombies
    split at hzombies
    · cases hzombies
      exact ⟨hstale, l.releaseWhere_status _ now, l.releaseWhere_expiresAt _ now⟩
    next interval hinterval =>
      obtain ⟨cutoff, hcutoff, rfl⟩ := map_eq_some_iff.1 hzombies
      rw [License.releaseWhere_heartbeatSec] at hinterval
      refine ⟨hstale.trans (givesBack_releaseWhere _ fun a _ ha => ⟨?_, ?_⟩), by simp, by simp⟩
      · rw [eq_of_beq (Bool.and_eq_true_iff.1 ha).1]
        rfl
      · exact .silent rfl hl hinterval hcutoff ha
  obtain ⟨hsilent, hstatus, hexpiry⟩ := hsilent
  refine ⟨_, rfl, hsilent.trans (License.GivesBack.trans ?_ givesBack_purge)⟩
  unfold License.expire
  split
  next hexpired =>
    rw [hstatus, License.expired, hexpiry] at hexpired
    have hsame : l₂.GivesBack (Release env s ⟨now, .alarm sends⟩) now
        { l₂ with status := .expired } := .of_activations_eq rfl
    refine hsame.trans ?_
    exact (givesBack_releaseWhere _ fun a _ ha => ⟨ha, .expired rfl hl hexpired.1 hexpired.2⟩).trans
      (.of_activations_eq rfl)
  · exact .of_activations_eq rfl

variable {request : Request} {result : State × Response}

/-- A row after a request was found by it and changed as `RowStep` lists, or was added by it. -/
theorem Outcome.rows
    (h : Outcome env s now request result) : RowsAfter env s ⟨now, request⟩ result.1 := by
  cases hlicense : s.license with
  | none =>
    intro m a' ha'
    rcases h.of_none hlicense with hnone | ⟨input, l', rfl, hl', hwrites⟩
    · rw [machine, hnone] at ha'
      cases ha'
    · rw [machine_of_license hl'] at ha'
      obtain ⟨a, ha, -⟩ := keepsRows_of_writes hwrites trivial m a' ha'
      cases ha
  | some l₀ =>
  have hleaves (hrequest : request.LeavesRows) : RowsAfter env s ⟨now, request⟩ result.1 := by
    obtain ⟨l', hl', hwrites⟩ := h.writes l₀ hlicense
    exact .of_keepsRows hlicense hl' (keepsRows_of_writes hwrites hrequest)
  cases h with
  | same => exact .of_eq rfl
  | noted => exact .of_eq rfl
  | created | configured | announced | administered | forgotten | beaten | checked | validated =>
    exact hleaves trivial
  | floored hl => exact .of_keepsRows hl rfl (.of_activations_eq rfl)
  | fresh hl _ _ hbase => exact reserveFresh_rows hl hbase _ _
  | replayed => exact .of_eq rfl
  | completed hfinds _ _ hl =>
    refine .of_update (h := by intro; rfl) hl rfl rfl fun a _ hrow => ?_
    obtain ⟨hid, hseat⟩ := Bool.and_eq_true_iff.1 hrow
    exact .completed rfl hfinds.stored (hfinds.machine.trans (eq_of_beq hid).symm) hseat rfl rfl
  | committed hl =>
    refine .of_update (h := by intro; rfl) hl rfl rfl fun a _ hrow => ?_
    obtain ⟨hid, hpending⟩ := Bool.and_eq_true_iff.1 hrow
    exact .committed (eq_of_beq hpending) rfl rfl (by rw [eq_of_beq hid])
  | declined hauth hnonce =>
    obtain ⟨nonces, -, rfl⟩ := map_eq_some_iff.1 hnonce
    exact .of_keepsRows (authenticateDevice_spec hauth).1 rfl (.of_activations_eq rfl)
  | @deactivated input l l' l'' a row hauth hnonce hl'' =>
    obtain ⟨nonces, -, rfl⟩ := map_eq_some_iff.1 hnonce
    obtain ⟨hl, ha⟩ := authenticateDevice_spec hauth
    rcases hl'' with rfl | rfl
    · exact .of_keepsRows hl rfl (.of_activations_eq rfl)
    · refine .of_update (h := by intro; rfl) hl rfl rfl fun a₀ ha₀ hrow => ?_
      obtain ⟨hid, hseat⟩ := Bool.and_eq_true_iff.1 hrow
      rw [eq_of_beq hid, ha] at ha₀
      cases ha₀
      exact .released hseat rfl rfl (.deactivated rfl hauth)
  | @revoked input l l' changed epoch hl hl' =>
    rcases hl' with rfl | ⟨-, rfl⟩ | ⟨m, hsubject, rfl⟩
    · exact .of_keepsRows hl rfl (.of_activations_eq rfl)
    · exact .of_keepsRows hl rfl (.of_activations_eq rfl)
    · refine .of_update (h := by intro; rfl) hl rfl rfl fun a _ hrow => ?_
      have hid : a.machineId = m := eq_of_beq (Bool.and_eq_true_iff.1 hrow).1
      exact .revoked rfl (by rw [hsubject, hid]) rfl rfl
  | @reclaimed sends =>
    obtain ⟨l', hl', hback⟩ := reclaim_givesBack sends hlicense
    exact .of_givesBack hlicense hl' hback
  | @flushed sends l r hl =>
    obtain ⟨l', hl', hback⟩ := reclaim_givesBack sends hlicense
    cases hl.symm.trans hl'
    exact .of_givesBack hlicense rfl (hback.trans (.of_activations_eq rfl))

/-- A row after a call was found by it and changed as `RowStep` lists, or was added by it. -/
theorem step_row (env : Env) (s : State) (c : Call) : RowsAfter env s c (step env s c) :=
  (handle_outcome env s c.now c.request).rows

/-! ### The stored reservations -/

/-- Where a stored reservation comes from: it was there for the same machine and device, or a
reservation has just been made, for a machine of its own or for one that holds a seat already. -/
inductive ReservationStep (s : State) (c : Call) (key : IdemKey) (r' : ReserveResponse) : Prop
  | kept {r : ReserveResponse} (hr : s.reservation key = some r)
      (hmachine : r'.machineId = r.machineId) (hfingerprint : r'.fingerprint = r.fingerprint)
  | made {input : ReserveRequest} (h : c.request = .reserve input)
      (hmachine : r'.machineId = input.machineId)
      (hfingerprint : r'.fingerprint = input.fingerprint)
  | reused {input : ReserveRequest} {a : Activation} (h : c.request = .reserve input)
      (ha : s.machine r'.machineId = some a) (hsame : a.fingerprint = input.fingerprint)
      (hfingerprint : r'.fingerprint = input.fingerprint)

/-- Every stored reservation comes from an earlier store by the given call. -/
def ReservationsAfter (s : State) (c : Call) (s' : State) : Prop :=
  ∀ key r', s'.reservation key = some r' → ReservationStep s c key r'

/-- Where a stored reservation comes from, as a whole: it was there, it was stored by this request
for a reservation, or this completion has put an envelope into it. -/
inductive Stored (s : State) (c : Call) (key : IdemKey) (r' : ReserveResponse) : Prop
  | carried (hr : s.reservation key = some r')
  | fresh {input : ReserveRequest} (h : c.request = .reserve input)
      (hunfinished : r'.activationEnvelope = none)
      (hfingerprint : r'.fingerprint = input.fingerprint)
      (hmachine : r'.machineId = input.machineId ∨
        ∃ a, s.machine r'.machineId = some a ∧ a.fingerprint = input.fingerprint)
  | completed {input : CompleteRequest} {r : ReserveResponse} {a : Activation}
      (h : c.request = .complete input)
      (hkey : key = { operation := .reserve, key := input.idempotencyKey })
      (hr : s.reservation key = some r) (hmachine : r.machineId = input.machineId)
      (ha : s.machine r.machineId = some a) (hseat : a.status.occupiesSeat = true)
      (hr' : r' = { r with
        status := .active, activationEnvelope := some input.activationEnvelope })

/-- Every stored reservation comes from an earlier store by the given call. -/
def StoredAfter (s : State) (c : Call) (s' : State) : Prop :=
  ∀ key r', s'.reservation key = some r' → Stored s c key r'

section StoredAfter

variable {s' : State}

theorem StoredAfter.of_idem_eq (h : s'.idem = s.idem) : StoredAfter s c s' := by
  intro key r' hr'
  rw [State.reservation, h] at hr'
  exact .carried hr'

theorem StoredAfter.of_deleteWhere {p : IdemRow → Bool} (h : s'.idem = s.idem.deleteWhere p) :
    StoredAfter s c s' := by
  intro key r' hr'
  rw [State.reservation, h, find_deleteWhere] at hr'
  obtain ⟨row, hrow, hr'⟩ := bind_eq_some_iff.1 hr'
  refine .carried ?_
  rw [State.reservation, (filter_eq_some_iff.1 hrow).1]
  exact hr'

theorem StoredAfter.store (h : StoredAfter s c s')
    (hrow : ∀ r', row.reservation = some r' → Stored s c row.key r') :
    StoredAfter s c (s'.storeOperation row) := by
  intro key r' hr'
  rw [State.reservation, State.storeOperation, find_upsert] at hr'
  split_ifs at hr' with hkey
  · rw [← hkey]
    exact hrow r' hr'
  · exact h key r' hr'

end StoredAfter

private theorem reserveFresh_stored {s₀ : State} {l₀ : License} (hl₀ : s₀.license = some l₀)
    (hrows : l.activations = l₀.activations) (h : StoredAfter s₀ ⟨now, .reserve input⟩ s)
    (variantId : ℤ) (requestHash : Digest) :
    StoredAfter s₀ ⟨now, .reserve input⟩ (reserveFresh s l input variantId requestHash now).1 := by
  fun_cases reserveFresh s l input variantId requestHash now with
  | case2 _ _ existing hfirst =>
    refine h.store fun r' hr' => ?_
    cases hr'
    obtain ⟨hmem, hdevice⟩ := mem_of_firstBy hfirst
    refine .fresh rfl rfl rfl (.inr ⟨existing, ?_, eq_of_beq (Bool.and_eq_true_iff.1 hdevice).1⟩)
    rw [machine_of_license hl₀, ← hrows]
    exact mem_rows_iff.1 hmem
  | case5 =>
    refine StoredAfter.store h fun r' hr' => ?_
    cases hr'
    exact .fresh rfl rfl rfl (.inl rfl)
  | _ => exact h

private theorem reclaim_stored (s : State) (c : Call) : StoredAfter s c (reclaim s c.now).1 := by
  unfold reclaim
  split
  · exact .of_deleteWhere rfl
  dsimp only
  split
  · exact .of_idem_eq rfl
  · exact .of_deleteWhere rfl

/-- The requests other than those of an activation store no reservation. -/
theorem Outcome.stored
    (h : Outcome env s now request result) : StoredAfter s ⟨now, request⟩ result.1 := by
  have hsettle (l : License) : (s.settle l).idem = s.idem := by
    unfold settle
    cases s.pendingAdmin <;> rfl
  cases h with
  | noted _ hrow | announced _ hrow | administered _ _ hrow | forgotten _ hrow
  | deactivated _ _ _ hrow =>
    exact .store (.of_idem_eq rfl) fun _ hr' => by cases hrow.symm.trans hr'
  | created | configured => exact .of_idem_eq (hsettle _)
  | fresh hl _ _ _ hidem =>
    refine reserveFresh_stored hl ?_ ?_ _ _
    · rfl
    rcases hidem with hidem | ⟨p, hidem⟩
    · exact .of_idem_eq hidem
    · exact .of_deleteWhere hidem
  | completed hfinds _ _ hl _ ha hseat =>
    refine StoredAfter.store (.of_idem_eq rfl) fun r' hr' => ?_
    have hkey := key_of_find hfinds.found
    refine .completed rfl hkey (by rw [hkey, hfinds.stored]) hfinds.machine ?_ hseat
      (some.inj hr').symm
    rw [machine_of_license hl, hfinds.machine]
    exact ha
  | reclaimed => exact reclaim_stored s ⟨now, _⟩
  | flushed => exact reclaim_stored s ⟨now, _⟩
  | _ => exact .of_idem_eq rfl

theorem step_stored (env : Env) (s : State) (c : Call) : StoredAfter s c (step env s c) :=
  (handle_outcome env s c.now c.request).stored

/-- The same by machine and device. -/
theorem step_reservation (env : Env) (s : State) (c : Call) :
    ReservationsAfter s c (step env s c) := by
  intro key r' hr'
  cases step_stored env s c key r' hr' with
  | carried hr => exact .kept hr rfl rfl
  | fresh h _ hfingerprint hmachine =>
    rcases hmachine with hown | ⟨a, ha, hsame⟩
    · exact .made h hown hfingerprint
    · exact .reused h ha hsame hfingerprint
  | completed h hkey hr hmachine ha hseat hr' =>
    rw [hr']
    exact .kept hr rfl rfl

end CopyLocker.Worker.LicenseDO
