import CopyLocker.Worker.LicenseDevice
import Mathlib.Logic.Relation

/-!
# What a request may write

`Outcome` lists what a request of a LicenseDO can do to its store and how it is answered; the
requests are taken apart once, for this list. On the tables, every outcome is a sequence of
elementary writes. `Write` lists these, each with the request that makes it and the facts that hold
when it is made, and `step_writes` says that the list is complete. A property of the tables that the
writes keep is then kept by every request.

## Main results

* `handle_outcome`: every request has one of the outcomes.
* `step_writes`: a call of an initialised object makes only the listed writes.
* `step_of_none`: an object that is not initialised stays so, except through `init`.
* `step_keeps`: what the writes keep and a new object has, every call keeps.
-/

namespace CopyLocker.Worker.LicenseDO

open Foundation Server Proto Relation Option

/-! ### Outcomes -/

/-- Whether an answer hands out an activation envelope. -/
def Response.carriesEnvelope : Response → Bool
  | .completed _ => true
  | .reserved _ r => r.activationEnvelope.isSome
  | _ => false

/-- The store after `init` has written the tables. -/
def State.settle (s : State) (l : License) : State :=
  match s.pendingAdmin with
  | none => s.setLicense l
  | some pending => { s.setLicense (l.applyPending pending) with pendingAdmin := none }

/-- A completion finds the reservation that it is for. -/
structure CompleteRequest.Finds (input : CompleteRequest) (s : State) (row : IdemRow)
    (r : ReserveResponse) : Prop where
  sized : ¬ (input.idempotencyKey.isEmpty ∨ 128 < input.idempotencyKey.utf8ByteSize ∨
    input.activationEnvelope.size = 0 ∨ maxInternalBody < input.activationEnvelope.size)
  found : s.idem.find { operation := .reserve, key := input.idempotencyKey } = some row
  hash : row.requestHash = input.requestHash
  reservation : row.reservation = some r
  machine : r.machineId = input.machineId

/-- What a request does to the store, and how it is answered. -/
inductive Outcome (env : Env) (s : State) (now : ℤ) : Request → State × Response → Prop
  | same {request : Request} {r : Response} (hr : r.carriesEnvelope = false) :
      Outcome env s now request (s, r)
  | noted {request : Request} {row : IdemRow} {r : Response}
      (hrequest : ∀ input, request ≠ .complete input) (hrow : row.reservation = none)
      (hr : r.carriesEnvelope = false) : Outcome env s now request (s.storeOperation row, r)
  | created {input : InitRequest} (hl : s.license = none) :
      Outcome env s now (.init input) (s.settle (.new input), .ok)
  | configured {input : InitRequest} {l : License} (hl : s.license = some l) :
      Outcome env s now (.init input) (s.settle (l.configure input), .ok)
  | announced {input : AdminUpdateRequest} {row : IdemRow} (hl : s.license = none)
      (hrow : row.reservation = none) :
      Outcome env s now (.adminUpdate input) ({ s with
            pendingAdmin := some input.pending
            adminVersion := input.version }.storeOperation row, .adminUpdated false)
  | administered {input : AdminUpdateRequest} {l : License} {row : IdemRow}
      (hl : s.license = some l) (hstatus : l.status ≠ .revoked) (hrow : row.reservation = none) :
      Outcome env s now (.adminUpdate input)
        ({ s.setLicense ((l.applyPending input.pending).appendProjection none now) with
            adminVersion := input.version }.storeOperation row, .adminUpdated true)
  | forgotten {input : AdminForgetRequest} {l : License} {row : IdemRow} {found : Bool}
      (hl : s.license = some l) (hrow : row.reservation = none) :
      Outcome env s now (.adminForget input)
        ((s.setLicense (l.forget input.machineId)).storeOperation row, .forgotten found)
  | floored {input : ReserveRequest} {l : License} {r : Response} (hl : s.license = some l)
      (hstatus : l.status = .active) :
      Outcome env s now (.reserve input)
        (s.setLicense (l.raiseFloor input.authoritativeSecurityFloor), r)
  | fresh {input : ReserveRequest} {l : License} {base : State} {variantId : ℤ} {hash : Digest}
      (hl : s.license = some l) (hstatus : l.status = .active) (hexpiry : l.expired now = false)
      (hbase : base.license = some (l.raiseFloor input.authoritativeSecurityFloor))
      (hidem : base.idem = s.idem ∨ ∃ p, base.idem = s.idem.deleteWhere p) :
      Outcome env s now (.reserve input)
        (reserveFresh base (l.raiseFloor input.authoritativeSecurityFloor) input variantId hash now)
  | replayed {input : CompleteRequest} {row : IdemRow} {r : ReserveResponse}
      {envelope : Wire Envelope} (hfinds : input.Finds s row r)
      (henvelope : r.activationEnvelope = some envelope) :
      Outcome env s now (.complete input) (s, .completed envelope)
  | completed {input : CompleteRequest} {row : IdemRow} {r : ReserveResponse}
      {material : ReserveMaterial} {credentialState : Bytes} {l : License} {a : Activation}
      (hfinds : input.Finds s row r) (hmaterial : r.material = some material)
      (hcredential : r.credentialState = some credentialState) (hl : s.license = some l)
      (hmatches : completionMatches l input.activationEnvelope r material = true)
      (ha : l.activations.find input.machineId = some a) (hseat : a.status.occupiesSeat = true) :
      Outcome env s now (.complete input)
        ((s.setLicense ((l.activate input.machineId r.fingerprint material credentialState
            now).appendProjection (some input.machineId) now)).storeOperation
          { row with
            reservation := some { r with
              status := .active
              activationEnvelope := some input.activationEnvelope } },
          .completed input.activationEnvelope)
  | committed {machineId : MachineId} {l : License} (hl : s.license = some l) :
      Outcome env s now (.commit machineId)
        (s.setLicense ((l.commitPending machineId now).appendProjection (some machineId) now), .ok)
  | declined {input : AuthenticatedRequest} {l l' : License} {a : Activation} {r : Response}
      (hauth : authenticateDevice env s input .deactivateRequest = some (l, a))
      (hnonce : l.recordNonce input.nonce now = some l') (hr : r.carriesEnvelope = false) :
      Outcome env s now (.deactivate input) (s.setLicense l', r)
  | deactivated {input : AuthenticatedRequest} {l l' l'' : License} {a : Activation}
      {row : IdemRow} (hauth : authenticateDevice env s input .deactivateRequest = some (l, a))
      (hnonce : l.recordNonce input.nonce now = some l')
      (hl'' : l'' = l' ∨ l'' = (l'.releaseRows (isSeatOf input.machineId) now).appendProjection
        (some input.machineId) now) (hrow : row.reservation = none) :
      Outcome env s now (.deactivate input) ((s.setLicense l'').storeOperation row, .ok)
  | beaten {input : AuthenticatedRequest} {l l' : License} {a : Activation} {nextAfter : ℤ}
      (hauth : authenticateDevice env s input .heartbeatRequest = some (l, a))
      (hnonce : l.recordNonce input.nonce now = some l') :
      Outcome env s now (.heartbeat input)
        (s.setLicense ((l'.recordBeat input.machineId now).appendProjection
          (some input.machineId) now), .heartbeat nextAfter)
  | revoked {input : RevokeRequest} {l l' : License} {changed : Bool} {epoch : ℕ}
      (hl : s.license = some l)
      (hl' : l' = l.raiseEpoch input.revocationEpoch ∨ (input.subject = .license ∧
          l' = (l.raiseEpoch input.revocationEpoch).revoke.appendProjection none now) ∨
        ∃ m, input.subject = .machine m ∧ l' = ((l.raiseEpoch input.revocationEpoch).revokeMachine
          m now).appendProjection (some m) now) :
      Outcome env s now (.revoke input) (s.setLicense l', .revoked changed epoch)
  | checked {input : ValidateRequest} {l l' : License} {a : Activation} {r : Response}
      (hauth : authenticateDevice env s input.auth .validateRequest = some (l, a))
      (hl' : l' = (l.raiseEpoch input.authoritativeRevocationEpoch).raiseFloor
          input.authoritativeSecurityFloor ∨
        ((l.raiseEpoch input.authoritativeRevocationEpoch).raiseFloor
          input.authoritativeSecurityFloor).recordNonce input.auth.nonce now = some l')
      (hr : r.carriesEnvelope = false) : Outcome env s now (.validate input) (s.setLicense l', r)
  | validated {input : ValidateRequest} {l l' : License} {a : Activation} {score : ℕ}
      {outcome : ValidateState}
      (hauth : authenticateDevice env s input.auth .validateRequest = some (l, a))
      (hnonce : ((l.raiseEpoch input.authoritativeRevocationEpoch).raiseFloor
        input.authoritativeSecurityFloor).recordNonce input.auth.nonce now = some l') :
      Outcome env s now (.validate input)
        (s.setLicense ((((l'.recordValidation input now).countValidation now).setSuspicion
          input.auth.machineId score).appendProjection (some input.auth.machineId) now),
          .validated outcome)
  | reclaimed {sends : ℕ} {r : Response} (hr : r.carriesEnvelope = false) :
      Outcome env s now (.alarm sends) ((reclaim s now).1, r)
  | flushed {sends : ℕ} {l : License} {r : Response} (hl : (reclaim s now).1.license = some l)
      (hr : r.carriesEnvelope = false) :
      Outcome env s now (.alarm sends) ((reclaim s now).1.setLicense
          { l with outbox := (flushOutbox outboxBatchSize sends now l.outbox).outbox }, r)

section Outcome

variable (env : Env) (s : State) (now : ℤ)

theorem init_outcome (input : InitRequest) :
    Outcome env s now (.init input) (init env s input) := by
  unfold init
  split
  · exact .same rfl
  split
  · exact .same rfl
  split
  · exact .same rfl
  cases hl : s.license with
  | none =>
    have h : Outcome env s now (.init input) (s.settle (.new input), .ok) := .created hl
    unfold State.settle at h
    cases hpending : s.pendingAdmin <;> simpa only [hpending] using h
  | some l =>
    have h : Outcome env s now (.init input) (s.settle (l.configure input), .ok) := .configured hl
    unfold State.settle at h
    cases hpending : s.pendingAdmin <;> simpa only [hpending] using h

theorem adminUpdate_outcome (input : AdminUpdateRequest) :
    Outcome env s now (.adminUpdate input) (adminUpdate env s input now) := by
  fun_cases adminUpdate env s input now with
  | case5 => exact .noted (by simp) rfl rfl
  | case6 _ _ _ _ _ hl => exact .announced hl rfl
  | case9 _ _ _ _ _ l hl _ hstatus => exact .administered hl hstatus rfl
  | _ => exact .same rfl

theorem adminForget_outcome (input : AdminForgetRequest) :
    Outcome env s now (.adminForget input) (adminForget env s input now) := by
  fun_cases adminForget env s input now with
  | case5 | case7 => exact .noted (by simp) rfl rfl
  | case6 _ _ _ _ l hl => exact .forgotten hl rfl
  | _ => exact .same rfl

theorem reserve_outcome (input : ReserveRequest) :
    Outcome env s now (.reserve input) (reserve env s input now) := by
  unfold reserve
  split
  · exact .same rfl
  split
  · exact .same rfl
  next l hl =>
  split
  · exact .same rfl
  next hopen =>
  obtain ⟨hstatus, hexpiry⟩ := not_or.1 hopen
  have hstatus := not_not.1 hstatus
  have hexpiry : l.expired now = false := by simpa using hexpiry
  split
  · exact .same rfl
  dsimp only
  split
  · exact .floored hl hstatus
  · exact .fresh hl hstatus hexpiry rfl (.inl rfl)
  split
  · exact .floored hl hstatus
  split
  · exact .floored hl hstatus
  · exact .fresh hl hstatus hexpiry rfl (.inr ⟨_, rfl⟩)

theorem complete_outcome (input : CompleteRequest) :
    Outcome env s now (.complete input) (complete s input now) := by
  fun_cases complete s input now with
  | case6 key hsized row hload r hr hmachine envelope henvelope =>
    obtain ⟨hfound, hhash⟩ := loadOperation_eq_completed hload
    exact .replayed ⟨hsized, hfound, hhash, hr, not_not.1 hmachine⟩ henvelope
  | case11 key hsized row hload r hr hmachine _ material credentialState hcredential hmaterial l hl
      hmatches status hstatus hseat =>
    obtain ⟨hfound, hhash⟩ := loadOperation_eq_completed hload
    obtain ⟨a, ha, rfl⟩ := map_eq_some_iff.1 hstatus
    exact .completed ⟨hsized, hfound, hhash, hr, not_not.1 hmachine⟩ hmaterial hcredential hl
      (not_not.1 hmatches) ha (not_not.1 hseat)
  | _ => exact .same rfl

theorem commit_outcome (machineId : MachineId) :
    Outcome env s now (.commit machineId) (commit s machineId now) := by
  fun_cases commit s machineId now with
  | case3 l hl => exact .committed hl
  | _ => exact .same rfl

theorem deactivate_outcome (input : AuthenticatedRequest) :
    Outcome env s now (.deactivate input) (deactivate env s input now) := by
  fun_cases deactivate env s input now with
  | case6 _ _ _ l a hauth l' hnonce => exact .declined hauth hnonce rfl
  | case7 _ _ _ l a hauth l' hnonce => exact .deactivated hauth hnonce (.inl rfl) rfl
  | case8 _ _ _ l a hauth l' hnonce => exact .deactivated hauth hnonce (.inr rfl) rfl
  | _ => exact .same rfl

theorem heartbeat_outcome (input : AuthenticatedRequest) :
    Outcome env s now (.heartbeat input) (heartbeat env s input now) := by
  fun_cases heartbeat env s input now with
  | case5 l a hauth _ _ _ l' hnonce => exact .beaten hauth hnonce
  | _ => exact .same rfl

theorem revoke_outcome (input : RevokeRequest) :
    Outcome env s now (.revoke input) (revoke env s input now) := by
  unfold revoke
  split
  · exact .same rfl
  split
  · exact .same rfl
  split
  · exact .same rfl
  next l hl =>
  split
  · exact .same rfl
  dsimp only
  split
  · exact .same rfl
  · exact .same rfl
  next plan hplan =>
  -- the plan's epoch is the greater of the two, for a license and for a machine alike
  have hepoch : plan.revocationEpoch = max l.revocationEpoch input.revocationEpoch := by
    cases hsubject : input.subject with
    | license =>
      simp only [hsubject, Revoke.planLicense] at hplan
      exact (Revoke.revocationEpoch_of_planForState hplan).1
    | machine m =>
      simp only [hsubject] at hplan
      cases hst : l.activationStatus m with
      | none => simp [hst, Revoke.planMachine] at hplan
      | some st =>
        simp only [hst, Revoke.planMachine] at hplan
        exact (Revoke.revocationEpoch_of_planForState hplan).1
  rw [hepoch]
  split_ifs
  · split
    next hsubject => exact .revoked hl (.inr (.inl ⟨hsubject, rfl⟩))
    next m hsubject => exact .revoked hl (.inr (.inr ⟨m, hsubject, rfl⟩))
  · exact .revoked hl (.inl rfl)

theorem validate_outcome (input : ValidateRequest) :
    Outcome env s now (.validate input) (validate env s input now) := by
  fun_cases validate env s input now with
  | case8 _ _ _ _ _ l a hauth => exact .checked hauth (.inl rfl) rfl
  | case9 _ _ _ _ _ l a hauth _ _ _ _ l' hnonce => exact .checked hauth (.inr hnonce) rfl
  | case10 _ _ _ _ _ l a hauth _ _ _ _ l' hnonce => exact .checked hauth (.inr hnonce) rfl
  | case11 _ _ _ _ _ l a hauth _ _ _ _ l' hnonce => exact .validated hauth hnonce
  | _ => exact .same rfl

theorem alarm_outcome (sends : ℕ) : Outcome env s now (.alarm sends) (alarm s sends now) := by
  unfold alarm
  split
  next s' hreclaim =>
    obtain rfl : (reclaim s now).1 = s' := congrArg Prod.fst hreclaim
    exact .reclaimed rfl
  next s' hreclaim =>
    obtain rfl : (reclaim s now).1 = s' := congrArg Prod.fst hreclaim
    split
    · exact .reclaimed rfl
    next l hl =>
      refine .flushed hl ?_
      split <;> rfl

/-- Every request has one of the outcomes. -/
theorem handle_outcome (request : Request) :
    Outcome env s now request (handle env s now request) := by
  cases request with
  | init input => exact init_outcome env s now input
  | adminUpdate input => exact adminUpdate_outcome env s now input
  | adminForget input => exact adminForget_outcome env s now input
  | reserve input => exact reserve_outcome env s now input
  | complete input => exact complete_outcome env s now input
  | commit machineId => exact commit_outcome env s now machineId
  | deactivate input => exact deactivate_outcome env s now input
  | heartbeat input => exact heartbeat_outcome env s now input
  | revoke input => exact revoke_outcome env s now input
  | validate input => exact validate_outcome env s now input
  | alarm sends => exact alarm_outcome env s now sends

end Outcome

/-! ### Writes -/

/-- The revocation epoch that a request carries to the object. -/
def Request.toldEpoch : Request → ℕ
  | .revoke input => input.revocationEpoch
  | .validate input => input.authoritativeRevocationEpoch
  | _ => 0

/-- One elementary write of a call. -/
inductive Write (c : Call) : License → License → Prop
  | configure {l : License} {input : InitRequest} (h : c.request = .init input) :
      Write c l (l.configure input)
  | applyPending {l : License} {input : InitRequest} {pending : PendingAdmin}
      (h : c.request = .init input) : Write c l (l.applyPending pending)
  | administer {l : License} {input : AdminUpdateRequest} (h : c.request = .adminUpdate input)
      (hstatus : l.status ≠ .revoked) : Write c l (l.applyPending input.pending)
  | forget {l : License} {input : AdminForgetRequest} (h : c.request = .adminForget input) :
      Write c l (l.forget input.machineId)
  | raiseFloor {l : License} (floor : ℕ) : Write c l (l.raiseFloor floor)
  | raiseEpoch {l : License} : Write c l (l.raiseEpoch c.request.toldEpoch)
  | recordNonce {l l' : License} {nonce : ByteId 32} (h : l.recordNonce nonce c.now = some l') :
      Write c l l'
  | insertPending {l : License} {input : ReserveRequest} {variantId : ℤ}
      {activations : Table Activation.machineId} (h : c.request = .reserve input)
      (hstatus : l.status = .active) (hexpiry : l.expired c.now = false)
      (hseat : l.occupied < l.seats)
      (hinsert : l.activations.insert (pendingRow input variantId c.now) = some activations) :
      Write c l { l with activations }
  | setSuspicion {l : License} (machineId : MachineId) (suspicion : ℕ) :
      Write c l (l.setSuspicion machineId suspicion)
  | activate {l : License} {input : CompleteRequest} {fingerprint : Bytes}
      {material : ReserveMaterial} {credentialState : Bytes} (h : c.request = .complete input) :
      Write c l (l.activate input.machineId fingerprint material credentialState c.now)
  | commitPending {l : License} {machineId : MachineId} (h : c.request = .commit machineId) :
      Write c l (l.commitPending machineId c.now)
  | deactivate {l : License} {input : AuthenticatedRequest} (h : c.request = .deactivate input) :
      Write c l (l.releaseRows (isSeatOf input.machineId) c.now)
  | recordBeat {l : License} {input : AuthenticatedRequest} (h : c.request = .heartbeat input) :
      Write c l (l.recordBeat input.machineId c.now)
  | revokeLicense {l : License} {input : RevokeRequest} (h : c.request = .revoke input) :
      Write c l l.revoke
  | revokeMachine {l : License} {input : RevokeRequest} {machineId : MachineId}
      (h : c.request = .revoke input) : Write c l (l.revokeMachine machineId c.now)
  | recordValidation {l : License} {input : ValidateRequest} (h : c.request = .validate input) :
      Write c l (l.recordValidation input c.now)
  | countValidation {l : License} {input : ValidateRequest} (h : c.request = .validate input) :
      Write c l (l.countValidation c.now)
  | reclaimPending {l : License} {sends : ℕ} (h : c.request = .alarm sends) :
      Write c l (l.releaseRows (isStalePending c.now) c.now)
  | reclaimZombies {l : License} {sends : ℕ} {interval cutoff : ℤ} (h : c.request = .alarm sends)
      (hinterval : l.heartbeatSec = some interval)
      (hcutoff : Heartbeat.zombieCutoff interval c.now = some cutoff) :
      Write c l (l.releaseRows (isZombie cutoff) c.now)
  | expire {l : License} {sends : ℕ} (h : c.request = .alarm sends) (hstatus : l.status = .active)
      (hexpired : l.expired c.now = true) : Write c l { l with status := .expired }
  | releaseExpired {l : License} {sends : ℕ} (h : c.request = .alarm sends)
      (hstatus : l.status = .expired) (hexpired : l.expired c.now = true) :
      Write c l (l.releaseRows (·.status.occupiesSeat) c.now)
  | purge {l : License} {sends : ℕ} (h : c.request = .alarm sends) : Write c l (l.purge c.now)
  | flush {l : License} {sends limit : ℕ} (h : c.request = .alarm sends) :
      Write c l { l with outbox := (flushOutbox limit sends c.now l.outbox).outbox }
  | appendProjection {l : License} (machineId : Option MachineId) :
      Write c l (l.appendProjection machineId c.now)

/-- The tables of `s` become those of `s'` by writes of the call `c`. -/
def Writes (c : Call) (s s' : State) : Prop :=
  ∀ l, s.license = some l → ∃ l', s'.license = some l' ∧ ReflTransGen (Write c) l l'

section Rules

variable {c : Call} {s s' : State} {l l' : License}

theorem Writes.of_eq (h : s'.license = s.license) : Writes c s s' :=
  fun l hl => ⟨l, h.trans hl, .refl⟩

theorem Writes.refl : Writes c s s := Writes.of_eq rfl

theorem Writes.of_none (h : s.license = none) : Writes c s s' := by
  intro l hl
  rw [h] at hl
  cases hl

theorem Writes.of_some (hl : s.license = some l) (hl' : s'.license = some l')
    (h : ReflTransGen (Write c) l l') : Writes c s s' := by
  intro l₀ hl₀
  obtain rfl : l = l₀ := some.inj (hl.symm.trans hl₀)
  exact ⟨l', hl', h⟩

theorem Writes.trans {s'' : State} (h : Writes c s s') (h' : Writes c s' s'') : Writes c s s'' := by
  intro l hl
  obtain ⟨l₁, hl₁, hw₁⟩ := h l hl
  obtain ⟨l₂, hl₂, hw₂⟩ := h' l₁ hl₁
  exact ⟨l₂, hl₂, hw₁.trans hw₂⟩

theorem writes_appendProjections (ms : List MachineId) (l : License) :
    ReflTransGen (Write c) l (l.appendProjections ms c.now) := by
  induction ms generalizing l with
  | nil => exact .refl
  | cons m ms ih =>
    exact .head (.appendProjection (some m)) (ih (l.appendProjection (some m) c.now))

end Rules

variable {env : Env} {s : State} {l : License} {c : Call}

/-- A device that authenticates is a row of the tables. -/
theorem authenticateDevice_spec {input : AuthenticatedRequest} {kind : ArtifactKind}
    {a : Activation} (h : authenticateDevice env s input kind = some (l, a)) :
    s.license = some l ∧ l.activations.find input.machineId = some a := by
  unfold authenticateDevice at h
  split_ifs at h
  obtain ⟨l₀, hl₀, h⟩ := bind_eq_some_iff.1 h
  split_ifs at h
  obtain ⟨a₀, ha₀, h⟩ := bind_eq_some_iff.1 h
  dsimp only at h
  split_ifs at h
  obtain ⟨rfl, rfl⟩ : l₀ = l ∧ a₀ = a := by simpa using h
  exact ⟨hl₀, ha₀⟩

private theorem reserveFresh_writes (hl : s.license = some l) (input : ReserveRequest)
    (variantId : ℤ) (requestHash : Digest) (now : ℤ) (hstatus : l.status = .active)
    (hexpiry : l.expired now = false) :
    Writes ⟨now, .reserve input⟩ s (reserveFresh s l input variantId requestHash now).1 := by
  fun_cases reserveFresh s l input variantId requestHash now with
  | case2 => exact Writes.of_eq rfl
  | case5 _ _ _ hseat activations hinsert =>
    have hinsert : Write ⟨now, .reserve input⟩ l { l with activations } :=
      .insertPending rfl hstatus hexpiry (by omega) hinsert
    exact Writes.of_some hl rfl
      (((ReflTransGen.single hinsert).tail (.setSuspicion _ _)).tail (.appendProjection _))
  | _ => exact Writes.refl

private theorem releaseWhere_writes {p : Activation → Bool}
    (h : Write c l (l.releaseRows p c.now)) :
    ReflTransGen (Write c) l (l.releaseWhere p c.now) :=
  .head h (writes_appendProjections _ _)

private theorem expire_writes {sends : ℕ} (hc : c.request = .alarm sends) (l : License) :
    ReflTransGen (Write c) l (l.expire c.now) := by
  unfold License.expire
  split
  next h =>
    have hstatus : Write c l { l with status := .expired } := .expire hc h.1 h.2
    have hrows :=
      releaseWhere_writes (.releaseExpired (l := { l with status := .expired }) hc rfl h.2)
    exact (ReflTransGen.head hstatus hrows).tail (.appendProjection none)
  · exact .refl

private theorem reclaimZombies_writes {sends : ℕ} (hc : c.request = .alarm sends) {l' : License}
    (h : l.reclaimZombies c.now = some l') : ReflTransGen (Write c) l l' := by
  unfold License.reclaimZombies at h
  cases hinterval : l.heartbeatSec with
  | none =>
    obtain rfl : l = l' := by simpa [hinterval] using h
    exact .refl
  | some interval =>
    simp only [hinterval] at h
    obtain ⟨cutoff, hcutoff, rfl⟩ := map_eq_some_iff.1 h
    exact releaseWhere_writes (.reclaimZombies hc hinterval hcutoff)

theorem reclaim_writes (s : State) (sends : ℕ) (now : ℤ) :
    Writes ⟨now, .alarm sends⟩ s (reclaim s now).1 := by
  unfold reclaim
  cases hl : s.license with
  | none => exact Writes.of_none hl
  | some l =>
    have hpending : ReflTransGen (Write ⟨now, .alarm sends⟩) l
        (l.releaseWhere (isStalePending now) now) :=
      releaseWhere_writes (.reclaimPending rfl)
    dsimp only
    split
    · exact Writes.of_some hl rfl hpending
    next l₁ hzombies =>
      have hzombies := hpending.trans (reclaimZombies_writes rfl hzombies)
      have hexpire := hzombies.trans (expire_writes rfl l₁)
      exact Writes.of_some hl rfl (hexpire.tail (.purge rfl))

theorem settle_writes (s : State) (l : License) (input : InitRequest) (now : ℤ) :
    ∃ l', (s.settle l).license = some l' ∧ ReflTransGen (Write ⟨now, .init input⟩) l l' := by
  unfold State.settle
  cases s.pendingAdmin with
  | none => exact ⟨_, rfl, .refl⟩
  | some pending => exact ⟨_, rfl, .single (.applyPending rfl)⟩

variable {now : ℤ} {request : Request} {result : State × Response}

theorem Outcome.writes (h : Outcome env s now request result) :
    Writes ⟨now, request⟩ s result.1 := by
  cases h with
  | same => exact .refl
  | noted => exact .of_eq rfl
  | created hl => exact .of_none hl
  | @configured input l hl =>
    obtain ⟨l', hl', hsettled⟩ := settle_writes s (l.configure input) input now
    exact .of_some hl hl' (.head (.configure rfl) hsettled)
  | announced => exact .of_eq rfl
  | administered hl hstatus =>
    exact .of_some hl rfl (.head (.administer rfl hstatus) (.single (.appendProjection none)))
  | forgotten hl => exact .of_some hl rfl (.single (.forget rfl))
  | floored hl => exact .of_some hl rfl (.single (.raiseFloor _))
  | fresh hl hstatus hexpiry hbase =>
    refine .trans (.of_some hl hbase (.single (.raiseFloor _))) ?_
    exact reserveFresh_writes hbase _ _ _ _ hstatus hexpiry
  | replayed => exact .refl
  | completed _ _ _ hl =>
    exact .of_some hl rfl (.head (.activate rfl) (.single (.appendProjection _)))
  | committed hl =>
    exact .of_some hl rfl (.head (.commitPending rfl) (.single (.appendProjection _)))
  | declined hauth hnonce =>
    exact .of_some (authenticateDevice_spec hauth).1 rfl (.single (.recordNonce hnonce))
  | deactivated hauth hnonce hl'' =>
    refine .of_some (authenticateDevice_spec hauth).1 rfl (.head (.recordNonce hnonce) ?_)
    rcases hl'' with rfl | rfl
    · exact .refl
    · exact .head (.deactivate rfl) (.single (.appendProjection _))
  | beaten hauth hnonce =>
    exact .of_some (authenticateDevice_spec hauth).1 rfl
      (.head (.recordNonce hnonce) (.head (.recordBeat rfl) (.single (.appendProjection _))))
  | revoked hl hl' =>
    refine .of_some hl rfl (.head .raiseEpoch ?_)
    rcases hl' with rfl | ⟨-, rfl⟩ | ⟨m, -, rfl⟩
    · exact .refl
    · exact .head (.revokeLicense rfl) (.single (.appendProjection none))
    · exact .head (.revokeMachine rfl) (.single (.appendProjection (some m)))
  | @checked input l l' a r hauth hl' =>
    refine .of_some (authenticateDevice_spec hauth).1 rfl
      (.head .raiseEpoch (.head (.raiseFloor input.authoritativeSecurityFloor) ?_))
    rcases hl' with rfl | hnonce
    · exact .refl
    · exact .single (.recordNonce hnonce)
  | validated hauth hnonce =>
    refine .of_some (authenticateDevice_spec hauth).1 rfl
      (.head .raiseEpoch (.head (.raiseFloor _) (.head (.recordNonce hnonce) ?_)))
    exact .head (.recordValidation rfl) (.head (.countValidation rfl)
      (.head (.setSuspicion _ _) (.single (.appendProjection _))))
  | reclaimed => exact reclaim_writes s _ now
  | flushed hl => exact (reclaim_writes s _ now).trans (.of_some hl rfl (.single (.flush rfl)))

theorem Outcome.of_none (h : Outcome env s now request result) (hs : s.license = none) :
    result.1.license = none ∨ ∃ input l, request = .init input ∧ result.1.license = some l ∧
      ReflTransGen (Write ⟨now, request⟩) (License.new input) l := by
  have hreclaim : (reclaim s now).1.license = none := by
    unfold reclaim
    rw [hs]
  cases h with
  | same | noted | announced | replayed => exact .inl hs
  | @created input =>
    obtain ⟨l, hl, hwrites⟩ := settle_writes s (.new input) input now
    exact .inr ⟨input, l, rfl, hl, hwrites⟩
  | configured hl | administered hl | forgotten hl | floored hl | fresh hl | completed _ _ _ hl
  | committed hl | revoked hl =>
    rw [hs] at hl
    cases hl
  | declined hauth | deactivated hauth | beaten hauth | checked hauth | validated hauth =>
    rw [(authenticateDevice_spec hauth).1] at hs
    cases hs
  | reclaimed => exact .inl hreclaim
  | flushed hl =>
    rw [hreclaim] at hl
    cases hl

/-- A call changes the tables of an initialised object by the writes listed for it. -/
theorem step_writes (env : Env) (s : State) (c : Call) : Writes c s (step env s c) :=
  (handle_outcome env s c.now c.request).writes

theorem step_of_none (env : Env) (hs : s.license = none) (c : Call) :
    (step env s c).license = none ∨
      ∃ input l, c.request = .init input ∧ (step env s c).license = some l ∧
        ReflTransGen (Write c) (License.new input) l :=
  (handle_outcome env s c.now c.request).of_none hs

/-- What a new object has and the writes of a call keep holds after the call. -/
theorem step_keeps {I : License → Prop}
    (hnew : ∀ input, c.request = .init input → I (License.new input))
    (hwrite : ∀ l l', Write c l l' → I l → I l') (hs : ∀ l, s.license = some l → I l) :
    ∀ l, (step env s c).license = some l → I l := by
  have hwrites (l₀ l : License) (h₀ : I l₀) (h : ReflTransGen (Write c) l₀ l) : I l := by
    induction h with
    | refl => exact h₀
    | tail _ hlast ih => exact hwrite _ _ hlast ih
  intro l hl
  cases hl₀ : s.license with
  | none =>
    rcases step_of_none env hl₀ c with hnone | ⟨input, l₁, hc, hl₁, hw⟩
    · rw [hnone] at hl
      cases hl
    · obtain rfl : l₁ = l := some.inj (hl₁.symm.trans hl)
      exact hwrites _ _ (hnew input hc) hw
  | some l₀ =>
    obtain ⟨l₁, hl₁, hw⟩ := step_writes env s c l₀ hl₀
    obtain rfl : l₁ = l := some.inj (hl₁.symm.trans hl)
    exact hwrites _ _ (hs l₀ hl₀) hw

end CopyLocker.Worker.LicenseDO
