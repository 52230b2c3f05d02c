import CopyLocker.Worker.ActivationSafety
import CopyLocker.Worker.RevokedLicense
import CopyLocker.Worker.System

/-!
# Renewals and the alarm

A renewal moves the expiry of a license in the database. The alarm of the LicenseDO decides from
the object's own copy, which only `init` and `admin_update` write. This file follows both copies
through a run: a renewal leaves the object's copy behind, and an alarm before that expiry does not
expire the license, and the only seats it gives back are reservations that were never committed and
machines whose heartbeat stopped.

## Main results

* `expiresAt_of_renews`: the expiry in the database after a renewal.
* `step_expiresAt`: only `init` and `admin_update` write the object's expiry.
* `alarm_keeps`: what an alarm before the object's expiry does.
* `alarm_after_renewal`: what the alarms after a renewal do.
-/

namespace CopyLocker.Worker

open Foundation Run Server LicenseDO License Option

/-! ### The expiry that a renewal writes -/

/-- The event is a renewal that commits on the license; `expiry` is the end of the period that the
subscription is then in, with the dunning grace. -/
structure Renews (db : Database) (e : BillingEvent) (id : LicenseId) (expiry : ℤ) : Prop where
  renewed : ∃ periodStart periodEnd, e.kind = .renewed periodStart periodEnd
  commits : Commits db e id
  expiry : ∃ row license terms event, db.subscriptionOf e.provider e.externalId = some row ∧
    db.licenses.find id = some license ∧ subscriptionTerms license.validity = some terms ∧
    e.kind.subscriptionEvent = some event ∧
    renewedExpiry e.kind (nextSubscription row e event terms.1 terms.2) terms.1 = some expiry

/-- The database holds the renewed expiry. -/
theorem expiresAt_of_renews {db : Database} {e : BillingEvent} {id : LicenseId} {expiry : ℤ}
    (h : Renews db e id expiry) :
    ∃ row, ((process db e).getD db).licenses.find id = some row ∧ row.expiresAt = some expiry := by
  obtain ⟨⟨periodStart, periodEnd, hkind⟩, hcommits, sub, license, terms, event, hsub, hlicense,
    hterms, hevent, hexpiry⟩ := h
  obtain ⟨hvalid, hrecorded, hcase⟩ := hcommits
  rw [hkind] at hcase
  obtain ⟨event', hevent', sub', license', terms', hsub', hid, hlicense', hterms', hsafe⟩ := hcase
  obtain rfl : sub = sub' := some.inj (hsub.symm.trans hsub')
  subst hid
  obtain rfl : license = license' := some.inj (hlicense.symm.trans hlicense')
  obtain rfl : terms = terms' := some.inj (hterms.symm.trans hterms')
  obtain rfl : event = event' := some.inj (hevent.symm.trans (hkind ▸ hevent'))
  obtain ⟨db', hcommit⟩ := exists_commitExisting hrecorded hsafe
  have hread : db.terms sub.licenseId = some terms := by
    rw [Database.terms, hlicense]
    exact hterms
  rw [process_existing hvalid hrecorded hevent hsub hread, hcommit, getD_some,
    license_commitExisting hcommit, hlicense, map_some, LicenseRow.write, licenseUpdate_expiry,
    hexpiry]
  exact ⟨_, rfl, rfl⟩

namespace LicenseDO

/-! ### The object's own expiry -/

/-- The request carries an expiry to the object. -/
def Request.TellsExpiry : Request → Prop
  | .init _ | .adminUpdate _ => True
  | _ => False

variable {l : License} {s : State} {now : ℤ}

theorem Write.expiresAt_eq {c : Call} {l' : License} (h : Write c l l')
    (htells : ¬ c.request.TellsExpiry) : l'.expiresAt = l.expiresAt := by
  cases h with
  | configure h | applyPending h | administer h _ => exact absurd (h ▸ trivial) htells
  | recordNonce h =>
    obtain ⟨nonces, -, rfl⟩ := map_eq_some_iff.1 h
    rfl
  | countValidation h =>
    obtain ⟨start, count, heq⟩ := l.countValidation_eq c.now
    rw [heq]
  | _ => rfl

/-- Only `init` and `admin_update` write the expiry of an initialised object. -/
theorem step_expiresAt (env : Env) {c : Call} (hl : s.license = some l)
    (htells : ¬ c.request.TellsExpiry) :
    ∃ l', (step env s c).license = some l' ∧ l'.expiresAt = l.expiresAt := by
  obtain ⟨l', hl', hwrites⟩ := step_writes env s c l hl
  refine ⟨l', hl', ?_⟩
  clear hl'
  induction hwrites with
  | refl => rfl
  | tail _ hw ih => exact (hw.expiresAt_eq htells).trans ih

theorem exec_expiresAt (env : Env) (s : State) (calls : List Call) (hl : s.license = some l)
    (htells : ∀ c ∈ calls, ¬ c.request.TellsExpiry) :
    ∃ l', (exec (step env) s calls).license = some l' ∧ l'.expiresAt = l.expiresAt := by
  induction calls generalizing s l with
  | nil => exact ⟨l, hl, rfl⟩
  | cons c calls ih =>
    obtain ⟨l₁, hl₁, hexpiry₁⟩ := step_expiresAt env hl (htells c List.mem_cons_self)
    obtain ⟨l₂, hl₂, hexpiry₂⟩ :=
      ih (step env s c) hl₁ fun c' hc' => htells c' (List.mem_cons_of_mem c hc')
    exact ⟨l₂, hl₂, hexpiry₂.trans hexpiry₁⟩

/-! ### The alarm of a running license -/

variable {m : MachineId} {a : Activation}

section Release

variable (l : License) (p : Activation → Bool) (now : ℤ)

theorem License.find_releaseWhere (ha : l.activations.find m = some a) (hp : p a = false) :
    (l.releaseWhere p now).activations.find m = some a := by
  rw [releaseWhere, appendProjections_activations]
  have hfind := Table.find_updateWhere l.activations p (fun a => a.release now) (fun _ => rfl) m
  rw [ha, map_some, hp, if_neg Bool.false_ne_true] at hfind
  exact hfind

end Release

/-- The rows that an alarm gives back while the license runs: a reservation that was not
committed in time, and with heartbeats a machine that has been silent for too long. -/
def License.MayRelease (l : License) (now : ℤ) (a : Activation) : Prop :=
  isStalePending now a = true ∨ ∃ interval cutoff, l.heartbeatSec = some interval ∧
    Heartbeat.zombieCutoff interval now = some cutoff ∧ isZombie cutoff a = true

/-- The reclamation before the object's expiry: the status stays, and so does every seat that it
may not give back. -/
theorem reclaim_keeps (hl : s.license = some l) (hopen : l.expired now = false) :
    ∃ l', (reclaim s now).1.license = some l' ∧ l'.status = l.status ∧
      ∀ m a, l.activations.find m = some a → a.status.occupiesSeat →
        ¬ l.MayRelease now a → l'.activations.find m = some a := by
  unfold reclaim
  rw [hl]
  dsimp only
  set l₁ := l.releaseWhere (isStalePending now) now with hl₁
  have hkept₁ : ∀ m a, l.activations.find m = some a → ¬ l.MayRelease now a →
      l₁.activations.find m = some a := fun m a ha hnot =>
    l.find_releaseWhere _ now ha (by simpa using fun hstale => hnot (.inl hstale))
  split
  · refine ⟨l₁, rfl, l.releaseWhere_status _ now, fun m a ha _ hnot => hkept₁ m a ha hnot⟩
  next l₂ hzombies =>
  -- the heartbeat rule may give back zombies and keeps the rest of the tables
  have hkept₂ : l₂.status = l.status ∧ l₂.expiresAt = l.expiresAt ∧
      ∀ m a, l.activations.find m = some a → ¬ l.MayRelease now a →
        l₂.activations.find m = some a := by
    unfold reclaimZombies at hzombies
    split at hzombies
    · cases hzombies
      exact ⟨l.releaseWhere_status _ now, l.releaseWhere_expiresAt _ now, hkept₁⟩
    next interval hinterval =>
      obtain ⟨cutoff, hcutoff, rfl⟩ := map_eq_some_iff.1 hzombies
      rw [hl₁, releaseWhere_heartbeatSec] at hinterval
      refine ⟨by simp [hl₁], by simp [hl₁], fun m a ha hnot => ?_⟩
      refine l₁.find_releaseWhere _ now (hkept₁ m a ha hnot) ?_
      simpa using fun hzombie => hnot (.inr ⟨interval, cutoff, hinterval, hcutoff, hzombie⟩)
  obtain ⟨hstatus, hexpiry, hrows⟩ := hkept₂
  have hopen₂ : l₂.expired now = false := by
    rw [expired, hexpiry]
    exact hopen
  rw [expire, if_neg (by simp [hopen₂])]
  refine ⟨_, rfl, hstatus, fun m a ha hseat hnot => ?_⟩
  have hkept : a.status ≠ .released := by
    intro hreleased
    rw [hreleased] at hseat
    cases hseat
  simp [purge, Table.find_deleteWhere, hrows m a ha hnot, beq_eq_false_iff_ne.2 hkept]

/-- The alarm before the object's expiry does what the reclamation does. -/
theorem alarm_keeps (sends : ℕ) (hl : s.license = some l) (hopen : l.expired now = false) :
    (alarm s sends now).1.status = s.status ∧
      ∀ m a, s.machine m = some a → a.status.occupiesSeat → ¬ l.MayRelease now a →
        (alarm s sends now).1.machine m = some a := by
  obtain ⟨l', hl', hstatus, hrows⟩ := reclaim_keeps hl hopen
  have hrows' : ∀ m a, s.machine m = some a → a.status.occupiesSeat →
      ¬ l.MayRelease now a → l'.activations.find m = some a := by
    intro m a ha
    rw [State.machine, hl] at ha
    exact hrows m a ha
  have hlicense : ∃ l'', (alarm s sends now).1.license = some l'' ∧ l''.status = l'.status ∧
      l''.activations = l'.activations := by
    unfold alarm
    split
    next s' hreclaim =>
      rw [hreclaim] at hl'
      exact ⟨l', hl', rfl, rfl⟩
    next s' hreclaim =>
      have hl' : s'.license = some l' := by simpa only [hreclaim] using hl'
      split
      next hnone =>
        rw [hl'] at hnone
        cases hnone
      next l₁ hl₁ =>
        obtain rfl : l₁ = l' := some.inj (hl₁.symm.trans hl')
        exact ⟨_, rfl, rfl, rfl⟩
  obtain ⟨l'', hl'', hstatus'', hrows''⟩ := hlicense
  refine ⟨by simp only [State.status, hl'', hl, map_some, hstatus'', hstatus], ?_⟩
  intro m a ha hseat hnot
  simp only [State.machine, hl'', bind_some, hrows'']
  exact hrows' m a ha hseat hnot

end LicenseDO

/-! ### Both copies along a run -/

def SystemStep.TellsExpiry : SystemStep → Prop
  | .object c => c.request.TellsExpiry
  | _ => False

private theorem not_tellsExpiry_of_mem_calls {steps : List SystemStep}
    (h : ∀ step ∈ steps, ¬ step.TellsExpiry) :
    ∀ c ∈ steps.filterMap SystemStep.call, ¬ c.request.TellsExpiry := by
  intro c hc
  obtain ⟨step, hstep, hcall⟩ := List.mem_filterMap.1 hc
  cases step with
  | object c' =>
    obtain rfl : c' = c := some.inj hcall
    exact h _ hstep
  | _ => cases hcall

/-- A renewal puts the new expiry into the database. After it, and for as long as nothing tells the
object another expiry, an alarm before the one that the object has leaves the status of the license
alone, and gives back no seat except a stale reservation or a silent machine. -/
theorem alarm_after_renewal (env : Env) (s : System) (e : BillingEvent) (expiry : ℤ)
    (mid : List SystemStep) (sends : ℕ) (now : ℤ) (hobject : s.object.license ≠ none)
    (hrenews : Renews s.database e env.owner expiry)
    (hmid : ∀ step ∈ mid, ¬ step.TellsExpiry)
    (hown : ∀ own, s.object.license.bind (·.expiresAt) = some own → now < own) :
    let renewed := systemStep env s (.billing e)
    let found := exec (systemStep env) renewed mid
    let after := systemStep env found (.object ⟨now, .alarm sends⟩)
    (renewed.database.licenses.find env.owner).bind (·.expiresAt) = some expiry ∧
      after.object.status = found.object.status ∧
      ∀ l m a, found.object.license = some l → found.object.machine m = some a →
        a.status.occupiesSeat → ¬ l.MayRelease now a → after.object.machine m = some a := by
  intro renewed found after
  obtain ⟨l₀, hl₀⟩ := ne_none_iff_exists'.1 hobject
  obtain ⟨row, hrow, hdue⟩ := expiresAt_of_renews hrenews
  -- the object's copy is the one it had at the renewal
  obtain ⟨l, hl, hexpiry⟩ : ∃ l, found.object.license = some l ∧ l.expiresAt = l₀.expiresAt := by
    have hfound : found.object = exec (step env) s.object (mid.filterMap SystemStep.call) :=
      exec_object env s (.billing e :: mid)
    rw [hfound]
    exact exec_expiresAt env s.object _ hl₀ (not_tellsExpiry_of_mem_calls hmid)
  have hopen : l.expired now = false := by
    rw [expired, hexpiry, any_eq_false]
    intro own hkept
    simpa using hown own (by rw [hl₀, bind_some, hkept])
  obtain ⟨hstatus, hrows⟩ := alarm_keeps sends hl hopen
  have hrow' : renewed.database.licenses.find env.owner = some row := hrow
  refine ⟨by rw [hrow', bind_some, hdue], hstatus, ?_⟩
  intro l' m a hl' ha hseat hnot
  obtain rfl : l = l' := some.inj (hl.symm.trans hl')
  exact hrows m a ha hseat hnot

/-! ### Three alarms before the renewed expiry -/

/-- A license with a running subscription, whose object is set up by `input`, and whose machine
reserves a seat at `reservedAt`. -/
def subscribed (input : InitRequest) (reservedAt : ℤ) : System :=
  exec (systemStep sampleEnv) { database := sampleDatabase, object := State.new, queue := [] }
    [ .billing (sampleEvent "evt_1" 20 (.started 1 20 2592020 "month")),
      .object ⟨30, .init input⟩,
      .object ⟨reservedAt, .reserve sampleReserve⟩ ]

/-- The object is told of the expiry of the first period. -/
def datedInit : InitRequest := { sampleInit with expiresAt := some 2678420 }

/-- The renewal: the license now runs until 5270420. -/
def sampleRenewal : BillingEvent := sampleEvent "evt_2" 2592020 (.renewed 2592020 5184020)

/-- The machine commits its seat, the renewal is processed, and the alarm runs. -/
def renewedAndRung (input : InitRequest) (now : ℤ) : System :=
  exec (systemStep sampleEnv) (subscribed input 40) [ .object ⟨50, .commit 7⟩,
      .billing sampleRenewal, .object ⟨now, .alarm 0⟩ ]

/-- Before 5270420 the alarm expires a license whose object still has the first period's expiry,
gives back a machine that sent no heartbeat, and gives back a stale reservation. -/
theorem alarm_before_renewed_expiry :
    (((renewedAndRung datedInit 2678420).database.licenses.find 1).bind (·.expiresAt) =
        some 5270420 ∧
      (renewedAndRung datedInit 2678420).object.status = some .expired ∧
      (renewedAndRung datedInit 2678420).object.machineStatus 7 = some .released) ∧
    (renewedAndRung { sampleInit with heartbeatSec := some 3600 } 2592100).object.machineStatus 7 =
      some .released ∧
    (exec (systemStep sampleEnv) (subscribed sampleInit 2592000)
      [.billing sampleRenewal, .object ⟨2592100, .alarm 0⟩]).object.machineStatus
        7 = some .released := by
  decide

/-- The object keeps the expiry of the first period, and the license is active until then. -/
theorem alarm_after_renewal_monthly :
    (renewedAndRung datedInit 2600000).object.status = some .active := by
  have hrenews : Renews (exec (systemStep sampleEnv) (subscribed datedInit 40)
      [.object ⟨50, .commit 7⟩]).database sampleRenewal 1 5270420 := by
    refine ⟨⟨_, _, rfl⟩, ⟨by decide, by decide, .renewed 2592020 5184020, rfl, ?_⟩, ?_⟩
    · exact ⟨_, _, (86400, none), rfl, rfl, rfl, rfl, by decide⟩
    · exact ⟨_, _, (86400, none), .renewed 2592020 5184020, rfl, rfl, rfl, rfl, by decide⟩
  have h := alarm_after_renewal sampleEnv _ sampleRenewal 5270420 [] 0 2600000
    (isSome_iff_ne_none.1 (by decide)) hrenews (by simp) (by decide)
  exact h.2.1.trans (by decide)

end CopyLocker.Worker
