import CopyLocker.Worker.Billing

/-!
# Billing events and revoked licenses

`license_update` and `process_started` write the status of a license from the state of its
subscription alone. A license that an administrator revoked, or whose refund became final, is
therefore set back to `active`, `suspended` or `expired` by the next billing event that commits on
it. This file determines the runs in which a revoked license stays revoked.

## Main results

* `process_eq_some`, `exists_process_of_commits`: an event is processed exactly as its commit says.
* `licenseStatus_ne_of_commits`, `licenseStatus_of_not_commits`: the status of a license after an
  event.
* `revoked_persists_iff`: a revoked license stays revoked exactly when no event commits on it.
-/

namespace CopyLocker.Worker

open Foundation Run Saturating Server Database Option Table

variable {db db' : Database} {e : BillingEvent} {id : LicenseId}

/-- A start event for the license: it has a subscription policy and no subscription, and the
identifier of the provider is not in use. -/
def CommitsStarted (db : Database) (e : BillingEvent) (id licenseId : LicenseId)
    (periodStart periodEnd : ℤ) : Prop :=
  licenseId = id ∧ ∃ license terms, db.licenses.find licenseId = some license ∧
    subscriptionTerms license.validity = some terms ∧
    [periodStart, periodEnd, e.eventTs, signedAdd 64 periodEnd terms.1].all isSafeInteger = true ∧
    db.subscriptionOf e.provider e.externalId = none ∧ db.subscriptions.find licenseId = none

/-- The expiry that a renewal gives the license of a running subscription. -/
def renewedExpiry (kind : BillingEventKind) (subscription : Subscription) (dunningSecs : ℤ) :
    Option ℤ :=
  if kind.isRenewed ∧ (subscription.state = .active ∨ subscription.state = .pastDue ∨
      subscription.state = .canceling) then
    some (signedAdd 64 subscription.currentPeriodEnd dunningSecs)
  else none

/-- An event for the subscription of the license, whose policy is a subscription and whose new
values can be bound. -/
def CommitsExisting (db : Database) (e : BillingEvent) (id : LicenseId)
    (event : SubscriptionEvent) : Prop :=
  ∃ row license terms, db.subscriptionOf e.provider e.externalId = some row ∧ row.licenseId = id ∧
    db.licenses.find row.licenseId = some license ∧
    subscriptionTerms license.validity = some terms ∧
    (existingIntegers (nextSubscription row e event terms.1 terms.2) (nextRefundObserveUntil row e)
      (renewedExpiry e.kind (nextSubscription row e event terms.1 terms.2) terms.1)).all
        isSafeInteger = true

/-- The event is valid, was not recorded before, and belongs to the license. -/
def Commits (db : Database) (e : BillingEvent) (id : LicenseId) : Prop :=
  e.isValid = true ∧ db.recorded e = false ∧ match e.kind with
    | .started licenseId periodStart periodEnd _ =>
      CommitsStarted db e id licenseId periodStart periodEnd
    | kind => ∃ event, kind.subscriptionEvent = some event ∧ CommitsExisting db e id event

/-! ### The status after an event -/

theorem licenseUpdate_expiry (kind : BillingEventKind) (subscription : Subscription)
    (fallback : Option PerpetualFallback) (dunningSecs : ℤ) :
    (licenseUpdate kind subscription fallback dunningSecs).2.1 =
      renewedExpiry kind subscription dunningSecs := by
  unfold licenseUpdate renewedExpiry
  cases subscription.state <;> simp

/-- Writing the status of one license. -/
private theorem licenseStatus_of_write {licenseId : LicenseId} {f : LicenseRow → LicenseRow}
    {status : LicenseStatus} (hf : ∀ r, (f r).id = r.id)
    (hdb' : db'.licenses = (db.updateLicense licenseId (fun _ => true) f hf).licenses)
    (hstatus : ∀ r, (f r).status = status) (id : LicenseId) :
    db'.licenseStatus id = if id = licenseId then (db.licenses.find id).map fun _ => status
      else db.licenseStatus id := by
  have hsame : db'.licenseStatus id =
      (db.updateLicense licenseId (fun _ => true) f hf).licenseStatus id := by
    rw [licenseStatus, licenseStatus, hdb']
  rw [hsame, licenseStatus_updateLicense]
  by_cases hid : id = licenseId
  · simp [hid, hstatus]
  · simp [hid, licenseStatus]

/-- A processed event was recorded before and changes nothing, or it is committed on one license,
whose status it sets, and never to `revoked`. -/
theorem process_eq_some (h : process db e = some db') :
    (db.recorded e ∧ db' = db) ∨
      ∃ licenseId status, Commits db e licenseId ∧ status ≠ .revoked ∧ ∀ id, db'.licenseStatus id =
          if id = licenseId then (db.licenses.find id).map fun _ => status
          else db.licenseStatus id := by
  cases process_cases h with
  | again hrecorded => exact .inl ⟨hrecorded, rfl⟩
  | started hvalid hrecorded hkind hterms hcommit =>
    obtain ⟨license, hlicense, hterms⟩ := bind_eq_some_iff.1 hterms
    obtain ⟨hsafe, hfree, subscriptions, billingEvents, hsub, -, rfl⟩ :=
      commitStarted_eq_some_iff.1 hcommit
    refine .inr ⟨_, .active, ⟨hvalid, hrecorded, ?_⟩, by simp,
      licenseStatus_of_write (by intro r; rfl) rfl (fun _ => rfl)⟩
    rw [hkind]
    exact ⟨rfl, license, _, hlicense, hterms, hsafe, hfree, find_eq_none_of_insert hsub⟩
  | @existing _ event row terms hvalid hrecorded hevent hrow hterms hcommit =>
    obtain ⟨license, hlicense, hterms⟩ := bind_eq_some_iff.1 hterms
    obtain ⟨hsafe, billingEvents, -, rfl⟩ := commitExisting_eq_some_iff.1 hcommit
    rw [licenseUpdate_expiry] at hsafe
    refine .inr ⟨row.licenseId, _, ⟨hvalid, hrecorded, ?_⟩, by unfold licenseUpdate; split <;> simp,
      licenseStatus_of_write (by intro r; rfl) rfl (fun _ => rfl)⟩
    have hcommits : CommitsExisting db e row.licenseId event :=
      ⟨row, license, terms, hrow, rfl, hlicense, hterms, hsafe⟩
    split
    next hkind =>
      rw [hkind] at hevent
      cases hevent
    · exact ⟨event, hevent, hcommits⟩

theorem Commits.unique {id' : LicenseId} (h : Commits db e id) (h' : Commits db e id') :
    id = id' := by
  obtain ⟨-, -, h⟩ := h
  obtain ⟨-, -, h'⟩ := h'
  cases hkind : e.kind with
  | started licenseId periodStart periodEnd billingPeriod =>
    rw [hkind] at h h'
    exact h.1.symm.trans h'.1
  | _ =>
    rw [hkind] at h h'
    obtain ⟨-, -, row, -, -, hrow, rfl, -⟩ := h
    obtain ⟨-, -, row', -, -, hrow', rfl, -⟩ := h'
    rw [hrow] at hrow'
    rw [some.inj hrow']

theorem exists_insert_of_not_recorded (h : db.recorded e = false) :
    ∃ t, db.billingEvents.insert e.row = some t := by
  refine ne_none_iff_exists'.1 fun hnone => ?_
  rw [insert_eq_none_iff] at hnone
  exact hnone (by simpa [recorded] using h)

section Commit

variable {event : SubscriptionEvent} {row : SubscriptionRow} {dunningSecs periodStart periodEnd : ℤ}
  {fallback : Option PerpetualFallback} {licenseId : LicenseId}

theorem exists_commitExisting (hrecorded : db.recorded e = false)
    (hsafe : (existingIntegers (nextSubscription row e event dunningSecs fallback)
      (nextRefundObserveUntil row e) (renewedExpiry e.kind
        (nextSubscription row e event dunningSecs fallback) dunningSecs)).all isSafeInteger) :
    ∃ db', commitExisting db e event row dunningSecs fallback = some db' := by
  obtain ⟨billingEvents, hinsert⟩ := exists_insert_of_not_recorded hrecorded
  rw [← licenseUpdate_expiry _ _ fallback] at hsafe
  exact ⟨_, commitExisting_eq_some_iff.2 ⟨hsafe, _, hinsert, rfl⟩⟩

theorem license_commitExisting (h : commitExisting db e event row dunningSecs fallback = some db') :
    let next := nextSubscription row e event dunningSecs fallback
    db'.licenses.find row.licenseId = (db.licenses.find row.licenseId).map
      (·.write (licenseUpdate e.kind next fallback dunningSecs) next.updatedAt) := by
  obtain ⟨-, billingEvents, -, rfl⟩ := commitExisting_eq_some_iff.1 h
  simp only [updateLicense, storeSubscription, find_updateWhere]
  cases hfind : db.licenses.find row.licenseId with
  | none => rfl
  | some r =>
    have hid : r.id = row.licenseId := key_of_find hfind
    simp [hid]

theorem exists_commitStarted (hrecorded : db.recorded e = false)
    (hsafe : [periodStart, periodEnd, e.eventTs, signedAdd 64 periodEnd dunningSecs].all
      isSafeInteger) (hfree : db.subscriptionOf e.provider e.externalId = none)
    (hlicense : db.subscriptions.find licenseId = none) :
    ∃ db', commitStarted db e licenseId periodStart periodEnd dunningSecs = some db' := by
  obtain ⟨billingEvents, hinsert⟩ := exists_insert_of_not_recorded hrecorded
  obtain ⟨subscriptions, hsubscriptions⟩ := ne_none_iff_exists'.1 fun hnone =>
    insert_eq_none_iff.1 hnone
      (show db.subscriptions.find (startedRow e licenseId periodStart periodEnd).licenseId = none
        from hlicense)
  exact ⟨_, commitStarted_eq_some_iff.2 ⟨hsafe, hfree, _, _, hsubscriptions, hinsert, rfl⟩⟩

theorem license_commitStarted
    (h : commitStarted db e licenseId periodStart periodEnd dunningSecs = some db') :
    db'.licenses.find licenseId = (db.licenses.find licenseId).map fun r =>
      { r with
        status := .active
        expiresAt := some (signedAdd 64 periodEnd dunningSecs)
        updatedAt := e.eventTs } := by
  obtain ⟨-, -, subscriptions, billingEvents, -, -, rfl⟩ := commitStarted_eq_some_iff.1 h
  simp only [updateLicense, find_updateWhere]
  cases hfind : db.licenses.find licenseId with
  | none => rfl
  | some r =>
    have hid : r.id = licenseId := key_of_find hfind
    simp [hid]

end Commit

/-- The batch of an event that commits goes through. -/
theorem exists_process_of_commits (h : Commits db e id) : ∃ db', process db e = some db' := by
  obtain ⟨hvalid, hrecorded, h⟩ := h
  cases hkind : e.kind with
  | started licenseId periodStart periodEnd billingPeriod =>
    rw [hkind] at h
    obtain ⟨-, license, terms, hlicense, hterms, hsafe, hfree, hnew⟩ := h
    have hread : db.terms licenseId = some terms := by rw [Database.terms, hlicense]; exact hterms
    rw [process_started hvalid hrecorded hkind hread]
    exact exists_commitStarted hrecorded hsafe hfree hnew
  | _ =>
    rw [hkind] at h
    obtain ⟨event, hevent, row, license, terms, hrow, -, hlicense, hterms, hsafe⟩ := h
    have hread : db.terms row.licenseId = some terms := by
      rw [Database.terms, hlicense]
      exact hterms
    rw [process_existing hvalid hrecorded (hkind ▸ hevent) hrow hread]
    exact exists_commitExisting hrecorded hsafe

/-- An event that commits on a revoked license ends the revocation. -/
theorem licenseStatus_ne_of_commits (h : Commits db e id) :
    ((process db e).getD db).licenseStatus id ≠ some .revoked := by
  obtain ⟨db', hprocess⟩ := exists_process_of_commits h
  rw [hprocess, getD_some]
  rcases process_eq_some hprocess with ⟨hrecorded, -⟩ | ⟨licenseId, status, hcommits, hne, hstatus⟩
  · rw [h.2.1] at hrecorded
    cases hrecorded
  · rw [hstatus, if_pos (h.unique hcommits)]
    cases db.licenses.find id with
    | none => simp
    | some license => simpa using hne

/-- An event leaves the status of every license alone on which it does not commit. -/
theorem licenseStatus_of_not_commits (h : ¬ Commits db e id) :
    ((process db e).getD db).licenseStatus id = db.licenseStatus id := by
  refine getD_of (P := fun db' => db'.licenseStatus id = db.licenseStatus id) rfl
    fun db' hprocess => ?_
  rcases process_eq_some hprocess with ⟨-, rfl⟩ | ⟨licenseId, status, hcommits, -, hstatus⟩
  · rfl
  · rw [hstatus, if_neg]
    rintro rfl
    exact h hcommits

/-! ### Runs -/

/-- The steps of billing: provider events, the events of the scheduled pass, and the end of a
refund review. -/
def DatabaseStep.IsBilling : DatabaseStep → Prop
  | .billing _ | .settleRefund .. => True
  | .projection _ | .patch _ => False

/-- The step is a billing event that commits on the license. -/
def DatabaseStep.CommitsOn (step : DatabaseStep) (db : Database) (id : LicenseId) : Prop :=
  match step with
  | .billing e => Commits db e id
  | _ => False

/-- The scheduled pass is a run of billing steps. -/
theorem reconcileDue_eq_exec (db : Database) (now : ℤ) (revoked : LicenseId → Bool) :
    ∃ steps, reconcileDue db now revoked = exec databaseStep db steps ∧
      ∀ step ∈ steps, step.IsBilling := by
  obtain ⟨steps, hexec, hmem⟩ := reconcileRows_eq_exec now revoked db (db.due now)
  refine ⟨steps, hexec, fun step hstep => ?_⟩
  obtain ⟨r, -, hr⟩ := hmem step hstep
  rcases reconcileStep_cases hr with ⟨_, -, -, rfl⟩ | ⟨-, _, -, rfl⟩ <;> trivial

/-- In a run of the database's writers, billing keeps a license revoked exactly when no billing
event commits on it while it is revoked. -/
theorem revoked_persists_iff (id : LicenseId) (db : Database) (steps : List DatabaseStep) :
    PersistsUntil databaseStep (fun db => db.licenseStatus id = some .revoked)
        (fun step => ¬ step.IsBilling) db steps ↔
      Along databaseStep
        (fun db step => db.licenseStatus id = some .revoked → ¬ step.CommitsOn db id) db steps := by
  rw [persistsUntil_iff_along]
  refine along_congr (fun db step _ => forall_congr' fun hrevoked => ?_) db
  rw [not_not]
  cases step with
  | billing e =>
    constructor
    · exact fun hkept hcommits => licenseStatus_ne_of_commits hcommits (hkept trivial)
    · exact fun hnot _ => (licenseStatus_of_not_commits hnot).trans hrevoked
  | settleRefund => exact iff_of_true (fun _ => hrevoked) not_false
  | projection | patch => exact iff_of_true False.elim not_false

/-! ### A renewal of a revoked license -/

/-- A license with a monthly subscription policy and a day of dunning grace. -/
def sampleLicense : LicenseRow where
  id := 1
  validity := some (.subscription 2592000 86400 none)
  status := .active
  versionScopeOverride := none
  expiresAt := none
  updatedAt := 0
  seatsUsed := 0
  lastSeenAt := none
  projVersion := 0

def sampleDatabase : Database where
  licenses := ⟨[sampleLicense], by simp⟩
  subscriptions := .empty
  billingEvents := .empty
  machines := .empty

/-- An event of the one subscription. -/
def sampleEvent (eventId : String) (eventTs : ℤ) (kind : BillingEventKind) : BillingEvent where
  provider := .stripe
  eventId := eventId
  eventTs := eventTs
  externalId := "sub_1"
  kind := kind

/-- The subscription starts, an administrator revokes the license, and the projection of its
LicenseDO brings the status to the database. -/
def revokedByAdmin : List DatabaseStep :=
  [ .billing (sampleEvent "evt_1" 1000 (.started 1 1000 2593000 "month")),
    .projection
      { licenseId := 1
        licenseStatus := .revoked
        seatsUsed := 0
        lastSeenAt := none
        machine := none
        projVersion := 1
        occurredAt := 2000 } ]

/-- The next renewal makes the license active again. -/
theorem renewal_reactivates_revoked_license :
    (exec databaseStep sampleDatabase revokedByAdmin).licenseStatus 1 = some .revoked ∧
    (exec databaseStep sampleDatabase (revokedByAdmin ++
      [.billing (sampleEvent "evt_2" 2593000 (.renewed 2593000 5185000))])).licenseStatus 1 =
        some .active := by
  decide

end CopyLocker.Worker
