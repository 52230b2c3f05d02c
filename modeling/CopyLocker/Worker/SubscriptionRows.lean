import CopyLocker.Worker.BillingConsumers

/-!
# The row of a subscription

What the writers of the database do to the row of one subscription, which is found by the payment
provider and the provider's own identifier. A start event creates the row, an event for an existing
subscription writes the columns that the subscription machine computes, the closing of a refund
review ends the subscription, and nothing else writes the row.

## Main results

* `rowStep`: every step of the writers is a `RowStep`.
* `recorded_databaseStep`: a recorded event stays recorded.
* `redelivery_changes_nothing`: an event that is delivered again is ignored.
-/

namespace CopyLocker.Worker

open Foundation Run Server LicenseDO Database Table Option List

variable {db db' : Database} {e : BillingEvent} {event : SubscriptionEvent}
  {dunningSecs periodStart periodEnd : ℤ} {fallback : Option PerpetualFallback}
  {licenseId : LicenseId}

/-! ### Rows -/

/-- Updates that keep the provider and its identifier act on the row that is found. -/
theorem subscriptionOf_updateWhere (db : Database) (p : SubscriptionRow → Bool)
    (f : SubscriptionRow → SubscriptionRow) (hf : ∀ r, (f r).licenseId = r.licenseId)
    (hkey : ∀ r, (f r).provider = r.provider ∧ (f r).externalId = r.externalId)
    (provider : BillingProvider) (externalId : String) :
    ({ db with subscriptions := db.subscriptions.updateWhere p f hf } : Database).subscriptionOf
        provider externalId =
      (db.subscriptionOf provider externalId).map fun r => if p r then f r else r := by
  have hsame : ((fun r : SubscriptionRow => r.provider == provider && r.externalId == externalId) ∘
      fun r => if p r then f r else r) =
        fun r => r.provider == provider && r.externalId == externalId := by
    funext r
    simp only [Function.comp_apply]
    split_ifs
    · rw [(hkey r).1, (hkey r).2]
    · rfl
  simp only [subscriptionOf, updateWhere, find?_map, hsame]

theorem subscriptionOf_settleRefund (db : Database) (licenseId : LicenseId) (reviewUntil now : ℤ)
    (provider : BillingProvider) (externalId : String) :
    (settleRefund db licenseId reviewUntil now).subscriptionOf provider externalId =
      (db.subscriptionOf provider externalId).map fun r =>
        if r.licenseId == licenseId && r.refundObserveUntil == some reviewUntil then
          { r with
            state := .expired
            fallbackEarnedAt := none
            refundObserveUntil := none
            updatedAt := now }
        else r :=
  subscriptionOf_updateWhere db _ _ (by intro r; rfl) (by intro r; exact ⟨rfl, rfl⟩) provider
    externalId

variable {row : SubscriptionRow}

theorem subscriptionOf_spec {provider : BillingProvider} {externalId : String}
    (h : db.subscriptionOf provider externalId = some row) :
    row ∈ db.subscriptions.rows ∧ row.provider = provider ∧ row.externalId = externalId := by
  have hkey := find?_some h
  simp only [Bool.and_eq_true, beq_iff_eq] at hkey
  exact ⟨mem_of_find?_eq_some h, hkey⟩

theorem subscriptionOf_unique {provider provider' : BillingProvider}
    {externalId externalId' : String} {row' : SubscriptionRow}
    (h : db.subscriptionOf provider externalId = some row)
    (h' : db.subscriptionOf provider' externalId' = some row')
    (hid : row'.licenseId = row.licenseId) : row' = row := by
  have hfind := mem_rows_iff.1 (subscriptionOf_spec h).1
  have hfind' := mem_rows_iff.1 (subscriptionOf_spec h').1
  rw [hid, hfind] at hfind'
  exact (some.inj hfind').symm

theorem subscriptionOf_commitExisting
    (h : commitExisting db e event row dunningSecs fallback = some db')
    (hrow : db.subscriptionOf e.provider e.externalId = some row) (provider : BillingProvider)
    (externalId : String) :
    db'.subscriptionOf provider externalId =
      if provider = e.provider ∧ externalId = e.externalId then
        some (row.store (nextSubscription row e event dunningSecs fallback)
          (nextRefundObserveUntil row e))
      else db.subscriptionOf provider externalId := by
  obtain ⟨-, billingEvents, -, rfl⟩ := commitExisting_eq_some_iff.1 h
  have hstore := subscriptionOf_updateWhere db (fun r => r.licenseId == row.licenseId)
    (fun r => r.store (nextSubscription row e event dunningSecs fallback)
      (nextRefundObserveUntil row e)) (fun _ => rfl) (fun _ => ⟨rfl, rfl⟩) provider externalId
  refine Eq.trans hstore ?_
  by_cases hkey : provider = e.provider ∧ externalId = e.externalId
  · obtain ⟨rfl, rfl⟩ := hkey
    simp [hrow]
  · rw [if_neg hkey]
    cases hother : db.subscriptionOf provider externalId with
    | none => rfl
    | some r =>
      have hid : r.licenseId ≠ row.licenseId := by
        intro hid
        obtain rfl := subscriptionOf_unique hrow hother hid
        obtain ⟨-, hp, hx⟩ := subscriptionOf_spec hrow
        obtain ⟨-, hp', hx'⟩ := subscriptionOf_spec hother
        exact hkey ⟨hp'.symm.trans hp, hx'.symm.trans hx⟩
      simp [hid]

theorem subscriptionOf_commitStarted
    (h : commitStarted db e licenseId periodStart periodEnd dunningSecs = some db')
    (provider : BillingProvider) (externalId : String) :
    db'.subscriptionOf provider externalId =
      if provider = e.provider ∧ externalId = e.externalId then
        some (startedRow e licenseId periodStart periodEnd)
      else db.subscriptionOf provider externalId := by
  obtain ⟨-, hfree, subscriptions, billingEvents, hinsert, -, rfl⟩ := commitStarted_eq_some_iff.1 h
  simp only [subscriptionOf, insert_rows hinsert, find?_append] at hfree ⊢
  by_cases hkey : provider = e.provider ∧ externalId = e.externalId
  · obtain ⟨rfl, rfl⟩ := hkey
    rw [hfree, if_pos ⟨rfl, rfl⟩]
    simp [startedRow]
  · rw [if_neg hkey]
    have hnew : ((startedRow e licenseId periodStart periodEnd).provider == provider &&
        (startedRow e licenseId periodStart periodEnd).externalId == externalId) = false := by
      rw [Bool.eq_false_iff]
      intro heq
      simp only [startedRow, Bool.and_eq_true, beq_iff_eq] at heq
      exact hkey ⟨heq.1.symm, heq.2.symm⟩
    simp [hnew]

/-! ### Steps -/

/-- What a step makes of the row of the subscription with a provider and an identifier. -/
inductive RowStep (provider : BillingProvider) (externalId : String) (db : Database) :
    DatabaseStep → Option SubscriptionRow → Prop
  | keeps {step : DatabaseStep} :
      RowStep provider externalId db step (db.subscriptionOf provider externalId)
  | starts {e : BillingEvent} {licenseId : LicenseId} {periodStart periodEnd : ℤ} {period : String}
      (hkind : e.kind = .started licenseId periodStart periodEnd period) :
      RowStep provider externalId db (.billing e)
        (some (startedRow e licenseId periodStart periodEnd))
  | moves {e : BillingEvent} {event : SubscriptionEvent} {row : SubscriptionRow} {dunningSecs : ℤ}
      {fallback : Option PerpetualFallback} (hprovider : e.provider = provider)
      (hexternal : e.externalId = externalId) (hevent : e.kind.subscriptionEvent = some event)
      (hrow : db.subscriptionOf provider externalId = some row)
      (hrecorded : db.recorded e = false) (hprocessed : (process db e).isSome = true)
      (hterms : db.terms row.licenseId = some (dunningSecs, fallback)) :
      RowStep provider externalId db (.billing e)
        (some (row.store (nextSubscription row e event dunningSecs fallback)
          (nextRefundObserveUntil row e)))
  | settles {licenseId : LicenseId} {reviewUntil now : ℤ} {row : SubscriptionRow}
      (hrow : db.subscriptionOf provider externalId = some row) :
      RowStep provider externalId db (.settleRefund licenseId reviewUntil now) (some { row with
          state := .expired
          fallbackEarnedAt := none
          refundObserveUntil := none
          updatedAt := now })

/-- A projection writes machines and licenses only. -/
theorem deliver_frame (db : Database) (e : ProjectionEvent) :
    (deliver db e).subscriptions = db.subscriptions ∧
      (deliver db e).billingEvents = db.billingEvents ∧
      ∀ id, (deliver db e).terms id = db.terms id := by
  have hmachine (db : Database) (row : MachineRow) :
      (db.upsertMachine row).subscriptions = db.subscriptions ∧
        (db.upsertMachine row).billingEvents = db.billingEvents := by
    unfold upsertMachine
    split
    · exact ⟨rfl, rfl⟩
    · split_ifs <;> exact ⟨rfl, rfl⟩
  unfold deliver projectionApply
  split_ifs
  · dsimp only [getD_some]
    cases e.machine with
    | none => exact ⟨rfl, rfl, terms_of_write (by intro r; rfl) rfl (by intro r; rfl)⟩
    | some machine =>
      refine ⟨(hmachine db _).1, (hmachine db _).2, fun id => ?_⟩
      refine (terms_of_write (by intro r; rfl) rfl (by intro r; rfl) id).trans ?_
      rw [terms, upsertMachine_licenses, terms]
  · exact ⟨rfl, rfl, fun _ => rfl⟩
  · exact ⟨rfl, rfl, fun _ => rfl⟩

theorem patchLicense_frame {p : LicensePatch} (h : patchLicense db p = some db') :
    db'.subscriptions = db.subscriptions ∧ db'.billingEvents = db.billingEvents ∧
      db'.machines = db.machines ∧ ∀ id, db'.terms id = db.terms id := by
  obtain ⟨proposed, -, rfl⟩ := map_eq_some_iff.1 h
  exact ⟨rfl, rfl, rfl, terms_of_write (by intro r; rfl) rfl (by intro r; rfl)⟩

theorem terms_databaseStep (db : Database) (step : DatabaseStep) (id : LicenseId) :
    (databaseStep db step).terms id = db.terms id := by
  cases step with
  | billing e =>
    refine getD_of (P := fun db' => db'.terms id = db.terms id) rfl fun db' h => ?_
    rw [process_eq] at h
    split_ifs at h
    · rw [some.inj h]
    · obtain ⟨reading, -, hcommit⟩ := bind_eq_some_iff.1 h
      exact terms_commit hcommit id
  | settleRefund licenseId reviewUntil now => rfl
  | projection e => exact (deliver_frame db e).2.2 id
  | patch p =>
    exact getD_of (P := fun db' => db'.terms id = db.terms id) rfl fun db' h =>
      (patchLicense_frame h).2.2.2 id

private theorem recorded_commit {reading : BillingReading} (h : e.commit db reading = some db')
    (e' : BillingEvent) :
    db'.recorded e' = (db.recorded e' || decide (e'.row = e.row)) := by
  have hrecorded {billingEvents : Table (id : BillingEventRow → BillingEventRow)}
      (hinsert : db.billingEvents.insert e.row = some billingEvents)
      (hdb' : db'.billingEvents = billingEvents) :
      db'.recorded e' = (db.recorded e' || decide (e'.row = e.row)) := by
    simp only [recorded, hdb', find_insert hinsert]
    split_ifs with hrow
    · have hrow' : e'.row = e.row := hrow.symm
      simp [hrow']
    · have hrow' : e'.row ≠ e.row := fun h => hrow h.symm
      simp [hrow']
  cases reading with
  | license dunningSecs =>
    simp only [BillingEvent.commit] at h
    split at h
    · obtain ⟨-, -, subscriptions, billingEvents, -, hinsert, rfl⟩ := commitStarted_eq_some_iff.1 h
      exact hrecorded hinsert rfl
    · cases h
  | subscription row dunningSecs fallback =>
    obtain ⟨event, -, h⟩ := bind_eq_some_iff.1 h
    obtain ⟨-, billingEvents, hinsert, rfl⟩ := commitExisting_eq_some_iff.1 h
    exact hrecorded hinsert rfl

theorem recorded_process (h : process db e = some db') (e' : BillingEvent) :
    db'.recorded e' = (db.recorded e' || decide (e'.row = e.row)) := by
  rw [process_eq] at h
  split_ifs at h with hvalid hrecorded
  · cases h
    by_cases hrow : e'.row = e.row
    · rw [recorded] at hrecorded
      simp [recorded, hrow, hrecorded]
    · simp [hrow]
  · obtain ⟨reading, -, hcommit⟩ := bind_eq_some_iff.1 h
    exact recorded_commit hcommit e'

/-- A recorded event stays recorded. -/
theorem recorded_databaseStep (h : db.recorded e) (step : DatabaseStep) :
    (databaseStep db step).recorded e := by
  cases step with
  | billing e' =>
    refine getD_of (P := fun db' => db'.recorded e) h fun db' hprocess => ?_
    rw [recorded_process hprocess, h, Bool.true_or]
  | settleRefund licenseId reviewUntil now => exact h
  | projection e' => rwa [databaseStep, recorded, (deliver_frame db e').2.1]
  | patch p =>
    refine getD_of (P := fun db' => db'.recorded e) h fun db' hpatch => ?_
    rwa [recorded, (patchLicense_frame hpatch).2.1]

/-- Every step of the writers is one of these. -/
theorem rowStep (provider : BillingProvider) (externalId : String) (db : Database)
    (step : DatabaseStep) :
    RowStep provider externalId db step
      ((databaseStep db step).subscriptionOf provider externalId) := by
  have hkeeps {db' : Database} (h : db'.subscriptions = db.subscriptions) :
      RowStep provider externalId db step (db'.subscriptionOf provider externalId) := by
    rw [subscriptionOf, h]
    exact .keeps
  cases step with
  | projection e => exact hkeeps (deliver_frame db e).1
  | patch p =>
    exact getD_of (P := fun db' => RowStep _ _ db _ (db'.subscriptionOf provider externalId)) .keeps
      fun db' hpatch => hkeeps (patchLicense_frame hpatch).1
  | settleRefund licenseId reviewUntil now =>
    rw [databaseStep, subscriptionOf_settleRefund]
    cases hrow : db.subscriptionOf provider externalId with
    | none =>
      rw [map_none, ← hrow]
      exact .keeps
    | some row =>
      rw [map_some]
      split_ifs
      · exact .settles hrow
      · rw [← hrow]
        exact .keeps
  | billing e =>
    refine getD_of (P := fun db' => RowStep _ _ db _ (db'.subscriptionOf provider externalId))
      .keeps
      fun db' hprocess => ?_
    cases process_cases hprocess with
    | again => exact .keeps
    | started _ _ hkind _ hcommit =>
      rw [subscriptionOf_commitStarted hcommit]
      split_ifs
      · exact .starts hkind
      · exact .keeps
    | existing _ hrecorded hevent hrow hterms hcommit =>
      rw [subscriptionOf_commitExisting hcommit hrow]
      split_ifs with hkey
      · obtain ⟨rfl, rfl⟩ := hkey
        exact .moves rfl rfl hevent hrow hrecorded (by rw [hprocess, isSome_some]) hterms
      · exact .keeps

/-! ### Events that are delivered again -/

/-- Every writer of the database ignores a billing event whose id was processed before, whatever its
body, and whatever happened in between. -/
theorem redelivery_changes_nothing (db : Database) (e e' : BillingEvent) (hid : e'.row = e.row)
    (hprocessed : (process db e).isSome) (steps rest : List DatabaseStep) :
    exec databaseStep db (.billing e :: steps ++ .billing e' :: rest) =
      exec databaseStep db (.billing e :: steps ++ rest) := by
  obtain ⟨db', hdb'⟩ := isSome_iff_exists.1 hprocessed
  have hstep : databaseStep db (.billing e) = db' := by
    rw [databaseStep, hdb', getD_some]
  have hrecorded : (exec databaseStep db' steps).recorded e' := by
    refine exec_induction (I := fun db => db.recorded e' = true) databaseStep
      (fun _ step h => recorded_databaseStep h step) ?_ steps
    rw [recorded_process hdb', decide_eq_true hid, Bool.or_true]
  have hignored : databaseStep (exec databaseStep db' steps) (.billing e') =
      exec databaseStep db' steps := by
    rw [databaseStep, process, if_pos hrecorded]
    split_ifs
    · rfl
    · rfl
  simp only [cons_append, exec_cons, exec_append, hstep, hignored]

/-- A renewal under the id of the start is ignored. -/
theorem redelivery_after_revocation :
    exec databaseStep sampleDatabase (revokedByAdmin ++
        [.billing (sampleEvent "evt_1" 2593000 (.renewed 2593000 5185000))]) =
      exec databaseStep sampleDatabase revokedByAdmin :=
  redelivery_changes_nothing sampleDatabase
    (sampleEvent "evt_1" 1000 (.started 1 1000 2593000 "month")) _ rfl (by decide)
    revokedByAdmin.tail []

end CopyLocker.Worker
