import CopyLocker.Worker.PaidPeriods

/-!
# What the scheduled pass leaves undone

`reconcileDue` raises an event for each due subscription, dated at the deadline that has passed. The
event goes through the rules for the provider's events: it is dropped when the subscription has seen
a later one, and once it is recorded it is not looked at again.

## Main results

* `subscriptionOf_reconcileRow`: what the pass does to the row of its turn and to the others.
* `reconcile_progress_iff`: a pass without errors leaves no row overdue exactly if it settles each
  of them.
* `late_cancellation_stays_due`: a subscription cancelled after its period ended stays as it is.
-/

namespace CopyLocker.Worker

open Foundation Run Server SubscriptionRow List

/-- Past due or to end, and the deadline has come. -/
def SubscriptionRow.Overdue (now : ℤ) (r : SubscriptionRow) : Prop :=
  r.state = .pastDue ∧ r.dunningUntil.any (fun t => decide (t ≤ now)) = true ∨
    r.state = .canceling ∧ r.currentPeriodEnd ≤ now

/-- A refund is settled, or the event of the row is new and not older than the row. -/
def Settles (now : ℤ) (db : Database) (r : SubscriptionRow) : Prop :=
  r.reviewDue now = true ∨
    (systemEvent r).all (fun e => !db.recorded e && decide (r.updatedAt ≤ e.eventTs)) = true

instance (now : ℤ) : DecidableRel (Settles now) := fun _ _ => inferInstanceAs (Decidable (_ ∨ _))

section Pass

variable {now : ℤ} {revoked : LicenseId → Bool} {db : Database} {r : SubscriptionRow}
  {rows : List SubscriptionRow}

/-- A pass without errors is the run of its rows. -/
theorem reconcileRows_eq (h : Along (reconcileRow now) (Proceeds now revoked) db rows) :
    reconcileRows now revoked db rows = exec (reconcileRow now) db rows := by
  induction rows generalizing db with
  | nil => rfl
  | cons r rest ih => rw [reconcileRows_cons, if_pos h.1, ih h.2, exec_cons]

theorem systemEvent_of_overdue (h : r.Overdue now) :
    ∃ e event, systemEvent r = some e ∧ e.provider = r.provider ∧ e.externalId = r.externalId ∧
      e.kind.subscriptionEvent = some event ∧
      (r.state = .pastDue ∧ event = .dunningElapsed ∨
        r.state = .canceling ∧ event = .periodElapsed) := by
  unfold systemEvent
  rcases h with ⟨hstate, hdunning⟩ | ⟨hstate, -⟩
  · obtain ⟨dueAt, hdueAt⟩ := Option.isSome_iff_exists.1 (Option.isSome_of_any hdunning)
    rw [hstate, hdueAt]
    exact ⟨_, _, rfl, rfl, rfl, rfl, .inl ⟨rfl, rfl⟩⟩
  · rw [hstate]
    exact ⟨_, _, rfl, rfl, rfl, rfl, .inr ⟨rfl, rfl⟩⟩

/-- The event takes the row out of its state unless the row has seen a later one. -/
theorem overdue_next_iff (h : r.Overdue now) {e : BillingEvent} {event : SubscriptionEvent}
    (hevent : r.state = .pastDue ∧ event = .dunningElapsed ∨
      r.state = .canceling ∧ event = .periodElapsed)
    (dunningSecs : ℤ) (fallback : Option PerpetualFallback) (refundObserveUntil : Option ℤ) :
    (r.store (nextSubscription r e event dunningSecs fallback) refundObserveUntil).Overdue now ↔
      ¬ r.updatedAt ≤ e.eventTs := by
  let d : Delivery := ⟨e.eventId, event, fallback, e.eventTs, dunningSecs⟩
  have htakes : d.Takes r.toSubscription ↔ r.updatedAt ≤ e.eventTs := by
    rcases hevent with ⟨hstate, rfl⟩ | ⟨hstate, rfl⟩ <;>
      simp [Delivery.Takes, d, toSubscription, hstate, SubscriptionEvent.isSecurity,
        SubscriptionState.isTerminal]
  change (r.store (r.toSubscription.deliver d) refundObserveUntil).Overdue now ↔ _
  rw [← htakes]
  by_cases ht : d.Takes r.toSubscription
  · rw [deliver_eq_of_takes ht]
    refine iff_of_false ?_ (not_not.2 ht)
    rcases hevent with ⟨hstate, rfl⟩ | ⟨hstate, rfl⟩ <;>
      simp [Overdue, store, Subscription.transition, d,
        toSubscription, hstate, Subscription.settleEnding]
    split_ifs <;> simp
  · obtain ⟨processed, heq⟩ := deliver_eq_of_not_takes ht
    rw [heq]
    exact iff_of_true h ht

/-- What the pass makes of the row whose turn it is, and that it leaves the others alone. -/
theorem subscriptionOf_reconcileRow (hdue : r.isDue now)
    (hrow : db.subscriptionOf r.provider r.externalId = some r)
    (hproceeds : Proceeds now revoked db r) :
    ∃ r', (¬ r'.Overdue now ↔ Settles now db r) ∧ ∀ provider externalId,
      (reconcileRow now db r).subscriptionOf provider externalId =
        if provider = r.provider ∧ externalId = r.externalId then some r'
        else db.subscriptionOf provider externalId := by
  unfold Proceeds at hproceeds
  unfold Settles reconcileRow
  cases hreview : r.reviewDue now with
  | true =>
    obtain ⟨reviewUntil, huntil⟩ := Option.isSome_iff_exists.1 (Option.isSome_of_any hreview)
    have hle : reviewUntil ≤ now := by simpa [reviewDue, huntil] using hreview
    have hfilter : (r.refundObserveUntil.filter fun t => decide (t ≤ now)) = some reviewUntil := by
      simp [huntil, Option.filter, hle]
    rw [reconcileStep, hfilter]
    refine ⟨{ r with
      state := .expired, fallbackEarnedAt := none, refundObserveUntil := none, updatedAt := now },
      by simp [Overdue], fun provider externalId => ?_⟩
    refine (subscriptionOf_settleRefund db r.licenseId reviewUntil now provider externalId).trans ?_
    split_ifs with hname
    · rw [hname.1, hname.2, hrow]
      simp [huntil]
    · cases hother : db.subscriptionOf provider externalId with
      | none => rfl
      | some row =>
        have hid : row.licenseId ≠ r.licenseId := by
          intro hid
          obtain rfl := subscriptionOf_unique hrow hother hid
          obtain ⟨-, hprovider, hexternal⟩ := subscriptionOf_spec hother
          exact hname ⟨hprovider.symm, hexternal.symm⟩
        simp [hid]
  | false =>
    have hoverdue : r.Overdue now := by
      unfold isDue at hdue
      rw [show (r.refundObserveUntil.any fun t => decide (t ≤ now)) = false from hreview] at hdue
      simpa [Overdue] using hdue
    obtain ⟨e, event, he, hprovider, hexternal, hevent, hkind⟩ := systemEvent_of_overdue hoverdue
    have hstep : reconcileStep now r = some (.billing e) := by
      have hnone : (r.refundObserveUntil.filter fun t => decide (t ≤ now)) = none := by
        cases huntil : r.refundObserveUntil <;> simp_all [reviewDue]
      rw [reconcileStep, hnone, he]
      rfl
    rw [hstep] at hproceeds ⊢
    obtain ⟨db', hprocess⟩ := Option.isSome_iff_exists.1 hproceeds
    simp only [Option.elim_some, databaseStep, hprocess, Option.getD_some, Bool.false_eq_true,
      false_or, he, Option.all_some]
    cases process_cases hprocess with
    | again hrecorded =>
      refine ⟨r, by simp [hoverdue, hrecorded], fun provider externalId => ?_⟩
      split_ifs with hname
      · rw [hname.1, hname.2, hrow]
      · rfl
    | started _ _ hstarted =>
      rw [hstarted] at hevent
      cases hevent
    | existing _ hrecorded hevent' hrow' _ hcommit =>
      cases hevent.symm.trans hevent'
      rw [hprovider, hexternal, hrow] at hrow'
      cases hrow'
      have hview := subscriptionOf_commitExisting hcommit (by rw [hprovider, hexternal, hrow])
      simp only [hprovider, hexternal] at hview
      refine ⟨_, ?_, hview⟩
      rw [overdue_next_iff hoverdue hkind, not_not, hrecorded]
      simp

/-- A pass without errors over rows of the table settles a row or leaves it overdue, and does not
touch the other rows. -/
theorem overdue_exec_iff (hnodup : rows.Nodup) (hdue : ∀ r ∈ rows, r.isDue now)
    (hrows : ∀ r ∈ rows, db.subscriptionOf r.provider r.externalId = some r)
    (hproceeds : Along (reconcileRow now) (Proceeds now revoked) db rows) :
    ((∀ r ∈ rows, ∀ r', (exec (reconcileRow now) db rows).subscriptionOf r.provider r.externalId =
        some r' → ¬ r'.Overdue now) ↔ Along (reconcileRow now) (Settles now) db rows) ∧
      ∀ provider externalId, (∀ r ∈ rows, ¬ (provider = r.provider ∧ externalId = r.externalId)) →
        (exec (reconcileRow now) db rows).subscriptionOf provider externalId =
          db.subscriptionOf provider externalId := by
  induction rows generalizing db with
  | nil => simp
  | cons r rest ih =>
    obtain ⟨hnotMem, hnodup⟩ := nodup_cons.1 hnodup
    obtain ⟨hfirst, hproceeds⟩ := hproceeds
    have hrow := hrows r mem_cons_self
    obtain ⟨r', hr', hview⟩ := subscriptionOf_reconcileRow (hdue r mem_cons_self) hrow hfirst
    have hother (row : SubscriptionRow) (hmem : row ∈ rest) :
        ¬ (row.provider = r.provider ∧ row.externalId = r.externalId) := by
      rintro ⟨hprovider, hexternal⟩
      have heq := hrows row (mem_cons_of_mem r hmem)
      rw [hprovider, hexternal, hrow] at heq
      exact hnotMem (Option.some.inj heq ▸ hmem)
    have hrows' (row : SubscriptionRow) (hmem : row ∈ rest) :
        (reconcileRow now db r).subscriptionOf row.provider row.externalId = some row := by
      rw [hview, if_neg (hother row hmem)]
      exact hrows row (mem_cons_of_mem r hmem)
    obtain ⟨hrest, hframe⟩ := ih hnodup (fun row hmem => hdue row (mem_cons_of_mem r hmem))
      hrows' hproceeds
    have hkept : (exec (reconcileRow now) (reconcileRow now db r) rest).subscriptionOf r.provider
        r.externalId = some r' := by
      rw [hframe _ _ fun row hmem hname => hother row hmem ⟨hname.1.symm, hname.2.symm⟩, hview,
        if_pos ⟨rfl, rfl⟩]
    refine ⟨?_, fun provider externalId hname => ?_⟩
    · rw [along_cons, ← hrest, ← hr', forall_mem_cons, exec_cons, hkept]
      simp
    · rw [exec_cons, hframe _ _ fun row hmem => hname row (mem_cons_of_mem r hmem), hview,
        if_neg (hname r mem_cons_self)]

end Pass

/-! ### Names of subscriptions -/

/-- The provider's names of the subscriptions. -/
def Database.names (db : Database) : List (BillingProvider × String) :=
  db.subscriptions.rows.map fun r => (r.provider, r.externalId)

theorem nodup_names_step {db : Database} (h : db.names.Nodup) (step : DatabaseStep) :
    (databaseStep db step).names.Nodup := by
  have hsame {db' : Database} (hdb' : db'.subscriptions = db.subscriptions) : db'.names.Nodup := by
    rwa [Database.names, hdb']
  have hupdate (p : SubscriptionRow → Bool) (f : SubscriptionRow → SubscriptionRow)
      (hf : ∀ r, ((f r).provider, (f r).externalId) = (r.provider, r.externalId)) :
      ((db.subscriptions.rows.map fun r => if p r then f r else r).map fun r =>
        (r.provider, r.externalId)).Nodup := by
    rw [map_map]
    refine Eq.mpr (congrArg List.Nodup (map_congr_left fun r _ => ?_)) h
    dsimp only [Function.comp_apply]
    split_ifs
    · exact hf r
    · rfl
  cases step with
  | projection e => exact hsame (deliver_frame db e).1
  | settleRefund licenseId reviewUntil now => exact hupdate _ _ fun _ => rfl
  | patch p =>
    exact Database.getD_of (P := fun db' => db'.names.Nodup) h fun db' hpatch =>
      hsame (patchLicense_frame hpatch).1
  | billing e =>
    refine Database.getD_of (P := fun db' => db'.names.Nodup) h fun db' hprocess => ?_
    cases process_cases hprocess with
    | again => exact h
    | started _ _ _ _ hcommit =>
      obtain ⟨-, hfree, subscriptions, billingEvents, hinsert, -, rfl⟩ :=
        commitStarted_eq_some_iff.1 hcommit
      have hnew : (e.provider, e.externalId) ∉ db.names := by
        rintro hmem
        obtain ⟨row, hrow, hname⟩ := mem_map.1 hmem
        simpa [Prod.mk.inj hname] using find?_eq_none.1 hfree row hrow
      simpa [Database.names, Table.insert_rows hinsert, startedRow] using h.concat hnew
    | existing _ _ _ _ _ hcommit =>
      obtain ⟨-, billingEvents, -, rfl⟩ := commitExisting_eq_some_iff.1 hcommit
      exact hupdate _ _ fun _ => rfl

private theorem subscriptionOf_of_mem {db : Database} (h : db.names.Nodup) {r : SubscriptionRow}
    (hr : r ∈ db.subscriptions.rows) : db.subscriptionOf r.provider r.externalId = some r := by
  cases hfind : db.subscriptionOf r.provider r.externalId with
  | none => exact absurd (find?_eq_none.1 hfind r hr) (by simp)
  | some row =>
    obtain ⟨hrow, hprovider, hexternal⟩ := subscriptionOf_spec hfind
    exact congrArg some (inj_on_of_nodup_map h hrow hr (Prod.ext hprovider hexternal))

/-- After every history, a pass without errors leaves none of the subscriptions that it selected
overdue exactly if it settles each of them at its turn. -/
theorem reconcile_progress_iff {db₀ : Database} (h₀ : db₀.subscriptions.rows = [])
    (history : List DatabaseStep) (now : ℤ) (revoked : LicenseId → Bool) :
    let db := exec databaseStep db₀ history
    Along (reconcileRow now) (Proceeds now revoked) db (db.due now) → ((∀ r ∈ db.due now, ∀ r',
          (reconcileDue db now revoked).subscriptionOf r.provider r.externalId = some r' →
            ¬ r'.Overdue now) ↔
        Along (reconcileRow now) (Settles now) db (db.due now)) := by
  intro db hproceeds
  have hnames : db.names.Nodup :=
    exec_induction databaseStep (I := fun db => db.names.Nodup)
      (fun _ step h => nodup_names_step h step) (by simp [Database.names, h₀]) history
  have hselected (r : SubscriptionRow) (hr : r ∈ db.due now) :
      r ∈ db.subscriptions.rows ∧ r.isDue now :=
    mem_filter.1 ((mem_insertionSort _).1 (mem_of_mem_take hr))
  have hnodup : (db.due now).Nodup := by
    refine List.Nodup.sublist (take_sublist _ _) ?_
    exact (perm_insertionSort _ _).nodup_iff.2 (db.subscriptions.nodup.of_map.filter _)
  rw [reconcileDue, reconcileRows_eq hproceeds]
  exact (overdue_exec_iff hnodup (fun r hr => (hselected r hr).2)
    (fun r hr => subscriptionOf_of_mem hnames (hselected r hr).1) hproceeds).1

/-! ### A cancellation after the end of the period -/

instance (now : ℤ) : DecidablePred (SubscriptionRow.Overdue now) := fun _ =>
  inferInstanceAs (Decidable (_ ∨ _))

/-- The provider reports a cancellation of a subscription until `2593000`. -/
def canceledAt (time : ℤ) : List DatabaseStep :=
  [ .billing (sampleEvent "evt_1" 1000 (.started 1 1000 2593000 "month")),
    .billing (sampleEvent "evt_2" time .cancelAtPeriodEnd) ]

/-- The row that the pass selects and finds again after it. -/
def canceledRow : SubscriptionRow :=
  { startedRow (sampleEvent "evt_2" 2593001 .cancelAtPeriodEnd) 1 1000 2593000 with
    state := .canceling, canceledAt := some 2593001 }

/-- After a cancellation that is reported one second too late, the pass records its event, which is
older than the cancellation, and the row stays due. -/
theorem late_cancellation_stays_due :
    let db := exec databaseStep sampleDatabase (canceledAt 2593001)
    Along (reconcileRow 2700000) (Proceeds 2700000 fun _ => true) db (db.due 2700000) ∧
      ¬ ∀ r ∈ db.due 2700000, ∀ r',
        (reconcileDue db 2700000 fun _ => true).subscriptionOf r.provider r.externalId = some r' →
          ¬ r'.Overdue 2700000 := by
  refine ⟨by decide +kernel, fun h => ?_⟩
  exact h canceledRow (by decide +kernel) canceledRow (by decide +kernel) (by decide +kernel)

/-- A cancellation during the period. -/
theorem timely_cancellation_settled :
    let db := exec databaseStep sampleDatabase (canceledAt 2000)
    db.due 2700000 ≠ [] ∧ ∀ r ∈ db.due 2700000, ∀ r',
      (reconcileDue db 2700000 fun _ => true).subscriptionOf r.provider r.externalId = some r' →
        ¬ r'.Overdue 2700000 :=
  ⟨by decide +kernel, (reconcile_progress_iff rfl (canceledAt 2000) 2700000 (fun _ => true)
    (by decide +kernel)).2 (by decide +kernel)⟩

end CopyLocker.Worker
