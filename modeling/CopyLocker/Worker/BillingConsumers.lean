import CopyLocker.Foundation.Serial
import CopyLocker.Worker.RevokedLicense

/-!
# Concurrent consumers of billing events

The processing of a billing event is a query of the log, a query of what the event is about, and one
batch (`webhook.rs`). The queue hands its events to one consumer at a time, but the scheduled pass
raises events of its own beside it, so two events of one subscription can be in process at once. The
batch writes every column of the subscription from the row that was read, whatever the row is by
then.

## Main results

* `perform_consumer`: the whole job is `process`.
* `consumers_serializable`: when every batch finds its row, any number of concurrent consumers leave
  the database as one consumer after the other does, in some order of the events.
-/

namespace CopyLocker.Worker

open Foundation Run Serial Server Option

/-! ### Reading and committing -/

/-- What was read for an event: the terms of the policy, and the subscription if there is to be
one. -/
inductive BillingReading
  | license (dunningSecs : ℤ)
  | subscription (row : SubscriptionRow) (dunningSecs : ℤ) (fallback : Option PerpetualFallback)
  deriving DecidableEq

/-- What a consumer reads for a new subscription. -/
def readStarted (db : Database) (licenseId : LicenseId) : Option BillingReading :=
  (db.terms licenseId).map fun terms => .license terms.1

/-- What it reads for a stored one. -/
def readExisting (db : Database) (e : BillingEvent) : Option BillingReading := do
  let row ← db.subscriptionOf e.provider e.externalId
  let (dunningSecs, fallback) ← db.terms row.licenseId
  some (.subscription row dunningSecs fallback)

/-- The license that a start event names. -/
def BillingEventKind.starts : BillingEventKind → Option LicenseId
  | .started licenseId .. => some licenseId
  | _ => none

/-- The query of what an event is about. -/
def BillingEvent.read (db : Database) (e : BillingEvent) : Option BillingReading :=
  match e.kind.starts with
  | some licenseId => readStarted db licenseId
  | none => readExisting db e

/-- The batch of an event, from what was read for it. -/
def BillingEvent.commit (db : Database) (e : BillingEvent) :
    BillingReading → Option Database
  | .license dunningSecs =>
    match e.kind with
    | .started licenseId periodStart periodEnd _ =>
      commitStarted db e licenseId periodStart periodEnd dunningSecs
    | _ => none
  | .subscription row dunningSecs fallback =>
    e.kind.subscriptionEvent.bind fun event => commitExisting db e event row dunningSecs fallback

/-- The processing of an event in its steps. An event is validated before its first query, and
nothing is read for an invalid one. -/
def consumer : Job Database BillingEvent BillingReading where
  skip := Database.recorded
  load db e := if e.isValid then e.read db else none
  commit db e reading := (e.commit db reading).getD db

/-- `process` reads and commits an event that is valid and not recorded. -/
theorem process_eq (db : Database) (e : BillingEvent) :
    process db e = if ¬ e.isValid then none else if db.recorded e then some db
      else (e.read db).bind (e.commit db) := by
  obtain ⟨provider, eventId, eventTs, externalId, kind⟩ := e
  unfold process
  congr 2
  cases kind with
  | started licenseId periodStart periodEnd billingPeriod =>
    simp only [processStarted_eq, BillingEvent.read, BillingEventKind.starts, readStarted,
      bind_map]
    rfl
  | _ =>
    simp only [BillingEvent.read, BillingEventKind.starts, readExisting,
      BillingEventKind.subscriptionEvent, bind_some, processExisting_eq, bind_assoc,
      bind]
    rfl

/-- The whole job is `process`, which leaves the database alone when it fails. -/
theorem perform_consumer (db : Database) (e : BillingEvent) :
    consumer.perform db e = databaseStep db (.billing e) := by
  change (if db.recorded e then db
    else (if e.isValid then e.read db else none).elim db fun reading =>
      (e.commit db reading).getD db) = (process db e).getD db
  rw [process_eq]
  by_cases hvalid : e.isValid
  · rw [if_neg (not_not.2 hvalid), if_pos hvalid]
    by_cases hrecorded : db.recorded e
    · rw [if_pos hrecorded, if_pos hrecorded, getD_some]
    · rw [if_neg hrecorded, if_neg hrecorded]
      cases e.read db with
      | none => rfl
      | some reading => rfl
  · rw [if_pos hvalid, if_neg hvalid, elim_none, ite_self, getD_none]

variable {db db' : Database} {e : BillingEvent} {reading : BillingReading}

theorem commit_of_recorded (h : db.recorded e) (reading : BillingReading) :
    e.commit db reading = none := by
  have hinsert : db.billingEvents.insert e.row = none :=
    Table.insert_eq_none_iff.2 (isSome_iff_ne_none.1 h)
  cases reading with
  | license dunningSecs =>
    simp only [BillingEvent.commit]
    split
    · simp [commitStarted, hinsert]
    · rfl
  | subscription row dunningSecs fallback => simp [BillingEvent.commit, commitExisting, hinsert]

/-! ### Policies -/

theorem terms_of_write {licenseId : LicenseId} {p : LicenseRow → Bool} {f : LicenseRow → LicenseRow}
    (hf : ∀ r, (f r).id = r.id) (hdb' : db'.licenses = (db.updateLicense licenseId p f hf).licenses)
    (hvalidity : ∀ r, (f r).validity = r.validity) (id : LicenseId) :
    db'.terms id = db.terms id := by
  unfold Database.terms
  rw [hdb', Database.updateLicense, Table.find_updateWhere]
  cases db.licenses.find id with
  | none => rfl
  | some r =>
    simp only [map_some, bind_some]
    split_ifs
    · rw [hvalidity]
    · rfl

theorem terms_commit (h : e.commit db reading = some db') (id : LicenseId) :
    db'.terms id = db.terms id := by
  cases reading with
  | license dunningSecs =>
    simp only [BillingEvent.commit] at h
    split at h
    · obtain ⟨-, -, subscriptions, billingEvents, -, -, rfl⟩ := commitStarted_eq_some_iff.1 h
      exact terms_of_write (by intro r; rfl) rfl (by intro r; rfl) id
    · cases h
  | subscription row dunningSecs fallback =>
    obtain ⟨event, -, h⟩ := bind_eq_some_iff.1 h
    obtain ⟨-, billingEvents, -, rfl⟩ := commitExisting_eq_some_iff.1 h
    exact terms_of_write (by intro r; rfl) rfl (by intro r; rfl) id

/-! ### Consumers -/

/-- The batch of a worker finds the subscription that the worker read. -/
def FindsItsRow (S : System Database BillingEvent BillingReading) (i : ℕ) : Prop :=
  match S.workers[i]? with
  | some (.loaded e (.subscription row _ _)) =>
    S.shared.subscriptionOf e.provider e.externalId = some row
  | _ => True

instance : DecidableRel FindsItsRow := fun S i => by
  unfold FindsItsRow
  split <;> infer_instance

/-- A reading is still right, apart from the subscription in it. -/
def Current (db : Database) (e : BillingEvent) : BillingReading → Prop
  | .license dunningSecs => consumer.load db e = some (.license dunningSecs)
  | .subscription row dunningSecs fallback =>
    e.isValid = true ∧ e.kind.starts = none ∧ db.terms row.licenseId = some (dunningSecs, fallback)

theorem current_of_load (h : consumer.load db e = some reading) : Current db e reading := by
  cases reading with
  | license dunningSecs => exact h
  | subscription row dunningSecs fallback =>
    simp only [consumer] at h
    split_ifs at h with hvalid
    unfold BillingEvent.read at h
    split at h
    next licenseId hstarts => simp [readStarted] at h
    next hstarts =>
      simp only [readExisting, bind, bind_eq_some_iff] at h
      obtain ⟨row', hrow, terms, hterms, h⟩ := h
      cases h
      exact ⟨hvalid, hstarts, hterms⟩

theorem Current.congr (hterms : ∀ id, db'.terms id = db.terms id) (h : Current db e reading) :
    Current db' e reading := by
  cases reading with
  | license dunningSecs =>
    simp only [Current, consumer] at h ⊢
    split_ifs at h ⊢
    unfold BillingEvent.read at h ⊢
    split at h
    next licenseId hstarts => rwa [readStarted, hterms]
    next hstarts =>
      simp only [readExisting, bind, bind_eq_some_iff] at h
      obtain ⟨row, -, terms, -, h⟩ := h
      cases h
  | subscription row dunningSecs fallback => exact ⟨h.1, h.2.1, (hterms _).trans h.2.2⟩

/-- What every consumer has read is still right, apart from the subscription. -/
def AllCurrent (S : System Database BillingEvent BillingReading) : Prop :=
  ∀ e reading, Worker.loaded e reading ∈ S.workers → Current S.shared e reading

theorem terms_advance (db : Database) (w : Worker BillingEvent BillingReading) (id : LicenseId) :
    (consumer.advance db w).1.terms id = db.terms id := by
  cases w with
  | loaded e reading =>
    change ((e.commit db reading).getD db).terms id = db.terms id
    cases hcommit : e.commit db reading with
    | none => rfl
    | some db' => exact terms_commit hcommit id
  | waiting e => rfl
  | admitted e => rfl
  | done => rfl

/-- A worker that holds a reading after its step has just made it. -/
theorem load_of_advance {w : Worker BillingEvent BillingReading}
    (h : (consumer.advance db w).2 = .loaded e reading) : consumer.load db e = some reading := by
  cases w with
  | waiting e' =>
    simp only [Job.advance] at h
    split_ifs at h
  | admitted e' =>
    simp only [Job.advance] at h
    cases hload : consumer.load db e' with
    | none =>
      rw [hload] at h
      cases h
    | some reading' =>
      rw [hload] at h
      cases h
      exact hload
  | loaded e' reading' => cases h
  | done => cases h

theorem AllCurrent.step {S : System Database BillingEvent BillingReading} (h : AllCurrent S)
    (i : ℕ) : AllCurrent (consumer.step S i) := by
  unfold Job.step
  cases hw : S.workers[i]? with
  | none => exact h
  | some w =>
    intro e reading hmem
    have hterms := terms_advance S.shared w
    rcases List.mem_or_eq_of_mem_set hmem with hold | hnew
    · exact (h e reading hold).congr hterms
    · exact (current_of_load (load_of_advance hnew.symm)).congr hterms

/-- When every batch finds the subscription as it was read, concurrent consumers leave the database
as they do one after the other, in some order of their events. -/
theorem consumers_serializable {db : Database} {events : List BillingEvent} {steps : List ℕ}
    (hrows : Along consumer.step FindsItsRow (.start db events) steps)
    (hdone : ∀ w ∈ (exec consumer.step (.start db events) steps).workers, w = .done) :
    ∃ order : List BillingEvent, order.Perm events ∧
      (exec consumer.step (.start db events) steps).shared =
        exec (fun db e => databaseStep db (.billing e)) db order := by
  have hundisturbed : Along consumer.step consumer.Undisturbed (.start db events) steps := by
    refine along_of_invariant (I := AllCurrent) (fun S i hS hrow => ⟨hS.step i, ?_⟩) ?_ hrows
    · intro e reading hw
      -- a reading that is still right is what the query gives again
      have hcurrent := hS e reading (List.mem_of_getElem? hw)
      rw [FindsItsRow, hw] at hrow
      cases reading with
      | license dunningSecs => exact hcurrent
      | subscription row dunningSecs fallback =>
        obtain ⟨hvalid, hstarts, hterms⟩ := hcurrent
        simp [consumer, hvalid, BillingEvent.read, hstarts, readExisting, hrow, hterms]
    · intro e reading hmem
      simp [System.start] at hmem
  obtain ⟨order, hperm, hshared⟩ := Job.exists_order (fun db e reading hrecorded _ => by
      change (e.commit db reading).getD db = db
      rw [commit_of_recorded hrecorded, getD_none]) hundisturbed
  have htasks : (exec consumer.step (.start db events) steps).tasks = [] := by
    refine List.filterMap_eq_nil_iff.2 fun w hw => ?_
    rw [hdone w hw]
    rfl
  refine ⟨order, by simpa [htasks] using hperm, ?_⟩
  rw [hshared]
  congr 1
  funext db e
  exact perform_consumer db e

/-- A subscription whose payment failed; its dunning ends at 2679400. -/
def pastDue : Database :=
  exec databaseStep sampleDatabase
    [ .billing (sampleEvent "evt_1" 1000 (.started 1 1000 2593000 "month")),
      .billing (sampleEvent "evt_2" 2593000 .paymentFailed) ]

/-- The payment of the second period, one second after the dunning ended. -/
def latePayment : BillingEvent := sampleEvent "evt_3" 2679401 (.renewed 2593000 5185000)

/-- The event that the scheduled pass raises for the subscription. -/
def lapse : BillingEvent :=
  sampleEvent "system:dunning:00000000000000000000000000000001:2679400" 2679400 .dunningLapsed

/-- The payment is processed before the pass looks. -/
theorem payment_then_lapse_serializable :
    ∃ order : List BillingEvent, order.Perm [latePayment, lapse] ∧
      (exec consumer.step (.start pastDue [latePayment, lapse]) [0, 0, 0, 1, 1, 1]).shared =
        exec (fun db e => databaseStep db (.billing e)) pastDue order :=
  consumers_serializable (by decide +kernel) (by decide +kernel)

/-- The queue's consumer and the scheduled pass both read the subscription that is past due, then
the payment is committed, and then the lapse. -/
def raced : Database :=
  (exec consumer.step (.start pastDue [latePayment, lapse]) [0, 0, 1, 1, 0, 1]).shared

/-- The subscription is suspended with both events recorded, while either order of the events leaves
it active. -/
theorem lapse_overwrites_payment :
    (pastDue.due 2679401).map systemEvent = [some lapse] ∧
      (raced.subscriptionOf .stripe "sub_1").map SubscriptionRow.state = some .suspended ∧
      raced.recorded latePayment = true ∧ raced.recorded lapse = true ∧
      ∀ order ∈ [[latePayment, lapse], [lapse, latePayment]],
        ((exec (fun db e => databaseStep db (.billing e)) pastDue order).subscriptionOf
          .stripe "sub_1").map SubscriptionRow.state = some .active := by
  decide +kernel

end CopyLocker.Worker
