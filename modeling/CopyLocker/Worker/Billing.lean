import CopyLocker.Worker.Database
import Mathlib.Data.List.Sort

/-!
# Billing events

The processing of billing events (`webhook.rs`) on the worker's database: a normalised event of a
payment provider starts a subscription or moves an existing one, and the status of the license is
written from the state of its subscription. Each event is committed as one batch together with
its row in the log, which makes a second delivery a no-op. `reconcileDue` raises the events that
no provider sends, and closes the review of a refund.

## Main results

* `commitStarted_eq_some_iff`, `commitExisting_eq_some_iff`, `process_cases`: what a processed event
  has read and what it writes.
* `reconcileRows_eq_exec`: the scheduled pass is a run of single steps.
-/

namespace CopyLocker.Worker

open Foundation Run Saturating Server LicenseDO Option

/-- The kinds of a normalised billing event. -/
inductive BillingEventKind
  | started (licenseId : LicenseId) (periodStart periodEnd : ℤ) (billingPeriod : String)
  | renewed (periodStart periodEnd : ℤ)
  | paymentFailed
  | dunningLapsed
  | paymentRecovered
  | cancelAtPeriodEnd
  | periodEnded
  | refundReported
  deriving DecidableEq

/-- A normalised billing event as it travels through the queue. -/
structure BillingEvent where
  provider : BillingProvider
  eventId : String
  eventTs : ℤ
  externalId : String
  kind : BillingEventKind
  deriving DecidableEq

/-- The characters and the length of an identifier. -/
def validIdentifier (value : String) (maxLen : ℕ) : Bool :=
  !value.isEmpty && decide (value.utf8ByteSize ≤ maxLen) &&
    value.toList.all fun c => c.isAlphanum || ['_', '-', '.', ':', '/'].contains c

/-- A period of safe integers that ends after it begins. -/
def validPeriod (start stop : ℤ) : Bool :=
  decide (0 ≤ start) && decide (start ≤ maxSafeInteger) && decide (0 ≤ stop) &&
    decide (stop ≤ maxSafeInteger) && decide (start < stop)

/-- The fields of an event are in range. -/
def BillingEvent.isValid (e : BillingEvent) : Bool :=
  validIdentifier e.eventId 200 && validIdentifier e.externalId 200 &&
    decide (0 ≤ e.eventTs) && decide (e.eventTs ≤ maxSafeInteger) &&
    match e.kind with
    | .started _ periodStart periodEnd billingPeriod =>
      validPeriod periodStart periodEnd && validIdentifier billingPeriod 32
    | .renewed periodStart periodEnd => validPeriod periodStart periodEnd
    | _ => true

/-- The row of the event in the log. -/
def BillingEvent.row (e : BillingEvent) : BillingEventRow :=
  { provider := e.provider, eventId := e.eventId }

/-- The event of the subscription lifecycle, for an event that starts no subscription. -/
def BillingEventKind.subscriptionEvent : BillingEventKind → Option SubscriptionEvent
  | .started .. => none
  | .renewed periodStart periodEnd => some (.renewed periodStart periodEnd)
  | .paymentFailed => some .paymentFailed
  | .dunningLapsed => some .dunningElapsed
  | .paymentRecovered => some .paymentRecovered
  | .cancelAtPeriodEnd => some .cancelAtPeriodEnd
  | .periodEnded => some .periodElapsed
  | .refundReported => some .refundReported

def BillingEventKind.isRenewed : BillingEventKind → Bool
  | .renewed .. => true
  | _ => false

/-- The dunning grace and the fallback of a policy that is a subscription. -/
def subscriptionTerms : Option Validity → Option (ℤ × Option PerpetualFallback)
  | some (.subscription _ dunningGraceSecs fallback) => some (dunningGraceSecs, fallback)
  | _ => none

/-- The subscription that a row stores. -/
def SubscriptionRow.toSubscription (r : SubscriptionRow) : Subscription where
  provider := r.provider.asStr
  externalId := r.externalId
  state := r.state
  currentPeriodStart := r.currentPeriodStart
  currentPeriodEnd := r.currentPeriodEnd
  dunningUntil := r.dunningUntil
  continuousPaidMonths := r.continuousPaidMonths
  fallbackEarnedAt := r.fallbackEarnedAt
  canceledAt := r.canceledAt
  updatedAt := r.updatedAt
  processedEvents := []

variable (db : Database) (e : BillingEvent)

/-- `SELECT … FROM subscriptions WHERE provider = ? AND external_id = ?`. -/
def Database.subscriptionOf (provider : BillingProvider) (externalId : String) : Option
    SubscriptionRow :=
  db.subscriptions.rows.find? fun r => r.provider == provider && r.externalId == externalId

/-- `billing_event_exists`. -/
def Database.recorded : Bool :=
  (db.billingEvents.find e.row).isSome

/-- The subscription row that a start event inserts. -/
def startedRow (licenseId : LicenseId) (periodStart periodEnd : ℤ) : SubscriptionRow :=
  let subscription := Subscription.new e.provider.asStr e.externalId periodStart periodEnd
  { licenseId
    provider := e.provider
    externalId := e.externalId
    state := subscription.state
    currentPeriodStart := periodStart
    currentPeriodEnd := periodEnd
    dunningUntil := none
    continuousPaidMonths := 0
    fallbackEarnedAt := none
    canceledAt := none
    updatedAt := e.eventTs
    refundObserveUntil := none }

/-- The batch of `process_started`, with the integers it binds. -/
def commitStarted (licenseId : LicenseId) (periodStart periodEnd dunningSecs : ℤ) :
    Option Database :=
  let expiry := signedAdd 64 periodEnd dunningSecs
  if [periodStart, periodEnd, e.eventTs, expiry].all isSafeInteger &&
      (db.subscriptionOf e.provider e.externalId).isNone then do
    let subscriptions ← db.subscriptions.insert (startedRow e licenseId periodStart periodEnd)
    let billingEvents ← db.billingEvents.insert e.row
    some { db.updateLicense licenseId (fun _ => true) (fun r =>
      { r with status := .active, expiresAt := some expiry, updatedAt := e.eventTs }) with
      subscriptions
      billingEvents }
  else none

/-- A new subscription for a license that is sold by subscription. -/
def processStarted (licenseId : LicenseId) (periodStart periodEnd : ℤ) : Option Database := do
  let license ← db.licenses.find licenseId
  let (dunningSecs, _) ← subscriptionTerms license.validity
  commitStarted db e licenseId periodStart periodEnd dunningSecs

/-- The status, expiry and version scope that `license_update` writes. -/
def licenseUpdate (kind : BillingEventKind) (subscription : Subscription)
    (fallback : Option PerpetualFallback) (dunningSecs : ℤ) :
    LicenseStatus × Option ℤ × Option ℤ :=
  match subscription.state with
  | .suspended => (.suspended, none, none)
  | .expired | .ended => (.expired, none, none)
  | .perpetualFallback => (.active, none, subscription.fallbackVersionCutoff fallback)
  | .active | .pastDue | .canceling =>
    (.active, if kind.isRenewed then some (signedAdd 64 subscription.currentPeriodEnd dunningSecs)
      else none, none)

/-- The review of a refund ends seven days after it was reported. -/
def refundReviewSecs : ℤ := 7 * 86400

/-- What an event makes of the subscription it belongs to. -/
def nextSubscription (row : SubscriptionRow) (e : BillingEvent) (event : SubscriptionEvent)
    (dunningSecs : ℤ) (fallback : Option PerpetualFallback) : Subscription :=
  (row.toSubscription.apply e.eventId event fallback e.eventTs dunningSecs).1

/-- A refund is observed for a while. -/
def nextRefundObserveUntil (row : SubscriptionRow) (e : BillingEvent) : Option ℤ :=
  if e.kind = .refundReported then some (signedAdd 64 e.eventTs refundReviewSecs)
  else row.refundObserveUntil

/-- The integers that the batch of an existing subscription binds. -/
def existingIntegers (subscription : Subscription) (refundObserveUntil expiry : Option ℤ) :
    List ℤ :=
  [subscription.currentPeriodStart, subscription.currentPeriodEnd,
    (subscription.continuousPaidMonths : ℤ), subscription.updatedAt] ++
  subscription.dunningUntil.toList ++ subscription.fallbackEarnedAt.toList ++
  subscription.canceledAt.toList ++ refundObserveUntil.toList ++ expiry.toList

/-- The columns that an event writes. -/
def SubscriptionRow.store (r : SubscriptionRow) (s : Subscription)
    (refundObserveUntil : Option ℤ) : SubscriptionRow :=
  { r with
    state := s.state
    currentPeriodStart := s.currentPeriodStart
    currentPeriodEnd := s.currentPeriodEnd
    dunningUntil := s.dunningUntil
    continuousPaidMonths := s.continuousPaidMonths
    fallbackEarnedAt := s.fallbackEarnedAt
    canceledAt := s.canceledAt
    updatedAt := s.updatedAt
    refundObserveUntil }

/-- `UPDATE subscriptions SET … WHERE license_id = ?`. -/
def Database.storeSubscription (licenseId : LicenseId) (s : Subscription)
    (refundObserveUntil : Option ℤ) : Database :=
  { db with
    subscriptions := db.subscriptions.updateWhere (fun r => r.licenseId == licenseId)
      (·.store s refundObserveUntil) }

/-- What is written on the license; the expiry and the scope stay where there is none to write. -/
abbrev LicenseRow.write (r : LicenseRow) (written : LicenseStatus × Option ℤ × Option ℤ)
    (updatedAt : ℤ) : LicenseRow :=
  { r with
    status := written.1
    expiresAt := written.2.1.or r.expiresAt
    versionScopeOverride := written.2.2.or r.versionScopeOverride
    updatedAt }

/-- The computation and the batch of `process_existing`. -/
def commitExisting (event : SubscriptionEvent) (row : SubscriptionRow) (dunningSecs : ℤ)
    (fallback : Option PerpetualFallback) : Option Database :=
  let subscription := nextSubscription row e event dunningSecs fallback
  let refundObserveUntil := nextRefundObserveUntil row e
  let written := licenseUpdate e.kind subscription fallback dunningSecs
  if (existingIntegers subscription refundObserveUntil written.2.1).all isSafeInteger then do
    let billingEvents ← db.billingEvents.insert e.row
    let db := db.storeSubscription row.licenseId subscription refundObserveUntil
    some { db.updateLicense row.licenseId (fun _ => true)
      (·.write written subscription.updatedAt) with billingEvents }
  else none

/-- Apply an event to a stored subscription. -/
def processExisting (event : SubscriptionEvent) : Option Database := do
  let row ← db.subscriptionOf e.provider e.externalId
  let license ← db.licenses.find row.licenseId
  let (dunningSecs, fallback) ← subscriptionTerms license.validity
  commitExisting db e event row dunningSecs fallback

/-- Process one event; `none` is an error, after which the queue delivers the event again. -/
def process : Option Database :=
  if ¬ e.isValid then none
  else if db.recorded e then some db
  else
    match e.kind with
    | .started licenseId periodStart periodEnd _ =>
      processStarted db e licenseId periodStart periodEnd
    | kind => kind.subscriptionEvent.bind (processExisting db e)

/-! ### Inversion -/

/-- The terms of a license whose policy is a subscription. -/
def Database.terms (licenseId : LicenseId) : Option (ℤ × Option PerpetualFallback) :=
  (db.licenses.find licenseId).bind fun license => subscriptionTerms license.validity

section Process

variable {db e} {db' : Database} {event : SubscriptionEvent} {row : SubscriptionRow}
  {licenseId : LicenseId} {periodStart periodEnd dunningSecs : ℤ}
  {fallback : Option PerpetualFallback}

/-- The batch of a start event: its conditions and what it writes. -/
theorem commitStarted_eq_some_iff :
    commitStarted db e licenseId periodStart periodEnd dunningSecs = some db' ↔
      [periodStart, periodEnd, e.eventTs, signedAdd 64 periodEnd dunningSecs].all isSafeInteger =
        true ∧
      db.subscriptionOf e.provider e.externalId = none ∧
      ∃ subscriptions billingEvents,
        db.subscriptions.insert (startedRow e licenseId periodStart periodEnd) =
          some subscriptions ∧
        db.billingEvents.insert e.row = some billingEvents ∧
        { db.updateLicense licenseId (fun _ => true) (fun r =>
          { r with
            status := .active
            expiresAt := some (signedAdd 64 periodEnd dunningSecs)
            updatedAt := e.eventTs }) with
          subscriptions
          billingEvents } = db' := by
  unfold commitStarted
  dsimp only
  split_ifs with hcond
  · rw [Bool.and_eq_true, isNone_iff_eq_none] at hcond
    simp only [bind, bind_eq_some_iff, some.injEq, exists_and_left, hcond, true_and]
  · rw [Bool.and_eq_true, isNone_iff_eq_none] at hcond
    exact iff_of_false (by simp) fun h => hcond ⟨h.1, h.2.1⟩

/-- The batch of an existing subscription: its condition and what it writes. -/
theorem commitExisting_eq_some_iff :
    commitExisting db e event row dunningSecs fallback = some db' ↔
      let next := nextSubscription row e event dunningSecs fallback
      let written := licenseUpdate e.kind next fallback dunningSecs
      (existingIntegers next (nextRefundObserveUntil row e) written.2.1).all isSafeInteger ∧
      ∃ billingEvents, db.billingEvents.insert e.row = some billingEvents ∧
        { (db.storeSubscription row.licenseId next (nextRefundObserveUntil row e)).updateLicense
          row.licenseId (fun _ => true) (·.write written next.updatedAt) with billingEvents } =
            db' := by
  unfold commitExisting
  dsimp only
  split_ifs with hsafe
  · simp only [bind, bind_eq_some_iff, some.injEq, hsafe, true_and]
  · exact iff_of_false (by simp) fun h => hsafe h.1

theorem processStarted_eq (e : BillingEvent) (licenseId : LicenseId) (periodStart periodEnd : ℤ) :
    processStarted db e licenseId periodStart periodEnd = (db.terms licenseId).bind fun terms =>
        commitStarted db e licenseId periodStart periodEnd terms.1 := by
  unfold processStarted Database.terms
  cases db.licenses.find licenseId with
  | none => rfl
  | some license => rfl

theorem processExisting_eq (e : BillingEvent) (event : SubscriptionEvent) :
    processExisting db e event = (db.subscriptionOf e.provider e.externalId).bind fun row =>
        (db.terms row.licenseId).bind fun terms =>
          commitExisting db e event row terms.1 terms.2 := by
  unfold processExisting Database.terms
  cases db.subscriptionOf e.provider e.externalId with
  | none => rfl
  | some row =>
    dsimp only [bind, Option.bind]
    cases db.licenses.find row.licenseId with
    | none => rfl
    | some license => rfl

/-- A processed event was recorded before, or starts a subscription, or moves an existing one. -/
inductive Processed (db : Database) (e : BillingEvent) : Database → Prop
  | again (hrecorded : db.recorded e) : Processed db e db
  | started {db' : Database} {licenseId : LicenseId} {periodStart periodEnd : ℤ} {period : String}
      {terms : ℤ × Option PerpetualFallback} (hvalid : e.isValid)
      (hrecorded : db.recorded e = false)
      (hkind : e.kind = .started licenseId periodStart periodEnd period)
      (hterms : db.terms licenseId = some terms)
      (hcommit : commitStarted db e licenseId periodStart periodEnd terms.1 = some db') :
      Processed db e db'
  | existing {db' : Database} {event : SubscriptionEvent} {row : SubscriptionRow}
      {terms : ℤ × Option PerpetualFallback} (hvalid : e.isValid)
      (hrecorded : db.recorded e = false)
      (hevent : e.kind.subscriptionEvent = some event)
      (hrow : db.subscriptionOf e.provider e.externalId = some row)
      (hterms : db.terms row.licenseId = some terms)
      (hcommit : commitExisting db e event row terms.1 terms.2 = some db') : Processed db e db'

theorem process_cases (h : process db e = some db') : Processed db e db' := by
  unfold process at h
  split_ifs at h with hvalid hrecorded
  · cases h
    exact .again hrecorded
  · have hnew := Bool.eq_false_of_not_eq_true hrecorded
    split at h
    next hkind =>
      rw [processStarted_eq] at h
      obtain ⟨terms, hterms, hcommit⟩ := bind_eq_some_iff.1 h
      exact .started hvalid hnew hkind hterms hcommit
    · obtain ⟨event, hevent, h⟩ := bind_eq_some_iff.1 h
      rw [processExisting_eq] at h
      obtain ⟨row, hrow, h⟩ := bind_eq_some_iff.1 h
      obtain ⟨terms, hterms, hcommit⟩ := bind_eq_some_iff.1 h
      exact .existing hvalid hnew hevent hrow hterms hcommit

theorem process_existing (hvalid : e.isValid) (hrecorded : db.recorded e = false)
    (hevent : e.kind.subscriptionEvent = some event)
    (hrow : db.subscriptionOf e.provider e.externalId = some row)
    (hterms : db.terms row.licenseId = some (dunningSecs, fallback)) :
    process db e = commitExisting db e event row dunningSecs fallback := by
  have hexisting :
      processExisting db e event = commitExisting db e event row dunningSecs fallback := by
    rw [processExisting_eq, hrow, bind_some, hterms, bind_some]
  rw [← hexisting]
  cases hkind : e.kind with
  | started =>
    rw [hkind] at hevent
    cases hevent
  | _ =>
    rw [hkind] at hevent
    simp [process, hvalid, hrecorded, hkind, hevent]

theorem process_started {period : String} (hvalid : e.isValid)
    (hrecorded : db.recorded e = false)
    (hkind : e.kind = .started licenseId periodStart periodEnd period)
    (hterms : db.terms licenseId = some (dunningSecs, fallback)) :
    process db e = commitStarted db e licenseId periodStart periodEnd dunningSecs := by
  simp [process, hvalid, hrecorded, hkind, processStarted_eq, hterms]

end Process

/-! ### The scheduled pass -/

/-- `COALESCE(refund_observe_until, dunning_until, current_period_end)`. -/
def SubscriptionRow.dueAt (r : SubscriptionRow) : ℤ :=
  (r.refundObserveUntil.or r.dunningUntil).getD r.currentPeriodEnd

/-- The condition of the query of due subscriptions. -/
def SubscriptionRow.isDue (now : ℤ) (r : SubscriptionRow) : Bool :=
  r.refundObserveUntil.any (fun t => decide (t ≤ now)) ||
    (r.state == .pastDue && r.dunningUntil.any fun t => decide (t ≤ now)) ||
    (r.state == .canceling && decide (r.currentPeriodEnd ≤ now))

/-- The due subscriptions in the order of the query, at most one hundred. -/
def Database.due (now : ℤ) : List SubscriptionRow :=
  ((db.subscriptions.rows.filter fun r => r.isDue now).insertionSort
    fun a b => a.dueAt ≤ b.dueAt).take 100

/-- The event that the pass raises for a due subscription. -/
def systemEvent (r : SubscriptionRow) : Option BillingEvent :=
  let event (label : String) (dueAt : ℤ) (kind : BillingEventKind) : BillingEvent :=
    { provider := r.provider
      eventId := "system:" ++ label ++ ":" ++ hexEncode (Suite.ByteId.toBytes r.licenseId) ++ ":" ++
        toString dueAt
      eventTs := dueAt
      externalId := r.externalId
      kind }
  match r.state with
  | .pastDue => r.dunningUntil.map fun dueAt => event "dunning" dueAt .dunningLapsed
  | .canceling => some (event "period-end" r.currentPeriodEnd .periodEnded)
  | _ => none

/-- Close the review of a refund: the license has been handed to the revocation log, and its
status arrives later, with a projection of its LicenseDO. -/
def settleRefund (licenseId : LicenseId) (reviewUntil now : ℤ) : Database :=
  { db with
    subscriptions := db.subscriptions.updateWhere
      (fun r => r.licenseId == licenseId && r.refundObserveUntil == some reviewUntil) fun r =>
        { r with
          state := .expired
          fallbackEarnedAt := none
          refundObserveUntil := none
          updatedAt := now } }

/-! ### The writers of the license table -/

/-- An administrator's change of a license: the fields that concern status, expiry and version
scope. -/
structure LicensePatch where
  licenseId : LicenseId
  status : Option LicenseStatus
  extendBySeconds : Option ℤ
  expiresAt : Option ℤ
  clearExpiresAt : Bool
  versionScopeOverride : Option ℤ
  clearVersionScopeOverride : Bool
  now : ℤ
  deriving DecidableEq

namespace LicensePatch

variable (p : LicensePatch)

/-- A patch changes something, and each field in one way. -/
def isValid : Bool :=
  (p.status.isSome || p.extendBySeconds.isSome || p.expiresAt.isSome || p.clearExpiresAt ||
    p.versionScopeOverride.isSome || p.clearVersionScopeOverride) &&
  decide (p.extendBySeconds.isSome.toNat + p.expiresAt.isSome.toNat + p.clearExpiresAt.toNat ≤ 1) &&
  !(p.versionScopeOverride.isSome && p.clearVersionScopeOverride)

/-- The status to write; a license is revoked through the revocation log only. -/
def proposedStatus (current : LicenseRow) : Option LicenseStatus :=
  match p.status with
  | none => some current.status
  | some .revoked => none
  | some status => some status

/-- The expiry to write: extended by a positive span, cleared, replaced or kept. -/
def proposedExpiresAt (current : LicenseRow) : Option (Option ℤ) :=
  match p.extendBySeconds with
  | some extension =>
    if extension ≤ 0 then none
    else current.expiresAt.bind fun expiry =>
      if expiry + extension ≤ signedMax 64 then some (some (expiry + extension)) else none
  | none =>
    if p.clearExpiresAt then some none
    else match p.expiresAt with
      | some expiry => if expiry < 0 then none else some (some expiry)
      | none => some current.expiresAt

/-- The license as the patch proposes it. -/
def proposed (current : LicenseRow) : Option LicenseRow := do
  let status ← p.proposedStatus current
  let expiresAt ← p.proposedExpiresAt current
  some { current with
    status
    expiresAt
    versionScopeOverride :=
      if p.clearVersionScopeOverride then none
      else p.versionScopeOverride.or current.versionScopeOverride }

end LicensePatch

/-- The checks of `patch_license`: refused for a revoked license, for a patch that changes nothing
and for an expiry that is negative or cannot be bound; otherwise what is proposed for the row. -/
def checkPatch (p : LicensePatch) : Option LicenseRow := do
  let current ← db.licenses.find p.licenseId
  if current.status = .revoked ∨ ¬ p.isValid then none
  else
    let proposed ← p.proposed current
    if proposed = current ∨ proposed.expiresAt.any (fun v => decide (v < 0) || !isSafeInteger v) ∨
        ¬ isSafeInteger p.now then none
    else some proposed

/-- `license_update_statement`: what was proposed is written, whatever the row says by then. -/
def writePatch (p : LicensePatch) (proposed : LicenseRow) : Database :=
  db.updateLicense p.licenseId (fun _ => true) fun r =>
    { r with
      status := proposed.status
      expiresAt := proposed.expiresAt
      versionScopeOverride := proposed.versionScopeOverride
      updatedAt := p.now }

/-- `patch_license` and `persist_update`. -/
def patchLicense (p : LicensePatch) : Option Database :=
  (checkPatch db p).map (writePatch db p)

/-- One request of one of the writers. -/
inductive DatabaseStep
  | billing (e : BillingEvent)
  | settleRefund (licenseId : LicenseId) (reviewUntil now : ℤ)
  | projection (e : ProjectionEvent)
  | patch (p : LicensePatch)

/-- The consumer refuses an invalid projection and retries a failed one. -/
def deliver (e : ProjectionEvent) : Database :=
  if e.isValid then (projectionApply db e).getD db else db

/-- The database after one request; a failed request changes nothing. -/
def databaseStep : DatabaseStep → Database
  | .billing e => (process db e).getD db
  | .settleRefund licenseId reviewUntil now => settleRefund db licenseId reviewUntil now
  | .projection e => deliver db e
  | .patch p => (patchLicense db p).getD db

/-- A failed request changes nothing. -/
theorem Database.getD_of {db : Database} {o : Option Database} {P : Database → Prop} (h : P db)
    (hsome : ∀ db', o = some db' → P db') : P (o.getD db) := by
  cases o with
  | none => exact h
  | some db' => exact hsome db' rfl

/-- What the pass does for one due subscription. -/
def reconcileStep (now : ℤ) (r : SubscriptionRow) : Option DatabaseStep :=
  match r.refundObserveUntil.filter fun t => decide (t ≤ now) with
  | some reviewUntil => some (.settleRefund r.licenseId reviewUntil now)
  | none => (systemEvent r).map .billing

/-- The scheduled pass: the due rows are read once and handled one after another, and the pass
stops at the first error. `revoked` says for which licenses the revocation of a refund goes
through. -/
def reconcileRows (now : ℤ) (revoked : LicenseId → Bool) (db : Database) :
    List SubscriptionRow → Database
  | [] => db
  | r :: rest =>
    match reconcileStep now r with
    | none => reconcileRows now revoked db rest
    | some (.settleRefund licenseId reviewUntil _) =>
      if revoked licenseId then
        reconcileRows now revoked (settleRefund db licenseId reviewUntil now) rest
      else db
    | some (.billing e) =>
      match process db e with
      | none => db
      | some db => reconcileRows now revoked db rest
    | some (.projection _) | some (.patch _) => db

/-- The pass over the rows that are due. -/
def reconcileDue (now : ℤ) (revoked : LicenseId → Bool) : Database :=
  reconcileRows now revoked db (db.due now)

/-- A refund of the row is to be settled. -/
def SubscriptionRow.reviewDue (now : ℤ) (r : SubscriptionRow) : Bool :=
  r.refundObserveUntil.any fun t => decide (t ≤ now)

/-- The pass over one row. -/
def reconcileRow (now : ℤ) (db : Database) (r : SubscriptionRow) : Database :=
  (reconcileStep now r).elim db (databaseStep db)

/-- The pass meets no error at the row. -/
def Proceeds (now : ℤ) (revoked : LicenseId → Bool) (db : Database) (r : SubscriptionRow) : Prop :=
  match reconcileStep now r with
  | some (.settleRefund licenseId _ _) => revoked licenseId = true
  | some (.billing e) => (process db e).isSome = true
  | some (.projection _) | some (.patch _) => False
  | none => True

instance (now : ℤ) (revoked : LicenseId → Bool) : DecidableRel (Proceeds now revoked) :=
  fun db r => by
    unfold Proceeds
    split <;> infer_instance

section Pass

variable {now : ℤ} {revoked : LicenseId → Bool} {r : SubscriptionRow}

theorem reconcileStep_cases {step : DatabaseStep} (h : reconcileStep now r = some step) :
    (∃ reviewUntil, r.refundObserveUntil = some reviewUntil ∧ r.reviewDue now ∧
        step = .settleRefund r.licenseId reviewUntil now) ∨
      r.reviewDue now = false ∧ ∃ e, systemEvent r = some e ∧ step = .billing e := by
  unfold reconcileStep at h
  unfold SubscriptionRow.reviewDue
  split at h
  next reviewUntil hreview =>
    obtain ⟨huntil, hle⟩ := filter_eq_some_iff.1 hreview
    exact .inl ⟨reviewUntil, huntil, by rw [huntil]; exact hle, (some.inj h).symm⟩
  next hreview =>
    obtain ⟨e, he, rfl⟩ := map_eq_some_iff.1 h
    refine .inr ⟨?_, e, he, rfl⟩
    cases huntil : r.refundObserveUntil <;> simp_all

/-- The pass goes on after a row without an error, and stops at the others. -/
theorem reconcileRows_cons (rest : List SubscriptionRow) :
    reconcileRows now revoked db (r :: rest) =
      if Proceeds now revoked db r then reconcileRows now revoked (reconcileRow now db r) rest
      else db := by
  have hproceeds := Proceeds.eq_1 now revoked db r
  rw [reconcileRows, reconcileRow]
  cases hstep : reconcileStep now r with
  | none =>
    rw [hstep] at hproceeds
    simp [hproceeds]
  | some step =>
    rw [hstep] at hproceeds
    rcases reconcileStep_cases hstep with ⟨reviewUntil, -, -, rfl⟩ | ⟨-, e, -, rfl⟩
    · simp [hproceeds, databaseStep]
    · cases hprocess : process db e <;> simp [hproceeds, hprocess, databaseStep]

/-- The scheduled pass is a run of single steps. -/
theorem reconcileRows_eq_exec (now : ℤ) (revoked : LicenseId → Bool) (db : Database)
    (rows : List SubscriptionRow) :
    ∃ steps, reconcileRows now revoked db rows = exec databaseStep db steps ∧
      ∀ step ∈ steps, ∃ r ∈ rows, reconcileStep now r = some step := by
  induction rows generalizing db with
  | nil => exact ⟨[], rfl, by simp⟩
  | cons r rest ih =>
    rw [reconcileRows_cons]
    split_ifs
    · -- the step of the row, if it has one, in front of the run of the rest
      obtain ⟨steps, hexec, hmem⟩ := ih (reconcileRow now db r)
      refine ⟨(reconcileStep now r).toList ++ steps, ?_, fun step hstep => ?_⟩
      · rw [hexec, exec_append, reconcileRow]
        cases reconcileStep now r <;> rfl
      · rcases List.mem_append.1 hstep with hfirst | hrest
        · exact ⟨r, List.mem_cons_self, mem_toList.1 hfirst⟩
        · obtain ⟨r', hr', hstep'⟩ := hmem step hrest
          exact ⟨r', List.mem_cons_of_mem r hr', hstep'⟩
    · exact ⟨[], rfl, by simp⟩

end Pass

end CopyLocker.Worker
