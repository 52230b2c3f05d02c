import CopyLocker.Server.SubscriptionRuns
import CopyLocker.Worker.SubscriptionRows
import CopyLocker.Worker.Webhook

/-!
# Paid periods

A renewal adds the months of its period to the streak of a subscription, and a long enough streak
earns the perpetual fallback. Deliveries are told apart by the provider's event id. What is counted
is the period, so a period counts once only if the provider announces it under one event id; a
provider that announces a paid invoice by two events has its period counted twice.

## Main results

* `LedgerSound.next`: one step keeps the streak within the periods counted.
* `paid_period_counts_once`: along every run of webhooks and other writers, each period is counted
  once and the fallback is earned by distinct periods only.
-/

namespace CopyLocker.Worker

open Foundation Run Server Option List

/-! ### Counted periods -/

/-- The delivery of an event to the subscription of a row. -/
def BillingEvent.delivery (e : BillingEvent) (event : SubscriptionEvent) (dunningSecs : ℤ)
    (fallback : Option PerpetualFallback) : Delivery :=
  ⟨e.eventId, event, fallback, e.eventTs, dunningSecs⟩

/-- The period that a step adds to the streak of a subscription: a renewal of it that is processed,
was not recorded before, and is neither stale nor for an ended subscription. -/
def countedPeriod (provider : BillingProvider) (externalId : String) (db : Database) :
    DatabaseStep → Option (ℤ × ℤ)
  | .billing e =>
    match e.kind, db.subscriptionOf provider externalId with
    | .renewed periodStart periodEnd, some row =>
      if e.provider = provider ∧ e.externalId = externalId ∧ db.recorded e = false ∧
          (process db e).isSome = true ∧ row.updatedAt ≤ e.eventTs ∧
          row.state.isTerminal = false then
        some (periodStart, periodEnd)
      else none
    | _, _ => none
  | _ => none

/-- The database with the periods counted so far for one subscription. -/
structure Ledger where
  database : Database
  periods : List (ℤ × ℤ)

section Ledger

variable (provider : BillingProvider) (externalId : String)

/-- A step, with the period that it counts. -/
def Ledger.step (L : Ledger) (step : DatabaseStep) : Ledger where
  database := databaseStep L.database step
  periods := L.periods ++ (countedPeriod provider externalId L.database step).toList

/-- The periods counted along a run. -/
def paidPeriods (db : Database) (steps : List DatabaseStep) : List (ℤ × ℤ) :=
  (exec (Ledger.step provider externalId) ⟨db, []⟩ steps).periods

theorem database_exec_ledger (L : Ledger) (steps : List DatabaseStep) :
    (exec (Ledger.step provider externalId) L steps).database =
      exec databaseStep L.database steps := by
  induction steps generalizing L with
  | nil => rfl
  | cons step steps ih => exact ih (L.step provider externalId step)

/-- The event id and the period of a step that announces a paid period of the subscription. -/
def announcement : DatabaseStep → Option (String × ℤ × ℤ)
  | .billing e =>
    match e.kind with
    | .renewed periodStart periodEnd =>
      if e.provider = provider ∧ e.externalId = externalId then
        some (e.eventId, periodStart, periodEnd)
      else none
    | _ => none
  | _ => none

/-- Equal periods of the subscription come under one event id. -/
def AnnouncedOnce (steps : List DatabaseStep) : Prop :=
  ∀ a ∈ steps.filterMap (announcement provider externalId),
    ∀ a' ∈ steps.filterMap (announcement provider externalId), a'.2 = a.2 → a'.1 = a.1

instance : DecidablePred (AnnouncedOnce provider externalId) := fun _ =>
  inferInstanceAs (Decidable (∀ a ∈ _, ∀ a' ∈ _, _))

end Ledger

/-- The months of a list of periods. -/
def monthsOf (periods : List (ℤ × ℤ)) : ℕ := (periods.map fun p => paidMonths p.1 p.2).sum

/-- The months of a list of periods, each of them once. -/
def distinctMonths (periods : List (ℤ × ℤ)) : ℕ := monthsOf periods.dedup

theorem monthsOf_append (periods periods' : List (ℤ × ℤ)) :
    monthsOf (periods ++ periods') = monthsOf periods + monthsOf periods' := by
  simp [monthsOf]

variable {provider : BillingProvider} {externalId : String}

variable {db : Database} {period : ℤ × ℤ}

/-- What a counted period says about its event. -/
theorem countedPeriod_spec {step : DatabaseStep}
    (h : countedPeriod provider externalId db step = some period) :
    ∃ e db', step = .billing e ∧ e.kind = .renewed period.1 period.2 ∧ e.provider = provider ∧
      e.externalId = externalId ∧ db.recorded e = false ∧ process db e = some db' := by
  unfold countedPeriod at h
  split at h
  next e =>
    split at h
    next periodStart periodEnd row hkind hrow =>
      split_ifs at h with hcounted
      obtain ⟨hprovider, hexternal, hrecorded, hprocessed, -, -⟩ := hcounted
      obtain ⟨db', hdb'⟩ := isSome_iff_exists.1 hprocessed
      cases h
      exact ⟨e, db', rfl, hkind, hprovider, hexternal, hrecorded, hdb'⟩
    · cases h
  · cases h

theorem renewed_of_isRenewal {kind : BillingEventKind} {event : SubscriptionEvent}
    (hevent : kind.subscriptionEvent = some event) (hrenewal : event.isRenewal) :
    ∃ periodStart periodEnd, kind = .renewed periodStart periodEnd ∧
      event = .renewed periodStart periodEnd := by
  cases kind with
  | renewed periodStart periodEnd =>
    cases hevent
    exact ⟨periodStart, periodEnd, rfl, rfl⟩
  | started => cases hevent
  | _ =>
    cases hevent
    cases hrenewal

/-- The periods counted so far are distinct, each of them was announced by a recorded event, and
they cover the streak and the fallback that the row of the subscription holds. -/
structure LedgerSound (provider : BillingProvider) (externalId : String)
    (steps : List DatabaseStep) (L : Ledger) : Prop where
  nodup : L.periods.Nodup
  announced : ∀ period ∈ L.periods, ∃ e, .billing e ∈ steps ∧ e.provider = provider ∧
    e.externalId = externalId ∧ e.kind = .renewed period.1 period.2 ∧
    L.database.recorded e = true
  streak : ∀ row, L.database.subscriptionOf provider externalId = some row →
    row.continuousPaidMonths ≤ monthsOf L.periods
  earned : ∀ row dunningSecs fallback, L.database.subscriptionOf provider externalId = some row →
    L.database.terms row.licenseId = some (dunningSecs, some fallback) →
    row.fallbackEarnedAt.isSome = true → fallback.afterMonths ≤ monthsOf L.periods

section Step

variable {steps : List DatabaseStep} {L : Ledger} {step : DatabaseStep}

private theorem mem_announcements {e : BillingEvent} (he : .billing e ∈ steps)
    (hkind : e.kind = .renewed period.1 period.2) (hprovider : e.provider = provider)
    (hexternal : e.externalId = externalId) :
    (e.eventId, period) ∈ steps.filterMap (announcement provider externalId) := by
  refine mem_filterMap.2 ⟨.billing e, he, ?_⟩
  simp [announcement, hkind, hprovider, hexternal]

variable (h : LedgerSound provider externalId steps L)

include h

/-- A period that is counted was not counted before. -/
theorem LedgerSound.not_mem (hone : AnnouncedOnce provider externalId steps) (hstep : step ∈ steps)
    (hcounted : countedPeriod provider externalId L.database step = some period) :
    period ∉ L.periods := by
  intro hmem
  obtain ⟨e, db', rfl, hkind, hprovider, hexternal, hrecorded, -⟩ := countedPeriod_spec hcounted
  obtain ⟨e', he', hprovider', hexternal', hkind', hrecorded'⟩ := h.announced period hmem
  have hid : e'.eventId = e.eventId :=
    hone (e.eventId, period) (mem_announcements hstep hkind hprovider hexternal)
      (e'.eventId, period) (mem_announcements he' hkind' hprovider' hexternal') rfl
  have hrow : e'.row = e.row := by
    simp [BillingEvent.row, hprovider, hprovider', hid]
  rw [Database.recorded, hrow] at hrecorded'
  rw [Database.recorded, hrecorded'] at hrecorded
  cases hrecorded

theorem LedgerSound.announced_step (hstep : step ∈ steps) :
    ∀ period ∈ (L.step provider externalId step).periods, ∃ e, .billing e ∈ steps ∧
      e.provider = provider ∧ e.externalId = externalId ∧ e.kind = .renewed period.1 period.2 ∧
      (L.step provider externalId step).database.recorded e := by
  intro period hmem
  rcases mem_append.1 hmem with hold | hnew
  · obtain ⟨e, he, hprovider, hexternal, hkind, hrecorded⟩ := h.announced period hold
    exact ⟨e, he, hprovider, hexternal, hkind, recorded_databaseStep hrecorded step⟩
  · obtain ⟨e, db', rfl, hkind, hprovider, hexternal, -, hprocess⟩ :=
      countedPeriod_spec (mem_toList.1 hnew)
    refine ⟨e, hstep, hprovider, hexternal, hkind, ?_⟩
    rw [Ledger.step, databaseStep, hprocess, getD_some, recorded_process hprocess]
    simp

/-- The row of the subscription after a step: its streak and its fallback are covered by the
periods counted before and by the one that the step counts. -/
theorem LedgerSound.row_step {row : SubscriptionRow}
    (hrow : (databaseStep L.database step).subscriptionOf provider externalId = some row) :
    row.continuousPaidMonths ≤
        monthsOf (L.periods ++ (countedPeriod provider externalId L.database step).toList) ∧
      ∀ dunningSecs fallback,
        (databaseStep L.database step).terms row.licenseId = some (dunningSecs, some fallback) →
        row.fallbackEarnedAt.isSome → fallback.afterMonths ≤
          monthsOf (L.periods ++ (countedPeriod provider externalId L.database step).toList) := by
  have hgrows : monthsOf L.periods ≤
      monthsOf (L.periods ++ (countedPeriod provider externalId L.database step).toList) := by
    rw [monthsOf_append]
    exact Nat.le_add_right _ _
  simp only [terms_databaseStep]
  have hcase := rowStep provider externalId L.database step
  rw [hrow] at hcase
  generalize hafter : some row = after at hcase
  cases hcase with
  | keeps =>
    exact ⟨(h.streak row hafter.symm).trans hgrows, fun dunningSecs fallback hterms hearned =>
      (h.earned row dunningSecs fallback hafter.symm hterms hearned).trans hgrows⟩
  | starts hkind =>
    cases hafter
    exact ⟨Nat.zero_le _, fun _ _ _ hearned => by cases hearned⟩
  | settles hrow₀ =>
    cases hafter
    exact ⟨(h.streak _ hrow₀).trans hgrows, fun _ _ _ hearned => by cases hearned⟩
  | @moves e event row₀ dunningSecs fallback hprovider hexternal hevent hrow₀ hrecorded hprocessed
      hterms₀ =>
    cases hafter
    have hstreak := h.streak row₀ hrow₀
    by_cases hrenewal : (e.delivery event dunningSecs fallback).Takes row₀.toSubscription ∧
        event.isRenewal
    · obtain ⟨periodStart, periodEnd, hkind, rfl⟩ := renewed_of_isRenewal hevent hrenewal.2
      obtain ⟨hmonths, hearned⟩ := deliver_of_renewal hrenewal.1 rfl
      have hcounted : countedPeriod provider externalId L.database (.billing e) =
          some (periodStart, periodEnd) := by
        obtain ⟨-, hsecurity | ⟨hfresh, hopen⟩⟩ := hrenewal.1
        · cases hsecurity
        · simp only [countedPeriod, hkind, hrow₀]
          exact if_pos ⟨hprovider, hexternal, hrecorded, hprocessed, hfresh, hopen⟩
      have htotal : row₀.continuousPaidMonths + paidMonths periodStart periodEnd ≤
          monthsOf (L.periods ++
            (countedPeriod provider externalId L.database (.billing e)).toList) := by
        rw [hcounted, monthsOf_append]
        exact Nat.add_le_add hstreak (by simp [monthsOf])
      refine ⟨hmonths.trans htotal, fun dunningSecs' fallback' hterms hsome => ?_⟩
      rcases hearned hsome with hbefore | hvests
      · exact (h.earned row₀ dunningSecs' fallback' hrow₀ hterms hbefore).trans hgrows
      · cases hterms₀.symm.trans hterms
        exact ((of_decide_eq_true hvests).trans hmonths).trans htotal
    · obtain ⟨-, hmonths, hearned⟩ := deliver_of_not_renewal hrenewal
      refine ⟨(hmonths.trans hstreak).trans hgrows, fun dunningSecs' fallback' hterms hsome => ?_⟩
      exact (h.earned row₀ dunningSecs' fallback' hrow₀ hterms (hearned hsome)).trans hgrows

/-- One more step. -/
theorem LedgerSound.next (hone : AnnouncedOnce provider externalId steps) (hstep : step ∈ steps) :
    LedgerSound provider externalId steps (L.step provider externalId step) where
  nodup := by
    unfold Ledger.step
    cases hcounted : countedPeriod provider externalId L.database step with
    | none => simpa using h.nodup
    | some period =>
      rw [toList_some, ← concat_eq_append]
      exact h.nodup.concat (h.not_mem hone hstep hcounted)
  announced := h.announced_step hstep
  streak row hrow := (h.row_step hrow).1
  earned row dunningSecs fallback hrow hterms hearned :=
    (h.row_step hrow).2 dunningSecs fallback hterms hearned

end Step

private theorem ledgerSound_start (hfresh : db.subscriptionOf provider externalId = none)
    (steps : List DatabaseStep) :
    LedgerSound provider externalId steps ⟨db, []⟩ where
  nodup := nodup_nil
  announced _ h := absurd h not_mem_nil
  streak row hrow := by
    rw [hfresh] at hrow
    cases hrow
  earned row _ _ hrow := by
    rw [hfresh] at hrow
    cases hrow

theorem ledgerSound_exec {steps : List DatabaseStep}
    (hfresh : db.subscriptionOf provider externalId = none)
    (hone : AnnouncedOnce provider externalId steps) :
    LedgerSound provider externalId steps
      (exec (Ledger.step provider externalId) ⟨db, []⟩ steps) := by
  have hmem : Along (Ledger.step provider externalId) (fun _ step => step ∈ steps) ⟨db, []⟩
      steps := by
    rw [along_iff_forall_split]
    rintro pre step post rfl
    simp
  exact exec_induction_along (fun L step hL hstep => hL.next hone hstep)
    (ledgerSound_start hfresh steps) hmem

/-! ### Webhooks -/

/-- A webhook of a provider, or a step of another writer. -/
inductive BillingInput
  | webhook (provider : BillingProvider) (body : Json)
  | writer (step : DatabaseStep)

/-- The steps of the database: a webhook that is accepted is processed by the consumer of the
queue. A repeated delivery is a repeated input. -/
def billingSteps (inputs : List BillingInput) : List DatabaseStep :=
  inputs.filterMap fun
    | .webhook provider body => (accept provider body).map .billing
    | .writer step => some step

/-- Along every run of webhooks and other writers in which equal periods of a subscription come
under one event id, no period is counted twice: the streak is covered by the months of distinct
paid periods, and so are the months after which the fallback is earned. -/
theorem paid_period_counts_once {db : Database} {inputs : List BillingInput}
    (hfresh : db.subscriptionOf provider externalId = none)
    (hone : AnnouncedOnce provider externalId (billingSteps inputs)) :
    (paidPeriods provider externalId db (billingSteps inputs)).Nodup ∧
      ∀ row, (exec databaseStep db (billingSteps inputs)).subscriptionOf provider externalId =
          some row →
        row.continuousPaidMonths ≤
            distinctMonths (paidPeriods provider externalId db (billingSteps inputs)) ∧
          ∀ dunningSecs fallback, (exec databaseStep db (billingSteps inputs)).terms row.licenseId =
              some (dunningSecs, some fallback) →
            row.fallbackEarnedAt.isSome = true → fallback.afterMonths ≤
              distinctMonths (paidPeriods provider externalId db (billingSteps inputs)) := by
  have hsound := ledgerSound_exec hfresh hone
  have hnodup : (paidPeriods provider externalId db (billingSteps inputs)).Nodup := hsound.nodup
  have hdistinct : distinctMonths (paidPeriods provider externalId db (billingSteps inputs)) =
      monthsOf (paidPeriods provider externalId db (billingSteps inputs)) := by
    rw [distinctMonths, hnodup.dedup]
  have hdatabase := database_exec_ledger provider externalId ⟨db, []⟩ (billingSteps inputs)
  rw [hdistinct, ← hdatabase]
  refine ⟨hnodup, fun row hrow => ⟨hsound.streak row hrow, ?_⟩⟩
  intro dunningSecs fallback hterms hearned
  exact hsound.earned row dunningSecs fallback hrow hterms hearned

/-- A license whose monthly subscription earns a perpetual fallback after two months. -/
def fallbackDatabase : Database where
  licenses := ⟨[{ sampleLicense with
    validity := some (.subscription 2592000 86400 (some ⟨2, .earnedAt⟩)) }], by simp⟩
  subscriptions := .empty
  billingEvents := .empty
  machines := .empty

/-- A webhook of Stripe about the subscription and its period from `start` to `stop`. -/
def stripeWebhook (eventType eventId : String) (created start stop : ℤ) : BillingInput :=
  .webhook .stripe (.object
    [ ("id", .string eventId), ("created", .integer created), ("type", .string eventType),
      ("data", .object [("object", .object
        [ ("subscription", .string "sub_1"), ("period_start", .integer start),
          ("period_end", .integer stop),
          ("metadata", .object
            [("copylocker_license_id", .string "00000000000000000000000000000001")]) ])]) ])

/-- The subscription starts, and its first invoice is announced by `invoice.paid`. -/
def paidOnce : List BillingInput :=
  [ stripeWebhook "customer.subscription.created" "evt_1" 1000 1000 2593000,
    stripeWebhook "invoice.paid" "evt_2" 1001 1000 2593000 ]

/-- The same invoice is announced again, by `invoice.payment_succeeded`. -/
def paidTwice : List BillingInput :=
  paidOnce ++ [stripeWebhook "invoice.payment_succeeded" "evt_3" 1001 1000 2593000]

/-- A webhook that is delivered twice counts once: the streak is within the one paid month. -/
theorem repeated_webhook_counts_once :
    (paidPeriods .stripe "sub_1" fallbackDatabase (billingSteps (paidOnce ++ paidOnce))).Nodup ∧
      ∀ row, (exec databaseStep fallbackDatabase
          (billingSteps (paidOnce ++ paidOnce))).subscriptionOf .stripe "sub_1" = some row →
        row.continuousPaidMonths ≤ 1 := by
  have hone : AnnouncedOnce .stripe "sub_1" (billingSteps (paidOnce ++ paidOnce)) := by
    decide +kernel
  have hfresh : fallbackDatabase.subscriptionOf .stripe "sub_1" = none := rfl
  obtain ⟨hnodup, hrow⟩ := paid_period_counts_once hfresh hone
  refine ⟨hnodup, fun row h => (hrow row h).1.trans ?_⟩
  decide +kernel

/-- One paid month is counted twice and earns the fallback that takes two. -/
theorem invoice_announced_twice_earns_fallback :
    distinctMonths (paidPeriods .stripe "sub_1" fallbackDatabase (billingSteps paidTwice)) = 1 ∧
      ((exec databaseStep fallbackDatabase (billingSteps paidTwice)).subscriptionOf .stripe
        "sub_1").map (fun row => (row.continuousPaidMonths, row.fallbackEarnedAt)) =
          some (2, some 1001) := by
  decide +kernel

end CopyLocker.Worker
