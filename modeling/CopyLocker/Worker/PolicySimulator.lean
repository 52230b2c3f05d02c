import CopyLocker.Worker.Authorization
import CopyLocker.Worker.PaidPeriods
import Mathlib.Order.MinMax

/-!
# The policy simulator and the live billing path

The simulator (`simulator.rs`) replays a scenario against a policy: it keeps a subscription, the
version scope and the expiry that a credential would have. The live path writes the same two values
into the license row when it processes the provider's events. Both drive the same subscription
machine; this module runs them side by side.

The timeline of a simulation is text for the operator and left out.

## Main results

* `Agrees.next`: one step keeps the rows and the simulation together.
* `billing_agrees_with_simulator`: the license row follows the simulator as long as no subscription
  is started again or ends in its fallback.
-/

namespace CopyLocker.Worker

open Foundation Run Saturating Server Subscription List Database
open Router (Policy)

/-! ### The simulator -/

/-- Something that happens to a license during a scenario. -/
inductive ScenarioStep
  | activate (time : ℤ)
  | renew (time : ℤ)
  | paymentFails (time : ℤ)
  | dunningLapses (time : ℤ)
  | cancel (time : ℤ)
  | periodEnds (time : ℤ)
  | runRelease (time : ℤ) (releaseId : String)
  deriving DecidableEq

/-- When the step happens. -/
def ScenarioStep.time : ScenarioStep → ℤ
  | activate time | renew time | paymentFails time | dunningLapses time | cancel time
  | periodEnds time | runRelease time _ => time

/-- The variables of a simulation. -/
structure Simulation where
  subscription : Option Subscription
  versionScope : VersionScope
  credentialExpiry : Option ℤ
  eventSeq : ℕ
  deriving DecidableEq

variable (policy : Policy)

/-- Nothing has happened. -/
def Simulation.new : Simulation where
  subscription := none
  versionScope := policy.versionScope
  credentialExpiry := none
  eventSeq := 0

/-- The period, the dunning grace and the fallback of a policy; zero for other policies. -/
def Router.Policy.terms : ℤ × ℤ × Option PerpetualFallback :=
  match policy.validity with
  | .subscription periodSecs dunningGraceSecs fallback => (periodSecs, dunningGraceSecs, fallback)
  | _ => (0, 0, none)

namespace Simulation

/-- Apply an event to the subscription, if there is one, under the next event id; the flag says
whether the event counted. -/
def apply (s : Simulation) (event : SubscriptionEvent) (time : ℤ) : Simulation × Bool :=
  match s.subscription with
  | none => (s, false)
  | some subscription =>
    let (_, dunningSecs, fallback) := policy.terms
    let (next, outcome) := subscription.apply ("sim_" ++ toString (s.eventSeq + 1)) event fallback
      time dunningSecs
    ({ s with subscription := some next, eventSeq := s.eventSeq + 1 }, outcome.applied)

/-- The start of a scenario; `resolves` says whether the entitlements of the policy resolve. -/
def activate (resolves : ℤ → Bool) (s : Simulation) (time : ℤ) : Option Simulation :=
  if resolves time then
    some { s with
      credentialExpiry := policy.expiresAt time
      subscription :=
        if 0 < policy.terms.1 then
          some (Subscription.new "sim" "sub_sim" time (time + policy.terms.1))
        else s.subscription }
  else none

/-- A renewal extends the credential by a period and the dunning grace. -/
def renew (s : Simulation) (time : ℤ) : Simulation :=
  let (periodSecs, dunningSecs, _) := policy.terms
  match s.apply policy (.renewed time (time + periodSecs)) time with
  | (s, true) =>
    { s with
      credentialExpiry := some (signedAdd 64 (signedAdd 64 time periodSecs) dunningSecs) }
  | (s, false) => s

/-- The period ends without a payment. -/
def periodEnds (s : Simulation) (time : ℤ) : Simulation :=
  let s := (s.apply policy .periodElapsed time).1
  match s.subscription with
  | none => s
  | some subscription =>
    if subscription.state = .perpetualFallback then
      { s with
        versionScope :=
          match subscription.fallbackVersionCutoff policy.terms.2.2 with
          | some cut => .releasedBefore cut
          | none => s.versionScope
        credentialExpiry := none }
    else s

/-- One step of a scenario; `none` when the entitlements do not resolve. -/
def step (resolves : ℤ → Bool) (s : Simulation) : ScenarioStep → Option Simulation
  | .activate time => s.activate policy resolves time
  | .renew time => some (s.renew policy time)
  | .paymentFails time => some (s.apply policy .paymentFailed time).1
  | .dunningLapses time => some (s.apply policy .dunningElapsed time).1
  | .cancel time => some (s.apply policy .cancelAtPeriodEnd time).1
  | .periodEnds time => some (s.periodEnds policy time)
  | .runRelease _ _ => some s

end Simulation

/-- Run a scenario against a policy. -/
def simulate (resolves : ℤ → Bool) (steps : List ScenarioStep) : Option Simulation :=
  steps.foldlM (fun s step => s.step policy resolves step) (Simulation.new policy)

/-! ### The live path -/

/-- The license whose subscription is followed, and the provider's name for the subscription. -/
structure Billed where
  licenseId : LicenseId
  provider : BillingProvider
  externalId : String
  deriving DecidableEq

variable (b : Billed)

/-- The kind of the provider's event for a step of a scenario. Running a release is no billing
event. -/
def ScenarioStep.kind (licenseId : LicenseId) : ScenarioStep → Option BillingEventKind
  | activate time =>
    some (.started licenseId time (time + policy.terms.1)
      (billingPeriod none time (time + policy.terms.1)))
  | renew time => some (.renewed time (time + policy.terms.1))
  | paymentFails _ => some .paymentFailed
  | dunningLapses _ => some .dunningLapsed
  | cancel _ => some .cancelAtPeriodEnd
  | periodEnds _ => some .periodEnded
  | runRelease _ _ => none

/-- The provider's event for a step, under the event id of the provider. -/
def ScenarioStep.event (step : ScenarioStep) (eventId : String) : Option BillingEvent :=
  (step.kind policy b.licenseId).map fun kind =>
    { provider := b.provider, eventId, eventTs := step.time, externalId := b.externalId, kind }

/-- The live path takes a step with its event id. -/
def liveStep (db : Database) (step : ScenarioStep × String) : Database :=
  match step.1.event policy b step.2 with
  | none => db
  | some e => databaseStep db (.billing e)

/-- The version scope that a license row grants under its policy. -/
def LicenseRow.scope (license : LicenseRow) : VersionScope :=
  match license.versionScopeOverride with
  | some cut => .releasedBefore cut
  | none => policy.versionScope

/-- The step ends the period of a subscription that is to end, whose fallback is earned. -/
def EndsInFallback (db : Database) (step : ScenarioStep × String) : Prop :=
  match step.1 with
  | .periodEnds time =>
    (db.subscriptionOf b.provider b.externalId).any (fun row =>
      (row.state == .canceling || row.state == .suspended) && row.fallbackEarnedAt.isSome &&
        decide (row.updatedAt ≤ time)) = true
  | _ => False

instance (b : Billed) : DecidableRel (EndsInFallback b) := fun db step => by
  unfold EndsInFallback
  split <;> infer_instance

/-- The step starts a subscription. -/
def ScenarioStep.starts : ScenarioStep → Bool
  | activate _ => true
  | _ => false

/-- The step starts a subscription that was started before. -/
def Restarts (db : Database) (step : ScenarioStep × String) : Prop :=
  step.1.starts = true ∧ (db.subscriptionOf b.provider b.externalId).isSome = true

instance (b : Billed) : DecidableRel (Restarts b) := fun _ _ => inferInstanceAs (Decidable (_ ∧ _))

/-- The instants that a step computes can be stored. -/
def ScenarioStep.Fits (step : ScenarioStep) : Prop :=
  0 ≤ step.time ∧ step.time + policy.terms.1 ≤ maxSafeInteger ∧
    isSafeInteger (step.time + policy.terms.2.1) = true ∧
    isSafeInteger (step.time + policy.terms.1 + policy.terms.2.1) = true

instance (policy : Policy) : DecidablePred (ScenarioStep.Fits policy) := fun _ =>
  inferInstanceAs (Decidable (_ ∧ _))

/-! ### Values that can be stored -/

theorem signedAdd_of_isSafeInteger {x y : ℤ} (h : isSafeInteger (x + y)) :
    signedAdd 64 x y = x + y := by
  rw [isSafeInteger_iff] at h
  simp only [signedAdd, clamp, signedMin, signedMax]
  omega

/-- The integers of a subscription can be stored. -/
structure Storable (s : Subscription) : Prop where
  start : isSafeInteger s.currentPeriodStart = true
  stop : isSafeInteger s.currentPeriodEnd = true
  months : isSafeInteger s.continuousPaidMonths = true
  updated : isSafeInteger s.updatedAt = true
  dunning : ∀ v ∈ s.dunningUntil, isSafeInteger v = true
  earned : ∀ v ∈ s.fallbackEarnedAt, isSafeInteger v = true
  canceled : ∀ v ∈ s.canceledAt, isSafeInteger v = true

theorem Storable.all_existingIntegers {s : Subscription} (h : Storable s) {expiry : Option ℤ}
    (hexpiry : ∀ v ∈ expiry, isSafeInteger v) :
    (existingIntegers s none expiry).all isSafeInteger := by
  have hoption {o : Option ℤ} (ho : ∀ v ∈ o, isSafeInteger v) :
      o.toList.all isSafeInteger := by
    rw [all_eq_true]
    exact fun v hv => ho v (Option.mem_toList.1 hv)
  simp [existingIntegers, h.start, h.stop, h.months, h.updated, hoption h.dunning, hoption h.earned,
    hoption h.canceled, hoption hexpiry]

section Storable

variable {s : Subscription} {event : SubscriptionEvent} {fallback : Option PerpetualFallback}
  {now dunningGraceSecs : ℤ}

theorem Storable.renew (h : Storable s) (hnow : isSafeInteger now) {start stop : ℤ}
    (hstart : isSafeInteger start) (hstop : isSafeInteger stop) :
    Storable (s.renew start stop fallback now) where
  start := hstart
  stop := hstop
  months := by
    have hle : unsignedAdd 32 s.continuousPaidMonths (paidMonths start stop) ≤ unsignedMax 32 :=
      min_le_left _ _
    simp only [unsignedMax] at hle
    rw [isSafeInteger_iff]
    change _ ∧ ((unsignedAdd 32 s.continuousPaidMonths (paidMonths start stop) : ℕ) : ℤ) ≤ _
    omega
  updated := h.updated
  dunning := by simp [Subscription.renew]
  earned := by
    simp only [Subscription.renew]
    split_ifs
    · simpa using hnow
    · exact h.earned
  canceled := h.canceled

/-- A transition stores the timestamp of its event, the end of the dunning window, and the period
that was paid. -/
theorem Storable.transition (h : Storable s) (hnow : isSafeInteger now)
    (hgrace : isSafeInteger (signedAdd 64 now dunningGraceSecs))
    (hperiod : ∀ p, event.period = some p → isSafeInteger p.1 ∧ isSafeInteger p.2) :
    Storable (s.transition event fallback now dunningGraceSecs) := by
  fun_cases s.transition event fallback now dunningGraceSecs with
  | case1 start stop => exact h.renew hnow (hperiod _ rfl).1 (hperiod _ rfl).2
  | case2 start stop => exact h.renew hnow (hperiod _ rfl).1 (hperiod _ rfl).2
  | case3 => exact { h with dunning := by simpa using hgrace }
  | case5 | case16 => exact { h with dunning := by simp }
  | case7 => exact { h with canceled := by simpa using hnow }
  | case9 => exact { h with canceled := by simp }
  | case11 => exact { h with }
  | case13 => exact { h with months := rfl }
  | case15 => exact { h with earned := by simp }
  | _ => exact h

theorem Storable.deliver {d : Delivery} (h : Storable s) (hnow : isSafeInteger d.now)
    (hgrace : isSafeInteger (signedAdd 64 d.now d.dunningGraceSecs))
    (hperiod : ∀ p, d.event.period = some p → isSafeInteger p.1 ∧ isSafeInteger p.2) :
    Storable (s.deliver d) := by
  refine deliver_of (fun _ => ?_) fun _ _ => { h with }
  have hnext : Storable (s.transition d.event d.fallback d.now d.dunningGraceSecs) :=
    h.transition hnow hgrace hperiod
  refine { hnext with updated := ?_ }
  change isSafeInteger (max s.updatedAt d.now)
  rcases max_choice s.updatedAt d.now with hmax | hmax <;> rw [hmax]
  exacts [h.updated, hnow]

end Storable

/-! ### One step of the simulator -/

/-- The delivery of an event to the subscription of a simulation. -/
def Simulation.delivery (s : Simulation) (event : SubscriptionEvent) (time : ℤ) : Delivery :=
  ⟨"sim_" ++ toString (s.eventSeq + 1), event, policy.terms.2.2, time, policy.terms.2.1⟩

variable {policy b} {resolves : ℤ → Bool} {db : Database} {s s' : Simulation}
  {row : SubscriptionRow} {license : LicenseRow} {subscription : Subscription}
  {step : ScenarioStep} {eventId : String} {kind : BillingEventKind} {event : SubscriptionEvent}

theorem Simulation.apply_eq (h : s.subscription = some subscription) (event : SubscriptionEvent)
    (time : ℤ) :
    s.apply policy event time = ({ s with
          subscription := some (subscription.deliver (s.delivery policy event time))
          eventSeq := s.eventSeq + 1 },
        (subscription.outcome (s.delivery policy event time)).applied) := by
  unfold apply
  rw [h]
  rfl

/-- A step that is an event of the subscription and does not end in the fallback: the expiry moves
with a renewal that counts. -/
theorem Simulation.step_of_event (hsub : s.subscription = some subscription)
    (hkind : step.kind policy b.licenseId = some kind)
    (hevent : kind.subscriptionEvent = some event) (hstate :
      (subscription.deliver (s.delivery policy event step.time)).state ≠ .perpetualFallback) :
    s.step policy resolves step = some { s with
      subscription := some (subscription.deliver (s.delivery policy event step.time))
      eventSeq := s.eventSeq + 1
      credentialExpiry :=
        if (s.delivery policy event step.time).Takes subscription ∧ event.isRenewal then
          some (signedAdd 64 (signedAdd 64 step.time policy.terms.1) policy.terms.2.1)
        else s.credentialExpiry } := by
  have hquiet (hrenewal : event.isRenewal = false) {expiry : Option ℤ} :
      (if (s.delivery policy event step.time).Takes subscription ∧ event.isRenewal then
        expiry else s.credentialExpiry) = s.credentialExpiry :=
    if_neg fun h => Bool.false_ne_true (hrenewal.symm.trans h.2)
  cases step with
  | activate time =>
    cases hkind
    cases hevent
  | runRelease time releaseId => cases hkind
  | renew time =>
    cases hkind
    cases hevent
    simp only [step, renew, apply_eq hsub, ScenarioStep.time]
    by_cases htakes : (s.delivery policy (.renewed time (time + policy.terms.1)) time).Takes
        subscription
    · simp [applied_outcome_iff.2 htakes, htakes, SubscriptionEvent.isRenewal]
    · simp [Bool.eq_false_iff.2 (mt applied_outcome_iff.1 htakes), htakes]
  | periodEnds time =>
    cases hkind
    cases hevent
    rw [hquiet rfl]
    simp only [step, periodEnds, apply_eq hsub]
    exact congrArg some (if_neg hstate)
  | paymentFails time | dunningLapses time | cancel time =>
    cases hkind
    cases hevent
    rw [hquiet rfl]
    simp only [step, apply_eq hsub]
    rfl

/-! ### Side by side -/

theorem isValid_event (hkind : step.kind policy b.licenseId = some kind)
    (hperiod : 0 < policy.terms.1) (hexternal : validIdentifier b.externalId 200)
    (hid : validIdentifier eventId 200) (hfits : step.Fits policy) :
    ({ provider := b.provider, eventId, eventTs := step.time, externalId := b.externalId, kind } :
      BillingEvent).isValid := by
  obtain ⟨htime, hstop, -, -⟩ := hfits
  have hvalidPeriod : validPeriod step.time (step.time + policy.terms.1) := by
    simp only [validPeriod, Bool.and_eq_true, decide_eq_true_eq]
    omega
  have hle : step.time ≤ maxSafeInteger := by omega
  simp only [BillingEvent.isValid, hid, hexternal, htime, hle, decide_true, Bool.true_and]
  cases step with
  | activate time =>
    cases hkind
    have hname : validIdentifier (billingPeriod none time (time + policy.terms.1)) 32 := by
      unfold billingPeriod
      split_ifs
      · decide
      · decide
    exact Bool.and_eq_true_iff.2 ⟨hvalidPeriod, hname⟩
  | renew time =>
    cases hkind
    exact hvalidPeriod
  | runRelease time releaseId => cases hkind
  | _ =>
    cases hkind
    rfl

/-- The rows of a subscription that was started and has not ended in its fallback, and the
simulation of it. -/
structure Agrees (policy : Policy) (b : Billed) (db : Database) (s : Simulation)
    (row : SubscriptionRow) (license : LicenseRow) (subscription : Subscription) : Prop where
  row_found : db.subscriptionOf b.provider b.externalId = some row
  row_license : row.licenseId = b.licenseId
  no_review : row.refundObserveUntil = none
  running : row.state ≠ .perpetualFallback
  storable : Storable row.toSubscription
  license_found : db.licenses.find b.licenseId = some license
  validity : license.validity = some policy.validity
  no_override : license.versionScopeOverride = none
  expiry : license.expiresAt = some (signedAdd 64 row.currentPeriodEnd policy.terms.2.1)
  expiry_storable : isSafeInteger (signedAdd 64 row.currentPeriodEnd policy.terms.2.1) = true
  simulated : s.subscription = some subscription
  core : subscription.core = row.toSubscription.core
  ids : ∀ eventId ∈ subscription.processedEvents, ∃ k ≤ s.eventSeq, eventId = "sim_" ++ toString k
  scope : s.versionScope = policy.versionScope
  sim_expiry : s.credentialExpiry = license.expiresAt

/-- The simulation agrees with the rows of the subscription. -/
def Together (policy : Policy) (b : Billed) (db : Database) (s : Simulation) : Prop :=
  ∃ row license subscription, Agrees policy b db s row license subscription

/-- A policy with a period is a subscription. -/
theorem subscriptionTerms_of_pos (h : 0 < policy.terms.1) :
    subscriptionTerms (some policy.validity) = some policy.terms.2 := by
  unfold Policy.terms at h ⊢
  cases hvalidity : policy.validity with
  | subscription periodSecs dunningSecs fallback => rfl
  | _ =>
    rw [hvalidity] at h
    exact absurd h (lt_irrefl 0)

theorem expiresAt_of_pos (h : 0 < policy.terms.1) (time : ℤ) :
    policy.expiresAt time =
      some (signedAdd 64 (signedAdd 64 time policy.terms.1) policy.terms.2.1) := by
  unfold Policy.terms at h ⊢
  unfold Policy.expiresAt
  cases hvalidity : policy.validity with
  | subscription periodSecs dunningSecs fallback => rfl
  | _ =>
    rw [hvalidity] at h
    exact absurd h (lt_irrefl 0)

theorem Agrees.fresh (h : Agrees policy b db s row license subscription) :
    "sim_" ++ toString (s.eventSeq + 1) ∉ subscription.processedEvents := by
  intro hmem
  obtain ⟨k, hk, heq⟩ := h.ids _ hmem
  have hseq := congrArg (fun id : String => Nat.ofDigitChars 10 id.toList 0)
    ((String.append_right_inj _).1 heq)
  simp only [Nat.toString_eq_repr, Nat.toList_repr, Nat.ofDigitChars_ten_toDigits] at hseq
  omega

section Event

variable (hkind : step.kind policy b.licenseId = some kind)
  (hevent : kind.subscriptionEvent = some event) {d : Delivery} (hd : d.event = event)

include hkind

include hevent

theorem period_of_event {p : ℤ × ℤ} (hp : event.period = some p) :
    p = (step.time, step.time + policy.terms.1) := by
  cases step with
  | runRelease time releaseId => cases hkind
  | activate time =>
    cases hkind
    cases hevent
  | renew time =>
    cases hkind
    cases hevent
    cases hp
    rfl
  | _ =>
    cases hkind
    cases hevent
    cases hp

include hd

theorem currentPeriodEnd_of_event (found : Subscription) :
    (found.deliver d).currentPeriodEnd =
      if d.Takes found ∧ event.isRenewal then step.time + policy.terms.1
      else found.currentPeriodEnd := by
  split_ifs with hrenewal
  · obtain ⟨p, hp⟩ := SubscriptionEvent.isRenewal_iff.1 hrenewal.2
    obtain rfl := period_of_event hkind hevent hp
    exact (deliver_renewed hrenewal.1 (by rw [hd, hp])).2.1
  · rw [← hd] at hrenewal
    exact (deliver_of_not_renewal hrenewal).1.2

theorem endsInFallback_of_event (hrow : db.subscriptionOf b.provider b.externalId = some row)
    (hrunning : row.state ≠ .perpetualFallback) (hnow : d.now = step.time)
    (hstate : (row.toSubscription.deliver d).state = .perpetualFallback) :
    EndsInFallback b db (step, eventId) := by
  obtain ⟨htakes, helapsed, hending, hearned⟩ := endsInFallback_of_state hrunning hstate
  obtain rfl : event = .periodElapsed := hd.symm.trans helapsed
  cases step with
  | periodEnds time =>
    have hlate : row.updatedAt ≤ time := by
      have hcounts := htakes.2.resolve_left (by rw [helapsed]; exact Bool.false_ne_true)
      exact hcounts.1.trans hnow.le
    have hending' : row.state = .canceling ∨ row.state = .suspended := hending
    have hearned' : row.fallbackEarnedAt.isSome := hearned
    simp [EndsInFallback, hrow, hlate, hending', hearned']
  | runRelease time releaseId => cases hkind
  | _ =>
    cases hkind
    cases hevent

/-- The license keeps or moves its expiry so that it follows the period of the subscription. -/
theorem renewedExpiry_or (found : Subscription) (dunningSecs : ℤ) :
    (renewedExpiry kind (found.deliver d) dunningSecs).or
        (some (signedAdd 64 found.currentPeriodEnd dunningSecs)) =
      some (signedAdd 64 (found.deliver d).currentPeriodEnd dunningSecs) := by
  unfold renewedExpiry
  split_ifs with hrenewed
  · rfl
  · rw [Option.none_or, (deliver_of_not_renewal _).1.2]
    rintro ⟨htakes, hrenewal⟩
    obtain ⟨periodStart, periodEnd, rfl, hevent'⟩ := renewed_of_isRenewal hevent (hd ▸ hrenewal)
    obtain ⟨-, -, hactive | hcanceling⟩ := deliver_renewed htakes (by rw [hd, hevent']; rfl)
    · exact hrenewed ⟨rfl, .inl hactive⟩
    · exact hrenewed ⟨rfl, .inr (.inr hcanceling)⟩

end Event

theorem ScenarioStep.Fits.storable (hfits : step.Fits policy) (hperiod : 0 < policy.terms.1) :
    isSafeInteger step.time ∧ isSafeInteger (step.time + policy.terms.1) ∧
      isSafeInteger (signedAdd 64 step.time policy.terms.2.1) ∧
      isSafeInteger (signedAdd 64 (step.time + policy.terms.1) policy.terms.2.1) := by
  obtain ⟨htime, hstop, hgrace, hexpiry⟩ := hfits
  rw [signedAdd_of_isSafeInteger hgrace, signedAdd_of_isSafeInteger hexpiry]
  have hbound : maxSafeInteger = 9007199254740991 := rfl
  refine ⟨isSafeInteger_iff.2 ?_, isSafeInteger_iff.2 ?_, hgrace, hexpiry⟩
  · omega
  · omega

section Delivered

variable (hperiod : 0 < policy.terms.1) (hexternal : validIdentifier b.externalId 200 = true)
  (hid : validIdentifier eventId 200 = true) (hfits : step.Fits policy)
  (hfresh : db.billingEvents.find ⟨b.provider, eventId⟩ = none)
  (hkind : step.kind policy b.licenseId = some kind)
  (hevent : kind.subscriptionEvent = some event)
  (h : Agrees policy b db s row license subscription)

include hperiod hexternal hid hfits hfresh hkind hevent h

/-- The live path takes an event that does not end in the fallback: it stores the subscription as
the machine moves it, and the expiry of the license follows the period. -/
theorem Agrees.live_step {next : Subscription} (hnext : next = row.toSubscription.deliver
      ⟨eventId, event, policy.terms.2.2, step.time, policy.terms.2.1⟩)
    (hrunning : next.state ≠ .perpetualFallback) (hstorable : Storable next)
    (hexpiry : isSafeInteger (signedAdd 64 next.currentPeriodEnd policy.terms.2.1)) :
    let db' := liveStep policy b db (step, eventId)
    db'.subscriptionOf b.provider b.externalId = some (row.store next none) ∧
      ∃ license', db'.licenses.find b.licenseId = some license' ∧
        license'.validity = license.validity ∧ license'.versionScopeOverride = none ∧
        license'.expiresAt = some (signedAdd 64 next.currentPeriodEnd policy.terms.2.1) := by
  let e : BillingEvent :=
    { provider := b.provider, eventId, eventTs := step.time, externalId := b.externalId, kind }
  have hlive : liveStep policy b db (step, eventId) = databaseStep db (.billing e) := by
    simp [liveStep, ScenarioStep.event, hkind, e]
  have hrecorded : db.recorded e = false := by
    simp [recorded, BillingEvent.row, e, hfresh]
  have hterms : db.terms row.licenseId = some policy.terms.2 := by
    rw [terms, h.row_license, h.license_found, Option.bind_some, h.validity,
      subscriptionTerms_of_pos hperiod]
  have hsubscription : nextSubscription row e event policy.terms.2.1 policy.terms.2.2 = next :=
    hnext.symm
  have hrefund : nextRefundObserveUntil row e = none := by
    rw [nextRefundObserveUntil, if_neg (by rintro rfl; cases step <;> cases hkind), h.no_review]
  have hsafe : (existingIntegers next none (renewedExpiry kind next policy.terms.2.1)).all
      isSafeInteger := by
    refine hstorable.all_existingIntegers fun v hv => ?_
    unfold renewedExpiry at hv
    split_ifs at hv
    · cases hv
      exact hexpiry
    · cases hv
  obtain ⟨db', hcommit⟩ := exists_commitExisting (e := e) hrecorded
    (by rw [hrefund, hsubscription]; exact hsafe)
  have hprocess : process db e = some db' :=
    (process_existing (isValid_event hkind hperiod hexternal hid hfits) hrecorded hevent
      h.row_found hterms).trans hcommit
  have hrow' := subscriptionOf_commitExisting hcommit h.row_found b.provider b.externalId
  rw [if_pos ⟨rfl, rfl⟩, hrefund, hsubscription] at hrow'
  have hlicense' := license_commitExisting hcommit
  simp only [h.row_license, h.license_found, Option.map_some, hsubscription, LicenseRow.write,
    licenseUpdate_expiry, h.expiry, h.no_override] at hlicense'
  intro db''
  obtain rfl : db'' = db' := by
    change liveStep policy b db (step, eventId) = db'
    rw [hlive, databaseStep, hprocess, Option.getD_some]
  refine ⟨hrow', _, hlicense', rfl, ?_, ?_⟩
  · -- only a fallback caps the version scope
    rw [licenseUpdate]
    split
    case h_4 hstate => exact absurd hstate hrunning
    all_goals rfl
  · rw [hnext]
    exact renewedExpiry_or hkind hevent rfl row.toSubscription policy.terms.2.1

theorem Agrees.step_of_event (hends : ¬ EndsInFallback b db (step, eventId))
    (hs' : s.step policy resolves step = some s') :
    Together policy b (liveStep policy b db (step, eventId)) s' := by
  obtain ⟨htime, hstop, hgrace, hstorable⟩ := hfits.storable hperiod
  let d : Delivery := ⟨eventId, event, policy.terms.2.2, step.time, policy.terms.2.1⟩
  -- both machines move alike
  obtain ⟨htakes, hcore⟩ := core_deliver h.core (d := d) not_mem_nil h.fresh
  have hrunning : (row.toSubscription.deliver d).state ≠ .perpetualFallback := fun hstate =>
    hends (endsInFallback_of_event hkind hevent rfl h.row_found h.running rfl hstate)
  have hnext : Storable (row.toSubscription.deliver d) := by
    refine h.storable.deliver htime hgrace fun p hp => ?_
    obtain rfl := period_of_event hkind hevent hp
    exact ⟨htime, hstop⟩
  have hend := currentPeriodEnd_of_event hkind hevent (d := d) rfl row.toSubscription
  have hexpiry : isSafeInteger
      (signedAdd 64 (row.toSubscription.deliver d).currentPeriodEnd policy.terms.2.1) := by
    rw [hend]
    split_ifs
    · exact hstorable
    · exact h.expiry_storable
  obtain ⟨hrow', license', hlicense', hvalidity, hoverride, hexpires⟩ :=
    h.live_step hperiod hexternal hid hfits hfresh hkind hevent rfl hrunning hnext hexpiry
  have hstate : (subscription.deliver (s.delivery policy event step.time)).state =
      (row.toSubscription.deliver d).state :=
    (congrArg state hcore :)
  rw [Simulation.step_of_event h.simulated hkind hevent (hstate.trans_ne hrunning)] at hs'
  cases hs'
  refine ⟨_, license', _,
    { row_found := hrow'
      row_license := h.row_license
      no_review := rfl
      running := hrunning
      storable := { hnext with }
      license_found := hlicense'
      validity := hvalidity.trans h.validity
      no_override := hoverride
      expiry := hexpires
      expiry_storable := hexpiry
      simulated := rfl
      core := hcore
      ids := ?_
      scope := h.scope
      sim_expiry := ?_ }⟩
  · intro other hmem
    rcases mem_processedEvents_deliver hmem with hold | rfl
    · obtain ⟨k, hk, rfl⟩ := h.ids other hold
      exact ⟨k, hk.trans (Nat.le_succ _), rfl⟩
    · exact ⟨s.eventSeq + 1, le_rfl, rfl⟩
  · have hpaid : ((s.delivery policy event step.time).Takes subscription ∧
        event.isRenewal) ↔ (d.Takes row.toSubscription ∧ event.isRenewal) :=
      and_congr_left fun _ => htakes
    rw [hexpires, hend, if_congr hpaid rfl rfl, signedAdd_of_isSafeInteger hstop, h.sim_expiry,
      h.expiry]
    split_ifs <;> rfl

omit hkind hevent in
/-- One more step of a scenario. -/
theorem Agrees.next (hrestarts : ¬ Restarts b db (step, eventId))
    (hends : ¬ EndsInFallback b db (step, eventId)) (hs' : s.step policy resolves step = some s') :
    Together policy b (liveStep policy b db (step, eventId)) s' := by
  cases step with
  | activate time => exact absurd ⟨rfl, by rw [h.row_found, Option.isSome_some]⟩ hrestarts
  | runRelease time releaseId =>
    cases hs'
    exact ⟨row, license, subscription, h⟩
  | _ => exact h.step_of_event hperiod hexternal hid hfits hfresh rfl rfl hends hs'

end Delivered

/-- Before the start: the license has no subscription and the simulation is new. -/
structure Unstarted (policy : Policy) (b : Billed) (db : Database) (license : LicenseRow) :
    Prop where
  no_row : db.subscriptionOf b.provider b.externalId = none
  no_subscription : db.subscriptions.find b.licenseId = none
  license_found : db.licenses.find b.licenseId = some license
  validity : license.validity = some policy.validity
  no_override : license.versionScopeOverride = none

/-- Before the start, only the start does something. -/
theorem Unstarted.quiet (h : Unstarted policy b db license) (hstarts : step.starts = false) :
    liveStep policy b db (step, eventId) = db ∧
      (Simulation.new policy).step policy resolves step = some (Simulation.new policy) := by
  have hlive {e : BillingEvent} (hprovider : e.provider = b.provider)
      (hexternal : e.externalId = b.externalId) (hstarts : e.kind.starts = none) :
      databaseStep db (.billing e) = db := by
    have hread : e.read db = none := by
      rw [BillingEvent.read, hstarts]
      simp only [readExisting, hprovider, hexternal, h.no_row]
      rfl
    rw [databaseStep, process_eq, hread, Option.bind_none]
    split_ifs <;> rfl
  cases step with
  | activate time => cases hstarts
  | runRelease time releaseId => exact ⟨rfl, rfl⟩
  | _ => exact ⟨hlive rfl rfl rfl, rfl⟩

theorem Unstarted.start (h : Unstarted policy b db license) (hperiod : 0 < policy.terms.1)
    (hexternal : validIdentifier b.externalId 200)
    (hid : validIdentifier eventId 200) {time : ℤ}
    (hfits : (ScenarioStep.activate time).Fits policy)
    (hfresh : db.billingEvents.find ⟨b.provider, eventId⟩ = none)
    (hs' : (Simulation.new policy).step policy resolves (.activate time) = some s') :
    Together policy b (liveStep policy b db (.activate time, eventId)) s' := by
  obtain ⟨htime, hstop, hgrace, hstorable⟩ := hfits.storable hperiod
  let e : BillingEvent :=
    { provider := b.provider, eventId, eventTs := time, externalId := b.externalId,
      kind := .started b.licenseId time (time + policy.terms.1)
        (billingPeriod none time (time + policy.terms.1)) }
  have hrecorded : db.recorded e = false := by
    simp [recorded, BillingEvent.row, e, hfresh]
  have hterms : db.terms b.licenseId = some policy.terms.2 := by
    rw [terms, h.license_found, Option.bind_some, h.validity, subscriptionTerms_of_pos hperiod]
  have hsafe : [time, time + policy.terms.1, time,
      signedAdd 64 (time + policy.terms.1) policy.terms.2.1].all isSafeInteger := by
    simp only [all_cons, all_nil, Bool.and_true, Bool.and_eq_true]
    exact ⟨htime, hstop, htime, hstorable⟩
  obtain ⟨db', hcommit⟩ := exists_commitStarted (e := e) hrecorded hsafe h.no_row h.no_subscription
  have hkind : (ScenarioStep.activate time).kind policy b.licenseId = some e.kind := rfl
  have hvalid : e.isValid := isValid_event hkind hperiod hexternal hid hfits
  have hprocess : process db e = some db' :=
    (process_started hvalid hrecorded rfl hterms).trans hcommit
  have hlive : liveStep policy b db (.activate time, eventId) = db' := by
    change databaseStep db (.billing e) = db'
    rw [databaseStep, hprocess, Option.getD_some]
  have hrow := subscriptionOf_commitStarted hcommit b.provider b.externalId
  rw [if_pos ⟨rfl, rfl⟩] at hrow
  have hlicense := license_commitStarted hcommit
  rw [h.license_found, Option.map_some] at hlicense
  simp only [Simulation.step, Simulation.activate, if_pos hperiod] at hs'
  split_ifs at hs'
  cases hs'
  rw [hlive]
  refine ⟨_, _, _,
    { row_found := hrow
      row_license := rfl
      no_review := rfl
      running := by simp [startedRow, new]
      storable := ?_
      license_found := hlicense
      validity := h.validity
      no_override := h.no_override
      expiry := rfl
      expiry_storable := hstorable
      simulated := rfl
      core := rfl
      ids := by simp [new]
      scope := rfl
      sim_expiry := ?_ }⟩
  · have hnone : ∀ v ∈ (none : Option ℤ), isSafeInteger v := by simp
    exact ⟨htime, hstop, rfl, htime, hnone, hnone, hnone⟩
  · have hend : signedAdd 64 time policy.terms.1 = time + policy.terms.1 :=
      signedAdd_of_isSafeInteger hstop
    rw [expiresAt_of_pos hperiod, hend]

/-! ### Runs -/

/-- The provider can deliver the events of the scenario: under its own new event ids, each once, and
with instants that can be stored. -/
structure Deliverable (policy : Policy) (b : Billed) (db : Database)
    (steps : List (ScenarioStep × String)) : Prop where
  valid : ∀ step ∈ steps, validIdentifier step.2 200 = true
  fits : ∀ step ∈ steps, step.1.Fits policy
  fresh : ∀ step ∈ steps, db.billingEvents.find ⟨b.provider, step.2⟩ = none
  once : (steps.map Prod.snd).Nodup

variable {steps : List (ScenarioStep × String)}

theorem Deliverable.tail {step : ScenarioStep × String}
    (h : Deliverable policy b db (step :: steps)) :
    Deliverable policy b (liveStep policy b db step) steps where
  valid other hother := h.valid other (mem_cons_of_mem step hother)
  fits other hother := h.fits other (mem_cons_of_mem step hother)
  fresh other hother := by
    have hbefore := h.fresh other (mem_cons_of_mem step hother)
    have hne : other.2 ≠ step.2 := by
      have hnotMem := (nodup_cons.1 h.once).1
      exact fun heq => hnotMem (heq ▸ mem_map_of_mem hother)
    unfold liveStep
    cases hevent : step.1.event policy b step.2 with
    | none => exact hbefore
    | some e =>
      obtain ⟨kind, -, rfl⟩ := Option.map_eq_some_iff.1 hevent
      -- an event with the other id stands for the row that is looked up
      let e' : BillingEvent := ⟨b.provider, other.2, 0, "", kind⟩
      refine getD_of (P := fun db' => db'.billingEvents.find _ = none) hbefore
        fun db' hprocess => ?_
      have hafter := recorded_process hprocess e'
      rw [recorded, recorded] at hafter
      simpa [e', BillingEvent.row, hbefore, hne] using hafter
  once := (nodup_cons.1 h.once).2

/-- From the start on the rows and the simulation stay together, and a scenario that has not
started has its start before it. -/
theorem together_exec (hperiod : 0 < policy.terms.1)
    (hexternal : validIdentifier b.externalId 200)
    (hdeliverable : Deliverable policy b db steps)
    (hsteps : Along (liveStep policy b)
      (fun db step => ¬ Restarts b db step ∧ ¬ EndsInFallback b db step) db steps)
    (h : Together policy b db s ∨ Unstarted policy b db license ∧ s = .new policy ∧
      ∃ step ∈ steps, step.1.starts)
    (hs' : (steps.map Prod.fst).foldlM (fun s step => s.step policy resolves step) s = some s') :
    Together policy b (exec (liveStep policy b) db steps) s' := by
  induction steps generalizing db s with
  | nil =>
    cases hs'
    obtain h | ⟨-, -, _, hmem, -⟩ := h
    · exact h
    · cases hmem
  | cons step steps ih =>
    obtain ⟨⟨hrestarts, hends⟩, hrest⟩ := hsteps
    simp only [map_cons, foldlM_cons, bind, Option.bind_eq_some_iff] at hs'
    obtain ⟨between, hstep, hs'⟩ := hs'
    have hvalid := hdeliverable.valid step mem_cons_self
    have hfits := hdeliverable.fits step mem_cons_self
    have hfresh := hdeliverable.fresh step mem_cons_self
    refine ih hdeliverable.tail hrest ?_ hs'
    obtain ⟨step, eventId⟩ := step
    obtain ⟨row, license, subscription, h⟩ | ⟨h, rfl, start, hmem, hstart⟩ := h
    · exact .inl (h.next hperiod hexternal hvalid hfits hfresh hrestarts hends hstep)
    by_cases hstarts : step.starts
    · cases step with
      | activate time => exact .inl (h.start hperiod hexternal hvalid hfits hfresh hstep)
      | _ => cases hstarts
    · obtain ⟨hlive, hsame⟩ : liveStep policy b db (step, eventId) = db ∧
          (Simulation.new policy).step policy resolves step = some (Simulation.new policy) :=
        h.quiet (Bool.eq_false_iff.2 hstarts)
      cases hsame.symm.trans hstep
      rw [hlive]
      refine .inr ⟨h, rfl, start, ?_, hstart⟩
      refine (mem_cons.1 hmem).resolve_left ?_
      rintro rfl
      exact hstarts hstart

/-- The live path agrees with the simulator in every scenario that the provider can deliver, in
which the subscription is started once and does not end in its fallback: the license has the expiry
and the version scope of the simulation. -/
theorem billing_agrees_with_simulator {periodSecs dunningSecs : ℤ}
    {fallback : Option PerpetualFallback}
    (hpolicy : policy.validity = .subscription periodSecs dunningSecs fallback)
    (hperiod : 0 < periodSecs) (hexternal : validIdentifier b.externalId 200 = true)
    (hunstarted : Unstarted policy b db license) (hdeliverable : Deliverable policy b db steps)
    (hsteps : Along (liveStep policy b)
      (fun db step => ¬ Restarts b db step ∧ ¬ EndsInFallback b db step) db steps)
    (hstarted : ∃ step ∈ steps, step.1.starts = true)
    (hsimulated : simulate policy resolves (steps.map Prod.fst) = some s) :
    ∃ license', (exec (liveStep policy b) db steps).licenses.find b.licenseId = some license' ∧
      license'.expiresAt = s.credentialExpiry ∧ license'.scope policy = s.versionScope := by
  have hpositive : 0 < policy.terms.1 := by
    rw [Policy.terms, hpolicy]
    exact hperiod
  obtain ⟨row, license', subscription, h⟩ :=
    together_exec hpositive hexternal hdeliverable hsteps (.inr ⟨hunstarted, rfl, hstarted⟩)
      hsimulated
  refine ⟨license', h.license_found, h.sim_expiry.symm, ?_⟩
  rw [LicenseRow.scope, h.no_override, h.scope]

/-- A policy with a monthly period, a day of dunning grace, and a fallback after two months. -/
def fallbackPolicy : Policy where
  versionScope := .unlimited
  seats := 1
  heartbeatSecs := none
  validity := .subscription 2592000 86400 (some ⟨2, .earnedAt⟩)
  vtSignature := .pq
  refreshAfterSecs := 86400
  graceSecs := 0
  reportAttrs := false
  allowOlk := false
  allowUnboundOlk := false
  offlineUpgradePolicy := .requireOnline
  preloadVariantsN := 0

def sampleBilled : Billed := ⟨1, .stripe, "sub_1"⟩

/-- Started, renewed once, and cancelled at the end of the second period. -/
def canceledScenario : List (ScenarioStep × String) :=
  [ (.activate 1000, "evt_1"), (.renew 2593000, "evt_2"), (.cancel 2593001, "evt_3"),
    (.periodEnds 5185000, "evt_4") ]

/-- The same with one more paid period, which earns the fallback. -/
def fallbackScenario : List (ScenarioStep × String) :=
  [ (.activate 1000, "evt_1"), (.renew 2593000, "evt_2"), (.renew 5185000, "evt_3"),
    (.cancel 5185001, "evt_4"), (.periodEnds 7777000, "evt_5") ]

theorem canceledScenario_agrees :
    simulate fallbackPolicy (fun _ => true) (canceledScenario.map Prod.fst) ≠ none ∧
      ∀ s, simulate fallbackPolicy (fun _ => true) (canceledScenario.map Prod.fst) = some s →
        ∃ license, (exec (liveStep fallbackPolicy sampleBilled) fallbackDatabase
            canceledScenario).licenses.find 1 = some license ∧
          license.expiresAt = s.credentialExpiry ∧
          license.scope fallbackPolicy = s.versionScope := by
  refine ⟨by decide +kernel, fun s hs => ?_⟩
  have hunstarted : Unstarted fallbackPolicy sampleBilled fallbackDatabase
      { sampleLicense with
        validity := some (.subscription 2592000 86400 (some ⟨2, .earnedAt⟩)) } :=
    ⟨by decide +kernel, by decide +kernel, by decide +kernel, rfl, rfl⟩
  exact billing_agrees_with_simulator rfl (by decide) (by decide +kernel) hunstarted
    ⟨by decide +kernel, by decide +kernel, by decide +kernel, by decide +kernel⟩
    ⟨by decide +kernel, by decide +kernel, by decide +kernel, by decide +kernel, trivial⟩
    ⟨_, mem_cons_self, rfl⟩ hs

/-- A subscription that ends in its fallback keeps the expiry of its last period, while the
simulated credential does not expire. -/
theorem fallback_keeps_expiry :
    ((exec (liveStep fallbackPolicy sampleBilled) fallbackDatabase
        fallbackScenario).licenses.find 1).map (fun license =>
          (license.expiresAt, license.scope fallbackPolicy)) =
        some (some 7863400, .releasedBefore 5185000) ∧
      (simulate fallbackPolicy (fun _ => true) (fallbackScenario.map Prod.fst)).map (fun s =>
          (s.credentialExpiry, s.versionScope)) = some (none, .releasedBefore 5185000) := by
  decide +kernel

end CopyLocker.Worker
