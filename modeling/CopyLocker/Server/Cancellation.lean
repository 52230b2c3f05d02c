import CopyLocker.Server.SubscriptionRuns

/-!
# Cancelled and unpaid subscriptions

A cancellation is remembered in the state `canceling` and in `canceledAt`, an unpaid bill in the
state `pastDue` and in `dunningUntil`. A subscription moves between these states in both
directions, and only one of the two fields follows it. This file says which deliveries lose the
cancellation and which ones lose the unpaid bill.

## Main results

* `active_deliver_iff`: what makes a subscription active.
* `canceled_never_active_iff`: a cancelled subscription is never active again exactly when no
  delivery uncancels it.
* `never_active_iff_of_new`: in the runs of a new subscription only a renewal uncancels.
* `staysUnpaid_iff`: an overdue subscription stays unpaid exactly when it is not cancelled
  meanwhile.
* `exec_overdue`: in the runs of a new subscription an overdue payment has a deadline.
-/

namespace CopyLocker.Server

open Foundation.Run Subscription SubscriptionEvent SubscriptionState

variable {s : Subscription} {d : Delivery} {event : SubscriptionEvent}
  {fallback : Option PerpetualFallback} {now dunningGraceSecs : ℤ}

/-! ### Cancelled subscriptions -/

/-- A new paid period after a suspension. -/
def SubscriptionEvent.isReactivation : SubscriptionEvent → Bool
  | .reactivated _ _ => true
  | _ => false

/-- A billing period that was paid in the ordinary course. -/
def SubscriptionEvent.isRenewed : SubscriptionEvent → Bool
  | .renewed _ _ => true
  | _ => false

/-- The event neither reverts a cancellation nor reactivates the subscription. -/
def SubscriptionEvent.KeepsCancellation (event : SubscriptionEvent) : Prop :=
  event ≠ .cancelReverted ∧ event.isReactivation = false

/-- A renewal that does not find the subscription `canceling`, or a recovered payment that finds it
overdue without a recorded cancellation. -/
def Delivery.Uncancels (d : Delivery) (s : Subscription) : Prop :=
  d.Takes s ∧ ((d.event.isRenewed = true ∧ s.state ≠ .canceling) ∨
      (d.event = .paymentRecovered ∧ s.state = .pastDue ∧ s.canceledAt = none))

instance (d : Delivery) (s : Subscription) : Decidable (d.Uncancels s) :=
  inferInstanceAs (Decidable (_ ∧ _))

/-- Of the deliveries that keep a cancellation, those that make a subscription active. -/
theorem active_deliver_iff (hs : s.state ≠ .active) (hkeeps : d.event.KeepsCancellation) :
    (s.deliver d).state = .active ↔ d.Uncancels s := by
  by_cases htakes : d.Takes s
  · obtain ⟨hreverted, hreactivated⟩ := hkeeps
    rw [state_deliver_of_takes htakes, Delivery.Uncancels, and_iff_right htakes]
    cases hevent : d.event <;> cases hstate : s.state <;> cases hcanceled : s.canceledAt <;>
      cases s.fallbackEarnedAt <;> simp_all [target, isRenewed, isReactivation]
  · rw [state_deliver_of_not_takes htakes]
    exact iff_of_false hs fun h => htakes h.1

theorem not_active_of_canceled (hcancel : d.event = .cancelAtPeriodEnd)
    (happlied : (s.outcome d).applied) : (s.deliver d).state ≠ .active := by
  rw [state_deliver_of_takes (applied_outcome_iff.1 happlied), hcancel]
  cases s.state <;> simp [target]

variable {ds : List Delivery}

/-- Deliveries that keep a cancellation never make a subscription active exactly when none of them
uncancels it. -/
theorem never_active_iff (hs : s.state ≠ .active) (hkeeps : ∀ e ∈ ds, e.event.KeepsCancellation) :
    (∀ pre post, ds = pre ++ post → (exec deliver s pre).state ≠ .active) ↔
      Along deliver (fun s e => ¬ e.Uncancels s) s ds :=
  never_iff_along (T := fun s : Subscription => s.state = .active)
    (K := fun e : Delivery => e.event.KeepsCancellation)
    (fun _ _ hs hkeeps => active_deliver_iff hs hkeeps) hs hkeeps

/-- After a cancellation that was applied, and without a reversal or a reactivation, a subscription
is never active again exactly when no delivery uncancels it. -/
theorem canceled_never_active_iff (s : Subscription) (d : Delivery)
    (hcancel : d.event = .cancelAtPeriodEnd) (happlied : (s.outcome d).applied = true)
    (ds : List Delivery)
    (hkeeps : ∀ e ∈ ds, e.event ≠ .cancelReverted ∧ e.event.isReactivation = false) :
    (∀ pre post, ds = pre ++ post → (exec Subscription.deliver (s.deliver d) pre).state ≠ .active) ↔
      Along Subscription.deliver (fun s e => ¬ e.Uncancels s) (s.deliver d) ds :=
  never_active_iff (not_active_of_canceled hcancel happlied) hkeeps

/-- Cancelled, overdue, renewed: the cancellation is lost. -/
theorem renewal_uncancels_overdue_subscription :
    ((sampleSubscription.outcome (sampleDelivery "evt_1" .cancelAtPeriodEnd 10)).applied = true) ∧
      (exec Subscription.deliver
        (sampleSubscription.deliver (sampleDelivery "evt_1" .cancelAtPeriodEnd 10))
        [ sampleDelivery "evt_2" .paymentFailed 20,
          sampleDelivery "evt_3" (.renewed 2592000 5184000) 30 ]).state = .active := by
  decide

/-- A recovered payment keeps the cancellation. -/
theorem recovery_keeps_cancellation :
    (sampleSubscription.outcome (sampleDelivery "evt_1" .cancelAtPeriodEnd 10)).applied = true ∧
      ∀ pre post, [sampleDelivery "evt_2" .paymentFailed 20,
          sampleDelivery "evt_3" .paymentRecovered 30] = pre ++ post →
        (exec Subscription.deliver
          (sampleSubscription.deliver (sampleDelivery "evt_1" .cancelAtPeriodEnd 10)) pre).state ≠
          .active := by
  refine ⟨by decide, ?_⟩
  exact (canceled_never_active_iff sampleSubscription
    (sampleDelivery "evt_1" .cancelAtPeriodEnd 10) rfl (by decide) _ (by decide)).2 (by decide)

/-! ### Recorded cancellations -/

/-- A renewal that does not find the subscription `canceling`. -/
def Delivery.RenewsOther (d : Delivery) (s : Subscription) : Prop :=
  d.Takes s ∧ d.event.isRenewed = true ∧ s.state ≠ .canceling

/-- A subscription that is `canceling` has its cancellation recorded. -/
def Subscription.RecordsCancellation (s : Subscription) : Prop :=
  s.state = .canceling → s.canceledAt.isSome = true

/-- Suspended, or over. -/
def Subscription.Lapsed (s : Subscription) : Prop :=
  s.state = .suspended ∨ s.state = .ended ∨ s.state.isTerminal = true

/-- The cancellation is recorded, or the subscription is not running. -/
def Subscription.CancellationRecorded (s : Subscription) : Prop :=
  s.canceledAt.isSome = true ∨ s.Lapsed

theorem Subscription.Lapsed.ne (h : s.Lapsed) {state : SubscriptionState}
    (hstate : (state == .active || state == .pastDue || state == .canceling)) :
    s.state ≠ state := by
  rintro rfl
  cases hfound : s.state <;> simp [Lapsed, isTerminal, hfound] at h hstate

/-- A lapsed subscription stays so until a new paid period. -/
theorem Subscription.Lapsed.deliver (h : s.Lapsed)
    (hrenewal : d.Takes s → d.event.isRenewal = false) : (s.deliver d).Lapsed := by
  unfold Lapsed at h ⊢
  by_cases htakes : d.Takes s
  · rw [state_deliver_of_takes htakes]
    cases hstate : s.state <;> cases hevent : d.event <;> cases s.fallbackEarnedAt <;>
      simp [target, isTerminal, isRenewal, hstate, hevent, htakes] at h hrenewal ⊢
  · rwa [state_deliver_of_not_takes htakes]

private theorem recordsCancellation_transition (h : s.RecordsCancellation) :
    (s.transition event fallback now dunningGraceSecs).RecordsCancellation := by
  unfold RecordsCancellation at h ⊢
  cases hstate : s.state <;> cases event <;> cases hcanceled : s.canceledAt <;>
    cases hearned : s.fallbackEarnedAt <;> simp_all [transition, renew, settleEnding]

/-- In every run of a new subscription the cancellation is recorded while it is in force. -/
theorem exec_recordsCancellation (provider externalId : String) (periodStart periodEnd : ℤ)
    (ds : List Delivery) :
    (exec deliver (.new provider externalId periodStart periodEnd) ds).RecordsCancellation := by
  refine exec_induction (I := RecordsCancellation) _
    (fun _ d h => deliver_of (fun _ => recordsCancellation_transition h) fun _ _ => h) ?_ ds
  intro hcanceling
  cases hcanceling

theorem cancellationRecorded_of_canceled (h : s.RecordsCancellation)
    (hcancel : d.event = .cancelAtPeriodEnd) (happlied : (s.outcome d).applied) :
    (s.deliver d).CancellationRecorded := by
  rw [deliver_eq_of_takes (applied_outcome_iff.1 happlied), hcancel]
  unfold CancellationRecorded
  by_cases hopen : s.state = .active ∨ s.state = .pastDue
  · simp [transition, hopen]
  · simp only [transition, if_neg hopen, Lapsed]
    unfold RecordsCancellation at h
    cases hstate : s.state <;> simp_all [isTerminal]

theorem uncancels_iff_of_recorded (h : s.CancellationRecorded) :
    d.Uncancels s ↔ d.RenewsOther s := by
  constructor
  · rintro ⟨htakes, hrenews | ⟨-, hpastDue, hnone⟩⟩
    · exact ⟨htakes, hrenews⟩
    · rcases h with hsome | hlapsed
      · simp [hnone] at hsome
      · exact absurd hpastDue (hlapsed.ne rfl)
  · rintro ⟨htakes, hrenews⟩
    exact ⟨htakes, .inl hrenews⟩

private theorem cancellationRecorded_deliver (h : s.CancellationRecorded)
    (hkeeps : d.event.KeepsCancellation) (hnot : ¬ d.RenewsOther s) :
    (s.deliver d).CancellationRecorded := by
  rcases h with hsome | hlapsed
  · refine .inl (deliver_of (P := fun next => next.canceledAt.isSome) (fun _ => ?_)
      fun _ _ => hsome)
    -- only a reversal deletes the record
    cases hevent : d.event with
    | cancelReverted => exact absurd hevent hkeeps.1
    | renewed | reactivated | fallbackRevoked | refundReported => exact hsome
    | _ =>
      simp only [transition]
      split_ifs <;> first | exact hsome | rfl
  · refine .inr (hlapsed.deliver fun htakes => ?_)
    have hrenewed : ¬ d.event.isRenewed := fun h => hnot ⟨htakes, h, hlapsed.ne rfl⟩
    have hreactivated := hkeeps.2
    cases hevent : d.event <;> simp_all [isRenewal, isRenewed, isReactivation]

/-- In the runs of a new subscription, a cancelled one is active again exactly when a renewal counts
that does not find it `canceling`. -/
theorem never_active_iff_of_new (provider externalId : String) (periodStart periodEnd : ℤ)
    (before : List Delivery) (d : Delivery) (hcancel : d.event = .cancelAtPeriodEnd)
    (happlied : ((exec deliver (.new provider externalId periodStart periodEnd)
      before).outcome d).applied)
    (ds : List Delivery) (hkeeps : ∀ e ∈ ds, e.event.KeepsCancellation) :
    (∀ pre post, ds = pre ++ post → (exec deliver (.new provider externalId periodStart periodEnd)
          (before ++ d :: pre)).state ≠ .active) ↔
      Along deliver (fun s e => ¬ e.RenewsOther s)
        (exec deliver (.new provider externalId periodStart periodEnd) (before ++ [d]))
        ds := by
  simp only [exec_append, exec_cons, exec_nil]
  have hrecorded := cancellationRecorded_of_canceled
    (exec_recordsCancellation provider externalId periodStart periodEnd before) hcancel happlied
  rw [never_active_iff (not_active_of_canceled hcancel happlied) hkeeps]
  refine along_iff_of_invariant (I := CancellationRecorded) (fun _ _ _ h => ?_)
    (fun _ e he h hnot => cancellationRecorded_deliver h (hkeeps e he) hnot) hrecorded
  rw [uncancels_iff_of_recorded h]

/-- The charge of a cancelled subscription fails and is made good. -/
theorem recovery_after_new_cancellation :
    (exec deliver sampleSubscription [sampleDelivery "evt_1" .cancelAtPeriodEnd 10,
      sampleDelivery "evt_2" .paymentFailed 20,
      sampleDelivery "evt_3" .paymentRecovered 30]).state ≠ .active :=
  (never_active_iff_of_new _ _ _ _ [] (sampleDelivery "evt_1" .cancelAtPeriodEnd 10) rfl
    (by decide) _ (by unfold KeepsCancellation; decide)).2
      (by unfold Delivery.RenewsOther; decide) [_, _] [] rfl

/-! ### Unpaid subscriptions -/

/-- A bill that was paid. -/
def SubscriptionEvent.isPayment : SubscriptionEvent → Bool
  | .renewed _ _ | .reactivated _ _ | .paymentRecovered => true
  | _ => false

/-- A cancellation that counts while a payment is overdue. -/
def Delivery.CancelsUnpaid (d : Delivery) (s : Subscription) : Prop :=
  d.Takes s ∧ d.event = .cancelAtPeriodEnd ∧ s.state = .pastDue

instance (d : Delivery) (s : Subscription) : Decidable (d.CancelsUnpaid s) :=
  inferInstanceAs (Decidable (_ ∧ _))

namespace Subscription

/-- A payment is overdue, with a deadline. -/
def Overdue (s : Subscription) : Prop := s.state = .pastDue ∧ s.dunningUntil.isSome = true

/-- The subscription is usable at an instant that is not before its dunning deadline, or without
having one. -/
def OutlivesDeadline (s : Subscription) : Prop :=
  ∃ now, (∀ deadline ∈ s.dunningUntil, deadline ≤ now) ∧ s.isUsableAt now = true

/-- The states of a run are usable, from its first to its last. -/
def StaysUsable (s : Subscription) (ds : List Delivery) : Prop :=
  ∀ pre post, ds = pre ++ post → (exec deliver s pre).state.isUsable = true

/-- Along the run the subscription does not become active, nor lose its dunning deadline while it
stays usable. -/
def StaysUnpaid (s : Subscription) (ds : List Delivery) : Prop :=
  ∀ pre post, ds = pre ++ post → (exec deliver s pre).state ≠ .active ∧
      (s.StaysUsable pre → ¬ (exec deliver s pre).OutlivesDeadline)

end Subscription

theorem isRenewal_eq_false (h : event.isPayment = false) : event.isRenewal = false := by
  cases event <;> simp_all [isPayment, isRenewal]

theorem Subscription.Overdue.not_outlives (h : s.Overdue) : ¬ s.OutlivesDeadline := by
  obtain ⟨hstate, hdeadline⟩ := h
  obtain ⟨deadline, hsome⟩ := Option.isSome_iff_exists.1 hdeadline
  rintro ⟨now, hpassed, husable⟩
  have hnow : deadline ≤ now := hpassed deadline hsome
  simp [isUsableAt, hstate, hsome] at husable
  omega

/-- A `canceling` subscription is usable at all times, whatever its deadline. -/
theorem outlivesDeadline_of_canceling (h : s.state = .canceling) : s.OutlivesDeadline := by
  refine ⟨s.dunningUntil.getD 0, fun deadline hdeadline => ?_, ?_⟩
  · rw [Option.mem_def.1 hdeadline]
    exact le_rfl
  · simp [isUsableAt, isUsable, h]

/-- Without a payment or a cancellation, an overdue subscription stays overdue or lapses. -/
theorem overdue_deliver (h : s.Overdue) (hpayment : d.event.isPayment = false)
    (hcancel : ¬ d.CancelsUnpaid s) :
    (s.deliver d).Overdue ∨ (s.deliver d).state = .suspended := by
  refine deliver_of (P := fun next => next.Overdue ∨ next.state = .suspended) (fun htakes => ?_)
    fun _ _ => .inl h
  have hother : d.event ≠ .cancelAtPeriodEnd := fun hevent => hcancel ⟨htakes, hevent, h.1⟩
  unfold Overdue at h ⊢
  cases hevent : d.event <;> simp_all [transition, isPayment]

/-- In a run without payments a lapsed subscription is neither active nor cancelled while
overdue. -/
theorem Subscription.Lapsed.exec (h : s.Lapsed) (hpayment : ∀ e ∈ ds, e.event.isPayment = false) :
    (∀ pre post, ds = pre ++ post → (exec Subscription.deliver s pre).state ≠ .active) ∧
      Along Subscription.deliver (fun s e => ¬ e.CancelsUnpaid s) s ds := by
  induction ds generalizing s with
  | nil => exact ⟨forall_split_nil.2 (h.ne rfl), trivial⟩
  | cons e ds ih =>
    obtain ⟨hnever, halong⟩ := ih (h.deliver fun _ => isRenewal_eq_false (hpayment e (by simp)))
      fun e' he' => hpayment e' (by simp [he'])
    refine ⟨forall_split_cons.2 ⟨h.ne rfl, hnever⟩, fun hcancels => ?_, halong⟩
    exact h.ne rfl hcancels.2.2

private theorem staysUnpaid_cons (h : s.Overdue) :
    s.StaysUnpaid (d :: ds) ↔
      ∀ pre post, ds = pre ++ post → (exec deliver (s.deliver d) pre).state ≠ .active ∧
          ((s.deliver d).StaysUsable pre →
            ¬ (exec deliver (s.deliver d) pre).OutlivesDeadline) := by
  have husable : s.state.isUsable := by rw [h.1]; rfl
  refine forall_split_cons.trans ((and_iff_right ?_).trans ?_)
  · exact ⟨by rw [exec_nil, h.1]; nofun, fun _ => h.not_outlives⟩
  · simp [StaysUsable, forall_split_cons, and_iff_right husable, exec_cons]

/-- Without a payment, an overdue subscription stays unpaid along a run exactly when no
cancellation counts while it is overdue. -/
theorem Subscription.Overdue.staysUnpaid_iff_along {s : Subscription} (h : s.Overdue)
    (hpayment : ∀ e ∈ ds, e.event.isPayment = false) :
    s.StaysUnpaid ds ↔ Along Subscription.deliver (fun s e => ¬ e.CancelsUnpaid s) s ds := by
  induction ds generalizing s with
  | nil =>
    refine iff_of_true (forall_split_nil.2 ?_) trivial
    exact ⟨by rw [exec_nil, h.1]; nofun, fun _ => h.not_outlives⟩
  | cons d ds ih =>
    have hlater : ∀ e ∈ ds, e.event.isPayment = false := fun e he => hpayment e (by simp [he])
    rw [staysUnpaid_cons h, along_cons]
    by_cases hcancels : d.CancelsUnpaid s
    · -- the next state is `canceling`: usable, and beyond the deadline
      have hcanceling : (s.deliver d).state = .canceling := by
        rw [state_deliver_of_takes hcancels.1, hcancels.2.1, h.1]
        rfl
      refine iff_of_false (fun hstays => ?_) fun hnot => hnot.1 hcancels
      refine (hstays [] ds rfl).2 ?_ (outlivesDeadline_of_canceling hcanceling)
      exact forall_split_nil.2 (by rw [exec_nil, hcanceling]; rfl)
    · rw [and_iff_right hcancels]
      rcases overdue_deliver h (hpayment d (by simp)) hcancels with hoverdue | hsuspended
      · exact ih hoverdue hlater
      · -- once suspended it does not stay usable, and it needs a payment to run again
        have hlapsed := Subscription.Lapsed.exec (.inl hsuspended) hlater
        refine iff_of_true (fun pre post hsplit => ⟨hlapsed.1 pre post hsplit, ?_⟩) hlapsed.2
        intro husable
        have hfirst := husable [] pre rfl
        rw [exec_nil, hsuspended] at hfirst
        cases hfirst

/-- Without a payment, a subscription that is past due stays unpaid along a run exactly when it has
a deadline and no cancellation counts while it is overdue. -/
theorem staysUnpaid_iff (s : Subscription) (hpastDue : s.state = .pastDue) (ds : List Delivery)
    (hpayment : ∀ e ∈ ds, e.event.isPayment = false) :
    s.StaysUnpaid ds ↔ s.dunningUntil.isSome = true ∧
      Along Subscription.deliver (fun s e => ¬ e.CancelsUnpaid s) s ds := by
  by_cases hdeadline : s.dunningUntil.isSome
  · have hoverdue : s.Overdue := ⟨hpastDue, hdeadline⟩
    rw [and_iff_right hdeadline]
    exact hoverdue.staysUnpaid_iff_along hpayment
  · refine iff_of_false (fun hstays => ?_) fun h => hdeadline h.1
    refine (hstays [] ds rfl).2 (forall_split_nil.2 ?_) ⟨0, ?_, ?_⟩
    · rw [exec_nil, hpastDue]
      rfl
    · simp_all
    · simp_all [isUsableAt]

/-- In every run of a new subscription, an overdue payment has a deadline. -/
theorem exec_overdue (provider externalId : String) (periodStart periodEnd : ℤ) (ds : List Delivery)
    (hpastDue : (exec deliver (.new provider externalId periodStart periodEnd)
      ds).state = .pastDue) :
    (exec deliver (.new provider externalId periodStart periodEnd) ds).Overdue := by
  revert hpastDue
  refine exec_induction (I := fun s : Subscription => s.state = .pastDue → s.Overdue) _
    (fun s d h => ?_) ?_ ds
  · refine deliver_of (P := fun next => next.state = .pastDue → next.Overdue)
      (fun _ hpastDue => ⟨hpastDue, ?_⟩) fun _ _ => h
    revert hpastDue
    unfold Overdue at h
    cases hstate : s.state <;> cases d.event <;> cases hcanceled : s.canceledAt <;>
      cases hearned : s.fallbackEarnedAt <;> simp_all [transition, renew, settleEnding]
  · intro hpastDue
    cases hpastDue

/-- A subscription whose first charge failed. -/
def overdueSubscription : Subscription :=
  sampleSubscription.deliver (sampleDelivery "evt_1" .paymentFailed 10)

theorem failed_charge_has_deadline : overdueSubscription.Overdue :=
  exec_overdue "stripe" "sub_1" 0 2592000 [sampleDelivery "evt_1" .paymentFailed 10] rfl

/-- Cancelled and reverted, an overdue subscription is active without a payment. -/
theorem cancel_and_revert_restore_unpaid_subscription :
    overdueSubscription.state = .pastDue ∧ overdueSubscription.dunningUntil = some 604810 ∧
      (exec Subscription.deliver overdueSubscription [ sampleDelivery "evt_2" .cancelAtPeriodEnd 20,
          sampleDelivery "evt_3" .cancelReverted 30 ]).state = .active := by
  decide

/-- A reversal without a cancellation, and a stale one, restore nothing. -/
theorem overdueSubscription_staysUnpaid :
    overdueSubscription.StaysUnpaid
      [ sampleDelivery "evt_2" .cancelReverted 20, sampleDelivery "evt_3" .cancelAtPeriodEnd 5,
        sampleDelivery "evt_4" .dunningElapsed 604810 ] :=
  (staysUnpaid_iff overdueSubscription rfl _ (by decide)).2 (by decide)

end CopyLocker.Server
