import CopyLocker.Foundation.Run
import CopyLocker.Server.Subscription

/-!
# Runs of a subscription

A payment provider delivers events with ids and timestamps of its own, in any order and more than
once. This file says what one delivery can do to a subscription and derives what whole runs do: a
repeated id is inert, and a subscription that is over, or was refunded, is usable again exactly
through one of two kinds of delivery.

## Main results

* `deliver_eq_of_takes`, `deliver_eq_of_not_takes`: the two outcomes of a delivery.
* `isUsable_deliver_iff`: an unusable subscription becomes usable exactly at a reviving delivery.
* `terminalAbsorbs_iff`, `refunded_never_usable_iff`: what this means for runs.
* `exec_deliver_repeats`: repeated ids change nothing.
* `core_deliver`: the effect of a fresh delivery depends on the core and the event only.
-/

namespace CopyLocker.Server

open Foundation.Run Subscription SubscriptionEvent SubscriptionState List Bool

/-- An event as it arrives: with its id, its timestamp, and the terms of the policy at the time. -/
structure Delivery where
  eventId : String
  event : SubscriptionEvent
  fallback : Option PerpetualFallback
  now : ℤ
  dunningGraceSecs : ℤ
  deriving DecidableEq

namespace Subscription

/-- The subscription after a delivery. -/
def deliver (s : Subscription) (d : Delivery) : Subscription :=
  (s.apply d.eventId d.event d.fallback d.now d.dunningGraceSecs).1

/-- What the delivery did. -/
def outcome (s : Subscription) (d : Delivery) : TransitionOutcome :=
  (s.apply d.eventId d.event d.fallback d.now d.dunningGraceSecs).2

end Subscription

/-- The delivery is neither repeated, stale nor absorbed by a terminal state. -/
def Delivery.Takes (d : Delivery) (s : Subscription) : Prop :=
  d.eventId ∉ s.processedEvents ∧
    (d.event.isSecurity = true ∨ (s.updatedAt ≤ d.now ∧ s.state.isTerminal = false))

instance (d : Delivery) (s : Subscription) : Decidable (d.Takes s) :=
  inferInstanceAs (Decidable (_ ∧ _))

section Deliver

variable {s : Subscription} {d : Delivery}

/-- The three guards of the source in their order. -/
theorem Delivery.takes_iff :
    d.Takes s ↔ ¬ s.processedEvents.contains d.eventId ∧
      ¬ (d.now < s.updatedAt ∧ ¬ d.event.isSecurity) ∧
      ¬ (s.state.isTerminal ∧ ¬ d.event.isSecurity) := by
  rw [contains_iff_mem, Delivery.Takes, eq_false_iff, ← not_lt]
  tauto

/-- A delivery that counts makes the event's transition. -/
theorem deliver_eq_of_takes (h : d.Takes s) :
    s.deliver d =
      { s.transition d.event d.fallback d.now d.dunningGraceSecs with
        updatedAt := max s.updatedAt d.now
        processedEvents := s.processedEvents ++ [d.eventId] } := by
  obtain ⟨hfresh, hstale, habsorbed⟩ := Delivery.takes_iff.1 h
  simp only [deliver, apply, if_neg hfresh, if_neg hstale, if_neg habsorbed]

/-- Any other delivery leaves at most its id behind. -/
theorem deliver_eq_of_not_takes (h : ¬ d.Takes s) :
    ∃ processed, s.deliver d = { s with processedEvents := processed } := by
  unfold deliver apply
  split_ifs with hrepeated hstale habsorbed
  · exact ⟨s.processedEvents, rfl⟩
  · exact ⟨_, rfl⟩
  · exact ⟨_, rfl⟩
  · exact absurd (Delivery.takes_iff.2 ⟨hrepeated, hstale, habsorbed⟩) h

/-- What the transitions that count lead to, and what does not depend on the memory of events, holds
after a delivery. -/
theorem deliver_of {P : Subscription → Prop}
    (htakes : d.Takes s → P { s.transition d.event d.fallback d.now d.dunningGraceSecs with
      updatedAt := max s.updatedAt d.now
      processedEvents := s.processedEvents ++ [d.eventId] })
    (hnot : ¬ d.Takes s → ∀ processed, P { s with processedEvents := processed }) :
    P (s.deliver d) := by
  by_cases h : d.Takes s
  · rw [deliver_eq_of_takes h]
    exact htakes h
  · obtain ⟨processed, heq⟩ := deliver_eq_of_not_takes h
    rw [heq]
    exact hnot h processed

theorem applied_outcome_iff : (s.outcome d).applied ↔ d.Takes s := by
  rw [Delivery.takes_iff]
  unfold outcome apply
  split_ifs with hrepeated hstale habsorbed
  · exact iff_of_false false_ne_true fun h => h.1 hrepeated
  · exact iff_of_false false_ne_true fun h => h.2.1 hstale
  · exact iff_of_false false_ne_true fun h => h.2.2 habsorbed
  · exact iff_of_true rfl ⟨hrepeated, hstale, habsorbed⟩

/-! ### Usability -/

/-- The end of a period that settles a suspended subscription with an earned fallback. -/
def Delivery.EndsInFallback (d : Delivery) (s : Subscription) : Prop :=
  d.Takes s ∧ d.event = .periodElapsed ∧ s.state = .suspended ∧ s.fallbackEarnedAt.isSome = true

instance (d : Delivery) (s : Subscription) : Decidable (d.EndsInFallback s) :=
  inferInstanceAs (Decidable (_ ∧ _))

/-- A new paid period. -/
def SubscriptionEvent.isRenewal : SubscriptionEvent → Bool
  | .renewed _ _ | .reactivated _ _ => true
  | _ => false

/-- A new paid period of a subscription that is suspended or ended, or the end of a period that
settles one in its fallback. -/
def Delivery.Revives (d : Delivery) (s : Subscription) : Prop :=
  (d.Takes s ∧ d.event.isRenewal = true ∧ (s.state = .suspended ∨ s.state = .ended)) ∨
    d.EndsInFallback s

theorem state_deliver_of_not_takes (h : ¬ d.Takes s) : (s.deliver d).state = s.state := by
  obtain ⟨processed, heq⟩ := deliver_eq_of_not_takes h
  rw [heq]

/-- The state after an event, by the state that it finds, whether a cancellation is recorded, and
whether the fallback is earned. -/
def SubscriptionEvent.target (event : SubscriptionEvent) (state : SubscriptionState)
    (canceled earned : Bool) : SubscriptionState :=
  match event, state with
  | .renewed _ _, .canceling | .reactivated _ _, .canceling => .canceling
  | .renewed _ _, _ | .reactivated _ _, _ => .active
  | .paymentFailed, .active | .paymentFailed, .canceling => .pastDue
  | .paymentRecovered, .pastDue => if canceled then .canceling else .active
  | .cancelAtPeriodEnd, .active | .cancelAtPeriodEnd, .pastDue => .canceling
  | .cancelReverted, .canceling => .active
  | .periodElapsed, .canceling | .periodElapsed, .suspended =>
    if earned then .perpetualFallback else .expired
  | .dunningElapsed, .pastDue => .suspended
  | .fallbackRevoked, .perpetualFallback | .refundReported, .perpetualFallback => .expired
  | .refundReported, _ => .suspended
  | _, state => state

theorem state_deliver_of_takes (h : d.Takes s) : (s.deliver d).state =
    d.event.target s.state s.canceledAt.isSome s.fallbackEarnedAt.isSome := by
  rw [deliver_eq_of_takes h]
  cases hstate : s.state <;> cases d.event <;>
    simp [transition, renew, settleEnding, target, hstate]

/-- The events that make an unusable subscription usable. -/
theorem isUsable_target_iff {state : SubscriptionState} (hs : state.isUsable = false)
    (event : SubscriptionEvent) (canceled earned : Bool) :
    (event.target state canceled earned).isUsable ↔ event.isRenewal ∨
        (event = .periodElapsed ∧ state = .suspended ∧ earned) := by
  cases state <;> cases event <;> cases earned <;> simp [target, isUsable, isRenewal] at hs ⊢

/-- An unusable subscription becomes usable exactly at a reviving delivery. -/
theorem isUsable_deliver_iff (hs : s.state.isUsable = false) :
    (s.deliver d).state.isUsable ↔ d.Revives s := by
  by_cases htakes : d.Takes s
  · rw [state_deliver_of_takes htakes, isUsable_target_iff hs]
    -- a renewal counts, so the state it finds is not terminal
    have hopen (hrenewal : d.event.isRenewal) : s.state = .suspended ∨ s.state = .ended := by
      have hsecurity : ¬ d.event.isSecurity := by
        cases hevent : d.event <;> simp [hevent, isRenewal, isSecurity] at hrenewal ⊢
      have hterminal := (htakes.2.resolve_left hsecurity).2
      cases hfound : s.state <;> simp [hfound, isUsable, isTerminal] at hs hterminal ⊢
    constructor
    · rintro (hrenewal | hends)
      · exact .inl ⟨htakes, hrenewal, hopen hrenewal⟩
      · exact .inr ⟨htakes, hends⟩
    · rintro (⟨-, hrenewal, -⟩ | ⟨-, hends⟩)
      · exact .inl hrenewal
      · exact .inr hends
  · rw [state_deliver_of_not_takes htakes, hs]
    refine iff_of_false (by simp) ?_
    rintro (⟨h, -⟩ | ⟨h, -⟩)
    · exact htakes h
    · exact htakes h

theorem isUsableAt_eq_false (hs : s.state.isUsable = false) (now : ℤ) :
    s.isUsableAt now = false := by
  unfold isUsableAt
  split
  next hpastDue =>
    rw [hpastDue] at hs
    cases hs
  · exact hs

end Deliver

/-! ### Runs -/

variable {s : Subscription} {d : Delivery} {event : SubscriptionEvent}

/-- Some instant is inside every dunning window, so only unusable states are never usable. -/
theorem forall_isUsableAt_eq_false_iff :
    (∀ now, s.isUsableAt now = false) ↔ ¬ s.state.isUsable := by
  constructor
  · intro hnever husable
    have hinside := hnever (s.dunningUntil.getD 0 - 1)
    revert hinside
    unfold isUsableAt
    split
    · cases s.dunningUntil with
      | none => simp
      | some deadline =>
        simp only [Option.getD_some, Option.all_some, decide_eq_false_iff_not]
        omega
    · simp [husable]
  · intro hs now
    exact isUsableAt_eq_false (by simpa using hs) now

/-- A subscription that is not usable stays so, at every time, exactly when no delivery revives
it. -/
theorem never_usable_iff (hs : s.state.isUsable = false) (ds : List Delivery) :
    (∀ pre post, ds = pre ++ post → ∀ now, (exec deliver s pre).isUsableAt now = false) ↔
      Along deliver (fun s d => ¬ d.Revives s) s ds := by
  simp only [forall_isUsableAt_eq_false_iff]
  refine never_iff_along (T := fun s : Subscription => s.state.isUsable)
    (K := fun _ => True) (fun s d hs _ => ?_) (by simpa using hs) fun _ _ => trivial
  exact isUsable_deliver_iff (by simpa using hs)

/-- The last period is over without a fallback, or not settled yet. -/
def Subscription.IsOver (s : Subscription) : Prop := s.state = .ended ∨ s.state = .expired

theorem Subscription.IsOver.isUsable (h : s.IsOver) : s.state.isUsable = false := by
  rcases h with hstate | hstate <;> simp [hstate, SubscriptionState.isUsable]

/-- A delivery leaves a perpetual fallback with its terms, or is a refund or a revocation and
expires it. -/
def Subscription.KeepsFallback (s : Subscription) (d : Delivery) : Prop :=
  s.state = .perpetualFallback → ((s.deliver d).state = .perpetualFallback ∧
      ∀ fallback, (s.deliver d).fallbackVersionCutoff fallback = s.fallbackVersionCutoff fallback) ∨
    ((s.deliver d).state = .expired ∧ (d.event = .refundReported ∨ d.event = .fallbackRevoked))

/-- Terminal states are absorbing along a run: a subscription that is over is never usable again,
and a perpetual fallback is kept or expired. -/
def Subscription.TerminalAbsorbs (s : Subscription) (ds : List Delivery) : Prop :=
  ∀ pre post, ds = pre ++ post → let found := exec Subscription.deliver s pre
    (found.IsOver → ∀ mid rest, post = mid ++ rest → ∀ now,
      (exec Subscription.deliver found mid).isUsableAt now = false) ∧
    ∀ d rest, post = d :: rest → found.KeepsFallback d

/-- Every delivery keeps a perpetual fallback or expires it. -/
theorem keepsFallback (s : Subscription) (d : Delivery) : s.KeepsFallback d := by
  intro hstate
  by_cases htakes : d.Takes s
  · have hsecurity : d.event.isSecurity := by
      refine htakes.2.resolve_right fun hcounts => ?_
      rw [hstate] at hcounts
      cases hcounts.2
    refine .inr ?_
    rw [deliver_eq_of_takes htakes]
    cases hevent : d.event with
    | fallbackRevoked | refundReported => simp [transition, hstate]
    | _ =>
      rw [hevent] at hsecurity
      cases hsecurity
  · obtain ⟨processed, heq⟩ := deliver_eq_of_not_takes htakes
    rw [heq]
    exact .inl ⟨hstate, fun _ => rfl⟩

/-- Terminal states are absorbing along a run exactly when no delivery of it revives a
subscription that was over before. -/
theorem terminalAbsorbs_iff (s : Subscription) (ds : List Delivery) :
    s.TerminalAbsorbs ds ↔ ∀ pre post, ds = pre ++ post → (exec Subscription.deliver s pre).IsOver →
        Along Subscription.deliver (fun s d => ¬ d.Revives s) (exec Subscription.deliver s pre)
          post := by
  constructor
  · intro habsorbs pre post hsplit hover
    exact (never_usable_iff hover.isUsable post).1 ((habsorbs pre post hsplit).1 hover)
  · intro hquiet pre post hsplit
    refine ⟨fun hover => ?_, fun d rest _ => keepsFallback _ d⟩
    exact (never_usable_iff hover.isUsable post).2 (hquiet pre post hsplit hover)

/-- A subscription from the instant `0`. -/
def sampleSubscription : Subscription := .new "stripe" "sub_1" 0 2592000

/-- An event under a policy whose fallback is earned after one month. -/
def sampleDelivery (eventId : String) (event : SubscriptionEvent) (now : ℤ) : Delivery where
  eventId := eventId
  event := event
  fallback := some { afterMonths := 1, scopeAt := .earnedAt }
  now := now
  dunningGraceSecs := 604800

/-- Cancelled and over; a refund that is reported then makes it payable again. -/
theorem refund_reopens_expired_subscription :
    ¬ sampleSubscription.TerminalAbsorbs
      [ sampleDelivery "evt_1" .cancelAtPeriodEnd 10, sampleDelivery "evt_2" .periodElapsed 2592000,
        sampleDelivery "evt_3" .refundReported 2592001,
        sampleDelivery "evt_4" (.renewed 2592000 5184000) 2592002 ] := by
  intro habsorbs
  have hover := (habsorbs
    [sampleDelivery "evt_1" .cancelAtPeriodEnd 10, sampleDelivery "evt_2" .periodElapsed 2592000]
    _ rfl).1 (.inr (by decide)) _ [] (append_nil _).symm 2592003
  revert hover
  decide

/-! ### After a refund -/

/-- After a refund and without a new paid period, a subscription is unusable at all times exactly
when no end of a period settles it in an earned fallback. -/
theorem refunded_never_usable_iff (s : Subscription) (d : Delivery)
    (hrefund : d.event = .refundReported) (happlied : (s.outcome d).applied = true)
    (ds : List Delivery) (hrenewal : ∀ e ∈ ds, e.event.isRenewal = false) :
    (∀ pre post, ds = pre ++ post → ∀ now,
        (exec Subscription.deliver (s.deliver d) pre).isUsableAt now = false) ↔
      Along Subscription.deliver (fun s e => ¬ e.EndsInFallback s) (s.deliver d) ds := by
  have hunusable : (s.deliver d).state.isUsable = false := by
    rw [deliver_eq_of_takes (applied_outcome_iff.1 happlied), hrefund]
    simp only [transition]
    split_ifs <;> rfl
  rw [never_usable_iff hunusable]
  refine along_congr (fun found e he => not_congr ⟨?_, .inr⟩) _
  rintro (⟨-, hrenews, -⟩ | hends)
  · rw [hrenewal e he] at hrenews
    cases hrenews
  · exact hends

/-- A subscription whose first paid month has earned the fallback, and a refund of it. -/
def earnedSubscription : Subscription :=
  sampleSubscription.deliver (sampleDelivery "evt_1" (.renewed 0 2592000) 10)

def sampleRefund : Delivery := sampleDelivery "evt_2" .refundReported 20

/-- A refunded subscription ends in its earned fallback and is usable again. -/
theorem refunded_subscription_ends_in_fallback :
    (earnedSubscription.outcome sampleRefund).applied = true ∧
      (exec Subscription.deliver (earnedSubscription.deliver sampleRefund)
        [sampleDelivery "evt_3" .periodElapsed 2592000]).isUsableAt 2592001 = true := by
  decide

/-- A revocation of the fallback before the period ends keeps the refunded subscription unusable. -/
theorem refunded_never_usable_revoked :
    (earnedSubscription.outcome sampleRefund).applied = true ∧
      ∀ pre post, [sampleDelivery "evt_3" .fallbackRevoked 30,
          sampleDelivery "evt_4" .periodElapsed 2592000] = pre ++ post → ∀ now,
        (exec Subscription.deliver (earnedSubscription.deliver sampleRefund) pre).isUsableAt now =
          false := by
  refine ⟨by decide, ?_⟩
  exact (refunded_never_usable_iff earnedSubscription sampleRefund rfl (by decide) _
    (by decide)).2 ⟨by decide, by decide, trivial⟩

/-! ### Repeated deliveries -/

theorem remembers_eventId :
    Remembers deliver Delivery.eventId fun s eventId => eventId ∈ s.processedEvents where
  records := by
    intro s d
    unfold deliver apply
    split_ifs with hrepeated
    · simpa using hrepeated
    all_goals simp
  keeps := by
    intro s d eventId hmem
    unfold deliver apply
    split_ifs
    · exact hmem
    all_goals exact mem_append_left _ hmem
  ignores := by
    intro s d hmem
    simp [deliver, apply, if_pos hmem]

theorem mem_processedEvents_deliver {eventId : String}
    (h : eventId ∈ (s.deliver d).processedEvents) :
    eventId ∈ s.processedEvents ∨ eventId = d.eventId := by
  unfold deliver apply at h
  split_ifs at h
  · exact .inl h
  all_goals exact (mem_append.1 h).imp_right mem_singleton.1

/-- Deliveries that repeat an id leave the subscription as it would be without them: the run ends
as the run of the first delivery of each id, and a repeat reports that it was not applied, with the
subscription unchanged. -/
theorem exec_deliver_repeats (s : Subscription) (ds : List Delivery) :
    exec Subscription.deliver s ds = exec Subscription.deliver s (firsts Delivery.eventId [] ds) ∧
      ∀ pre d post, ds = pre ++ d :: post → d.eventId ∈ pre.map Delivery.eventId →
        let found := exec Subscription.deliver s pre
        (found.outcome d).applied = false ∧ found.deliver d = found := by
  constructor
  · exact (remembers_eventId.exec_firsts (by simp) ds).symm
  · intro pre d post _ hrepeated
    have hseen := remembers_eventId.seen_exec s (.inr hrepeated)
    refine ⟨?_, remembers_eventId.ignores _ d hseen⟩
    rw [← not_eq_true, applied_outcome_iff]
    exact fun htakes => htakes.1 hseen

/-! ### Periods -/

/-- The billing period that an event pays. -/
def SubscriptionEvent.period : SubscriptionEvent → Option (ℤ × ℤ)
  | .renewed periodStart periodEnd | .reactivated periodStart periodEnd =>
    some (periodStart, periodEnd)
  | _ => none

theorem SubscriptionEvent.isRenewal_iff : event.isRenewal ↔ ∃ p, event.period = some p := by
  cases event <;> simp [isRenewal, period]

section Periods

/-- Without a renewal that counts the period stays, the streak does not grow and no fallback is
earned. -/
theorem deliver_of_not_renewal (h : ¬ (d.Takes s ∧ d.event.isRenewal)) :
    ((s.deliver d).currentPeriodStart = s.currentPeriodStart ∧
        (s.deliver d).currentPeriodEnd = s.currentPeriodEnd) ∧
      (s.deliver d).continuousPaidMonths ≤ s.continuousPaidMonths ∧
      ((s.deliver d).fallbackEarnedAt.isSome → s.fallbackEarnedAt.isSome) := by
  refine deliver_of (P := fun next => (next.currentPeriodStart = s.currentPeriodStart ∧
    next.currentPeriodEnd = s.currentPeriodEnd) ∧
    next.continuousPaidMonths ≤ s.continuousPaidMonths ∧
    (next.fallbackEarnedAt.isSome → s.fallbackEarnedAt.isSome))
    (fun htakes => ?_) fun _ _ => ⟨⟨rfl, rfl⟩, le_rfl, id⟩
  have hrenewal : ¬ d.event.isRenewal := fun hrenewal => h ⟨htakes, hrenewal⟩
  cases hevent : d.event with
  | renewed | reactivated => exact absurd (by rw [hevent]; rfl) hrenewal
  | fallbackRevoked => exact ⟨⟨rfl, rfl⟩, le_rfl, nofun⟩
  | refundReported => exact ⟨⟨rfl, rfl⟩, le_rfl, id⟩
  | _ =>
    simp only [transition]
    split_ifs <;> exact ⟨⟨rfl, rfl⟩, by simp, id⟩

variable {periodStart periodEnd : ℤ}

theorem transition_of_period (h : event.period = some (periodStart, periodEnd))
    (fallback : Option PerpetualFallback) (now dunningGraceSecs : ℤ) :
    s.transition event fallback now dunningGraceSecs =
      s.renew periodStart periodEnd fallback now := by
  cases event <;> cases h <;> rfl

theorem deliver_of_renewal (htakes : d.Takes s)
    (hperiod : d.event.period = some (periodStart, periodEnd)) :
    (s.deliver d).continuousPaidMonths ≤ s.continuousPaidMonths + paidMonths periodStart periodEnd ∧
      ((s.deliver d).fallbackEarnedAt.isSome →
        s.fallbackEarnedAt.isSome ∨ d.fallback.any (fun fallback =>
          decide (fallback.afterMonths ≤ (s.deliver d).continuousPaidMonths))) := by
  rw [deliver_eq_of_takes htakes, transition_of_period hperiod]
  refine ⟨min_le_right _ _, fun hearned => ?_⟩
  simp only [renew] at hearned
  split_ifs at hearned with hvests
  · exact .inr hvests.2
  · exact .inl hearned

theorem deliver_renewed (htakes : d.Takes s)
    (hperiod : d.event.period = some (periodStart, periodEnd)) :
    (s.deliver d).currentPeriodStart = periodStart ∧ (s.deliver d).currentPeriodEnd = periodEnd ∧
      ((s.deliver d).state = .active ∨ (s.deliver d).state = .canceling) := by
  rw [deliver_eq_of_takes htakes, transition_of_period hperiod]
  refine ⟨rfl, rfl, ?_⟩
  simp only [renew]
  split_ifs
  · exact .inr rfl
  · exact .inl rfl

theorem endsInFallback_of_state (hs : s.state ≠ .perpetualFallback)
    (h : (s.deliver d).state = .perpetualFallback) :
    d.Takes s ∧ d.event = .periodElapsed ∧ (s.state = .canceling ∨ s.state = .suspended) ∧
      s.fallbackEarnedAt.isSome := by
  have htakes : d.Takes s := by
    by_contra hnot
    exact hs ((state_deliver_of_not_takes hnot).symm.trans h)
  rw [state_deliver_of_takes htakes] at h
  refine ⟨htakes, ?_⟩
  cases hevent : d.event <;> cases hstate : s.state <;> cases hcanceled : s.canceledAt <;>
    cases hearned : s.fallbackEarnedAt <;> simp_all [target]

end Periods

/-! ### What the machine depends on -/

/-- A subscription without its names and its memory of events. -/
def Subscription.core (s : Subscription) : Subscription :=
  { s with provider := "", externalId := "", processedEvents := [] }

theorem Subscription.core_transition (s : Subscription) (event : SubscriptionEvent)
    (fallback : Option PerpetualFallback) (now dunningGraceSecs : ℤ) :
    (s.transition event fallback now dunningGraceSecs).core =
      s.core.transition event fallback now dunningGraceSecs := by
  cases event with
  | renewed | reactivated | fallbackRevoked | refundReported => rfl
  | _ =>
    simp only [transition]
    rw [apply_ite core]
    rfl

theorem Delivery.takes_core_iff (hfresh : d.eventId ∉ s.processedEvents) :
    d.Takes s ↔ d.Takes s.core :=
  and_congr_left fun _ => iff_of_true hfresh not_mem_nil

/-- Fresh deliveries of one event under two ids do the same to subscriptions with one core. -/
theorem core_deliver {s' : Subscription} (hcore : s'.core = s.core) {eventId : String}
    (hfresh : d.eventId ∉ s.processedEvents) (hfresh' : eventId ∉ s'.processedEvents) :
    (({ d with eventId } : Delivery).Takes s' ↔ d.Takes s) ∧
      (s'.deliver { d with eventId }).core = (s.deliver d).core := by
  have htakes_iff : ({ d with eventId } : Delivery).Takes s' ↔ d.Takes s := by
    rw [Delivery.takes_core_iff hfresh, Delivery.takes_core_iff hfresh', hcore]
    exact and_congr_left fun _ => iff_of_true not_mem_nil not_mem_nil
  refine ⟨htakes_iff, ?_⟩
  have hupdated : s'.core.updatedAt = s.core.updatedAt := by rw [hcore]
  change s'.updatedAt = s.updatedAt at hupdated
  by_cases htakes : d.Takes s
  · have hnext : (s'.transition d.event d.fallback d.now d.dunningGraceSecs).core =
        (s.transition d.event d.fallback d.now d.dunningGraceSecs).core := by
      rw [s.core_transition, s'.core_transition, hcore]
    rw [deliver_eq_of_takes htakes, deliver_eq_of_takes (htakes_iff.2 htakes)]
    simp only [core, mk.injEq] at hnext ⊢
    simp [hnext, hupdated]
  · obtain ⟨processed, heq⟩ := deliver_eq_of_not_takes htakes
    obtain ⟨processed', heq'⟩ := deliver_eq_of_not_takes (mt htakes_iff.1 htakes)
    rw [heq, heq']
    exact hcore

end CopyLocker.Server
