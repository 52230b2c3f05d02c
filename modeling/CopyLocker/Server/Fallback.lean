import CopyLocker.Server.SubscriptionRuns

/-!
# Earning and keeping a perpetual fallback

A fallback vests when the months paid without an interruption reach those of its terms. The counter
of the source is set back by a lapsed dunning period and by nothing else, so months paid before a
refund or a revocation count again afterwards. The cutoff of a vested fallback is the instant of the
vesting, or the start of the current period, which renewals move.
-/

namespace CopyLocker.Server

open Foundation.Run Subscription SubscriptionEvent Option

/-! ### The streak -/

/-- The months that an event adds to the streak. -/
def SubscriptionEvent.months (event : SubscriptionEvent) : ℕ :=
  event.period.elim 0 fun p => paidMonths p.1 p.2

/-- The delivery suspends the subscription at the end of its dunning period. -/
def Delivery.lapses (d : Delivery) (s : Subscription) : Bool :=
  d.event == .dunningElapsed && s.state == .pastDue

/-- A subscription with the months of the periods counted since its last interruption. -/
structure Streak where
  subscription : Subscription
  months : ℕ

namespace Streak

def new (provider externalId : String) (periodStart periodEnd : ℤ) : Streak :=
  ⟨.new provider externalId periodStart periodEnd, 0⟩

/-- The months are counted anew after an interruption. -/
def step (t : Streak) (d : Delivery) : Streak where
  subscription := t.subscription.deliver d
  months :=
    if d.Takes t.subscription then
      if d.lapses t.subscription || d.event.isSecurity then 0 else t.months + d.event.months
    else t.months

/-- If the delivery vests a fallback, the months are enough for its terms. -/
def Vests (t : Streak) (d : Delivery) : Prop :=
  t.subscription.fallbackEarnedAt = none → (t.step d).subscription.fallbackEarnedAt.isSome = true →
    d.fallback.any (fun f => decide (f.afterMonths ≤ (t.step d).months)) = true

instance (t : Streak) (d : Delivery) : Decidable (t.Vests d) := inferInstanceAs (Decidable (_ → _))

/-- The delivery is no refund and no revocation that counts. -/
def Quiet (t : Streak) (d : Delivery) : Prop :=
  d.Takes t.subscription → d.event.isSecurity = false

end Streak

section Streak

variable {s : Subscription} {d : Delivery} {t : Streak}

private theorem months_deliver_le (htakes : d.Takes s) :
    (s.deliver d).continuousPaidMonths ≤ s.continuousPaidMonths + d.event.months := by
  by_cases hrenewal : d.event.isRenewal
  · obtain ⟨p, hperiod⟩ := isRenewal_iff.1 hrenewal
    simpa [months, hperiod] using (deliver_of_renewal htakes hperiod).1
  · exact Nat.le_trans (deliver_of_not_renewal fun h => hrenewal h.2).2.1 (Nat.le_add_right _ _)

/-- While no refund and no revocation counts, the counter of the source stays within the months. -/
theorem Streak.counter_step (h : t.subscription.continuousPaidMonths ≤ t.months)
    (hquiet : t.Quiet d) :
    (t.step d).subscription.continuousPaidMonths ≤ (t.step d).months := by
  by_cases htakes : d.Takes t.subscription
  · simp only [Streak.step, if_pos htakes, hquiet htakes, Bool.or_false]
    cases hlapses : d.lapses t.subscription with
    | true =>
      obtain ⟨hevent, hstate⟩ : d.event = .dunningElapsed ∧ t.subscription.state = .pastDue := by
        simpa [Delivery.lapses] using hlapses
      simp [deliver_eq_of_takes htakes, hevent, transition, hstate]
    | false => exact Nat.le_trans (months_deliver_le htakes) (Nat.add_le_add_right h _)
  · obtain ⟨processed, heq⟩ := deliver_eq_of_not_takes htakes
    simpa only [Streak.step, if_neg htakes, heq] using h

/-- Only a renewal vests, with the counter of the source. -/
theorem Streak.vests_of_counter (h : t.subscription.continuousPaidMonths ≤ t.months)
    (d : Delivery) : t.Vests d := by
  intro hnone hsome
  have hnot : ¬ t.subscription.fallbackEarnedAt.isSome := by simp [hnone]
  have hrenewal : d.Takes t.subscription ∧ d.event.isRenewal := by
    by_contra hother
    exact hnot ((deliver_of_not_renewal hother).2.2 hsome)
  obtain ⟨p, hperiod⟩ := isRenewal_iff.1 hrenewal.2
  have hvests := ((deliver_of_renewal hrenewal.1 hperiod).2 hsome).resolve_left hnot
  have hcounter := Streak.counter_step h (d := d) fun _ => by
    cases hevent : d.event <;> simp [hevent, isRenewal] at hrenewal <;> rfl
  cases hfallback : d.fallback with
  | none => simp [hfallback] at hvests
  | some f =>
    rw [hfallback, any_some, decide_eq_true_eq] at hvests
    simpa using Nat.le_trans hvests hcounter

/-- A vested fallback keeps its instant through everything but a revocation. -/
theorem fallbackEarnedAt_deliver {earned : ℤ} (hearned : s.fallbackEarnedAt = some earned)
    (hrevoked : d.event ≠ .fallbackRevoked) : (s.deliver d).fallbackEarnedAt = some earned := by
  refine deliver_of (P := fun next => next.fallbackEarnedAt = some earned) (fun _ => ?_)
    fun _ _ => hearned
  cases hevent : d.event with
  | fallbackRevoked => exact absurd hevent hrevoked
  | renewed | reactivated => simp [transition, renew, hearned]
  | refundReported => exact hearned
  | _ =>
    simp only [transition]
    split_ifs <;> exact hearned

end Streak

/-- A fallback vests only with enough months since the last interruption, if no refund and no
revocation has counted since the counter of the source was last zero. Once vested, it is taken back
by a revocation only. -/
theorem streak_rule (provider externalId : String) (periodStart periodEnd : ℤ)
    (ds : List Delivery) :
    let t := Streak.new provider externalId periodStart periodEnd
    (∀ pre mid d post, ds = pre ++ mid ++ d :: post →
      (exec Streak.step t pre).subscription.continuousPaidMonths = 0 →
      Along Streak.step Streak.Quiet (exec Streak.step t pre) mid →
        (exec Streak.step t (pre ++ mid)).Vests d) ∧
    Along Streak.step (fun t d => t.subscription.fallbackEarnedAt.isSome →
      (t.step d).subscription.fallbackEarnedAt = none → d.event = .fallbackRevoked) t ds := by
  refine ⟨fun pre mid d post _ hzero hquiet => Streak.vests_of_counter ?_ d, ?_⟩
  · rw [exec_append]
    exact exec_induction_along
      (I := fun t : Streak => t.subscription.continuousPaidMonths ≤ t.months)
      (fun t d h hd => Streak.counter_step h hd) (by simp [hzero]) hquiet
  · refine (along_iff_forall_split _ _).2 fun pre d post _ hsome hnone => ?_
    obtain ⟨earned, hearned⟩ := isSome_iff_exists.1 hsome
    by_contra hrevoked
    exact some_ne_none earned ((fallbackEarnedAt_deliver hearned hrevoked).symm.trans hnone)

/-- A month paid before a refund and one after it earn a fallback of two months. -/
theorem refunded_month_counts_again :
    let delivery (eventId : String) (event : SubscriptionEvent) (now : ℤ) : Delivery :=
      ⟨eventId, event, some ⟨2, .earnedAt⟩, now, 604800⟩
    ¬ Along Streak.step Streak.Vests (.new "stripe" "sub_1" 0 2592000)
      [ delivery "evt_1" (.renewed 2592000 5184000) 2592000,
        delivery "evt_2" .refundReported 2592001,
        delivery "evt_3" (.reactivated 5184000 7776000) 5184000 ] := by
  decide

/-! ### The cutoff -/

/-- A renewal that counts and begins at another instant than the current period. -/
def Delivery.MovesStart (d : Delivery) (s : Subscription) : Prop :=
  d.Takes s ∧ d.event.period.any (fun p => p.1 != s.currentPeriodStart) = true

/-- Under the given terms, the cutoff is the same after every delivery. -/
def Subscription.KeepsCutoff (s : Subscription) (fallback : PerpetualFallback)
    (ds : List Delivery) : Prop :=
  ∀ pre post, ds = pre ++ post →
    (exec Subscription.deliver s pre).fallbackVersionCutoff (some fallback) =
      s.fallbackVersionCutoff (some fallback)

private theorem currentPeriodStart_deliver_iff {s : Subscription} {d : Delivery} :
    (s.deliver d).currentPeriodStart ≠ s.currentPeriodStart ↔ d.MovesStart s := by
  by_cases hrenewal : d.Takes s ∧ d.event.isRenewal
  · obtain ⟨p, hperiod⟩ := isRenewal_iff.1 hrenewal.2
    simp [Delivery.MovesStart, hrenewal.1, hperiod, (deliver_renewed hrenewal.1 hperiod).1]
  · refine iff_of_false (fun h => h (deliver_of_not_renewal hrenewal).1.1) ?_
    rintro ⟨htakes, hmoves⟩
    obtain ⟨p, hperiod, -⟩ := (any_eq_true _ _).1 hmoves
    exact hrenewal ⟨htakes, isRenewal_iff.2 ⟨p, hperiod⟩⟩

/-- After a fallback has vested and until it is revoked, its cutoff stays the same exactly when it
is the instant of vesting or no renewal that counts moves the start of the period. -/
theorem cutoff_stable_iff (s : Subscription) (hearned : s.fallbackEarnedAt.isSome = true)
    (fallback : PerpetualFallback) (ds : List Delivery)
    (hrevoked : ∀ d ∈ ds, d.event ≠ .fallbackRevoked) :
    s.KeepsCutoff fallback ds ↔ fallback.scopeAt = .earnedAt ∨
        Along Subscription.deliver (fun s d => ¬ d.MovesStart s) s ds := by
  obtain ⟨earned, hearned⟩ := isSome_iff_exists.1 hearned
  have hkept (pre post : List Delivery) (hsplit : ds = pre ++ post) :
      (exec deliver s pre).fallbackEarnedAt = some earned := by
    refine exec_induction_along (I := fun s : Subscription => s.fallbackEarnedAt = some earned)
      (P := fun _ d => d.event ≠ .fallbackRevoked)
      (fun s d hs hd => fallbackEarnedAt_deliver hs hd) hearned ((along_const s pre).2 ?_)
    intro d hd
    exact hrevoked d (hsplit ▸ List.mem_append_left _ hd)
  cases hscope : fallback.scopeAt with
  | earnedAt =>
    refine iff_of_true (fun pre post hsplit => ?_) (.inl rfl)
    simp [fallbackVersionCutoff, hkept pre post hsplit, hearned, hscope]
  | subscriptionStart =>
    have hstep (s' : Subscription) (d : Delivery)
        (hs' : ¬ s'.currentPeriodStart ≠ s.currentPeriodStart) (_ : True) :
        (s'.deliver d).currentPeriodStart ≠ s.currentPeriodStart ↔ d.MovesStart s' := by
      rw [← not_not.1 hs', currentPeriodStart_deliver_iff]
    have hnever := never_iff_along hstep (not_not.2 rfl) fun d (_ : d ∈ ds) => trivial
    rw [or_iff_right (by simp), ← hnever]
    refine forall_congr' fun pre => forall_congr' fun post => forall_congr' fun hsplit => ?_
    simp [fallbackVersionCutoff, hkept pre post hsplit, hearned, hscope]

/-- The renewal of the month after the first one. -/
def nextRenewal : Delivery := sampleDelivery "evt_2" (.renewed 2592000 5184000) 2592000

/-- A renewal moves the cutoff that is the start of the subscription. -/
theorem renewal_moves_cutoff :
    earnedSubscription.fallbackEarnedAt.isSome = true ∧
      ¬ earnedSubscription.KeepsCutoff ⟨1, .subscriptionStart⟩ [nextRenewal] := by
  refine ⟨by decide, fun hkeeps => ?_⟩
  have hmoved := hkeeps [nextRenewal] [] rfl
  revert hmoved
  decide

/-- Under the other rule the same renewal leaves it alone. -/
theorem renewal_keeps_earnedAt_cutoff :
    earnedSubscription.KeepsCutoff ⟨1, .earnedAt⟩ [nextRenewal] :=
  (cutoff_stable_iff earnedSubscription (by decide) _ _ (by decide)).2 (.inl rfl)

end CopyLocker.Server
