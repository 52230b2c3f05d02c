import CopyLocker.Foundation.Saturating
import CopyLocker.Types

/-!
# Subscriptions

The subscription lifecycle of `copylocker-server-core::subscription`: a state machine driven by
the events of a payment provider, which arrive late, out of order and more than once.
-/

namespace CopyLocker.Server

open Foundation.Saturating

/-- Where the version cap of a perpetual fallback is anchored. -/
inductive FallbackScopeAt
  | earnedAt
  | subscriptionStart
  deriving DecidableEq

/-- Terms of a perpetual fallback. -/
structure PerpetualFallback where
  afterMonths : ℕ
  scopeAt : FallbackScopeAt
  deriving DecidableEq

/-- The validity of a policy; only its subscription terms are read by the lifecycle. -/
inductive Validity
  | perpetual
  | fixedTerm (durationSecs : ℤ)
  | subscription (periodSecs dunningGraceSecs : ℤ) (fallback : Option PerpetualFallback)
  | trial (durationSecs : ℤ)
  deriving DecidableEq

/-- Lifecycle state. -/
inductive SubscriptionState
  | active
  | pastDue
  | canceling
  | suspended
  | ended
  | expired
  | perpetualFallback
  deriving DecidableEq

namespace SubscriptionState

/-- Whether the application should keep working in this state. -/
def isUsable : SubscriptionState → Bool
  | active | pastDue | canceling | perpetualFallback => true
  | suspended | ended | expired => false

/-- Whether this state can never change again. -/
def isTerminal : SubscriptionState → Bool
  | expired | perpetualFallback => true
  | active | pastDue | canceling | suspended | ended => false

end SubscriptionState

/-- A payment provider event. -/
inductive SubscriptionEvent
  | renewed (periodStart periodEnd : ℤ)
  | paymentFailed
  | paymentRecovered
  | cancelAtPeriodEnd
  | cancelReverted
  | periodElapsed
  | dunningElapsed
  | reactivated (periodStart periodEnd : ℤ)
  | fallbackRevoked
  | refundReported
  deriving DecidableEq

/-- Whether a late or terminal subscription still takes the event: a refund or a fraud decision
must always count. -/
def SubscriptionEvent.isSecurity : SubscriptionEvent → Bool
  | .fallbackRevoked | .refundReported => true
  | _ => false

/-- A subscription's stored state. -/
structure Subscription where
  provider : String
  externalId : String
  state : SubscriptionState
  currentPeriodStart : ℤ
  currentPeriodEnd : ℤ
  dunningUntil : Option ℤ
  continuousPaidMonths : ℕ
  fallbackEarnedAt : Option ℤ
  canceledAt : Option ℤ
  updatedAt : ℤ
  processedEvents : List String
  deriving DecidableEq

/-- What changed as a result of applying an event. -/
structure TransitionOutcome where
  applied : Bool
  stale : Bool
  source : Option SubscriptionState
  target : Option SubscriptionState
  fallbackEarned : Bool
  streakReset : Bool
  deriving DecidableEq

def TransitionOutcome.default : TransitionOutcome where
  applied := false
  stale := false
  source := none
  target := none
  fallbackEarned := false
  streakReset := false

/-- A month of thirty days. -/
def billingMonthSecs : ℤ := 30 * 86400

/-- The months that a billing period counts for, at least one. -/
def paidMonths (periodStart periodEnd : ℤ) : ℕ :=
  let periodSecs := max (signedSub 64 periodEnd periodStart) 0
  max (min (periodSecs / billingMonthSecs).toNat (unsignedMax 32)) 1

namespace Subscription

/-- A new active subscription. -/
def new (provider externalId : String) (periodStart periodEnd : ℤ) : Subscription where
  provider := provider
  externalId := externalId
  state := .active
  currentPeriodStart := periodStart
  currentPeriodEnd := periodEnd
  dunningUntil := none
  continuousPaidMonths := 0
  fallbackEarnedAt := none
  canceledAt := none
  updatedAt := periodStart
  processedEvents := []

variable (s : Subscription)

/-- Whether the app should work right now. -/
def isUsableAt (now : ℤ) : Bool :=
  match s.state with
  | .pastDue => s.dunningUntil.all fun d => decide (now < d)
  | other => other.isUsable

/-- What an ending subscription becomes. -/
def settleEnding : SubscriptionState :=
  if s.fallbackEarnedAt.isSome then .perpetualFallback else .expired

/-- A paid period: the streak grows and may earn the fallback, once. -/
def renew (periodStart periodEnd : ℤ) (fallback : Option PerpetualFallback) (now : ℤ) :
    Subscription :=
  let months := unsignedAdd 32 s.continuousPaidMonths (paidMonths periodStart periodEnd)
  { s with
    currentPeriodStart := periodStart
    currentPeriodEnd := periodEnd
    dunningUntil := none
    continuousPaidMonths := months
    state := if s.state = .canceling then .canceling else .active
    fallbackEarnedAt :=
      if s.fallbackEarnedAt.isNone ∧ fallback.any (fun f => decide (f.afterMonths ≤ months)) then
        some now
      else s.fallbackEarnedAt }

/-- The transition of an event that is neither a duplicate, stale nor absorbed. -/
def transition (event : SubscriptionEvent) (fallback : Option PerpetualFallback)
    (now dunningGraceSecs : ℤ) : Subscription :=
  match event with
  | .renewed periodStart periodEnd | .reactivated periodStart periodEnd =>
    s.renew periodStart periodEnd fallback now
  | .paymentFailed =>
    if s.state = .active ∨ s.state = .canceling then
      { s with state := .pastDue, dunningUntil := some (signedAdd 64 now dunningGraceSecs) }
    else s
  | .paymentRecovered =>
    if s.state = .pastDue then
      { s with
        state := if s.canceledAt.isSome then .canceling else .active
        dunningUntil := none }
    else s
  | .cancelAtPeriodEnd =>
    if s.state = .active ∨ s.state = .pastDue then
      { s with state := .canceling, canceledAt := some now }
    else s
  | .cancelReverted =>
    if s.state = .canceling then { s with state := .active, canceledAt := none } else s
  | .periodElapsed =>
    -- the second test of the source sees the state after the first, which is never `suspended`
    if s.state = .canceling ∨ s.state = .suspended then { s with state := s.settleEnding } else s
  | .dunningElapsed =>
    if s.state = .pastDue then { s with state := .suspended, continuousPaidMonths := 0 } else s
  | .fallbackRevoked =>
    { s with
      fallbackEarnedAt := none
      state := if s.state = .perpetualFallback then .expired else s.state }
  | .refundReported =>
    { s with
      dunningUntil := none
      state := if s.state = .perpetualFallback then .expired else .suspended }

/-- Apply a provider event; `now` is the event's own timestamp. -/
def apply (eventId : String) (event : SubscriptionEvent) (fallback : Option PerpetualFallback)
    (now dunningGraceSecs : ℤ) : Subscription × TransitionOutcome :=
  if s.processedEvents.contains eventId then (s, .default)
  else if now < s.updatedAt ∧ ¬ event.isSecurity then
    ({ s with processedEvents := s.processedEvents ++ [eventId] },
      { TransitionOutcome.default with stale := true })
  else if s.state.isTerminal ∧ ¬ event.isSecurity then
    ({ s with processedEvents := s.processedEvents ++ [eventId] }, .default)
  else
    let next := s.transition event fallback now dunningGraceSecs
    ({ next with
        updatedAt := max s.updatedAt now
        processedEvents := s.processedEvents ++ [eventId] },
      { applied := true
        stale := false
        source := some s.state
        target := some next.state
        fallbackEarned := s.fallbackEarnedAt.isNone && next.fallbackEarnedAt.isSome
        streakReset := event == .dunningElapsed && s.state == .pastDue &&
          s.continuousPaidMonths != 0 })

/-- The version cap a perpetual fallback confers, if earned. -/
def fallbackVersionCutoff (fallback : Option PerpetualFallback) : Option ℤ :=
  s.fallbackEarnedAt.bind fun earned =>
    fallback.map fun f =>
      match f.scopeAt with
      | .earnedAt => earned
      | .subscriptionStart => s.currentPeriodStart

end Subscription

end CopyLocker.Server
