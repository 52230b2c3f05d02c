import CopyLocker.Core.Clock

/-!
# The client state machine

The state machine of `copylocker-core::state`: a clock guard that runs first for
time-driven events, then a table over the state and the event. The core performs no I/O;
every call returns the effects the host must carry out.

## Main results

* `StateMachine.clockGuard_of_locksOut`, `StateMachine.clockGuard_of_tolerated_active`,
  `StateMachine.clockGuard_proceeds`: the three outcomes of the guard.
* `StateMachine.handle_of_timed`, `StateMachine.handle_of_not_timed`: which events it sees.
* `StateMachine.state_ne_tampered_of_handle`, `StateMachine.state_of_verificationFailed`: only a
  failed verification leads to `tampered`, and from every state but `revoked` it does.
-/

namespace CopyLocker.Core

open Foundation.Saturating ClockState

/-- Deadlines taken from the stored credential or the latest ticket. -/
structure Deadlines where
  refreshAfter : ℤ
  graceDeadline : ℤ
  notAfter : ℤ
  deriving DecidableEq

namespace Deadlines

/-- The deadlines of a machine that holds no credential. -/
def default : Deadlines := { refreshAfter := 0, graceDeadline := 0, notAfter := 0 }

/-- Whether a refresh is due at `now`. -/
def refreshDue (d : Deadlines) (now : ℤ) : Bool := decide (now ≥ d.refreshAfter)

/-- Whether the credential has run out entirely at `now`. -/
def hardExpired (d : Deadlines) (now : ℤ) : Bool := d.notAfter != 0 && decide (now ≥ d.notAfter)

/-- Whether the grace window has closed at `now`. -/
def graceExhausted (d : Deadlines) (now : ℤ) : Bool :=
  decide (now ≥ d.graceDeadline) || d.hardExpired now

end Deadlines

/-- Something that happened. -/
inductive Event
  | tick
  | networkAvailable
  | appResumed (monotonicGapMs : ℕ)
  | credentialLoaded
  | activationVerified
  | ticketVerified
  | ticketDenied (verdict : Verdict)
  | killOrderVerified (reason : KillReason)
  | networkFailed (error : TransientError)
  | verificationFailed (error : FatalError)
  | userDeactivate
  deriving DecidableEq

/-- The events whose reading goes through the clock guard. -/
def Event.isTimed : Event → Bool
  | tick | appResumed _ => true
  | networkAvailable | credentialLoaded | activationVerified | ticketVerified | ticketDenied _
  | killOrderVerified _ | networkFailed _ | verificationFailed _ | userDeactivate => false

/-- Something the host must do. -/
inductive Effect
  | persist (blob : Bytes)
  | sendValidation
  | wipeAll
  | stateChanged (state : LicenseState) (reason : StateReason)
  | scheduleWake (at_ : ℤ)
  deriving DecidableEq

/-- Tuning for the state machine. -/
structure CoreConfig where
  rollbackThreshold : ℕ
  minValidationIntervalSecs : ℤ
  deriving DecidableEq

/-- The tuning used where the host gives none. -/
def CoreConfig.default : CoreConfig :=
  { rollbackThreshold := defaultRollbackThreshold, minValidationIntervalSecs := 60 }

/-- The client state machine. -/
structure StateMachine where
  state : LicenseState
  clock : ClockState
  deadlines : Deadlines
  config : CoreConfig
  lastValidationAttempt : ℤ
  hasCredential : Bool
  deriving DecidableEq

namespace StateMachine

/-- Start with no credential. -/
def new (config : CoreConfig) (seedTime : ℤ) : StateMachine :=
  { state := .unlicensed
    clock := .new seedTime
    deadlines := .default
    config
    lastValidationAttempt := signedMin 64
    hasCredential := false }

variable (m : StateMachine)

/-- Install deadlines from a freshly verified credential or ticket. -/
def setDeadlines (d : Deadlines) : StateMachine := { m with deadlines := d }

/-- Note that a validation was attempted, for interval throttling. -/
def noteValidationAttempt (now : ℤ) : StateMachine :=
  { m with lastValidationAttempt := now }

/-- Whether a feature key may be derived right now. -/
def permitsKeyDerivation : Bool :=
  m.hasCredential && m.state.permitsKeyDerivation

/-- Whether an opportunistic validation is due, respecting the minimum interval. -/
def shouldOpportunisticallyValidate (now : ℤ) : Bool :=
  if m.deadlines.refreshDue now then true
  else
    decide (signedSub 64 now m.lastValidationAttempt ≥ m.config.minValidationIntervalSecs) &&
      m.state != .active

/-! ### Transitions -/

/-- Change the state; a state that is already there has no effect. -/
def transition (target : LicenseState) (reason : StateReason) : StateMachine × List Effect :=
  if m.state = target then (m, [])
  else ({ m with state := target }, [.stateChanged target reason])

/-- A verified ticket activates, and sets the wake-up. -/
def acceptTicket : StateMachine × List Effect :=
  let (m', effects) := m.transition .active .validated
  (m', effects ++ [.scheduleWake m'.deadlines.refreshAfter])

/-- A ticket that denies locks. -/
def denyTicket (verdict : Verdict) : StateMachine × List Effect :=
  m.transition .locked <| match verdict with
    | .ok => .validated
    | .needsReactivation => .reactivationRequired
    | .versionOutOfScope => .versionOutOfScope

/-- A kill order wipes. -/
def revoke (reason : KillReason) : StateMachine × List Effect :=
  ({ m with hasCredential := false, state := .revoked },
    [.wipeAll, .stateChanged .revoked (.killOrder reason)])

/-- A failed verification wipes. -/
def tamper : StateMachine × List Effect :=
  ({ m with hasCredential := false, state := .tampered },
    [.wipeAll, .stateChanged .tampered .integrityFailure])

/-- A deactivation wipes. -/
def wipe (reason : StateReason) : StateMachine × List Effect :=
  ({ m with hasCredential := false, state := .unlicensed },
    [.wipeAll, .stateChanged .unlicensed reason])

/-- Enter `active` with a credential in hand. -/
def activated : StateMachine × List Effect :=
  { m with hasCredential := true }.transition .active .activated

/-- As `activated`, and ask to be woken when the refresh is due. -/
def activatedWithWake : StateMachine × List Effect :=
  let (m', effects) := m.activated
  (m', effects ++ [.scheduleWake m'.deadlines.refreshAfter])

/-- Ask for a validation and remember when. -/
def sendValidation (now : ℤ) : StateMachine × List Effect :=
  ({ m with lastValidationAttempt := now }, [.sendValidation])

/-- The arm of `active` for a time-driven event. -/
def tickActive (now : ℤ) : StateMachine × List Effect :=
  if m.deadlines.hardExpired now then m.transition .locked .credentialExpired
  else if m.deadlines.refreshDue now then
    let (m', effects) := m.transition .needsRevalidation .refreshDue
    ({ m' with lastValidationAttempt := now }, effects ++ [.sendValidation])
  else (m, [])

/-- The arm of `needsRevalidation` and of `grace` for a time-driven event. -/
def tickGrace (now : ℤ) : StateMachine × List Effect :=
  if m.deadlines.graceExhausted now then m.transition .locked .graceExhausted else (m, [])

/-- The fail-open branch: a transient failure buys the grace window. -/
def enterGrace (now : ℤ) : StateMachine × List Effect :=
  if m.deadlines.graceExhausted now then m.transition .locked .graceExhausted
  else
    let (m', effects) := m.transition .grace .networkUnavailable
    (m', effects ++ [.scheduleWake m'.deadlines.graceDeadline])

/-- The table over the state and the event, at the effective time `now`. -/
def dispatch (event : Event) (now : ℤ) : StateMachine × List Effect :=
  match m.state, event with
  | .unlicensed, .credentialLoaded | .unlicensed, .activationVerified => m.activatedWithWake
  | .unlicensed, .verificationFailed _ => m.transition .tampered .integrityFailure
  | .unlicensed, .tick | .unlicensed, .networkAvailable | .unlicensed, .appResumed _
  | .unlicensed, .networkFailed _ | .unlicensed, .ticketVerified | .unlicensed, .ticketDenied _
  | .unlicensed, .userDeactivate => (m, [])
  | .unlicensed, .killOrderVerified r => m.revoke r
  | .activating, .activationVerified => m.activatedWithWake
  | .activating, .networkFailed _ => m.transition .unlicensed .networkUnavailable
  | .activating, .verificationFailed _ => m.transition .tampered .integrityFailure
  | .activating, .killOrderVerified r => m.revoke r
  | .activating, .tick | .activating, .networkAvailable | .activating, .appResumed _
  | .activating, .credentialLoaded | .activating, .ticketVerified
  | .activating, .ticketDenied _ => (m, [])
  | .activating, .userDeactivate => m.wipe .userRequested
  | .active, .tick | .active, .appResumed _ => m.tickActive now
  | .active, .networkAvailable =>
    if m.shouldOpportunisticallyValidate now then m.sendValidation now else (m, [])
  | .active, .ticketVerified => m.acceptTicket
  | .active, .ticketDenied verdict => m.denyTicket verdict
  | .active, .networkFailed _ => (m, [])
  | .active, .killOrderVerified r => m.revoke r
  | .active, .verificationFailed _ => m.tamper
  | .active, .userDeactivate => m.wipe .userRequested
  | .active, .credentialLoaded | .active, .activationVerified => (m, [])
  | .needsRevalidation, .ticketVerified => m.acceptTicket
  | .needsRevalidation, .ticketDenied verdict => m.denyTicket verdict
  | .needsRevalidation, .networkFailed _ => m.enterGrace now
  | .needsRevalidation, .tick | .needsRevalidation, .appResumed _ => m.tickGrace now
  | .needsRevalidation, .networkAvailable => m.sendValidation now
  | .needsRevalidation, .killOrderVerified r => m.revoke r
  | .needsRevalidation, .verificationFailed _ => m.tamper
  | .needsRevalidation, .userDeactivate => m.wipe .userRequested
  | .needsRevalidation, .credentialLoaded | .needsRevalidation, .activationVerified => (m, [])
  | .grace, .ticketVerified => m.acceptTicket
  | .grace, .ticketDenied verdict => m.denyTicket verdict
  | .grace, .tick | .grace, .appResumed _ => m.tickGrace now
  | .grace, .networkAvailable => m.sendValidation now
  | .grace, .networkFailed _ => (m, [])
  | .grace, .killOrderVerified r => m.revoke r
  | .grace, .verificationFailed _ => m.tamper
  | .grace, .userDeactivate => m.wipe .userRequested
  | .grace, .credentialLoaded | .grace, .activationVerified => (m, [])
  | .locked, .ticketVerified => m.acceptTicket
  | .locked, .ticketDenied verdict => m.denyTicket verdict
  | .locked, .networkAvailable => m.sendValidation now
  | .locked, .killOrderVerified r => m.revoke r
  | .locked, .verificationFailed _ => m.tamper
  | .locked, .userDeactivate => m.wipe .userRequested
  | .locked, .tick | .locked, .appResumed _ | .locked, .networkFailed _
  | .locked, .credentialLoaded | .locked, .activationVerified => (m, [])
  -- A wiped client comes back through a fresh activation and nothing else in this table.
  | .revoked, .activationVerified | .tampered, .activationVerified => m.activated
  | .revoked, .tick | .revoked, .networkAvailable | .revoked, .appResumed _
  | .revoked, .credentialLoaded | .revoked, .ticketVerified | .revoked, .ticketDenied _
  | .revoked, .networkFailed _ | .revoked, .verificationFailed _
  | .revoked, .killOrderVerified _ | .revoked, .userDeactivate => (m, [])
  | .tampered, .tick | .tampered, .networkAvailable | .tampered, .appResumed _
  | .tampered, .credentialLoaded | .tampered, .ticketVerified | .tampered, .ticketDenied _
  | .tampered, .networkFailed _ | .tampered, .verificationFailed _
  | .tampered, .killOrderVerified _ | .tampered, .userDeactivate => (m, [])

/-- What the clock guard leaves to do for a time-driven event. -/
inductive Guarded
  | done (m : StateMachine) (effects : List Effect)
  | proceed (m : StateMachine) (now : ℤ)

/-- The clock guard: it runs before the table, and a rollback may end the call early. -/
def clockGuard (wallClock : ℤ) : Guarded :=
  match m.clock.check wallClock with
  | (clock, .rollback _) | (clock, .implausibleJump _) =>
    let m := { m with clock }
    if m.clock.exceedsRollbackThreshold m.config.rollbackThreshold then
      let (m', effects) := m.transition .locked .clockRollback
      .done m' effects
    else if m.state = .active then
      let (m', effects) := m.transition .needsRevalidation .clockRollback
      .done m' (effects ++ [.sendValidation])
    else .proceed m (m.clock.effectiveNow wallClock)
  | (clock, .ok) => .proceed { m with clock } (clock.effectiveNow wallClock)

/-- Handle an event at a wall-clock reading. -/
def handle (event : Event) (wallClock : ℤ) : StateMachine × List Effect :=
  match event with
  | .tick | .appResumed _ =>
    match m.clockGuard wallClock with
    | .done m' effects => (m', effects)
    | .proceed m' now => m'.dispatch event now
  | event => m.dispatch event (m.clock.effectiveNow wallClock)

/-! ### What a call does -/

/-- The state machine after a transition, whether or not the state was already there. -/
@[simp] theorem transition_fst (target : LicenseState) (reason : StateReason) :
    (m.transition target reason).1 = { m with state := target } := by
  unfold transition
  split_ifs with h
  · rw [← h]
  · rfl

/-- One more rollback at this reading exceeds the configured tolerance. -/
def LocksOut (wallClock : ℤ) : Prop :=
  m.clock.RolledBack wallClock ∧ m.config.rollbackThreshold < m.clock.countRollback.rollbackEvents

instance (m : StateMachine) (wallClock : ℤ) : Decidable (m.LocksOut wallClock) :=
  inferInstanceAs (Decidable (_ ∧ _))

/-- The machine after the guard has looked at a reading and let the call proceed. -/
def afterCheck (wallClock : ℤ) : StateMachine :=
  { m with clock := (m.clock.check wallClock).1 }

variable {m} {w : ℤ} {e : Event}

theorem clockGuard_of_locksOut (h : m.LocksOut w) :
    m.clockGuard w = .done { m with clock := m.clock.countRollback, state := .locked }
        (({ m with clock := m.clock.countRollback } : StateMachine).transition
          .locked .clockRollback).2 := by
  have hc : m.clock.countRollback.exceedsRollbackThreshold m.config.rollbackThreshold :=
    decide_eq_true h.2
  simp [clockGuard, check_of_rolledBack h.1, hc, transition_fst]

/-- A tolerated rollback takes an active machine to `needsRevalidation`, whatever its
deadlines say. -/
theorem clockGuard_of_tolerated_active (hr : m.clock.RolledBack w) (hl : ¬ m.LocksOut w)
    (ha : m.state = .active) :
    ∃ effects, m.clockGuard w =
      .done { m with clock := m.clock.countRollback, state := .needsRevalidation } effects := by
  have hc : m.clock.countRollback.exceedsRollbackThreshold m.config.rollbackThreshold = false :=
    decide_eq_false fun h ↦ hl ⟨hr, h⟩
  simp only [clockGuard, check_of_rolledBack hr, hc, ha, if_true, if_false,
    Bool.false_eq_true, transition_fst]
  exact ⟨_, rfl⟩

/-- In every other case the guard counts or advances, and the table is consulted at the
effective time. -/
theorem clockGuard_proceeds (hl : ¬ m.LocksOut w) (ha : m.clock.RolledBack w → m.state ≠ .active) :
    m.clockGuard w = .proceed (m.afterCheck w) (m.clock.effectiveNow w) := by
  by_cases hr : m.clock.RolledBack w
  · have hc : m.clock.countRollback.exceedsRollbackThreshold m.config.rollbackThreshold = false :=
      decide_eq_false fun h ↦ hl ⟨hr, h⟩
    simp [clockGuard, check_of_rolledBack hr, hc, ha hr, afterCheck, effectiveNow_countRollback]
  · simp [clockGuard, check_of_not_rolledBack hr, afterCheck, effectiveNow_effectiveNow]

theorem handle_of_not_timed (he : e.isTimed = false) :
    m.handle e w = m.dispatch e (m.clock.effectiveNow w) := by
  cases e <;> first | rfl | cases he

private theorem handle_of_timed (he : e.isTimed) :
    m.handle e w = match m.clockGuard w with
      | .done m' effects => (m', effects)
      | .proceed m' now => m'.dispatch e now := by
  cases e <;> first | rfl | cases he

/-- A time-driven event locks the machine for its rollbacks, asks an active one to validate after a
rollback, or goes to the table at the effective time. -/
theorem handle_timed (m : StateMachine) (w : ℤ) (he : e.isTimed) :
    (m.LocksOut w ∧ ∃ effects, m.handle e w =
        ({ m with clock := m.clock.countRollback, state := .locked }, effects)) ∨
      (¬ m.LocksOut w ∧ m.clock.RolledBack w ∧ m.state = .active ∧ ∃ effects, m.handle e w =
        ({ m with clock := m.clock.countRollback, state := .needsRevalidation }, effects)) ∨
      (¬ m.LocksOut w ∧ (m.clock.RolledBack w → m.state ≠ .active) ∧
        m.handle e w = (m.afterCheck w).dispatch .tick (m.clock.effectiveNow w)) := by
  rw [handle_of_timed he]
  by_cases hlocks : m.LocksOut w
  · rw [clockGuard_of_locksOut hlocks]
    exact .inl ⟨hlocks, _, rfl⟩
  · by_cases hback : m.clock.RolledBack w ∧ m.state = .active
    · obtain ⟨effects, hguard⟩ := clockGuard_of_tolerated_active hback.1 hlocks hback.2
      rw [hguard]
      exact .inr (.inl ⟨hlocks, hback.1, hback.2, effects, rfl⟩)
    · have hproceeds : m.clock.RolledBack w → m.state ≠ .active := fun hr ha ↦ hback ⟨hr, ha⟩
      rw [clockGuard_proceeds hlocks hproceeds]
      refine .inr (.inr ⟨hlocks, hproceeds, ?_⟩)
      -- both time-driven events go through the same arms of the table
      obtain ⟨state, clock, deadlines, config, last, has⟩ := m
      cases e <;> first | rfl | cases he
      cases state <;> rfl

theorem dispatch_frame (m : StateMachine) (e : Event) (now : ℤ) :
    (m.dispatch e now).1.clock = m.clock ∧ (m.dispatch e now).1.deadlines = m.deadlines := by
  unfold dispatch
  split <;> simp only [activatedWithWake, activated, acceptTicket, denyTicket, revoke, tamper,
    wipe, sendValidation, tickActive, tickGrace, enterGrace, transition_fst, and_self] <;>
    split_ifs <;> simp only [transition_fst, and_self]

/-! ### Where `tampered` comes from -/

section Tampered

variable {now : ℤ}

private theorem state_ne_tampered_of_dispatch (he : ∀ error, e ≠ .verificationFailed error)
    (h : m.state ≠ .tampered) : (m.dispatch e now).1.state ≠ .tampered := by
  have hactive : (m.tickActive now).1.state ≠ .tampered := by
    unfold tickActive
    split_ifs <;> simp [h]
  have hgrace : (m.tickGrace now).1.state ≠ .tampered := by
    unfold tickGrace
    split_ifs <;> simp [h]
  have hentered : (m.enterGrace now).1.state ≠ .tampered := by
    unfold enterGrace
    split_ifs <;> simp
  unfold dispatch
  split
  all_goals first
    | simp [h, hactive, hgrace, hentered, sendValidation, activatedWithWake, activated, revoke,
        wipe, acceptTicket, denyTicket]; done
    | exact absurd rfl (he _)
    | (split_ifs <;> exact h)

/-- Only a failed verification leads to `tampered`. -/
theorem state_ne_tampered_of_handle (he : ∀ error, e ≠ .verificationFailed error)
    (h : m.state ≠ .tampered) : (m.handle e now).1.state ≠ .tampered := by
  by_cases htimed : e.isTimed
  · obtain ⟨-, effects, hresult⟩ | ⟨-, -, -, effects, hresult⟩ | ⟨-, -, hresult⟩ :=
      handle_timed m now htimed
    · simp [hresult]
    · simp [hresult]
    · rw [hresult]
      exact state_ne_tampered_of_dispatch (by simp) h
  · rw [handle_of_not_timed (by simpa using htimed)]
    exact state_ne_tampered_of_dispatch he h

/-- A failed verification leads there, unless the client has been revoked. -/
theorem state_of_verificationFailed (m : StateMachine) (error : FatalError) (now : ℤ) :
    (m.handle (.verificationFailed error) now).1.state =
      if m.state = .revoked then .revoked else .tampered := by
  obtain ⟨state, clock, deadlines, config, last, has⟩ := m
  cases state <;> rfl

end Tampered

end StateMachine

end CopyLocker.Core
