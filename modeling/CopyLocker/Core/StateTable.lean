import CopyLocker.Core.Standing

/-!
# The machine against its documented table

The documentation of `copylocker-core::state` gives the transitions as a table and says of the
states which of them permit keys and which of them require a wipe. Two of its promises are compared
with the machine.

Past the end of grace, or past a hard expiry, a time-driven event should leave no machine that
permits keys. The arm of `active` looks at the hard expiry and at the refresh only, and a tolerated
rollback takes an active machine to `needsRevalidation` before any deadline is looked at.

The state and the flag for the credential should belong together, and a machine that comes to be
revoked or tampered should order a wipe. Two transitions break this: a ticket takes a locked machine
to `active` whether or not it holds a credential, and a failed verification takes an unlicensed one
to `tampered` without a wipe.

## Main results

* `StateMachine.timed_past_deadline_iff`: when a passed deadline takes the keys away.
* `StateMachine.custody_kept_iff`: when the state and the credential agree along a run.
-/

namespace CopyLocker.Core.StateMachine

open Foundation.Run Foundation.Saturating

variable {m : StateMachine} {e : Event} {w : ℤ}

/-! ### Past a deadline -/

/-- Past a deadline the table takes the keys from every machine but an active one that has not run
out. -/
theorem dispatch_tick_past_deadline {now : ℤ} (hpast : m.deadlines.graceExhausted now) :
    (m.dispatch .tick now).1.state.permitsKeyDerivation = false ↔
      (m.state = .active → m.deadlines.hardExpired now) := by
  cases hs : m.state with
  | active =>
    rw [dispatch_tick_active_permits hs, Bool.not_eq_false']
    exact ⟨fun h _ => h, fun h => h rfl⟩
  | needsRevalidation | grace =>
    rw [dispatch_tick_state, hs]
    simp only [hpast, if_true]
    exact iff_of_true rfl nofun
  | unlicensed | activating | locked | revoked | tampered =>
    rw [dispatch_tick_state, hs]
    exact iff_of_true rfl nofun

/-- A time-driven event whose effective time is at or past the end of grace, or at or past a hard
expiry, leaves no state that permits keys, except from `active`: there it does if the rollbacks are
too many, or if the reading is no rollback and the hard expiry has passed. -/
theorem timed_past_deadline_iff (he : e.isTimed = true)
    (hpast : m.deadlines.graceDeadline ≤ m.clock.effectiveNow w ∨
      (m.deadlines.notAfter ≠ 0 ∧ m.deadlines.notAfter ≤ m.clock.effectiveNow w)) :
    (m.handle e w).1.state.permitsKeyDerivation = false ↔ (m.state = .active → m.LocksOut w ∨
        (¬ m.clock.RolledBack w ∧ m.deadlines.notAfter ≠ 0 ∧
          m.deadlines.notAfter ≤ m.clock.effectiveNow w)) := by
  have hexhausted : m.deadlines.graceExhausted (m.clock.effectiveNow w) := by
    simpa [Deadlines.graceExhausted, Deadlines.hardExpired] using hpast
  have hexpired : m.deadlines.hardExpired (m.clock.effectiveNow w) ↔
      m.deadlines.notAfter ≠ 0 ∧ m.deadlines.notAfter ≤ m.clock.effectiveNow w := by
    simp [Deadlines.hardExpired]
  obtain ⟨hlocks, effects, hresult⟩ | ⟨hlocks, hrolled, hactive, effects, hresult⟩ |
    ⟨hlocks, hnot, hresult⟩ := m.handle_timed w he
  · rw [hresult]
    exact iff_of_true rfl fun _ => .inl hlocks
  · rw [hresult]
    refine iff_of_false Bool.noConfusion fun h => ?_
    rcases h hactive with hlocks' | ⟨hnot, -⟩
    · exact hlocks hlocks'
    · exact hnot hrolled
  · rw [hresult, dispatch_tick_afterCheck, dispatch_tick_past_deadline hexhausted, hexpired]
    refine forall_congr' fun hactive => ?_
    rw [or_iff_right hlocks, and_iff_right fun hrolled => hnot hrolled hactive]

/-- A machine at mark `1000` whose grace ended at `850`: active, or after the tick that asks it to
validate. -/
def graceEnded (state : LicenseState) : StateMachine :=
  exec call (new .default 1000)
    ([.setDeadlines { refreshAfter := 800, graceDeadline := 850, notAfter := 0 },
      .handle .credentialLoaded 1000] ++
      if state = .active then [] else [.handle .tick 1000])

theorem reachable_graceEnded (state : LicenseState) : (graceEnded state).Reachable := by
  refine ⟨.default, 1000, _, by decide, ?_, rfl⟩
  split_ifs <;> simp [Call.WellTyped, IsI64, signedMin, signedMax]

/-- A machine that waits for its validation is locked at the end of grace. -/
theorem waiting_machine_locked_after_grace :
    (graceEnded .needsRevalidation).Reachable ∧
      ((graceEnded .needsRevalidation).handle .tick 1000).1.state.permitsKeyDerivation = false :=
  ⟨reachable_graceEnded _, (timed_past_deadline_iff rfl (.inl (by decide))).2
    fun hactive => absurd hactive (by decide)⟩

/-- An active machine goes on permitting keys at the end of grace. -/
theorem active_machine_kept_after_grace :
    (graceEnded .active).Reachable ∧
      (graceEnded .active).deadlines.graceDeadline ≤ (graceEnded .active).clock.effectiveNow 1000 ∧
      ((graceEnded .active).handle .tick 1000).1.permitsKeyDerivation = true :=
  ⟨reachable_graceEnded _, by decide, by decide⟩

/-! ### The state and the credential -/

/-- A state that permits keys has a credential, and one without license has none. -/
def Custody (m : StateMachine) : Prop :=
  (m.state.permitsKeyDerivation = true → m.hasCredential = true) ∧
    (m.state = .unlicensed ∨ m.state.requiresWipe = true → m.hasCredential = false)

/-- If the call enters `revoked` or `tampered`, it orders a wipe. -/
def OrdersWipe (m : StateMachine) (e : Event × ℤ) : Prop :=
  (m.step e).state.requiresWipe = true → (m.step e).state ≠ m.state →
    .wipeAll ∈ (m.handle e.1 e.2).2

/-- A ticket for a locked machine without credential, or a failed verification of an unlicensed
one. -/
def Irregular (m : StateMachine) : Event → Prop
  | .ticketVerified => m.state = .locked ∧ m.hasCredential = false
  | .verificationFailed _ => m.state = .unlicensed
  | .tick | .networkAvailable | .appResumed _ | .credentialLoaded | .activationVerified
  | .ticketDenied _ | .killOrderVerified _ | .networkFailed _ | .userDeactivate => False

/-- A machine that agrees with its credential and is not in the state that no event enters. -/
def Regular (m : StateMachine) : Prop := m.Custody ∧ m.state ≠ .activating

/-- The outcome of a call agrees with its credential, and a wipe is ordered where one is due. -/
def Orderly (m : StateMachine) (outcome : StateMachine × List Effect) : Prop :=
  outcome.1.Regular ∧
    (outcome.1.state.requiresWipe = true → outcome.1.state ≠ m.state → .wipeAll ∈ outcome.2)

section Outcomes

variable {outcome : StateMachine × List Effect}

/-- The state and the flag stay as they are. -/
theorem Regular.unchanged (h : m.Regular) (hstate : outcome.1.state = m.state)
    (hhas : outcome.1.hasCredential = m.hasCredential) : m.Orderly outcome := by
  refine ⟨?_, fun _ hne => absurd hstate hne⟩
  rw [Regular, Custody, hstate, hhas]
  exact h

theorem orderly_of_held (hpermits : outcome.1.state.permitsKeyDerivation)
    (hhas : outcome.1.hasCredential) : m.Orderly outcome := by
  cases hs : outcome.1.state <;>
    simp_all [Orderly, Regular, Custody, LicenseState.permitsKeyDerivation,
      LicenseState.requiresWipe]

/-- A transition to a state that permits keys, whatever it orders besides. -/
theorem orderly_transition {m' : StateMachine} {target : LicenseState} {reason : StateReason}
    (effects : List Effect) (hpermits : target.permitsKeyDerivation) (hhas : m'.hasCredential) :
    m.Orderly ((m'.transition target reason).1, effects) := by
  rw [transition_fst]
  exact orderly_of_held hpermits hhas

theorem orderly_of_locked (hstate : outcome.1.state = .locked) : m.Orderly outcome := by
  simp [Orderly, Regular, Custody, hstate, LicenseState.permitsKeyDerivation,
    LicenseState.requiresWipe]

theorem orderly_of_wiped (hstate : outcome.1.state = .unlicensed ∨
      outcome.1.state.requiresWipe) (hhas : outcome.1.hasCredential = false)
    (hwipe : .wipeAll ∈ outcome.2) : m.Orderly outcome := by
  cases hs : outcome.1.state <;>
    simp_all [Orderly, Regular, Custody, LicenseState.permitsKeyDerivation,
      LicenseState.requiresWipe]

end Outcomes

theorem Regular.tickActive (h : m.Regular) (ha : m.state = .active) (now : ℤ) :
    m.Orderly (m.tickActive now) := by
  have hhas : m.hasCredential := h.1.1 (ha ▸ rfl)
  unfold StateMachine.tickActive
  split_ifs
  · exact orderly_of_locked (by rw [transition_fst])
  · refine orderly_of_held ?_ ?_
    · simp [transition_fst, LicenseState.permitsKeyDerivation]
    · simp [transition_fst, hhas]
  · exact h.unchanged rfl rfl

theorem Regular.tickGrace (h : m.Regular) (now : ℤ) : m.Orderly (m.tickGrace now) := by
  unfold StateMachine.tickGrace
  split_ifs
  · exact orderly_of_locked (by rw [transition_fst])
  · exact h.unchanged rfl rfl

theorem orderly_enterGrace (hhas : m.hasCredential) (now : ℤ) :
    m.Orderly (m.enterGrace now) := by
  unfold enterGrace
  split_ifs
  · exact orderly_of_locked (by rw [transition_fst])
  · exact orderly_transition _ rfl hhas

private theorem orderly_acceptTicket (hhas : m.hasCredential) : m.Orderly m.acceptTicket :=
  orderly_transition _ rfl hhas

private theorem orderly_activated : m.Orderly m.activated := orderly_transition _ rfl rfl

theorem orderly_activatedWithWake : m.Orderly m.activatedWithWake := orderly_transition _ rfl rfl

theorem Regular.dispatch (h : m.Regular) (hregular : ¬ m.Irregular e) (now : ℤ) :
    m.Orderly (m.dispatch e now) := by
  have hsame : m.Orderly (m, []) := h.unchanged rfl rfl
  have hsend : m.Orderly (m.sendValidation now) := h.unchanged rfl rfl
  have hrevoke (reason : KillReason) : m.Orderly (m.revoke reason) :=
    orderly_of_wiped (.inr rfl) rfl List.mem_cons_self
  have htamper : m.Orderly m.tamper := orderly_of_wiped (.inr rfl) rfl List.mem_cons_self
  have hwipe : m.Orderly (m.wipe .userRequested) :=
    orderly_of_wiped (.inl rfl) rfl List.mem_cons_self
  unfold StateMachine.dispatch
  cases e with
  | tick | appResumed =>
    cases hs : m.state with
    | active => exact h.tickActive hs now
    | needsRevalidation | grace => exact h.tickGrace now
    | activating => exact absurd hs h.2
    | unlicensed | locked | revoked | tampered => exact hsame
  | networkAvailable =>
    cases hs : m.state with
    | active =>
      split_ifs
      · exact hsend
      · exact hsame
    | needsRevalidation | grace | locked => exact hsend
    | unlicensed | activating | revoked | tampered => exact hsame
  | credentialLoaded =>
    cases m.state with
    | unlicensed => exact orderly_activatedWithWake
    | _ => exact hsame
  | activationVerified =>
    cases m.state with
    | unlicensed | activating => exact orderly_activatedWithWake
    | revoked | tampered => exact orderly_activated
    | active | needsRevalidation | grace | locked => exact hsame
  | ticketVerified =>
    cases hs : m.state with
    | active | needsRevalidation | grace => exact orderly_acceptTicket (h.1.1 (hs ▸ rfl))
    | locked =>
      refine orderly_acceptTicket (Bool.not_eq_false _ ▸ fun hhas => ?_)
      exact hregular ⟨hs, hhas⟩
    | unlicensed | activating | revoked | tampered => exact hsame
  | ticketDenied verdict =>
    cases m.state with
    | active | needsRevalidation | grace | locked =>
      exact orderly_of_locked (by simp only [denyTicket, transition_fst])
    | unlicensed | activating | revoked | tampered => exact hsame
  | killOrderVerified reason =>
    cases m.state with
    | revoked | tampered => exact hsame
    | _ => exact hrevoke reason
  | networkFailed =>
    cases hs : m.state with
    | needsRevalidation => exact orderly_enterGrace (h.1.1 (hs ▸ rfl)) now
    | activating => exact absurd hs h.2
    | unlicensed | active | grace | locked | revoked | tampered => exact hsame
  | verificationFailed =>
    cases hs : m.state with
    | unlicensed => exact absurd hs hregular
    | activating => exact absurd hs h.2
    | active | needsRevalidation | grace | locked => exact htamper
    | revoked | tampered => exact hsame
  | userDeactivate =>
    cases m.state with
    | unlicensed | revoked | tampered => exact hsame
    | _ => exact hwipe

/-- A regular event leaves a regular machine and orders the wipe that is due. -/
theorem Regular.handle (h : m.Regular) (hregular : ¬ m.Irregular e) (w : ℤ) :
    m.Orderly (m.handle e w) := by
  cases ht : e.isTimed with
  | false =>
    rw [handle_of_not_timed ht]
    exact h.dispatch hregular _
  | true =>
    obtain ⟨-, effects, hresult⟩ | ⟨-, -, hactive, effects, hresult⟩ | ⟨-, -, hresult⟩ :=
      m.handle_timed w ht
    · rw [hresult]
      exact orderly_of_locked rfl
    · rw [hresult]
      exact orderly_of_held rfl (h.1.1 (hactive ▸ rfl))
    · have hchecked : (m.afterCheck w).Regular := h
      rw [hresult]
      exact hchecked.dispatch id _

/-- An irregular event breaks the agreement, or owes a wipe. -/
theorem not_orderly_of_irregular (h : m.Irregular e) (w : ℤ) :
    ¬ (((m.handle e w).1).Custody ∧ m.OrdersWipe (e, w)) := by
  rintro ⟨⟨hheld, -⟩, hwipe⟩
  cases e with
  | ticketVerified =>
    obtain ⟨hlocked, hnone⟩ := h
    have hresult : (m.handle .ticketVerified w).1 = { m with state := .active } := by
      rw [handle_of_not_timed rfl]
      unfold dispatch
      simp [hlocked, acceptTicket, transition_fst]
    rw [hresult] at hheld
    exact Bool.false_ne_true (hnone.symm.trans (hheld rfl))
  | verificationFailed error =>
    have hs : m.state = .unlicensed := h
    have hresult : m.handle (.verificationFailed error) w =
        ({ m with state := .tampered }, [.stateChanged .tampered .integrityFailure]) := by
      rw [handle_of_not_timed rfl]
      unfold dispatch
      simp [hs, transition]
    rw [OrdersWipe, step, hresult] at hwipe
    have hmem := hwipe rfl (by simp [hs])
    simp at hmem
  | tick | networkAvailable | appResumed | credentialLoaded | activationVerified | ticketDenied
  | killOrderVerified | networkFailed | userDeactivate => exact h

/-- Over every run of a fresh machine: the state and the credential agree after each event, and each
event that enters `revoked` or `tampered` orders a wipe, exactly when no ticket reaches a locked
machine without credential and no failed verification an unlicensed one. -/
theorem custody_kept_iff (config : CoreConfig) (seedTime : ℤ) (es : List (Event × ℤ)) :
    Along step (fun m e => (m.step e).Custody ∧ m.OrdersWipe e) (new config seedTime) es ↔
      Along step (fun m e => ¬ m.Irregular e.1) (new config seedTime) es := by
  refine along_iff_of_invariant (I := Regular) (fun m e _ h => ?_) (fun m e _ h hregular => ?_) ?_
  · constructor
    · exact fun hkept hirregular => not_orderly_of_irregular hirregular e.2 hkept
    · intro hregular
      obtain ⟨⟨hcustody, -⟩, hwipe⟩ := h.handle hregular e.2
      exact ⟨hcustody, hwipe⟩
  · exact (h.handle hregular e.2).1
  · exact ⟨⟨nofun, fun _ => rfl⟩, nofun⟩

/-- Four ticks at a clock set back lock a machine that never held a credential; a ticket then makes
it active. A failed verification of a fresh machine orders no wipe. -/
theorem locked_machine_active_without_credential :
    ¬ Along step (fun m e => (m.step e).Custody ∧ m.OrdersWipe e) (new .default 1000000)
        [(.tick, 0), (.tick, 0), (.tick, 0), (.tick, 0), (.ticketVerified, 1000000)] ∧
      ¬ Along step (fun m e => (m.step e).Custody ∧ m.OrdersWipe e) (new .default 1000000)
        [(.verificationFailed .signatureInvalid, 1000000)] := by
  constructor
  · rintro ⟨-, -, -, -, ⟨⟨hheld, -⟩, -⟩, -⟩
    exact absurd (hheld (by decide)) (by decide)
  · rintro ⟨⟨-, hwipe⟩, -⟩
    have hmem := hwipe (by decide) (by decide)
    exact absurd hmem (by decide)

end CopyLocker.Core.StateMachine
