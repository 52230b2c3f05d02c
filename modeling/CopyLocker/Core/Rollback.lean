import CopyLocker.Core.StateMachine
import CopyLocker.Foundation.Run

/-!
# What a clock turned back can do to the state machine

The clock guard runs before the table over states and events, so a backwards reading can
move the machine without the table being consulted. Two questions are answered exactly.

A revoked or tampered client is wiped and should come back only through a fresh
activation. The table keeps it so; the guard does not, since a rollback past the
tolerance takes every state to `locked`, from where a ticket restores service.

A backwards reading should never help: whatever a tick at the high-water mark takes away,
a tick at an earlier reading should take away too. The one exception is an active machine
whose credential has run out: a tolerated rollback moves it to `needsRevalidation`, which
still permits key derivation, before its expiry is looked at.

## Main results

* `StateMachine.wiped_persistsUntil_activation_iff`
* `StateMachine.tick_turned_back_iff`
-/

namespace CopyLocker.Core.StateMachine

open Foundation.Run Foundation.Saturating ClockState

variable {m : StateMachine} {w : ℤ}

/-- One call of `handle`, for runs; the effects are the host's. -/
def step (m : StateMachine) (e : Event × ℤ) : StateMachine := (m.handle e.1 e.2).1

/-! ### Wiped clients -/

/-- In the table, a wiped client ignores everything but a fresh activation. -/
theorem dispatch_of_requiresWipe (hm : m.state.requiresWipe) {e : Event}
    (he : e ≠ .activationVerified) (now : ℤ) : m.dispatch e now = (m, []) := by
  obtain ⟨state, clock, deadlines, config, last, has⟩ := m
  cases state with
  | revoked => cases e <;> first | rfl | exact absurd rfl he
  | tampered => cases e <;> first | rfl | exact absurd rfl he
  | unlicensed | activating | active | needsRevalidation | grace | locked => cases hm

/-- Away from the lockout a wiped client stays as it is, up to its clock. -/
theorem step_state_of_requiresWipe (hm : m.state.requiresWipe) {e : Event × ℤ}
    (he : e.1 ≠ .activationVerified) (hl : ¬ (e.1.isTimed ∧ m.LocksOut e.2)) :
    (m.step e).state = m.state := by
  obtain ⟨e, w⟩ := e
  cases ht : e.isTimed with
  | false => simp only [step, handle_of_not_timed ht, dispatch_of_requiresWipe hm he]
  | true =>
    obtain ⟨hl', -⟩ | ⟨-, -, ha, -⟩ | ⟨-, -, h⟩ := m.handle_timed w ht
    · exact absurd ⟨ht, hl'⟩ hl
    · rw [ha] at hm
      cases hm
    · have hm' : (m.afterCheck w).state.requiresWipe := hm
      rw [step, h, dispatch_of_requiresWipe hm' (by simp)]
      rfl

/-- Over every run of a fresh machine: a wiped client stays wiped until a fresh activation
exactly when no time-driven event reaches it at a rolled-back reading past the tolerance. -/
theorem wiped_persistsUntil_activation_iff (config : CoreConfig) (seedTime : ℤ)
    (es : List (Event × ℤ)) :
    PersistsUntil step (fun m ↦ m.state.requiresWipe = true)
        (fun e ↦ e.1 = .activationVerified) (new config seedTime) es ↔
      Along step (fun m e ↦ ¬ (m.state.requiresWipe = true ∧ e.1.isTimed = true ∧ m.LocksOut e.2))
        (new config seedTime) es := by
  rw [persistsUntil_iff_along]
  refine along_congr (fun m e _ ↦ ⟨?_, fun h hm he ↦ ?_⟩) _
  · rintro h ⟨hm, ht, hl⟩
    have hne : ¬ e.1 = .activationVerified := by
      intro he
      rw [he] at ht
      cases ht
    have hwiped := h hm hne
    obtain ⟨-, effects, hhandle⟩ | ⟨hl', -⟩ | ⟨hl', -⟩ := m.handle_timed e.2 ht
    · rw [step, hhandle] at hwiped
      cases hwiped
    · exact hl' hl
    · exact hl' hl
  · rw [step_state_of_requiresWipe hm he fun hl ↦ h ⟨hm, hl⟩]
    exact hm

/-- Four ticks at a clock set back by a million seconds bring a revoked client to `locked`. -/
theorem revoked_client_locked_by_rollbacks :
    ¬ PersistsUntil step (fun m ↦ m.state.requiresWipe = true)
        (fun e ↦ e.1 = .activationVerified) (new .default 1000000)
        [(.killOrderVerified .refund, 1000000), (.tick, 0), (.tick, 0), (.tick, 0),
          (.tick, 0)] := by
  intro h
  have hlocked := h [(.killOrderVerified .refund, 1000000)]
    [(.tick, 0), (.tick, 0), (.tick, 0), (.tick, 0)] [] rfl (by decide) (by decide)
  revert hlocked
  decide

/-! ### The machine's interface -/

/-- A value of a signed 64-bit word. -/
def IsI64 (x : ℤ) : Prop := signedMin 64 ≤ x ∧ x ≤ signedMax 64

instance (x : ℤ) : Decidable (IsI64 x) := inferInstanceAs (Decidable (_ ∧ _))

/-- The calls through which a host changes the machine; the mutable clock is reached
through its own operations. -/
inductive Call
  | handle (event : Event) (wallClock : ℤ)
  | setDeadlines (d : Deadlines)
  | noteValidationAttempt (now : ℤ)
  | clockCheck (wallClock : ℤ)
  | clockCheckAgainstMonotonic (wallClock monotonicElapsedSecs sessionStartWall : ℤ)
  | clockObserveServerTime (serverTime : ℤ)
  | clockMerge (other : ClockState)
  | clockReplace (clock : ClockState)

/-- The readings of a call that can reach the clock fit their machine word. -/
def Call.WellTyped : Call → Prop
  | .handle _ w => IsI64 w
  | .setDeadlines _ => True
  | .noteValidationAttempt _ => True
  | .clockCheck w => IsI64 w
  | .clockCheckAgainstMonotonic w _ _ => IsI64 w
  | .clockObserveServerTime t => IsI64 t
  | .clockMerge c => IsI64 c.lastSeenMax
  | .clockReplace c => IsI64 c.lastSeenMax

/-- The machine after a call. -/
def call (m : StateMachine) : Call → StateMachine
  | .handle e w => (m.handle e w).1
  | .setDeadlines d => m.setDeadlines d
  | .noteValidationAttempt now => m.noteValidationAttempt now
  | .clockCheck w => { m with clock := (m.clock.check w).1 }
  | .clockCheckAgainstMonotonic w mono start =>
    { m with clock := (m.clock.checkAgainstMonotonic w mono start).1 }
  | .clockObserveServerTime t => { m with clock := m.clock.observeServerTime t }
  | .clockMerge c => { m with clock := m.clock.merge c }
  | .clockReplace c => { m with clock := c }

/-- The machines that the interface can build. -/
def Reachable (m : StateMachine) : Prop :=
  ∃ config seedTime cs, IsI64 seedTime ∧ (∀ c ∈ cs, Call.WellTyped c) ∧
    m = exec call (new config seedTime) cs

/-- A time-driven event runs one check of the clock. -/
theorem handle_clock_of_timed (m : StateMachine) {e : Event} (ht : e.isTimed) (w : ℤ) :
    (m.handle e w).1.clock = (m.clock.check w).1 := by
  obtain ⟨hl, effects, h⟩ | ⟨-, hr, -, effects, h⟩ | ⟨-, -, h⟩ := m.handle_timed w ht
  · rw [h, check_of_rolledBack hl.1]
  · rw [h, check_of_rolledBack hr]
  · rw [h]
    exact (dispatch_frame _ _ _).1

theorem handle_clock (m : StateMachine) (e : Event) (w : ℤ) :
    (m.handle e w).1.clock = m.clock ∨ (m.handle e w).1.clock = (m.clock.check w).1 := by
  cases ht : e.isTimed with
  | false => exact .inl (by rw [handle_of_not_timed ht, (m.dispatch_frame _ _).1])
  | true => exact .inr (handle_clock_of_timed m ht w)

private theorem check_isI64 {c : ClockState} (hc : IsI64 c.lastSeenMax) (hw : IsI64 w) :
    IsI64 (c.check w).1.lastSeenMax := by
  unfold check
  split_ifs
  · exact hc
  · exact hw
  · exact hc

private theorem call_isI64 {c : Call} (hm : IsI64 m.clock.lastSeenMax) (hc : c.WellTyped) :
    IsI64 (m.call c).clock.lastSeenMax := by
  cases c with
  | handle e w =>
    rcases handle_clock m e w with h | h
    · simpa only [call, h] using hm
    · simpa only [call, h] using check_isI64 hm hc
  | setDeadlines d => exact hm
  | noteValidationAttempt now => exact hm
  | clockCheck w => exact check_isI64 hm hc
  | clockCheckAgainstMonotonic w mono start =>
    simpa only [call, checkAgainstMonotonic_fst] using check_isI64 hm hc
  | clockObserveServerTime t =>
    simp only [call, observeServerTime]
    split_ifs
    · exact hc
    · exact hm
  | clockMerge other =>
    simp only [call, merge]
    split_ifs
    · exact hc
    · exact hm
  | clockReplace clock => exact hc

theorem Reachable.isI64 (hm : m.Reachable) : IsI64 m.clock.lastSeenMax := by
  obtain ⟨config, seedTime, cs, hseed, hcs, rfl⟩ := hm
  have halong : Along call (fun _ c ↦ c.WellTyped) (new config seedTime) cs := by
    rw [along_iff_forall_split]
    rintro pre c post rfl
    exact hcs c (by simp)
  exact exec_induction_along (I := fun m ↦ IsI64 m.clock.lastSeenMax)
    (fun _ _ ↦ call_isI64) hseed halong

/-! ### A clock turned back -/

/-- The state a tick leaves, as a function of the state and the deadlines it finds. -/
theorem dispatch_tick_state (m : StateMachine) (now : ℤ) :
    (m.dispatch .tick now).1.state = match m.state with
      | .active =>
        if m.deadlines.hardExpired now then .locked
        else if m.deadlines.refreshDue now then .needsRevalidation else .active
      | .needsRevalidation => if m.deadlines.graceExhausted now then .locked else .needsRevalidation
      | .grace => if m.deadlines.graceExhausted now then .locked else .grace
      | s => s := by
  unfold dispatch
  cases hs : m.state with
  | active =>
    simp only [tickActive]
    split_ifs <;> simp only [transition_fst, hs]
  | needsRevalidation | grace =>
    simp only [tickGrace]
    split_ifs <;> simp only [transition_fst, hs]
  | unlicensed | activating | locked | revoked | tampered => exact hs

theorem dispatch_tick_afterCheck (m : StateMachine) (w now : ℤ) :
    ((m.afterCheck w).dispatch .tick now).1.state = (m.dispatch .tick now).1.state := by
  rw [dispatch_tick_state, dispatch_tick_state]
  rfl

/-- A tick at an earlier reading that the guard lets through goes to the table at the mark. -/
theorem step_tick_behind (hw : w ≤ m.clock.lastSeenMax) (hl : ¬ m.LocksOut w)
    (ha : m.clock.RolledBack w → m.state ≠ .active) :
    (m.step (.tick, w)).state = (m.dispatch .tick m.clock.lastSeenMax).1.state := by
  obtain ⟨hl', -⟩ | ⟨-, hr, ha', -⟩ | ⟨-, -, h⟩ := m.handle_timed w (e := .tick) rfl
  · exact absurd hl' hl
  · exact absurd ha' (ha hr)
  · rw [step, h, dispatch_tick_afterCheck, effectiveNow_of_le hw]

/-- An active machine loses key derivation on a tick exactly when its credential has run
out. -/
theorem dispatch_tick_active_permits (ha : m.state = .active) (now : ℤ) :
    (m.dispatch .tick now).1.state.permitsKeyDerivation = !m.deadlines.hardExpired now := by
  rw [dispatch_tick_state, ha]
  cases m.deadlines.hardExpired now <;> cases m.deadlines.refreshDue now <;> rfl

/-- A clock turned back never helps, for every reachable machine and every reading at most
its mark, except in one case: an active machine whose credential has run out at the mark,
and a rollback that the tolerance still allows. -/
theorem tick_turned_back_iff {m : StateMachine} (hm : m.Reachable) {w : ℤ}
    (hw : w ≤ m.clock.lastSeenMax) :
    ((m.step (.tick, m.clock.lastSeenMax)).state.permitsKeyDerivation = false →
        (m.step (.tick, w)).state.permitsKeyDerivation = false) ↔
      ¬ (m.state = .active ∧ m.deadlines.hardExpired m.clock.lastSeenMax = true ∧
          m.clock.RolledBack w ∧ ¬ m.LocksOut w) := by
  -- a tick at the mark goes to the table
  have hmark : ¬ m.clock.RolledBack m.clock.lastSeenMax := by
    have hmax := hm.isI64.2
    unfold RolledBack signedAdd clamp skewToleranceSecs
    omega
  rw [step_tick_behind le_rfl (fun h ↦ hmark h.1) fun h ↦ absurd h hmark]
  obtain ⟨hl, effects, h⟩ | ⟨hl, hr, ha, effects, h⟩ | ⟨hl, ha, -⟩ :=
    m.handle_timed w (e := .tick) rfl
  · simp [step, h, hl, LicenseState.permitsKeyDerivation]
  · rw [step, h, dispatch_tick_active_permits ha]
    simp [ha, hr, hl, LicenseState.permitsKeyDerivation]
  · rw [step_tick_behind hw hl ha]
    constructor
    · rintro - ⟨hs, -, hr, -⟩
      exact ha hr hs
    · exact fun _ h ↦ h

/-- A machine that has loaded a credential which ran out at instant `900`, at mark `1000`. -/
def expiredActive : StateMachine :=
  exec call (new .default 1000)
    [.setDeadlines { refreshAfter := 800, graceDeadline := 850, notAfter := 900 },
      .handle .credentialLoaded 1000]

theorem reachable_expiredActive : expiredActive.Reachable :=
  ⟨.default, 1000, _, by decide, by simp [Call.WellTyped, IsI64, signedMin, signedMax], rfl⟩

/-- At the mark a tick locks the expired machine; at reading `0` it goes on permitting keys. -/
theorem expired_client_kept_by_rollback :
    expiredActive.Reachable ∧ (0 : ℤ) ≤ expiredActive.clock.lastSeenMax ∧
      (expiredActive.step (.tick, expiredActive.clock.lastSeenMax)).state.permitsKeyDerivation =
        false ∧
      (expiredActive.step (.tick, 0)).state.permitsKeyDerivation = true :=
  ⟨reachable_expiredActive, by decide, by decide, by decide⟩

/-- The equivalence at that machine and a reading within the tolerated skew. -/
theorem tick_turned_back_iff_expiredActive :
    ((expiredActive.step (.tick, expiredActive.clock.lastSeenMax)).state.permitsKeyDerivation =
          false →
        (expiredActive.step (.tick, 900)).state.permitsKeyDerivation = false) ↔
      ¬ (expiredActive.state = .active ∧
          expiredActive.deadlines.hardExpired expiredActive.clock.lastSeenMax = true ∧
          expiredActive.clock.RolledBack 900 ∧ ¬ expiredActive.LocksOut 900) :=
  tick_turned_back_iff reachable_expiredActive (by decide)

end CopyLocker.Core.StateMachine
