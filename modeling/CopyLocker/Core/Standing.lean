import CopyLocker.Core.Rollback
import CopyLocker.Core.Ticket

/-!
# Why a machine does not permit keys

A client is rebuilt from its stored credential and ticket, the clock's mark and the time: a fresh
machine loads the credential, ticks, and is told of a stored denial. The state itself is not stored.
So a machine stays locked across a restart only if it is locked for a reason that can be seen
there: the stored ticket denies, or a deadline has passed at the mark. `Standing` says that a
machine is locked for no other reason.

Two events break it. A rollback past the tolerance locks any machine at once, and a failed
validation locks at a reading that the clock's mark does not follow.

## Main results

* `StateMachine.Standing.timed`, `StateMachine.Standing.networkFailed` and their companions: the
  events that keep the standing.
* `StateMachine.not_permits_of_reloaded`: a machine reloaded for a denied or lapsed credential does
  not permit keys once it has ticked.
-/

namespace CopyLocker.Core

open Foundation.Saturating Deadlines

/-! ### Deadlines -/

namespace Deadlines

/-- When grace is exhausted, a refresh is due or the credential has run out. -/
def Ordered (d : Deadlines) : Prop :=
  ∀ now, d.graceExhausted now = true → d.refreshDue now = true ∨ d.hardExpired now = true

variable {d : Deadlines} {now : ℤ}

theorem graceExhausted_mono {now' : ℤ} (hle : now ≤ now')
    (h : d.graceExhausted now) : d.graceExhausted now' := by
  simp only [graceExhausted, hardExpired, Bool.or_eq_true, Bool.and_eq_true, decide_eq_true_eq]
    at h ⊢
  rcases h with hgrace | ⟨hlimited, hexpired⟩
  · left
    omega
  · right
    exact ⟨hlimited, by omega⟩

theorem graceExhausted_of_hardExpired (h : d.hardExpired now) :
    d.graceExhausted now := by
  rw [graceExhausted, h, Bool.or_true]

/-- Deadlines are ordered when grace ends no earlier than the refresh or the hard expiry. -/
theorem ordered_of_le
    (h : d.refreshAfter ≤ d.graceDeadline ∨ (d.notAfter ≠ 0 ∧ d.notAfter ≤ d.graceDeadline)) :
    d.Ordered := by
  intro now hgrace
  simp only [graceExhausted, hardExpired, refreshDue, Bool.or_eq_true, Bool.and_eq_true,
    decide_eq_true_eq, bne_iff_ne] at hgrace ⊢
  rcases hgrace with hgrace | hexpired
  · rcases h with h | ⟨hlimited, h⟩
    · exact .inl (by omega)
    · exact .inr ⟨hlimited, by omega⟩
  · exact .inr hexpired

end Deadlines

theorem ordered_of_grace {refreshAfter notAfter : ℤ} (graceSeconds : ℕ)
    (hfits : refreshAfter ≤ signedMax 64) :
    (⟨refreshAfter, if notAfter = 0 then signedAdd 64 refreshAfter graceSeconds
      else min (signedAdd 64 refreshAfter graceSeconds) notAfter, notAfter⟩ :
      Deadlines).Ordered := by
  have hsoft : refreshAfter ≤ signedAdd 64 refreshAfter graceSeconds := by
    unfold signedAdd clamp
    omega
  refine ordered_of_le ?_
  split_ifs with hlimited
  · exact .inl hsoft
  · rcases le_total (signedAdd 64 refreshAfter graceSeconds) notAfter with hle | hle
    · rw [min_eq_left hle]
      exact .inl hsoft
    · rw [min_eq_right hle]
      exact .inr ⟨hlimited, le_rfl⟩

/-! ### The mark -/

namespace ClockState

variable (c : ClockState)

theorem lastSeenMax_le_effectiveNow (w : ℤ) : c.lastSeenMax ≤ c.effectiveNow w := by
  simp only [effectiveNow]
  split_ifs <;> omega

theorem lastSeenMax_le_observeServerTime (t : ℤ) :
    c.lastSeenMax ≤ (c.observeServerTime t).lastSeenMax := by
  rw [lastSeenMax_observeServerTime]
  exact le_max_left ..

theorem lastSeenMax_le_check (w : ℤ) : c.lastSeenMax ≤ (c.check w).1.lastSeenMax := by
  by_cases h : c.RolledBack w
  · rw [check_of_rolledBack h]
    exact le_rfl
  · rw [check_of_not_rolledBack h]
    exact c.lastSeenMax_le_effectiveNow w

variable {c : ClockState} {w : ℤ}

theorem lastSeenMax_check (hw : w ≤ signedMax 64) :
    (c.check w).1.lastSeenMax = c.effectiveNow w := by
  by_cases h : c.RolledBack w
  · -- a reading that fits its word and counts as a rollback lies behind the mark
    rw [check_of_rolledBack h, effectiveNow_of_le]
    · rfl
    · unfold RolledBack signedAdd clamp skewToleranceSecs at h
      omega
  · rw [check_of_not_rolledBack h]

end ClockState

namespace StateMachine

/-! ### Standing -/

/-- A deadline has passed at the clock's mark. -/
def Lapsed (m : StateMachine) : Prop := m.deadlines.graceExhausted m.clock.lastSeenMax = true

instance (m : StateMachine) : Decidable m.Lapsed := inferInstanceAs (Decidable (_ = true))

/-- Why the machine is in its state, for a client that has stored a credential (`held`) and a
ticket that denies (`denied`). -/
def Standing (m : StateMachine) (held denied : Prop) : Prop :=
  match m.state with
  | .active | .needsRevalidation | .grace => m.hasCredential = true ∧ held
  | .locked => m.hasCredential = true ∧ held ∧ (denied ∨ m.Lapsed)
  | .unlicensed | .activating | .revoked | .tampered => ¬ held

/-- A failed validation locks the machine at a reading that the mark has not reached. -/
def LocksEarly (m : StateMachine) (w : ℤ) : Prop :=
  m.state = .needsRevalidation ∧ m.deadlines.graceExhausted (m.clock.effectiveNow w) = true ∧
    ¬ m.Lapsed

section Standing

variable {m : StateMachine} {held denied : Prop} {w : ℤ}

/-- The standing by the three kinds of states. -/
theorem standing_iff : m.Standing held denied ↔
    if m.state.permitsKeyDerivation then m.hasCredential ∧ held
    else if m.state = .locked then m.hasCredential ∧ held ∧ (denied ∨ m.Lapsed)
    else ¬ held := by
  unfold Standing
  cases m.state <;> rfl

theorem Standing.congr {m' : StateMachine} (h : m.Standing held denied)
    (hstate : m'.state = m.state) (hhas : m'.hasCredential = m.hasCredential)
    (hdeadlines : m'.deadlines = m.deadlines)
    (hmark : m.clock.lastSeenMax ≤ m'.clock.lastSeenMax) : m'.Standing held denied := by
  rw [standing_iff] at h ⊢
  rw [hstate, hhas]
  split_ifs at h ⊢
  · exact h
  · refine ⟨h.1, h.2.1, h.2.2.imp id fun hlapsed => ?_⟩
    unfold Lapsed at hlapsed ⊢
    rw [hdeadlines]
    exact graceExhausted_mono hmark hlapsed
  · exact h

theorem standing_of_wiped (hstate : m.state.permitsKeyDerivation = false)
    (hlocked : m.state ≠ .locked)
    (hheld : ¬ held) : m.Standing held denied := by
  simpa [standing_iff, hstate, hlocked] using hheld

theorem standing_of_permits (hstate : m.state.permitsKeyDerivation)
    (hhas : m.hasCredential ∧ held) : m.Standing held denied := by
  simpa [standing_iff, hstate] using hhas

theorem standing_of_locked (hstate : m.state = .locked) (hhas : m.hasCredential ∧ held)
    (hreason : denied ∨ m.Lapsed) : m.Standing held denied := by
  unfold Standing
  rw [hstate]
  exact ⟨hhas.1, hhas.2, hreason⟩

variable (h : m.Standing held denied)

include h

theorem Standing.held_of_permits (hstate : m.state.permitsKeyDerivation) :
    m.hasCredential ∧ held := by
  simpa [standing_iff, hstate] using h

theorem Standing.state_of_held (hheld : held) : m.hasCredential ∧
    (m.state.permitsKeyDerivation ∨ m.state = .locked) := by
  rw [standing_iff] at h
  split_ifs at h with hpermits hlocked
  · exact ⟨h.1, .inl hpermits⟩
  · exact ⟨h.1, .inr hlocked⟩
  · exact absurd hheld h

/-- A machine that holds a credential and does not permit keys is denied or has lapsed. -/
theorem Standing.reason (hheld : held) (hbarred : m.permitsKeyDerivation = false) :
    denied ∨ m.Lapsed := by
  rw [standing_iff] at h
  split_ifs at h with hpermits
  · simp [permitsKeyDerivation, h.1, hpermits] at hbarred
  · exact h.2.2
  · exact absurd hheld h

/-! ### Events that keep the standing -/

/-- At the mark the table locks only a machine that has lapsed. -/
theorem Standing.dispatch_tick :
    ((m.dispatch .tick m.clock.lastSeenMax).1).Standing held denied := by
  unfold dispatch
  cases hs : m.state with
  | active =>
    have hhas := h.held_of_permits (by rw [hs]; rfl)
    simp only [tickActive]
    split_ifs with hexpired hdue
    · rw [transition_fst]
      exact standing_of_locked rfl hhas (.inr (graceExhausted_of_hardExpired hexpired))
    · rw [transition_fst]
      exact standing_of_permits rfl hhas
    · exact h
  | needsRevalidation | grace =>
    have hhas := h.held_of_permits (by rw [hs]; rfl)
    simp only [tickGrace]
    split_ifs with hgrace
    · rw [transition_fst]
      exact standing_of_locked rfl hhas (.inr hgrace)
    · exact h
  | unlicensed | activating | locked | revoked | tampered => exact h

/-- A tick or a resume, unless it locks the machine for its rollbacks. -/
theorem Standing.timed {e : Event} (he : e.isTimed) (hw : w ≤ signedMax 64)
    (hlock : m.LocksOut w → m.state = .locked) : ((m.handle e w).1).Standing held denied := by
  obtain ⟨hl, effects, hresult⟩ | ⟨-, -, ha, effects, hresult⟩ | ⟨-, -, hresult⟩ :=
    m.handle_timed w he
  · rw [hresult]
    exact h.congr (hlock hl).symm rfl rfl le_rfl
  · rw [hresult]
    exact standing_of_permits rfl (h.held_of_permits (by rw [ha]; rfl))
  · have hmark : (m.afterCheck w).clock.lastSeenMax = m.clock.effectiveNow w :=
      ClockState.lastSeenMax_check hw
    have hchecked : (m.afterCheck w).Standing held denied := by
      refine h.congr rfl rfl rfl ?_
      rw [hmark]
      exact m.clock.lastSeenMax_le_effectiveNow w
    rw [hresult, ← hmark]
    exact hchecked.dispatch_tick

theorem Standing.networkAvailable : ((m.handle .networkAvailable w).1).Standing held denied := by
  rw [handle_of_not_timed rfl]
  unfold dispatch
  cases hs : m.state with
  | active =>
    split_ifs
    · exact h.congr rfl rfl rfl le_rfl
    · exact h
  | needsRevalidation | grace | locked => exact h.congr rfl rfl rfl le_rfl
  | unlicensed | activating | revoked | tampered => exact h

/-- A failed validation, unless it locks ahead of the mark. -/
theorem Standing.networkFailed (error : TransientError) (hearly : ¬ m.LocksEarly w) :
    ((m.handle (.networkFailed error) w).1).Standing held denied := by
  rw [handle_of_not_timed rfl]
  unfold dispatch
  cases hs : m.state with
  | needsRevalidation =>
    have hhas := h.held_of_permits (by rw [hs]; rfl)
    simp only [enterGrace]
    split_ifs with hgrace
    · rw [transition_fst]
      have hlapsed : m.Lapsed := by
        by_contra hnot
        exact hearly ⟨hs, hgrace, hnot⟩
      exact standing_of_locked rfl hhas (.inr hlapsed)
    · rw [transition_fst]
      exact standing_of_permits rfl hhas
  | activating =>
    rw [transition_fst]
    refine standing_of_wiped rfl (by simp) ?_
    unfold Standing at h
    rw [hs] at h
    exact h
  | unlicensed | active | grace | locked | revoked | tampered => exact h

omit h

/-- The events by which a client forgets its credential. -/
def IsWipe : Event → Prop
  | .verificationFailed _ | .killOrderVerified _ | .userDeactivate => True
  | _ => False

/-- A wipe leaves no state that permits keys, and no locked one. -/
theorem state_of_isWipe {e : Event} (he : IsWipe e) :
    (m.handle e w).1.state.permitsKeyDerivation = false ∧ (m.handle e w).1.state ≠ .locked := by
  obtain ⟨state, clock, deadlines, config, last, has⟩ := m
  cases e <;> cases he
  all_goals cases state <;> exact ⟨rfl, nofun⟩

theorem standing_activationVerified (hlocked : m.state ≠ .locked)
    (hhas : m.state.permitsKeyDerivation → m.hasCredential) (hheld : held) :
    ((m.handle .activationVerified w).1).Standing held denied := by
  rw [handle_of_not_timed rfl]
  unfold dispatch
  cases hs : m.state with
  | locked => exact absurd hs hlocked
  | active | needsRevalidation | grace =>
    have hpermits : m.state.permitsKeyDerivation := by
      rw [hs]
      rfl
    exact standing_of_permits hpermits ⟨hhas hpermits, hheld⟩
  | unlicensed | activating =>
    refine standing_of_permits ?_ ⟨?_, hheld⟩
    · simp only [activatedWithWake, activated, transition_fst]
      rfl
    · simp [activatedWithWake, activated, transition_fst]
  | revoked | tampered =>
    refine standing_of_permits ?_ ⟨?_, hheld⟩
    · simp only [activated, transition_fst]
      rfl
    · simp [activated, transition_fst]

theorem standing_ticketVerified (hhas : m.hasCredential)
    (hstate : m.state.permitsKeyDerivation ∨ m.state = .locked) (hheld : held) :
    ((m.handle .ticketVerified w).1).Standing held denied := by
  rw [handle_of_not_timed rfl]
  unfold dispatch
  cases hs : m.state with
  | active | needsRevalidation | grace | locked =>
    refine standing_of_permits ?_ ⟨?_, hheld⟩
    · simp only [acceptTicket, transition_fst]
      rfl
    · simpa only [acceptTicket, transition_fst] using hhas
  | unlicensed | activating | revoked | tampered =>
    rw [hs] at hstate
    rcases hstate with hstate | hstate <;> cases hstate

theorem handle_ticketDenied (hstate : m.state.permitsKeyDerivation ∨ m.state = .locked)
    (verdict : Verdict) :
    (m.handle (.ticketDenied verdict) w).1 = { m with state := .locked } := by
  rw [handle_of_not_timed rfl]
  unfold dispatch
  cases hs : m.state with
  | active | needsRevalidation | grace | locked => simp only [denyTicket, transition_fst]
  | unlicensed | activating | revoked | tampered =>
    rw [hs] at hstate
    rcases hstate with hstate | hstate <;> cases hstate

theorem standing_ticketDenied (hhas : m.hasCredential)
    (hstate : m.state.permitsKeyDerivation ∨ m.state = .locked) (hheld : held)
    (verdict : Verdict) (hdenied : denied) :
    ((m.handle (.ticketDenied verdict) w).1).Standing held denied := by
  rw [handle_ticketDenied hstate]
  exact standing_of_locked rfl ⟨hhas, hheld⟩ (.inl hdenied)

/-! ### Reloading -/

/-- A machine that loads a credential, ticks, and is told of a denial if there is one. -/
def reloaded (m : StateMachine) (denial : Option Verdict) (w : ℤ) : StateMachine :=
  let loaded := ((m.handle .credentialLoaded w).1.handle .tick w).1
  match denial with
  | none => loaded
  | some verdict => (loaded.handle (.ticketDenied verdict) w).1

theorem handle_credentialLoaded (hfresh : m.state = .unlicensed) :
    (m.handle .credentialLoaded w).1 = { m with hasCredential := true, state := .active } := by
  rw [handle_of_not_timed rfl]
  unfold dispatch
  simp [hfresh, activatedWithWake, activated, transition_fst]

/-- No event changes the deadlines. -/
theorem handle_deadlines (m : StateMachine) (e : Event) (w : ℤ) :
    (m.handle e w).1.deadlines = m.deadlines := by
  cases ht : e.isTimed with
  | false => rw [handle_of_not_timed ht, (m.dispatch_frame _ _).2]
  | true =>
    obtain ⟨-, effects, h⟩ | ⟨-, -, -, effects, h⟩ | ⟨-, -, h⟩ := m.handle_timed w ht
    · rw [h]
    · rw [h]
    · rw [h]
      exact (dispatch_frame _ _ _).2

theorem lastSeenMax_le_handle (m : StateMachine) (e : Event) (w : ℤ) :
    m.clock.lastSeenMax ≤ (m.handle e w).1.clock.lastSeenMax := by
  rcases handle_clock m e w with hsame | hcheck
  · rw [hsame]
  · rw [hcheck]
    exact m.clock.lastSeenMax_le_check w

/-- A tick locks the machine, suspends an active one, or runs its deadlines. -/
theorem tick_cases (m : StateMachine) (w : ℤ) :
    (m.handle .tick w).1.state = .locked ∨
      (m.state = .active ∧ (m.handle .tick w).1.state = .needsRevalidation) ∨
      (m.handle .tick w).1.state = (m.dispatch .tick (m.clock.effectiveNow w)).1.state := by
  obtain ⟨-, effects, h⟩ | ⟨-, -, ha, effects, h⟩ | ⟨-, -, h⟩ := m.handle_timed w (e := .tick) rfl
  · exact .inl (by rw [h])
  · exact .inr (.inl ⟨ha, by rw [h]⟩)
  · exact .inr (.inr (by rw [h, dispatch_tick_afterCheck]))

/-- A tick leaves an active machine in a state that permits keys, or locks it. -/
theorem tick_of_active (ha : m.state = .active) :
    (m.handle .tick w).1.state.permitsKeyDerivation ∨
      (m.handle .tick w).1.state = .locked := by
  obtain h | ⟨-, h⟩ | h := m.tick_cases w
  · exact .inr h
  · exact .inl (by rw [h]; rfl)
  · rw [h, dispatch_tick_state, ha]
    dsimp only
    split_ifs
    · exact .inr rfl
    · exact .inl rfl
    · exact .inl rfl

/-- The first tick takes an active machine that has lapsed out of `active`. -/
theorem tick_of_active_lapsed (ha : m.state = .active) (hordered : m.deadlines.Ordered)
    (hlapsed : m.Lapsed) :
    (m.handle .tick w).1.state = .needsRevalidation ∨ (m.handle .tick w).1.state = .locked := by
  obtain h | ⟨-, h⟩ | h := m.tick_cases w
  · exact .inr h
  · exact .inl h
  · have hgrace := graceExhausted_mono (m.clock.lastSeenMax_le_effectiveNow w) hlapsed
    rw [h, dispatch_tick_state, ha]
    by_cases hexpired : m.deadlines.hardExpired (m.clock.effectiveNow w)
    · rw [if_pos hexpired]
      exact .inr rfl
    · rw [if_neg hexpired, if_pos ((hordered _ hgrace).resolve_right hexpired)]
      exact .inl rfl

/-- A second tick locks it. -/
theorem tick_of_lapsed (hstate : m.state = .needsRevalidation ∨ m.state = .locked)
    (hlapsed : m.Lapsed) : (m.handle .tick w).1.state = .locked := by
  obtain h | ⟨ha, -⟩ | h := m.tick_cases w
  · exact h
  · rw [ha] at hstate
    rcases hstate with hstate | hstate <;> cases hstate
  · have hgrace := graceExhausted_mono (m.clock.lastSeenMax_le_effectiveNow w) hlapsed
    rw [h, dispatch_tick_state]
    rcases hstate with hstate | hstate
    · simp [hstate, if_pos hgrace]
    · simp [hstate]

theorem not_permits_tick (hstate : m.state.permitsKeyDerivation = false) :
    (m.handle .tick w).1.permitsKeyDerivation = false := by
  have hafter : (m.handle .tick w).1.state.permitsKeyDerivation = false := by
    obtain h | ⟨ha, -⟩ | h := m.tick_cases w
    · rw [h]
      rfl
    · rw [ha] at hstate
      cases hstate
    · rw [h, dispatch_tick_state]
      cases hs : m.state with
      | active | needsRevalidation | grace =>
        rw [hs] at hstate
        cases hstate
      | unlicensed | activating | locked | revoked | tampered => rfl
  rw [permitsKeyDerivation, hafter, Bool.and_false]

theorem tick_of_locked (hstate : m.state = .locked) : (m.handle .tick w).1.state = .locked := by
  obtain h | ⟨ha, -⟩ | h := m.tick_cases w
  · exact h
  · rw [hstate] at ha
    cases ha
  · rw [h, dispatch_tick_state, hstate]

variable {denial : Option Verdict}

/-- A machine reloaded for a ticket that denies, or with a deadline behind it, does not permit keys
after any tick. -/
theorem not_permits_of_reloaded (hfresh : m.state = .unlicensed) (hordered : m.deadlines.Ordered)
    (hreason : denial.isSome ∨ m.Lapsed) (t : ℤ) :
    ((m.reloaded denial w).handle .tick t).1.permitsKeyDerivation = false := by
  have hloaded := handle_credentialLoaded (w := w) hfresh
  have hstate := tick_of_active (m := (m.handle .credentialLoaded w).1) (w := w) (by rw [hloaded])
  have hlocked : ((m.reloaded denial w).handle .tick t).1.state = .locked := by
    cases denial with
    | some verdict =>
      refine tick_of_locked ?_
      simp [reloaded, handle_ticketDenied hstate]
    | none =>
      have hlapsed : ((m.handle .credentialLoaded w).1).Lapsed := by
        rw [hloaded]
        exact hreason.resolve_left Bool.false_ne_true
      refine tick_of_lapsed ?_ ?_
      · exact tick_of_active_lapsed (by rw [hloaded]) (by rw [hloaded]; exact hordered) hlapsed
      · simp only [reloaded, Lapsed, handle_deadlines _ .tick]
        exact graceExhausted_mono (lastSeenMax_le_handle _ .tick w) hlapsed
  rw [permitsKeyDerivation, hlocked]
  exact Bool.and_false _

/-- The standing of a reloaded machine, unless its tick locks it for its rollbacks. -/
theorem standing_reloaded (hfresh : m.state = .unlicensed) (hw : w ≤ signedMax 64) (hheld : held)
    (hdenied : denial.isSome → denied) (hlock : ¬ m.LocksOut w) :
    (m.reloaded denial w).Standing held denied := by
  have hloaded := handle_credentialLoaded (w := w) hfresh
  have hrest : ¬ ((m.handle .credentialLoaded w).1).LocksOut w := by rwa [hloaded]
  have hstanding : (((m.handle .credentialLoaded w).1.handle .tick w).1).Standing held denied := by
    refine Standing.timed ?_ rfl hw fun hl => absurd hl hrest
    exact standing_of_permits (by rw [hloaded]; rfl) ⟨by rw [hloaded], hheld⟩
  cases denial with
  | none => exact hstanding
  | some verdict =>
    obtain ⟨hhas, hstate⟩ := hstanding.state_of_held hheld
    exact standing_ticketDenied hhas hstate hheld verdict (hdenied rfl)

end Standing

end StateMachine

end CopyLocker.Core
