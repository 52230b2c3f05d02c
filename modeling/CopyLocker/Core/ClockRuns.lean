import CopyLocker.Core.Standing
import Mathlib.Order.MinMax

/-!
# Clock states along every sequence of calls

A clock state is built by `new` or restored by `from_persisted`, and then changes through the calls
of its interface only. Copies of it evolve on their own and are merged when the client loads. What
is persisted must be accepted when it is restored, and no call may take back what was recorded.
`ClockState.clock_calls_keep_marks` says what holds after any sequence of calls.
-/

namespace CopyLocker.Core.ClockState

open Foundation.Run Foundation.Saturating List

attribute [ext] ClockState

/-! ### Merging -/

section Merge

variable (c other : ClockState)

@[simp] theorem lastSeenMax_merge :
    (c.merge other).lastSeenMax = max c.lastSeenMax other.lastSeenMax := by
  simp only [merge]
  split_ifs <;> omega

@[simp] theorem lastServerTime_merge :
    (c.merge other).lastServerTime = max c.lastServerTime other.lastServerTime := by
  simp only [merge]
  split_ifs <;> omega

end Merge

/-- Clock states are compared field by field, and `merge` is their least upper bound. -/
instance : SemilatticeSup ClockState where
  le c c' := c.lastSeenMax ≤ c'.lastSeenMax ∧ c.lastServerTime ≤ c'.lastServerTime ∧
    c.rollbackEvents ≤ c'.rollbackEvents
  le_refl _ := ⟨le_rfl, le_rfl, le_rfl⟩
  le_trans _ _ _ := fun ⟨hmark, hserver, hcount⟩ ⟨hmark', hserver', hcount'⟩ =>
    ⟨hmark.trans hmark', hserver.trans hserver', hcount.trans hcount'⟩
  le_antisymm := by
    rintro c c' ⟨hmark, hserver, hcount⟩ ⟨hmark', hserver', hcount'⟩
    ext
    · exact hmark.antisymm hmark'
    · exact hserver.antisymm hserver'
    · exact hcount.antisymm hcount'
  sup := merge
  le_sup_left c c' := by
    refine ⟨?_, ?_, le_max_left ..⟩
    · rw [lastSeenMax_merge]
      exact le_max_left ..
    · rw [lastServerTime_merge]
      exact le_max_left ..
  le_sup_right c c' := by
    refine ⟨?_, ?_, le_max_right ..⟩
    · rw [lastSeenMax_merge]
      exact le_max_right ..
    · rw [lastServerTime_merge]
      exact le_max_right ..
  sup_le := by
    rintro c c' bound ⟨hmark, hserver, hcount⟩ ⟨hmark', hserver', hcount'⟩
    refine ⟨?_, ?_, max_le hcount hcount'⟩
    · rw [lastSeenMax_merge]
      exact max_le hmark hmark'
    · rw [lastServerTime_merge]
      exact max_le hserver hserver'

/-! ### The interface -/

/-- The calls that change a clock state. -/
inductive Call
  | check (wallClock : ℤ)
  | checkAgainstMonotonic (wallClock monotonicElapsedSecs sessionStartWall : ℤ)
  | observeServerTime (serverTime : ℤ)
  | merge (other : ClockState)
  deriving DecidableEq

/-- The clock state after a call. -/
def call (c : ClockState) : Call → ClockState
  | .check wallClock => (c.check wallClock).1
  | .checkAgainstMonotonic wallClock monotonicElapsedSecs sessionStartWall =>
    (c.checkAgainstMonotonic wallClock monotonicElapsedSecs sessionStartWall).1
  | .observeServerTime serverTime => c.observeServerTime serverTime
  | .merge other => c.merge other

/-- The clock states that the interface can build; a restored counter fits its word, and what is
merged is itself built. -/
inductive Built : ClockState → Prop
  | new (seed : ℤ) : Built (.new seed)
  | restored {lastSeenMax lastServerTime : ℤ} {rollbackEvents : ℕ} {c : ClockState}
    (hfits : rollbackEvents ≤ unsignedMax 32)
    (h : fromPersisted lastSeenMax lastServerTime rollbackEvents = some c) : Built c
  | called {c : ClockState} (h : Built c) (k : Call)
    (hcopy : ∀ other, k = .merge other → Built other) : Built (c.call k)

/-- The last server time is not above the mark, and the counter fits its word. -/
structure Sound (c : ClockState) : Prop where
  ordered : c.lastServerTime ≤ c.lastSeenMax
  fits : c.rollbackEvents ≤ unsignedMax 32

variable {c other : ClockState}

/-! ### What a call keeps -/

theorem rollbackEvents_le_check (hfits : c.rollbackEvents ≤ unsignedMax 32) (w : ℤ) :
    c.rollbackEvents ≤ (c.check w).1.rollbackEvents := by
  by_cases h : c.RolledBack w
  · rw [check_of_rolledBack h]
    exact le_min hfits (Nat.le_succ _)
  · rw [check_of_not_rolledBack h]

theorem Sound.check (h : c.Sound) (w : ℤ) : (c.check w).1.Sound := by
  by_cases hback : c.RolledBack w
  · rw [check_of_rolledBack hback]
    exact ⟨h.ordered, min_le_left ..⟩
  · rw [check_of_not_rolledBack hback]
    exact ⟨h.ordered.trans (c.lastSeenMax_le_effectiveNow w), h.fits⟩

theorem Sound.observeServerTime (h : c.Sound) (t : ℤ) : (c.observeServerTime t).Sound := by
  refine ⟨?_, h.fits⟩
  rw [lastSeenMax_observeServerTime]
  exact le_max_right ..

theorem Sound.merge (h : c.Sound) (hother : other.Sound) : (c.merge other).Sound := by
  refine ⟨?_, max_le h.fits hother.fits⟩
  rw [lastServerTime_merge, lastSeenMax_merge]
  exact max_le_max h.ordered hother.ordered

/-- Every call keeps the invariant, if what it merges satisfies it. -/
theorem Sound.call (h : c.Sound) (k : Call) (hcopy : ∀ other, k = .merge other → other.Sound) :
    (c.call k).Sound := by
  cases k with
  | check w => exact h.check w
  | checkAgainstMonotonic w mono start =>
    rw [ClockState.call, checkAgainstMonotonic_fst]
    exact h.check w
  | observeServerTime t => exact h.observeServerTime t
  | merge other => exact h.merge (hcopy other rfl)

theorem Sound.le_call (h : c.Sound) (k : Call) :
    c.lastSeenMax ≤ (c.call k).lastSeenMax ∧ c.rollbackEvents ≤ (c.call k).rollbackEvents := by
  cases k with
  | check w => exact ⟨c.lastSeenMax_le_check w, rollbackEvents_le_check h.fits w⟩
  | checkAgainstMonotonic w mono start =>
    rw [ClockState.call, checkAgainstMonotonic_fst]
    exact ⟨c.lastSeenMax_le_check w, rollbackEvents_le_check h.fits w⟩
  | observeServerTime t => exact ⟨c.lastSeenMax_le_observeServerTime t, le_rfl⟩
  | merge other =>
    have hle : c ≤ c.merge other := le_sup_left
    exact ⟨hle.1, hle.2.2⟩

theorem Built.sound (h : c.Built) : c.Sound := by
  induction h with
  | new seed => exact ⟨le_rfl, Nat.zero_le _⟩
  | restored hfits hrestored =>
    unfold fromPersisted at hrestored
    split_ifs at hrestored with hnewer
    cases hrestored
    exact ⟨not_lt.1 hnewer, hfits⟩
  | called hc k hcopy ih ihcopy => exact ih.call k ihcopy

/-! ### Sequences of calls -/

theorem Built.run (h : c.Built) {ks : List Call} (hks : ∀ other, .merge other ∈ ks → other.Built) :
    (exec call c ks).Built := by
  induction ks generalizing c with
  | nil => exact h
  | cons k ks ih =>
    refine ih (h.called k fun other hk => ?_) fun other hother => ?_
    · exact hks other (hk ▸ mem_cons_self)
    · exact hks other (mem_cons_of_mem _ hother)

theorem Built.le_run (h : c.Built) {ks : List Call}
    (hks : ∀ other, .merge other ∈ ks → other.Built) :
    c.lastSeenMax ≤ (exec call c ks).lastSeenMax ∧
      c.rollbackEvents ≤ (exec call c ks).rollbackEvents := by
  induction ks generalizing c with
  | nil => exact ⟨le_rfl, le_rfl⟩
  | cons k ks ih =>
    have hcall : (c.call k).Built := h.called k fun other hk => hks other (hk ▸ mem_cons_self)
    obtain ⟨hmark, hcount⟩ := h.sound.le_call k
    obtain ⟨hmark', hcount'⟩ := ih hcall fun other hother => hks other (mem_cons_of_mem _ hother)
    exact ⟨hmark.trans hmark', hcount.trans hcount'⟩

/-- Any sequence of calls on a built clock state moves its mark and its count of rollbacks forward
only and leaves a state that is accepted when it is restored; and merging copies is a commutative,
associative and idempotent operation that takes nothing back from either copy. -/
theorem clock_calls_keep_marks (h : c.Built) {ks : List Call}
    (hks : ∀ other, .merge other ∈ ks → other.Built) :
    c.lastSeenMax ≤ (exec call c ks).lastSeenMax ∧
      (exec call c ks).lastServerTime ≤ (exec call c ks).lastSeenMax ∧
      fromPersisted (exec call c ks).lastSeenMax (exec call c ks).lastServerTime
        (exec call c ks).rollbackEvents = some (exec call c ks) ∧
      c.rollbackEvents ≤ (exec call c ks).rollbackEvents ∧
      ∀ a b d : ClockState, a.merge b = b.merge a ∧ (a.merge b).merge d = a.merge (b.merge d) ∧
        a.merge a = a ∧ a ≤ a.merge b ∧ b ≤ a.merge b := by
  obtain ⟨hmark, hcount⟩ := h.le_run hks
  have hsound := (h.run hks).sound
  refine ⟨hmark, hsound.ordered, if_neg (not_lt.2 hsound.ordered), hcount, ?_⟩
  intro a b d
  exact ⟨sup_comm a b, sup_assoc a b d, sup_idem a, le_sup_left, le_sup_right⟩

/-- A copy that was restored with a newer mark is merged after a rollback. -/
theorem clock_calls_keep_marks_sample :
    (1000 : ℤ) ≤ (exec call (.new 1000)
      [.check 0, .merge ⟨2000, 1500, 7⟩, .observeServerTime 1800]).lastSeenMax := by
  refine (clock_calls_keep_marks (.new 1000) fun other hother => ?_).1
  simp only [mem_cons, reduceCtorEq, Call.merge.injEq, not_mem_nil, false_or,
    or_false] at hother
  have hfits : 7 ≤ unsignedMax 32 := by decide
  rw [hother]
  exact .restored hfits (show fromPersisted 2000 1500 7 = some _ from rfl)

end CopyLocker.Core.ClockState
