import CopyLocker.Foundation.Saturating
import CopyLocker.Types

/-!
# The clock guard

The client persists the greatest wall-clock reading it has seen and computes every deadline against
the maximum of that mark and the present reading (`copylocker-core::clock`). A check does not change
the time used for deadlines (`ClockState.effectiveNow_check`).
-/

namespace CopyLocker.Core

open Foundation.Saturating

/-- What the clock check concluded. -/
inductive ClockVerdict
  | ok
  | rollback (delta : ℤ)
  | implausibleJump (delta : ℤ)
  deriving DecidableEq

/-- Tolerated backwards drift before a reading counts as a rollback. -/
def skewToleranceSecs : ℤ := 300

/-- Forward jump, relative to elapsed monotonic time, that counts as implausible. -/
def forwardJumpToleranceSecs : ℤ := 86400

/-- Default rollback tolerance before the client locks. -/
def defaultRollbackThreshold : ℕ := 3

/-- Persisted clock state. -/
structure ClockState where
  lastSeenMax : ℤ
  lastServerTime : ℤ
  rollbackEvents : ℕ
  deriving DecidableEq

namespace ClockState

/-- Start from a known-good instant. -/
def new (seed : ℤ) : ClockState :=
  { lastSeenMax := seed, lastServerTime := seed, rollbackEvents := 0 }

/-- Restore a state from the secure store; a server time above the mark is refused. -/
def fromPersisted (lastSeenMax lastServerTime : ℤ) (rollbackEvents : ℕ) : Option ClockState :=
  if lastServerTime > lastSeenMax then none
  else some { lastSeenMax, lastServerTime, rollbackEvents }

/-- The time to use for every deadline computation. -/
def effectiveNow (c : ClockState) (wallClock : ℤ) : ℤ :=
  if wallClock > c.lastSeenMax then wallClock else c.lastSeenMax

/-- Check a reading and advance the mark. -/
def check (c : ClockState) (wallClock : ℤ) : ClockState × ClockVerdict :=
  if signedAdd 64 wallClock skewToleranceSecs < c.lastSeenMax then
    ({ c with rollbackEvents := unsignedAdd 32 c.rollbackEvents 1 },
      .rollback (signedSub 64 c.lastSeenMax wallClock))
  else if wallClock > c.lastSeenMax then
    ({ c with lastSeenMax := wallClock }, .ok)
  else (c, .ok)

/-- Cross-check the wall clock against elapsed monotonic time within one session. -/
def checkAgainstMonotonic (c : ClockState)
    (wallClock monotonicElapsedSecs sessionStartWall : ℤ) : ClockState × ClockVerdict :=
  match c.check wallClock with
  | (c', .ok) =>
    let wallElapsed := signedSub 64 wallClock sessionStartWall
    let divergence := signedSub 64 wallElapsed monotonicElapsedSecs
    if divergence > forwardJumpToleranceSecs then (c', .implausibleJump divergence)
    else (c', .ok)
  | (c', verdict) => (c', verdict)

/-- Record authoritative server time from a validation ticket. -/
def observeServerTime (c : ClockState) (serverTime : ℤ) : ClockState :=
  { c with
    lastServerTime := serverTime
    lastSeenMax := if serverTime > c.lastSeenMax then serverTime else c.lastSeenMax }

variable (c : ClockState)

theorem lastSeenMax_observeServerTime (serverTime : ℤ) :
    (c.observeServerTime serverTime).lastSeenMax = max c.lastSeenMax serverTime := by
  simp only [observeServerTime]
  split_ifs <;> omega

/-- Merge a copy of this state read from another storage location. -/
def merge (c other : ClockState) : ClockState :=
  { lastSeenMax :=
      if other.lastSeenMax > c.lastSeenMax then other.lastSeenMax else c.lastSeenMax
    lastServerTime :=
      if other.lastServerTime > c.lastServerTime then other.lastServerTime
      else c.lastServerTime
    rollbackEvents := max c.rollbackEvents other.rollbackEvents }

/-- Whether repeated rollbacks warrant locking. -/
def exceedsRollbackThreshold (c : ClockState) (threshold : ℕ) : Bool :=
  decide (c.rollbackEvents > threshold)

/-! ### The two outcomes of a check -/

/-- The reading lies behind the mark by more than the tolerated skew. -/
def RolledBack (c : ClockState) (wallClock : ℤ) : Prop :=
  signedAdd 64 wallClock skewToleranceSecs < c.lastSeenMax

instance (c : ClockState) (wallClock : ℤ) : Decidable (c.RolledBack wallClock) :=
  inferInstanceAs (Decidable (_ < _))

/-- The state after one more observed rollback. -/
def countRollback (c : ClockState) : ClockState :=
  { c with rollbackEvents := unsignedAdd 32 c.rollbackEvents 1 }

variable {c : ClockState} {w : ℤ}

theorem check_of_rolledBack (h : c.RolledBack w) :
    c.check w = (c.countRollback, .rollback (signedSub 64 c.lastSeenMax w)) := by
  unfold RolledBack at h
  simp [check, h, countRollback]

theorem check_of_not_rolledBack (h : ¬ c.RolledBack w) :
    c.check w = ({ c with lastSeenMax := c.effectiveNow w }, .ok) := by
  unfold RolledBack at h
  simp only [check, h, if_false, effectiveNow]
  split_ifs <;> rfl

@[simp] theorem effectiveNow_countRollback (w : ℤ) :
    c.countRollback.effectiveNow w = c.effectiveNow w := rfl

@[simp] theorem effectiveNow_effectiveNow (w : ℤ) :
    ({ c with lastSeenMax := c.effectiveNow w } : ClockState).effectiveNow w =
      c.effectiveNow w := by
  simp only [effectiveNow]
  split_ifs <;> omega

/-- The monotonic cross-check moves the clock as the plain check does. -/
theorem checkAgainstMonotonic_fst (w mono start : ℤ) :
    (c.checkAgainstMonotonic w mono start).1 = (c.check w).1 := by
  unfold checkAgainstMonotonic
  rcases c.check w with ⟨c', verdict⟩
  cases verdict with
  | ok =>
    dsimp only
    split_ifs <;> rfl
  | rollback | implausibleJump => rfl

theorem effectiveNow_of_le (h : w ≤ c.lastSeenMax) : c.effectiveNow w = c.lastSeenMax := by
  simp only [effectiveNow]
  split_ifs with hw
  · omega
  · rfl

end ClockState

end CopyLocker.Core
