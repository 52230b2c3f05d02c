import CopyLocker.Foundation.Saturating
import CopyLocker.Types

/-!
# Server-side rules

The pure decisions of `copylocker-server-core` that the LicenseDO applies to its own rows:
the suspicion score, the heartbeat rule, the release of a seat and the revocation of a license
or of a machine.
-/

namespace CopyLocker.Server

open Foundation.Saturating

/-- State of a license. -/
inductive LicenseStatus
  | active
  | suspended
  | expired
  | revoked
  deriving DecidableEq

/-- State of one activation. -/
inductive ActivationStatus
  | active
  | released
  | revoked
  | pending
  deriving DecidableEq

namespace ActivationStatus

/-- Whether the activation holds a seat, `status IN (0, 3)`. -/
def occupiesSeat : ActivationStatus → Bool
  | active | pending => true
  | released | revoked => false

/-- The column value. -/
def code : ActivationStatus → ℕ
  | active => 0
  | released => 1
  | revoked => 2
  | pending => 3

end ActivationStatus

/-! ### Suspicion score -/

namespace Anomaly

/-- Observations about one license over a recent window. -/
structure Signals where
  distinctFingerprints24h : ℕ
  seats : ℕ
  impossibleTravel : Bool
  attrChurn : ℕ
  validationsInWindow : ℕ
  expectedValidations : ℕ
  distinctAppVersions : ℕ
  deriving DecidableEq

/-- The points of each signal. -/
def fingerprintSpread : ℕ := 40
def geoJump : ℕ := 25
def attrChurn : ℕ := 15
def callRate : ℕ := 10
def versionSpread : ℕ := 10

/-- One contributing signal. -/
structure Contribution where
  signal : String
  points : ℕ
  max : ℕ
  deriving DecidableEq

/-- A suspicion score with its breakdown. -/
structure Score where
  score : ℕ
  contributions : List Contribution
  deriving DecidableEq

/-- Points for an excess of `observed` over `base`, full at twice the base. -/
def excessPoints (weight base observed : ℕ) : ℕ :=
  if observed ≤ base then 0 else min ((observed - base) * weight / base) weight

/-- Points for a count above two, `step` for each. -/
def churnPoints (weight step count : ℕ) : ℕ := min (unsignedMul 32 (count - 2) step) weight

/-- The contributions in the order the console shows them. -/
def contributions (s : Signals) : List Contribution :=
  [ { signal := "fingerprint_spread"
      points := excessPoints fingerprintSpread (max s.seats 1) s.distinctFingerprints24h
      max := fingerprintSpread },
    { signal := "geo_jump", points := if s.impossibleTravel then geoJump else 0, max := geoJump },
    { signal := "attr_churn", points := churnPoints attrChurn 5 s.attrChurn, max := attrChurn },
    { signal := "call_rate"
      points := excessPoints callRate (max s.expectedValidations 1 * 3) s.validationsInWindow
      max := callRate },
    { signal := "version_spread"
      points := churnPoints versionSpread 3 s.distinctAppVersions
      max := versionSpread } ]

/-- The suspicion, at most 100. -/
def score (s : Signals) : Score :=
  let contributions := contributions s
  { score := min (contributions.map (·.points)).sum 100, contributions }

end Anomaly

/-! ### Heartbeats -/

namespace Heartbeat

/-- Number of missed heartbeat intervals tolerated before a seat is reclaimed. -/
def graceMultiplier : ℤ := 3

/-- When the client should send its next heartbeat, or `none` for a refused one. -/
def plan (licenseStatus : LicenseStatus) (licenseExpiresAt : Option ℤ)
    (activationStatus : ActivationStatus) (heartbeatSecs : Option ℤ) (now : ℤ) : Option ℤ :=
  if licenseStatus ≠ .active ∨ licenseExpiresAt.any (fun expiry => decide (expiry ≤ now)) ∨
      activationStatus ≠ .active then none
  else some (signedAdd 64 now ((heartbeatSecs.filter fun v => decide (0 < v)).getD 0))

/-- The last-seen cutoff before which an active seat is a zombie. -/
def zombieCutoff (heartbeatSecs now : ℤ) : Option ℤ :=
  if 0 < heartbeatSecs then some (signedSub 64 now (signedMul 64 heartbeatSecs graceMultiplier))
  else none

end Heartbeat

/-! ### Release of a seat -/

/-- Whether a deactivation changes the activation, or `none` for a refused one. A change is
also the transfer of a machine. -/
def Deactivate.plan : ActivationStatus → Option Bool
  | .active | .pending => some true
  | .released => some false
  | .revoked => none

/-! ### Revocation -/

namespace Revoke

/-- Why a revocation is refused. -/
inductive Error
  | unknownMachine
  | staleEpoch
  deriving DecidableEq

/-- Storage work required by a revocation request. -/
structure Plan where
  stateChanged : Bool
  epochChanged : Bool
  revocationEpoch : ℕ
  deriving DecidableEq

/-- A revocation needs a later epoch, or finds itself done. -/
def planForState (alreadyRevoked : Bool) (currentEpoch requestedEpoch : ℕ) : Except Error Plan :=
  if requestedEpoch = 0 then .error .staleEpoch
  else if alreadyRevoked then
    let epoch := max currentEpoch requestedEpoch
    .ok { stateChanged := false, epochChanged := epoch != currentEpoch, revocationEpoch := epoch }
  else if requestedEpoch ≤ currentEpoch then .error .staleEpoch
  else .ok { stateChanged := true, epochChanged := true, revocationEpoch := requestedEpoch }

/-- The plan for a license. -/
def planLicense (status : LicenseStatus) (currentEpoch requestedEpoch : ℕ) : Except Error Plan :=
  planForState (status == .revoked) currentEpoch requestedEpoch

/-- The plan for a machine. -/
def planMachine (status : Option ActivationStatus) (currentEpoch requestedEpoch : ℕ) :
    Except Error Plan :=
  match status with
  | none => .error .unknownMachine
  | some status => planForState (status == .revoked) currentEpoch requestedEpoch

/-- An accepted plan ends at the greater of the two epochs. -/
theorem revocationEpoch_of_planForState {already : Bool} {current requested : ℕ} {plan : Plan}
    (h : planForState already current requested = .ok plan) :
    plan.revocationEpoch = max current requested ∧
      (plan.epochChanged = false → max current requested = current) := by
  unfold planForState at h
  split_ifs at h with hzero halready hstale
  · cases h
    simp
  · cases h
    refine ⟨?_, by simp⟩
    dsimp only
    omega

end Revoke

end CopyLocker.Server
