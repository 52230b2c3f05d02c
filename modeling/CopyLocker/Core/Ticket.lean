import CopyLocker.Core.StateMachine
import CopyLocker.Proto.Artifacts

/-!
# The ticket checklist

The semantic checks that a signature-verified validation ticket must still pass
(`copylocker-core::ticket`), the deadlines that an accepted artifact installs, and the one
conversion of protocol errors into the fail-closed family.

The build keeps overflow checks on, so the absolute value of the least machine word ends the
process; `checkTicket` answers `none` there.

## Main results

* `checkTicket_eq_ok`: what an accepted ticket satisfies, and the clock after it.
* `checkTicket_meets_iff`: when the checklist answers as it should.
-/

namespace CopyLocker

open Foundation.Saturating Proto Option

/-- Every protocol error is fatal. -/
def FatalError.ofProto : ProtoError → FatalError
  | .rootPinMismatch | .unknownEpoch | .outsideValidityWindow => .chainInvalid
  | .epochRevoked => .epochRevoked
  | .nonceMismatch => .nonceMismatch
  | .machineMismatch => .machineMismatch
  | .monotonicityViolation => .revocationRollback
  | .crypto _ => .signatureInvalid
  | _ => .credentialCorrupt

/-- A protocol answer with its error made fatal. -/
def orFatal {α : Type} : Except ProtoError α → Except FatalError α
  | .ok a => .ok a
  | .error e => .error (.ofProto e)

theorem orFatal_eq_ok {α : Type} {x : Except ProtoError α} {a : α} :
    orFatal x = .ok a ↔ x = .ok a := by
  cases x <;> simp [orFatal]

namespace Core

/-- Divergence of the server's time that is recorded. -/
def maxSkewSecs : ℤ := 24 * 3600

/-- The context that a ticket is checked against. -/
structure TicketChecks where
  supportedSuites : List SuiteId
  verifiedEpoch : EpochId
  sentNonce : ByteId 32
  machineId : MachineId
  knownRevocationEpoch : ℕ
  knownSecurityFloor : ℕ

/-- What the check concluded beyond its verdict. -/
structure TicketObservations where
  clockDivergence : Option ℤ
  deriving DecidableEq

/-- The absolute value of a machine word; the least one has none. -/
def absI64 (v : ℤ) : Option ℤ := if v = signedMin 64 then none else some v.natAbs

/-- The marks and the refresh of a ticket for this request. -/
def checkMarks (vt : ValidationTicket) (ctx : TicketChecks) (clock : ClockState) (divergence : ℤ) :
    ClockState × Except FatalError TicketObservations :=
  if vt.revocationEpoch < ctx.knownRevocationEpoch then (clock, .error .revocationRollback)
  else if vt.securityFloor < ctx.knownSecurityFloor then (clock, .error .securityFloorRegression)
  else if vt.nextRefreshAfter ≤ vt.serverTime then (clock, .error .credentialCorrupt)
  else (clock.observeServerTime vt.serverTime,
    .ok { clockDivergence := if divergence > maxSkewSecs then some divergence else none })

/-- The checklist, in the order of the specification: the clock after it and its answer; `none` is
an arithmetic overflow. -/
def checkTicket (vt : ValidationTicket) (ctx : TicketChecks) (clock : ClockState) (localNow : ℤ) :
    Option (ClockState × Except FatalError TicketObservations) :=
  if vt.protoVer ≠ Proto.protoVer then some (clock, .error .credentialCorrupt)
  else if ¬ ctx.supportedSuites.contains vt.suiteId then some (clock, .error .credentialCorrupt)
  else if vt.epochId ≠ ctx.verifiedEpoch then some (clock, .error .chainInvalid)
  else if vt.nonceCEcho ≠ ctx.sentNonce then some (clock, .error .nonceMismatch)
  else if vt.machineId ≠ ctx.machineId then some (clock, .error .machineMismatch)
  else (absI64 (signedSub 64 vt.serverTime localNow)).map (checkMarks vt ctx clock)

/-! ### What the checklist asks for -/

/-- The ticket is of this protocol and one of these suites, and answers this request. -/
structure TicketChecks.Addressed (ctx : TicketChecks) (vt : ValidationTicket) : Prop where
  protoVer : vt.protoVer = Proto.protoVer
  suiteId : vt.suiteId ∈ ctx.supportedSuites
  epochId : vt.epochId = ctx.verifiedEpoch
  nonceCEcho : vt.nonceCEcho = ctx.sentNonce
  machineId : vt.machineId = ctx.machineId

/-- The ticket answers this request, rolls nothing back, and its refresh is still to come. -/
structure TicketChecks.Passed (ctx : TicketChecks) (vt : ValidationTicket) : Prop
    extends ctx.Addressed vt where
  revocationEpoch : ctx.knownRevocationEpoch ≤ vt.revocationEpoch
  securityFloor : ctx.knownSecurityFloor ≤ vt.securityFloor
  nextRefreshAfter : vt.serverTime < vt.nextRefreshAfter

section Checklist

variable {vt : ValidationTicket} {ctx : TicketChecks} {clock : ClockState} {localNow : ℤ}

theorem absI64_signedSub_eq_none_iff {a b : ℤ} :
    absI64 (signedSub 64 a b) = none ↔ a - b ≤ signedMin 64 := by
  unfold absI64 signedSub clamp
  rw [ite_eq_left_iff]
  simp only [reduceCtorEq, imp_false, not_not]
  have hrange : signedMin 64 < signedMax 64 := by decide
  omega

/-- A ticket for another request is refused before its times are compared. -/
theorem checkTicket_of_not_addressed (h : ¬ ctx.Addressed vt) (clock : ClockState) (localNow : ℤ) :
    ∃ e, checkTicket vt ctx clock localNow = some (clock, .error e) := by
  fun_cases checkTicket vt ctx clock localNow with
  | case6 hproto hsuite hepoch hnonce hmachine =>
    exact absurd ⟨not_not.1 hproto, List.contains_iff_mem.1 (not_not.1 hsuite), not_not.1 hepoch,
      not_not.1 hnonce, not_not.1 hmachine⟩ h
  | _ => exact ⟨_, rfl⟩

theorem checkTicket_of_addressed (h : ctx.Addressed vt) :
    checkTicket vt ctx clock localNow =
      (absI64 (signedSub 64 vt.serverTime localNow)).map (checkMarks vt ctx clock) := by
  unfold checkTicket
  rw [if_neg (not_not.2 h.protoVer), if_neg (not_not.2 (List.contains_iff_mem.2 h.suiteId)),
    if_neg (not_not.2 h.epochId), if_neg (not_not.2 h.nonceCEcho), if_neg (not_not.2 h.machineId)]

theorem checkTicket_eq_none_iff :
    checkTicket vt ctx clock localNow = none ↔
      ctx.Addressed vt ∧ vt.serverTime - localNow ≤ signedMin 64 := by
  by_cases h : ctx.Addressed vt
  · rw [checkTicket_of_addressed h, map_eq_none_iff, absI64_signedSub_eq_none_iff,
      and_iff_right h]
  · obtain ⟨e, he⟩ := checkTicket_of_not_addressed h clock localNow
    rw [he]
    exact iff_of_false nofun fun hall => h hall.1

/-- A ticket is accepted if everything that is asked for holds, and its server time is observed. -/
theorem exists_checkTicket_eq_ok_iff {clock' : ClockState} :
    (∃ obs, checkTicket vt ctx clock localNow = some (clock', .ok obs)) ↔
      ctx.Passed vt ∧ signedMin 64 < vt.serverTime - localNow ∧
        clock' = clock.observeServerTime vt.serverTime := by
  by_cases h : ctx.Addressed vt
  · rw [checkTicket_of_addressed h]
    cases hdivergence : absI64 (signedSub 64 vt.serverTime localNow) with
    | none =>
      have hle := absI64_signedSub_eq_none_iff.1 hdivergence
      exact iff_of_false nofun fun ⟨_, hlt, _⟩ => absurd hlt (not_lt.2 hle)
    | some divergence =>
      have hlt : signedMin 64 < vt.serverTime - localNow := by
        rw [← not_le, ← absI64_signedSub_eq_none_iff, hdivergence]
        exact nofun
      simp only [map_some, some.injEq]
      fun_cases checkMarks vt ctx clock divergence with
      | case1 hepoch =>
        exact iff_of_false nofun fun ⟨hpassed, _⟩ =>
          absurd hpassed.revocationEpoch (not_le.2 hepoch)
      | case2 _ hfloor =>
        exact iff_of_false nofun fun ⟨hpassed, _⟩ => absurd hpassed.securityFloor (not_le.2 hfloor)
      | case3 _ _ hrefresh =>
        exact iff_of_false nofun fun ⟨hpassed, _⟩ =>
          absurd hpassed.nextRefreshAfter (not_lt.2 hrefresh)
      | case4 hepoch hfloor hrefresh =>
        constructor
        · rintro ⟨obs, hok⟩
          have hclock := (Prod.mk.inj hok).1
          exact ⟨⟨h, not_lt.1 hepoch, not_lt.1 hfloor, not_le.1 hrefresh⟩, hlt, hclock.symm⟩
        · rintro ⟨-, -, rfl⟩
          exact ⟨_, rfl⟩
  · obtain ⟨e, he⟩ := checkTicket_of_not_addressed h clock localNow
    rw [he]
    exact iff_of_false nofun fun hall => h hall.1.toAddressed

/-- A refused ticket leaves the clock. -/
theorem checkTicket_eq_error {clock' : ClockState} {e : FatalError}
    (h : checkTicket vt ctx clock localNow = some (clock', .error e)) : clock' = clock := by
  by_cases haddressed : ctx.Addressed vt
  · rw [checkTicket_of_addressed haddressed] at h
    obtain ⟨divergence, -, h⟩ := map_eq_some_iff.1 h
    unfold checkMarks at h
    split_ifs at h <;> cases h <;> rfl
  · obtain ⟨e', he⟩ := checkTicket_of_not_addressed haddressed clock localNow
    cases he.symm.trans h
    rfl

/-- An accepted ticket is for this machine, rolls nothing back, and its server time is observed. -/
theorem checkTicket_eq_ok {clock' : ClockState} {obs : TicketObservations}
    (h : checkTicket vt ctx clock localNow = some (clock', .ok obs)) :
    vt.machineId = ctx.machineId ∧ ctx.knownRevocationEpoch ≤ vt.revocationEpoch ∧
      ctx.knownSecurityFloor ≤ vt.securityFloor ∧ vt.serverTime < vt.nextRefreshAfter ∧
      clock' = clock.observeServerTime vt.serverTime := by
  obtain ⟨hpassed, -, hclock⟩ := exists_checkTicket_eq_ok_iff.1 ⟨obs, h⟩
  exact ⟨hpassed.machineId, hpassed.revocationEpoch, hpassed.securityFloor,
    hpassed.nextRefreshAfter, hclock⟩

end Checklist

/-- The check answers, accepts exactly the tickets that pass, leaves the clock on an error and
raises its mark to the server's time otherwise: for every ticket, except one that answers this
request with a server time so far before the local time that their difference has no absolute
value. -/
theorem checkTicket_meets_iff (vt : ValidationTicket) (ctx : TicketChecks) (clock : ClockState)
    (localNow : ℤ) :
    (∃ clock' answer, checkTicket vt ctx clock localNow = some (clock', answer) ∧
        (answer.isOk = true ↔ ctx.Passed vt) ∧ (answer.isOk = false → clock' = clock) ∧
        (answer.isOk = true → clock'.lastSeenMax = max clock.lastSeenMax vt.serverTime)) ↔
      ¬ (ctx.Addressed vt ∧ vt.serverTime - localNow ≤ signedMin 64) := by
  have hnone : checkTicket vt ctx clock localNow = none ↔ _ := checkTicket_eq_none_iff
  rw [← hnone]
  constructor
  · rintro ⟨clock', answer, hresult, -⟩
    rw [hresult]
    exact nofun
  · intro hsome
    obtain ⟨⟨clock', answer⟩, hresult⟩ := ne_none_iff_exists'.1 hsome
    refine ⟨clock', answer, hresult, ?_⟩
    cases answer with
    | error e =>
      refine ⟨iff_of_false nofun fun hpassed => ?_, fun _ => checkTicket_eq_error hresult, nofun⟩
      have hlt : signedMin 64 < vt.serverTime - localNow :=
        not_le.1 fun hle => hsome (checkTicket_eq_none_iff.2 ⟨hpassed.toAddressed, hle⟩)
      obtain ⟨obs, hok⟩ := exists_checkTicket_eq_ok_iff.2 ⟨hpassed, hlt, rfl⟩
      rw [hresult] at hok
      cases hok
    | ok obs =>
      obtain ⟨hpassed, -, rfl⟩ := exists_checkTicket_eq_ok_iff.1 ⟨obs, hresult⟩
      refine ⟨iff_of_true rfl hpassed, nofun, fun _ => ?_⟩
      exact ClockState.lastSeenMax_observeServerTime _ _

/-- What a client checks that sent the nonce `0` for the machine `0`. -/
def zeroChecks : TicketChecks where
  supportedSuites := [0x01000001]
  verifiedEpoch := 0
  sentNonce := 0
  machineId := 0
  knownRevocationEpoch := 0
  knownSecurityFloor := 0

/-- The answer to it at a server time. -/
def zeroTicket (serverTime : ℤ) : ValidationTicket where
  protoVer := Proto.protoVer
  suiteId := 0x01000001
  machineId := 0
  nonceCEcho := 0
  serverNonce := 0
  serverTime
  nextRefreshAfter := 0
  notAfter := 0
  revocationEpoch := 0
  verdict := .ok
  entitlements := none
  epochId := 0
  securityFloor := 0
  wrappedKeks := none

/-- At the least server time and local time zero a ticket that passes ends the process. -/
theorem checkTicket_overflows :
    zeroChecks.Passed (zeroTicket (signedMin 64)) ∧
      checkTicket (zeroTicket (signedMin 64)) zeroChecks (.new 0) 0 = none := by
  refine ⟨⟨⟨rfl, ?_, rfl, rfl, rfl⟩, le_rfl, le_rfl, ?_⟩, rfl⟩
  · exact List.mem_singleton.2 rfl
  · decide

/-- The deadlines of a machine credential. -/
def credentialDeadlines (c : MachineCredential) : Deadlines where
  refreshAfter := c.refreshAfter
  graceDeadline := c.graceDeadline
  notAfter := c.notAfter

/-- The deadlines of a ticket for a machine with this credential. -/
def deadlinesFromTicket (c : MachineCredential) (t : ValidationTicket) : Deadlines :=
  let graceDeadline := signedAdd 64 t.nextRefreshAfter c.graceSeconds
  { refreshAfter := t.nextRefreshAfter
    graceDeadline := if t.notAfter = 0 then graceDeadline else min graceDeadline t.notAfter
    notAfter := t.notAfter }

/-- The deadlines of an offline license key: it is never refreshed. -/
def olkDeadlines (l : OfflineLicenseKey) : Deadlines :=
  let stop := if l.notAfter = 0 then signedMax 64 else l.notAfter
  { refreshAfter := stop, graceDeadline := stop, notAfter := l.notAfter }

end Core

end CopyLocker
