import CopyLocker.Core.Ticket
import CopyLocker.Worker.SignedTickets

/-!
# The decision about a validation

`copylocker-server-core::validate` decides from the record of a license, its policy and the request
whether a device gets a ticket, is wiped, or is refused. What a ticket should carry is a plan; the
header of the ticket (suite, signing epoch, nonces) is added by the caller. The client checks the
ticket on its own, against what it sent: its nonce, its machine and both of its counters.

## Main results

* `LicenseRecord.validate_eq_ticket`: what a plan says about the request.
* `planned_ticket_passes`: the client accepts the ticket.
-/

namespace CopyLocker.Server

open Foundation Saturating Proto CopyLocker.Core Result
open Worker.Router (StoredPolicy releaseStatusCode ticketSummary)

/-- An activation, as far as the decision reads it. -/
structure ActivationRecord where
  machineId : MachineId
  status : ActivationStatus
  deriving DecidableEq

/-- A license, as far as the decision reads it. -/
structure LicenseRecord where
  status : LicenseStatus
  expiresAt : Option Int64
  activations : List ActivationRecord
  deriving DecidableEq

/-- The request. Its proof and the freshness of its nonce are checked by the caller. -/
structure ValidateInput where
  machineId : MachineId
  nonceC : ByteId 32
  releaseId : String
  knownRevocationEpoch : UInt64
  knownSecurityFloor : UInt64
  proofValid : Bool
  nonceFresh : Bool
  deriving DecidableEq

/-- What a ticket should carry. -/
structure TicketPlan where
  verdict : Verdict
  nextRefreshAfter : Int64
  notAfter : Int64
  revocationEpoch : UInt64
  securityFloor : UInt64
  entitlements : Option Codec.Entitlements
  releaseStatus : Option UInt8
  refreshNow : Bool
  variantId : Option ℕ

/-- A ticket to sign, or a kill order. -/
inductive ValidateOutcome
  | ticket (plan : TicketPlan)
  | kill (reason : KillReason) (userMessage : Option String)

/-- The faults of a request that this decision reports. -/
inductive ClientFault
  | invalidCredential
  | needsReactivation
  | releaseNotRegistered (releaseId : String)
  | proofInvalid
  | replayedNonce
  | rollbackAttempt
  deriving DecidableEq

variable {license : LicenseRecord} {policy : StoredPolicy} {catalog : Catalog}
  {registry : ReleaseRegistry} {scope : VersionScope} {input : ValidateInput}
  {revocationEpoch securityFloor : UInt64} {now : Int64} {p : TicketPlan}

namespace LicenseRecord

/-- The activation of a machine. -/
def activation (license : LicenseRecord) (id : MachineId) : Option ActivationRecord :=
  license.activations.find? (·.machineId == id)

/-- The conditions that justify destroying the credential, with what the user is told. -/
def killed (license : LicenseRecord) (activation : ActivationRecord) :
    Option (KillReason × String) :=
  if license.status = .revoked then
    some (.revokedLicense, "This licence has been revoked. Please contact support.")
  else
    match activation.status with
    | .revoked => some (.revokedActivation, "This device's activation was revoked.")
    | .released =>
      some (.seatReclaimed, "This device's seat was released. Activate again to continue.")
    | .active | .pending => none

/-- Verdict, variant and status of the release that the client reports; `none` kills it. -/
def releaseVerdict (registry : ReleaseRegistry) (scope : VersionScope) (releaseId : String) :
    Except ClientFault (Option (Verdict × Option ℕ × Option UInt8)) :=
  match decideVersion registry scope releaseId with
  | .inScope variantId =>
    .ok (some (.ok, some variantId,
      (registry.get releaseId).map fun r => UInt8.ofNat (releaseStatusCode r.status)))
  | .notRegistered => .error (.releaseNotRegistered releaseId)
  | .outOfScope _ => .ok (some (.versionOutOfScope, none, some 0))
  | .compromised .warn => .ok (some (.ok, (registry.get releaseId).map (·.variantId), some 2))
  | .compromised .forceUpgrade => .ok (some (.needsReactivation, none, some 2))
  | .compromised .revoke => .ok none

/-- The plan of a ticket for a release with this verdict. -/
def plan (license : LicenseRecord) (policy : StoredPolicy) (catalog : Catalog)
    (input : ValidateInput) (revocationEpoch securityFloor : UInt64) (now : Int64)
    (release : Verdict × Option ℕ × Option UInt8) : TicketPlan where
  verdict := release.1
  nextRefreshAfter := Int64.ofInt (signedAdd 64 now.toInt policy.refreshAfterSecs)
  notAfter := (((policy.expiresAt now.toInt).map Int64.ofInt).or license.expiresAt).getD 0
  revocationEpoch := revocationEpoch
  securityFloor := securityFloor
  entitlements := (resolve catalog policy.entitlement now).toOption
  releaseStatus := release.2.2
  refreshNow := input.knownRevocationEpoch < revocationEpoch
  variantId := release.2.1

/-- Cheap refusals come first; a kill order needs a condition that warrants it. -/
def validate (license : LicenseRecord) (policy : StoredPolicy) (catalog : Catalog)
    (registry : ReleaseRegistry) (scope : VersionScope) (input : ValidateInput)
    (revocationEpoch securityFloor : UInt64) (now : Int64) :
    Except ClientFault ValidateOutcome := do
  Result.require (input.nonceFresh = true) .replayedNonce
  Result.require (input.proofValid = true) .proofInvalid
  Result.require (input.knownRevocationEpoch ≤ revocationEpoch ∧
    input.knownSecurityFloor ≤ securityFloor) .rollbackAttempt
  let activation ← Result.ofOption (license.activation input.machineId) .needsReactivation
  match license.killed activation with
  | some (reason, message) => return .kill reason (some message)
  | none =>
    -- a license that is suspended or has run out is not refreshed, but not killed either
    Result.require (license.status ≠ .suspended ∧ license.status ≠ .expired) .invalidCredential
    Result.require (license.expiresAt.all (now < ·) = true) .invalidCredential
    match ← releaseVerdict registry scope input.releaseId with
    | none =>
      return .kill .fraud (some "This application version has been withdrawn. Please update.")
    | some release =>
      return .ticket (license.plan policy catalog input revocationEpoch securityFloor now release)

/-- A plan is made only for a request whose counters are not ahead of the server's. -/
theorem validate_eq_ticket
    (h : license.validate policy catalog registry scope input revocationEpoch securityFloor now =
      .ok (.ticket p)) :
    input.knownRevocationEpoch ≤ revocationEpoch ∧ input.knownSecurityFloor ≤ securityFloor ∧
      ∃ release,
        p = license.plan policy catalog input revocationEpoch securityFloor now release := by
  obtain ⟨-, -, h⟩ := bind_eq_ok.1 h
  obtain ⟨-, -, h⟩ := bind_eq_ok.1 h
  obtain ⟨⟨⟩, hcounters, h⟩ := bind_eq_ok.1 h
  obtain ⟨activation, -, h⟩ := bind_eq_ok.1 h
  obtain ⟨hepoch, hfloor⟩ := require_eq_ok.1 hcounters
  refine ⟨hepoch, hfloor, ?_⟩
  split at h
  · cases h
  · obtain ⟨-, -, h⟩ := bind_eq_ok.1 h
    obtain ⟨-, -, h⟩ := bind_eq_ok.1 h
    obtain ⟨verdict, -, h⟩ := bind_eq_ok.1 h
    cases verdict with
    | none => cases h
    | some release => exact ⟨release, (ValidateOutcome.ticket.inj (Except.ok.inj h)).symm⟩

end LicenseRecord

/-- What the caller adds to a plan. -/
structure TicketHeader where
  suiteId : SuiteId
  epochId : EpochId
  serverNonce : ByteId 32
  suspicionScore : Option UInt8
  wrappedKeks : Option (SortedMap String Bytes)

/-- The ticket with a plan, for the request and the time that it was made for. -/
def TicketPlan.ticket (p : TicketPlan) (header : TicketHeader) (input : ValidateInput)
    (now : Int64) : Codec.ValidationTicket where
  protoVer := UInt8.ofNat protoVer
  suiteId := header.suiteId
  machineId := input.machineId
  nonceCEcho := input.nonceC
  serverNonce := header.serverNonce
  serverTime := now
  nextRefreshAfter := p.nextRefreshAfter
  notAfter := p.notAfter
  revocationEpoch := p.revocationEpoch
  verdict := p.verdict
  entitlements := p.entitlements
  epochId := header.epochId
  suspicionScore := header.suspicionScore
  securityFloor := p.securityFloor
  releaseStatus := p.releaseStatus
  wrappedKeks := header.wrappedKeks
  refreshNow := some p.refreshNow

/-- What the client that sent the request checks, under the epoch that verified the signature. -/
def ValidateInput.checks (input : ValidateInput) (supportedSuites : List SuiteId)
    (verifiedEpoch : EpochId) : TicketChecks where
  supportedSuites := supportedSuites
  verifiedEpoch := verifiedEpoch
  sentNonce := input.nonceC
  machineId := input.machineId
  knownRevocationEpoch := input.knownRevocationEpoch.toNat
  knownSecurityFloor := input.knownSecurityFloor.toNat

/-- The durations of a valid policy are positive. -/
theorem durations_pos (h : policy.validate = .ok ()) :
    0 < policy.refreshAfterSecs ∧ ∀ {periodSecs dunningSecs fallback},
      policy.validity = .subscription periodSecs dunningSecs fallback → 0 < periodSecs := by
  obtain ⟨-, -, h⟩ := bind_eq_ok.1 h
  obtain ⟨-, -, h⟩ := bind_eq_ok.1 h
  obtain ⟨⟨⟩, hpos, h⟩ := bind_eq_ok.1 h
  obtain ⟨-, -, h⟩ := bind_eq_ok.1 h
  refine ⟨require_eq_ok.1 hpos, fun hvalidity => ?_⟩
  rw [hvalidity] at h
  exact require_eq_ok.1 h

/-- The client accepts the ticket with the plan of its request at every time of the decision but the
last, if the difference to its own time has an absolute value. -/
theorem planned_ticket_passes (hpolicy : policy.validate = .ok ())
    (hplan : license.validate policy catalog registry scope input revocationEpoch securityFloor
      now =
      .ok (.ticket p))
    {header : TicketHeader} {supportedSuites : List SuiteId}
    (hsuite : header.suiteId ∈ supportedSuites) (clock : ClockState) {localNow : ℤ}
    (hnow : now.toInt < signedMax 64) (hskew : signedMin 64 < now.toInt - localNow) :
    ∃ observations, checkTicket (ticketSummary (p.ticket header input now))
        (input.checks supportedSuites header.epochId) clock localNow =
      some (clock.observeServerTime now.toInt, .ok observations) := by
  obtain ⟨hepoch, hfloor, release, rfl⟩ := LicenseRecord.validate_eq_ticket hplan
  have hrefresh : now.toInt <
      (Int64.ofInt (signedAdd 64 now.toInt policy.refreshAfterSecs)).toInt := by
    rw [Worker.Router.toInt_ofInt_signedAdd]
    have hpos := (durations_pos hpolicy).1
    exact lt_max_of_lt_right (lt_min hnow (by omega))
  refine exists_checkTicket_eq_ok_iff.2
    ⟨⟨⟨rfl, hsuite, rfl, rfl, rfl⟩, ?_, ?_, hrefresh⟩, hskew, rfl⟩
  · exact UInt64.le_iff_toNat_le.1 hepoch
  · exact UInt64.le_iff_toNat_le.1 hfloor

/-! ### A device that reports the one release -/

def seatedLicense : LicenseRecord where
  status := .active
  expiresAt := none
  activations := [{ machineId := 2, status := .active }]

def firstRelease : ReleaseRegistry where
  releases :=
    [{ id := "first", appVersion := "1.0.0", variantId := 1, status := .active,
       compromisedAction := none, publishedAt := 0 }]

/-- A request of a client whose revocations are one behind the server's. -/
def firstRequest : ValidateInput where
  machineId := 2
  nonceC := 3
  releaseId := "first"
  knownRevocationEpoch := 0
  knownSecurityFloor := 0
  proofValid := true
  nonceFresh := true

def firstHeader : TicketHeader where
  suiteId := 0x01000001
  epochId := 5
  serverNonce := 7
  suspicionScore := none
  wrappedKeks := none

/-- It gets a plan, and the ticket passes at a local time that is a day ahead. -/
theorem first_request_ticket_passes :
    ∃ p, seatedLicense.validate (Worker.Router.scopedConfiguration .unlimited).policy
        Worker.Router.baseCatalog firstRelease .unlimited firstRequest 1 0 1500 = .ok (.ticket p) ∧
      ∃ observations, checkTicket (ticketSummary (p.ticket firstHeader firstRequest 1500))
          (firstRequest.checks [0x01000001] 5) (.new 1000) (1500 + 86400) =
        some ((ClockState.new 1000).observeServerTime 1500, .ok observations) := by
  obtain ⟨p, hp⟩ : ∃ p, seatedLicense.validate
      (Worker.Router.scopedConfiguration .unlimited).policy Worker.Router.baseCatalog firstRelease
      .unlimited firstRequest 1 0 1500 = .ok (.ticket p) := ⟨_, rfl⟩
  exact ⟨p, hp, planned_ticket_passes rfl hp (List.mem_singleton.2 rfl) _ (by decide) (by decide)⟩

end CopyLocker.Server
