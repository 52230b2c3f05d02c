import CopyLocker.Foundation.Handler
import CopyLocker.Worker.Service

/-!
# The handlers of activation and validation

`issue_activation` and `validate` of `router.rs`, from the authorization of the request on. What
the authorization of a license, its policy and its release amounts to is an argument, as is
whatever is drawn at random or sealed. The rest of the worker runs at every wait of a handler: the
steps that it takes there are arguments too.

The analytics events and the alerts of a validation have no effect on its answer and are left out.

## Main results

* `signs_of_validate`: what a validation answers was signed for a registered epoch, by a service
  whose issuers are well signed.
-/

namespace CopyLocker.Worker.Router

open Foundation Run Saturating Suite Proto Handler

/-! ### Answers -/

/-- The body of a refusal. -/
structure ProtocolError where
  status : ℕ
  code : ℕ
  detail : Option String
  retryAfter : Option ℕ
  deriving DecidableEq

/-- A refusal, or an internal error. -/
inductive Failure
  | protocol (error : ProtocolError)
  | internal (message : String)
  deriving DecidableEq

/-- A handler of the worker. -/
abbrev Handler := Foundation.Handler Service Failure

def invalidCredential : ℕ := 1000

def seatExhausted : ℕ := 1001

def unsupportedProto : ℕ := 1004

def serverError : ℕ := 5000

/-- A refusal without a detail. -/
def refusal (status code : ℕ) : Failure :=
  .protocol { status, code, detail := none, retryAfter := none }

/-- The refusal that asks for a later attempt. -/
def unavailable : Failure :=
  .protocol { status := 503, code := serverError, detail := none, retryAfter := some 1 }

/-- The answer to a request that the license's object refused. -/
def doRejection (status : ℕ) (code : LicenseDO.ErrorCode) : Failure :=
  if status = 400 then refusal 400 invalidCredential
  else if status = 401 ∨ (status = 409 ∧ code = .replayedNonce) then refusal 403 invalidCredential
  else if status = 409 ∧ code = .idempotencyConflict then refusal 409 invalidCredential
  else unavailable

/-- The answer to an activation that the license's object refused. -/
def activationDoRejection (status : ℕ) (code : LicenseDO.ErrorCode) : Failure :=
  if status = 409 ∧ code = .seatExhausted then refusal 409 seatExhausted
  else if status = 400 then refusal 400 invalidCredential
  else if status = 401 then refusal 403 invalidCredential
  else if status = 409 ∧ code = .idempotencyConflict then refusal 409 invalidCredential
  else unavailable

/-- A refusal of the object is translated, and an object that breaks off is an internal error. -/
def answered (rejection : ℕ → LicenseDO.ErrorCode → Failure) :
    LicenseDO.Response → Except Failure LicenseDO.Response
  | .error status code => .error (rejection status code)
  | .fault _ => .error (.internal "LicenseDO request failed")
  | response => .ok response

/-- A call to the object of a license. -/
def callLicense (env : ServiceEnv) (licenseId : LicenseId) (request : LicenseDO.Request) (now : ℤ)
    (rejection : ℕ → LicenseDO.ErrorCode → Failure) : Handler LicenseDO.Response := do
  let response ← Handler.call fun w => w.callLicense env licenseId request now
  Handler.ofExcept (answered rejection response)

/-- Wait while the rest of the worker takes these steps. -/
def waiting (env : ServiceEnv) (steps : List ServiceStep) : Handler Unit :=
  Handler.yield fun w => exec (Service.step env) w steps

/-- A signing step: its errors are internal. -/
def signing {α : Type} (f : Service → Service × Except String α) : Handler α :=
  fun w => ((f w).1, (f w).2.mapError .internal)

theorem signing_eq_ok {α : Type} {f : Service → Service × Except String α} {w w' : Service} {a : α}
    (h : signing f w = (w', .ok a)) : f w = (w', .ok a) := by
  obtain ⟨hstate, hresult⟩ := Prod.mk.inj h
  refine Prod.ext hstate ?_
  cases hr : (f w).2 with
  | error e =>
    rw [hr] at hresult
    cases hresult
  | ok a' =>
    rw [hr] at hresult
    cases hresult
    rfl

/-! ### Authorization -/

/-- What a client says about itself. -/
structure ClientInfo where
  releaseId : String
  variantId : ℕ
  buildFingerprint : String
  appVersion : String
  os : String
  arch : String
  sdkVersion : String
  deriving DecidableEq

/-- Why a release is not authorized. -/
inductive AuthorizationError
  | invalidCredential
  | releaseNotRegistered
  | versionOutOfScope
  | releaseCompromised
  | server (message : String)
  deriving DecidableEq

/-- The command that registers an unknown release. -/
def registrationHint (productId : Option ProductId) (info : ClientInfo) : String :=
  "release " ++ info.releaseId ++ " is not registered; run `copylocker release register" ++
    (productId.map (" --product " ++ ·)).getD "" ++ " --app-version " ++ info.appVersion ++
    " --build-fingerprint " ++ info.buildFingerprint ++ "` to publish it"

/-- The response to it. -/
def authorizationRejection (hint : String) : AuthorizationError → Failure
  | .invalidCredential => refusal 403 invalidCredential
  | .releaseNotRegistered =>
    .protocol { status := 403, code := 1007, detail := some hint, retryAfter := none }
  | .versionOutOfScope => refusal 409 1008
  | .releaseCompromised => refusal 403 1009
  | .server message => .internal message

/-- The release that a request is for. -/
structure ReleaseMaterial where
  releaseId : String
  buildFingerprint : String
  variantId : ℕ
  deriving DecidableEq

/-- The license, its policy and its release, as a request finds them. `policyExpiresAt` is the end
that the policy gives to a license at the time of the request. -/
structure AuthorizationContext where
  licenseId : LicenseId
  productId : ProductId
  seats : ℕ
  heartbeatSecs : Option ℤ
  expiresAt : Option ℤ
  vtSignature : VtSignature
  refreshAfterSecs : ℤ
  graceSecs : ℕ
  reportAttrs : Bool
  policyExpiresAt : Option ℤ
  entitlements : Entitlements
  release : Option ReleaseMaterial
  verdict : Verdict
  killReason : Option KillReason

namespace AuthorizationContext

/-- When the client is to validate again. -/
def nextRefreshAfter (a : AuthorizationContext) (now : ℤ) : ℤ := signedAdd 64 now a.refreshAfterSecs

/-- The earlier of the two ends, `0` without one. -/
def notAfter (a : AuthorizationContext) : ℤ :=
  match a.policyExpiresAt, a.expiresAt with
  | some policy, some license => min policy license
  | some policy, none => policy
  | none, some license => license
  | none, none => 0

end AuthorizationContext

/-- Whether the worker serves a suite. -/
def requestSuite (env : ServiceEnv) (suiteId : SuiteId) : Prop :=
  suiteId = clStd1SuiteId ∨ (env.issuer.testEnvironment = true ∧ suiteId = testSuiteId)

instance (env : ServiceEnv) (suiteId : SuiteId) : Decidable (requestSuite env suiteId) :=
  inferInstanceAs (Decidable (_ ∨ _))

/-! ### Validation -/

/-- A validation request. -/
structure ValidationMessage where
  protoVer : ℕ
  suiteId : SuiteId
  licenseId : LicenseId
  machineId : MachineId
  nonceC : ByteId 32
  knownRevocationEpoch : ℕ
  knownSecurityFloor : ℕ
  clientInfo : ClientInfo
  proofInput : LicenseDO.ProofInput
  proof : Bytes

/-- What a ticket takes from the outside: a nonce, and the wrapped keys of the release, `none` when
wrapping fails. -/
structure TicketMaterial where
  serverNonce : ByteId 32
  wrappedKeks : Option (Option WrappedKeks)

section

variable (env : ServiceEnv) (v : ValidationMessage) (authorization : AuthorizationContext)

/-- What the rest of the worker does at the four waits of a validation. -/
structure ValidationWaits where
  beforeFloor : List ServiceStep
  beforeLicense : List ServiceStep
  beforeEpoch : List ServiceStep
  beforeSigning : List ServiceStep

/-- The reason of a code. -/
def killReasonOfCode : ℕ → Option KillReason
  | 1 => some .revokedLicense
  | 2 => some .revokedActivation
  | 3 => some .seatReclaimed
  | 4 => some .fraud
  | 5 => some .refund
  | 6 => some .epochRevoked
  | _ => none

/-- What the user is told. -/
def killMessage : KillReason → String
  | .revokedLicense => "This license has been revoked. Please contact support."
  | .revokedActivation => "This device's activation was revoked."
  | .seatReclaimed => "This device's seat was released. Activate again to continue."
  | .fraud => "This application version has been withdrawn. Please update."
  | .refund => "This purchase was refunded."
  | .epochRevoked => "This credential must be activated again."

variable (state : LicenseDO.ValidateState)

/-- The reason to kill: the object's, and otherwise that of the authorization. -/
def effectiveKillReason (authorization : AuthorizationContext) : Except Failure (Option
    KillReason) :=
  match state.killReason with
  | none => .ok authorization.killReason
  | some code =>
    match killReasonOfCode code with
    | none => .error (.internal "LicenseDO kill reason is invalid")
    | some reason => .ok (some reason)

/-- The kill order to sign. -/
def killOrder (reason : KillReason) (now : ℤ) : KillOrder where
  protoVer := Proto.protoVer
  suiteId := v.suiteId
  machineId := v.machineId
  nonceCEcho := v.nonceC
  serverTime := now
  reason := reason
  userMessage := some (killMessage reason)
  revocationEpoch := state.revocationEpoch

/-- The ticket to sign. -/
def validationTicket (epoch : SigningEpoch) (serverNonce : ByteId 32)
    (wrappedKeks : Option WrappedKeks) (now : ℤ) : ValidationTicket where
  protoVer := Proto.protoVer
  suiteId := v.suiteId
  machineId := v.machineId
  nonceCEcho := v.nonceC
  serverNonce := serverNonce
  serverTime := now
  nextRefreshAfter := authorization.nextRefreshAfter now
  notAfter := authorization.notAfter
  revocationEpoch := state.revocationEpoch
  verdict := authorization.verdict
  entitlements := some authorization.entitlements
  epochId := epoch.epochId
  securityFloor := state.securityFloor
  wrappedKeks := wrappedKeks

/-- The variant of the release, as a signed column value. -/
def releaseVariant : Except Failure (Option ℤ) :=
  match authorization.release with
  | none => .ok none
  | some release =>
    if LicenseDO.fitsI64 release.variantId then .ok (some release.variantId)
    else .error (.internal "release variant id is too large")

/-- The request that the worker sends to the license's object. -/
def validateCall (variantId : Option ℤ) (revocationEpoch securityFloor : ℕ) (now : ℤ) :
    LicenseDO.ValidateRequest where
  auth :=
    { licenseId := v.licenseId, machineId := v.machineId, suiteId := v.suiteId, nonce := v.nonceC,
      proofInput := v.proofInput, proof := v.proof, idempotencyKey := "" }
  knownRevocationEpoch := v.knownRevocationEpoch
  authoritativeRevocationEpoch := revocationEpoch
  knownSecurityFloor := v.knownSecurityFloor
  nextRefreshAfter := authorization.nextRefreshAfter now
  notAfter := authorization.notAfter
  variantId := variantId
  authoritativeSecurityFloor := securityFloor

/-- Sign the answer to a validation. -/
def signAnswer {α : Type} [Artifact α] (env : ServiceEnv) (authorization : AuthorizationContext)
    (epoch : SigningEpoch) (v : ValidationMessage) (artifact : α) (now : ℤ) : Handler Envelope :=
  signing fun w =>
    signOnlineArtifact env w authorization.vtSignature authorization.licenseId
      authorization.productId epoch v.machineId artifact v.suiteId now

/-- The ticket of a validation that found no reason to kill. -/
def answerTicket (epoch : SigningEpoch) (material : TicketMaterial) (now : ℤ) :
    Handler Envelope := do
  Handler.require (state.suspicion ≤ 100) (.internal "LicenseDO suspicion score is invalid")
  Handler.require (state.fingerprint.isSome)
    (.internal "LicenseDO omitted the activation fingerprint for a ticket")
  let keks ← Handler.ofOption material.wrappedKeks (.internal "online asset KEK wrapping failed")
  signAnswer env authorization epoch v
    (validationTicket v authorization state epoch material.serverNonce keks now) now

/-- The signed ticket or kill order for a validation request. -/
def validate (authorized : Except AuthorizationError AuthorizationContext)
    (material : TicketMaterial) (waits : ValidationWaits) (now : ℤ) : Handler Envelope := do
  Handler.require (v.protoVer = protoVer) (refusal 426 unsupportedProto)
  Handler.require (requestSuite env v.suiteId) (refusal 403 invalidCredential)
  let authorization ← Handler.ofExcept
    (authorized.mapError (authorizationRejection (registrationHint none v.clientInfo)))
  let variantId ← Handler.ofExcept (releaseVariant authorization)
  let revocationEpoch ← Handler.read fun w => currentRevocationEpoch w.registry.revocations
  waiting env waits.beforeFloor
  let securityFloor ← Handler.read fun w => currentSecurityFloor w.registry.floors
  waiting env waits.beforeLicense
  let response ← callLicense env v.licenseId
    (.validate (validateCall v authorization variantId revocationEpoch securityFloor now)) now
    doRejection
  let state ← Handler.ofOption (match response with
      | .validated state => some state
      | _ => none)
    (.internal "LicenseDO validation outcome is inconsistent")
  waiting env waits.beforeEpoch
  let loaded ← Handler.read fun w => loadSigningEpoch w.registry.epochs authorization.productId now
  let epoch ← Handler.ofOption loaded (.internal "no active signing epoch is configured")
  waiting env waits.beforeSigning
  let reason ← Handler.ofExcept (effectiveKillReason state authorization)
  match reason with
  | some reason => signAnswer env authorization epoch v (killOrder v state reason now) now
  | none => answerTicket env v authorization state epoch material now

/-- The envelope is a ticket or a kill order that the service `w` signed for the epoch. -/
def Signs (epoch : SigningEpoch) (now : ℤ) (w w' : Service) (envelope : Envelope) : Prop :=
  (∃ t : ValidationTicket, signAnswer env authorization epoch v t now w = (w', .ok envelope)) ∨
    ∃ k : KillOrder, signAnswer env authorization epoch v k now w = (w', .ok envelope)

variable {env} {licenseId : LicenseId} {request : LicenseDO.Request}
  {rejection : ℕ → LicenseDO.ErrorCode → Failure} {w w' : Service} {now : ℤ}

/-- A call that is answered has changed the object of its license only. -/
theorem callLicense_eq_ok {response : LicenseDO.Response}
    (h : callLicense env licenseId request now rejection w = (w', .ok response)) :
    (w', response) = w.callLicense env licenseId request now := by
  obtain ⟨hstate, hanswer⟩ := Prod.mk.inj h
  obtain rfl : (w.callLicense env licenseId request now).2 = response := by
    unfold answered at hanswer
    split at hanswer
    · cases hanswer
    · cases hanswer
    · exact Except.ok.inj hanswer
  rw [← hstate]

/-- The envelope of a validation is signed after the last wait, for an epoch that was registered
before it. -/
theorem signs_of_validate {v : ValidationMessage}
    {authorized : Except AuthorizationError AuthorizationContext} {material : TicketMaterial}
    {waits : ValidationWaits} {envelope : Envelope} (hw : w.IssuersWellSigned env)
    (h : validate env v authorized material waits now w = (w', .ok envelope)) :
    ∃ authorization epoch cert w₁, authorized = .ok authorization ∧ w₁.IssuersWellSigned env ∧
      w₁.Registered epoch.epochId cert ∧ cert.vkFast = epoch.fastVerifyingKey ∧
      Signs env v authorization epoch now w₁ w' envelope := by
  obtain ⟨-, h⟩ := require_bind h
  obtain ⟨-, h⟩ := require_bind h
  obtain ⟨authorization, hauth, h⟩ := ofExcept_bind h
  obtain ⟨variantId, -, h⟩ := ofExcept_bind h
  -- the two counters are read, and the rest of the worker runs
  have hw₀ := exec_issuersWellSigned env hw waits.beforeFloor
  have hw₁ := exec_issuersWellSigned env hw₀ waits.beforeLicense
  obtain ⟨w₂, response, hcall, h⟩ := bind_eq_ok (α := LicenseDO.Response) h
  have hw₂ : w₂.IssuersWellSigned env := by
    obtain rfl : w₂ = _ := congrArg Prod.fst (callLicense_eq_ok hcall)
    exact hw₁
  obtain ⟨state, -, h⟩ := ofOption_bind h
  have hw₃ := exec_issuersWellSigned env hw₂ waits.beforeEpoch
  obtain ⟨epoch, hloaded, h⟩ := ofOption_bind (α := SigningEpoch) h
  obtain ⟨row, hrow, hkey⟩ := loadSigningEpoch_eq_some hloaded
  obtain ⟨reason, -, h⟩ := ofExcept_bind (α := Option KillReason) h
  refine ⟨authorization, epoch, row.cert, _, ?_, exec_issuersWellSigned env hw₃ waits.beforeSigning,
    exec_registered env ⟨row, hrow, rfl⟩ waits.beforeSigning, hkey, ?_⟩
  · cases authorized with
    | error e => cases hauth
    | ok a =>
      cases hauth
      rfl
  · cases reason with
    | some reason => exact .inr ⟨_, h⟩
    | none =>
      obtain ⟨-, h⟩ := require_bind h
      obtain ⟨-, h⟩ := require_bind h
      obtain ⟨keks, -, h⟩ := ofOption_bind h
      exact .inl ⟨_, h⟩

end

/-! ### Activation -/

/-- An activation request that parsed and whose proof verified. -/
structure ParsedActivation where
  suiteId : SuiteId
  fingerprint : Fingerprint
  deviceKemEk : Bytes
  deviceSigVk : Bytes
  deviceAttrs : Option Bytes
  clientInfo : ClientInfo
  idempotencyKey : String
  requestHash : Digest

/-- The secrets sealed for a device; `none` for a part when sealing it fails. The machine id is
drawn, and used for a new machine only. -/
structure ActivationMaterial where
  machineId : MachineId
  candidateState : Option Bytes
  sealedSecret : Option (Bytes × Bytes)
  offlineNonce : ByteId 32
  wrappedKeks : Option WrappedKeks
  preloadedKeks : Except Failure (Option PreloadedKeks)

/-- What the rest of the worker does at the waits of an activation. -/
structure ActivationWaits where
  beforeFloor : List ServiceStep
  beforeInit : List ServiceStep
  beforeReserve : List ServiceStep
  beforeIssue : List ServiceStep
  beforeComplete : List ServiceStep

/-- The answer to an activation: the envelope of an earlier request with the same key, or a
credential that was issued now, with the envelope that the object then answers. -/
inductive Activated
  | stored (envelope : Wire Envelope)
  | issued (credential : MachineCredential) (envelope : Wire Envelope)

variable (env : ServiceEnv) (parsed : ParsedActivation) (authorization : AuthorizationContext)

/-- A heartbeat interval as the unsigned word of a request. -/
def heartbeatWord : Option ℤ → Except Failure (Option ℕ)
  | none => .ok none
  | some secs =>
    if 0 ≤ secs then .ok (some secs.toNat)
    else .error (.internal "authorization heartbeat interval is invalid")

/-- The object is set up as the license says. -/
def initCall (heartbeatSec : Option ℕ) : LicenseDO.InitRequest where
  licenseId := authorization.licenseId
  productId := authorization.productId
  suiteId := parsed.suiteId
  seats := authorization.seats
  heartbeatSec := heartbeatSec
  expiresAt := authorization.expiresAt
  nonceTtlSec := none

/-- The reservation of an activation. -/
def reserveCall (release : ReleaseMaterial) (path : LicenseDO.ActivationPath)
    (material : ActivationMaterial) (credentialState : Bytes) (securityFloor : ℕ) (now : ℤ) :
    LicenseDO.ReserveRequest where
  idempotencyKey := parsed.idempotencyKey
  requestHash := some parsed.requestHash
  machineId := material.machineId
  fingerprint := parsed.fingerprint
  attrs := if authorization.reportAttrs then parsed.deviceAttrs else none
  deviceKemEk := parsed.deviceKemEk
  deviceSigVk := parsed.deviceSigVk
  activationPath := path
  releaseId := release.releaseId
  variantId := release.variantId
  refreshAfter := authorization.nextRefreshAfter now
  notAfter := authorization.notAfter
  buildFp := some release.buildFingerprint
  appVersion := some parsed.clientInfo.appVersion
  os := some parsed.clientInfo.os
  arch := some parsed.clientInfo.arch
  sdkVersion := some parsed.clientInfo.sdkVersion
  geo := none
  credentialState := some credentialState
  authoritativeSecurityFloor := securityFloor

/-- The object's answer fits the request. -/
def reservationConsistent (release : ReleaseMaterial) (r : LicenseDO.ReserveResponse) : Bool :=
  r.fingerprint == parsed.fingerprint && decide (0 ≤ r.variantId) && decide (0 < r.refreshAfter) &&
    decide (0 ≤ r.notAfter) && r.buildFp == some release.buildFingerprint

/-- The credential of a reservation. Both of its counters are the object's. -/
def machineCredential (epoch : SigningEpoch) (r : LicenseDO.ReserveResponse)
    (kemCt sealedCs : Bytes) (offlineNonce : ByteId 32) (wrappedKeks : WrappedKeks)
    (preloadedKeks : Option PreloadedKeks) (now : ℤ) : MachineCredential where
  protoVer := Proto.protoVer
  suiteId := parsed.suiteId
  productId := authorization.productId
  licenseId := authorization.licenseId
  machineId := r.machineId
  fingerprint := r.fingerprint
  kemCt := kemCt
  sealedCs := sealedCs
  offlineNonce := offlineNonce
  entitlements := authorization.entitlements
  issuedAt := now
  notAfter := r.notAfter
  refreshAfter := r.refreshAfter
  graceSeconds := authorization.graceSecs
  revocationEpoch := r.revocationEpoch
  epochId := epoch.epochId
  buildFingerprint := r.buildFp
  securityFloor := r.securityFloor
  variantId := r.variantId.toNat
  wrappedKeks := wrappedKeks
  preloadedKeks := preloadedKeks

/-- Build the credential of a reservation, have it signed and complete the reservation. -/
def issueCredential (release : ReleaseMaterial) (epoch : SigningEpoch)
    (r : LicenseDO.ReserveResponse) (material : ActivationMaterial) (waits : ActivationWaits)
    (now : ℤ) : Handler Activated := do
  Handler.require (reservationConsistent parsed release r)
    (.internal "LicenseDO returned inconsistent reservation state")
  Handler.require r.credentialState.isSome
    (.internal "LicenseDO omitted activation credential state")
  let (kemCt, sealedCs) ← Handler.ofOption material.sealedSecret
    (.internal "credential secret sealing failed")
  let keks ← Handler.ofOption material.wrappedKeks (.internal "offline asset KEK wrapping failed")
  let preloaded ← Handler.ofExcept material.preloadedKeks
  let credential := machineCredential parsed authorization epoch r kemCt sealedCs
    material.offlineNonce keks preloaded now
  waiting env waits.beforeIssue
  let envelope ← signing fun w =>
    issueArtifact env w authorization.licenseId authorization.productId
      (ByteId.toBytes authorization.licenseId) .machineCred (Artifact.toCanonical credential) now
  waiting env waits.beforeComplete
  let response ← callLicense env authorization.licenseId (.complete
      { idempotencyKey := parsed.idempotencyKey
        requestHash := parsed.requestHash
        machineId := r.machineId
        activationEnvelope :=
          { size := env.issuer.envelopeSize envelope, decoded := .ok envelope } }) now
    activationDoRejection
  match response with
  | .completed envelope => pure (.issued credential envelope)
  | _ => Handler.ofExcept (.error
      (.internal "LicenseDO returned an unsuccessful activation completion"))

/-- Reserve the seat, sign the machine credential and complete the reservation. -/
def issueActivation (path : LicenseDO.ActivationPath) (material : ActivationMaterial)
    (waits : ActivationWaits) (now : ℤ) : Handler Activated := do
  let release ← Handler.ofOption authorization.release
    (.internal "activation release material is unavailable")
  let loaded ← Handler.read fun w => loadSigningEpoch w.registry.epochs authorization.productId now
  let epoch ← Handler.ofOption loaded (.internal "no active signing epoch is configured")
  waiting env waits.beforeFloor
  let securityFloor ← Handler.read fun w => currentSecurityFloor w.registry.floors
  let heartbeatSec ← Handler.ofExcept (heartbeatWord authorization.heartbeatSecs)
  waiting env waits.beforeInit
  let _ ← callLicense env authorization.licenseId
    (.init (initCall parsed authorization heartbeatSec)) now activationDoRejection
  let credentialState ← Handler.ofOption material.candidateState
    (.internal "credential state sealing failed")
  waiting env waits.beforeReserve
  let response ← callLicense env authorization.licenseId
    (.reserve (reserveCall parsed authorization release path material credentialState securityFloor
      now)) now activationDoRejection
  let r ← Handler.ofOption (match response with
      | .reserved _ r => some r
      | _ => none)
    (.internal "LicenseDO returned an unsuccessful reservation")
  match r.activationEnvelope with
  | some envelope => pure (.stored envelope)
  | none => issueCredential env parsed authorization release epoch r material waits now

end CopyLocker.Worker.Router
