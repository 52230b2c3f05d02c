import CopyLocker.Proto.Http
import CopyLocker.Worker.Authorization

/-!
# The validation endpoint

`POST /v1/validate` from the arrival of the request to the response: the protocol header, the
body, the handler, and what `response.rs` and `main` make of its failures.

## Main results

* `serveValidation_failsWith`: a failure is a credential failure, a server failure, or about an
  unknown release.
* `serveValidation_of_namesUnregistered`: the answer to a request that names such a release.
-/

namespace CopyLocker.Worker.Router

open Foundation Proto Result Handler Failure LicenseDO

/-! ### Requests -/

/-- Why a body is not read. -/
inductive BodyError
  | invalidContentLength
  | missingBody
  | read (message : String)
  | tooLarge
  | unsupportedEncoding
  | unsupportedMediaType
  | invalidCompressedBody
  deriving DecidableEq

/-- The failure for it. -/
def bodyError : BodyError → Failure
  | .read message => .internal message
  | .tooLarge => refusal 413 invalidCredential
  | .unsupportedEncoding | .unsupportedMediaType => refusal 415 invalidCredential
  | .invalidContentLength | .missingBody | .invalidCompressedBody => refusal 400 invalidCredential

/-- A request as it arrives: the header `X-CL-Proto`, and the body, `none` when it was read but
does not decode. -/
structure ValidationRequest where
  protocolHeader : Option String
  body : Except BodyError (Option ValidationMessage)

/-- What the database has: releases and licenses. -/
structure Catalog where
  vault : Vault
  tables : ReleaseTables
  licenses : LicenseId → Option (Except String LicenseContext)

/-- The authorization that a validation finds. -/
def Catalog.authorize (catalog : Catalog) (v : ValidationMessage) (now : ℤ) :
    Except AuthorizationError AuthorizationContext :=
  Authorized.toAuthorizationContext <$> loadByLicenseId catalog.vault catalog.tables
    catalog.licenses v.licenseId v.clientInfo.releaseId .validate now

/-- Check headers and body, and validate. -/
def serveValidation (env : ServiceEnv) (catalog : Catalog) (request : ValidationRequest)
    (material : TicketMaterial) (waits : ValidationWaits) (now : ℤ) : Handler Envelope := do
  Handler.require (request.protocolHeader = some "1") (refusal 426 unsupportedProto)
  let body ← Handler.ofExcept (request.body.mapError bodyError)
  let v ← Handler.ofOption body (refusal 400 invalidCredential)
  validate env v (catalog.authorize v now) material waits now

/-! ### Responses -/

/-- An error as a response. -/
def protocolErrorResponse (error : ProtocolError) : HttpResponse where
  status := error.status
  contentType := some "application/cbor"
  protocolVersion := some "1"
  retryAfter := error.retryAfter
  body := ProtocolErrorResponse.body
    { code := error.code, message := error.detail, retryAfter := error.retryAfter }

/-- The error that a failure is reported as; an internal one is not disclosed. -/
def Failure.reported : Failure → ProtocolError
  | .protocol error => error
  | .internal _ => { status := 500, code := serverError, detail := none, retryAfter := none }

variable (failure : Failure)

/-- The response of a failure. -/
def Failure.response : HttpResponse := protocolErrorResponse failure.reported

/-! ### The failures of a validation -/

/-- A failure of the server, which a later attempt may not meet. -/
def Failure.IsTransient : Prop :=
  failure.reported = { status := 500, code := serverError, detail := none, retryAfter := none } ∨
    failure.reported = { status := 503, code := serverError, detail := none, retryAfter := some 1 }

/-- A failure of the credential or of the request that presents it. -/
def Failure.IsCredential : Prop :=
  1000 ≤ failure.reported.code ∧ failure.reported.code ≤ 1006 ∧
    400 ≤ failure.reported.status ∧ failure.reported.status < 429

/-- The failure of a server or of a credential. -/
def Failure.IsOrdinary : Prop := failure.IsTransient ∨ failure.IsCredential

theorem isOrdinary_internal (message : String) : (internal message).IsOrdinary :=
  .inl (.inl rfl)

theorem isOrdinary_refusal {status code : ℕ} (hcode : 1000 ≤ code ∧ code ≤ 1006)
    (hstatus : 400 ≤ status ∧ status < 429) : (refusal status code).IsOrdinary :=
  .inr ⟨hcode.1, hcode.2, hstatus.1, hstatus.2⟩

theorem isOrdinary_invalidCredential {status : ℕ} (hstatus : 400 ≤ status ∧ status < 429) :
    (refusal status invalidCredential).IsOrdinary :=
  isOrdinary_refusal (by decide) hstatus

theorem isOrdinary_unsupportedProto : (refusal 426 unsupportedProto).IsOrdinary :=
  isOrdinary_refusal (by decide) (by decide)

private theorem isOrdinary_doRejection (status : ℕ) (code : ErrorCode) :
    (doRejection status code).IsOrdinary := by
  unfold doRejection
  split_ifs
  · exact isOrdinary_invalidCredential (by decide)
  · exact isOrdinary_invalidCredential (by decide)
  · exact isOrdinary_invalidCredential (by decide)
  · exact .inl (.inr rfl)

theorem answered_failsWith (response : Response) :
    FailsWith IsOrdinary (answered doRejection response) := by
  intro e h
  unfold answered at h
  split at h
  · rw [← Except.error.inj h]
    exact isOrdinary_doRejection _ _
  · rw [← Except.error.inj h]
    exact isOrdinary_internal _
  · cases h

theorem signing_failsWith {α : Type} (f : Service → Service × Except String α) :
    FailsWith IsOrdinary (signing f) := by
  intro w e h
  dsimp only [signing] at h
  cases hr : (f w).2 with
  | error message =>
    rw [hr] at h
    rw [← Except.error.inj h]
    exact isOrdinary_internal message
  | ok a =>
    rw [hr] at h
    cases h

variable (authorization : AuthorizationContext)

theorem releaseVariant_failsWith : FailsWith IsOrdinary (releaseVariant authorization) := by
  intro e h
  unfold releaseVariant at h
  split at h
  · cases h
  · split_ifs at h
    rw [← Except.error.inj h]
    exact isOrdinary_internal _

theorem effectiveKillReason_failsWith (state : ValidateState)
    (authorization : AuthorizationContext) :
    FailsWith IsOrdinary (effectiveKillReason state authorization) := by
  intro e h
  unfold effectiveKillReason at h
  split at h
  · cases h
  · split at h
    · rw [← Except.error.inj h]
      exact isOrdinary_internal _
    · cases h

section Serve

variable {env : ServiceEnv} {catalog : Catalog} {v : ValidationMessage}
  {material : TicketMaterial} {waits : ValidationWaits} {now : ℤ}

/-- The failures of a validation are ordinary, apart from those of its authorization. -/
theorem validate_failsWith {P : Failure → Prop}
    {authorized : Except AuthorizationError AuthorizationContext}
    (hordinary : ∀ e : Failure, e.IsOrdinary → P e)
    (hauthorized : v.protoVer = protoVer → requestSuite env v.suiteId → ∀ e, authorized = .error e →
        P (authorizationRejection (registrationHint none v.clientInfo) e)) :
    FailsWith P (validate env v authorized material waits now) := by
  refine .require_bind (hordinary _ isOrdinary_unsupportedProto) fun hversion => ?_
  refine .require_bind (hordinary _ (isOrdinary_invalidCredential (by decide))) fun hsuite => ?_
  have hrejected : FailsWith P
      (authorized.mapError (authorizationRejection (registrationHint none v.clientInfo))) := by
    intro e h
    obtain ⟨e', he', rfl⟩ := mapError_eq_error.1 h
    exact hauthorized hversion hsuite e' he'
  refine .bind (.ofExcept hrejected) fun authorization => .mono ?_ hordinary
  refine .bind (.ofExcept (releaseVariant_failsWith authorization)) fun _ => ?_
  refine .bind (.read _) fun _ => .bind (.yield _) fun _ => ?_
  refine .bind (.read _) fun _ => .bind (.yield _) fun _ => ?_
  refine .bind (.bind (.call _) fun response => .ofExcept (answered_failsWith response)) fun _ => ?_
  refine .ofOption_bind (isOrdinary_internal _) fun state _ => .bind (.yield _) fun _ => ?_
  refine .bind (.read _) fun _ => .ofOption_bind (isOrdinary_internal _) fun epoch _ => ?_
  refine .bind (.yield _) fun _ =>
    .bind (.ofExcept (effectiveKillReason_failsWith state authorization)) fun reason => ?_
  cases reason with
  | some reason => exact signing_failsWith _
  | none =>
    exact .require_bind (isOrdinary_internal _) fun _ => .require_bind (isOrdinary_internal _)
      fun _ => .ofOption_bind (isOrdinary_internal _) fun _ _ => signing_failsWith _

/-! ### Releases that are not registered -/

/-- The request gets as far as the version decision, which does not know its release. -/
def NamesUnregistered (env : ServiceEnv) (catalog : Catalog) (request : ValidationRequest) : Prop :=
  ∃ v license registry, request.protocolHeader = some "1" ∧ request.body = .ok (some v) ∧
    v.protoVer = Proto.protoVer ∧ requestSuite env v.suiteId ∧
    catalog.licenses v.licenseId = some (.ok license) ∧
    loadRegistry catalog.tables license.productId = .ok registry ∧
    registry.get v.clientInfo.releaseId = none

/-- The refusal of an unknown release. -/
def releaseNotRegistered (info : ClientInfo) : Failure :=
  authorizationRejection (registrationHint none info) .releaseNotRegistered

/-- The errors of an authorization, and when one of them is about the release. -/
theorem authorize_error {e : AuthorizationError} (h : catalog.authorize v now = .error e) :
    e = .invalidCredential ∨ e.IsServer ∨ (e = .releaseNotRegistered ∧ ∃ license registry,
      catalog.licenses v.licenseId = some (.ok license) ∧
      loadRegistry catalog.tables license.productId = .ok registry ∧
      registry.get v.clientInfo.releaseId = none) := by
  rcases bind_eq_error.1 (map_eq_error.1 h) with h | ⟨found, hfound, h⟩
  · exact .inl (ofOption_eq_error.1 h).2.symm
  rcases bind_eq_error.1 h with h | ⟨license, hlicense, h⟩
  · obtain ⟨message, -, rfl⟩ := mapError_eq_error.1 h
    exact .inr (.inl (isServer message))
  rcases loadContext_validate_error h with hserver | ⟨rfl, registry, hregistry, hget⟩
  · exact .inr (.inl hserver)
  · refine .inr (.inr ⟨rfl, license, registry, ?_, hregistry, hget⟩)
    rw [← mapError_eq_ok.1 hlicense]
    exact ofOption_eq_ok.1 hfound

/-- Every failure of a validation is one of the server or of the credential, unless the request
names a release that is not registered. -/
theorem serveValidation_failsWith (request : ValidationRequest) :
    FailsWith (fun e => e.IsOrdinary ∨ NamesUnregistered env catalog request)
      (serveValidation env catalog request material waits now) := by
  have hbody : FailsWith IsOrdinary (request.body.mapError bodyError) := by
    intro e h
    obtain ⟨e', -, rfl⟩ := mapError_eq_error.1 h
    cases e' with
    | read message => exact isOrdinary_internal message
    | _ => exact isOrdinary_invalidCredential (by decide)
  have hordinary (e : Failure) (he : e.IsOrdinary) :
      e.IsOrdinary ∨ NamesUnregistered env catalog request := .inl he
  refine .require_bind (hordinary _ isOrdinary_unsupportedProto) fun hheader => ?_
  refine .ofExcept_bind (fun e he => hordinary e (hbody e he)) fun body hread => ?_
  refine .ofOption_bind (hordinary _ (isOrdinary_invalidCredential (by decide))) fun v hv => ?_
  refine validate_failsWith hordinary fun hversion hsuite e he => ?_
  rcases authorize_error he with rfl | ⟨message, rfl⟩ | ⟨rfl, license, registry, hlicense⟩
  · exact hordinary _ (isOrdinary_invalidCredential (by decide))
  · exact hordinary _ (isOrdinary_internal message)
  · subst hv
    exact .inr ⟨v, license, registry, hheader, mapError_eq_ok.1 hread, hversion, hsuite, hlicense⟩

/-- A request that names an unregistered release is refused with a hint. -/
theorem serveValidation_of_namesUnregistered {request : ValidationRequest}
    (h : NamesUnregistered env catalog request) :
    ∃ info, ∀ material waits now w, serveValidation env catalog request material waits now w =
      (w, .error (releaseNotRegistered info)) := by
  obtain ⟨v, license, registry, hheader, hbody, hversion, hsuite, hlicense, hregistry, hget⟩ := h
  have hauthorize (now : ℤ) : catalog.authorize v now = .error .releaseNotRegistered := by
    refine map_eq_error.2 (bind_eq_error.2 (.inr ⟨_,
      ofOption_eq_ok.2 hlicense, bind_eq_error.2 (.inr ⟨license, rfl, ?_⟩)⟩))
    exact loadContext_of_get_eq_none .validate hregistry hget
  refine ⟨v.clientInfo, fun material waits now w => ?_⟩
  rw [serveValidation, require_bind_of_pos hheader, hbody]
  dsimp only [Except.mapError]
  rw [ofExcept_ok_bind, ofOption_some_bind, validate,
    require_bind_of_pos hversion, require_bind_of_pos hsuite, hauthorize]
  rfl

end Serve

end CopyLocker.Worker.Router
