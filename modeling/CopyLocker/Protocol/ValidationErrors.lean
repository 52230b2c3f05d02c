import CopyLocker.Client.Responses
import CopyLocker.Protocol.OnlineSignature
import CopyLocker.Worker.AssetKeys
import CopyLocker.Worker.Endpoint

/-!
# Errors of a validation, from the worker to the client

A validation that the worker refuses is answered with a status and a code. The client looks at the
status only: 429 and 5xx are transient, and anything else without success fails closed. So every
refusal that is not transient destroys what the client holds, whatever its code says.

Of the codes that the worker sends to a validation, two are not credential failures: 5000, always
with a 5xx, and 1007 of a release that is not registered, with a 403.
-/

namespace CopyLocker.Protocol

open Client CopyLocker.Core Proto Worker Worker.Router

/-- The failure may destroy the client: it is one of the credential failures, and neither a rate
limit nor a failure of the server. -/
def MayDestroy (failure : Failure) : Prop :=
  (1000 ≤ failure.reported.code ∧ failure.reported.code ≤ 1006) ∧ failure.reported.status ≠ 429 ∧
      ¬ (500 ≤ failure.reported.status ∧ failure.reported.status < 600)

/-- A client destroyed by an ordinary failure was destroyed by one that may. -/
theorem mayDestroy_of_isOrdinary {S : CryptoSuite} {failure : Failure}
    (hordinary : failure.IsOrdinary) {rt : Runtime S} {store : KeyStore} {io : Io} {now : ℤ}
    (h : Destroys rt store (receiveValidation rt store io failure.response now)) :
    MayDestroy failure := by
  rcases hordinary with (herror | herror) | ⟨hmin, hmax, hstatus⟩
  · refine absurd h (not_destroys_of_transient (e := .serverError 500) ?_ ?_)
    · rw [Failure.response, herror]
      rfl
    · rw [Failure.response, herror]
      decide
  · refine absurd h (not_destroys_of_transient (e := .serverError 503) ?_ ?_)
    · rw [Failure.response, herror]
      rfl
    · rw [Failure.response, herror]
      decide
  · exact ⟨⟨hmin, hmax⟩, by omega, by omega⟩

/-- The refusal of an unregistered release makes a client that holds nothing fail closed. -/
theorem destroys_of_releaseNotRegistered {S : CryptoSuite} (info : ClientInfo) {rt : Runtime S}
    (hstate : rt.state.state = .unlicensed) (store : KeyStore) (io : Io) (now : ℤ) :
    Destroys rt store (receiveValidation rt store io (releaseNotRegistered info).response now) := by
  have hrefused : receiveValidation rt store io (releaseNotRegistered info).response now =
      failClosedLocked rt store io .credentialCorrupt now :=
    receiveValidation_of_refused rfl (by decide : ¬ (200 ≤ 403 ∧ 403 < 300))
  rw [hrefused]
  refine .inr (.inr ⟨?_, ?_⟩)
  · rw [hstate]
    exact LicenseState.noConfusion
  · have hfailed := StateMachine.state_of_verificationFailed rt.state .credentialCorrupt now
    rw [hstate] at hfailed
    exact hfailed

section Answer

variable {env : ServiceEnv} {catalog : Catalog} {request : ValidationRequest}
  {material : TicketMaterial} {waits : ValidationWaits} {now : ℤ} {w w' : Service}
  {failure : Failure}

/-- A refused validation destroys a client only by a credential failure, exactly when the request
does not name an unregistered release. -/
theorem destroyed_by_credential_failure_iff (S : CryptoSuite)
    (h : serveValidation env catalog request material waits now w = (w', .error failure)) :
    (∀ (rt : Runtime S) (store : KeyStore) (io : Io) (clientNow : ℤ),
        Destroys rt store (receiveValidation rt store io failure.response clientNow) →
          MayDestroy failure) ↔
      ¬ NamesUnregistered env catalog request := by
  constructor
  · intro hall hunregistered
    obtain ⟨info, hserve⟩ := serveValidation_of_namesUnregistered hunregistered
    obtain rfl : failure = releaseNotRegistered info := by
      rw [hserve] at h
      exact (Except.error.inj (Prod.mk.inj h).2).symm
    let rt : Runtime S := .blank (.new .default 0) (.new { kem := [], signing := [] })
      { lastSeenMax := 0, lastServerTime := 0, rollbackEvents := 0, maxSeenSecurityFloor := 0,
        maxSeenRevocationEpoch := 0 }
    have hmay := hall rt none { saves := true, wipes := true } 0
      (destroys_of_releaseNotRegistered info rfl none _ 0)
    exact absurd hmay.1.2 (by decide : ¬ 1007 ≤ 1006)
  · intro hregistered rt store io clientNow hdestroys
    have hfails : failure.IsOrdinary ∨ NamesUnregistered env catalog request :=
      serveValidation_failsWith request w failure (congrArg Prod.snd h)
    exact mayDestroy_of_isOrdinary (hfails.resolve_right hregistered) hdestroys

end Answer

/-! ### Refused requests -/

/-- The request of `sampleValidation`, as it arrives. -/
def sampleRequest : ValidationRequest where
  protocolHeader := some "1"
  body := .ok (some sampleValidation)

/-- The answer to it, for these licenses and the releases `first` and `second`. -/
def refusedValidation (licenses : LicenseId → Option (Except String LicenseContext)) :
    Service × Except Failure Envelope :=
  serveValidation sampleWorker { vault := sampleVault, tables := sampleTables, licenses }
    sampleRequest { serverNonce := 0, wrappedKeks := some none }
    { beforeFloor := [], beforeLicense := [], beforeEpoch := [], beforeSigning := [] } 1500 .new

/-- An active client whose release was never registered loses its credential to the answer. -/
theorem unregistered_release_destroys_client :
    ∃ w failure inner after,
      refusedValidation (fun _ => some (.ok (sampleLicense .unlimited))) = (w, .error failure) ∧
        failure.reported.status = 403 ∧ failure.reported.code = 1007 ∧
        (activatedSystem 0).client = some inner ∧ inner.runtime.state.state = .active ∧
        inner.runtime.credential = some (sampleCredential 0) ∧
        (activatedSystem 0).store.isSome = true ∧
        receiveValidation inner.runtime (activatedSystem 0).store { saves := true, wipes := true }
          failure.response 1500 = after ∧
        after.runtime.state.state = .tampered ∧ after.runtime.credential = none ∧
        after.store = none :=
  ⟨_, _, _, _, rfl, rfl, rfl, rfl, rfl, rfl, rfl,
    receiveValidation_of_refused rfl (by decide : ¬ (200 ≤ 403 ∧ 403 < 300)), rfl, rfl, rfl⟩

/-- The theorem at a request for an unknown license, which is a credential failure. -/
theorem unknown_license_destroys_by_credential_failure :
    ∃ w failure, refusedValidation (fun _ => none) = (w, .error failure) ∧
      failure.reported.code = 1000 ∧
      ∀ (rt : Runtime sampleSuite) (store : KeyStore) (io : Io) (clientNow : ℤ),
        Destroys rt store (receiveValidation rt store io failure.response clientNow) →
          MayDestroy failure := by
  obtain ⟨w, failure, hrefused, hcode⟩ : ∃ w failure,
      refusedValidation (fun _ => none) = (w, .error failure) ∧ failure.reported.code = 1000 :=
    ⟨_, _, rfl, rfl⟩
  refine ⟨w, failure, hrefused, hcode,
    (destroyed_by_credential_failure_iff sampleSuite hrefused).2 ?_⟩
  rintro ⟨v, license, registry, -, -, -, -, hlicense, -⟩
  cases hlicense

end CopyLocker.Protocol
