import CopyLocker.Worker.AssetKeys
import CopyLocker.Worker.Deployment
import CopyLocker.Worker.ProjectionOverride

/-!
# Offline license keys

`issue_offline_key` of `admin_resources/offline_key.rs`. Whether the license may have a key is
decided by the status column of the database, and once only; the key is signed after several more
reads. A revocation reaches that column by a projection, some time after it was applied. So a key
can be signed for a license that has been revoked.

As in the other handlers, the authorization of the license and its release, what is drawn at
random and the steps of the rest of the deployment at every wait are arguments.

## Main results

* `signOfflineKey_eq_ok`: where a signed key was checked, and where it was signed.
* `no_key_signed_after_revocation`: no key is signed for a revoked license, if its projection is
  delivered before the request and not undone, and no revocation is applied during the request.
-/

namespace CopyLocker.Worker.Router

open Foundation Run Server Suite Proto Deployment Handler

/-! ### Requests -/

/-- A refusal of the administration, or an internal error. -/
inductive AdminFailure
  | api (status : ℕ) (code message : String)
  | internal (message : String)
  deriving DecidableEq

def invalidRequest (message : String) : AdminFailure := .api 400 "invalid_request" message

def notFound (message : String) : AdminFailure := .api 404 "not_found" message

def conflict (code message : String) : AdminFailure := .api 409 code message

/-- A handler of the administration. -/
abbrev AdminHandler := Foundation.Handler Deployment AdminFailure

/-- A request for an offline key. A fingerprint that is given but is not 32 bytes of hexadecimal
is `some none`, and an idempotency key that is missing or invalid is `none`. -/
structure OfflineKeyRequest where
  licenseId : LicenseId
  idempotencyKey : Option String
  releaseId : String
  boundFingerprint : Option (Option Fingerprint)
  maxSeats : Option ℕ
  deriving DecidableEq

/-- The fingerprint to bind, unless it does not parse. -/
def OfflineKeyRequest.fingerprint (r : OfflineKeyRequest) : Option (Option Fingerprint) :=
  match r.boundFingerprint with
  | none => some none
  | some none => none
  | some (some fingerprint) => some (some fingerprint)

/-- What is drawn for a key. -/
structure OfflineKeyMaterial where
  machineId : MachineId
  offlineNonce : ByteId 32
  keySeed : ByteId 32
  keys : KeyMaterial

/-- What the rest of the deployment does at the waits of a request. -/
structure OfflineKeyWaits where
  beforeAuthorization : List DeploymentStep
  beforeEpoch : List DeploymentStep
  beforeFloor : List DeploymentStep
  beforeRevocationEpoch : List DeploymentStep
  beforeSigning : List DeploymentStep
  beforeChain : List DeploymentStep

/-- All that happens between the check of a request and the signature. -/
def OfflineKeyWaits.untilSigning (w : OfflineKeyWaits) : List DeploymentStep :=
  w.beforeAuthorization ++ w.beforeEpoch ++ w.beforeFloor ++ w.beforeRevocationEpoch ++
    w.beforeSigning

/-- Wait while the rest of the deployment takes these steps. -/
def awaiting (env : ServiceEnv) (steps : List DeploymentStep) : AdminHandler Unit :=
  Handler.yield fun d => exec (step env) d steps

/-- A signing step of the service: its errors are internal. -/
def signingWith {α : Type} (f : Service → Service × Except String α) : AdminHandler α :=
  fun d => ({ d with service := (f d.service).1 }, (f d.service).2.mapError .internal)

/-! ### The handler -/

/-- The checks of a request before anything is loaded. `owns` is the product of a license of the
vendor. The answer is the fingerprint that the key is bound to. -/
def checkOfflineKey (owns : LicenseId → Option ProductId) (request : OfflineKeyRequest) :
    AdminHandler (Option Fingerprint) := do
  Handler.require (ParsedEpoch.validIdentifier request.releaseId = true ∧
      request.maxSeats.all (fun seats => decide (1 ≤ seats) && decide (seats ≤ 100000)) = true)
    (invalidRequest "offline key request contains invalid data")
  let fingerprint ← Handler.ofOption request.fingerprint
    (invalidRequest "bound fingerprint must be 32-byte hexadecimal")
  Handler.require (request.idempotencyKey.isSome = true) (.api 400 "missing_idempotency_key"
    "Admin mutations require a valid Idempotency-Key")
  let found ← Handler.read fun d =>
    (owns request.licenseId).bind fun _ => d.database.licenseStatus request.licenseId
  let status ← Handler.ofOption found (notFound "license not found")
  Handler.require (status = .active) (conflict "license_not_active"
    "offline keys can only be issued for an active license")
  pure fingerprint

/-- The response to a refused authorization. -/
def offlineKeyRejection : AuthorizationError → AdminFailure
  | .releaseNotRegistered => notFound "release is not registered for this product"
  | .versionOutOfScope =>
    .api 422 "version_out_of_scope" "the release is outside the license version scope"
  | .releaseCompromised =>
    conflict "release_compromised" "offline keys are never issued for a compromised release"
  | .invalidCredential => notFound "license not found"
  | .server message => .internal message

/-- The key to sign. -/
def offlineLicenseKey (request : OfflineKeyRequest) (fingerprint : Option Fingerprint)
    (authorization : Authorized) (release : LoadedRelease) (material : OfflineKeyMaterial)
    (epoch : SigningEpoch) (securityFloor revocationEpoch : ℕ)
    (keks : Table WrappedKek.featureId) (now : ℤ) : OfflineLicenseKey where
  protoVer := Proto.protoVer
  suiteId := clStd1SuiteId
  productId := authorization.productId
  licenseId := request.licenseId
  entitlements := authorization.entitlements
  issuedAt := now
  notAfter := authorization.notAfter
  boundFingerprint := fingerprint
  maxSeats := request.maxSeats.getD authorization.seats
  epochId := epoch.epochId
  machineId := material.machineId
  offlineNonce := material.offlineNonce
  keySeed := material.keySeed
  buildFingerprint := release.buildFingerprint
  variantId := release.variantId
  securityFloor := securityFloor
  revocationEpoch := revocationEpoch
  wrappedKeks := keks.rows.map fun kek => (kek.featureId, kek.bytes)

/-- The release of an authorization that allows offline keys. -/
def offlineKeyRelease (request : OfflineKeyRequest) (fingerprint : Option Fingerprint)
    (authorization : Authorized) : Except AdminFailure LoadedRelease := do
  let release ← Result.ofOption authorization.loaded
    (notFound "release is not registered for this product")
  Result.require (release.releaseId = request.releaseId)
    (invalidRequest "release id does not match the registered release")
  Result.require (authorization.policy.allowOlk = true)
    (.api 422 "olk_not_allowed" "the license policy does not allow offline license keys")
  Result.require (fingerprint.isSome = true ∨ authorization.policy.allowUnboundOlk = true)
    (.api 422 "unbound_olk_not_allowed"
      "the license policy requires a bound fingerprint for offline license keys")
  return release

/-- Check the request, load what the key is made of, and have the key signed. -/
def signOfflineKey (env : ServiceEnv) (owns : LicenseId → Option ProductId)
    (request : OfflineKeyRequest) (authorized : Except AuthorizationError Authorized)
    (material : OfflineKeyMaterial) (waits : OfflineKeyWaits) (now : ℤ) :
    AdminHandler (OfflineLicenseKey × Envelope) := do
  let fingerprint ← checkOfflineKey owns request
  awaiting env waits.beforeAuthorization
  let authorization ← Handler.ofExcept (authorized.mapError offlineKeyRejection)
  let release ← Handler.ofExcept (offlineKeyRelease request fingerprint authorization)
  awaiting env waits.beforeEpoch
  let loaded ← Handler.read fun d =>
    loadSigningEpoch d.service.registry.epochs authorization.productId now
  let epoch ← Handler.ofOption loaded (.internal "no active signing epoch is configured")
  awaiting env waits.beforeFloor
  let securityFloor ← Handler.read fun d => currentSecurityFloor d.service.registry.floors
  awaiting env waits.beforeRevocationEpoch
  let revocationEpoch ← Handler.read fun d =>
    currentRevocationEpoch d.service.registry.revocations
  let keks ← Handler.ofExcept ((wrapEntitledKeks "OLK key material derivation failed"
    "OLK asset KEK wrapping failed" material.keys authorization.entitlements release).mapError
      .internal)
  Handler.require (material.keys.rngHealthy = true) (.internal "Workers CSPRNG failed")
  let olk := offlineLicenseKey request fingerprint authorization release material epoch
    securityFloor revocationEpoch keks now
  awaiting env waits.beforeSigning
  let envelope ← signingWith fun w =>
    issueArtifact env w request.licenseId authorization.productId
      (ByteId.toBytes request.licenseId) .offlineLicenseKey (Artifact.toCanonical olk) now
  pure (olk, envelope)

/-- `ORDER BY not_before DESC`. -/
def EpochRow.startedLater (a b : EpochRow) : Prop := b.cert.notBefore ≤ a.cert.notBefore

instance : DecidableRel EpochRow.startedLater := fun _ _ => inferInstanceAs (Decidable (_ ≤ _))

/-- How many certificates go along with a key. -/
def maxEpochChain : ℕ := 8

/-- The certificates that travel with a key. -/
def epochCertChain (epochs : Table EpochRow.id) (productId : ProductId) (now : ℤ) :
    Option (List (Wire Envelope)) :=
  let chain := (((epochs.rows.filter fun r => r.signs productId now).insertionSort
    EpochRow.startedLater).take maxEpochChain).map (·.certificate)
  if chain.isEmpty then none else some chain

/-- A key with its certificates. -/
structure IssuedOfflineKey where
  olk : OfflineLicenseKey
  envelope : Envelope
  chain : List (Wire Envelope)

/-- Issue an offline key. `stored` is the answer to an earlier request with the same idempotency
key, which is found after the checks and given again. -/
def issueOfflineKey (env : ServiceEnv) (owns : LicenseId → Option ProductId)
    (request : OfflineKeyRequest) (stored : Option (Except AdminFailure IssuedOfflineKey))
    (authorized : Except AuthorizationError Authorized) (material : OfflineKeyMaterial)
    (waits : OfflineKeyWaits) (now : ℤ) : AdminHandler IssuedOfflineKey :=
  match stored with
  | some answer => do
    let _ ← checkOfflineKey owns request
    Handler.ofExcept answer
  | none => do
    let (olk, envelope) ← signOfflineKey env owns request authorized material waits now
    awaiting env waits.beforeChain
    let loaded ← Handler.read fun d =>
      epochCertChain d.service.registry.epochs olk.productId now
    let chain ← Handler.ofOption loaded
      (.internal "no epoch certificate is available for the offline chain")
    pure { olk, envelope, chain }

/-! ### Where a key is checked and signed -/

section Signed

variable {env : ServiceEnv} {owns : LicenseId → Option ProductId} {request : OfflineKeyRequest}
  {authorized : Except AuthorizationError Authorized} {material : OfflineKeyMaterial}
  {waits : OfflineKeyWaits} {now : ℤ} {d d' : Deployment} {issued : IssuedOfflineKey}

/-- A request that passes the checks finds its license active in the database. -/
theorem checkOfflineKey_eq_ok {fingerprint : Option Fingerprint}
    (h : checkOfflineKey owns request d = (d', .ok fingerprint)) :
    d' = d ∧ d.database.licenseStatus request.licenseId = some .active := by
  obtain ⟨-, h⟩ := require_bind h
  obtain ⟨_, -, h⟩ := ofOption_bind h
  obtain ⟨-, h⟩ := require_bind h
  obtain ⟨status, hfound, h⟩ := ofOption_bind (α := LicenseStatus) h
  obtain ⟨rfl, h⟩ := require_bind h
  obtain ⟨_, -, hstatus⟩ := Option.bind_eq_some_iff.1 hfound
  exact ⟨(Prod.mk.inj h).1.symm, hstatus⟩

private theorem signingWith_eq_ok {α : Type} {f : Service → Service × Except String α} {a : α}
    (h : signingWith f d = (d', .ok a)) : ∃ w, f d.service = (w, .ok a) := by
  refine ⟨(f d.service).1, Prod.ext rfl ?_⟩
  exact Result.mapError_eq_ok.1 (congrArg Prod.snd h)

/-- A signed key was checked against the database, and signed after all the waits. -/
theorem signOfflineKey_eq_ok {olk : OfflineLicenseKey} {envelope : Envelope}
    (h : signOfflineKey env owns request authorized material waits now d =
      (d', .ok (olk, envelope))) :
    d.database.licenseStatus request.licenseId = some .active ∧ ∃ w,
      issueArtifact env (exec (step env) d waits.untilSigning).service
        request.licenseId olk.productId (ByteId.toBytes request.licenseId) .offlineLicenseKey
        (Artifact.toCanonical olk) now = (w, .ok envelope) := by
  obtain ⟨d₁, fingerprint, hcheck, hsigned⟩ := bind_eq_ok (α := Option Fingerprint) h
  obtain ⟨hsame, hactive⟩ := checkOfflineKey_eq_ok hcheck
  rw [hsame] at hsigned
  refine ⟨hactive, ?_⟩
  -- the parts of the request before the signature, each after its wait
  obtain ⟨authorization, -, h⟩ := ofExcept_bind (α := Authorized) hsigned
  obtain ⟨release, -, h⟩ := ofExcept_bind (α := LoadedRelease) h
  obtain ⟨epoch, -, h⟩ := ofOption_bind (α := SigningEpoch) h
  obtain ⟨keks, -, h⟩ := ofExcept_bind (α := Table WrappedKek.featureId) h
  obtain ⟨-, h⟩ := require_bind h
  obtain ⟨d₂, signed, hsign, h⟩ := bind_eq_ok (α := Envelope) h
  cases h
  simp only [OfflineKeyWaits.untilSigning, exec_append]
  exact signingWith_eq_ok hsign

/-- An issued key was signed by the same request. -/
theorem issueOfflineKey_eq_ok
    (h : issueOfflineKey env owns request none authorized material waits now d =
      (d', .ok issued)) :
    ∃ d', signOfflineKey env owns request authorized material waits now d =
      (d', .ok (issued.olk, issued.envelope)) := by
  obtain ⟨d₁, ⟨olk, envelope⟩, hsigned, h⟩ := bind_eq_ok (α := OfflineLicenseKey × Envelope) h
  obtain ⟨chain, -, h⟩ := ofOption_bind (α := List (Wire Envelope)) h
  cases h
  exact ⟨d₁, hsigned⟩

/-! ### Revocations and keys -/

/-- The step delivers a projection of the license that says `revoked` and is newer than its row. -/
def TakesDown (id : LicenseId) (d : Deployment) : DeploymentStep → Prop
  | .deliver n => ∃ e, d.queue[n]? = some e ∧ e.Reaches d.database id ∧ e.licenseStatus = .revoked
  | _ => False

/-- The step can make the license active in the database: a billing event that counts for it, the
write of a patch that proposes so, or a newer projection that says so. -/
def Raises (id : LicenseId) (d : Deployment) : DeploymentStep → Prop
  | .billing e => Commits d.database e id
  | .writePatch n => ∃ pending, d.patches[n]? = some pending ∧ pending.patch.licenseId = id ∧
      pending.proposed.status = .active
  | .deliver n => ∃ e, d.queue[n]? = some e ∧ e.Reaches d.database id ∧ e.licenseStatus = .active
  | .service _ | .settleRefund _ _ _ | .readPatch _ => False

variable {id : LicenseId} {e : DeploymentStep}

theorem down_of_takesDown (h : TakesDown id d e) : (d.step env e).Down id := by
  cases e with
  | deliver n =>
    obtain ⟨event, hevent, hreaches, hstatus⟩ := h
    have hdb := licenseStatus_of_reaches hreaches
    simp only [Down, Deployment.step, hevent, databaseStep]
    simp [hdb, hstatus]
  | _ => exact h.elim

/-- What does not raise a license that is down leaves it down. -/
theorem down_step (hd : d.Down id) (he : ¬ Raises id d e) : (d.step env e).Down id := by
  cases e with
  | service | settleRefund => exact hd
  | readPatch p =>
    simp only [Deployment.step]
    split <;> exact hd
  | billing e => simpa only [Down, Deployment.step, databaseStep, licenseStatus_of_not_commits he]
  | writePatch n =>
    simp only [Deployment.step]
    split
    · exact hd
    next pending hpending =>
      simp only [Down, writePatch, licenseStatus_updateLicense, ne_eq, Option.map_eq_some_iff]
      rintro ⟨row, hrow, hstatus⟩
      split_ifs at hstatus with hid
      · exact he ⟨pending, hpending, hid.1.symm, hstatus⟩
      · exact hd (by rw [Database.licenseStatus, hrow, Option.map_some, hstatus])
  | deliver n =>
    simp only [Deployment.step]
    split
    · exact hd
    next event hevent =>
      by_cases hreaches : event.Reaches d.database id
      · have hother : event.licenseStatus ≠ .active := fun h => he ⟨event, hevent, hreaches, h⟩
        simpa [Down, databaseStep, licenseStatus_of_reaches hreaches] using hother
      · simpa only [Down, databaseStep, licenseStatus_of_not_reaches hreaches]

/-- A key is signed for a license without an applied revocation, if a revocation that is applied
when the request is checked has been delivered to the database and nothing has raised the license
there since, and none is applied between the check and the signature. -/
theorem no_key_signed_after_revocation {steps : List DeploymentStep}
    (hsteps : (exec (step env) d steps).Applied request.licenseId →
      ∃ pre e post, steps = pre ++ e :: post ∧
        TakesDown request.licenseId (exec (step env) d pre) e ∧
        Along (step env) (fun d e => ¬ Raises request.licenseId d e)
          (exec (step env) d (pre ++ [e])) post)
    (hwaits : Along (step env)
      (fun d e => ¬ Applies env request.licenseId d e)
      (exec (step env) d steps) waits.untilSigning)
    (hissued : issueOfflineKey env owns request none authorized material waits now
      (exec (step env) d steps) = (d', .ok issued)) :
    (∃ w, issueArtifact env
        (exec (step env) d (steps ++ waits.untilSigning)).service request.licenseId
        issued.olk.productId (ByteId.toBytes request.licenseId) .offlineLicenseKey
        (Artifact.toCanonical issued.olk) now = (w, .ok issued.envelope)) ∧
      ¬ (exec (step env) d (steps ++ waits.untilSigning)).Applied
        request.licenseId := by
  obtain ⟨d₁, hsigned⟩ := issueOfflineKey_eq_ok hissued
  obtain ⟨hactive, hsigner⟩ := signOfflineKey_eq_ok hsigned
  have hchecked : ¬ (exec (step env) d steps).Applied request.licenseId := by
    intro happlied
    obtain ⟨pre, e, post, rfl, htakes, hquiet⟩ := hsteps happlied
    have hdown : (exec (step env) d (pre ++ [e])).Down request.licenseId := by
      rw [exec_append]
      exact down_of_takesDown htakes
    have hkept := exec_induction_along (I := fun d => Deployment.Down d request.licenseId)
      (fun _ _ => down_step) hdown hquiet
    rw [← exec_append, List.append_assoc] at hkept
    exact hkept hactive
  rw [exec_append]
  -- a revocation that no step applies is not applied at the end
  exact ⟨hsigner, exec_induction_along (I := fun d => ¬ Deployment.Applied d request.licenseId)
    (fun _ _ hd hkeep happlied => hkeep ⟨hd, happlied⟩) hchecked hwaits⟩

end Signed

/-! ### A key for a revoked license -/

/-- The registered epoch. -/
def sampleEpoch : EpochRow where
  cert := sampleCert 5
  certificate := certificateOf 5
  reads := ⟨_, rfl, rfl⟩
  revokedAt := none

/-- The active license `1`, and the epoch `5`. -/
def sampleDeployment : Deployment where
  service :=
    { Service.new with registry := { Registry.new with epochs := ⟨[sampleEpoch], by simp⟩ } }
  database := { sampleDatabase with
    licenses := ⟨[{ Worker.sampleLicense with validity := some .perpetual }], by simp⟩ }
  queue := []
  patches := []

def initRequest (id : LicenseId) : LicenseDO.InitRequest where
  licenseId := id
  productId := "app"
  suiteId := clStd1SuiteId
  seats := 1
  heartbeatSec := none
  expiresAt := none
  nonceTtlSec := none

/-- A revocation is reserved, the object of the license revokes, and the revocation is applied. -/
def afterRevocation (id : LicenseId) : Deployment := exec (step sampleWorker) sampleDeployment
  [ .service (.registry (.reserveRevocation (.license id) false 1 "admin" "request" 1000)),
    .service (.license id ⟨1001, .init (initRequest id)⟩),
    .service (.license id ⟨1001, .revoke ⟨id, .license, 1⟩⟩),
    .service (.registry (.markApplied 1 "request" 1002)) ]

/-- A request for a key of license `1` that nothing comes between, at a deployment. -/
def requestedKey (d : Deployment) : Deployment × Except AdminFailure IssuedOfflineKey :=
  issueOfflineKey sampleWorker (fun _ => some "app")
    { licenseId := 1, idempotencyKey := some "key", releaseId := "first",
      boundFingerprint := none, maxSeats := none } none
    (loadContext sampleVault sampleTables (sampleLicense .unlimited) "first" .activate 1100)
    { machineId := 7, offlineNonce := 0, keySeed := 0, keys := sampleMaterial }
    { beforeAuthorization := [], beforeEpoch := [], beforeFloor := [],
      beforeRevocationEpoch := [], beforeSigning := [], beforeChain := [] } 1100 d

/-- The license is revoked, its object knows, and a key is signed: the projection has not been
delivered yet. -/
theorem revoked_license_gets_offline_key :
    ∃ d' issued, (afterRevocation 1).Applied 1 ∧
      ((afterRevocation 1).service.licenses 1).status = some .revoked ∧
      requestedKey (afterRevocation 1) = (d', .ok issued) ∧ issued.olk.licenseId = 1 := by
  refine ⟨_, _, by decide, by decide, rfl, rfl⟩

/-- After a revocation of another license, the key is signed for a license that is not revoked. -/
theorem unrevoked_license_gets_offline_key :
    ∃ d' issued, requestedKey (afterRevocation 2) = (d', .ok issued) ∧
      ¬ (afterRevocation 2).Applied 1 := by
  obtain ⟨d', issued, hissued⟩ : ∃ d' issued, requestedKey (afterRevocation 2) = (d', .ok issued) :=
    ⟨_, _, rfl⟩
  refine ⟨d', issued, hissued,
    (no_key_signed_after_revocation (fun h => absurd h ?_) ?_ hissued).2⟩
  · decide
  · trivial

end CopyLocker.Worker.Router
