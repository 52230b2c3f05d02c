import CopyLocker.Server.Version
import CopyLocker.Worker.Routes

/-!
# Authorization of a license and its release

`load_context` of `bindings/authorization.rs`: the releases of the product are read and decided,
and the keys of the selected release are opened. The license, its policy with the overrides of the
license and the resolved entitlements are read before that and come as one argument.

The secrets of the worker are an argument as well, a `Vault` that opens what is stored encrypted.

## Main results

* `get_of_loadRegistry`: a row of the product is what the registry has under its id.
* `grants_of_loadContext`: an activation is authorized only for a release that was granted.
* `loadContext_validate_error`: which errors a validation can meet.
-/

namespace CopyLocker.Worker.Router

open Foundation Saturating Server Proto Result AuthorizationError List Except

/-! ### Rows -/

/-- A row of `releases`. The status and the action are `none` for another text, the suite for
another length. -/
structure ReleaseRow where
  id : String
  productId : ProductId
  appVersion : String
  variantId : ℤ
  variantParams : Bytes
  buildFingerprint : String
  channel : String
  status : Option ReleaseStatus
  compromisedAction : Option (Option CompromisedAction)
  minSdkVersion : String
  protoVer : ℤ
  suiteId : Option SuiteId
  publishedAt : ℤ
  deriving DecidableEq

/-- A row of `release_feature_keks`. -/
structure AssetKekRow where
  releaseId : String
  productId : ProductId
  featureId : String
  keyVersion : ℤ
  encryptedKek : Bytes
  deriving DecidableEq

def AssetKekRow.primaryKey (r : AssetKekRow) : String × String := (r.releaseId, r.featureId)

/-- The tables of the releases and their asset keys. -/
structure ReleaseTables where
  releases : Table ReleaseRow.id
  assetKeks : Table AssetKekRow.primaryKey

def isIdentifier (value : String) : Bool := LicenseDO.isProductId value

namespace ReleaseRow

/-- `SELECT … FROM releases WHERE product_id = ?` finds the row. -/
def isOf (productId : ProductId) (r : ReleaseRow) : Bool := r.productId == productId

variable (r : ReleaseRow)

/-- The variant, which must not be negative. -/
def variantIdU64 : Except AuthorizationError ℕ :=
  if 0 ≤ r.variantId then .ok r.variantId.toNat
  else .error (.server "release variant id is out of range")

/-- The status, if it can be read. -/
def releaseStatus : Except AuthorizationError ReleaseStatus :=
  Result.ofOption r.status (.server "release status is invalid")

/-- The action for a compromised release. -/
def action (r : ReleaseRow) : Except AuthorizationError (Option CompromisedAction) :=
  Result.ofOption r.compromisedAction (.server "release compromised action is invalid")

/-- The row is well formed. -/
def validate : Except AuthorizationError Unit := do
  Result.require (isIdentifier r.id ∧ ¬ r.productId.isEmpty ∧ ¬ r.appVersion.isEmpty ∧
      ¬ r.buildFingerprint.isEmpty ∧ ¬ r.channel.isEmpty ∧ ¬ r.minSdkVersion.isEmpty ∧
      r.protoVer = Proto.protoVer)
    (.server "release row is invalid")
  let suiteId ← Result.ofOption r.suiteId (.server "release suite id is invalid")
  Result.require (suiteId = clStd1SuiteId ∧ ¬ r.variantParams.isEmpty ∧ isSafeInteger r.publishedAt)
    (.server "release row is invalid")
  let _ ← r.variantIdU64
  let _ ← r.releaseStatus
  let _ ← r.action

/-- The release as the registry has it. -/
def registryRelease : Except AuthorizationError Release := do
  let variantId ← r.variantIdU64
  let status ← r.releaseStatus
  let compromisedAction ← r.action
  return {
    id := r.id
    appVersion := r.appVersion
    variantId
    status
    compromisedAction
    publishedAt := r.publishedAt
  }

end ReleaseRow

/-! ### Opening stored keys -/

/-- The decrypted parameters of a variant. -/
structure VariantParams where
  variantId : ℕ
  variantConst : ByteId 32
  moduleDigest : Digest
  binderExtra : List Bytes
  deriving DecidableEq

/-- The secrets of the worker: they open variant parameters and asset keys, or fail to. -/
structure Vault where
  openVariantParams : ReleaseRow → Option VariantParams
  openAssetKek : ReleaseRow → AssetKekRow → Option (ByteId 32)

/-- An asset key. -/
structure RegisteredAssetKek where
  featureId : String
  key : ByteId 32
  deriving DecidableEq

/-- The material of a release with its opened keys. -/
structure LoadedRelease extends ReleaseMaterial where
  variantConst : ByteId 32
  moduleDigest : Digest
  binderExtra : List Bytes
  assetKeks : List RegisteredAssetKek
  deriving DecidableEq

/-- One row of the asset keys, checked and opened. -/
def openAssetKekRow (vault : Vault) (release : ReleaseRow) (row : AssetKekRow) :
    Except AuthorizationError RegisteredAssetKek := do
  Result.require (isIdentifier row.featureId ∧ 0 < row.keyVersion)
    (.server "asset KEK row is invalid")
  let key ← Result.ofOption (vault.openAssetKek release row)
    (.server "registered asset KEK could not be decrypted")
  return { featureId := row.featureId, key }

/-- Decrypt what belongs to a release. -/
def loadReleaseMaterial (vault : Vault) (tables : ReleaseTables) (release : ReleaseRow) :
    Except AuthorizationError LoadedRelease := do
  let variantId ← release.variantIdU64
  let parsed ← Result.ofOption (vault.openVariantParams release)
    (.server "release variant parameters could not be decrypted")
  Result.require (parsed.variantId = variantId) (.server "release variant parameter id mismatch")
  let rows := tables.assetKeks.rows.filter fun row =>
    row.releaseId == release.id && row.productId == release.productId
  let assetKeks ← rows.mapM (openAssetKekRow vault release)
  return {
    releaseId := release.id
    buildFingerprint := release.buildFingerprint
    variantId
    variantConst := parsed.variantConst
    moduleDigest := parsed.moduleDigest
    binderExtra := parsed.binderExtra
    assetKeks
  }

/-! ### The context -/

/-- What happens when a device upgrades while it is offline. -/
inductive OfflineUpgradePolicy
  | requireOnline
  | preloadN
  | variantStable
  deriving DecidableEq

/-- The policy of a license, as far as its handlers read it. -/
structure Policy where
  versionScope : VersionScope
  seats : ℕ
  heartbeatSecs : Option ℤ
  validity : Validity
  vtSignature : VtSignature
  refreshAfterSecs : ℤ
  graceSecs : ℕ
  reportAttrs : Bool
  allowOlk : Bool
  allowUnboundOlk : Bool
  offlineUpgradePolicy : OfflineUpgradePolicy
  preloadVariantsN : ℕ
  deriving DecidableEq

/-- The end of a term that starts now. -/
def Policy.expiresAt (p : Policy) (termStart : ℤ) : Option ℤ :=
  match p.validity with
  | .perpetual => none
  | .fixedTerm durationSecs | .trial durationSecs => some (signedAdd 64 termStart durationSecs)
  | .subscription periodSecs dunningGraceSecs _ =>
    some (signedAdd 64 (signedAdd 64 termStart periodSecs) dunningGraceSecs)

/-- The row of a license, its policy with the overrides of the license, and the entitlements that
were resolved for it. -/
structure LicenseContext where
  licenseId : LicenseId
  productId : ProductId
  status : LicenseStatus
  seatsOverride : Option ℕ
  expiresAt : Option ℤ
  policy : Policy
  entitlements : Entitlements

/-- What the release is loaded for. -/
inductive LoadPurpose
  | activate
  | validate
  deriving DecidableEq

/-- The authorization of a request, with the policy and the opened release. -/
structure Authorized extends AuthorizationContext where
  licenseStatus : LicenseStatus
  policy : Policy
  loaded : Option LoadedRelease
  releaseStatus : Option ℕ

/-- The rows of a product, all of them valid. -/
def loadReleaseRows (tables : ReleaseTables) (productId : ProductId) :
    Except AuthorizationError (List ReleaseRow) := do
  (tables.releases.rows.filter (·.isOf productId)).forM ReleaseRow.validate
  return tables.releases.rows.filter (·.isOf productId)

/-- The releases of a product. -/
def loadRegistry (tables : ReleaseTables) (productId : ProductId) :
    Except AuthorizationError ReleaseRegistry := do
  let rows ← loadReleaseRows tables productId
  let releases ← rows.mapM ReleaseRow.registryRelease
  return { releases }

/-- The number of a status. -/
def releaseStatusCode : ReleaseStatus → ℕ
  | .active => 0
  | .deprecated => 1
  | .compromised => 2

/-- The row of the reported release. -/
def selectedRelease (rows : List ReleaseRow) (releaseId : String) :
    Except AuthorizationError ReleaseRow :=
  Result.ofOption (rows.find? (·.id == releaseId))
    (.server "release registry lost its selected release")

/-- What the decision about the release makes of a request: the release whose keys are used, the
verdict, the reported status and a reason to kill. -/
structure Selection where
  row : Option ReleaseRow
  verdict : Verdict
  releaseStatus : Option ℕ
  killReason : Option KillReason

/-- The row that a decision allows for this purpose. -/
def selectRelease (rows : List ReleaseRow) (decision : VersionDecision) (releaseId : String)
    (purpose : LoadPurpose) : Except AuthorizationError Selection :=
  match decision, purpose with
  | .inScope variantId, _ => do
    let row ← selectedRelease rows releaseId
    let rowVariant ← row.variantIdU64
    Result.require (rowVariant = variantId) (.server "release registry variant mismatch")
    let status ← row.releaseStatus
    return ⟨some row, .ok, some (releaseStatusCode status), none⟩
  | .notRegistered, _ => .error .releaseNotRegistered
  | .outOfScope _, .activate => .error .versionOutOfScope
  | .outOfScope _, .validate => .ok ⟨none, .versionOutOfScope, some 0, none⟩
  | .compromised .warn, _ => do
    let row ← selectedRelease rows releaseId
    return ⟨some row, .ok, some 2, none⟩
  | .compromised .forceUpgrade, .validate => .ok ⟨none, .needsReactivation, some 2, none⟩
  | .compromised .revoke, .validate => .ok ⟨none, .needsReactivation, some 2, some .fraud⟩
  | .compromised _, .activate => .error .releaseCompromised

/-- The material of the selected release. -/
def loadSelected (vault : Vault) (tables : ReleaseTables) :
    Option ReleaseRow → Except AuthorizationError (Option LoadedRelease)
  | some row => some <$> loadReleaseMaterial vault tables row
  | none => .ok none

/-- What a request for this release is allowed. -/
def loadContext (vault : Vault) (tables : ReleaseTables) (license : LicenseContext)
    (releaseId : String) (purpose : LoadPurpose) (now : ℤ) :
    Except AuthorizationError Authorized := do
  let rows ← loadReleaseRows tables license.productId
  let registry ← loadRegistry tables license.productId
  let selection ← selectRelease rows
    (decideVersion registry license.policy.versionScope releaseId) releaseId purpose
  let loaded ← loadSelected vault tables selection.row
  let seats := license.seatsOverride.getD license.policy.seats
  Result.require (seats ≠ 0) (.server "effective seat count is zero")
  return {
    licenseId := license.licenseId
    productId := license.productId
    seats
    heartbeatSecs := license.policy.heartbeatSecs
    expiresAt := license.expiresAt
    vtSignature := license.policy.vtSignature
    refreshAfterSecs := license.policy.refreshAfterSecs
    graceSecs := license.policy.graceSecs
    reportAttrs := license.policy.reportAttrs
    policyExpiresAt := license.policy.expiresAt now
    entitlements := license.entitlements
    release := loaded.map LoadedRelease.toReleaseMaterial
    verdict := selection.verdict
    killReason := selection.killReason
    licenseStatus := license.status
    policy := license.policy
    loaded
    releaseStatus := selection.releaseStatus
  }

/-- The context of a license found by its id. `licenses` is what the database has: a row with its
policy and its resolved entitlements, or an inconsistency. -/
def loadByLicenseId (vault : Vault) (tables : ReleaseTables)
    (licenses : LicenseId → Option (Except String LicenseContext)) (licenseId : LicenseId)
    (releaseId : String) (purpose : LoadPurpose) (now : ℤ) :
    Except AuthorizationError Authorized := do
  let found ← Result.ofOption (licenses licenseId) .invalidCredential
  let license ← found.mapError .server
  loadContext vault tables license releaseId purpose now

/-! ### What a loaded context says -/

theorem ReleaseRow.registryRelease_eq_ok {r : ReleaseRow} {release : Release}
    (h : r.registryRelease = .ok release) :
    release.id = r.id ∧ r.status = some release.status := by
  obtain ⟨variantId, -, h⟩ := bind_eq_ok.1 h
  obtain ⟨status, hstatus, h⟩ := bind_eq_ok.1 h
  obtain ⟨action, -, h⟩ := bind_eq_ok.1 h
  cases h
  exact ⟨rfl, ofOption_eq_ok.1 hstatus⟩

variable {authorized : Authorized}

/-- The entitlements of the license are those of the request. -/
theorem entitlements_of_loadContext {vault : Vault} {tables : ReleaseTables}
    {license : LicenseContext} {releaseId : String} {purpose : LoadPurpose} {now : ℤ}
    (h : loadContext vault tables license releaseId purpose now = .ok authorized) :
    authorized.entitlements = license.entitlements := by
  obtain ⟨rows, -, h⟩ := bind_eq_ok.1 h
  obtain ⟨registry, -, h⟩ := bind_eq_ok.1 h
  obtain ⟨selection, -, h⟩ := bind_eq_ok.1 h
  obtain ⟨loaded, -, h⟩ := bind_eq_ok.1 h
  obtain ⟨_, -, h⟩ := bind_eq_ok.1 h
  cases h
  rfl

open ReleaseRow

variable {row : ReleaseRow}

section Loaded

variable {tables : ReleaseTables} {productId : ProductId} {rows : List ReleaseRow}
  {registry : ReleaseRegistry}

theorem loadRegistry_eq_ok (h : loadRegistry tables productId = .ok registry) :
    (tables.releases.rows.filter (·.isOf productId)).mapM registryRelease =
      .ok registry.releases := by
  obtain ⟨rows, hrows, h⟩ := bind_eq_ok.1 h
  obtain ⟨-, -, hrows⟩ := bind_eq_ok.1 hrows
  cases hrows
  obtain ⟨releases, hreleases, h⟩ := bind_eq_ok.1 h
  cases h
  exact hreleases

private theorem find_of_isOf (hrow : row ∈ tables.releases.rows) (hof : row.isOf productId) :
    (tables.releases.rows.filter (·.isOf productId)).find? (·.id == row.id) = some row := by
  have hmem : row ∈ tables.releases.rows.filter (·.isOf productId) := mem_filter.2 ⟨hrow, hof⟩
  cases hfind : (tables.releases.rows.filter (·.isOf productId)).find? (·.id == row.id) with
  | none => exact absurd (beq_self_eq_true row.id) (find?_eq_none.1 hfind row hmem)
  | some row' =>
    have hid : row'.id = row.id := by simpa using find?_some hfind
    have hmem' := (mem_filter.1 (mem_of_find?_eq_some hfind)).1
    rw [inj_on_of_nodup_map tables.releases.nodup hmem' hrow hid]

/-- The registry has the release of a row under its id. -/
theorem get_of_loadRegistry (h : loadRegistry tables productId = .ok registry)
    (hrow : row ∈ tables.releases.rows) (hof : row.isOf productId) :
    ∃ release, row.registryRelease = .ok release ∧ registry.get row.id = some release :=
  mapM_find (fun _ _ hr => (registryRelease_eq_ok hr).1) (loadRegistry_eq_ok h)
    row.id (find_of_isOf hrow hof)

end Loaded

section Context

variable {vault : Vault} {tables : ReleaseTables} {license : LicenseContext} {releaseId : String}
  {now : ℤ}

private theorem selectedRelease_eq_ok {rows : List ReleaseRow}
    (h : selectedRelease rows releaseId = .ok row) : row ∈ rows ∧ row.id = releaseId := by
  have hfind := ofOption_eq_ok.1 h
  exact ⟨mem_of_find?_eq_some hfind, by simpa using find?_some hfind⟩

variable {decision : VersionDecision}

theorem selectRelease_activate {rows : List ReleaseRow}
    {selection : Selection} (h : selectRelease rows decision releaseId .activate = .ok selection) :
    decision.grants ∧ ∃ row ∈ rows, row.id = releaseId ∧ selection.row = some row := by
  unfold selectRelease at h
  split at h
  · obtain ⟨row, hrow, h⟩ := bind_eq_ok.1 h
    obtain ⟨variantId, -, h⟩ := bind_eq_ok.1 h
    obtain ⟨-, -, h⟩ := bind_eq_ok.1 h
    obtain ⟨status, -, h⟩ := bind_eq_ok.1 h
    obtain ⟨hmem, hid⟩ := selectedRelease_eq_ok hrow
    exact ⟨rfl, row, hmem, hid, by rw [← ok.inj h]⟩
  · cases h
  · cases h
  next heq => cases heq
  · obtain ⟨row, hrow, h⟩ := bind_eq_ok.1 h
    obtain ⟨hmem, hid⟩ := selectedRelease_eq_ok hrow
    exact ⟨rfl, row, hmem, hid, by rw [← ok.inj h]⟩
  next heq => cases heq
  next heq => cases heq
  · cases h

theorem loadReleaseMaterial_eq_ok {loaded : LoadedRelease}
    (h : loadReleaseMaterial vault tables row = .ok loaded) :
    loaded.releaseId = row.id ∧ row.variantIdU64 = .ok loaded.variantId := by
  obtain ⟨variantId, hvariant, h⟩ := bind_eq_ok.1 h
  obtain ⟨parsed, -, h⟩ := bind_eq_ok.1 h
  obtain ⟨-, -, h⟩ := bind_eq_ok.1 h
  obtain ⟨assetKeks, -, h⟩ := bind_eq_ok.1 h
  cases h
  exact ⟨rfl, hvariant⟩

/-- An activation is authorized for a release that the registry has and the decision grants. -/
theorem grants_of_loadContext
    (h : loadContext vault tables license releaseId .activate now = .ok authorized) :
    ∃ registry loaded, loadRegistry tables license.productId = .ok registry ∧
      (decideVersion registry license.policy.versionScope releaseId).grants ∧
      authorized.loaded = some loaded ∧ loaded.releaseId = releaseId ∧
      authorized.policy = license.policy ∧ authorized.productId = license.productId ∧
      authorized.entitlements = license.entitlements := by
  obtain ⟨rows, -, h⟩ := bind_eq_ok.1 h
  obtain ⟨registry, hregistry, h⟩ := bind_eq_ok.1 h
  obtain ⟨selection, hselection, h⟩ := bind_eq_ok.1 h
  obtain ⟨hgrants, row, -, hid, hrow⟩ := selectRelease_activate hselection
  obtain ⟨loaded, hloaded, h⟩ := bind_eq_ok.1 h
  obtain ⟨-, -, h⟩ := bind_eq_ok.1 h
  cases h
  rw [hrow] at hloaded
  obtain ⟨material, hmaterial, hloaded⟩ := map_eq_ok.1 hloaded
  exact ⟨registry, material, hregistry, hgrants, hloaded.symm,
    (loadReleaseMaterial_eq_ok hmaterial).1.trans hid, rfl, rfl, rfl⟩

/-! ### The errors of a validation -/

/-- The errors that are the server's own. -/
def AuthorizationError.IsServer (e : AuthorizationError) : Prop := ∃ message, e = .server message

theorem isServer (message : String) : (server message).IsServer := ⟨message, rfl⟩

theorem ReleaseRow.variantIdU64_failsWith (r : ReleaseRow) : FailsWith IsServer r.variantIdU64 := by
  intro e h
  unfold variantIdU64 at h
  split_ifs at h
  rw [← error.inj h]
  exact isServer _

theorem ReleaseRow.validate_failsWith (r : ReleaseRow) :
    FailsWith IsServer r.validate :=
  .bind (.require (isServer _)) fun _ _ => .bind (.ofOption (isServer _)) fun _ _ =>
    .bind (.require (isServer _)) fun _ _ => .bind r.variantIdU64_failsWith fun _ _ =>
      .bind (.ofOption (isServer _)) fun _ _ => .bind (.ofOption (isServer _)) fun _ _ => .ok ()

theorem ReleaseRow.registryRelease_failsWith (r : ReleaseRow) :
    FailsWith IsServer r.registryRelease :=
  .bind r.variantIdU64_failsWith fun _ _ => .bind (.ofOption (isServer _)) fun _ _ =>
    .bind (.ofOption (isServer _)) fun _ _ => .ok _

theorem loadReleaseRows_failsWith (productId : ProductId) :
    FailsWith IsServer (loadReleaseRows tables productId) :=
  .bind (.forM validate_failsWith _) fun _ _ => .ok _

theorem loadReleaseMaterial_failsWith (row : ReleaseRow) :
    FailsWith IsServer (loadReleaseMaterial vault tables row) := by
  have hkek (kek : AssetKekRow) :
      FailsWith IsServer (openAssetKekRow vault row kek) :=
    .bind (.require (isServer _)) fun _ _ => .bind (.ofOption (isServer _)) fun _ _ => .ok _
  exact .bind row.variantIdU64_failsWith fun _ _ => .bind (.ofOption (isServer _)) fun _ _ =>
    .bind (.require (isServer _)) fun _ _ => .bind (.mapM hkek _) fun _ _ => .ok _

/-- Only an unknown release makes the selection for a validation fail with an error of its own. -/
theorem selectRelease_validate_failsWith (rows : List ReleaseRow)
    (hdecision : decision ≠ .notRegistered) :
    FailsWith IsServer (selectRelease rows decision releaseId .validate) := by
  have hselected : FailsWith IsServer (selectedRelease rows releaseId) := .ofOption (isServer _)
  match decision with
  | .inScope variantId =>
    exact .bind hselected fun row _ => .bind row.variantIdU64_failsWith fun _ _ =>
      .bind (.require (isServer _)) fun _ _ => .bind (.ofOption (isServer _)) fun _ _ => .ok _
  | .notRegistered => exact absurd rfl hdecision
  | .outOfScope _ => exact .ok _
  | .compromised .warn => exact .bind hselected fun _ _ => .ok _
  | .compromised .forceUpgrade => exact .ok _
  | .compromised .revoke => exact .ok _

/-- A validation is refused for its release when the registry does not have it, and otherwise
fails by an error of the server only. -/
theorem loadContext_validate_error {e : AuthorizationError}
    (h : loadContext vault tables license releaseId .validate now = .error e) :
    e.IsServer ∨ (e = .releaseNotRegistered ∧ ∃ registry,
      loadRegistry tables license.productId = .ok registry ∧ registry.get releaseId = none) := by
  rcases bind_eq_error.1 h with h | ⟨rows, -, h⟩
  · exact .inl (loadReleaseRows_failsWith _ e h)
  rcases bind_eq_error.1 h with h | ⟨registry, hregistry, h⟩
  · refine .inl (FailsWith.bind (loadReleaseRows_failsWith _) (fun _ _ => ?_) e h)
    exact .bind (.mapM registryRelease_failsWith _) fun _ _ => .ok _
  by_cases hget : registry.get releaseId = none
  · refine .inr ⟨?_, registry, hregistry, hget⟩
    rw [decideVersion_eq_notRegistered_iff.2 hget] at h
    exact (error.inj h).symm
  · have hdecision : decideVersion registry license.policy.versionScope releaseId ≠
        .notRegistered := fun hnot => hget (decideVersion_eq_notRegistered_iff.1 hnot)
    have hselected (row : Option ReleaseRow) :
        FailsWith IsServer (loadSelected vault tables row) := by
      cases row with
      | none => exact .ok none
      | some row => exact (loadReleaseMaterial_failsWith row).map some
    refine .inl (FailsWith.bind (selectRelease_validate_failsWith rows hdecision)
      (fun selection _ => ?_) e h)
    exact .bind (hselected _) fun _ _ => .bind (.require (isServer _)) fun _ _ => .ok _

theorem loadContext_of_get_eq_none {registry : ReleaseRegistry} (purpose : LoadPurpose)
    (hregistry : loadRegistry tables license.productId = .ok registry)
    (hget : registry.get releaseId = none) :
    loadContext vault tables license releaseId purpose now = .error .releaseNotRegistered := by
  obtain ⟨rows, hrows, -⟩ := bind_eq_ok.1 hregistry
  have hselect : selectRelease rows (decideVersion registry license.policy.versionScope releaseId)
      releaseId purpose = .error .releaseNotRegistered := by
    rw [decideVersion_eq_notRegistered_iff.2 hget]
    rfl
  refine bind_eq_error.2 (.inr ⟨rows, hrows, bind_eq_error.2 (.inr ⟨registry, hregistry, ?_⟩)⟩)
  exact bind_eq_error.2 (.inl hselect)

end Context

end CopyLocker.Worker.Router
