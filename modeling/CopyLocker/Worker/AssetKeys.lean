import CopyLocker.Worker.Authorization
import Mathlib.Data.List.Find

/-!
# The asset keys of a machine credential

`wrap_release_keks` and `preload_offline_keks` of `router.rs`: an activation wraps the asset keys
of its own release into the credential, and under `preload_n` those of the newest other releases
of the product, so that a device that upgrades while it is offline can open their assets.

The release of the activation passed the version decision. The other releases are selected by a
query on their status and their age, and the scope of the license plays no part in it.

## Main results

* `asset_keys_granted_iff`: all wrapped keys belong to granted releases exactly when the preloaded
  releases are in scope.
-/

namespace CopyLocker.Worker.Router

open Foundation Server Proto Result List Option Table Except

/-! ### Wrapping -/

/-- A wrapped asset key: the release and the key that were wrapped, and the bytes. -/
structure WrappedKek where
  releaseId : String
  asset : RegisteredAssetKek
  bytes : Bytes
  deriving DecidableEq

def WrappedKek.featureId (k : WrappedKek) : String := k.asset.featureId

/-- The key material that asset keys are wrapped with, by release. Deriving the material and
wrapping a key may fail, and the generator of random numbers may be found broken. -/
structure KeyMaterial where
  bind : LoadedRelease → Option (RegisteredAssetKek → Option Bytes)
  rngHealthy : Bool

/-- Wrap one asset key. -/
def wrapKek (wrappingError : String) (release : LoadedRelease)
    (wrap : RegisteredAssetKek → Option Bytes) (asset : RegisteredAssetKek) :
    Except String WrappedKek := do
  let bytes ← Result.ofOption (wrap asset) wrappingError
  return { releaseId := release.releaseId, asset, bytes }

/-- The keys of a release that the entitlements cover, wrapped; the two texts are those of the
errors. -/
def wrapEntitledKeks (derivationError wrappingError : String) (material : KeyMaterial)
    (entitlements : Entitlements) (release : LoadedRelease) :
    Except String (Table WrappedKek.featureId) := do
  let wrap ← Result.ofOption (material.bind release) derivationError
  let wrapped ← (release.assetKeks.filter fun asset =>
    entitlements.hasFeature asset.featureId).mapM (wrapKek wrappingError release wrap)
  return ofList wrapped

/-- The wrapped keys of a release, for offline use. -/
def wrapReleaseKeks (material : KeyMaterial) (entitlements : Entitlements)
    (release : LoadedRelease) : Except String (Table WrappedKek.featureId) :=
  wrapEntitledKeks "offline key material derivation failed" "offline asset KEK wrapping failed"
    material entitlements release

/-! ### Preloading -/

def authorizationServerError : AuthorizationError → String
  | .server message => message
  | _ => "signing epoch authorization failed"

/-- `ORDER BY published_at DESC, id DESC`. -/
def ReleaseRow.newerOrEqual (a b : ReleaseRow) : Prop :=
  b.publishedAt < a.publishedAt ∨ (a.publishedAt = b.publishedAt ∧ b.id ≤ a.id)

instance : DecidableRel ReleaseRow.newerOrEqual := fun _ _ =>
  inferInstanceAs (Decidable (_ ∨ (_ ∧ _)))

/-- The newest active releases of a product other than the current one. -/
def preloadReleaseIds (tables : ReleaseTables) (productId : ProductId) (currentReleaseId : String)
    (limit : ℕ) : List String :=
  (((tables.releases.rows.filter fun row =>
      row.isOf productId && row.status == some .active && row.id != currentReleaseId).insertionSort
    ReleaseRow.newerOrEqual).take (max 1 (min limit 16))).map ReleaseRow.id

/-- The release with this id, whatever the scope. -/
def loadReleaseMaterialById (vault : Vault) (tables : ReleaseTables) (releaseId : String)
    (productId : ProductId) : Except AuthorizationError (Option LoadedRelease) :=
  match tables.releases.rows.find? fun row => row.id == releaseId && row.isOf productId with
  | none => .ok none
  | some row => do
    row.validate
    let release ← loadReleaseMaterial vault tables row
    return some release

/-- The wrapped keys that are preloaded for a variant. -/
structure PreloadedKeks where
  variantId : ℕ
  keks : Table WrappedKek.featureId

/-- The keys of another release, unless it shares the current variant or has none to give. -/
def preloadSibling (vault : Vault) (tables : ReleaseTables) (material : KeyMaterial)
    (authorized : Authorized) (current : LoadedRelease) (siblingId : String) :
    Except String (Option PreloadedKeks) := do
  let sibling ← (loadReleaseMaterialById vault tables siblingId authorized.productId).mapError
    authorizationServerError
  match sibling with
  | none => return none
  | some release =>
    if release.variantId = current.variantId then return none
    else
      let keks ← wrapReleaseKeks material authorized.entitlements release
      return if keks.rows.isEmpty then none else some { variantId := release.variantId, keks }

/-- The wrapped keys of further releases, if the policy preloads them. -/
def preloadOfflineKeks (vault : Vault) (tables : ReleaseTables) (material : KeyMaterial)
    (authorized : Authorized) (current : LoadedRelease) :
    Except String (Table PreloadedKeks.variantId) :=
  match authorized.policy.offlineUpgradePolicy with
  | .preloadN => do
    let preloads ← (preloadReleaseIds tables authorized.productId current.releaseId
      authorized.policy.preloadVariantsN).mapM
        (preloadSibling vault tables material authorized current)
    Result.require (material.rngHealthy = true) "Workers CSPRNG failed"
    return ofList preloads.reduceOption
  | _ => .ok empty

/-- Both maps of wrapped keys of a credential. A credential without preloaded keys leaves the
second out. -/
structure CredentialKeks where
  wrapped : Table WrappedKek.featureId
  preloaded : Table PreloadedKeks.variantId

/-- A key is wrapped into the credential, for the current release or for a preloaded one. -/
def CredentialKeks.Has (keks : CredentialKeks) (key : WrappedKek) : Prop :=
  key ∈ keks.wrapped.rows ∨ ∃ preload ∈ keks.preloaded.rows, key ∈ preload.keks.rows

/-- The wrapped keys of the credential that an authorized activation gets. -/
def credentialKeks (vault : Vault) (tables : ReleaseTables) (material : KeyMaterial)
    (authorized : Authorized) : Except String CredentialKeks := do
  let current ← Result.ofOption authorized.loaded "activation release material is unavailable"
  let wrapped ← wrapReleaseKeks material authorized.entitlements current
  let preloaded ← preloadOfflineKeks vault tables material authorized current
  Result.require (material.rngHealthy = true) "Workers CSPRNG failed"
  return { wrapped, preloaded }

/-! ### Which keys are wrapped -/

variable {key : WrappedKek} {wrappingError : String} {release : LoadedRelease} {vault : Vault}
  {tables : ReleaseTables} {material : KeyMaterial}

section Wrapped

variable {entitlements : Entitlements} {keks : Table WrappedKek.featureId}

/-- The wrapped keys of a release are its own, for entitled features. -/
theorem of_mem_wrapEntitledKeks {derivationError : String}
    (h : wrapEntitledKeks derivationError wrappingError material entitlements release = .ok keks)
    (hkey : key ∈ keks.rows) :
    key.releaseId = release.releaseId ∧ key.asset ∈ release.assetKeks ∧
      entitlements.hasFeature key.featureId ∧
      ∃ wrap, material.bind release = some wrap ∧ wrap key.asset = some key.bytes := by
  obtain ⟨wrap, hbind, h⟩ := bind_eq_ok.1 h
  obtain ⟨wrapped, hwrapped, h⟩ := bind_eq_ok.1 h
  cases h
  obtain ⟨asset, hasset, hwrap⟩ := exists_of_mem_mapM hwrapped (mem_of_mem_ofList hkey)
  obtain ⟨bytes, hbytes, hwrap⟩ := bind_eq_ok.1 hwrap
  cases hwrap
  obtain ⟨hown, hfeature⟩ := mem_filter.1 hasset
  exact ⟨rfl, hown, hfeature, wrap, ofOption_eq_ok.1 hbind, ofOption_eq_ok.1 hbytes⟩

theorem wrapReleaseKeks_isEmpty (h : wrapReleaseKeks material entitlements release = .ok keks) :
    keks.rows.isEmpty =
      !release.assetKeks.any fun asset => entitlements.hasFeature asset.featureId := by
  obtain ⟨wrap, -, h⟩ := bind_eq_ok.1 h
  obtain ⟨wrapped, hwrapped, h⟩ := bind_eq_ok.1 h
  cases h
  have hlength := (mapM_eq_ok.1 hwrapped).length_eq
  rw [Bool.eq_iff_iff, List.isEmpty_iff, ofList_rows_eq_nil_iff, ← List.length_eq_zero_iff,
    ← hlength, List.length_eq_zero_iff, List.filter_eq_nil_iff]
  simp

end Wrapped

/-- The other release carries preloaded keys for a variant. -/
def carriesKeys (vault : Vault) (tables : ReleaseTables) (authorized : Authorized)
    (current : LoadedRelease) (variantId : ℕ) (siblingId : String) : Bool :=
  match loadReleaseMaterialById vault tables siblingId authorized.productId with
  | .ok (some release) =>
    release.variantId = variantId && release.variantId ≠ current.variantId &&
      release.assetKeks.any fun asset => authorized.entitlements.hasFeature asset.featureId
  | _ => false

/-- The release whose keys are preloaded for a variant: the last in the order of the query that
carries some, since releases may share a variant and a later one replaces an earlier one. -/
def preloadedRelease (vault : Vault) (tables : ReleaseTables) (authorized : Authorized)
    (variantId : ℕ) : Option String :=
  authorized.loaded.bind fun current =>
    (preloadReleaseIds tables authorized.productId current.releaseId
      authorized.policy.preloadVariantsN).reverse.find?
        (carriesKeys vault tables authorized current variantId)

section Preloaded

variable {authorized : Authorized} {current : LoadedRelease} {siblingId : String}

private theorem loadReleaseMaterialById_eq_ok {productId : ProductId}
    (h : loadReleaseMaterialById vault tables siblingId productId = .ok (some release)) :
    release.releaseId = siblingId := by
  unfold loadReleaseMaterialById at h
  split at h
  · cases h
  next row hfind =>
    obtain ⟨-, -, h⟩ := bind_eq_ok.1 h
    obtain ⟨loaded, hloaded, h⟩ := bind_eq_ok.1 h
    cases h
    have hid : row.id = siblingId := by
      have hrow := find?_some hfind
      simp only [Bool.and_eq_true, beq_iff_eq] at hrow
      exact hrow.1
    rw [(loadReleaseMaterial_eq_ok hloaded).1, hid]

variable {preload : PreloadedKeks}

/-- What a sibling preloads: keys of its own, under a variant other than the current one. -/
theorem preloadSibling_eq_some
    (h : preloadSibling vault tables material authorized current siblingId = .ok (some preload)) :
    preload.keks.rows ≠ [] ∧ ∀ key ∈ preload.keks.rows, key.releaseId = siblingId ∧
      authorized.entitlements.hasFeature key.featureId := by
  obtain ⟨sibling, hsibling, h⟩ := bind_eq_ok.1 h
  cases sibling with
  | none => cases h
  | some release =>
    dsimp only at h
    split_ifs at h
    · cases h
    obtain ⟨keks, hkeks, h⟩ := bind_eq_ok.1 h
    have hpreload := ok.inj h
    split_ifs at hpreload with hempty
    cases hpreload
    refine ⟨fun hnil => hempty (isEmpty_iff.2 hnil), fun key hkey => ?_⟩
    obtain ⟨hrelease, -, hfeature, -⟩ := of_mem_wrapEntitledKeks hkeks hkey
    exact ⟨hrelease.trans (loadReleaseMaterialById_eq_ok (mapError_eq_ok.1 hsibling)), hfeature⟩

theorem preloadSibling_any {preload : Option PreloadedKeks}
    (h : preloadSibling vault tables material authorized current siblingId = .ok preload)
    (variantId : ℕ) :
    preload.any (·.variantId = variantId) =
      carriesKeys vault tables authorized current variantId siblingId := by
  obtain ⟨sibling, hsibling, h⟩ := bind_eq_ok.1 h
  unfold carriesKeys
  rw [mapError_eq_ok.1 hsibling]
  cases sibling with
  | none =>
    cases h
    rfl
  | some release =>
    dsimp only at h ⊢
    split_ifs at h with hvariant
    · cases h
      simp [hvariant]
    · obtain ⟨keks, hkeks, h⟩ := bind_eq_ok.1 h
      cases h
      have hempty := wrapReleaseKeks_isEmpty hkeks
      split_ifs with hnone
      · rw [hnone, eq_comm, Bool.not_eq_true'] at hempty
        simp [hempty]
      · rw [Bool.eq_false_iff.2 hnone, eq_comm, Bool.not_eq_false'] at hempty
        simp [hempty, hvariant]

section Policy

variable (hpolicy : authorized.policy.offlineUpgradePolicy = .preloadN)
  (hcurrent : authorized.loaded = some current) {preloaded : Table PreloadedKeks.variantId}
  (h : preloadOfflineKeks vault tables material authorized current = .ok preloaded)

include hpolicy h

theorem preloadOfflineKeks_eq_ok :
    ∃ preloads, (preloadReleaseIds tables authorized.productId current.releaseId
        authorized.policy.preloadVariantsN).mapM
          (preloadSibling vault tables material authorized current) = .ok preloads ∧
      preloaded = ofList preloads.reduceOption := by
  unfold preloadOfflineKeks at h
  rw [hpolicy] at h
  obtain ⟨preloads, hpreloads, h⟩ := bind_eq_ok.1 h
  obtain ⟨-, -, h⟩ := bind_eq_ok.1 h
  exact ⟨preloads, hpreloads, (ok.inj h).symm⟩

include hcurrent

/-- The keys preloaded for a variant are those of the release that `preloadedRelease` names. -/
theorem find_preloadOfflineKeks (variantId : ℕ) :
    preloaded.find variantId = (preloadedRelease vault tables authorized variantId).bind fun id =>
        (preloadSibling vault tables material authorized current id).toOption.join := by
  obtain ⟨preloads, hpreloads, rfl⟩ := preloadOfflineKeks_eq_ok hpolicy h
  rw [find_ofList, mapM_reduceOption hpreloads, ← filterMap_reverse,
    find?_filterMap, preloadedRelease, hcurrent, bind_some]
  congr 1
  refine find?_congr fun id hid => ?_
  obtain ⟨preload, hpreload⟩ := ok_of_mem_mapM hpreloads (mem_reverse.1 hid)
  rw [hpreload]
  exact preloadSibling_any hpreload variantId

theorem exists_of_preloadedRelease {variantId : ℕ}
    (hid : preloadedRelease vault tables authorized variantId = some siblingId) :
    ∃ preload ∈ preloaded.rows, ∃ key ∈ preload.keks.rows, key.releaseId = siblingId := by
  have hfind := find_preloadOfflineKeks hpolicy hcurrent h variantId
  rw [hid, bind_some] at hfind
  rw [preloadedRelease, hcurrent, bind_some] at hid
  obtain ⟨preloads, hpreloads, -⟩ := preloadOfflineKeks_eq_ok hpolicy h
  obtain ⟨found, hfound⟩ := ok_of_mem_mapM hpreloads (mem_reverse.1 (mem_of_find?_eq_some hid))
  have hany := (preloadSibling_any hfound variantId).trans (find?_some hid)
  cases found with
  | none => cases hany
  | some preload =>
    rw [hfound] at hfind
    obtain ⟨hne, hkeys⟩ := preloadSibling_eq_some hfound
    obtain ⟨key, hkey⟩ := exists_mem_of_ne_nil _ hne
    exact ⟨preload, (find_eq_some_iff.1 hfind).1, key, hkey, (hkeys key hkey).1⟩

/-- The keys of the credential that are preloaded belong to preloaded releases and to entitled
features. -/
theorem preloadedRelease_of_mem (hpreload : preload ∈ preloaded.rows)
    (hkey : key ∈ preload.keks.rows) :
    preloadedRelease vault tables authorized preload.variantId = some key.releaseId ∧
      authorized.entitlements.hasFeature key.featureId := by
  have hfind := mem_rows_iff.1 hpreload
  rw [find_preloadOfflineKeks hpolicy hcurrent h, bind_eq_some_iff] at hfind
  obtain ⟨id, hid, hsibling⟩ := hfind
  cases hresult : preloadSibling vault tables material authorized current id with
  | error message =>
    rw [hresult] at hsibling
    cases hsibling
  | ok found =>
    rw [hresult] at hsibling
    obtain rfl : found = some preload := hsibling
    obtain ⟨hrelease, hfeature⟩ := (preloadSibling_eq_some hresult).2 key hkey
    rw [hrelease]
    exact ⟨hid, hfeature⟩

end Policy

variable {variantId : ℕ}

theorem row_of_preloadedRelease
    (h : preloadedRelease vault tables authorized variantId = some siblingId) :
    ∃ row ∈ tables.releases.rows, row.id = siblingId ∧ row.isOf authorized.productId ∧
      row.status = some .active := by
  obtain ⟨current, -, hfind⟩ := bind_eq_some_iff.1 h
  have hmem := mem_reverse.1 (mem_of_find?_eq_some hfind)
  obtain ⟨row, hrow, hid⟩ := mem_map.1 hmem
  have hsorted := (mem_insertionSort _).1 (mem_of_mem_take hrow)
  obtain ⟨hmem, hselected⟩ := mem_filter.1 hsorted
  simp only [Bool.and_eq_true, beq_iff_eq] at hselected
  exact ⟨row, hmem, hid, hselected.1.1, hselected.1.2⟩

theorem grants_iff_of_preloadedRelease {registry : ReleaseRegistry} {scope : VersionScope}
    (hregistry : loadRegistry tables authorized.productId = .ok registry)
    (h : preloadedRelease vault tables authorized variantId = some siblingId) :
    (decideVersion registry scope siblingId).grants ↔
      ∃ release, registry.get siblingId = some release ∧ release.satisfies scope := by
  obtain ⟨row, hrow, rfl, hof, hactive⟩ := row_of_preloadedRelease h
  obtain ⟨release, hrelease, hget⟩ := get_of_loadRegistry hregistry hrow hof
  have hstatus : release.status ≠ .compromised := by
    have hsame := (ReleaseRow.registryRelease_eq_ok hrelease).2
    rw [hactive] at hsame
    rw [← some.inj hsame]
    exact ReleaseStatus.noConfusion
  rw [decideVersion_grants_iff hget hstatus]
  constructor
  · intro hscope
    exact ⟨release, hget, hscope⟩
  · rintro ⟨release', hget', hscope⟩
    rw [hget] at hget'
    rwa [some.inj hget']

end Preloaded

/-! ### Granted keys -/

section Credential

variable {license : LicenseContext} {releaseId : String} {now : ℤ} {authorized : Authorized}
  {registry : ReleaseRegistry} {keks : CredentialKeks}

theorem credentialKeks_eq_ok (h : credentialKeks vault tables material authorized = .ok keks) :
    ∃ current, authorized.loaded = some current ∧
      wrapReleaseKeks material authorized.entitlements current = .ok keks.wrapped ∧
      preloadOfflineKeks vault tables material authorized current = .ok keks.preloaded := by
  obtain ⟨current, hcurrent, h⟩ := bind_eq_ok.1 h
  obtain ⟨wrapped, hwrapped, h⟩ := bind_eq_ok.1 h
  obtain ⟨preloaded, hpreloaded, h⟩ := bind_eq_ok.1 h
  obtain ⟨-, -, h⟩ := bind_eq_ok.1 h
  cases h
  exact ⟨current, ofOption_eq_ok.1 hcurrent, hwrapped, hpreloaded⟩

/-- Every key wrapped into a credential belongs to a release that the version decision grants, and
to an entitled feature, exactly when the scope of the license covers the releases that are
preloaded. -/
theorem asset_keys_granted_iff
    (hload : loadContext vault tables license releaseId .activate now = .ok authorized)
    (hregistry : loadRegistry tables license.productId = .ok registry)
    (hkeks : credentialKeks vault tables material authorized = .ok keks) :
    (∀ key, keks.Has key →
      (decideVersion registry license.policy.versionScope key.releaseId).grants = true ∧
        license.entitlements.hasFeature key.featureId = true) ↔
      (license.policy.offlineUpgradePolicy = .preloadN →
        ∀ variantId id, preloadedRelease vault tables authorized variantId = some id →
          ∃ release, registry.get id = some release ∧
            release.satisfies license.policy.versionScope = true) := by
  obtain ⟨registry', loaded, hregistry', hgrants, hloaded, hid, hpolicy, hproduct, hentitled⟩ :=
    grants_of_loadContext hload
  obtain rfl : registry = registry' := by
    rw [hregistry'] at hregistry
    exact (ok.inj hregistry).symm
  obtain ⟨current, hcurrent, hwrapped, hpreloaded⟩ := credentialKeks_eq_ok hkeks
  obtain rfl : loaded = current := by
    rw [hloaded] at hcurrent
    exact some.inj hcurrent
  rw [← hproduct] at hregistry
  rw [← hpolicy, ← hentitled]
  rw [← hpolicy] at hgrants
  constructor
  · intro hkeys hpreload variantId id hpreloadedId
    obtain ⟨preload, hmem, key, hkey, rfl⟩ :=
      exists_of_preloadedRelease hpreload hcurrent hpreloaded hpreloadedId
    exact (grants_iff_of_preloadedRelease hregistry hpreloadedId).1
      (hkeys key (.inr ⟨preload, hmem, hkey⟩)).1
  · rintro hscope key (hkey | ⟨preload, hpreload, hkey⟩)
    · obtain ⟨hrelease, -, hfeature, -⟩ := of_mem_wrapEntitledKeks hwrapped hkey
      rw [hrelease, hid]
      exact ⟨hgrants, hfeature⟩
    · by_cases hoffline : authorized.policy.offlineUpgradePolicy = .preloadN
      · obtain ⟨hpreloadedId, hfeature⟩ :=
          preloadedRelease_of_mem hoffline hcurrent hpreloaded hpreload hkey
        exact ⟨(grants_iff_of_preloadedRelease hregistry hpreloadedId).2
          (hscope hoffline _ _ hpreloadedId), hfeature⟩
      · unfold preloadOfflineKeks at hpreloaded
        split at hpreloaded
        next hpreloads => exact absurd hpreloads hoffline
        rw [← ok.inj hpreloaded] at hpreload
        cases hpreload

end Credential

/-! ### A license for the first release only -/

/-- An active release with this variant, published at this time. -/
def sampleRelease (id : String) (variantId publishedAt : ℤ) : ReleaseRow where
  id := id
  productId := "app"
  appVersion := "1.0.0"
  variantId := variantId
  variantParams := [1]
  buildFingerprint := "build"
  channel := "stable"
  status := some .active
  compromisedAction := some none
  minSdkVersion := "1.0.0"
  protoVer := protoVer
  suiteId := some clStd1SuiteId
  publishedAt := publishedAt

/-- A key of a release for the feature `pro`. -/
def sampleKek (releaseId : String) : AssetKekRow where
  releaseId := releaseId
  productId := "app"
  featureId := "pro"
  keyVersion := 1
  encryptedKek := [1]

/-- Two releases, each with a variant and a key of its own. -/
def sampleTables : ReleaseTables where
  releases := ⟨[sampleRelease "first" 1 100, sampleRelease "second" 2 200], by decide⟩
  assetKeks := ⟨[sampleKek "first", sampleKek "second"], by decide⟩

def sampleVault : Vault where
  openVariantParams := fun row =>
    some { variantId := row.variantId.toNat, variantConst := 0, moduleDigest := 0,
           binderExtra := [] }
  openAssetKek := fun _ _ => some 7

/-- A license with the feature `pro` that may preload, for the releases of a scope. -/
def sampleLicense (scope : VersionScope) : LicenseContext where
  licenseId := 1
  productId := "app"
  status := .active
  seatsOverride := none
  expiresAt := none
  policy :=
    { versionScope := scope, seats := 1, heartbeatSecs := none, validity := .perpetual,
      vtSignature := .fast, refreshAfterSecs := 3600, graceSecs := 0, reportAttrs := false,
      allowOlk := true, allowUnboundOlk := true, offlineUpgradePolicy := .preloadN,
      preloadVariantsN := 1 }
  entitlements := { features := ["pro"] }

def sampleMaterial : KeyMaterial where
  bind := fun _ => some fun _ => some [9]
  rngHealthy := true

/-- A license that is pinned to the first release gets the key of the second one. -/
theorem pinned_license_gets_other_key :
    ∃ authorized registry keks key,
      loadContext sampleVault sampleTables (sampleLicense (.pinned ["first"])) "first" .activate
          150 = .ok authorized ∧
        loadRegistry sampleTables "app" = .ok registry ∧
        credentialKeks sampleVault sampleTables sampleMaterial authorized = .ok keks ∧
        keks.Has key ∧ key.releaseId = "second" ∧
        decideVersion registry (.pinned ["first"]) "second" = .outOfScope (some "first") := by
  refine ⟨_, _, _, { releaseId := "second", asset := ⟨"pro", 7⟩, bytes := [9] }, rfl, rfl, rfl,
    .inr ⟨_, mem_singleton.2 rfl, mem_singleton.2 rfl⟩, rfl, by decide⟩

/-- A license for every release gets both keys, and both are granted. -/
theorem unlimited_license_keys_granted :
    ∃ authorized registry keks,
      loadContext sampleVault sampleTables (sampleLicense .unlimited) "first" .activate 150 =
          .ok authorized ∧
        loadRegistry sampleTables "app" = .ok registry ∧
        credentialKeks sampleVault sampleTables sampleMaterial authorized = .ok keks ∧
        (∃ key, keks.Has key ∧ key.releaseId = "second") ∧
        ∀ key, keks.Has key → (decideVersion registry .unlimited key.releaseId).grants = true ∧
            (sampleLicense .unlimited).entitlements.hasFeature key.featureId = true := by
  have hload :
      loadContext sampleVault sampleTables (sampleLicense .unlimited) "first" .activate 150 =
      .ok _ := rfl
  have hregistry : loadRegistry sampleTables "app" = .ok _ := rfl
  refine ⟨_, _, _, hload, hregistry, rfl,
    ⟨{ releaseId := "second", asset := ⟨"pro", 7⟩, bytes := [9] },
    .inr ⟨_, mem_singleton.2 rfl, mem_singleton.2 rfl⟩, rfl⟩, ?_⟩
  refine (asset_keys_granted_iff hload hregistry
    (show credentialKeks _ _ sampleMaterial _ = _ from rfl)).2 fun _ variantId id hid => ?_
  obtain ⟨row, hrow, rfl, hof, -⟩ := row_of_preloadedRelease hid
  obtain ⟨release, -, hget⟩ := get_of_loadRegistry hregistry hrow hof
  exact ⟨release, hget, rfl⟩

end CopyLocker.Worker.Router
