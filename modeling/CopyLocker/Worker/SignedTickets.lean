import CopyLocker.Server.Entitlement
import CopyLocker.Worker.AssetKeys
import Mathlib.Data.Set.Card

/-!
# The tickets that the worker signs

The ticket of a validation with everything it carries: `load_context` reads the policy and the
license, resolves the entitlements against the catalog and adds the scope of versions, and
`validate` wraps the asset keys of the release. How much a ticket carries is up to the
configuration, and clients read it with limits of their own.

## Main results

* `ticket_fits_iff`: the limits of a reader, in terms of the configuration.
* `signed_ticket_decodes_iff`: clients read a signed ticket if and only if it fits.
-/

namespace CopyLocker.Worker.Router

open Foundation Saturating Server Proto Result List

/-! ### Policies and licenses -/

/-- A policy with what it says about entitlements. -/
structure StoredPolicy extends Policy where
  fprTolerance : UInt8
  entitlement : EntitlementSpec

/-- What is wrong with a policy. -/
inductive PolicyDefect
  | zeroSeats
  | toleranceOutOfRange (tolerance : UInt8)
  | nonPositiveDuration (field : String)
  | unboundOlkWithoutOlk
  | trialWithMultipleSeats (seats : ℕ)
  deriving DecidableEq

/-- The checks of a policy. -/
def StoredPolicy.validate (p : StoredPolicy) : Except PolicyDefect Unit := do
  Result.require (p.seats ≠ 0) .zeroSeats
  Result.require (p.fprTolerance ≤ 100) (.toleranceOutOfRange p.fprTolerance)
  Result.require (0 < p.refreshAfterSecs) (.nonPositiveDuration "refresh_after_secs")
  Result.require (p.allowUnboundOlk → p.allowOlk) .unboundOlkWithoutOlk
  match p.validity with
  | .fixedTerm durationSecs =>
    Result.require (0 < durationSecs) (.nonPositiveDuration "duration_secs")
  | .subscription periodSecs _ _ =>
    Result.require (0 < periodSecs) (.nonPositiveDuration "period_secs")
  | .trial durationSecs => do
    Result.require (0 < durationSecs) (.nonPositiveDuration "duration_secs")
    Result.require (p.seats = 1) (.trialWithMultipleSeats p.seats)
  | .perpetual => .ok ()

/-- The row of a license, with its overrides. -/
structure StoredLicense where
  licenseId : LicenseId
  productId : ProductId
  policyId : String
  status : LicenseStatus
  seatsOverride : Option ℕ
  expiresAt : Option ℤ
  catalogVersion : UInt32
  entitlementOverride : Option EntitlementSpec
  versionScopeOverride : Option VersionScope

/-- The policy with the overrides of the license. -/
def StoredLicense.override (license : StoredLicense) (policy : StoredPolicy) : StoredPolicy :=
  { policy with
    entitlement := license.entitlementOverride.getD policy.entitlement
    versionScope := license.versionScopeOverride.getD policy.versionScope }

/-- A scope as it is written into entitlements. -/
def wireScope : VersionScope → Codec.VersionScope
  | .unlimited => .unlimited
  | .semverRange range => .semverRange range
  | .releasedBefore cutoff => .releasedBefore (Int64.ofInt cutoff)
  | .pinned ids => .pinned ids

/-- The entitlements, as far as the handlers read them. -/
def entitlementSummary (e : Codec.Entitlements) : Entitlements where
  features := e.sortedFeatures

/-- The license with its policy, and the entitlements that are resolved for it. -/
def loadLicense (catalog : Server.Catalog) (stored : StoredPolicy) (license : StoredLicense)
    (now : Int64) : Except AuthorizationError (LicenseContext × Codec.Entitlements) := do
  Result.require (isIdentifier license.productId ∧ isIdentifier license.policyId)
    (.server "license row has an invalid identifier")
  Result.require (∀ expiry ∈ license.expiresAt, 0 ≤ expiry) (.server "license expiry is invalid")
  let policy := license.override stored
  policy.validate.mapError fun _ => .server "policy failed semantic validation"
  Result.require (catalog.productId = license.productId ∧
    catalog.version = license.catalogVersion) (.server "catalog snapshot identity is invalid")
  catalog.validate.mapError fun _ => .server "catalog snapshot failed semantic validation"
  let resolved ← (resolve catalog policy.entitlement now).mapError fun _ =>
    .server "entitlement resolution failed"
  let entitlements := withContext resolved (some (wireScope policy.versionScope)) none
  return ({
    licenseId := license.licenseId
    productId := license.productId
    status := license.status
    seatsOverride := license.seatsOverride
    expiresAt := license.expiresAt
    policy := policy.toPolicy
    entitlements := entitlementSummary entitlements
  }, entitlements)

/-! ### The ticket -/

/-- The asset keys of the release, wrapped for the session. `sessionKeys` opens the credential
state of the activation, or fails to. -/
def wrapOnlineKeks (sessionKeys : LoadedRelease → Except String KeyMaterial)
    (authorized : Authorized) : Except String (Option (SortedMap String Bytes)) :=
  match authorized.loaded with
  | none => .ok none
  | some release =>
    if release.assetKeks.isEmpty then .ok none
    else do
      let material ← sessionKeys release
      let keks ← wrapEntitledKeks "online key material derivation failed"
        "online asset KEK wrapping failed" material authorized.entitlements release
      Result.require (material.rngHealthy = true) "Workers CSPRNG failed"
      return some (.ofList (keks.rows.map fun key => (key.featureId, key.bytes)))

/-- The fields of a ticket. -/
def ticketBody (v : ValidationMessage) (authorized : Authorized)
    (entitlements : Codec.Entitlements) (state : LicenseDO.ValidateState) (epoch : SigningEpoch)
    (serverNonce : ByteId 32) (wrappedKeks : Option (SortedMap String Bytes)) (now : Int64) :
    Codec.ValidationTicket where
  protoVer := UInt8.ofNat protoVer
  suiteId := v.suiteId
  machineId := v.machineId
  nonceCEcho := v.nonceC
  serverNonce := serverNonce
  serverTime := now
  nextRefreshAfter := Int64.ofInt (authorized.nextRefreshAfter now.toInt)
  notAfter := Int64.ofInt authorized.notAfter
  revocationEpoch := UInt64.ofNat state.revocationEpoch
  verdict := authorized.verdict
  entitlements := some entitlements
  epochId := epoch.epochId
  suspicionScore := some (UInt8.ofNat state.suspicion)
  securityFloor := UInt64.ofNat state.securityFloor
  releaseStatus := authorized.releaseStatus.map UInt8.ofNat
  wrappedKeks := wrappedKeks
  refreshNow := some (decide (v.knownRevocationEpoch < state.revocationEpoch))

/-- The ticket, as far as the handlers see it. -/
def ticketSummary (t : Codec.ValidationTicket) : ValidationTicket where
  protoVer := t.protoVer.toNat
  suiteId := t.suiteId
  machineId := t.machineId
  nonceCEcho := t.nonceCEcho
  serverNonce := t.serverNonce
  serverTime := t.serverTime.toInt
  nextRefreshAfter := t.nextRefreshAfter.toInt
  notAfter := t.notAfter.toInt
  revocationEpoch := t.revocationEpoch.toNat
  verdict := t.verdict
  entitlements := t.entitlements.map entitlementSummary
  epochId := t.epochId
  securityFloor := t.securityFloor.toNat
  wrappedKeks := t.wrappedKeks.map SortedMap.entries

theorem toInt_ofInt_signedAdd (a b : ℤ) :
    (Int64.ofInt (signedAdd 64 a b)).toInt = signedAdd 64 a b := by
  refine Int64.toInt_ofInt_of_le (le_max_left _ _) ?_
  have hmax : signedAdd 64 a b ≤ signedMax 64 := max_le (by decide) (min_le_left _ _)
  exact hmax.trans_lt (by decide)

variable {authorized : Authorized} {entitlements : Codec.Entitlements}

/-- What a validation reads of the database. -/
structure Configuration where
  vault : Vault
  tables : ReleaseTables
  catalog : Server.Catalog
  policy : StoredPolicy
  license : StoredLicense

namespace Configuration

variable (config : Configuration)

/-- The specification that is in force. -/
def spec : EntitlementSpec := (config.license.override config.policy).entitlement

/-- The scope that is in force. -/
def scope : VersionScope := (config.license.override config.policy).versionScope

/-- The authorization and the entitlements of a request. -/
def load (releaseId : String) (now : Int64) :
    Except AuthorizationError (Authorized × Codec.Entitlements) := do
  let (license, entitlements) ← loadLicense config.catalog config.policy config.license now
  let authorized ← loadContext config.vault config.tables license releaseId .validate now.toInt
  return (authorized, entitlements)

/-- The ticket that is signed for a validation. -/
def ticket (sessionKeys : LoadedRelease → Except String KeyMaterial) (v : ValidationMessage)
    (state : LicenseDO.ValidateState) (epoch : SigningEpoch) (serverNonce : ByteId 32)
    (now : Int64) : Except Failure Codec.ValidationTicket := do
  let (authorized, entitlements) ← (config.load v.clientInfo.releaseId now).mapError
    (authorizationRejection (registrationHint none v.clientInfo))
  Result.require (state.suspicion ≤ 100) (.internal "LicenseDO suspicion score is invalid")
  Result.require (state.fingerprint.isSome)
    (.internal "LicenseDO omitted the activation fingerprint for a ticket")
  let keks ← (wrapOnlineKeks sessionKeys authorized).mapError .internal
  return ticketBody v authorized entitlements state epoch serverNonce keks now

end Configuration

/-! ### What is accepted -/

/-- The bound of a document: the largest body of a request, and the largest snapshot. -/
def maxDocument : ℕ := 256 * 1024

/-- The limits of stored documents. -/
def documentLimits : Limits where
  maxDepth := 16
  maxItems := UInt64.ofNat maxDocument
  maxString := UInt64.ofNat maxDocument

/-- The check of the admin interface that all components of a catalog share. -/
def componentValid (id label : String) : Prop :=
  isIdentifier id = true ∧ trim label.toList ≠ [] ∧ label.utf8ByteSize ≤ 256

/-- The bounds of a feature. -/
def featureValid (f : Feature) : Prop :=
  componentValid f.id f.label ∧ (∀ text ∈ f.description, text.utf8ByteSize ≤ 4096) ∧
    ∀ instant ∈ f.deprecatedAt, 0 ≤ instant

/-- The bounds of a group. -/
def groupValid (g : FeatureGroup) : Prop :=
  componentValid g.id g.label ∧ g.members.includes.length ≤ 256 ∧ g.members.features.length ≤ 256

/-- The bounds of a tier. -/
def tierValid (t : Tier) : Prop :=
  componentValid t.id t.label ∧ t.groups.length ≤ 256 ∧ t.features.length ≤ 256 ∧
    t.limits.keys.length ≤ 256 ∧ ∀ instant ∈ t.archivedAt, 0 ≤ instant

/-- The limits that a specification sets itself. -/
def documentKeys (spec : EntitlementSpec) : List String :=
  spec.grants.flatMap (fun g => g.limits.keys) ++ spec.limitOverrides.keys

namespace Configuration

/-- The catalog passed the checks of its components and fits into a snapshot, and the
specification and the scope fit into a document. -/
structure Accepted (config : Configuration) : Prop where
  features : ∀ f ∈ config.catalog.features, featureValid f
  groups : ∀ g ∈ config.catalog.groups, groupValid g
  tiers : ∀ t ∈ config.catalog.tiers, tierValid t
  snapshotItems : config.catalog.features.length ≤ 65536
  snapshotTexts : ∀ t ∈ config.catalog.tiers, ∀ k ∈ t.limits.keys, k.utf8ByteSize ≤ maxDocument
  documentItems : (documentKeys config.spec).length ≤ maxDocument
  documentTexts : ∀ k ∈ documentKeys config.spec, k.utf8ByteSize ≤ maxDocument
  scope : (wireScope config.scope).Fits documentLimits

/-- What the configuration selects is within the limits. -/
structure Fits (limits : Limits) (config : Configuration) (now : Int64) : Prop where
  features : {f | Selected config.catalog config.spec now f}.ncard ≤ limits.maxItems.toNat
  limitCount : {k | LimitKey config.catalog config.spec now k}.ncard ≤ limits.maxItems.toNat
  limitKeys : ∀ k, LimitKey config.catalog config.spec now k →
    k.utf8ByteSize ≤ limits.maxString.toNat
  scope : (wireScope config.scope).Fits limits

end Configuration

/-- The bytes of a wrapped key: a nonce, the key and a tag. -/
def wrappedKekLength : ℕ := 24 + 32 + 16

/-- Every key is wrapped into that many bytes. -/
def WrapsKeks (sessionKeys : LoadedRelease → Except String KeyMaterial) : Prop :=
  ∀ release material wrap asset bytes, sessionKeys release = .ok material →
    material.bind release = some wrap → wrap asset = some bytes → bytes.length = wrappedKekLength

theorem length_id_le {id label : String} (h : componentValid id label) :
    (utf8 id).length ≤ 256 := by
  have hid := h.1
  simp only [isIdentifier, LicenseDO.isProductId, Bool.and_eq_true, decide_eq_true_eq] at hid
  exact hid.1.2.trans (by decide)

/-! ### What a ticket carries -/

section Ticket

variable {config : Configuration} {sessionKeys : LoadedRelease → Except String KeyMaterial}
  {v : ValidationMessage} {state : LicenseDO.ValidateState} {epoch : SigningEpoch}
  {serverNonce : ByteId 32} {now : Int64} {t : Codec.ValidationTicket} {limits : Limits}

private theorem loadLicense_eq_ok {context : LicenseContext}
    (h : loadLicense config.catalog config.policy config.license now =
      .ok (context, entitlements)) :
    context.entitlements = entitlementSummary entitlements ∧
      ∃ resolved, resolve config.catalog config.spec now = .ok resolved ∧
        entitlements = withContext resolved (some (wireScope config.scope)) none := by
  obtain ⟨_, -, h⟩ := bind_eq_ok.1 h
  obtain ⟨_, -, h⟩ := bind_eq_ok.1 h
  obtain ⟨_, -, h⟩ := bind_eq_ok.1 h
  obtain ⟨_, -, h⟩ := bind_eq_ok.1 h
  obtain ⟨_, -, h⟩ := bind_eq_ok.1 h
  obtain ⟨resolved, hresolved, h⟩ := bind_eq_ok.1 h
  cases h
  exact ⟨rfl, resolved, mapError_eq_ok.1 hresolved, rfl⟩

/-- Where the variable parts of a ticket come from. -/
theorem ticket_spec (h : config.ticket sessionKeys v state epoch serverNonce now = .ok t) :
    ∃ resolved authorized, resolve config.catalog config.spec now = .ok resolved ∧
      t.entitlements = some (withContext resolved (some (wireScope config.scope)) none) ∧
      authorized.entitlements = entitlementSummary resolved ∧
      wrapOnlineKeks sessionKeys authorized = .ok t.wrappedKeks ∧
      ∀ s ∈ t.suspicionScore, s ≤ 100 := by
  obtain ⟨⟨authorized, entitlements⟩, hload, h⟩ := bind_eq_ok.1 h
  obtain ⟨_, hscore, h⟩ := bind_eq_ok.1 h
  obtain ⟨_, -, h⟩ := bind_eq_ok.1 h
  obtain ⟨keks, hkeks, h⟩ := bind_eq_ok.1 h
  cases h
  obtain ⟨⟨context, entitlements'⟩, hlicense, hload⟩ := bind_eq_ok.1 (mapError_eq_ok.1 hload)
  obtain ⟨authorized', hcontext, hload⟩ := bind_eq_ok.1 hload
  obtain ⟨rfl, rfl⟩ := Prod.mk.inj (Except.ok.inj hload)
  obtain ⟨hsummary, resolved, hresolved, rfl⟩ := loadLicense_eq_ok hlicense
  refine ⟨resolved, authorized', hresolved, rfl, ?_, mapError_eq_ok.1 hkeks, ?_⟩
  · rw [entitlements_of_loadContext hcontext, hsummary]
    rfl
  · intro s hs
    cases hs
    have hle := require_eq_ok.1 hscore
    exact (Nat.mod_le _ _).trans hle

private theorem of_mem_wrapOnlineKeks {keks : SortedMap String Bytes}
    {e : String × Bytes} (hwraps : WrapsKeks sessionKeys)
    (h : wrapOnlineKeks sessionKeys authorized = .ok (some keks)) (he : e ∈ keks.entries) :
    authorized.entitlements.hasFeature e.1 ∧ e.2.length = wrappedKekLength := by
  unfold wrapOnlineKeks at h
  split at h
  · cases h
  · split_ifs at h
    · cases h
    · obtain ⟨material, hmaterial, h⟩ := bind_eq_ok.1 h
      obtain ⟨table, htable, h⟩ := bind_eq_ok.1 h
      obtain ⟨_, -, h⟩ := bind_eq_ok.1 h
      cases h
      obtain ⟨key, hkey, rfl⟩ := mem_map.1 (SortedMap.mem_of_mem_ofList he)
      obtain ⟨-, -, hfeature, wrap, hbind, hwrap⟩ := of_mem_wrapEntitledKeks htable hkey
      exact ⟨hfeature, hwraps _ _ _ _ _ hmaterial hbind hwrap⟩

/-- The limits of a reader, in terms of the configuration. -/
theorem ticket_fits_iff (haccepted : config.Accepted) (hwraps : WrapsKeks sessionKeys)
    (hstring : 256 ≤ limits.maxString.toNat)
    (h : config.ticket sessionKeys v state epoch serverNonce now = .ok t) :
    t.Fits limits ↔ config.Fits limits now := by
  obtain ⟨resolved, authorized, hresolved, hentitlements, hauthorized, hkeks, -⟩ := ticket_spec h
  obtain ⟨hfeatures, hlimits, tier, htier, hid, hlabel⟩ := resolve_spec hresolved
  have hselected : {f | Selected config.catalog config.spec now f} = ↑resolved.features := by
    ext f
    exact (hfeatures f).symm
  have hkeys :
      {k | LimitKey config.catalog config.spec now k} = ↑resolved.limits.keys.toFinset := by
    ext k
    rw [Finset.mem_coe, mem_toFinset]
    exact (hlimits k).symm
  have hncard : {k | LimitKey config.catalog config.spec now k}.ncard =
      resolved.limits.keys.length := by
    rw [hkeys, Set.ncard_coe_finset, toFinset_card_of_nodup resolved.limits.nodup_keys]
  have hshort {f : String} (hf : f ∈ resolved.features) :
      (utf8 f).length ≤ limits.maxString.toNat := by
    obtain ⟨feature, hfeature, rfl⟩ := mem_map.1 ((hfeatures f).1 hf).declared
    exact (length_id_le (haccepted.features feature hfeature).1).trans hstring
  have htierValid := (haccepted.tiers tier (mem_of_find?_eq_some htier)).1
  constructor
  · rintro ⟨hfit, -⟩
    obtain ⟨hcount, -, hlimitCount, hlimitKeys, -, -, hscope⟩ := hfit _ hentitlements
    refine ⟨?_, hncard.trans_le hlimitCount, fun k hk => ?_, hscope _ rfl⟩
    · rw [hselected, Set.ncard_coe_finset]
      exact hcount
    · rw [← length_utf8]
      exact hlimitKeys k ((hlimits k).2 hk)
  · rintro ⟨hcount, hlimitCount, hlimitKeys, hscope⟩
    rw [hselected, Set.ncard_coe_finset] at hcount
    refine ⟨fun e he => ?_, fun keks hkeksome => ?_⟩
    · cases hentitlements.symm.trans he
      refine ⟨hcount, fun f hf => hshort hf, hncard.symm.trans_le hlimitCount, fun k hk => ?_, ?_,
        ?_, fun scope hmem => ?_⟩
      · rw [length_utf8]
        exact hlimitKeys k ((hlimits k).1 hk)
      · exact hid ▸ (length_id_le htierValid).trans hstring
      · exact hlabel ▸ (length_utf8 tier.label ▸ htierValid.2.2).trans hstring
      · exact Option.some.inj hmem ▸ hscope
    · rw [hkeksome] at hkeks
      have hentry {e : String × Bytes} (he : e ∈ keks.entries) :
          e.1 ∈ resolved.features ∧ e.2.length = wrappedKekLength := by
        obtain ⟨hfeature, hlength⟩ := of_mem_wrapOnlineKeks hwraps hkeks he
        refine ⟨?_, hlength⟩
        rw [hauthorized] at hfeature
        exact (Finset.mem_sort _).1 (contains_iff_mem.1 hfeature)
      refine ⟨?_, fun e he => ⟨hshort (hentry he).1, ?_⟩⟩
      · have hsubset : keks.keys.toFinset ⊆ resolved.features := by
          intro f hf
          obtain ⟨bytes, he⟩ := SortedMap.mem_keys.1 (mem_toFinset.1 hf)
          exact (hentry he).1
        have hcard := Finset.card_le_card hsubset
        rw [toFinset_card_of_nodup keks.nodup_keys, SortedMap.keys, length_map] at hcard
        exact hcard.trans hcount
      · rw [(hentry he).2]
        exact Nat.le_trans (by decide) hstring

/-- The number of texts of a kind, by a list that has them all. -/
theorem ncard_le_length {P : String → Prop} {l : List String} (h : ∀ k, P k → k ∈ l) :
    {k | P k}.ncard ≤ l.length := by
  have hsubset : {k | P k} ⊆ ↑l.toFinset := fun k hk => mem_toFinset.2 (h k hk)
  refine (Set.ncard_le_ncard hsubset l.toFinset.finite_toSet).trans ?_
  rw [Set.ncard_coe_finset]
  exact l.toFinset_card_le

/-- The limits of the tier and those of the specification. -/
def configuredKeys (config : Configuration) : List String :=
  (config.catalog.tier config.spec.tier).elim [] (fun tier => tier.limits.keys) ++
    documentKeys config.spec

theorem mem_configuredKeys {k : String} (h : LimitKey config.catalog config.spec now k) :
    k ∈ configuredKeys config := by
  rcases h with (⟨tier, htier, hk⟩ | ⟨g, hg, -, hk⟩) | hk
  · refine mem_append_left _ ?_
    rwa [htier]
  · exact mem_append_right _ (mem_append_left _ (mem_flatMap.2 ⟨g, hg, hk⟩))
  · exact mem_append_right _ (mem_append_right _ hk)

theorem Configuration.Accepted.configuredKeys_bounds (haccepted : config.Accepted) :
    (configuredKeys config).length ≤ 256 + maxDocument ∧
      ∀ k ∈ configuredKeys config, k.utf8ByteSize ≤ maxDocument := by
  have hdocument := haccepted.documentItems
  unfold configuredKeys
  cases htier : config.catalog.tier config.spec.tier with
  | none => exact ⟨hdocument.trans (Nat.le_add_left _ _), haccepted.documentTexts⟩
  | some tier =>
    have hmem := mem_of_find?_eq_some htier
    refine ⟨?_, fun k hk => ?_⟩
    · rw [length_append]
      exact Nat.add_le_add (haccepted.tiers tier hmem).2.2.2.1 hdocument
    · rcases mem_append.1 hk with hk | hk
      · exact haccepted.snapshotTexts tier hmem k hk
      · exact haccepted.documentTexts k hk

/-- An accepted configuration asks for no length that a head cannot carry. -/
theorem Configuration.Accepted.fits_wideLimits (haccepted : config.Accepted) (now : Int64) :
    config.Fits Codec.wideLimits now := by
  obtain ⟨hcount, htexts⟩ := haccepted.configuredKeys_bounds
  have hfeatures : {f | Selected config.catalog config.spec now f}.ncard ≤ 65536 := by
    refine (ncard_le_length fun f hf => hf.declared).trans ?_
    rw [length_map]
    exact haccepted.snapshotItems
  have hlimits : {k | LimitKey config.catalog config.spec now k}.ncard ≤ 256 + maxDocument :=
    (ncard_le_length fun k hk => mem_configuredKeys hk).trans hcount
  refine ⟨hfeatures.trans (by decide), hlimits.trans (by decide), fun k hk => ?_, ?_⟩
  · exact (htexts k (mem_configuredKeys hk)).trans (by decide)
  · exact haccepted.scope.mono (by decide) (by decide)

/-- Clients read a signed ticket if and only if what the configuration selects is within their
limits. -/
theorem signed_ticket_decodes_iff (haccepted : config.Accepted) (hwraps : WrapsKeks sessionKeys)
    (h : config.ticket sessionKeys v state epoch serverNonce now = .ok t) :
    Codec.ValidationTicket.fromCanonical t.toCanonical = .ok t ↔ config.Fits clientLimits now := by
  obtain ⟨-, -, -, -, -, -, hscore⟩ := ticket_spec h
  have hwide : t.Fits Codec.wideLimits :=
    (ticket_fits_iff haccepted hwraps (by decide) h).2 (haccepted.fits_wideLimits now)
  rw [Codec.ValidationTicket.fromCanonical_toCanonical_iff hwide, and_iff_left rfl,
    and_iff_left hscore]
  exact ticket_fits_iff haccepted hwraps (by decide) h

end Ticket

/-! ### A license for some releases -/

/-- One tier with one feature. -/
def baseCatalog : Server.Catalog where
  productId := "app"
  version := 1
  features := [{ id := "pro", label := "Pro", description := none, deprecatedAt := none }]
  groups := []
  tiers := [{ id := "base", label := "Base", groups := [], features := ["pro"],
              limits := .empty, archivedAt := none }]

variable (scope : VersionScope)

/-- A license for that tier and for the releases of a scope. -/
def scopedConfiguration : Configuration where
  vault := sampleVault
  tables := sampleTables
  catalog := baseCatalog
  policy :=
    { (sampleLicense scope).policy with
      fprTolerance := 40
      entitlement :=
        { tier := "base", extraGroups := [], grants := [], excludedFeatures := [],
          limitOverrides := .empty, limitMerge := .empty } }
  license :=
    { licenseId := 1, productId := "app", policyId := "standard", status := .active,
      seatsOverride := none, expiresAt := none, catalogVersion := 1, entitlementOverride := none,
      versionScopeOverride := none }

def fixedSessionKeys (_ : LoadedRelease) : Except String KeyMaterial :=
  .ok { bind := fun _ => some fun _ => some (List.replicate 72 9), rngHealthy := true }

/-- A validation of the first release. -/
def firstReleaseMessage : ValidationMessage where
  protoVer := protoVer
  suiteId := clStd1SuiteId
  licenseId := 1
  machineId := 2
  nonceC := 3
  knownRevocationEpoch := 0
  knownSecurityFloor := 0
  clientInfo :=
    { releaseId := "first", variantId := 1, buildFingerprint := "build", appVersion := "1.0.0",
      os := "linux", arch := "x86_64", sdkVersion := "1.0.0" }
  proofInput := { size := 0, decoded := .error .nonceMismatch }
  proof := []

def unsuspiciousState : LicenseDO.ValidateState where
  killReason := none
  revocationEpoch := 0
  securityFloor := 0
  suspicion := 0
  previousSuspicion := 0
  suspicionContributions := none
  fingerprint := some [1]
  credentialState := some [1]
  activationPath := none

def onlyEpoch : SigningEpoch where
  epochId := 5
  fastVerifyingKey := []

/-- The ticket for a validation of the first release. -/
def firstReleaseTicket : Except Failure Codec.ValidationTicket :=
  (scopedConfiguration scope).ticket fixedSessionKeys firstReleaseMessage unsuspiciousState
    onlyEpoch 7 1500

theorem wrapsKeks_fixedSessionKeys : WrapsKeks fixedSessionKeys := by
  intro release material wrap asset bytes hmaterial hbind hwrap
  cases hmaterial
  cases hbind
  cases hwrap
  rfl

private theorem exists_wrapOnlineKeks (authorized : Authorized) :
    ∃ keks, wrapOnlineKeks fixedSessionKeys authorized = .ok keks := by
  unfold wrapOnlineKeks
  split
  · exact ⟨_, rfl⟩
  · rename_i release _
    split_ifs
    · exact ⟨_, rfl⟩
    · let wrapped (asset : RegisteredAssetKek) : WrappedKek :=
        { releaseId := release.releaseId, asset, bytes := replicate 72 9 }
      let entitled := release.assetKeks.filter fun asset =>
        authorized.entitlements.hasFeature asset.featureId
      have hwrapped : entitled.mapM (wrapKek "online asset KEK wrapping failed" release fun _ =>
          some (replicate 72 9)) = .ok (entitled.map wrapped) := by
        rw [mapM_eq_ok, forall₂_map_right_iff]
        exact forall₂_same.2 fun _ _ => rfl
      exact ⟨_, bind_eq_ok.2 ⟨_, rfl, bind_eq_ok.2 ⟨_,
        bind_eq_ok.2 ⟨_, rfl, bind_eq_ok.2 ⟨_, hwrapped, rfl⟩⟩, rfl⟩⟩⟩

theorem exists_firstReleaseTicket {loaded : Authorized × Codec.Entitlements}
    (hload : (scopedConfiguration scope).load "first" 1500 = .ok loaded) :
    ∃ t, firstReleaseTicket scope = .ok t := by
  obtain ⟨keks, hkeks⟩ := exists_wrapOnlineKeks loaded.1
  refine ⟨ticketBody firstReleaseMessage loaded.1 loaded.2 unsuspiciousState onlyEpoch 7 keks 1500,
    bind_eq_ok.2 ⟨loaded, mapError_eq_ok.2 hload, ?_⟩⟩
  exact bind_eq_ok.2 ⟨(), rfl, bind_eq_ok.2 ⟨(), rfl, bind_eq_ok.2
    ⟨keks, mapError_eq_ok.2 hkeks, rfl⟩⟩⟩

theorem accepted_scopedConfiguration (h : (wireScope scope).Fits documentLimits) :
    (scopedConfiguration scope).Accepted where
  features := by
    intro f hf
    obtain rfl := mem_singleton.1 hf
    exact ⟨⟨by decide, by decide, by decide⟩, nofun, nofun⟩
  groups := nofun
  tiers := by
    intro t ht
    obtain rfl := mem_singleton.1 ht
    exact ⟨⟨by decide, by decide, by decide⟩, by decide, by decide, by decide, nofun⟩
  snapshotItems := Nat.le_of_ble_eq_true rfl
  snapshotTexts := by
    intro t ht k hk
    obtain rfl := mem_singleton.1 ht
    cases hk
  documentItems := Nat.zero_le _
  documentTexts := nofun
  scope := h

/-- A license for every release gets a ticket that is read. -/
theorem unlimited_ticket_decodes :
    ∃ t, firstReleaseTicket .unlimited = .ok t ∧
      Codec.ValidationTicket.fromCanonical t.toCanonical = .ok t := by
  obtain ⟨t, ht⟩ := exists_firstReleaseTicket .unlimited rfl
  refine ⟨t, ht, (signed_ticket_decodes_iff (accepted_scopedConfiguration .unlimited trivial)
    wrapsKeks_fixedSessionKeys ht).2 ⟨?_, ?_, fun k hk => ?_, trivial⟩⟩
  · exact (ncard_le_length fun f hf => hf.declared).trans (by decide)
  · exact (ncard_le_length fun k hk => mem_configuredKeys hk).trans (by decide)
  · cases mem_configuredKeys hk

/-- A short name for each number below 1024. -/
def releaseName (n : ℕ) : String :=
  "v" ++
    (String.singleton (Char.ofNat (48 + n / 32)) ++ String.singleton (Char.ofNat (48 + n % 32)))

/-- The first release and many others. -/
def manyReleases : List String := "first" :: (List.range 1024).map releaseName

private theorem length_releaseName (n : ℕ) : (utf8 (releaseName n)).length ≤ 9 := by
  have hhigh := (Char.ofNat (48 + n / 32)).utf8Size_le_four
  have hlow := (Char.ofNat (48 + n % 32)).utf8Size_le_four
  rw [length_utf8, releaseName]
  simp only [String.utf8ByteSize_append, String.utf8ByteSize_singleton]
  change 1 + _ ≤ 9
  omega

private theorem length_manyReleases : manyReleases.length = 1025 := by
  rw [manyReleases, length_cons, length_map, length_range]

/-- A license for 1025 releases gets a ticket that no client reads. -/
theorem pinned_ticket_refused :
    (scopedConfiguration (.pinned manyReleases)).Accepted ∧
      ∃ t, firstReleaseTicket (.pinned manyReleases) = .ok t ∧
        ∀ t', Codec.ValidationTicket.fromCanonical t.toCanonical ≠ .ok t' := by
  have haccepted : (scopedConfiguration (.pinned manyReleases)).Accepted := by
    refine accepted_scopedConfiguration _ ⟨?_, forall_mem_cons.2 ⟨by decide, fun id hid => ?_⟩⟩
    · exact length_manyReleases.trans_le (by decide)
    · obtain ⟨n, -, rfl⟩ := mem_map.1 hid
      exact (length_releaseName n).trans (by decide)
  obtain ⟨t, ht⟩ := exists_firstReleaseTicket (.pinned manyReleases) rfl
  have hwide : t.Fits Codec.wideLimits :=
    (ticket_fits_iff haccepted wrapsKeks_fixedSessionKeys (by decide) ht).2
      (haccepted.fits_wideLimits 1500)
  refine ⟨haccepted, t, ht, fun t' ht' => ?_⟩
  have hfits := ((Codec.ValidationTicket.fromCanonical_toCanonical_iff hwide).1 ht').1.1
  have hscope := ((ticket_fits_iff haccepted wrapsKeks_fixedSessionKeys (by decide) ht).1
    hfits).scope.1
  rw [length_manyReleases] at hscope
  exact absurd hscope (by decide)

end CopyLocker.Worker.Router
