import CopyLocker.Proto.TicketCodec
import CopyLocker.Server.Catalog

/-!
# Entitlement resolution

Resolution turns a specification (a tier, extra groups, grants, exclusions and limits) into the
flat entitlements that are signed (`copylocker-server-core::entitlement`).

## Main results

* `mem_of_collectGroup`: the features that are collected for a group.
* `resolve_spec`: the resolved entitlements have the selected features and limits.
* `resolve_of_validate`: when resolution succeeds on a catalog that was validated.
-/

namespace CopyLocker.Server

open Foundation Saturating Proto.Codec Result SortedMap Catalog List

/-- What a grant adds. -/
inductive GrantTarget
  | feature (id : String)
  | group (id : String)
  deriving DecidableEq

/-- An add-on, valid from an instant on and before another one. -/
structure Grant where
  target : GrantTarget
  validFrom : Option Int64
  validUntil : Option Int64
  limits : SortedMap String Int64
  deriving DecidableEq

/-- The grant is in its window. -/
def Grant.isActive (g : Grant) (now : Int64) : Bool :=
  g.validFrom.all (fun start => decide (start ≤ now)) &&
    g.validUntil.all fun stop => decide (now < stop)

/-- How a limit combines when several sources set it. -/
inductive LimitMergePolicy
  | max
  | sum
  | override
  deriving DecidableEq

/-- What a license is entitled to, before resolution. -/
structure EntitlementSpec where
  tier : String
  extraGroups : List String
  grants : List Grant
  excludedFeatures : List String
  limitOverrides : SortedMap String Int64
  limitMerge : SortedMap String LimitMergePolicy
  deriving DecidableEq

/-- Why a specification does not resolve. -/
inductive PolicyError
  | catalog (error : CatalogError)
  | unknownTier (id : String)
  | unknownGroup (id : String)
  | unknownFeature (id : String)
  deriving DecidableEq

/-! ### Resolution -/

/-- The value that stands for no limit. -/
def limitUnlimited : Int64 := -1

variable (c : Catalog) (spec : EntitlementSpec)

/-- How the limit of this key is merged; the greater by default. -/
def policyFor (key : String) : LimitMergePolicy :=
  (spec.limitMerge.get key).getD .max

/-- A limit and the one that comes in; unlimited dominates unless it is replaced. -/
def mergedLimit (current : Option Int64) (incoming : Int64) (policy : LimitMergePolicy) : Int64 :=
  match current, policy with
  | none, _ => incoming
  | some _, .override => incoming
  | some cur, .max =>
    if cur = limitUnlimited ∨ incoming = limitUnlimited then limitUnlimited
    else if cur ≤ incoming then incoming else cur
  | some cur, .sum =>
    if cur = limitUnlimited ∨ incoming = limitUnlimited then limitUnlimited
    else Int64.ofInt (signedAdd 64 cur.toInt incoming.toInt)

/-- Merge one limit into those so far. -/
def mergeLimit (limits : SortedMap String Int64) (limit : String × Int64) :
    SortedMap String Int64 :=
  limits.insert limit.1 (mergedLimit (limits.get limit.1) limit.2 (policyFor spec limit.1))

/-- Merge limits key by key. -/
def mergeLimits (limits incoming : SortedMap String Int64) : SortedMap String Int64 :=
  incoming.entries.foldl (mergeLimit spec) limits

/-- Add the features of a pattern. -/
def addPattern (out : Finset String) (pattern : String) : Except PolicyError (Finset String) := do
  let ids ← (c.expandPattern pattern).mapError .catalog
  return out ∪ ids.toFinset

/-- Recursively collect the features of a group, with the levels that are left. -/
def collectGroup (c : Catalog) : ℕ → Finset String → String → Except PolicyError (Finset String)
  | 0, _, id => .error (.catalog (.depthExceeded id))
  | levels + 1, out, id => do
    let g ← Result.ofOption (c.group id) (.unknownGroup id)
    let out ← g.members.includes.foldlM (collectGroup c levels) out
    g.members.features.foldlM (addPattern c) out

/-- Add the features of a group and of the groups in it. -/
def addGroup : Finset String → String → Except PolicyError (Finset String) :=
  collectGroup c (maxGroupDepth + 1)

/-- What has been resolved so far. -/
structure Resolution where
  features : Finset String
  limits : SortedMap String Int64

/-- Add what a grant names. -/
def addTarget (out : Finset String) : GrantTarget → Except PolicyError (Finset String)
  | .feature id => addPattern c out id
  | .group id => addGroup c out id

/-- An active grant adds its features and limits. -/
def applyGrant (now : Int64) (r : Resolution) (g : Grant) : Except PolicyError Resolution :=
  if g.isActive now then do
    let features ← addTarget c r.features g.target
    return { features, limits := mergeLimits spec r.limits g.limits }
  else .ok r

/-- Take a feature out. -/
def exclude (out : Finset String) (id : String) : Except PolicyError (Finset String) := do
  Result.require ((c.feature id).isSome) (.unknownFeature id)
  return out.erase id

/-- The entitlements of a specification at a time. -/
def resolve (now : Int64) : Except PolicyError Entitlements := do
  c.validate.mapError .catalog
  let tier ← Result.ofOption (c.tier spec.tier) (.unknownTier spec.tier)
  let grouped ← tier.groups.foldlM (addGroup c) ∅
  let direct ← tier.features.foldlM (addPattern c) grouped
  let extended ← spec.extraGroups.foldlM (addGroup c) direct
  let granted ← spec.grants.foldlM (applyGrant c spec now)
    { features := extended, limits := .ofList tier.limits.entries }
  -- exclusions come after everything that could add
  let features ← spec.excludedFeatures.foldlM (exclude c) granted.features
  return {
    features
    limits := mergeLimits spec granted.limits spec.limitOverrides
    tierId := tier.id
    tierLabel := tier.label
    catalogVersion := c.version
    versionScope := none
    subscriptionHint := none
  }

/-- Entitlements with the scope and the hint of the ticket. -/
def withContext (e : Entitlements) (versionScope : Option Proto.Codec.VersionScope)
    (subscriptionHint : Option SubscriptionHint) : Entitlements :=
  { e with versionScope, subscriptionHint }

/-! ### What a specification stands for -/

/-- The features that a grant is about. -/
def GrantTarget.Covers (f : String) : GrantTarget → Prop
  | .feature id => c.Matches id f
  | .group id => c.InGroup f id

/-- A feature that the tier, an extra group or an active grant gives and that is not excluded. -/
def Selected (now : Int64) (f : String) : Prop :=
  (((∃ tier, c.tier spec.tier = some tier ∧
        ((∃ id ∈ tier.groups, c.InGroup f id) ∨ ∃ pattern ∈ tier.features, c.Matches pattern f)) ∨
      (∃ id ∈ spec.extraGroups, c.InGroup f id)) ∨
    ∃ g ∈ spec.grants, g.isActive now = true ∧ g.target.Covers c f) ∧
  f ∉ spec.excludedFeatures

/-- A limit that the tier, an active grant or an override sets. -/
def LimitKey (now : Int64) (k : String) : Prop :=
  ((∃ tier, c.tier spec.tier = some tier ∧ k ∈ tier.limits.keys) ∨
    ∃ g ∈ spec.grants, g.isActive now = true ∧ k ∈ g.limits.keys) ∨
  k ∈ spec.limitOverrides.keys

section Resolve

variable {c spec} {now : Int64} {out out' : Finset String}
  {f k : String}

/-- Selected features are declared. -/
theorem Selected.declared (h : Selected c spec now f) : f ∈ c.features.map Feature.id := by
  obtain ⟨((⟨tier, -, ⟨id, -, hf⟩ | ⟨pattern, -, hf⟩⟩ | ⟨id, -, hf⟩) | ⟨g, -, -, hf⟩), -⟩ := h
  · exact hf.declared
  · exact hf.1
  · exact hf.declared
  · cases htarget : g.target with
    | feature id =>
      rw [htarget] at hf
      exact hf.1
    | group id =>
      rw [htarget] at hf
      exact Catalog.InGroup.declared hf

theorem mem_of_addPattern {pattern : String} (h : addPattern c out pattern = .ok out') :
    f ∈ out' ↔ f ∈ out ∨ c.Matches pattern f := by
  obtain ⟨ids, hids, h⟩ := bind_eq_ok.1 h
  cases h
  rw [Finset.mem_union, mem_toFinset, mem_of_expandPattern (mapError_eq_ok.1 hids)]

variable {levels : ℕ} {id : String}

/-- The features that are collected for a group. -/
theorem mem_of_collectGroup
    (h : collectGroup c levels out id = .ok out') : f ∈ out' ↔ f ∈ out ∨ c.InGroup f id := by
  induction levels generalizing out out' id with
  | zero => cases h
  | succ levels ih =>
    obtain ⟨g, hgroup, h⟩ := bind_eq_ok.1 h
    obtain ⟨inner, hinner, h⟩ := bind_eq_ok.1 h
    have hmembers := foldlM_adds (M := (f ∈ ·)) (fun _ _ _ hstep => mem_of_addPattern hstep) h
    have hincluded := foldlM_adds (M := (f ∈ ·)) (fun _ _ _ hstep => ih hstep) hinner
    rw [hmembers, hincluded, or_assoc, inGroup_iff (ofOption_eq_ok.1 hgroup)]

theorem mem_of_addGroup (h : addGroup c out id = .ok out') :
    f ∈ out' ↔ f ∈ out ∨ c.InGroup f id := mem_of_collectGroup h

theorem mem_keys_mergeLimits {limits incoming : SortedMap String Int64} :
    k ∈ (mergeLimits spec limits incoming).keys ↔ k ∈ limits.keys ∨ k ∈ incoming.keys := by
  have hfold (l : List (String × Int64)) (limits : SortedMap String Int64) :
      k ∈ (l.foldl (mergeLimit spec) limits).keys ↔ k ∈ limits.keys ∨ k ∈ l.map Prod.fst := by
    induction l generalizing limits with
    | nil => simp
    | cons limit l ih =>
      rw [foldl_cons, ih, mergeLimit, mem_keys_insert, map_cons, mem_cons, or_assoc]
  exact hfold incoming.entries limits

theorem applyGrant_spec {r r' : Resolution} {g : Grant} (h : applyGrant c spec now r g = .ok r') :
    (f ∈ r'.features ↔ f ∈ r.features ∨ (g.isActive now ∧ g.target.Covers c f)) ∧
      (k ∈ r'.limits.keys ↔ k ∈ r.limits.keys ∨ (g.isActive now ∧ k ∈ g.limits.keys)) := by
  unfold applyGrant at h
  split_ifs at h with hactive
  · obtain ⟨features, hfeatures, h⟩ := bind_eq_ok.1 h
    cases h
    have hmem : f ∈ features ↔ f ∈ r.features ∨ g.target.Covers c f := by
      cases htarget : g.target <;> rw [htarget] at hfeatures
      · exact mem_of_addPattern hfeatures
      · exact mem_of_addGroup hfeatures
    rw [hmem, mem_keys_mergeLimits]
    simp [hactive]
  · cases h
    simp [hactive]

private theorem mem_of_exclude {ids : List String} (h : ids.foldlM (exclude c) out = .ok out') :
    f ∈ out' ↔ f ∈ out ∧ f ∉ ids := by
  have hstep (b : Finset String) (id : String) (b' : Finset String) (h : exclude c b id = .ok b') :
      f ∉ b' ↔ f ∉ b ∨ f = id := by
    obtain ⟨_, -, h⟩ := bind_eq_ok.1 h
    cases h
    rw [Finset.mem_erase]
    tauto
  have hout := foldlM_adds (M := (f ∉ ·)) hstep h
  rw [← not_iff_not, hout]
  simp only [exists_eq_right', not_and_or, not_not]

/-- Resolved entitlements have the selected features and limits, and the texts of the tier. -/
theorem resolve_spec {e : Entitlements} (h : resolve c spec now = .ok e) :
    (∀ f, f ∈ e.features ↔ Selected c spec now f) ∧
      (∀ k, k ∈ e.limits.keys ↔ LimitKey c spec now k) ∧
      ∃ tier, c.tier spec.tier = some tier ∧ e.tierId = tier.id ∧ e.tierLabel = tier.label := by
  obtain ⟨_, -, h⟩ := bind_eq_ok.1 h
  obtain ⟨tier, htier, h⟩ := bind_eq_ok.1 h
  obtain ⟨grouped, hgrouped, h⟩ := bind_eq_ok.1 h
  obtain ⟨direct, hdirect, h⟩ := bind_eq_ok.1 h
  obtain ⟨extended, hextended, h⟩ := bind_eq_ok.1 h
  obtain ⟨granted, hgranted, h⟩ := bind_eq_ok.1 h
  obtain ⟨features, hfeatures, h⟩ := bind_eq_ok.1 h
  cases h
  replace htier := ofOption_eq_ok.1 htier
  refine ⟨fun f => ?_, fun k => ?_, tier, htier, rfl, rfl⟩
  · have hgroups := foldlM_adds (M := (f ∈ ·)) (fun _ _ _ h => mem_of_addGroup h) hgrouped
    have hpatterns := foldlM_adds (M := (f ∈ ·)) (fun _ _ _ h => mem_of_addPattern h) hdirect
    have hextra := foldlM_adds (M := (f ∈ ·)) (fun _ _ _ h => mem_of_addGroup h) hextended
    have hgrants := foldlM_adds (M := (f ∈ ·.features))
      (fun _ _ _ h => (applyGrant_spec (k := f) h).1) hgranted
    rw [mem_of_exclude hfeatures, hgrants, hextra, hpatterns, hgroups]
    simp [Selected, htier]
  · have hgrants := foldlM_adds (M := (k ∈ ·.limits.keys))
      (fun _ _ _ h => (applyGrant_spec (f := k) h).2) hgranted
    rw [mem_keys_mergeLimits, hgrants, ofList, mem_keys_insertAll]
    simp [LimitKey, htier, SortedMap.keys, empty]

/-! ### Validated catalogs -/

/-- The error is not about the depth of the groups. -/
def PolicyError.NotDepth (e : PolicyError) : Prop := ∀ id, e ≠ .catalog (.depthExceeded id)

/-- The features or the group of a grant are declared. -/
def GrantTarget.Resolves (c : Catalog) : GrantTarget → Prop
  | .feature id => c.Resolves id
  | .group id => (c.group id).isSome = true

/-- Everything that a specification names, in grants that are active, is declared. -/
structure EntitlementSpec.Resolves (c : Catalog) (spec : EntitlementSpec) (now : Int64) : Prop where
  tier : (c.tier spec.tier).isSome = true
  extraGroups : ∀ id ∈ spec.extraGroups, (c.group id).isSome = true
  grants : ∀ g ∈ spec.grants, g.isActive now = true → g.target.Resolves c
  excluded : ∀ id ∈ spec.excludedFeatures, (c.feature id).isSome = true

theorem decides_addPattern (pattern : String) :
    Decides (c.Resolves pattern) PolicyError.NotDepth (addPattern c out pattern) := by
  have hpattern : Decides (c.Resolves pattern) PolicyError.NotDepth
      ((c.expandPattern pattern).mapError .catalog) := by
    refine ⟨by simp only [mapError_eq_ok, exists_expandPattern_iff], ?_⟩
    fun_cases expandPattern c pattern <;> rintro _ ⟨⟩ <;> nofun
  exact (hpattern.bind fun _ => .ok _).congr (and_iff_left trivial)

variable (hc : c.Sound)

include hc

open Decides

/-- The levels that suffice for the walk over a group suffice to collect its features. -/
theorem decides_collectGroup (h : c.Fits levels id) :
    Decides True PolicyError.NotDepth (collectGroup c levels out id) := by
  induction levels generalizing id out with
  | zero => exact h.elim
  | succ levels ih =>
    obtain ⟨g, hgroup, hfits⟩ := h
    have hpatterns := (hc.groups_resolve g (mem_of_group hgroup).1).2
    unfold collectGroup
    rw [hgroup]
    refine ((foldlM (fun inner hinner out => ih (hfits inner hinner)) out).bind fun out =>
      foldlM (fun pattern _ out => decides_addPattern pattern) out).congr ?_
    exact iff_of_true ⟨fun _ _ => trivial, hpatterns⟩ trivial

theorem decides_addGroup (id : String) :
    Decides ((c.group id).isSome) PolicyError.NotDepth (addGroup c out id) := by
  cases hgroup : c.group id with
  | none =>
    unfold addGroup collectGroup
    rw [hgroup]
    exact (error nofun).congr (by simp)
  | some g =>
    have hfits : c.Fits (maxGroupDepth + 1) id := (fits_iff
      (fun g hg => (hc.groups_resolve g hg).1)
      (by rw [hgroup]; rfl)).2 fun ids hchain => hc.depth _ hchain
    exact (decides_collectGroup hc hfits).congr (by simp)

private theorem decides_applyGrant (g : Grant) (r : Resolution) :
    Decides (g.isActive now → g.target.Resolves c) PolicyError.NotDepth
      (applyGrant c spec now r g) := by
  have htarget : Decides (g.target.Resolves c) PolicyError.NotDepth
      (addTarget c r.features g.target) := by
    cases g.target with
    | feature id => exact decides_addPattern id
    | group id => exact decides_addGroup hc id
  unfold applyGrant
  split_ifs with hactive
  · exact (htarget.bind fun _ => .ok _).congr (by simp [hactive])
  · exact (ok r).congr (by simp [hactive])

private theorem decides_resolve :
    Decides (spec.Resolves c now) PolicyError.NotDepth (resolve c spec now) := by
  unfold resolve
  rw [validate_eq_ok_iff.2 hc]
  cases htier : c.tier spec.tier with
  | none =>
    exact (error nofun).congr (iff_of_false id fun h => by simpa [htier] using h.tier)
  | some tier =>
    have hsold := hc.tiers_resolve tier (mem_of_find?_eq_some htier)
    refine (bind (foldlM (fun id _ _ => decides_addGroup hc id) ∅) fun _ =>
      (foldlM (fun pattern _ _ => decides_addPattern pattern) _).bind fun _ =>
      (foldlM (fun id _ _ => decides_addGroup hc id) _).bind fun _ =>
      (foldlM (fun g _ r => decides_applyGrant hc g r) _).bind fun _ =>
      (foldlM (fun id _ _ => (require nofun).bind fun _ => .ok _) _).bind fun _ =>
      .ok _).congr ?_
    constructor
    · rintro ⟨-, -, hextra, hgrants, hexcluded, -⟩
      exact ⟨by rw [htier]; rfl, hextra, hgrants, fun id hid => (hexcluded id hid).1⟩
    · intro h
      exact ⟨hsold.1, hsold.2, h.extraGroups, h.grants, fun id hid => ⟨h.excluded id hid, trivial⟩,
        trivial⟩

omit hc

/-- On a catalog that was validated, resolution succeeds exactly if everything that is named is
declared, has the selected features then, and does not fail for the depth of the groups. -/
theorem resolve_of_validate (hvalid : c.validate = .ok ()) :
    ((∃ e, resolve c spec now = .ok e) ↔ spec.Resolves c now) ∧
      (∀ e, resolve c spec now = .ok e → ∀ f, f ∈ e.features ↔ Selected c spec now f) ∧
      ∀ id, resolve c spec now ≠ .error (.catalog (.depthExceeded id)) := by
  have hdecides : Decides (spec.Resolves c now) PolicyError.NotDepth (resolve c spec now) :=
    decides_resolve (validate_eq_ok_iff.1 hvalid)
  exact ⟨hdecides.1, fun e h => (resolve_spec h).1, fun id h => hdecides.2 _ h id rfl⟩

/-- Grants that each add a number of seats. -/
def seatsSpec (policy : LimitMergePolicy) (seats : List Int64) : EntitlementSpec where
  tier := "pro"
  extraGroups := []
  grants := seats.map fun n => {
    target := .feature "export", validFrom := none, validUntil := none
    limits := ⟨[("seats", n)], by simp⟩ }
  excludedFeatures := []
  limitOverrides := .empty
  limitMerge := ⟨[("seats", policy)], by simp⟩

theorem resolve_seatsSpec :
    ∃ e, resolve (.smallCatalog 1) (seatsSpec .sum [2]) 0 = .ok e :=
  (resolve_of_validate (by decide)).1.2 ⟨by decide, by decide, fun g hg _ => by
      simp [seatsSpec] at hg
      subst hg
      exact .inl ⟨by decide, by decide⟩, by decide⟩

end Resolve

end CopyLocker.Server
