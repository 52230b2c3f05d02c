import CopyLocker.Foundation.Result
import CopyLocker.Foundation.SortedMap
import CopyLocker.Types
import Mathlib.Data.List.Chain
import Mathlib.Data.String.Basic

/-!
# The entitlement catalog

Features, groups and tiers of a product (`copylocker-server-core::catalog`). Groups and tiers name
features by patterns, and groups include other groups. A catalog is checked before anything is
resolved against it.

The walk over the groups counts the levels that are left, where the source counts those it went
down.

## Main results

* `Catalog.mem_of_expandPattern`: a pattern expands to the features that match it.
* `Catalog.validate_eq_ok_iff`: the check accepts the sound catalogs.
* `Catalog.validate_and_evolution_sound`: so does a chain of successors, and nothing that was
  published is lost along it.
-/

namespace CopyLocker.Server

open Foundation List Result

/-- A single atomic capability. -/
structure Feature where
  id : String
  label : String
  description : Option String
  deprecatedAt : Option Int64
  deriving DecidableEq

/-- Included groups, and feature identifiers with an optional star at the end. -/
structure GroupMembers where
  includes : List String
  features : List String
  deriving DecidableEq

/-- Features under one name. -/
structure FeatureGroup where
  id : String
  label : String
  members : GroupMembers
  deriving DecidableEq

/-- A purchasable tier; a limit of `-1` means unlimited. -/
structure Tier where
  id : String
  label : String
  groups : List String
  features : List String
  limits : SortedMap String Int64
  archivedAt : Option Int64
  deriving DecidableEq

/-- The features, groups and tiers of a product. -/
structure Catalog where
  productId : ProductId
  version : UInt32
  features : List Feature
  groups : List FeatureGroup
  tiers : List Tier
  deriving DecidableEq

/-- What is wrong with a catalog. -/
inductive CatalogError
  | duplicateId (id : String)
  | unknownReference (source target : String)
  | cyclicGroup (id : String)
  | depthExceeded (id : String)
  | featureIdRemoved (id : String)
  | limitKeyRemoved (key : String)
  | versionNotAdvanced (previous proposed : UInt32)
  | badGlob (pattern : String)
  deriving DecidableEq

/-- Maximum group nesting depth. -/
def maxGroupDepth : ℕ := 8

/-- Every identifier is new. -/
def requireDistinct : List String → List String → Except CatalogError Unit
  | _, [] => .ok ()
  | seen, id :: ids =>
    if id ∈ seen then .error (.duplicateId id) else requireDistinct (id :: seen) ids

/-- Name the place of a dangling reference. -/
def CatalogError.locate (source : String) : CatalogError → CatalogError
  | .unknownReference _ target => .unknownReference source target
  | error => error

namespace Catalog

variable (c : Catalog)

/-- The feature with this id. -/
def feature (id : String) : Option Feature := c.features.find? fun f => f.id = id

/-- The group with this id. -/
def group (id : String) : Option FeatureGroup := c.groups.find? fun g => g.id = id

/-- The tier with this id. -/
def tier (id : String) : Option Tier := c.tiers.find? fun t => t.id = id

def featureIds : List String := c.features.map Feature.id

/-- The limits that some tier sets. -/
def limitKeys : List String := c.tiers.flatMap fun t => t.limits.keys

/-- A pattern has no star, or a single one at its end. -/
def expandPattern (pattern : String) : Except CatalogError (List String) :=
  match pattern.toList.count '*' with
  | 0 =>
    if (c.feature pattern).isSome then .ok [pattern]
    else .error (.unknownReference "pattern" pattern)
  | 1 =>
    if pattern.toList.getLast? = some '*' then
      .ok ((c.features.filter fun f => pattern.toList.dropLast.isPrefixOf f.id.toList).map
        Feature.id)
    else .error (.badGlob pattern)
  | _ => .error (.badGlob pattern)

/-- A reference to a group finds it. -/
def requireGroup (source id : String) : Except CatalogError Unit :=
  Result.require ((c.group id).isSome) (.unknownReference source id)

/-- A pattern expands. -/
def requirePattern (source pattern : String) : Except CatalogError Unit :=
  (c.expandPattern pattern).mapError (CatalogError.locate source) >>= fun _ => .ok ()

/-- Depth-first walk detecting cycles and depth violations, with the levels that are left. -/
def walkGroup : ℕ → List String → String → Except CatalogError Unit
  | 0, path, id => if id ∈ path then .error (.cyclicGroup id) else .error (.depthExceeded id)
  | levels + 1, path, id =>
    if id ∈ path then .error (.cyclicGroup id)
    else
      match c.group id with
      | none => .error (.unknownReference (path.getLast?.getD "") id)
      | some g => g.members.includes.forM (walkGroup levels (path ++ [id]))

/-- The catalog is structurally sound. -/
def validate : Except CatalogError Unit := do
  requireDistinct [] (c.features.map Feature.id)
  requireDistinct [] (c.groups.map FeatureGroup.id)
  requireDistinct [] (c.tiers.map Tier.id)
  c.groups.forM fun g => do
    g.members.includes.forM (c.requireGroup g.id)
    g.members.features.forM (c.requirePattern g.id)
  c.tiers.forM fun t => do
    t.groups.forM (c.requireGroup t.id)
    t.features.forM (c.requirePattern t.id)
  c.groups.forM fun g => c.walkGroup (maxGroupDepth + 1) [] g.id

/-- The proposed catalog is a legal successor of this one. -/
def validateEvolution (proposed : Catalog) : Except CatalogError Unit := do
  proposed.validate
  Result.require (c.version < proposed.version) (.versionNotAdvanced c.version proposed.version)
  c.featureIds.forM fun id => Result.require (id ∈ proposed.featureIds) (.featureIdRemoved id)
  c.limitKeys.forM fun key => Result.require (key ∈ proposed.limitKeys) (.limitKeyRemoved key)

/-! ### What patterns and groups stand for -/

/-- A declared feature that is the pattern, or starts with what precedes its star. -/
def Matches (pattern f : String) : Prop :=
  f ∈ c.features.map Feature.id ∧
    (f = pattern ∨ ∃ stem, pattern.toList = stem ++ ['*'] ∧ stem <+: f.toList)

/-- A feature that a group has, by itself or through a group that it includes. -/
inductive InGroup (f : String) : String → Prop
  | member {id pattern : String} {g : FeatureGroup} (hgroup : c.group id = some g)
    (hpattern : pattern ∈ g.members.features) (h : c.Matches pattern f) : InGroup f id
  | includes {id inner : String} {g : FeatureGroup} (hgroup : c.group id = some g)
    (hinner : inner ∈ g.members.includes) (h : InGroup f inner) : InGroup f id

variable {c} {f id : String} {g : FeatureGroup}

theorem inGroup_iff (hgroup : c.group id = some g) :
    c.InGroup f id ↔ (∃ inner ∈ g.members.includes, c.InGroup f inner) ∨
      ∃ pattern ∈ g.members.features, c.Matches pattern f := by
  constructor
  · intro h
    cases h with
    | member hg hpattern h =>
      cases hgroup.symm.trans hg
      exact .inr ⟨_, hpattern, h⟩
    | includes hg hinner h =>
      cases hgroup.symm.trans hg
      exact .inl ⟨_, hinner, h⟩
  · rintro (⟨inner, hinner, h⟩ | ⟨pattern, hpattern, h⟩)
    · exact .includes hgroup hinner h
    · exact .member hgroup hpattern h

/-- The features of a group are declared. -/
theorem InGroup.declared (h : c.InGroup f id) : f ∈ c.features.map Feature.id := by
  induction h with
  | member _ _ h => exact h.1
  | includes _ _ _ ih => exact ih

theorem feature_isSome_iff : (c.feature id).isSome ↔ id ∈ c.features.map Feature.id := by
  simp [feature]

theorem toList_of_getLast? {l : List Char} (h : l.getLast? = some '*') :
    l = l.dropLast ++ ['*'] := (dropLast_append_getLast? '*' h).symm

theorem mem_of_expandPattern {pattern : String} {ids : List String}
    (h : c.expandPattern pattern = .ok ids) : f ∈ ids ↔ c.Matches pattern f := by
  unfold expandPattern at h
  split at h
  · rename_i hcount
    split_ifs at h with hdeclared
    cases h
    rw [mem_singleton]
    constructor
    · rintro rfl
      exact ⟨feature_isSome_iff.1 hdeclared, .inl rfl⟩
    · rintro ⟨-, rfl | ⟨stem, hstem, -⟩⟩
      · rfl
      · rw [hstem] at hcount
        simp at hcount
  · rename_i hcount
    split_ifs at h with hlast
    cases h
    have hsplit := toList_of_getLast? hlast
    simp only [mem_map, mem_filter, isPrefixOf_iff_prefix, Matches]
    constructor
    · rintro ⟨feature, ⟨hmem, hstem⟩, rfl⟩
      exact ⟨⟨feature, hmem, rfl⟩, .inr ⟨_, hsplit, hstem⟩⟩
    · rintro ⟨⟨feature, hmem, rfl⟩, hmatch⟩
      refine ⟨feature, ⟨hmem, ?_⟩, rfl⟩
      rcases hmatch with hpattern | ⟨stem, hstem, hle⟩
      · rw [hpattern]
        exact dropLast_prefix _
      · rwa [hstem, dropLast_concat]
  · cases h

/-! ### Sound catalogs -/

variable (c)

/-- The pattern is a declared feature, or has a star at its end and nowhere else. -/
def Resolves (pattern : String) : Prop :=
  ('*' ∉ pattern.toList ∧ pattern ∈ c.featureIds) ∨
    ∃ stem, '*' ∉ stem ∧ pattern.toList = stem ++ ['*']

/-- A group includes another one. -/
def Includes (id inner : String) : Prop :=
  ∃ g, c.group id = some g ∧ inner ∈ g.members.includes

/-- Ids are unique and every reference resolves. -/
structure Sound : Prop where
  features_nodup : c.featureIds.Nodup
  groups_nodup : (c.groups.map FeatureGroup.id).Nodup
  tiers_nodup : (c.tiers.map Tier.id).Nodup
  groups_resolve : ∀ g ∈ c.groups, (∀ id ∈ g.members.includes, (c.group id).isSome = true) ∧
    ∀ pattern ∈ g.members.features, c.Resolves pattern
  tiers_resolve : ∀ t ∈ c.tiers, (∀ id ∈ t.groups, (c.group id).isSome = true) ∧
    ∀ pattern ∈ t.features, c.Resolves pattern
  acyclic : ∀ id, ¬ Relation.TransGen c.Includes id id
  depth : ∀ ids : List String, ids.IsChain c.Includes → ids.length ≤ maxGroupDepth + 1

/-- The levels suffice for everything below a group. -/
def Fits : ℕ → String → Prop
  | 0, _ => False
  | levels + 1, id => ∃ g, c.group id = some g ∧ ∀ inner ∈ g.members.includes, Fits levels inner

variable {c} {id inner pattern source : String} {levels : ℕ} {path : List String}

theorem mem_of_group (h : c.group id = some g) : g ∈ c.groups ∧ g.id = id :=
  ⟨mem_of_find?_eq_some h, by simpa using find?_some h⟩

theorem exists_expandPattern_iff :
    (∃ ids, c.expandPattern pattern = .ok ids) ↔ c.Resolves pattern := by
  unfold expandPattern Resolves
  split
  · rename_i hcount
    have hstar := count_eq_zero.1 hcount
    rw [featureIds, ← feature_isSome_iff]
    split_ifs with hdeclared
    · exact iff_of_true ⟨_, rfl⟩ (.inl ⟨hstar, hdeclared⟩)
    · refine iff_of_false (fun ⟨_, h⟩ => by cases h) ?_
      rintro (⟨-, h⟩ | ⟨stem, -, hstem⟩)
      · exact hdeclared h
      · exact hstar (by simp [hstem])
  · rename_i hcount
    split_ifs with hlast
    · have hsplit := toList_of_getLast? hlast
      rw [hsplit, count_append] at hcount
      exact iff_of_true ⟨_, rfl⟩ (.inr ⟨_, count_eq_zero.1 (by simpa using hcount), hsplit⟩)
    · refine iff_of_false (fun ⟨_, h⟩ => by cases h) ?_
      rintro (⟨hstar, -⟩ | ⟨stem, -, hstem⟩)
      · simp [count_eq_zero.2 hstar] at hcount
      · exact hlast (by simp [hstem])
  · rename_i hnone hone
    refine iff_of_false (fun ⟨_, h⟩ => by cases h) ?_
    rintro (⟨hstar, -⟩ | ⟨stem, hstar, hstem⟩)
    · exact hnone (count_eq_zero.2 hstar)
    · exact hone (by simp [hstem, count_eq_zero.2 hstar])

theorem requirePattern_eq_ok : c.requirePattern source pattern = .ok () ↔ c.Resolves pattern := by
  rw [← exists_expandPattern_iff, requirePattern, bind_eq_ok]
  simp [mapError_eq_ok]

theorem requireDistinct_eq_ok {seen ids : List String} :
    requireDistinct seen ids = .ok () ↔ ids.Nodup ∧ ∀ id ∈ ids, id ∉ seen := by
  induction ids generalizing seen with
  | nil => simp [requireDistinct]
  | cons id ids ih =>
    unfold requireDistinct
    split_ifs with hseen
    · exact iff_of_false (fun h => by cases h) fun h => h.2 id mem_cons_self hseen
    · rw [ih, nodup_cons]
      grind

theorem Fits.isSome (h : c.Fits (levels + 1) id) : (c.group id).isSome := by
  obtain ⟨g, hgroup, -⟩ := h
  rw [hgroup, Option.isSome_some]

/-- What suffices for a group suffices for those it includes, with a level to spare. -/
theorem Fits.includes (h : c.Fits (levels + 1) id) (hinner : c.Includes id inner) :
    c.Fits levels inner := by
  obtain ⟨g, hgroup, hfits⟩ := h
  obtain ⟨g', hgroup', hinner⟩ := hinner
  cases hgroup.symm.trans hgroup'
  exact hfits inner hinner

theorem Fits.succ (h : c.Fits levels id) : c.Fits (levels + 1) id := by
  induction levels generalizing id with
  | zero => exact h.elim
  | succ levels ih =>
    obtain ⟨g, hgroup, hfits⟩ := h
    exact ⟨g, hgroup, fun inner hinner => ih (hfits inner hinner)⟩

theorem Fits.reach (h : c.Fits levels id) (hreach : Relation.ReflTransGen c.Includes id inner) :
    c.Fits levels inner := by
  induction hreach with
  | refl => exact h
  | tail _ hstep ih =>
    cases levels with
    | zero => exact ih.elim
    | succ levels => exact (ih.includes hstep).succ

/-- No group that fits includes itself: each inclusion takes a level. -/
theorem Fits.acyclic (h : c.Fits levels id) : ¬ Relation.TransGen c.Includes id id := by
  induction levels with
  | zero => exact h.elim
  | succ levels ih =>
    intro hcycle
    obtain ⟨inner, hinner, hback⟩ := Relation.TransGen.head'_iff.1 hcycle
    exact ih ((h.includes hinner).reach hback) hcycle

/-- A group fits when no chain of inclusions below it has more groups than there are levels. -/
theorem fits_iff (hrefs : ∀ g ∈ c.groups, ∀ id ∈ g.members.includes, (c.group id).isSome)
    (hid : (c.group id).isSome) :
    c.Fits levels id ↔ ∀ ids, (id :: ids).IsChain c.Includes → ids.length < levels := by
  induction levels generalizing id with
  | zero => exact iff_of_false not_false fun h => absurd (h [] (.singleton id)) (lt_irrefl 0)
  | succ levels ih =>
    obtain ⟨g, hgroup⟩ := Option.isSome_iff_exists.1 hid
    constructor
    · rintro h (_ | ⟨inner, ids⟩) hchain
      · exact Nat.succ_pos levels
      · obtain ⟨hinner, hchain⟩ := isChain_cons_cons.1 hchain
        have hfits := h.includes hinner
        obtain ⟨_, hg, hmem⟩ := hinner
        exact Nat.succ_lt_succ ((ih (hrefs _ (mem_of_group hg).1 _ hmem)).1 hfits ids hchain)
    · intro h
      refine ⟨g, hgroup, fun inner hinner => ?_⟩
      refine (ih (hrefs g (mem_of_group hgroup).1 inner hinner)).2 fun ids hchain => ?_
      exact Nat.lt_of_succ_lt_succ (h (inner :: ids) (.cons_cons ⟨g, hgroup, hinner⟩ hchain))

theorem fits_of_walkGroup (h : c.walkGroup levels path id = .ok ()) : c.Fits levels id := by
  induction levels generalizing path id with
  | zero =>
    unfold walkGroup at h
    split_ifs at h
  | succ levels ih =>
    unfold walkGroup at h
    split_ifs at h
    split at h
    · cases h
    · rename_i g hgroup
      exact ⟨g, hgroup, fun inner hinner => ih (forM_eq_ok.1 h inner hinner)⟩

/-- The walk accepts a group that fits and from which the groups above it cannot be reached. -/
theorem walkGroup_of_fits (h : c.Fits levels id)
    (hpath : ∀ above ∈ path, ¬ Relation.ReflTransGen c.Includes id above) :
    c.walkGroup levels path id = .ok () := by
  induction levels generalizing path id with
  | zero => exact h.elim
  | succ levels ih =>
    obtain ⟨g, hgroup, hfits⟩ := h
    unfold walkGroup
    rw [if_neg fun hmem => hpath id hmem .refl, hgroup]
    refine forM_eq_ok.2 fun inner hinner => ih (hfits inner hinner) ?_
    have hstep : c.Includes id inner := ⟨g, hgroup, hinner⟩
    intro above habove hreach
    rcases mem_append.1 habove with habove | habove
    · exact hpath above habove (.head hstep hreach)
    · cases mem_singleton.1 habove
      have hself : c.Fits (levels + 1) id := ⟨g, hgroup, hfits⟩
      exact hself.acyclic (.head' hstep hreach)

theorem validate_eq_ok_iff : c.validate = .ok () ↔ c.Sound := by
  simp only [validate, seq_eq_ok, forM_eq_ok, requireDistinct_eq_ok, requireGroup,
    require_eq_ok, requirePattern_eq_ok, not_mem_nil, not_false_eq_true, implies_true,
    and_true]
  constructor
  · rintro ⟨hfeatures, hgroups, htiers, hmembers, hsold, hwalk⟩
    have hfits {id inner : String} (h : c.Includes id inner) : c.Fits (maxGroupDepth + 1) id := by
      obtain ⟨g, hgroup, -⟩ := h
      obtain ⟨hg, rfl⟩ := mem_of_group hgroup
      exact fits_of_walkGroup (hwalk g hg)
    refine ⟨hfeatures, hgroups, htiers, hmembers, hsold, fun id hcycle => ?_, ?_⟩
    · obtain ⟨inner, hinner, -⟩ := Relation.TransGen.head'_iff.1 hcycle
      exact (hfits hinner).acyclic hcycle
    · rintro (_ | ⟨id, _ | ⟨inner, ids⟩⟩) hchain
      · exact Nat.zero_le _
      · exact Nat.succ_le_succ (Nat.zero_le _)
      · have hfit := hfits (isChain_cons_cons.1 hchain).1
        exact (fits_iff (fun g hg => (hmembers g hg).1) hfit.isSome).1 hfit _ hchain
  · intro h
    refine ⟨h.features_nodup, h.groups_nodup, h.tiers_nodup, h.groups_resolve, h.tiers_resolve,
      fun g hg => walkGroup_of_fits ?_ (by simp)⟩
    refine (fits_iff (fun g hg => (h.groups_resolve g hg).1) ?_).2 fun ids hchain =>
      h.depth _ hchain
    simpa [group] using ⟨g, hg, rfl⟩

/-- A later catalog has every feature and every limit of this one. -/
def KeptBy (c later : Catalog) : Prop :=
  c.featureIds ⊆ later.featureIds ∧ c.limitKeys ⊆ later.limitKeys

instance : Trans KeptBy KeptBy KeptBy where
  trans h h' := ⟨fun _ hid => h'.1 (h.1 hid), fun _ hkey => h'.2 (h.2 hkey)⟩

/-- The check accepts the sound catalogs, and a chain of successors that are accepted one after the
other keeps everything that was published. -/
theorem validate_and_evolution_sound :
    (∀ c : Catalog, c.validate = .ok () ↔ c.Sound) ∧ ∀ catalogs : List Catalog,
        catalogs.IsChain (fun c proposed => c.validateEvolution proposed = .ok ()) →
          catalogs.Pairwise KeptBy := by
  refine ⟨fun c => validate_eq_ok_iff, fun catalogs hchain => (hchain.imp fun _ _ h => ?_).pairwise⟩
  simp only [validateEvolution, seq_eq_ok, forM_eq_ok, require_eq_ok] at h
  exact h.2.2

/-- A catalog with a feature, a group that has it, and a tier that sells the group. -/
def smallCatalog (version : UInt32) : Catalog where
  productId := "app"
  version
  features := [{ id := "export", label := "", description := none, deprecatedAt := none }]
  groups := [{ id := "all", label := "", members := { includes := [], features := ["export"] } }]
  tiers := [{ id := "pro", label := "", groups := ["all"], features := ["*"]
              limits := ⟨[("seats", 5)], by simp⟩, archivedAt := none }]

theorem smallCatalog_kept :
    (smallCatalog 1).Sound ∧ [smallCatalog 1, smallCatalog 2].Pairwise KeptBy :=
  ⟨(validate_and_evolution_sound.1 _).1 (by decide),
    validate_and_evolution_sound.2 _ (by simp; decide)⟩

end Catalog

end CopyLocker.Server
