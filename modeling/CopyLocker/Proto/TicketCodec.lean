import CopyLocker.Proto.Fields
import Mathlib.Data.Finset.Sort

/-!
# The codec of validation tickets

A validation ticket with all its fields and the entitlements that it carries, as they are written
and read (`artifacts.rs` and `entitlements.rs` of `copylocker-proto`). A ticket is read with the
limits of client-facing endpoints.

## Main results

* `Entitlements.fromValue_canon`, `ValidationTicket.fromValue_canon`: what is read from a canonical
  form.
* `ValidationTicket.within_toValue`: the limits of the reader, in terms of the ticket.
* `ValidationTicket.fromCanonical_toCanonical_iff`: which tickets are read back.
-/

namespace CopyLocker.Proto

open Foundation Cbor Proto.Field Result Value List

/-- Parsing limits for client-facing endpoints. -/
def clientLimits : Limits where
  maxDepth := 16
  maxItems := 1024
  maxString := 16 * 1024

namespace Codec

/-! ### Entitlements -/

/-- Which application versions a license covers. -/
inductive VersionScope
  | unlimited
  | semverRange (range : String)
  | releasedBefore (cutoff : Int64)
  | pinned (ids : List String)
  deriving DecidableEq

/-- The state of a subscription, as a client is told. -/
inductive SubscriptionState
  | active
  | pastDue
  | canceling
  | suspended
  deriving DecidableEq

/-- What a client is told of a subscription. -/
structure SubscriptionHint where
  state : SubscriptionState
  currentPeriodEnd : Int64
  fallbackProgressMonths : Option UInt32
  fallbackRequiredMonths : Option UInt32
  deriving DecidableEq

/-- The entitlements of a license: expanded, and without the catalog they come from. -/
structure Entitlements where
  features : Finset String
  limits : SortedMap String Int64
  tierId : String
  tierLabel : String
  catalogVersion : UInt32
  versionScope : Option VersionScope
  subscriptionHint : Option SubscriptionHint
  deriving DecidableEq

namespace VersionScope

def toValue : VersionScope → Value
  | unlimited => record [(0, some (.uint 0))]
  | semverRange range => record [(1, some (.text range))]
  | releasedBefore cutoff => record [(2, some (.int cutoff))]
  | pinned ids => record [(3, some (textArrayValue ids))]

/-- Exactly one variant key, or the value is ambiguous. -/
def fromValue (v : Value) : Except ProtoError VersionScope := do
  let entries ← Result.ofOption v.asMap (.codec .malformed)
  Result.require (entries.length = 1) (.codec .malformed)
  if (Field.opt v 0).isSome then return unlimited
  else if (Field.opt v 1).isSome then semverRange <$> Field.text v 1
  else if (Field.opt v 2).isSome then releasedBefore <$> Field.int v 2
  else if (Field.opt v 3).isSome then pinned <$> Field.textArray v 3
  else .error (.codec .unknownDiscriminant)

end VersionScope

namespace SubscriptionState

def code : SubscriptionState → UInt8
  | active => 0
  | pastDue => 1
  | canceling => 2
  | suspended => 3

def fromU8 (n : UInt8) : Option SubscriptionState :=
  match n.toNat with
  | 0 => some active
  | 1 => some pastDue
  | 2 => some canceling
  | 3 => some suspended
  | _ => none

end SubscriptionState

namespace SubscriptionHint

def fields (h : SubscriptionHint) : List (UInt64 × Option Value) :=
  [(0, some (.uint h.state.code.toUInt64)), (1, some (.int h.currentPeriodEnd)),
   (2, h.fallbackProgressMonths.map fun m => .uint m.toUInt64),
   (3, h.fallbackRequiredMonths.map fun m => .uint m.toUInt64)]

def toValue (h : SubscriptionHint) : Value := record h.fields

def fromValue (v : Value) : Except ProtoError SubscriptionHint := do
  let stateRaw ← Field.u8 v 0
  let state ← Result.ofOption (SubscriptionState.fromU8 stateRaw) (.codec .unknownDiscriminant)
  let currentPeriodEnd ← Field.int v 1
  let fallbackProgressMonths ← Field.optU32 v 2
  let fallbackRequiredMonths ← Field.optU32 v 3
  return {
    state
    currentPeriodEnd
    fallbackProgressMonths
    fallbackRequiredMonths
  }

end SubscriptionHint

/-- An optional field with its own decoder. -/
def optNested {α : Type} (v : Value) (key : UInt64) (decode : Value → Except ProtoError α) :
    Except ProtoError (Option α) :=
  match Field.opt v key with
  | none => .ok none
  | some w => some <$> decode w

namespace Entitlements

/-- The features in the order in which they are written. -/
abbrev sortedFeatures (e : Entitlements) : List String := e.features.sort (· ≤ ·)

def fields (e : Entitlements) : List (UInt64 × Option Value) :=
  [(0, some (textArrayValue e.sortedFeatures)),
   (1, some (textMap (e.limits.entries.map fun l => (l.1, .int l.2)))),
   (2, some (.text e.tierId)),
   (3, some (.text e.tierLabel)),
   (4, some (.uint e.catalogVersion.toUInt64)),
   (5, e.versionScope.map VersionScope.toValue),
   (6, e.subscriptionHint.map SubscriptionHint.toValue)]

def toValue (e : Entitlements) : Value := record e.fields

def fromValue (v : Value) : Except ProtoError Entitlements := do
  Result.require (v.asMap.isSome) (.codec .malformed)
  let featureList ← Field.textArray v 0
  -- silently collapsing duplicates would let two encodings mean one value
  Result.require (featureList.toFinset.card = featureList.length) (.codec .notCanonical)
  let limits ← Field.textEntries v 1 Value.asInt
  let tierId ← Field.text v 2
  let tierLabel ← Field.text v 3
  let catalogVersion ← Field.u32 v 4
  let versionScope ← optNested v 5 VersionScope.fromValue
  let subscriptionHint ← optNested v 6 SubscriptionHint.fromValue
  return {
    features := featureList.toFinset
    limits
    tierId
    tierLabel
    catalogVersion
    versionScope
    subscriptionHint
  }

end Entitlements

/-! ### Tickets -/

/-- Per-validation ticket. -/
structure ValidationTicket where
  protoVer : UInt8
  suiteId : SuiteId
  machineId : MachineId
  nonceCEcho : ByteId 32
  serverNonce : ByteId 32
  serverTime : Int64
  nextRefreshAfter : Int64
  notAfter : Int64
  revocationEpoch : UInt64
  verdict : Verdict
  entitlements : Option Entitlements
  epochId : EpochId
  suspicionScore : Option UInt8
  securityFloor : UInt64
  releaseStatus : Option UInt8
  wrappedKeks : Option (SortedMap String Bytes)
  refreshNow : Option Bool
  deriving DecidableEq

/-- The number of a verdict. -/
def verdictCode : Verdict → UInt8
  | .ok => 0
  | .needsReactivation => 1
  | .versionOutOfScope => 2

/-- The verdict of a number. -/
def verdictFromU8 (n : UInt8) : Option Verdict :=
  match n.toNat with
  | 0 => some .ok
  | 1 => some .needsReactivation
  | 2 => some .versionOutOfScope
  | _ => none

namespace ValidationTicket

def fields (t : ValidationTicket) : List (UInt64 × Option Value) :=
  [(0, some (.uint t.protoVer.toUInt64)), (1, some (fixedBytes t.suiteId)),
   (2, some (fixedBytes t.machineId)),
   (3, some (fixedBytes t.nonceCEcho)),
   (4, some (fixedBytes t.serverNonce)),
   (5, some (.int t.serverTime)),
   (6, some (.int t.nextRefreshAfter)),
   (7, some (.int t.notAfter)),
   (8, some (.uint t.revocationEpoch)),
   (9, some (.uint (verdictCode t.verdict).toUInt64)),
   (10, t.entitlements.map Entitlements.toValue),
   (11, some (fixedBytes t.epochId)),
   (12, t.suspicionScore.map fun s => .uint s.toUInt64),
   (13, some (.uint t.securityFloor)),
   (14, t.releaseStatus.map fun s => .uint s.toUInt64),
   (15, t.wrappedKeks.map encTextBytesMap),
   (16, t.refreshNow.map .bool)]

def toValue (t : ValidationTicket) : Value := record t.fields

def fromValue (v : Value) : Except ProtoError ValidationTicket := do
  let verdictRaw ← Field.u8 v 9
  let suspicionScore ← Field.optU8 v 12
  Result.require (suspicionScore.all (· ≤ 100) = true) (Field.outOfRange 12)
  let protoVer ← Field.u8 v 0
  let suiteId ← Field.fixed v 1 4
  let machineId ← Field.fixed v 2 16
  let nonceCEcho ← Field.fixed v 3 32
  let serverNonce ← Field.fixed v 4 32
  let serverTime ← Field.int v 5
  let nextRefreshAfter ← Field.int v 6
  let notAfter ← Field.int v 7
  let revocationEpoch ← Field.uint v 8
  let verdict ← Result.ofOption (verdictFromU8 verdictRaw) (.codec .unknownDiscriminant)
  let entitlements ← optNested v 10 Entitlements.fromValue
  let epochId ← Field.fixed v 11 8
  let securityFloor ← Field.uint v 13
  let releaseStatus ← Field.optU8 v 14
  let wrappedKeks ← Field.optTextBytesMap v 15
  let refreshNow ← Field.optional v 16 Value.asBool
  return {
    protoVer
    suiteId
    machineId
    nonceCEcho
    serverNonce
    serverTime
    nextRefreshAfter
    notAfter
    revocationEpoch
    verdict
    entitlements
    epochId
    suspicionScore
    securityFloor
    releaseStatus
    wrappedKeks
    refreshNow
  }

/-- A ticket is a map with these fields. -/
def parse (v : Value) : Except ProtoError ValidationTicket :=
  Result.require (v.asMap.isSome) (.codec .malformed) >>= fun _ => fromValue v

/-- The encoding of a ticket. -/
def toCanonical (t : ValidationTicket) : Bytes := Proto.toCanonical t.toValue

/-- A structural failure inside the artifact is a codec failure. -/
def codecError : ProtoError → CodecError
  | .codec error => error
  | _ => .malformed

/-- Read a ticket under the client's limits. -/
def fromCanonical (bytes : Bytes) : Except CodecError ValidationTicket :=
  decodeCanonical bytes clientLimits >>= fun v => (parse v).mapError codecError

end ValidationTicket

/-! ### Reading what was written -/

section Record

variable {fields : List (UInt64 × Option Value)} {key : UInt64}

/-- The field at a position of a record. -/
theorem get_at (h : (fields.map Prod.fst).Nodup) (i : ℕ) {o : Option Value}
    (hfield : fields[i]? = some (key, o)) :
    (bytewise.canon (record fields)).get key = o.map bytewise.canon :=
  bytewise.get_canon_record h (mem_of_getElem? hfield)

variable (fields : List (UInt64 × Option Value))

theorem asMap_canon_record : (bytewise.canon (record fields)).asMap.isSome := by
  rw [record, bytewise.canon_map]
  rfl

theorem canon_textArrayValue (texts : List String) :
    bytewise.canon (textArrayValue texts) = textArrayValue texts := by
  rw [textArrayValue, bytewise.canon_array, map_map]
  rfl

theorem optNested_of_get {α : Type} {v : Value} {encode : α → Value}
    {decode : Value → Except ProtoError α} {o : Option α}
    (h : v.get key = (o.map encode).map bytewise.canon)
    (hnull : ∀ a, bytewise.canon (encode a) ≠ .null)
    (hdecode : ∀ a, decode (bytewise.canon (encode a)) = .ok a) :
    optNested v key decode = .ok o := by
  unfold optNested
  cases o with
  | none => rw [opt_of_get_none h]
  | some a =>
    rw [opt_of_get h (hnull a)]
    exact map_eq_ok.2 ⟨a, hdecode a, rfl⟩

theorem canon_record_ne_null : bytewise.canon (record fields) ≠ .null := by
  rw [record, bytewise.canon_map]
  exact Value.noConfusion

end Record

private theorem int_ne_null (n : Int64) : Value.int n ≠ .null := by
  unfold Value.int
  split_ifs <;> exact Value.noConfusion

theorem VersionScope.fromValue_canon (scope : VersionScope) :
    fromValue (bytewise.canon scope.toValue) = .ok scope := by
  cases scope with
  | unlimited => rfl
  | semverRange range => rfl
  | releasedBefore cutoff =>
    have hcanon : bytewise.canon (releasedBefore cutoff).toValue = .map [(.uint 2, .int cutoff)] :=
      congrArg (fun w => map [(.uint 2, w)]) (canon_int bytewise cutoff)
    have hopt : opt (.map [(.uint 2, .int cutoff)]) 2 = some (.int cutoff) :=
      opt_of_get rfl (int_ne_null cutoff)
    have hstep : fromValue (.map [(.uint 2, .int cutoff)]) =
        releasedBefore <$> int (.map [(.uint 2, .int cutoff)]) 2 := by
      change (if (opt _ 2).isSome then _ else _) = _
      rw [hopt]
      rfl
    rw [hcanon, hstep]
    exact map_eq_ok.2 ⟨cutoff, required_of_get rfl (asInt_int cutoff), rfl⟩
  | pinned ids =>
    have hcanon : bytewise.canon (pinned ids).toValue = .map [(.uint 3, textArrayValue ids)] :=
      congrArg (fun w => map [(.uint 3, w)]) (canon_textArrayValue ids)
    rw [hcanon]
    exact map_eq_ok.2 ⟨ids, textArray_of_get rfl, rfl⟩

theorem SubscriptionHint.fields_nodup (h : SubscriptionHint) : (h.fields.map Prod.fst).Nodup := by
  change ([0, 1, 2, 3] : List UInt64).Nodup
  decide

theorem SubscriptionHint.fromValue_canon (h : SubscriptionHint) :
    fromValue (bytewise.canon h.toValue) = .ok h := by
  have hnodup := h.fields_nodup
  have hstate := u8_of_get (get_at hnodup 0 rfl)
  have hend := get_at hnodup 1 rfl
  rw [Option.map_some, canon_int] at hend
  have hprogress := get_at hnodup 2 rfl
  rw [Option.map_map] at hprogress
  have hrequired := get_at hnodup 3 rfl
  rw [Option.map_map] at hrequired
  refine bind_eq_ok.2 ⟨_, hstate, bind_eq_ok.2 ⟨h.state, ?_, ?_⟩⟩
  · exact ofOption_eq_ok.2 (by cases h.state <;> rfl)
  refine bind_eq_ok.2 ⟨_, required_of_get hend (asInt_int _), ?_⟩
  refine bind_eq_ok.2 ⟨_, optU32_of_get hprogress, ?_⟩
  exact bind_eq_ok.2 ⟨_, optU32_of_get hrequired, rfl⟩

variable (e : Entitlements)

theorem Entitlements.fields_nodup : (e.fields.map Prod.fst).Nodup := by
  change ([0, 1, 2, 3, 4, 5, 6] : List UInt64).Nodup
  decide

theorem Entitlements.fromValue_canon : fromValue (bytewise.canon e.toValue) = .ok e := by
  have hnodup := e.fields_nodup
  have hfeatures := get_at hnodup 0 rfl
  rw [Option.map_some, canon_textArrayValue] at hfeatures
  have hlimits := get_at hnodup 1 rfl
  obtain ⟨l, hperm, hl⟩ := bytewise.canon_textMap Value.int e.limits.entries
  simp only [canon_int] at hl
  rw [Option.map_some, hl] at hlimits
  refine bind_eq_ok.2 ⟨(), require_eq_ok.2 (asMap_canon_record _), ?_⟩
  refine bind_eq_ok.2 ⟨_, textArray_of_get hfeatures, ?_⟩
  refine bind_eq_ok.2 ⟨(), require_eq_ok.2 ?_, ?_⟩
  · rw [Finset.sort_toFinset, Finset.length_sort]
  rw [Finset.sort_toFinset]
  refine bind_eq_ok.2 ⟨_, textEntries_of_get hlimits hperm asInt_int, ?_⟩
  refine bind_eq_ok.2 ⟨_, required_of_get (get_at hnodup 2 rfl) rfl, ?_⟩
  refine bind_eq_ok.2 ⟨_, required_of_get (get_at hnodup 3 rfl) rfl, ?_⟩
  refine bind_eq_ok.2 ⟨_, u32_of_get (get_at hnodup 4 rfl), ?_⟩
  refine bind_eq_ok.2 ⟨_, optNested_of_get (get_at hnodup 5 rfl) ?_
    VersionScope.fromValue_canon, ?_⟩
  · exact fun scope => by cases scope <;> exact canon_record_ne_null _
  refine bind_eq_ok.2 ⟨_, optNested_of_get (get_at hnodup 6 rfl)
    (fun h => canon_record_ne_null h.fields) SubscriptionHint.fromValue_canon, ?_⟩
  rfl

variable (t : ValidationTicket)

namespace ValidationTicket

theorem fields_nodup : (t.fields.map Prod.fst).Nodup := by
  change ([0, 1, 2, 3, 4, 5, 6, 7, 8, 9, 10, 11, 12, 13, 14, 15, 16] : List UInt64).Nodup
  decide

theorem optTextBytesMap_canon :
    optTextBytesMap (bytewise.canon t.toValue) 15 = .ok t.wrappedKeks := by
  have hget := get_at t.fields_nodup 15 rfl
  unfold optTextBytesMap
  cases hkeks : t.wrappedKeks with
  | none =>
    rw [hkeks] at hget
    rw [toValue, opt_of_get_none hget]
  | some keks =>
    obtain ⟨l, hperm, hl⟩ := bytewise.canon_textMap bytes keks.entries
    have hkey : (bytewise.canon t.toValue).get 15 =
        some (textMap (l.map fun e => (e.1, bytes e.2))) := by
      rw [hkeks] at hget
      exact hget.trans (congrArg some hl)
    rw [opt_of_get hkey Value.noConfusion]
    exact map_eq_ok.2 ⟨keks, textEntries_of_get hkey hperm fun _ => rfl, rfl⟩

theorem optional_bool_canon : optional (bytewise.canon t.toValue) 16 asBool = .ok t.refreshNow := by
  have hget := get_at t.fields_nodup 16 rfl
  rw [Option.map_map] at hget
  have hread : optional (bytewise.canon t.toValue) 16 asBool = .ok (t.refreshNow.map id) :=
    optional_of_get hget fun b _ => ⟨Value.noConfusion, rfl⟩
  rwa [Option.map_id] at hread

/-- A ticket is read from its canonical form unless its score is out of range. -/
theorem fromValue_canon : fromValue (bytewise.canon t.toValue) =
    (require (t.suspicionScore.all (· ≤ 100)) (outOfRange 12) >>= fun _ =>
      .ok t) := by
  have hnodup := t.fields_nodup
  have hint {n : Int64} {key : UInt64} (i : ℕ) (h : t.fields[i]? = some (key, some (.int n))) :
      int (bytewise.canon t.toValue) key = .ok n := by
    have hget := get_at hnodup i h
    rw [Option.map_some, canon_int] at hget
    exact required_of_get hget (asInt_int n)
  have hscore {o : Option UInt8} {key : UInt64} (i : ℕ)
      (h : t.fields[i]? = some (key, o.map fun s => .uint s.toUInt64)) :
      optU8 (bytewise.canon t.toValue) key = .ok o := by
    have hget := get_at hnodup i h
    rw [Option.map_map] at hget
    exact optU8_of_get hget
  have huint {n : UInt64} {key : UInt64} (i : ℕ) (h : t.fields[i]? = some (key, some (.uint n))) :
      uint (bytewise.canon t.toValue) key = .ok n :=
    required_of_get (get_at hnodup i h) rfl
  have hu8 {n : UInt8} {key : UInt64} (i : ℕ)
      (h : t.fields[i]? = some (key, some (.uint n.toUInt64))) :
      u8 (bytewise.canon t.toValue) key = .ok n :=
    u8_of_get (get_at hnodup i h)
  have hfixed {n : ℕ} {id : ByteId n} {key : UInt64} (i : ℕ)
      (h : t.fields[i]? = some (key, some (fixedBytes id))) :
      fixed (bytewise.canon t.toValue) key n = .ok id :=
    fixed_of_get (get_at hnodup i h)
  have hentitlements :
      optNested (bytewise.canon t.toValue) 10 Entitlements.fromValue = .ok t.entitlements :=
    optNested_of_get (get_at hnodup 10 rfl) (fun e => canon_record_ne_null e.fields)
      Entitlements.fromValue_canon
  have hverdict : ofOption (verdictFromU8 (verdictCode t.verdict))
      (ProtoError.codec .unknownDiscriminant) = .ok t.verdict :=
    ofOption_eq_ok.2 (by cases t.verdict <;> rfl)
  unfold fromValue
  rw [hu8 9 rfl, hscore 12 rfl, hu8 0 rfl, hfixed 1 rfl, hfixed 2 rfl, hfixed 3 rfl, hfixed 4 rfl,
    hint 5 rfl, hint 6 rfl, hint 7 rfl, huint 8 rfl, hentitlements, hfixed 11 rfl, huint 13 rfl,
    hscore 14 rfl, optTextBytesMap_canon, optional_bool_canon]
  refine congrArg (require _ _ >>= ·) (funext fun _ => ?_)
  change (ofOption (verdictFromU8 (verdictCode t.verdict)) _ >>= _) = _
  exact bind_eq_ok.2 ⟨t.verdict, hverdict, rfl⟩

/-! ### Limits -/

end ValidationTicket

/-- The texts of a scope are within the limits. -/
def VersionScope.Fits (limits : Limits) : VersionScope → Prop
  | unlimited => True
  | semverRange range => (utf8 range).length ≤ limits.maxString.toNat
  | releasedBefore _ => True
  | pinned ids => ids.length ≤ limits.maxItems.toNat ∧
      ∀ id ∈ ids, (utf8 id).length ≤ limits.maxString.toNat

theorem VersionScope.Fits.mono {limits wider : Limits} {scope : VersionScope}
    (h : scope.Fits limits) (hitems : limits.maxItems.toNat ≤ wider.maxItems.toNat)
    (hstring : limits.maxString.toNat ≤ wider.maxString.toNat) : scope.Fits wider := by
  cases scope with
  | unlimited | releasedBefore => trivial
  | semverRange range => exact h.trans hstring
  | pinned ids => exact ⟨h.1.trans hitems, fun id hid => (h.2 id hid).trans hstring⟩

/-- The lists, maps and texts of entitlements are within the limits. -/
structure Entitlements.Fits (limits : Limits) (e : Entitlements) : Prop where
  featureCount : e.features.card ≤ limits.maxItems.toNat
  featureIds : ∀ f ∈ e.features, (utf8 f).length ≤ limits.maxString.toNat
  limitCount : e.limits.keys.length ≤ limits.maxItems.toNat
  limitKeys : ∀ k ∈ e.limits.keys, (utf8 k).length ≤ limits.maxString.toNat
  tierId : (utf8 e.tierId).length ≤ limits.maxString.toNat
  tierLabel : (utf8 e.tierLabel).length ≤ limits.maxString.toNat
  versionScope : ∀ scope ∈ e.versionScope, scope.Fits limits

/-- Wrapped keys are within the limits. -/
structure KeksFit (limits : Limits) (keks : SortedMap String Bytes) : Prop where
  count : keks.entries.length ≤ limits.maxItems.toNat
  entries : ∀ e ∈ keks.entries, (utf8 e.1).length ≤ limits.maxString.toNat ∧
    e.2.length ≤ limits.maxString.toNat

/-- The variable parts of a ticket are within the limits. -/
structure ValidationTicket.Fits (limits : Limits) (t : ValidationTicket) : Prop where
  entitlements : ∀ e ∈ t.entitlements, e.Fits limits
  wrappedKeks : ∀ keks ∈ t.wrappedKeks, KeksFit limits keks

section Within

variable {limits : Limits} {levels : ℕ}

theorem within_int (n : Int64) : Within limits (levels + 1) (.int n) := by
  unfold Value.int
  split_ifs
  · exact .nint levels _
  · exact .uint levels _

theorem within_textArrayValue {texts : List String} :
    Within limits (levels + 2) (textArrayValue texts) ↔ texts.length ≤ limits.maxItems.toNat ∧
      ∀ s ∈ texts, (utf8 s).length ≤ limits.maxString.toNat := by
  rw [textArrayValue, within_array, length_map]
  simp [within_text]

theorem VersionScope.within_toValue (hitems : 17 ≤ limits.maxItems.toNat) (scope : VersionScope) :
    Within limits (levels + 3) scope.toValue ↔ scope.Fits limits := by
  have hsingle (key : UInt64) (v : Value) :
      Within limits (levels + 3) (record [(key, some v)]) ↔ Within limits (levels + 2) v := by
    rw [within_record (Nat.le_trans (by simp) hitems)]
    simp
  cases scope with
  | unlimited => exact (hsingle 0 _).trans (iff_of_true (.uint _ _) trivial)
  | semverRange range => exact (hsingle 1 _).trans within_text
  | releasedBefore cutoff => exact (hsingle 2 _).trans (iff_of_true (within_int _) trivial)
  | pinned ids => exact (hsingle 3 _).trans within_textArrayValue

theorem SubscriptionHint.within_toValue (hitems : 17 ≤ limits.maxItems.toNat)
    (h : SubscriptionHint) : Within limits (levels + 2) h.toValue := by
  refine (within_record (Nat.le_trans (by simp [fields]) hitems)).2 ?_
  simp only [fields, forall_mem_cons]
  simp [within_int, Within.uint]

theorem Entitlements.within_toValue (hitems : 17 ≤ limits.maxItems.toNat) (e : Entitlements) :
    Within limits (levels + 4) e.toValue ↔ e.Fits limits := by
  have hlimits :
      Within limits (levels + 3) (textMap (e.limits.entries.map fun l => (l.1, .int l.2))) ↔
      e.limits.keys.length ≤ limits.maxItems.toNat ∧
        ∀ k ∈ e.limits.keys, (utf8 k).length ≤ limits.maxString.toNat := by
    rw [within_textMap, SortedMap.keys]
    simp only [length_map, forall_mem_map, within_int, and_true]
  rw [toValue, within_record (Nat.le_trans (by simp [fields]) hitems)]
  simp only [fields, forall_mem_cons, Option.mem_some_iff, forall_eq', hlimits,
    within_textArrayValue, within_text, Finset.length_sort, Finset.mem_sort, Option.forall_mem_map,
    VersionScope.within_toValue hitems, SubscriptionHint.within_toValue hitems]
  constructor
  · rintro ⟨⟨hfeatures, hids⟩, ⟨hcount, hkeys⟩, hid, hlabel, -, hscope, -⟩
    exact ⟨hfeatures, hids, hcount, hkeys, hid, hlabel, hscope⟩
  · rintro ⟨hfeatures, hids, hcount, hkeys, hid, hlabel, hscope⟩
    exact ⟨⟨hfeatures, hids⟩, ⟨hcount, hkeys⟩, hid, hlabel, .uint _ _, hscope,
      fun _ _ => trivial, fun _ h => absurd h not_mem_nil⟩

theorem within_encTextBytesMap {keks : SortedMap String Bytes} :
    Within limits (levels + 2) (encTextBytesMap keks) ↔ KeksFit limits keks := by
  rw [encTextBytesMap, within_textMap]
  simp only [length_map, forall_mem_map, within_bytes]
  exact ⟨fun h => ⟨h.1, h.2⟩, fun h => ⟨h.count, h.entries⟩⟩

/-- The limits of the reader, in terms of the ticket. -/
theorem ValidationTicket.within_toValue (hitems : 17 ≤ limits.maxItems.toNat)
    (hstring : 32 ≤ limits.maxString.toNat) (t : ValidationTicket) :
    Within limits (levels + 5) t.toValue ↔ t.Fits limits := by
  have hfixed {n : ℕ} (hn : n ≤ 32) (id : ByteId n) : Within limits (levels + 4) (fixedBytes id) :=
    within_bytes.2 (by rw [length_toBigEndian]; exact hn.trans hstring)
  rw [toValue, within_record (Nat.le_trans (by simp [fields]) hitems)]
  simp only [fields, forall_mem_cons, Option.mem_some_iff, forall_eq', Option.forall_mem_map,
    Entitlements.within_toValue hitems, within_encTextBytesMap, within_int, true_and]
  constructor
  · rintro ⟨-, -, -, -, -, -, -, hentitlements, -, -, -, -, hkeks, -⟩
    exact ⟨hentitlements, hkeks⟩
  · rintro ⟨hentitlements, hkeks⟩
    exact ⟨.uint _ _, hfixed (by decide) _, hfixed (by decide) _, hfixed (by decide) _,
      hfixed (by decide) _, .uint _ _, .uint _ _, hentitlements, hfixed (by decide) _,
      fun _ _ => .uint _ _, .uint _ _, fun _ _ => .uint _ _, hkeks, fun _ _ => .bool _ _, nofun⟩

end Within

section Unique

theorem unique_textArrayValue (texts : List String) : bytewise.Unique (textArrayValue texts) :=
  keysPairwise_array.2 (forall_mem_map.2 fun s _ => .text s)

theorem VersionScope.unique_toValue (scope : VersionScope) : bytewise.Unique scope.toValue := by
  have hsingle {key : UInt64} {v : Value} (hv : bytewise.Unique v) :
      bytewise.Unique (record [(key, some v)]) :=
    bytewise.unique_record (nodup_singleton _) (by simpa using hv)
  cases scope with
  | unlimited => exact hsingle (.uint 0)
  | semverRange range => exact hsingle (.text range)
  | releasedBefore cutoff => exact hsingle (unique_int bytewise cutoff)
  | pinned ids => exact hsingle (unique_textArrayValue ids)

theorem SubscriptionHint.unique_toValue (h : SubscriptionHint) : bytewise.Unique h.toValue := by
  refine bytewise.unique_record h.fields_nodup ?_
  simp only [fields, forall_mem_cons, Option.mem_some_iff, forall_eq', Option.forall_mem_map]
  exact ⟨.uint _, unique_int _ _, fun _ _ => .uint _, fun _ _ => .uint _, nofun⟩

theorem Entitlements.unique_toValue : bytewise.Unique e.toValue := by
  refine bytewise.unique_record e.fields_nodup ?_
  simp only [fields, forall_mem_cons, Option.mem_some_iff, forall_eq', Option.forall_mem_map]
  have hkeys : ((e.limits.entries.map fun l => (l.1, Value.int l.2)).map Prod.fst).Nodup := by
    rw [map_map]
    exact e.limits.nodup_keys
  exact ⟨unique_textArrayValue _, bytewise.unique_textMap hkeys
      (forall_mem_map.2 fun l _ => Value.unique_int _ l.2), .text _, .text _, .uint _,
    fun scope _ => scope.unique_toValue, fun h _ => h.unique_toValue, nofun⟩

theorem ValidationTicket.unique_toValue : bytewise.Unique t.toValue := by
  refine bytewise.unique_record t.fields_nodup ?_
  have hkeks (keks : SortedMap String Bytes) : bytewise.Unique (encTextBytesMap keks) := by
    refine bytewise.unique_textMap ?_ (forall_mem_map.2 fun e _ => .bytes e.2)
    rw [map_map]
    exact keks.nodup_keys
  simp only [fields, forall_mem_cons, Option.mem_some_iff, forall_eq', Option.forall_mem_map]
  exact ⟨.uint _, .bytes _, .bytes _, .bytes _, .bytes _, unique_int _ _,
    unique_int _ _, unique_int _ _, .uint _, .uint _, fun e _ => e.unique_toValue,
    .bytes _, fun _ _ => .uint _, .uint _, fun _ _ => .uint _, fun keks _ => hkeks keks,
    fun _ _ => .bool _, nofun⟩

end Unique

/-- Limits that only ask for lengths which a head can carry. -/
def wideLimits : Limits where
  maxDepth := 16
  maxItems := 0xffffffffffffffff
  maxString := 0xffffffffffffffff

theorem ValidationTicket.parse_canon {t t' : ValidationTicket} :
    parse (bytewise.canon t.toValue) = .ok t' ↔ (∀ s ∈ t.suspicionScore, s ≤ 100) ∧ t' = t := by
  have hall : t.suspicionScore.all (· ≤ 100) ↔ ∀ s ∈ t.suspicionScore, s ≤ 100 := by
    simp [Option.all_eq_true_iff_get, Option.mem_def, Option.eq_some_iff_get_eq]
  rw [parse, bind_eq_ok, fromValue_canon, ← hall]
  constructor
  · rintro ⟨_, -, h⟩
    obtain ⟨_, hscore, h⟩ := bind_eq_ok.1 h
    exact ⟨require_eq_ok.1 hscore, (Except.ok.inj h).symm⟩
  · rintro ⟨hscore, rfl⟩
    refine ⟨(), require_eq_ok.2 (asMap_canon_record t'.fields), ?_⟩
    exact bind_eq_ok.2 ⟨(), require_eq_ok.2 hscore, rfl⟩

/-- A ticket is read back exactly if it is within the limits of clients and its score in range. -/
theorem ValidationTicket.fromCanonical_toCanonical_iff {t t' : ValidationTicket}
    (hwide : t.Fits wideLimits) : fromCanonical t.toCanonical = .ok t' ↔
      (t.Fits clientLimits ∧ ∀ s ∈ t.suspicionScore, s ≤ 100) ∧ t' = t := by
  have hlengths : Within wideLimits (12 + 5) t.toValue :=
    (within_toValue (by decide) (by decide) t).2 hwide
  have hwithin : Within clientLimits (12 + 5) t.toValue ↔ t.Fits clientLimits :=
    within_toValue (by decide) (by decide) t
  have hdecode (w : Value) : decodeCanonical t.toCanonical clientLimits = .ok w ↔
      t.Fits clientLimits ∧ w = bytewise.canon t.toValue := by
    rw [toCanonical, decodeCanonical_toCanonical_iff hlengths.representable]
    exact and_congr_left' ((and_iff_left t.unique_toValue).trans hwithin)
  have hparse : ((parse (bytewise.canon t.toValue)).mapError codecError = .ok t') ↔
      (∀ s ∈ t.suspicionScore, s ≤ 100) ∧ t' = t := by
    rw [mapError_eq_ok, parse_canon]
  unfold fromCanonical
  rw [bind_eq_ok]
  constructor
  · rintro ⟨w, hw, h⟩
    obtain ⟨hfits, rfl⟩ := (hdecode w).1 hw
    obtain ⟨hscore, rfl⟩ := hparse.1 h
    exact ⟨⟨hfits, hscore⟩, rfl⟩
  · rintro ⟨⟨hfits, hscore⟩, rfl⟩
    exact ⟨_, (hdecode _).2 ⟨hfits, rfl⟩, hparse.2 ⟨hscore, rfl⟩⟩

end Codec

end CopyLocker.Proto
