import CopyLocker.Foundation.SortedMap
import CopyLocker.Proto.Cbor
import CopyLocker.Worker.Webhook
import Mathlib.Data.String.Basic

/-!
# Snapshots of JSON values

Configurations are stored as canonical CBOR (`json_cbor.rs`). The conversion to CBOR checks the
limits of the reader at every level, and refuses numbers that are not safe integers. So every
snapshot is read back (`snapshot_reads_back`).

As in `CopyLocker.Proto.Cbor`, the levels that are left are counted: the source's depth `d` is
`max_depth + 1 - d` levels.
-/

namespace CopyLocker.Worker.JsonCbor

open Foundation Cbor Proto List

/-- The members of every object are in the order of their keys, each key once. -/
inductive Ordered : Json → Prop
  | null : Ordered .null
  | bool (b : Bool) : Ordered (.bool b)
  | integer (n : ℤ) : Ordered (.integer n)
  | float : Ordered .float
  | string (s : String) : Ordered (.string s)
  | array {items : List Json} (h : ∀ item ∈ items, Ordered item) : Ordered (.array items)
  | object {members : List (String × Json)} (hkeys : members.Pairwise fun e e' => e.1 < e'.1)
    (h : ∀ e ∈ members, Ordered e.2) : Ordered (.object members)

/-- A value of `serde_json`, whose objects are ordered maps. -/
abbrev Document := { json : Json // Ordered json }

/-! ### The conversions -/

/-- A safe integer. -/
def fromInteger (n : ℤ) : Option Value :=
  if 0 ≤ n then if n ≤ maxSafeInteger then some (.uint (UInt64.ofNat n.toNat)) else none
  else if -maxSafeInteger ≤ n then some (.int (Int64.ofInt n)) else none

/-- Convert a document to CBOR, within the limits. -/
def fromJson (limits : Limits) : ℕ → Json → Option Value
  | 0, _ => none
  | _ + 1, .null => some .null
  | _ + 1, .bool b => some (.bool b)
  | _ + 1, .integer n => fromInteger n
  | _ + 1, .float => none
  | _ + 1, .string s => if (utf8 s).length ≤ limits.maxString.toNat then some (.text s) else none
  | levels + 1, .array items =>
    if limits.maxItems.toNat < items.length then none
    else (items.mapM (fromJson limits levels)).map .array
  | levels + 1, .object members =>
    if limits.maxItems.toNat < members.length then none
    else (members.mapM fun e =>
      if (utf8 e.1).length ≤ limits.maxString.toNat then (fromJson limits levels e.2).map (e.1, ·)
      else none).map textMap

mutual

/-- Convert back what has a counterpart. -/
def toJson : Value → Option Json
  | .uint n => if n.toNat ≤ maxSafeInteger then some (.integer n.toNat) else none
  | .nint n => ((Value.nint n).asInt.filter fun i => isSafeInteger i.toInt).map (.integer ·.toInt)
  | .bytes _ => none
  | .text s => some (.string s)
  | .array items => (toItems items).map .array
  | .map entries => (toMembers .empty entries).map (.object ·.entries)
  | .bool b => some (.bool b)
  | .null => some .null

def toItems : List Value → Option (List Json)
  | [] => some []
  | v :: vs => (toJson v).bind fun item => (toItems vs).map (item :: ·)

/-- The members are inserted one after the other; a key that is there is an error. -/
def toMembers (members : SortedMap String Json) :
    List (Value × Value) → Option (SortedMap String Json)
  | [] => some members
  | (k, v) :: entries =>
    k.asText.bind fun key => (toJson v).bind fun value =>
      if key ∈ members.keys then none else toMembers (members.insert key value) entries

end

/-! ### What is converted is read back -/

/-- The value is within the limits at a level, and is converted back once it is read. -/
structure ReadsAs (limits : Limits) (levels : ℕ) (v : Value) (json : Json) : Prop where
  within : Within limits levels v
  unique : bytewise.Unique v
  converted : toJson (bytewise.canon v) = some json

variable {limits : Limits} {levels : ℕ} {v : Value}

theorem ReadsAs.of_fromInteger {n : ℤ} (h : fromInteger n = some v) :
    ReadsAs limits (levels + 1) v (.integer n) := by
  unfold fromInteger at h
  split_ifs at h with hsign hle hge <;> obtain rfl := Option.some.inj h
  · have hn : ((UInt64.ofNat n.toNat).toNat : ℤ) = n := by
      rw [toNat_ofNat_of_lt (by rw [maxSafeInteger] at hle; omega), Int.toNat_of_nonneg hsign]
    refine ⟨.uint _ _, .uint _, ?_⟩
    change toJson (.uint _) = _
    rw [toJson, hn, if_pos hle]
  · have hn : (Int64.ofInt n).toInt = n :=
      Int64.toInt_ofInt_of_le (by rw [maxSafeInteger] at hge; omega) (by omega)
    have hneg : Int64.ofInt n < 0 := by
      rw [Int64.lt_iff_toInt_lt, hn, Int64.toInt_zero]
      omega
    have hsafe : isSafeInteger n :=
      Bool.and_eq_true_iff.2 ⟨decide_eq_true hge, decide_eq_true (by rw [maxSafeInteger]; omega)⟩
    have hback := Value.asInt_int (Int64.ofInt n)
    refine ⟨?_, Value.unique_int bytewise _, ?_⟩
    · rw [Value.int, if_pos hneg]
      exact .nint _ _
    · rw [Value.canon_int]
      rw [Value.int, if_pos hneg] at hback ⊢
      rw [toJson, hback, Option.filter_some, hn, if_pos hsafe, Option.map_some, hn]

section Lists

variable {items : List Json} {members : List (String × Json)}

theorem items_readAs {f : Json → Option Value} {vs : List Value}
    (hf : ∀ item ∈ items, ∀ v, f item = some v → ReadsAs limits levels v item)
    (h : items.mapM f = some vs) :
    vs.length = items.length ∧ (∀ v ∈ vs, Within limits levels v ∧ bytewise.Unique v) ∧
      toItems (vs.map bytewise.canon) = some items := by
  induction items generalizing vs with
  | nil => cases h; exact ⟨rfl, by simp, rfl⟩
  | cons item items ih =>
    rw [mapM_cons] at h
    obtain ⟨v, hv, h⟩ := Option.bind_eq_some_iff.1 h
    obtain ⟨vs, hvs, heq⟩ := Option.bind_eq_some_iff.1 h
    cases heq
    obtain ⟨hitem, hitems⟩ := forall_mem_cons.1 hf
    obtain ⟨hlength, hgood, hback⟩ := ih hitems hvs
    have hread := hitem v hv
    refine ⟨congrArg (· + 1) hlength, forall_mem_cons.2 ⟨⟨hread.within, hread.unique⟩, hgood⟩, ?_⟩
    simp only [map_cons, toItems, hread.converted, Option.bind_some, hback, Option.map_some]

/-- The members with their values. -/
theorem exists_members {f : Json → Option Value} {vs : List (String × Value)}
    (hf : ∀ e ∈ members, ∀ v, f e.2 = some v → ReadsAs limits levels v e.2)
    (h : (members.mapM fun e => if (utf8 e.1).length ≤ limits.maxString.toNat then
      (f e.2).map (e.1, ·) else none) = some vs) :
    ∃ l : List (String × Json × Value), l.map (fun e => (e.1, e.2.1)) = members ∧
      l.map (fun e => (e.1, e.2.2)) = vs ∧ ∀ e ∈ l, (utf8 e.1).length ≤ limits.maxString.toNat ∧
        ReadsAs limits levels e.2.2 e.2.1 := by
  induction members generalizing vs with
  | nil => cases h; exact ⟨[], rfl, rfl, by simp⟩
  | cons e members ih =>
    rw [mapM_cons] at h
    obtain ⟨e', he', h⟩ := Option.bind_eq_some_iff.1 h
    obtain ⟨vs, hvs, heq⟩ := Option.bind_eq_some_iff.1 h
    cases heq
    split_ifs at he' with hkey
    obtain ⟨v, hv, rfl⟩ := Option.map_eq_some_iff.1 he'
    obtain ⟨hmember, hmembers⟩ := forall_mem_cons.1 hf
    obtain ⟨l, rfl, rfl, hl⟩ := ih hmembers hvs
    exact ⟨(e.1, e.2, v) :: l, rfl, rfl, forall_mem_cons.2 ⟨⟨hkey, hmember v hv⟩, hl⟩⟩

private theorem toMembers_eq {l : List (String × Json × Value)} {m : SortedMap String Json}
    (h : ∀ e ∈ l, ReadsAs limits levels e.2.2 e.2.1) (hkeys : (l.map Prod.fst).Nodup)
    (hnew : ∀ e ∈ l, e.1 ∉ m.keys) :
    toMembers m ((l.map fun e => (e.1, bytewise.canon e.2.2)).map fun e => (.text e.1, e.2)) =
      some (m.insertAll (l.map fun e => (e.1, e.2.1))) := by
  induction l generalizing m with
  | nil => rfl
  | cons e l ih =>
    obtain ⟨he, hl⟩ := forall_mem_cons.1 h
    obtain ⟨hfirst, hrest⟩ := nodup_cons.1 hkeys
    simp only [map_cons, toMembers, Value.asText, he.converted, Option.bind_some,
      if_neg (hnew e mem_cons_self)]
    refine ih hl hrest fun e' he' hmem => ?_
    rcases SortedMap.mem_keys_insert.1 hmem with hold | heq
    · exact hnew e' (mem_cons_of_mem _ he') hold
    · exact hfirst (heq ▸ mem_map_of_mem he')

end Lists

/-- What is converted is within the levels that are left, and is converted back. -/
theorem ReadsAs.of_fromJson {json : Json} (hordered : Ordered json)
    (h : fromJson limits levels json = some v) : ReadsAs limits levels v json := by
  induction levels generalizing json v with
  | zero => cases h
  | succ levels ih =>
    cases hordered with
    | null => cases h; exact ⟨.null _, .null, rfl⟩
    | bool b => cases h; exact ⟨.bool _ _, .bool _, rfl⟩
    | integer n => exact .of_fromInteger h
    | float => cases h
    | string s =>
      rw [fromJson] at h
      split_ifs at h with hlength
      cases h
      exact ⟨.text _ hlength, .text _, rfl⟩
    | array hitems =>
      rw [fromJson] at h
      split_ifs at h with hlength
      obtain ⟨vs, hvs, rfl⟩ := Option.map_eq_some_iff.1 h
      obtain ⟨heq, hgood, hback⟩ := items_readAs (fun item hi v => ih (hitems item hi)) hvs
      refine ⟨.array (by omega) fun v hv => (hgood v hv).1,
        keysPairwise_array.2 fun v hv => (hgood v hv).2, ?_⟩
      rw [KeyOrder.canon_array, toJson, hback, Option.map_some]
    | object hascending hmembers =>
      rw [fromJson] at h
      split_ifs at h with hlength
      obtain ⟨vs, hvs, rfl⟩ := Option.map_eq_some_iff.1 h
      obtain ⟨l, rfl, rfl, hl⟩ := exists_members (fun e he v => ih (hmembers e he)) hvs
      have hkeys : (l.map Prod.fst).Nodup :=
        pairwise_map.2 ((pairwise_map.1 hascending).imp ne_of_lt)
      refine ⟨.map (by simpa using hlength) ?_ ?_, bytewise.unique_textMap ?_ ?_, ?_⟩
      · simp only [forall_mem_map]
        intro e he
        -- a key stands at the level of its value, so a level is left for it
        cases levels with
        | zero => cases (hl e he).2.within
        | succ levels => exact .text _ (hl e he).1
      · simpa only [forall_mem_map] using fun e he => (hl e he).2.within
      · rwa [map_map]
      · simpa only [forall_mem_map] using fun e he => (hl e he).2.unique
      · obtain ⟨l', hperm, hcanon⟩ := bytewise.canon_textMap Prod.snd l
        rw [hcanon, textMap, toJson, toMembers_eq (fun e he => (hl e (hperm.mem_iff.1 he)).2)
          ((hperm.map _).nodup_iff.2 hkeys) (fun e _ => not_mem_nil), Option.map_some]
        have hfilled := SortedMap.ofList_of_perm (m := ⟨_, hascending⟩)
          (hperm.map fun e => (e.1, e.2.1))
        exact congrArg (fun m => some (Json.object m.entries)) hfilled

/-! ### Snapshots -/

def maxSnapshotBytes : ℕ := 256 * 1024

def snapshotLimits : Limits := { Limits.default with maxString := 256 * 1024 }

/-- The canonical snapshot of a document. -/
def encode (document : Document) : Except String Bytes :=
  match fromJson snapshotLimits (snapshotLimits.maxDepth.toNat + 1) document.1 with
  | none => .error "configuration contains unsupported JSON data"
  | some v =>
    if maxSnapshotBytes < (toCanonical v).length then
      .error "configuration snapshot exceeds 256 KiB"
    else .ok (toCanonical v)

/-- Read a snapshot. -/
def decode (bytes : Bytes) : Except String Json :=
  if maxSnapshotBytes < bytes.length then .error "configuration snapshot exceeds 256 KiB"
  else
    match decodeCanonical bytes snapshotLimits with
    | .error _ => .error "configuration snapshot is not canonical"
    | .ok v =>
      match toJson v with
      | none => .error "configuration snapshot contains invalid data"
      | some json => .ok json

/-- Every snapshot is read as the value that it was taken of, so it is the snapshot of no other. -/
theorem snapshot_reads_back (document : Document) (bytes : Bytes)
    (h : encode document = .ok bytes) :
    decode bytes = .ok document.1 ∧
      ∀ other : Document, encode other = .ok bytes → other = document := by
  have hread (d : Document) (hd : encode d = .ok bytes) : decode bytes = .ok d.1 := by
    unfold encode at hd
    split at hd
    · cases hd
    next v hv =>
    split_ifs at hd with hlength
    cases hd
    have hreads := ReadsAs.of_fromJson d.2 hv
    have hcanonical := (decodeCanonical_toCanonical_iff hreads.within.representable).2
      ⟨⟨hreads.within, hreads.unique⟩, rfl⟩
    simp only [decode, if_neg hlength, hcanonical, hreads.converted]
  refine ⟨hread document h, fun other hother => Subtype.ext ?_⟩
  exact Except.ok.inj ((hread other hother).symm.trans (hread document h))

/-- A configuration with an object in a list. -/
def sampleDocument : Document :=
  ⟨.array [.object [("a", .integer (-3))], .null], .array (by
    simpa using ⟨.object (pairwise_singleton _ _) (by simpa using .integer (-3)), .null⟩)⟩

theorem sampleDocument_reads_back :
    encode sampleDocument = .ok [0x82, 0xa1, 0x61, 0x61, 0x22, 0xf6] ∧
      decode [0x82, 0xa1, 0x61, 0x61, 0x22, 0xf6] = .ok sampleDocument.1 := by
  have h : encode sampleDocument = .ok [0x82, 0xa1, 0x61, 0x61, 0x22, 0xf6] := by decide +kernel
  exact ⟨h, (snapshot_reads_back sampleDocument _ h).1⟩

end CopyLocker.Worker.JsonCbor
