import CopyLocker.Foundation.SortedMap
import CopyLocker.Proto.Cbor
import Mathlib.Data.String.Basic

/-!
# Typed fields of a decoded map

The accessors of `copylocker-proto::field`. Artifacts are maps with small integer keys; an accessor
answers the value of a field or an error that names the field. A field that is null counts as
absent.
-/

namespace CopyLocker.Proto

open Foundation Cbor Result List

/-- An identifier as a byte string. -/
def fixedBytes {n : ℕ} (id : ByteId n) : Value := .bytes (toBigEndian n id.toNat)

/-- An array of texts. -/
def textArrayValue (texts : List String) : Value := .array (texts.map .text)

/-- A map of byte strings with text keys. -/
def encTextBytesMap (m : SortedMap String Bytes) : Value :=
  textMap (m.entries.map fun e => (e.1, .bytes e.2))

namespace Field

/-- A field number, as errors have it. -/
def number (key : UInt64) : ℕ := key.toUInt8.toNat

/-- The field has another type. -/
def mismatch (key : UInt64) : ProtoError := .codec (.typeMismatch (number key))

/-- The field's value is out of range. -/
def outOfRange (key : UInt64) : ProtoError := .fieldOutOfRange (number key)

section Accessors

variable (map : Value) (key : UInt64)

/-- A field that must be there. -/
def req : Except ProtoError Value :=
  Result.ofOption (map.get key) (.codec (.missingField (number key)))

/-- A field that may be absent or null. -/
def opt : Option Value := (map.get key).filter fun v => v ≠ .null

/-- A required field of the type that is read. -/
def required {α : Type} (read : Value → Option α) : Except ProtoError α :=
  req map key >>= fun v => Result.ofOption (read v) (mismatch key)

/-- An optional field of the type that is read. -/
def optional {α : Type} (read : Value → Option α) : Except ProtoError (Option α) :=
  match opt map key with
  | none => .ok none
  | some v => some <$> Result.ofOption (read v) (mismatch key)

/-- A required unsigned field; the others below differ in their type. -/
def uint : Except ProtoError UInt64 := required map key Value.asUint

def int : Except ProtoError Int64 := required map key Value.asInt

def bytes : Except ProtoError Bytes := required map key Value.asBytes

def text : Except ProtoError String := required map key Value.asText

def optUint : Except ProtoError (Option UInt64) := optional map key Value.asUint

/-- `u8::try_from`. -/
def narrowU8 (n : UInt64) : Except ProtoError UInt8 :=
  if n.toNat < 2 ^ 8 then .ok n.toUInt8 else .error (outOfRange key)

/-- `u32::try_from`. -/
def narrowU32 (n : UInt64) : Except ProtoError UInt32 :=
  if n.toNat < 2 ^ 32 then .ok n.toUInt32 else .error (outOfRange key)

def u8 : Except ProtoError UInt8 := uint map key >>= narrowU8 key

def u32 : Except ProtoError UInt32 := uint map key >>= narrowU32 key

def optU8 : Except ProtoError (Option UInt8) := optUint map key >>= Option.mapM (narrowU8 key)

def optU32 : Except ProtoError (Option UInt32) := optUint map key >>= Option.mapM (narrowU32 key)

/-- A byte string of exactly `n` bytes. -/
def fixed (n : ℕ) : Except ProtoError (ByteId n) :=
  bytes map key >>= fun b =>
    if b.length = n then .ok (BitVec.ofNat _ (ofBigEndian b)) else .error (outOfRange key)

/-- A required array of texts. -/
def textArray : Except ProtoError (List String) :=
  required map key Value.asArray >>= mapM fun v => Result.ofOption v.asText (mismatch key)

/-- An entry of a map with text keys. -/
def textEntry {α : Type} (read : Value → Option α) (e : Value × Value) :
    Except ProtoError (String × α) := do
  let k ← Result.ofOption e.1.asText (mismatch key)
  let v ← Result.ofOption (read e.2) (mismatch key)
  return (k, v)

/-- A map with text keys and values of the type that is read. -/
def textEntries {α : Type} (read : Value → Option α) : Except ProtoError (SortedMap String α) := do
  let entries ← required map key Value.asMap
  let read ← entries.mapM (textEntry key read)
  return SortedMap.ofList read

/-- A required map from texts to bytes. -/
def textBytesMap : Except ProtoError (SortedMap String Bytes) := textEntries map key Value.asBytes

/-- The same, if it is there. -/
def optTextBytesMap : Except ProtoError (Option (SortedMap String Bytes)) :=
  match opt map key with
  | none => .ok none
  | some _ => some <$> textBytesMap map key

end Accessors

section Reads

variable {map v : Value} {key : UInt64} {α : Type} {read : Value → Option α}

theorem opt_of_get (h : map.get key = some v) (hv : v ≠ .null) : opt map key = some v := by
  rw [opt, h, Option.filter_some, if_pos (decide_eq_true hv)]

theorem opt_of_get_none (h : map.get key = none) : opt map key = none := by
  rw [opt, h, Option.filter_none]

theorem required_of_get {a : α} (h : map.get key = some v) (ha : read v = some a) :
    required map key read = .ok a :=
  bind_eq_ok.2 ⟨v, ofOption_eq_ok.2 h, ofOption_eq_ok.2 ha⟩

/-- An optional field whose values are never null. -/
theorem optional_of_get {β : Type} {encode : β → Value} {f : β → α} {o : Option β}
    (h : map.get key = o.map encode)
    (hread : ∀ b ∈ o, encode b ≠ .null ∧ read (encode b) = some (f b)) :
    optional map key read = .ok (o.map f) := by
  unfold optional
  cases o with
  | none => rw [opt_of_get_none h]; rfl
  | some b =>
    obtain ⟨hnull, hb⟩ := hread b rfl
    rw [opt_of_get h hnull]
    exact map_eq_ok.2 ⟨f b, ofOption_eq_ok.2 hb, rfl⟩

theorem narrowU8_toUInt64 (n : UInt8) : narrowU8 key n.toUInt64 = .ok n := by
  rw [narrowU8, if_pos (UInt8.toNat_toUInt64 n ▸ n.toNat_lt), UInt8.toUInt8_toUInt64]

theorem narrowU32_toUInt64 (n : UInt32) : narrowU32 key n.toUInt64 = .ok n := by
  rw [narrowU32, if_pos (UInt32.toNat_toUInt64 n ▸ n.toNat_lt), UInt32.toUInt32_toUInt64]

theorem u8_of_get {n : UInt8} (h : map.get key = some (.uint n.toUInt64)) :
    u8 map key = .ok n :=
  bind_eq_ok.2 ⟨_, required_of_get h rfl, narrowU8_toUInt64 n⟩

theorem u32_of_get {n : UInt32} (h : map.get key = some (.uint n.toUInt64)) :
    u32 map key = .ok n :=
  bind_eq_ok.2 ⟨_, required_of_get h rfl, narrowU32_toUInt64 n⟩

theorem optU8_of_get {o : Option UInt8} (h : map.get key = o.map fun n => .uint n.toUInt64) :
    optU8 map key = .ok o := by
  refine bind_eq_ok.2 ⟨_, optional_of_get h fun n _ => ⟨Value.noConfusion, rfl⟩, ?_⟩
  cases o with
  | none => rfl
  | some n => exact map_eq_ok.2 ⟨n, narrowU8_toUInt64 n, rfl⟩

theorem optU32_of_get {o : Option UInt32} (h : map.get key = o.map fun n => .uint n.toUInt64) :
    optU32 map key = .ok o := by
  refine bind_eq_ok.2 ⟨_, optional_of_get h fun n _ => ⟨Value.noConfusion, rfl⟩, ?_⟩
  cases o with
  | none => rfl
  | some n => exact map_eq_ok.2 ⟨n, narrowU32_toUInt64 n, rfl⟩

theorem fixed_of_get {n : ℕ} {id : ByteId n} (h : map.get key = some (fixedBytes id)) :
    fixed map key n = .ok id := by
  refine bind_eq_ok.2 ⟨_, required_of_get h rfl, ?_⟩
  have hbound : id.toNat < 256 ^ n := by
    have := id.isLt
    rwa [pow_mul] at this
  rw [if_pos (length_toBigEndian _ _), ofBigEndian_toBigEndian hbound, BitVec.ofNat_toNat,
    BitVec.setWidth_eq]

theorem textArray_of_get {texts : List String} (h : map.get key = some (textArrayValue texts)) :
    textArray map key = .ok texts := by
  refine bind_eq_ok.2 ⟨_, required_of_get h rfl, mapM_eq_ok.2 ?_⟩
  rw [forall₂_map_left_iff]
  exact forall₂_same.2 fun _ _ => rfl

/-- A map with text keys is read back whatever the order of its entries. -/
theorem textEntries_of_get {m : SortedMap String α} {encode : α → Value}
    {l : List (String × α)} (h : map.get key = some (textMap (l.map fun e => (e.1, encode e.2))))
    (hl : l.Perm m.entries) (hread : ∀ a, read (encode a) = some a) :
    textEntries map key read = .ok m := by
  refine bind_eq_ok.2 ⟨_, required_of_get h rfl, bind_eq_ok.2 ⟨l, ?_, ?_⟩⟩
  · rw [mapM_eq_ok, map_map, forall₂_map_left_iff]
    refine forall₂_same.2 fun e _ => bind_eq_ok.2 ⟨e.1, rfl, ?_⟩
    exact bind_eq_ok.2 ⟨e.2, ofOption_eq_ok.2 (hread e.2), rfl⟩
  · exact congrArg Except.ok (SortedMap.ofList_of_perm hl)

end Reads

end Field

end CopyLocker.Proto
