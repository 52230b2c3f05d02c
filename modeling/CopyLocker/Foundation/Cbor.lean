import CopyLocker.Foundation.Parser
import Mathlib.Data.List.Pairwise
import Mathlib.Data.List.Sort
import Mathlib.Logic.Relation

/-!
# Deterministic CBOR

Values of the subset of CBOR without tags, floats and indefinite lengths, and their deterministic
encoding: shortest heads, and the entries of a map sorted by their encoded keys. How encoded keys
are compared is a parameter.

## Main definitions

* `KeyOrder`: the order of the encoded keys.
* `Value`, `head`, `KeyOrder.encode`: values and their encoding.
* `KeyOrder.canon`: a value with its maps in the order of their encoding.
* `Same`: values that are equal up to the order of the entries of maps.
* `KeysPairwise`: what holds of any two keys of one map, in every map of a value.
* `Representable`: all lengths fit in a head.
* `record`, `textMap`: maps with integer keys and maps with text keys.

## Main results

* `reads_argument`: the shortest form of an argument is read back.
* `KeyOrder.encode_canon`, `KeyOrder.same_canon`: a value and its canonical form.
* `KeyOrder.unique_iff`, `KeyOrder.encode_eq_iff_same`: where no two keys of a map have one
  canonical form, two values have one encoding if and only if they are equal up to order.
* `KeyOrder.get_canon_record`, `KeyOrder.canon_textMap`: what is read from the canonical form.
-/

namespace CopyLocker.Foundation.Cbor

open Foundation.Parser List Int64

/-- A total order of byte strings. -/
structure KeyOrder where
  le : List UInt8 → List UInt8 → Bool
  trans : ∀ a b c, le a b = true → le b c = true → le a c = true
  total : ∀ a b, le a b = true ∨ le b a = true
  antisymm : ∀ a b, le a b = true → le b a = true → a = b

/-- A value; the argument of a negative integer `-1 - n` is `n`. -/
inductive Value
  | uint (n : UInt64)
  | nint (n : UInt64)
  | bytes (b : List UInt8)
  | text (s : String)
  | array (items : List Value)
  | map (entries : List (Value × Value))
  | bool (b : Bool)
  | null

/-! ### Induction and equality -/

/-- Induction with the items of an array and the entries of a map as members of a list. -/
@[elab_as_elim, induction_eliminator]
theorem Value.induction {P : Value → Prop} (uint : ∀ n, P (.uint n)) (nint : ∀ n, P (.nint n))
    (bytes : ∀ b, P (.bytes b)) (text : ∀ s, P (.text s))
    (array : ∀ items, (∀ x ∈ items, P x) → P (.array items))
    (map : ∀ entries, (∀ e ∈ entries, P e.1 ∧ P e.2) → P (.map entries))
    (bool : ∀ b, P (.bool b)) (null : P .null) (v : Value) : P v :=
  @rec P (fun items => ∀ x ∈ items, P x) (fun entries => ∀ e ∈ entries, P e.1 ∧ P e.2)
    (fun e => P e.1 ∧ P e.2) uint nint bytes text array map bool null
    (fun _ hx => absurd hx not_mem_nil) (fun _ _ hx h => forall_mem_cons.2 ⟨hx, h⟩)
    (fun _ he => absurd he not_mem_nil) (fun _ _ he h => forall_mem_cons.2 ⟨he, h⟩)
    (fun _ _ hk hv => ⟨hk, hv⟩) v

mutual

/-- Equality of values, part by part. -/
protected def Value.beq : Value → Value → Bool
  | .uint n, .uint m => n == m
  | .nint n, .nint m => n == m
  | .bytes b, .bytes c => b == c
  | .text s, .text t => s == t
  | .array items, .array items' => Value.beqItems items items'
  | .map entries, .map entries' => Value.beqEntries entries entries'
  | .bool b, .bool c => b == c
  | .null, .null => true
  | _, _ => false

protected def Value.beqItems : List Value → List Value → Bool
  | [], [] => true
  | x :: items, y :: items' => x.beq y && Value.beqItems items items'
  | _, _ => false

protected def Value.beqEntries : List (Value × Value) → List (Value × Value) → Bool
  | [], [] => true
  | (k, v) :: entries, (k', v') :: entries' =>
    k.beq k' && v.beq v' && Value.beqEntries entries entries'
  | _, _ => false

end

theorem Value.beqItems_iff {items : List Value} (h : ∀ x ∈ items, ∀ y, x.beq y ↔ x = y)
    (items' : List Value) : Value.beqItems items items' ↔ items = items' := by
  induction items generalizing items' with
  | nil => cases items' <;> simp [Value.beqItems]
  | cons x items ih =>
    obtain ⟨hx, hitems⟩ := forall_mem_cons.1 h
    cases items' with
    | nil => simp [Value.beqItems]
    | cons y items' => simp [Value.beqItems, hx, ih hitems]

variable {entries : List (Value × Value)}

theorem Value.beqEntries_iff
    (h : ∀ e ∈ entries, (∀ y, e.1.beq y ↔ e.1 = y) ∧ ∀ y, e.2.beq y ↔ e.2 = y)
    (entries' : List (Value × Value)) :
    Value.beqEntries entries entries' ↔ entries = entries' := by
  induction entries generalizing entries' with
  | nil => cases entries' <;> simp [Value.beqEntries]
  | cons e entries ih =>
    obtain ⟨⟨hk, hv⟩, hentries⟩ := forall_mem_cons.1 h
    cases entries' with
    | nil => simp [Value.beqEntries]
    | cons e' entries' => simp [Value.beqEntries, hk, hv, ih hentries, Prod.ext_iff]

theorem Value.beq_iff (v w : Value) : v.beq w ↔ v = w := by
  induction v generalizing w with
  | uint | nint | bytes | text | bool | null => cases w <;> simp [Value.beq]
  | array items ih => cases w <;> simp [Value.beq, Value.beqItems_iff fun x hx y => ih x hx y]
  | map entries ih => cases w <;> simp [Value.beq, Value.beqEntries_iff fun e he => ih e he]

instance : DecidableEq Value := fun v w => decidable_of_iff _ (Value.beq_iff v w)

/-! ### Heads -/

/-- The additional information of the shortest head with an argument. -/
def additional (arg : UInt64) : UInt8 :=
  if arg < 24 then arg.toUInt8
  else if arg ≤ 0xff then 24
  else if arg ≤ 0xffff then 25
  else if arg ≤ 0xffffffff then 26
  else 27

/-- The bytes of the argument in the shortest head. -/
def argumentBytes (arg : UInt64) : List UInt8 :=
  if arg < 24 then []
  else if arg ≤ 0xff then toBigEndian 1 arg.toNat
  else if arg ≤ 0xffff then toBigEndian 2 arg.toNat
  else if arg ≤ 0xffffffff then toBigEndian 4 arg.toNat
  else toBigEndian 8 arg.toNat

/-- The shortest head of a major type with an argument. -/
def head (major : UInt8) (arg : UInt64) : List UInt8 :=
  (major <<< 5 ||| additional arg) :: argumentBytes arg

section Head

variable {ε : Type}

/-- Read an argument of `n` bytes. -/
def wideArgument (truncated : ε) (n : ℕ) : Parser ε UInt64 :=
  take n truncated >>= fun bs => pure (UInt64.ofNat (ofBigEndian bs))

/-- Read the argument that additional information announces. -/
def argument (truncated reserved : ε) (ai : UInt8) : Parser ε UInt64 :=
  if ai < 24 then pure ai.toUInt64
  else if ai = 24 then wideArgument truncated 1
  else if ai = 25 then wideArgument truncated 2
  else if ai = 26 then wideArgument truncated 4
  else if ai = 27 then wideArgument truncated 8
  else throw reserved

theorem reads_wideArgument (truncated : ε) {n : ℕ} {arg : UInt64} (h : arg.toNat < 256 ^ n) :
    Reads (wideArgument truncated n) (toBigEndian n arg.toNat) True arg := by
  have htake := reads_take (e := truncated) (toBigEndian n arg.toNat)
  rw [length_toBigEndian] at htake
  have hread := htake.map fun bs => UInt64.ofNat (ofBigEndian bs)
  rwa [ofBigEndian_toBigEndian h, UInt64.ofNat_toNat] at hread

/-- The shortest form of an argument is read back. -/
theorem reads_argument (truncated reserved : ε) (arg : UInt64) :
    Reads (argument truncated reserved (additional arg)) (argumentBytes arg) True arg := by
  have hbound := arg.toNat_lt
  unfold additional argumentBytes
  split_ifs with h0 h1 h2 h3
  · have hsmall : arg.toUInt8 < 24 := by
      exact Nat.lt_of_le_of_lt (Nat.mod_le _ _) h0
    have hback : arg.toUInt8.toUInt64 = arg := by
      refine UInt64.toNat_inj.1 ?_
      exact Nat.mod_eq_of_lt (Nat.lt_trans h0 (by decide))
    rw [argument, if_pos hsmall, hback]
    exact reads_pure arg
  · exact reads_wideArgument truncated (Nat.lt_succ_of_le h1)
  · exact reads_wideArgument truncated (Nat.lt_succ_of_le h2)
  · exact reads_wideArgument truncated (Nat.lt_succ_of_le h3)
  · exact reads_wideArgument truncated hbound

theorem additional_lt (arg : UInt64) : additional arg < 32 := by
  unfold additional
  split_ifs with h0
  · rw [UInt64.lt_iff_toNat_lt] at h0
    exact Nat.lt_of_le_of_lt (Nat.mod_le _ _) (Nat.lt_trans h0 (by decide))
  all_goals decide

theorem initial_parts {major ai : UInt8} (hmajor : major < 8) (hai : ai < 32) :
    (major <<< 5 ||| ai) >>> 5 = major ∧ (major <<< 5 ||| ai) &&& 0x1f = ai := by
  have hall : ∀ m : Fin 8, ∀ a : Fin 32,
      (UInt8.ofNat m <<< 5 ||| UInt8.ofNat a) >>> 5 = UInt8.ofNat m ∧
        (UInt8.ofNat m <<< 5 ||| UInt8.ofNat a) &&& 0x1f = UInt8.ofNat a := by decide +kernel
  have h := hall ⟨major.toNat, hmajor⟩ ⟨ai.toNat, hai⟩
  simpa only [UInt8.ofNat_toNat] using h

end Head

/-! ### Encoding -/

/-- Sort by the first components; where they are equal the order is kept. -/
def KeyOrder.sort (order : KeyOrder) {α : Type} (l : List (List UInt8 × α)) :
    List (List UInt8 × α) :=
  l.insertionSort fun a b => order.le a.1 b.1 = true

mutual

/-- The deterministic encoding. -/
def KeyOrder.encode (order : KeyOrder) : Value → List UInt8
  | .uint n => head 0 n
  | .nint n => head 1 n
  | .bytes b => head 2 (UInt64.ofNat b.length) ++ b
  | .text s => head 3 (UInt64.ofNat (utf8 s).length) ++ utf8 s
  | .array items => head 4 (UInt64.ofNat items.length) ++ order.encodeItems items
  | .map entries =>
    head 5 (UInt64.ofNat entries.length) ++
      (order.sort (order.encodeEntries entries)).flatMap fun e => e.1 ++ e.2
  | .bool b => [if b then 0xf5 else 0xf4]
  | .null => [0xf6]

def KeyOrder.encodeItems (order : KeyOrder) : List Value → List UInt8
  | [] => []
  | x :: items => order.encode x ++ order.encodeItems items

def KeyOrder.encodeEntries (order : KeyOrder) :
    List (Value × Value) → List (List UInt8 × List UInt8)
  | [] => []
  | (k, v) :: entries => (order.encode k, order.encode v) :: order.encodeEntries entries

end

mutual

/-- A value with the entries of its maps in the order of their encoding. -/
def KeyOrder.canon (order : KeyOrder) : Value → Value
  | .array items => .array (order.canonItems items)
  | .map entries => .map ((order.sort (order.canonEntries entries)).map Prod.snd)
  | v => v

def KeyOrder.canonItems (order : KeyOrder) : List Value → List Value
  | [] => []
  | x :: items => order.canon x :: order.canonItems items

/-- The canonical entries, each with the encoding of its key. -/
def KeyOrder.canonEntries (order : KeyOrder) :
    List (Value × Value) → List (List UInt8 × (Value × Value))
  | [] => []
  | (k, v) :: entries =>
    (order.encode k, (order.canon k, order.canon v)) :: order.canonEntries entries

end

variable {e : Value × Value}

namespace KeyOrder

variable (order : KeyOrder) (entries) {α β : Type} (items : List Value)

theorem encodeItems_eq : order.encodeItems items = items.flatMap order.encode := by
  induction items with
  | nil => rfl
  | cons x items ih => rw [encodeItems, ih, flatMap_cons]

theorem encodeEntries_eq :
    order.encodeEntries entries = entries.map fun e => (order.encode e.1, order.encode e.2) := by
  induction entries with
  | nil => rfl
  | cons e entries ih => rw [encodeEntries, ih, map_cons]

theorem canonItems_eq : order.canonItems items = items.map order.canon := by
  induction items with
  | nil => rfl
  | cons x items ih => rw [canonItems, ih, map_cons]

theorem canonEntries_eq :
    order.canonEntries entries =
      entries.map fun e => (order.encode e.1, (order.canon e.1, order.canon e.2)) := by
  induction entries with
  | nil => rfl
  | cons e entries ih => rw [canonEntries, ih, map_cons]

/-- Entries in the order of their encoded keys. -/
def sorted (entries : List (Value × Value)) : List (Value × Value) :=
  (order.sort (entries.map fun e => (order.encode e.1, e))).map Prod.snd

variable (l : List (List UInt8 × α))

theorem sort_perm : (order.sort l).Perm l := perm_insertionSort _ l

theorem sort_pairwise :
    (order.sort l).Pairwise fun a b => order.le a.1 b.1 :=
  have : Std.Total fun a b : List UInt8 × α => order.le a.1 b.1 :=
    ⟨fun a b => order.total a.1 b.1⟩
  have : IsTrans (List UInt8 × α) fun a b => order.le a.1 b.1 :=
    ⟨fun a b c => order.trans a.1 b.1 c.1⟩
  pairwise_insertionSort _ l

/-- Sorting looks at the first components only. -/
theorem sort_map (f : α → β) (l : List (List UInt8 × α)) :
    order.sort (l.map (Prod.map id f)) = (order.sort l).map (Prod.map id f) :=
  (map_insertionSort _ _ (Prod.map id f) l fun _ _ _ _ => Iff.rfl).symm

theorem sorted_perm : (order.sorted entries).Perm entries := by
  have h := (order.sort_perm (entries.map fun e => (order.encode e.1, e))).map Prod.snd
  have hback : (entries.map fun e => (order.encode e.1, e)).map Prod.snd = entries := by
    rw [map_map]
    exact map_id _
  rwa [hback] at h

theorem length_sorted :
    (order.sorted entries).length = entries.length := (order.sorted_perm entries).length_eq

theorem sort_keyed :
    order.sort (entries.map fun e => (order.encode e.1, e)) =
      (order.sorted entries).map fun e => (order.encode e.1, e) := by
  rw [sorted, map_map]
  refine (map_id _).symm.trans (map_congr_left fun a ha => ?_)
  obtain ⟨e, -, rfl⟩ := mem_map.1 ((order.sort_perm _).mem_iff.1 ha)
  rfl

theorem sorted_pairwise :
    (order.sorted entries).Pairwise fun e e' =>
      order.le (order.encode e.1) (order.encode e'.1) := by
  have h := order.sort_pairwise (entries.map fun e => (order.encode e.1, e))
  rwa [sort_keyed, pairwise_map] at h

theorem encode_map :
    order.encode (.map entries) = head 5 (UInt64.ofNat entries.length) ++
      (order.sorted entries).flatMap fun e => order.encode e.1 ++ order.encode e.2 := by
  have hentries : order.encodeEntries entries =
      (entries.map fun e => (order.encode e.1, e)).map (Prod.map id fun e => order.encode e.2) := by
    rw [encodeEntries_eq, map_map]
    rfl
  rw [encode, hentries, sort_map, sort_keyed, map_map, flatMap_map]
  rfl

theorem encode_array :
    order.encode (.array items) =
      head 4 (UInt64.ofNat items.length) ++ items.flatMap order.encode := by
  rw [encode, encodeItems_eq]

theorem canon_array : order.canon (.array items) = .array (items.map order.canon) := by
  rw [canon, canonItems_eq]

theorem canon_map :
    order.canon (.map entries) =
      .map ((order.sorted entries).map fun e => (order.canon e.1, order.canon e.2)) := by
  have hentries : order.canonEntries entries = (entries.map fun e => (order.encode e.1, e)).map
      (Prod.map id fun e => (order.canon e.1, order.canon e.2)) := by
    rw [canonEntries_eq, map_map]
    rfl
  rw [canon, hentries, sort_map, sort_keyed, map_map, map_map]
  rfl

variable {entries}

private theorem sorted_of_pairwise
    (h : entries.Pairwise fun e e' => order.le (order.encode e.1) (order.encode e'.1)) :
    order.sorted entries = entries := by
  have hsort : order.sort (entries.map fun e => (order.encode e.1, e)) =
      entries.map fun e => (order.encode e.1, e) :=
    (pairwise_map.2 h).insertionSort_eq
  rw [sorted, hsort, map_map]
  exact map_id _

theorem encode_canon (v : Value) : order.encode (order.canon v) = order.encode v := by
  induction v with
  | uint | nint | bytes | text | bool | null => rfl
  | array items ih =>
    rw [canon_array, encode_array, encode_array, length_map, flatMap_map]
    congr 1
    exact flatMap_congr fun x hx => ih x hx
  | map entries ih =>
    have hmem (e : Value × Value) (he : e ∈ order.sorted entries) :
        order.encode (order.canon e.1) = order.encode e.1 ∧
          order.encode (order.canon e.2) = order.encode e.2 :=
      ih e ((order.sorted_perm entries).mem_iff.1 he)
    have hsorted : ((order.sorted entries).map fun e => (order.canon e.1, order.canon e.2)).Pairwise
        fun e e' => order.le (order.encode e.1) (order.encode e'.1) := by
      refine pairwise_map.2 ((order.sorted_pairwise entries).imp_of_mem fun he he' hle => ?_)
      rwa [(hmem _ he).1, (hmem _ he').1]
    rw [canon_map, encode_map, order.sorted_of_pairwise hsorted, encode_map, length_map,
      length_sorted, flatMap_map]
    congr 1
    exact flatMap_congr fun e he => by rw [(hmem e he).1, (hmem e he).2]

end KeyOrder

/-! ### Equality up to the order of maps -/

/-- Reorder the entries of one map, anywhere in a value. -/
inductive Swap : Value → Value → Prop
  | map {entries entries' : List (Value × Value)} (h : entries.Perm entries') :
    Swap (.map entries) (.map entries')
  | item (pre post : List Value) {x y : Value} (h : Swap x y) :
    Swap (.array (pre ++ x :: post)) (.array (pre ++ y :: post))
  | key (pre post : List (Value × Value)) {k k' : Value} (v : Value) (h : Swap k k') :
    Swap (.map (pre ++ (k, v) :: post)) (.map (pre ++ (k', v) :: post))
  | value (pre post : List (Value × Value)) (k : Value) {v v' : Value} (h : Swap v v') :
    Swap (.map (pre ++ (k, v) :: post)) (.map (pre ++ (k, v') :: post))

/-- Equal up to the order of the entries of maps. -/
def Same : Value → Value → Prop := Relation.ReflTransGen Swap

theorem Swap.symm {v w : Value} (h : Swap v w) : Swap w v := by
  induction h with
  | map h => exact .map h.symm
  | item pre post _ ih => exact .item pre post ih
  | key pre post v _ ih => exact .key pre post v ih
  | value pre post k _ ih => exact .value pre post k ih

variable {entries' : List (Value × Value)}

namespace Same

variable {u v w : Value}

theorem refl (v : Value) : Same v v := Relation.ReflTransGen.refl

theorem trans (h : Same u v) (h' : Same v w) : Same u w := Relation.ReflTransGen.trans h h'

theorem symm (h : Same v w) : Same w v :=
  have : Std.Symm Swap := ⟨fun _ _ => Swap.symm⟩
  Relation.ReflTransGen.stdSymm.symm _ _ h

theorem of_perm (h : entries.Perm entries') :
    Same (.map entries) (.map entries') := .single (.map h)

/-- Replace all members of a list in a value, one after the other. -/
theorem of_members {α : Type} {g : List α → Value} {f : α → α} {l : List α}
    (h : ∀ x ∈ l, ∀ pre post, Same (g (pre ++ x :: post)) (g (pre ++ f x :: post))) :
    Same (g l) (g (l.map f)) := by
  have hfrom (pre : List α) : Same (g (pre ++ l)) (g (pre ++ l.map f)) := by
    induction l generalizing pre with
    | nil => exact refl _
    | cons x l ih =>
      obtain ⟨hx, hl⟩ := forall_mem_cons.1 h
      have hrest := ih hl (pre ++ [f x])
      rw [append_assoc, append_assoc] at hrest
      exact (hx pre l).trans hrest
  exact hfrom []

theorem array {f : Value → Value} {items : List Value} (h : ∀ x ∈ items, Same x (f x)) :
    Same (.array items) (.array (items.map f)) :=
  of_members fun x hx pre post =>
    Relation.ReflTransGen.lift (fun y => Value.array (pre ++ y :: post))
      (fun _ _ => Swap.item pre post) _ _ (h x hx)

theorem map {f : Value → Value} (h : ∀ e ∈ entries, Same e.1 (f e.1) ∧ Same e.2 (f e.2)) :
    Same (.map entries) (.map (entries.map fun e => (f e.1, f e.2))) := by
  refine of_members fun e he pre post => ?_
  have hkey := Relation.ReflTransGen.lift (fun y => Value.map (pre ++ (y, e.2) :: post))
    (fun _ _ => Swap.key pre post e.2) _ _ (h e he).1
  have hvalue := Relation.ReflTransGen.lift (fun y => Value.map (pre ++ (f e.1, y) :: post))
    (fun _ _ => Swap.value pre post (f e.1)) _ _ (h e he).2
  exact trans hkey hvalue

end Same

variable (order : KeyOrder)

/-- A value is equal to its canonical form up to order. -/
theorem KeyOrder.same_canon (v : Value) : Same v (order.canon v) := by
  induction v with
  | uint | nint | bytes | text | bool | null => exact Same.refl _
  | array items ih =>
    rw [canon_array]
    exact Same.array ih
  | map entries ih =>
    rw [canon_map]
    refine (Same.map ih).trans (Same.of_perm ?_)
    exact ((order.sorted_perm entries).map _).symm

/-! ### Keys and lengths -/

/-- Any two keys of one map are related, in every map of the value. -/
inductive KeysPairwise (R : Value → Value → Prop) : Value → Prop
  | uint (n : UInt64) : KeysPairwise R (.uint n)
  | nint (n : UInt64) : KeysPairwise R (.nint n)
  | bytes (b : List UInt8) : KeysPairwise R (.bytes b)
  | text (s : String) : KeysPairwise R (.text s)
  | array {items : List Value} (hitems : ∀ x ∈ items, KeysPairwise R x) :
    KeysPairwise R (.array items)
  | map {entries : List (Value × Value)} (hpairwise : entries.Pairwise fun e e' => R e.1 e'.1)
    (hkeys : ∀ e ∈ entries, KeysPairwise R e.1) (hvalues : ∀ e ∈ entries, KeysPairwise R e.2) :
    KeysPairwise R (.map entries)
  | bool (b : Bool) : KeysPairwise R (.bool b)
  | null : KeysPairwise R .null

/-- The lengths of strings, arrays and maps fit in the argument of a head. -/
inductive Representable : Value → Prop
  | uint (n : UInt64) : Representable (.uint n)
  | nint (n : UInt64) : Representable (.nint n)
  | bytes {b : List UInt8} (h : b.length < 2 ^ 64) : Representable (.bytes b)
  | text {s : String} (h : (utf8 s).length < 2 ^ 64) : Representable (.text s)
  | array {items : List Value} (h : items.length < 2 ^ 64)
    (hitems : ∀ x ∈ items, Representable x) : Representable (.array items)
  | map {entries : List (Value × Value)} (h : entries.length < 2 ^ 64)
    (hkeys : ∀ e ∈ entries, Representable e.1) (hvalues : ∀ e ∈ entries, Representable e.2) :
    Representable (.map entries)
  | bool (b : Bool) : Representable (.bool b)
  | null : Representable .null

section Keys

variable {R : Value → Value → Prop} {v w : Value} {items : List Value}

theorem keysPairwise_array : KeysPairwise R (.array items) ↔ ∀ x ∈ items, KeysPairwise R x := by
  refine ⟨fun h => ?_, .array⟩
  cases h with
  | array hitems => exact hitems

theorem keysPairwise_map :
    KeysPairwise R (.map entries) ↔ (entries.Pairwise fun e e' => R e.1 e'.1) ∧
      ∀ e ∈ entries, KeysPairwise R e.1 ∧ KeysPairwise R e.2 := by
  refine ⟨fun h => ?_, fun h => .map h.1 (fun e he => (h.2 e he).1) fun e he => (h.2 e he).2⟩
  cases h with
  | map hpairwise hkeys hvalues => exact ⟨hpairwise, fun e he => ⟨hkeys e he, hvalues e he⟩⟩

theorem representable_array :
    Representable (.array items) ↔ items.length < 2 ^ 64 ∧ ∀ x ∈ items, Representable x := by
  refine ⟨fun h => ?_, fun h => .array h.1 h.2⟩
  cases h with
  | array hlength hitems => exact ⟨hlength, hitems⟩

theorem representable_map :
    Representable (.map entries) ↔ entries.length < 2 ^ 64 ∧
      ∀ e ∈ entries, Representable e.1 ∧ Representable e.2 := by
  refine ⟨fun h => ?_, fun h => .map h.1 (fun e he => (h.2 e he).1) fun e he => (h.2 e he).2⟩
  cases h with
  | map hlength hkeys hvalues => exact ⟨hlength, fun e he => ⟨hkeys e he, hvalues e he⟩⟩

theorem Swap.representable (h : Swap v w) (hv : Representable v) : Representable w := by
  induction h with
  | map hperm =>
    rw [representable_map] at hv ⊢
    exact ⟨hperm.length_eq ▸ hv.1, fun e he => hv.2 e (hperm.mem_iff.2 he)⟩
  | item pre post _ ih =>
    rw [representable_array] at hv ⊢
    simp only [length_append, length_cons, forall_mem_append, forall_mem_cons] at hv ⊢
    exact ⟨hv.1, hv.2.1, ih hv.2.2.1, hv.2.2.2⟩
  | key pre post _ _ ih | value pre post _ _ ih =>
    rw [representable_map] at hv ⊢
    simp only [length_append, length_cons, forall_mem_append, forall_mem_cons] at hv ⊢
    tauto

end Keys

namespace KeyOrder

variable (order : KeyOrder)

/-- No two keys of one map have the same canonical form. -/
def Unique : Value → Prop := KeysPairwise fun k k' => order.canon k ≠ order.canon k'

/-- The encoding of unambiguous values determines their canonical form. -/
def Determines : Prop := ∀ v w, Representable v → Representable w → order.Unique v →
  order.Unique w → order.encode v = order.encode w → order.canon v = order.canon w

variable {order}

theorem encode_eq_of_canon_eq {v w : Value} (h : order.canon v = order.canon w) :
    order.encode v = order.encode w := by
  rw [← order.encode_canon v, h, order.encode_canon]

/-- Replace an entry by one with the same canonical form. -/
theorem Unique.replace {pre post : List (Value × Value)} {e' : Value × Value}
    (h : order.Unique (.map (pre ++ e :: post))) (hkey : order.canon e.1 = order.canon e'.1)
    (hvalue : order.canon e.2 = order.canon e'.2) (he' : order.Unique e'.1 ∧ order.Unique e'.2) :
    order.Unique (.map (pre ++ e' :: post)) ∧
      order.canon (.map (pre ++ e :: post)) = order.canon (.map (pre ++ e' :: post)) := by
  obtain ⟨hpairwise, hparts⟩ := keysPairwise_map.1 h
  constructor
  · refine keysPairwise_map.2 ⟨?_, ?_⟩
    · have hforms (entries : List (Value × Value)) :
          (entries.Pairwise fun e e' => order.canon e.1 ≠ order.canon e'.1) ↔
            (entries.map fun e => order.canon e.1).Pairwise (· ≠ ·) := pairwise_map.symm
      rw [hforms, map_append, map_cons] at hpairwise ⊢
      rwa [← hkey]
    · rw [forall_mem_append, forall_mem_cons] at hparts ⊢
      exact ⟨hparts.1, he', hparts.2.2⟩
  · rw [canon, canon, canonEntries_eq, canonEntries_eq, map_append, map_append,
      map_cons, map_cons, encode_eq_of_canon_eq hkey, hkey, hvalue]

section Determines

variable (hdetermines : order.Determines) {v w : Value}

include hdetermines

private theorem canon_map_perm (hperm : entries.Perm entries')
    (hrepresentable : Representable (.map entries)) (hunique : order.Unique (.map entries)) :
    order.canon (.map entries) = order.canon (.map entries') := by
  obtain ⟨hpairwise, hparts⟩ := keysPairwise_map.1 hunique
  have hsorted : order.sorted entries = order.sorted entries' := by
    refine List.Perm.eq_of_pairwise (fun e e' he he' hle hge => ?_) (order.sorted_pairwise entries)
      (order.sorted_pairwise entries')
      (((order.sorted_perm entries).trans hperm).trans (order.sorted_perm entries').symm)
    have he := (order.sorted_perm entries).mem_iff.1 he
    have he' := hperm.mem_iff.2 ((order.sorted_perm entries').mem_iff.1 he')
    have hr := (representable_map.1 hrepresentable).2
    have hcanon := hdetermines e.1 e'.1 (hr e he).1 (hr e' he').1 (hparts e he).1 (hparts e' he').1
      (order.antisymm _ _ hle hge)
    have : Std.Symm fun e e' : Value × Value => order.canon e.1 ≠ order.canon e'.1 :=
      ⟨fun _ _ h => h.symm⟩
    by_contra hne
    exact hpairwise.forall he he' hne hcanon
  rw [canon_map, canon_map, hsorted]

/-- A reordering changes neither the canonical form nor whether keys are ambiguous. -/
theorem unique_of_swap (h : Swap v w) (hrepresentable : Representable v) (hv : order.Unique v) :
    order.Unique w ∧ order.canon v = order.canon w := by
  induction h with
  | map hperm =>
    obtain ⟨hpairwise, hparts⟩ := keysPairwise_map.1 hv
    refine ⟨keysPairwise_map.2 ⟨?_, fun e he => hparts e (hperm.mem_iff.2 he)⟩,
      canon_map_perm hdetermines hperm hrepresentable hv⟩
    exact (hperm.pairwise_iff fun h => h.symm).1 hpairwise
  | item pre post _ ih =>
    have hitems := keysPairwise_array.1 hv
    have hlengths := (representable_array.1 hrepresentable).2
    rw [forall_mem_append, forall_mem_cons] at hitems hlengths
    obtain ⟨hy, hcanon⟩ := ih hlengths.2.1 hitems.2.1
    constructor
    · refine keysPairwise_array.2 ?_
      rw [forall_mem_append, forall_mem_cons]
      exact ⟨hitems.1, hy, hitems.2.2⟩
    · rw [canon_array, canon_array, map_append, map_append, map_cons, map_cons, hcanon]
  | key pre post v _ ih =>
    have hentry := (keysPairwise_map.1 hv).2 _ mem_append_cons_self
    have hlengths := (representable_map.1 hrepresentable).2 _ mem_append_cons_self
    obtain ⟨hk, hcanon⟩ := ih hlengths.1 hentry.1
    exact Unique.replace hv hcanon rfl ⟨hk, hentry.2⟩
  | value pre post k _ ih =>
    have hentry := (keysPairwise_map.1 hv).2 _ mem_append_cons_self
    have hlengths := (representable_map.1 hrepresentable).2 _ mem_append_cons_self
    obtain ⟨hw, hcanon⟩ := ih hlengths.2 hentry.2
    exact Unique.replace hv rfl hcanon ⟨hentry.1, hw⟩

/-- Values that are equal up to order have one canonical form. -/
theorem canon_eq_of_same (h : Same v w) (hrepresentable : Representable v)
    (hv : order.Unique v) : order.canon v = order.canon w := by
  have hall : Representable w ∧ order.Unique w ∧ order.canon v = order.canon w := by
    induction h with
    | refl => exact ⟨hrepresentable, hv, rfl⟩
    | tail _ hswap ih =>
      obtain ⟨hlengths, hunique, hcanon⟩ := ih
      obtain ⟨hunique', hcanon'⟩ := unique_of_swap hdetermines hswap hlengths hunique
      exact ⟨hswap.representable hlengths, hunique', hcanon.trans hcanon'⟩
  exact hall.2.2

theorem unique_iff (hrepresentable : Representable v) :
    order.Unique v ↔ KeysPairwise (fun k k' => ¬ Same k k') v := by
  induction v with
  | uint | nint | bytes | text | bool | null => constructor <;> intro <;> constructor
  | array items ih =>
    have hlengths := (representable_array.1 hrepresentable).2
    exact keysPairwise_array.trans
      ((forall₂_congr fun x hx => ih x hx (hlengths x hx)).trans keysPairwise_array.symm)
  | map entries ih =>
    have hlengths := (representable_map.1 hrepresentable).2
    have hparts (e : Value × Value) (he : e ∈ entries) :
        (order.Unique e.1 ∧ order.Unique e.2) ↔ KeysPairwise (fun k k' => ¬ Same k k') e.1 ∧
          KeysPairwise (fun k k' => ¬ Same k k') e.2 :=
      and_congr ((ih e he).1 (hlengths e he).1) ((ih e he).2 (hlengths e he).2)
    refine keysPairwise_map.trans (Iff.trans ?_ keysPairwise_map.symm)
    rw [← forall₂_congr hparts]
    refine and_congr_left fun hunique => List.Pairwise.iff_of_mem fun {e e'} he _ => not_congr ?_
    constructor
    · intro hcanon
      exact (order.same_canon e.1).trans (hcanon ▸ (order.same_canon e'.1).symm)
    · exact fun hsame => canon_eq_of_same hdetermines hsame (hlengths e he).1 (hunique e he).1

/-- Where keys are unambiguous, one encoding means equal up to order. -/
theorem encode_eq_iff_same (hrepresentable : Representable v) (hrepresentable' : Representable w)
    (hv : order.Unique v) (hw : order.Unique w) : order.encode v = order.encode w ↔ Same v w := by
  constructor
  · intro hencode
    have hcanon := hdetermines v w hrepresentable hrepresentable' hv hw hencode
    exact (order.same_canon v).trans (hcanon ▸ (order.same_canon w).symm)
  · intro hsame
    exact encode_eq_of_canon_eq (canon_eq_of_same hdetermines hsame hrepresentable hv)

end Determines

end KeyOrder

/-! ### Reading values -/

namespace Value

def asUint : Value → Option UInt64
  | .uint n => some n
  | _ => none

def asBytes : Value → Option (List UInt8)
  | .bytes b => some b
  | _ => none

def asText : Value → Option String
  | .text s => some s
  | _ => none

def asArray : Value → Option (List Value)
  | .array items => some items
  | _ => none

def asMap : Value → Option (List (Value × Value))
  | .map entries => some entries
  | _ => none

def asBool : Value → Option Bool
  | .bool b => some b
  | _ => none

/-- A signed integer. -/
protected def int (n : Int64) : Value :=
  if n < 0 then .nint (-(n + 1)).toUInt64 else .uint n.toUInt64

/-- A signed integer that fits 64 bits. -/
def asInt : Value → Option Int64
  | .uint n => if n.toNat < 2 ^ 63 then some n.toInt64 else none
  | .nint n => if n.toNat < 2 ^ 63 then some (-n.toInt64 - 1) else none
  | _ => none

theorem toNat_toUInt64_lt {n : Int64} (h : 0 ≤ n) : n.toUInt64.toNat < 2 ^ 63 := by
  rw [toNat_toUInt64_of_le h]
  exact n.toNatClampNeg_lt

private theorem neg_succ_nonneg {n : Int64} (h : n < 0) : 0 ≤ -(n + 1) := by
  have hle := n.le_toInt
  rw [lt_iff_toInt_lt, toInt_zero] at h
  have hsucc : (n + 1).toInt = n.toInt + 1 := by
    rw [toInt_add, toInt_one]
    exact Int.bmod_eq_of_le (by omega) (by omega)
  have hneg : (-(n + 1)).toInt = -(n.toInt + 1) := by
    rw [toInt_neg, hsucc]
    exact Int.bmod_eq_of_le (by omega) (by omega)
  rw [le_iff_toInt_le, hneg, toInt_zero]
  omega

/-- A signed integer is read back. -/
theorem asInt_int (n : Int64) : (Value.int n).asInt = some n := by
  unfold Value.int
  split_ifs with h
  · rw [asInt, if_pos (toNat_toUInt64_lt (neg_succ_nonneg h)), toInt64_toUInt64]
    congr 1
    grind
  · rw [asInt, if_pos (toNat_toUInt64_lt (Int64.not_lt.1 h)), Int64.toInt64_toUInt64]

theorem canon_int (n : Int64) : order.canon (.int n) = .int n := by
  unfold Value.int
  split_ifs <;> rfl

theorem unique_int (n : Int64) : order.Unique (.int n) := by
  unfold Value.int
  split_ifs
  · exact .nint _
  · exact .uint _

end Value

/-! ### Maps with integer keys and maps with text keys -/

/-- The value under an integer key of a map. -/
def Value.get (v : Value) (key : UInt64) : Option Value :=
  match v with
  | .map entries => (entries.find? fun e => e.1 == .uint key).map Prod.snd
  | _ => none

/-- The entries of the fields that have a value. -/
def fieldEntries (fields : List (UInt64 × Option Value)) : List (Value × Value) :=
  fields.filterMap fun f => f.2.map fun v => (.uint f.1, v)

/-- A map with integer keys; a field without a value is left out. -/
def record (fields : List (UInt64 × Option Value)) : Value := .map (fieldEntries fields)

/-- A map with text keys. -/
def textMap (entries : List (String × Value)) : Value :=
  .map (entries.map fun e => (.text e.1, e.2))

section Record

variable {fields : List (UInt64 × Option Value)}

theorem mem_fieldEntries :
    e ∈ fieldEntries fields ↔ ∃ k v, (k, some v) ∈ fields ∧ e = (.uint k, v) := by
  simp only [fieldEntries, mem_filterMap, Option.map_eq_some_iff, Prod.exists]
  constructor
  · rintro ⟨k, o, hmem, v, rfl, rfl⟩
    exact ⟨k, v, hmem, rfl⟩
  · rintro ⟨k, v, hmem, rfl⟩
    exact ⟨k, some v, hmem, v, rfl, rfl⟩

theorem fieldEntries_pairwise (h : (fields.map Prod.fst).Nodup) :
    (fieldEntries fields).Pairwise fun e e' => e.1 ≠ e'.1 := by
  refine pairwise_filterMap.2 ((pairwise_map.1 h).imp fun {f f'} hne e he e' he' => ?_)
  obtain ⟨v, -, rfl⟩ := Option.map_eq_some_iff.1 he
  obtain ⟨v', -, rfl⟩ := Option.map_eq_some_iff.1 he'
  exact fun heq => hne (Value.uint.inj heq)

namespace KeyOrder

variable (order : KeyOrder)

theorem unique_record (h : (fields.map Prod.fst).Nodup)
    (hvalues : ∀ f ∈ fields, ∀ v ∈ f.2, order.Unique v) : order.Unique (record fields) := by
  refine keysPairwise_map.2
    ⟨(fieldEntries_pairwise h).imp_of_mem fun {e e'} he he' hne => ?_, fun e he => ?_⟩
  · obtain ⟨k, v, -, rfl⟩ := mem_fieldEntries.1 he
    obtain ⟨k', v', -, rfl⟩ := mem_fieldEntries.1 he'
    exact hne
  · obtain ⟨k, v, hmem, rfl⟩ := mem_fieldEntries.1 he
    exact ⟨.uint k, hvalues _ hmem v rfl⟩

/-- The canonical form of a record has the same fields, in canonical form. -/
theorem canon_record (h : (fields.map Prod.fst).Nodup) :
    ∃ entries : List (Value × Value), order.canon (record fields) = .map entries ∧
      (entries.Pairwise fun e e' => e.1 ≠ e'.1) ∧
      ∀ e, e ∈ entries ↔ ∃ k v, (k, some v) ∈ fields ∧ e = (.uint k, order.canon v) := by
  have hperm := order.sorted_perm (fieldEntries fields)
  refine ⟨_, order.canon_map _, ?_, fun e => ?_⟩
  · have hpairwise := hperm.symm.pairwise (fieldEntries_pairwise h) fun hne => hne.symm
    refine pairwise_map.2 (hpairwise.imp_of_mem fun {e e'} he he' hne => ?_)
    obtain ⟨k, v, -, rfl⟩ := mem_fieldEntries.1 (hperm.mem_iff.1 he)
    obtain ⟨k', v', -, rfl⟩ := mem_fieldEntries.1 (hperm.mem_iff.1 he')
    exact hne
  · simp only [mem_map, hperm.mem_iff, mem_fieldEntries]
    constructor
    · rintro ⟨_, ⟨k, v, hmem, rfl⟩, rfl⟩
      exact ⟨k, v, hmem, rfl⟩
    · rintro ⟨k, v, hmem, rfl⟩
      exact ⟨_, ⟨k, v, hmem, rfl⟩, rfl⟩

theorem get_canon_record (h : (fields.map Prod.fst).Nodup) {k : UInt64} {o : Option Value}
    (hmem : (k, o) ∈ fields) : (order.canon (record fields)).get k = o.map order.canon := by
  obtain ⟨entries, hcanon, hpairwise, hentries⟩ := order.canon_record h
  rw [hcanon]
  cases o with
  | none =>
    have hnone : entries.find? (fun e => e.1 == .uint k) = none := by
      refine find?_eq_none.2 fun e he hkey => ?_
      obtain ⟨j, v, hj, rfl⟩ := (hentries e).1 he
      cases eq_of_beq hkey
      exact nomatch inj_on_of_nodup_map h hj hmem rfl
    rw [Value.get, hnone]
    rfl
  | some v =>
    have hsome : entries.find? (fun e => e.1 == .uint k) = some (.uint k, order.canon v) := by
      obtain ⟨pre, post, rfl⟩ :=
        append_of_mem ((hentries (.uint k, order.canon v)).2 ⟨k, v, hmem, rfl⟩)
      refine find?_eq_some_iff_append.2 ⟨beq_self_eq_true _, pre, post, rfl, fun e he => ?_⟩
      have hne := (pairwise_append.1 hpairwise).2.2 e he _ mem_cons_self
      simpa using hne
    rw [Value.get, hsome]
    rfl

end KeyOrder

end Record

section TextMap

variable {entries : List (String × Value)}

theorem KeyOrder.unique_textMap (h : (entries.map Prod.fst).Nodup)
    (hvalues : ∀ e ∈ entries, order.Unique e.2) : order.Unique (textMap entries) := by
  refine keysPairwise_map.2 ⟨pairwise_map.2 ?_, fun e he => ?_⟩
  · exact (pairwise_map.1 h).imp fun hne heq => hne (Value.text.inj heq)
  · obtain ⟨e, hmem, rfl⟩ := mem_map.1 he
    exact ⟨.text e.1, hvalues e hmem⟩

/-- The canonical form of a map with text keys is one in another order. -/
theorem KeyOrder.canon_textMap {α : Type} (encode : α → Value) (entries : List (String × α)) :
    ∃ l : List (String × α), l.Perm entries ∧
      order.canon (textMap (entries.map fun e => (e.1, encode e.2))) =
        textMap (l.map fun e => (e.1, order.canon (encode e.2))) := by
  let keyed := entries.map fun e => (order.encode (.text e.1), e)
  have hperm : ((order.sort keyed).map Prod.snd).Perm entries := by
    have hback : keyed.map Prod.snd = entries := by
      rw [map_map]
      exact map_id _
    exact hback ▸ (order.sort_perm keyed).map Prod.snd
  have hkeyed : ((entries.map fun e => (e.1, encode e.2)).map fun e => (Value.text e.1, e.2)).map
      (fun e => (order.encode e.1, e)) =
        keyed.map (Prod.map id fun e => (Value.text e.1, encode e.2)) := by
    simp only [map_map, keyed]
    rfl
  refine ⟨(order.sort keyed).map Prod.snd, hperm, ?_⟩
  rw [textMap, canon_map, sorted, hkeyed, sort_map, textMap]
  simp only [map_map]
  rfl

end TextMap

end CopyLocker.Foundation.Cbor
