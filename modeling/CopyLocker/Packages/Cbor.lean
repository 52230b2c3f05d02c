import CopyLocker.Foundation.Cbor
import CopyLocker.Foundation.Utf16
import CopyLocker.Types
import Mathlib.Algebra.Order.Ring.Rat
import Mathlib.Data.List.Find
import Mathlib.Tactic.Linarith

/-!
# The CBOR codec of the JavaScript packages

The packages `seal`, `web`, `guard` and `unplugin` carry copies of one codec (`cbor.ts`). The writer
takes JavaScript values: numbers must be safe integers, strings are sequences of 16-bit units and
are written as UTF-8 with every lone surrogate replaced, and the entries of a map are sorted by
their encoded keys, shorter keys first. The reader is strict about heads and about the order of
keys. Its texts come from a `TextDecoder`, which drops a byte order mark at the start, and its maps
are filled with `Map.set`, where a key that is there keeps its place and gets the new value.

The copy in `guard` checks lengths and counts against the largest safe integer in place of limits.
The reader counts the levels that are left, where the source counts those it went down.

## Main results

* `decode_encode`: what is read from a written value.
-/

namespace CopyLocker.Packages

open Foundation Parser Cbor Run List UInt64

/-! ### Values -/

/-- A number. Finite ones are exact; the sign of zero is left out, which no function here sees. -/
inductive Number
  | finite (q : ℚ)
  | infinite (negative : Bool)
  | nan
  deriving DecidableEq

/-- `Number.MAX_SAFE_INTEGER`. -/
def maxSafeInteger : ℕ := 0x1fffffffffffff

/-- The value of a number for which `Number.isSafeInteger` holds. -/
def Number.safeInteger : Number → Option ℤ
  | .finite q => if q.den = 1 ∧ q.num.natAbs ≤ maxSafeInteger then some q.num else none
  | _ => none

/-- A string, as its code units. -/
abbrev JsString := List UInt16

/-- `TextEncoder.encode`: the text whose UTF-8 form is written. -/
def textEncode (s : JsString) : String := String.ofList (Utf16.chars s)

/-- `TextDecoder.decode` of a text's UTF-8 form: a byte order mark at the start is dropped. -/
def textDecode (t : String) : JsString :=
  Utf16.encode (if t.toList.head? = some '﻿' then t.toList.tail else t.toList)

/-- The values of the writer and the reader. -/
inductive CborValue
  | number (x : Number)
  | bytes (b : Bytes)
  | string (s : JsString)
  | array (items : List CborValue)
  | map (entries : List (CborValue × CborValue))
  | bool (b : Bool)
  | null

/-- The messages of `CborError`. -/
inductive CborError
  | notSafeInteger
  | trailingBytes
  | truncated
  | reservedAdditional
  | nonCanonicalInteger
  | exceedsSafeRange
  | exceedsLength
  | nestingTooDeep
  | invalidUtf8
  | arrayTooLong
  | mapTooLong
  | unorderedKeys
  | unsupportedSimple
  | unsupportedMajor
  | expectedMap
  deriving DecidableEq

/-! ### Writing -/

/-- The first difference of two byte strings of one length. -/
def firstDifference : Bytes → Bytes → ℤ
  | x :: a, y :: b => if (x.toNat : ℤ) - y.toNat ≠ 0 then x.toNat - y.toNat else firstDifference a b
  | _, _ => 0

/-- Shorter keys first, then bytewise. -/
def compareBytes (a b : Bytes) : ℤ :=
  if a.length ≠ b.length then a.length - b.length else firstDifference a b

/-- `intArgument`. -/
def intArgument (x : Number) : Except CborError Value :=
  match x.safeInteger with
  | none => .error .notSafeInteger
  | some n =>
    if 0 ≤ n then .ok (.uint (UInt64.ofNat n.toNat)) else .ok (.nint (UInt64.ofNat (-1 - n).toNat))

mutual

/-- What is written for a value. -/
def CborValue.wire : CborValue → Except CborError Value
  | .number x => intArgument x
  | .bytes b => .ok (.bytes b)
  | .string s => .ok (.text (textEncode s))
  | .array items => .array <$> CborValue.wireItems items
  | .map entries => .map <$> CborValue.wireEntries entries
  | .bool b => .ok (.bool b)
  | .null => .ok .null

def CborValue.wireItems : List CborValue → Except CborError (List Value)
  | [] => .ok []
  | x :: items => do
    let x ← x.wire
    let items ← CborValue.wireItems items
    return x :: items

def CborValue.wireEntries : List (CborValue × CborValue) → Except CborError (List (Value × Value))
  | [] => .ok []
  | (k, v) :: entries => do
    let k ← k.wire
    let v ← v.wire
    let entries ← CborValue.wireEntries entries
    return (k, v) :: entries

end

section Order

variable {a b : Bytes}

/-- Among strings of one length, the first difference decides their lexicographic order. -/
theorem firstDifference_iff (h : a.length = b.length) :
    (firstDifference a b ≤ 0 ↔ a ≤ b) ∧ (firstDifference a b = 0 → a = b) := by
  induction a generalizing b with
  | nil => exact ⟨iff_of_true le_rfl (nil_le b), fun _ => (length_eq_zero_iff.1 h.symm).symm⟩
  | cons x a ih =>
    cases b with
    | nil => cases h
    | cons y b =>
      obtain ⟨hle, heq⟩ := ih (Nat.succ.inj h)
      simp only [firstDifference, cons_le_cons_iff, UInt8.lt_iff_toNat_lt, cons.injEq,
        ← UInt8.toNat_inj]
      split_ifs <;> grind

theorem compareBytes_le_zero :
    compareBytes a b ≤ 0 ↔ a.length < b.length ∨ a.length = b.length ∧ a ≤ b := by
  unfold compareBytes
  split_ifs with h
  · omega
  · simp [(firstDifference_iff (not_not.1 h)).1, not_not.1 h]

theorem eq_of_compareBytes_eq_zero (h : compareBytes a b = 0) : a = b := by
  unfold compareBytes at h
  split_ifs at h with hlength
  · omega
  · exact (firstDifference_iff (not_not.1 hlength)).2 h

/-- Shorter keys first, then bytewise. -/
def lengthFirst : KeyOrder where
  le a b := decide (compareBytes a b ≤ 0)
  trans a b c h h' := by
    simp only [decide_eq_true_eq, compareBytes_le_zero] at h h' ⊢
    grind [le_trans]
  total a b := by
    simp only [decide_eq_true_eq, compareBytes_le_zero]
    grind [le_total]
  antisymm a b h h' := by
    simp only [decide_eq_true_eq, compareBytes_le_zero] at h h'
    grind [le_antisymm]

end Order

/-- Encode a value as canonical CBOR. -/
def encode (v : CborValue) : Except CborError Bytes := lengthFirst.encode <$> v.wire

/-! ### Reading -/

/-- Bounds applied while decoding. -/
structure CborLimits where
  maxDepth : ℕ
  maxItems : ℕ
  maxString : ℕ
  items_safe : maxItems ≤ maxSafeInteger
  string_safe : maxString ≤ maxSafeInteger

/-- Whether `Map` takes two keys for one. Objects are never the same as a new one. -/
def CborValue.sameKey : CborValue → CborValue → Bool
  | .number x, .number y => x == y
  | .string s, .string t => s == t
  | .bool b, .bool c => b == c
  | .null, .null => true
  | _, _ => false

/-- `Map.set`. -/
def mapSet (entries : List (CborValue × CborValue)) (k v : CborValue) :
    List (CborValue × CborValue) :=
  if entries.any fun e => e.1.sameKey k then
    entries.map fun e => if e.1.sameKey k then (e.1, v) else e
  else entries ++ [(k, v)]

/-- Read a head and enforce the shortest form. -/
def canonicalHead (ai : UInt8) : Parser CborError UInt64 :=
  argument .truncated .reservedAdditional ai >>= fun arg =>
  if ai < 24 then pure arg
  else if arg < 24 then throw .nonCanonicalInteger
  else if ai ≠ additional arg then throw .nonCanonicalInteger
  else pure arg

/-- An argument that a JavaScript number holds. -/
def safeNumber (arg : UInt64) : Parser CborError ℕ :=
  if maxSafeInteger < arg.toNat then throw .exceedsSafeRange else pure arg.toNat

/-- A length within the limits. -/
def boundedLength (limits : CborLimits) (arg : UInt64) : Parser CborError ℕ :=
  if limits.maxString < arg.toNat then throw .exceedsLength else pure arg.toNat

/-- The text of UTF-8 bytes. -/
def readText (raw : Bytes) : Parser CborError CborValue :=
  match ofUtf8 raw with
  | some t => pure (.string (textDecode t))
  | none => throw .invalidUtf8

/-- The next item of an array. -/
def pushItem (value : Parser CborError CborValue) (items : List CborValue) :
    Parser CborError (List CborValue) :=
  value >>= fun x => pure (items ++ [x])

/-- The next entry of a map, with the encoding of the key before it. -/
def pushEntry (value : Parser CborError CborValue)
    (state : Option Bytes × List (CborValue × CborValue)) :
    Parser CborError (Option Bytes × List (CborValue × CborValue)) :=
  consumed value >>= fun key =>
  if state.1.any fun previous => decide (0 ≤ compareBytes previous key.2) then throw .unorderedKeys
  else value >>= fun v => pure (some key.2, mapSet state.2 key.1 v)

/-- An item after its first byte, with the reader of the items inside it. -/
def itemBody (limits : CborLimits) (value : Parser CborError CborValue) (major ai : UInt8) :
    Parser CborError CborValue :=
  match major.toNat with
  | 0 => canonicalHead ai >>= safeNumber >>= fun n => pure (.number (.finite n))
  | 1 => canonicalHead ai >>= safeNumber >>= fun n => pure (.number (.finite (-1 - n)))
  | 2 =>
    canonicalHead ai >>= boundedLength limits >>= (take · .truncated) >>= fun b => pure (.bytes b)
  | 3 => canonicalHead ai >>= boundedLength limits >>= (take · .truncated) >>= readText
  | 4 =>
    canonicalHead ai >>= fun arg =>
    if limits.maxItems < arg.toNat then throw .arrayTooLong
    else iterate (pushItem value) arg.toNat [] >>= fun items => pure (.array items)
  | 5 =>
    canonicalHead ai >>= fun arg =>
    if limits.maxItems < arg.toNat then throw .mapTooLong
    else iterate (pushEntry value) arg.toNat (none, []) >>= fun state => pure (.map state.2)
  | 7 =>
    match ai.toNat with
    | 20 => pure (.bool false)
    | 21 => pure (.bool true)
    | 22 => pure .null
    | _ => throw .unsupportedSimple
  | _ => throw .unsupportedMajor

/-- An item, with the levels that are left. -/
def item (limits : CborLimits) : ℕ → Parser CborError CborValue
  | 0 => throw .nestingTooDeep
  | levels + 1 =>
    byte .truncated >>= fun initial =>
    itemBody limits (item limits levels) (initial >>> 5) (initial &&& 0x1f)

/-- Decode strict canonical CBOR. -/
def decode (bytes : Bytes) (limits : CborLimits) : Except CborError CborValue :=
  ((item limits (limits.maxDepth + 1)).run bytes).bind fun r =>
    if r.2 ≠ [] then .error .trailingBytes else .ok r.1

/-- The value under an integer key of a map. -/
def mapGet (v : CborValue) (key : ℕ) : Except CborError (Option CborValue) :=
  match v with
  | .map entries => .ok ((entries.find? fun e => e.1.sameKey (.number (.finite key))).map Prod.snd)
  | _ => .error .expectedMap

/-! ### What is read from a written value -/

mutual

/-- What the reader makes of a value in canonical order. -/
def receive : Value → CborValue
  | .uint n => .number (.finite n.toNat)
  | .nint n => .number (.finite (-1 - n.toNat))
  | .bytes b => .bytes b
  | .text t => .string (textDecode t)
  | .array items => .array (receiveItems items)
  | .map entries => .map ((receiveEntries entries).foldl (fun acc e => mapSet acc e.1 e.2) [])
  | .bool b => .bool b
  | .null => .null

def receiveItems : List Value → List CborValue
  | [] => []
  | x :: items => receive x :: receiveItems items

def receiveEntries : List (Value × Value) → List (CborValue × CborValue)
  | [] => []
  | (k, v) :: entries => (receive k, receive v) :: receiveEntries entries

end

theorem receiveItems_eq (items : List Value) : receiveItems items = items.map receive := by
  induction items with
  | nil => rfl
  | cons x items ih => rw [receiveItems, ih, map_cons]

/-- The reader accepts the encoding, with the levels that are left. -/
inductive Readable (limits : CborLimits) : ℕ → Value → Prop
  | uint (levels : ℕ) {n : UInt64} (h : n.toNat ≤ maxSafeInteger) :
    Readable limits (levels + 1) (.uint n)
  | nint (levels : ℕ) {n : UInt64} (h : n.toNat ≤ maxSafeInteger) :
    Readable limits (levels + 1) (.nint n)
  | bytes (levels : ℕ) {b : Bytes} (h : b.length ≤ limits.maxString) :
    Readable limits (levels + 1) (.bytes b)
  | text (levels : ℕ) {t : String} (h : (utf8 t).length ≤ limits.maxString) :
    Readable limits (levels + 1) (.text t)
  | array {levels : ℕ} {items : List Value} (h : items.length ≤ limits.maxItems)
    (hitems : ∀ x ∈ items, Readable limits levels x) : Readable limits (levels + 1) (.array items)
  | map {levels : ℕ} {entries : List (Value × Value)} (h : entries.length ≤ limits.maxItems)
    (hdistinct : entries.Pairwise fun e e' => lengthFirst.encode e.1 ≠ lengthFirst.encode e'.1)
    (hkeys : ∀ e ∈ entries, Readable limits levels e.1)
    (hvalues : ∀ e ∈ entries, Readable limits levels e.2) :
    Readable limits (levels + 1) (.map entries)
  | bool (levels : ℕ) (b : Bool) : Readable limits (levels + 1) (.bool b)
  | null (levels : ℕ) : Readable limits (levels + 1) .null

/-- The parser reads the encoding of `v` as its canonical form. -/
def ReadsForm (p : Parser CborError CborValue) (v : Value) : Prop :=
  Reads p (lengthFirst.encode v) True (receive (lengthFirst.canon v))

section Reads

variable {limits : CborLimits} {levels : ℕ} {v : Value} {bs : Bytes} {w : CborValue}

/-- A length below the largest safe integer fits in a head. -/
theorem toNat_ofNat_of_safe {n limit : ℕ} (h : n ≤ limit) (hlimit : limit ≤ maxSafeInteger) :
    (ofNat n).toNat = n := by
  refine Nat.mod_eq_of_lt ((h.trans hlimit).trans_lt ?_)
  decide

open CborError

private theorem reads_canonicalHead (arg : UInt64) :
    Reads (canonicalHead (additional arg)) (argumentBytes arg) True arg := by
  have hchecks : Reads (if additional arg < 24 then pure arg
      else if arg < 24 then throw nonCanonicalInteger
      else if additional arg ≠ additional arg then throw nonCanonicalInteger
      else pure arg : Parser CborError UInt64) [] True arg := by
    split_ifs with hsmall harg hne
    · exact reads_pure arg
    · refine absurd ?_ hsmall
      rw [additional, if_pos harg, UInt8.lt_iff_toNat_lt, toNat_toUInt8]
      exact (Nat.mod_le _ _).trans_lt (lt_iff_toNat_lt.1 harg)
    · exact absurd rfl hne
    · exact reads_pure arg
  have h := (reads_argument truncated reservedAdditional arg).bind
    (f := fun a => if additional arg < 24 then pure a
      else if a < 24 then throw nonCanonicalInteger
      else if additional arg ≠ additional a then throw nonCanonicalInteger
      else pure a) fun _ => hchecks
  rw [append_nil] at h
  exact h.congr (and_iff_right trivial)

theorem reads_head_bind (arg : UInt64) {f : UInt64 → Parser CborError CborValue}
    (h : Reads (f arg) bs True w) :
    Reads (canonicalHead (additional arg) >>= f) (argumentBytes arg ++ bs) True w :=
  ((reads_canonicalHead arg).bind fun _ => h).congr (and_iff_right trivial)

theorem reads_item_of_body (major : UInt8) (arg : UInt64) (hmajor : major < 8)
    (hbytes : lengthFirst.encode v = head major arg ++ bs)
    (h : Reads (itemBody limits (item limits levels) major (additional arg))
      (argumentBytes arg ++ bs)
      True w) : Reads (item limits (levels + 1)) (lengthFirst.encode v) True w := by
  obtain ⟨hfirst, hlow⟩ := initial_parts hmajor (additional_lt arg)
  have hread := (reads_byte (e := truncated) (major <<< 5 ||| additional arg)).bind
    (f := fun initial : UInt8 =>
      itemBody limits (item limits levels) (initial >>> 5) (initial &&& 0x1f))
    fun _ => by rw [hfirst, hlow]; exact h
  rw [hbytes]
  exact hread.congr (and_iff_right trivial)

theorem reads_number {arg : UInt64} (h : arg.toNat ≤ maxSafeInteger) (f : ℕ → CborValue) :
    Reads (canonicalHead (additional arg) >>= safeNumber >>= fun n => pure (f n))
      (argumentBytes arg ++ []) True (f arg.toNat) := by
  have hread : Reads (safeNumber arg >>= fun n => pure (f n)) [] True (f arg.toNat) := by
    rw [safeNumber, if_neg (Nat.not_lt.2 h)]
    exact reads_pure _
  rw [bind_assoc]
  exact reads_head_bind arg (f := fun arg => safeNumber arg >>= fun n => pure (f n)) hread

theorem reads_string {b : Bytes} (h : b.length ≤ limits.maxString)
    {f : Bytes → Parser CborError CborValue} (hf : Reads (f b) [] True w) :
    Reads (canonicalHead (additional (ofNat b.length)) >>= boundedLength limits >>=
      (take · .truncated) >>= f) (argumentBytes (ofNat b.length) ++ b) True w := by
  have hlength := toNat_ofNat_of_safe h limits.string_safe
  have hbounded : boundedLength limits (ofNat b.length) = pure b.length := by
    rw [boundedLength, hlength, if_neg (Nat.not_lt.2 h)]
  have htake := (reads_take (e := truncated) b).bind fun _ => hf
  rw [append_nil] at htake
  have hread : Reads _ (argumentBytes (ofNat b.length) ++ b) True w :=
    reads_head_bind (ofNat b.length)
      (f := fun arg => boundedLength limits arg >>= fun n => take n truncated >>= f)
      (by rw [hbounded, pure_bind]; exact htake.congr (and_iff_right trivial))
  simpa only [bind_assoc] using hread

theorem reads_readText (t : String) :
    Reads (readText (utf8 t)) [] True (.string (textDecode t)) := by
  unfold readText
  rw [ofUtf8_utf8]
  exact reads_pure _

variable {p : Parser CborError CborValue} {items : List Value}

theorem reads_items (h : ∀ x ∈ items, ReadsForm p x) :
    Reads (iterate (pushItem p) items.length []) (items.flatMap lengthFirst.encode) True
      (items.map fun x => receive (lengthFirst.canon x)) := by
  have hiterate := Reads.iterate lengthFirst.encode (fun _ _ => True)
    (fun acc x => acc ++ [receive (lengthFirst.canon x)])
    (fun acc x hx => (h x hx).map fun y => acc ++ [y]) []
  rw [exec_append_map, nil_append] at hiterate
  exact hiterate.congr (iff_of_true ((along_const _ _).2 fun _ _ => trivial) trivial)

/-- What the loop over the entries of a map does with one entry. -/
def nextEntry (state : Option Bytes × List (CborValue × CborValue)) (e : Value × Value) :
    Option Bytes × List (CborValue × CborValue) :=
  (some (lengthFirst.encode e.1),
    mapSet state.2 (receive (lengthFirst.canon e.1)) (receive (lengthFirst.canon e.2)))

/-- The loop over the entries fills the map. -/
theorem exec_nextEntry (entries : List (Value × Value))
    (state : Option Bytes × List (CborValue × CborValue)) :
    (exec nextEntry state entries).2 =
      (receiveEntries (entries.map fun e => (lengthFirst.canon e.1, lengthFirst.canon e.2))).foldl
        (fun acc e => mapSet acc e.1 e.2) state.2 := by
  induction entries generalizing state with
  | nil => rfl
  | cons e entries ih => rw [exec_cons, ih, map_cons, receiveEntries, foldl_cons]; rfl

variable {entries : List (Value × Value)}

private theorem along_ascending {previous : Option Bytes}
    (hfirst : ∀ p ∈ previous, ∀ e ∈ entries, compareBytes p (lengthFirst.encode e.1) < 0)
    (h : entries.Pairwise fun e e' =>
      compareBytes (lengthFirst.encode e.1) (lengthFirst.encode e'.1) < 0)
    (acc : List (CborValue × CborValue)) :
    Along nextEntry (fun state e => ∀ p ∈ state.1, compareBytes p (lengthFirst.encode e.1) < 0)
      (previous, acc) entries := by
  induction entries generalizing previous acc with
  | nil => exact along_nil _
  | cons e entries ih =>
    obtain ⟨hnext, hrest⟩ := pairwise_cons.1 h
    refine ⟨fun p hp => hfirst p hp e mem_cons_self, ih ?_ hrest _⟩
    intro p hp
    cases hp
    exact hnext

theorem reads_entries (h : ∀ e ∈ entries, ReadsForm p e.1 ∧ ReadsForm p e.2)
    (hascending : entries.Pairwise fun e e' =>
      compareBytes (lengthFirst.encode e.1) (lengthFirst.encode e'.1) < 0) :
    Reads (iterate (pushEntry p) entries.length (none, []))
      (entries.flatMap fun e => lengthFirst.encode e.1 ++ lengthFirst.encode e.2) True
      (exec nextEntry (none, []) entries) := by
  have hentry (state : Option Bytes × List (CborValue × CborValue)) (e : Value × Value)
      (he : e ∈ entries) :
      Reads (pushEntry p state) (lengthFirst.encode e.1 ++ lengthFirst.encode e.2)
        (∀ previous ∈ state.1, compareBytes previous (lengthFirst.encode e.1) < 0)
        (nextEntry state e) := by
    have hread := (h e he).1.consumed.bind
      (f := fun key => if state.1.any fun previous => decide (0 ≤ compareBytes previous key.2) then
          throw unorderedKeys
        else p >>= fun v => pure (some key.2, mapSet state.2 key.1 v))
      fun _ => Reads.guard fun _ => (h e he).2.map fun v =>
        (some (lengthFirst.encode e.1), mapSet state.2 (receive (lengthFirst.canon e.1)) v)
    refine hread.congr ?_
    simp [Option.any_eq_true]
  refine (Reads.iterate _ _ nextEntry hentry (none, [])).congr (iff_of_true ?_ trivial)
  exact along_ascending (fun p hp => absurd hp (Option.not_mem_none p)) hascending []

theorem reads_array (h : items.length ≤ limits.maxItems)
    (hitems : ∀ x ∈ items, ReadsForm (item limits levels) x) :
    ReadsForm (item limits (levels + 1)) (.array items) := by
  have hlength := toNat_ofNat_of_safe h limits.items_safe
  refine reads_item_of_body 4 (ofNat items.length) (by decide)
    (lengthFirst.encode_array items) (reads_head_bind _ ?_)
  rw [hlength, if_neg (Nat.not_lt.2 h), KeyOrder.canon_array, receive, receiveItems_eq, map_map]
  exact (reads_items hitems).map CborValue.array

private theorem reads_map (h : entries.length ≤ limits.maxItems)
    (hdistinct : entries.Pairwise fun e e' => lengthFirst.encode e.1 ≠ lengthFirst.encode e'.1)
    (hentries : ∀ e ∈ entries,
      ReadsForm (item limits levels) e.1 ∧ ReadsForm (item limits levels) e.2) :
    ReadsForm (item limits (levels + 1)) (.map entries) := by
  have hlength := toNat_ofNat_of_safe h limits.items_safe
  have hperm := lengthFirst.sorted_perm entries
  -- sorted and different keys ascend
  have hascending : (lengthFirst.sorted entries).Pairwise fun e e' =>
      compareBytes (lengthFirst.encode e.1) (lengthFirst.encode e'.1) < 0 := by
    have hne := hperm.symm.pairwise hdistinct fun hne => hne.symm
    refine ((lengthFirst.sorted_pairwise entries).and hne).imp fun {e e'} h => ?_
    exact lt_of_le_of_ne (of_decide_eq_true h.1) fun hzero =>
      h.2 (eq_of_compareBytes_eq_zero hzero)
  refine reads_item_of_body 5 (ofNat entries.length) (by decide)
    (lengthFirst.encode_map entries) (reads_head_bind _ ?_)
  rw [hlength, if_neg (Nat.not_lt.2 h), KeyOrder.canon_map, receive,
    ← lengthFirst.length_sorted entries]
  have hread := (reads_entries (fun e he => hentries e (hperm.mem_iff.1 he)) hascending).map
    fun state => CborValue.map state.2
  rwa [exec_nextEntry] at hread

/-- What is accepted is read as the canonical form. -/
theorem reads_item (h : Readable limits levels v) : ReadsForm (item limits levels) v := by
  induction h with
  | uint levels h =>
    refine reads_item_of_body 0 _ (by decide) (append_nil _).symm ?_
    exact reads_number h fun n => .number (.finite n)
  | nint levels h =>
    refine reads_item_of_body 1 _ (by decide) (append_nil _).symm ?_
    exact reads_number h fun n => .number (.finite (-1 - n))
  | bytes levels h => exact reads_item_of_body 2 _ (by decide) rfl (reads_string h (reads_pure _))
  | text levels h =>
    exact reads_item_of_body 3 _ (by decide) rfl (reads_string h (reads_readText _))
  | array h _ ih => exact reads_array h ih
  | map h hdistinct _ _ ihkeys ihvalues =>
    exact reads_map h hdistinct fun e he => ⟨ihkeys e he, ihvalues e he⟩
  | bool levels b =>
    cases b with
    | false => exact reads_item_of_body 7 20 (by decide) rfl (reads_pure _)
    | true => exact reads_item_of_body 7 21 (by decide) rfl (reads_pure _)
  | null => exact reads_item_of_body 7 22 (by decide) rfl (reads_pure _)

end Reads

/-- A value whose written form the reader accepts is decoded as the canonical order of that form. -/
theorem decode_encode {limits : CborLimits} {value : CborValue} {v : Value}
    (hwire : value.wire = .ok v) (h : Readable limits (limits.maxDepth + 1) v) :
    ∃ bytes, encode value = .ok bytes ∧
      decode bytes limits = .ok (receive (lengthFirst.canon v)) := by
  refine ⟨lengthFirst.encode v, by rw [encode, hwire]; rfl, ?_⟩
  have hread := (reads_item h [] _).2 ⟨trivial, rfl⟩
  rw [append_nil] at hread
  unfold decode
  rw [hread]
  rfl

/-- The entries are read in the order of their keys, whatever the order in which they are given. -/
theorem decode_encode_unordered :
    ∃ bytes, encode (.map [(.number (.finite 2), .null), (.number (.finite 1), .bool true)]) =
        .ok bytes ∧
      decode bytes ⟨1, 2, 0, by decide, by decide⟩ =
        .ok (.map [(.number (.finite 1), .bool true), (.number (.finite 2), .null)]) := by
  refine decode_encode (v := .map [(.uint 2, .null), (.uint 1, .bool true)]) rfl
    (.map (by decide) (by decide) ?_ ?_)
  · simp only [mem_cons, not_mem_nil, or_false, forall_eq_or_imp, forall_eq]
    exact ⟨.uint _ (by decide), .uint _ (by decide)⟩
  · simp only [mem_cons, not_mem_nil, or_false, forall_eq_or_imp, forall_eq]
    exact ⟨.null _, .bool _ _⟩

end CopyLocker.Packages
