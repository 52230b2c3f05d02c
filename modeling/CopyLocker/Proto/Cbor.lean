import CopyLocker.Foundation.Cbor
import CopyLocker.Proto.Artifacts

/-!
# The canonical CBOR codec

The codec of `copylocker-suite::cbor`, in which every artifact is encoded. The writer sorts the
entries of a map by the bytewise order of their encoded keys. The reader accepts any head and any
order, refuses what is outside its limits and maps with equal keys, and then compares the encoding
of what it read with its input.

The reader counts the levels that are left, where the source counts those it went down: a value at
depth `d` has `max_depth + 1 - d` levels left. The source's counter is a byte and overflow is
checked: with a limit of 255 it aborts on a value at depth 256, where this model answers that the
depth is exceeded.

## Main results

* `readsBack`: what the reader does with a canonical encoding.
* `decodeCanonical_toCanonical_iff`: when a canonical encoding is accepted.
* `wellFormed_of_decodeCanonical`: what is accepted respects the limits and is in canonical order.
* `canonical_codec_bijective`: the codec is a bijection up to the order of maps.
-/

namespace CopyLocker.Proto

open Foundation Parser Cbor Run CodecError List

/-! ### Writing -/

/-- The bytewise lexicographic order. -/
def bytewise : KeyOrder where
  le a b := decide (a ≤ b)
  trans _ _ _ h h' := decide_eq_true (List.le_trans (of_decide_eq_true h) (of_decide_eq_true h'))
  total a b := (List.le_total a b).imp decide_eq_true decide_eq_true
  antisymm _ _ h h' := List.le_antisymm (of_decide_eq_true h) (of_decide_eq_true h')

/-- Encode to canonical bytes. -/
def toCanonical (v : Value) : Bytes := bytewise.encode v

/-! ### Reading -/

/-- Limits applied while parsing. -/
structure Limits where
  maxDepth : UInt8
  maxItems : UInt64
  maxString : UInt64
  deriving DecidableEq

/-- A major type and its argument. -/
def readHead : Parser CodecError (UInt8 × UInt64) :=
  byte .malformed >>= fun ib =>
  argument .malformed .malformed (ib &&& 0x1f) >>= fun arg => pure (ib >>> 5, arg)

/-- The bytes of a string within the limits. -/
def readString (limits : Limits) (arg : UInt64) : Parser CodecError Bytes :=
  if limits.maxString < arg then throw .tooLong else take arg.toNat .malformed

/-- The text of UTF-8 bytes. -/
def readText (raw : Bytes) : Parser CodecError Value :=
  match ofUtf8 raw with
  | some s => pure (.text s)
  | none => throw .malformed

/-- The next item of an array. -/
def pushItem (value : Parser CodecError Value) (items : List Value) :
    Parser CodecError (List Value) :=
  value >>= fun x => pure (items ++ [x])

/-- The next entry of a map, which must not have the key of an earlier one. -/
def pushEntry (value : Parser CodecError Value) (entries : List (Value × Value)) :
    Parser CodecError (List (Value × Value)) :=
  value >>= fun k =>
  if entries.any (fun e => e.1 == k) then throw .notCanonical
  else value >>= fun v => pure (entries ++ [(k, v)])

/-- The value after its head, with the reader of the values inside it. -/
def readBody (limits : Limits) (value : Parser CodecError Value) (major : UInt8) (arg : UInt64) :
    Parser CodecError Value :=
  match major.toNat with
  | 0 => pure (.uint arg)
  | 1 => pure (.nint arg)
  | 2 => readString limits arg >>= fun b => pure (.bytes b)
  | 3 => readString limits arg >>= readText
  | 4 =>
    if limits.maxItems < arg then throw .tooLong
    else iterate (pushItem value) arg.toNat [] >>= fun items => pure (.array items)
  | 5 =>
    if limits.maxItems < arg then throw .tooLong
    else iterate (pushEntry value) arg.toNat [] >>= fun entries => pure (.map entries)
  | 7 =>
    match arg.toNat with
    | 20 => pure (.bool false)
    | 21 => pure (.bool true)
    | 22 => pure .null
    | _ => throw .malformed
  | _ => throw .malformed

/-- A value, with the levels that are left. -/
def readValue (limits : Limits) : ℕ → Parser CodecError Value
  | 0 => throw .depthExceeded
  | levels + 1 => readHead >>= fun h => readBody limits (readValue limits levels) h.1 h.2

/-- Parse canonical CBOR, rejecting anything non-canonical or outside the limits. -/
def decodeCanonical (bytes : Bytes) (limits : Limits) : Except CodecError Value :=
  ((readValue limits (limits.maxDepth.toNat + 1)).run bytes).bind fun (v, rest) =>
    if rest ≠ [] then .error .trailingBytes
    else if toCanonical v ≠ bytes then .error .notCanonical
    else .ok v

/-! ### What is within the limits -/

/-- The value respects the limits, with the levels that are left. -/
inductive Within (limits : Limits) : ℕ → Value → Prop
  | uint (levels : ℕ) (n : UInt64) : Within limits (levels + 1) (.uint n)
  | nint (levels : ℕ) (n : UInt64) : Within limits (levels + 1) (.nint n)
  | bytes (levels : ℕ) {b : Bytes} (h : b.length ≤ limits.maxString.toNat) :
    Within limits (levels + 1) (.bytes b)
  | text (levels : ℕ) {s : String} (h : (utf8 s).length ≤ limits.maxString.toNat) :
    Within limits (levels + 1) (.text s)
  | array {levels : ℕ} {items : List Value} (h : items.length ≤ limits.maxItems.toNat)
    (hitems : ∀ x ∈ items, Within limits levels x) : Within limits (levels + 1) (.array items)
  | map {levels : ℕ} {entries : List (Value × Value)} (h : entries.length ≤ limits.maxItems.toNat)
    (hkeys : ∀ e ∈ entries, Within limits levels e.1)
    (hvalues : ∀ e ∈ entries, Within limits levels e.2) : Within limits (levels + 1) (.map entries)
  | bool (levels : ℕ) (b : Bool) : Within limits (levels + 1) (.bool b)
  | null (levels : ℕ) : Within limits (levels + 1) .null

variable {limits : Limits} {levels : ℕ} {v : Value} {items : List Value}
  {entries : List (Value × Value)}

theorem within_array : Within limits (levels + 1) (.array items) ↔
    items.length ≤ limits.maxItems.toNat ∧ ∀ x ∈ items, Within limits levels x := by
  refine ⟨fun h => ?_, fun h => .array h.1 h.2⟩
  cases h with
  | array hlength hitems => exact ⟨hlength, hitems⟩

theorem within_map : Within limits (levels + 1) (.map entries) ↔
    entries.length ≤ limits.maxItems.toNat ∧
      ∀ e ∈ entries, Within limits levels e.1 ∧ Within limits levels e.2 := by
  refine ⟨fun h => ?_, fun h => .map h.1 (fun e he => (h.2 e he).1) fun e he => (h.2 e he).2⟩
  cases h with
  | map hlength hkeys hvalues => exact ⟨hlength, fun e he => ⟨hkeys e he, hvalues e he⟩⟩

theorem within_bytes {b : Bytes} :
    Within limits (levels + 1) (.bytes b) ↔ b.length ≤ limits.maxString.toNat := by
  refine ⟨fun h => ?_, .bytes levels⟩
  cases h with
  | bytes _ hlength => exact hlength

theorem within_text {s : String} :
    Within limits (levels + 1) (.text s) ↔ (utf8 s).length ≤ limits.maxString.toNat := by
  refine ⟨fun h => ?_, .text levels⟩
  cases h with
  | text _ hlength => exact hlength

/-- A record of few fields is within the limits if its values are. -/
theorem within_record {fields : List (UInt64 × Option Value)}
    (hlength : fields.length ≤ limits.maxItems.toNat) :
    Within limits (levels + 2) (record fields) ↔
      ∀ f ∈ fields, ∀ v ∈ f.2, Within limits (levels + 1) v := by
  rw [record, within_map]
  constructor
  · rintro ⟨-, h⟩ ⟨k, o⟩ hmem v hv
    obtain rfl := Option.mem_def.1 hv
    exact (h _ (mem_fieldEntries.2 ⟨k, v, hmem, rfl⟩)).2
  · refine fun h => ⟨(length_filterMap_le _ _).trans hlength, fun e he => ?_⟩
    obtain ⟨k, v, hmem, rfl⟩ := mem_fieldEntries.1 he
    exact ⟨.uint levels k, h _ hmem v rfl⟩

theorem within_textMap {entries : List (String × Value)} :
    Within limits (levels + 2) (textMap entries) ↔ entries.length ≤ limits.maxItems.toNat ∧
      ∀ e ∈ entries, (utf8 e.1).length ≤ limits.maxString.toNat ∧
        Within limits (levels + 1) e.2 := by
  rw [textMap, within_map, length_map]
  simp only [forall_mem_map, within_text]

theorem Within.representable (h : Within limits levels v) : Representable v := by
  have hbound {n : ℕ} {limit : UInt64} (hn : n ≤ limit.toNat) : n < 2 ^ 64 :=
    Nat.lt_of_le_of_lt hn limit.toNat_lt
  induction h with
  | uint _ n => exact .uint n
  | nint _ n => exact .nint n
  | bytes _ hlength => exact .bytes (hbound hlength)
  | text _ hlength => exact .text (hbound hlength)
  | array hlength _ ih => exact .array (hbound hlength) ih
  | map hlength _ _ ihkeys ihvalues => exact .map (hbound hlength) ihkeys ihvalues
  | bool _ b => exact .bool b
  | null => exact .null

/-! ### What the reader does with an encoding -/

section Reads

variable {Q : Prop} {bs : Bytes}

theorem reads_readHead {major : UInt8} (hmajor : major < 8) (arg : UInt64) :
    Reads readHead (head major arg) True (major, arg) := by
  obtain ⟨hfirst, hlow⟩ := initial_parts hmajor (additional_lt arg)
  have harg := reads_argument malformed malformed arg
  have hrest : Reads (argument malformed malformed
        ((major <<< 5 ||| additional arg) &&& 0x1f) >>= fun a =>
      pure ((major <<< 5 ||| additional arg) >>> 5, a)) (argumentBytes arg) True (major, arg) := by
    rw [hfirst, hlow]
    exact harg.map fun a => (major, a)
  have h := (reads_byte (e := malformed) (major <<< 5 ||| additional arg)).bind
    (f := fun ib => argument malformed malformed (ib &&& 0x1f) >>= fun a =>
      pure (ib >>> 5, a)) fun _ => hrest
  exact h.congr (and_iff_right trivial)

/-- On the encoding of `v` the reader succeeds exactly if `v` is within the limits and without
ambiguous keys, and returns its canonical form. -/
def ReadsBack (limits : Limits) (v : Value) : Prop :=
  ∀ levels, Reads (readValue limits levels) (toCanonical v)
    (Within limits levels v ∧ bytewise.Unique v) (bytewise.canon v)

/-- A value is read as its head and what follows it. -/
theorem readsBack_of_body {Q : ℕ → Prop} (major : UInt8) (arg : UInt64) (hmajor : major < 8)
    (hbytes : toCanonical v = head major arg ++ bs)
    (h : ∀ levels,
      Reads (readBody limits (readValue limits levels) major arg) bs (Q levels) (bytewise.canon v))
    (hQ : ∀ levels, Q levels ↔ Within limits (levels + 1) v ∧ bytewise.Unique v) :
    ReadsBack limits v := by
  intro levels
  cases levels with
  | zero => exact fun rest r => iff_of_false nofun nofun
  | succ levels =>
    have hvalue := (reads_readHead hmajor arg).bind
      (f := fun h => readBody limits (readValue limits levels) h.1 h.2) fun _ => h levels
    rw [hbytes]
    exact hvalue.congr ((and_iff_right trivial).trans (hQ levels))

theorem toNat_ofNat_of_lt {n : ℕ} (h : n < 2 ^ 64) : (UInt64.ofNat n).toNat = n := by
  exact Nat.mod_eq_of_lt h

variable {p : Parser CodecError Value} {P : Value → Prop}

theorem reads_bounded {limit : UInt64} {n : ℕ} (hn : n < 2 ^ 64) {w : Value} (h : Reads p bs Q w) :
    Reads (if limit < UInt64.ofNat n then throw .tooLong else p) bs (n ≤ limit.toNat ∧ Q) w := by
  refine (Reads.guard fun _ => h).congr (and_congr_left' ?_)
  rw [UInt64.lt_iff_toNat_lt, toNat_ofNat_of_lt hn, Nat.not_lt]

theorem reads_items (h : ∀ x ∈ items, Reads p (toCanonical x) (P x) (bytewise.canon x)) :
    Reads (iterate (pushItem p) items.length []) (items.flatMap toCanonical)
      (∀ x ∈ items, P x) (items.map bytewise.canon) := by
  have hiterate := Reads.iterate toCanonical (fun _ x => P x)
    (fun acc x => acc ++ [bytewise.canon x]) (fun acc x hx => (h x hx).map fun y => acc ++ [y]) []
  rw [exec_append_map, nil_append] at hiterate
  exact hiterate.congr (along_const _ _)

private theorem along_entries (entries acc : List (Value × Value)) :
    Along (fun acc e => acc ++ [(bytewise.canon e.1, bytewise.canon e.2)])
      (fun (acc : List (Value × Value)) (e : Value × Value) =>
        P e.1 ∧ ¬ (acc.any fun a => a.1 == bytewise.canon e.1) ∧ P e.2) acc entries ↔
      (∀ e ∈ entries, P e.1 ∧ P e.2) ∧ (∀ e ∈ entries, ∀ a ∈ acc, a.1 ≠ bytewise.canon e.1) ∧
        entries.Pairwise fun e e' => bytewise.canon e.1 ≠ bytewise.canon e'.1 := by
  induction entries generalizing acc with
  | nil => simp
  | cons e entries ih =>
    rw [along_cons, ih]
    simp only [any_eq_true, beq_iff_eq, not_exists, not_and, forall_mem_cons,
      mem_append, mem_singleton, pairwise_cons]
    constructor
    · rintro ⟨⟨hk, hnew, hv⟩, hparts, hacc, hpairwise⟩
      exact ⟨⟨⟨hk, hv⟩, hparts⟩, ⟨hnew, fun e' he' a ha => hacc e' he' a (.inl ha)⟩,
        fun e' he' => hacc e' he' _ (.inr rfl), hpairwise⟩
    · rintro ⟨⟨⟨hk, hv⟩, hparts⟩, ⟨hnew, hacc⟩, hfirst, hpairwise⟩
      refine ⟨⟨hk, hnew, hv⟩, hparts, fun e' he' a ha => ?_, hpairwise⟩
      rcases ha with ha | rfl
      · exact hacc e' he' a ha
      · exact hfirst e' he'

theorem reads_entries (h : ∀ e ∈ entries, Reads p (toCanonical e.1) (P e.1) (bytewise.canon e.1) ∧
      Reads p (toCanonical e.2) (P e.2) (bytewise.canon e.2)) :
    Reads (iterate (pushEntry p) entries.length [])
      (entries.flatMap fun e => toCanonical e.1 ++ toCanonical e.2)
      ((∀ e ∈ entries, P e.1 ∧ P e.2) ∧
        entries.Pairwise fun e e' => bytewise.canon e.1 ≠ bytewise.canon e'.1)
      (entries.map fun e => (bytewise.canon e.1, bytewise.canon e.2)) := by
  have hentry (acc : List (Value × Value)) (e : Value × Value) (he : e ∈ entries) :
      Reads (pushEntry p acc) (toCanonical e.1 ++ toCanonical e.2)
        (P e.1 ∧ ¬ (acc.any fun a => a.1 == bytewise.canon e.1) ∧ P e.2)
        (acc ++ [(bytewise.canon e.1, bytewise.canon e.2)]) :=
    (h e he).1.bind fun _ => Reads.guard fun _ =>
      (h e he).2.map fun v => acc ++ [(bytewise.canon e.1, v)]
  have hiterate := Reads.iterate _ _ _ hentry []
  rw [exec_append_map fun e : Value × Value => (bytewise.canon e.1, bytewise.canon e.2),
    nil_append] at hiterate
  refine hiterate.congr ((along_entries entries []).trans (and_congr_right' ?_))
  exact and_iff_right fun _ _ _ ha => absurd ha not_mem_nil

theorem reads_string {b : Bytes} (h : b.length < 2 ^ 64) {f : Bytes → Parser CodecError Value}
    {w : Value} (hf : Reads (f b) [] True w) :
    Reads (readString limits (UInt64.ofNat b.length) >>= f) b
      (b.length ≤ limits.maxString.toNat) w := by
  have hstring : Reads (readString limits (UInt64.ofNat b.length)) b
      (b.length ≤ limits.maxString.toNat) b := by
    unfold readString
    rw [toNat_ofNat_of_lt h]
    refine (Reads.guard fun _ => reads_take b).congr ?_
    rw [and_true, UInt64.lt_iff_toNat_lt, toNat_ofNat_of_lt h, Nat.not_lt]
  have hread := hstring.bind fun _ => hf
  rwa [append_nil, and_true] at hread

theorem reads_readText (s : String) : Reads (readText (utf8 s)) [] True (.text s) := by
  unfold readText
  rw [ofUtf8_utf8]
  exact reads_pure _

theorem readsBack_array (h : items.length < 2 ^ 64)
    (hitems : ∀ x ∈ items, ReadsBack limits x) : ReadsBack limits (.array items) := by
  refine readsBack_of_body 4 (UInt64.ofNat items.length) (by decide)
    (bytewise.encode_array items) (Q := fun levels => items.length ≤ limits.maxItems.toNat ∧
      ∀ x ∈ items, Within limits levels x ∧ bytewise.Unique x) (fun levels => ?_) fun levels => ?_
  · change Reads (if limits.maxItems < _ then throw tooLong else _) _ _ _
    rw [toNat_ofNat_of_lt h, KeyOrder.canon_array]
    exact reads_bounded h ((reads_items fun x hx => hitems x hx levels).map Value.array)
  · rw [within_array, KeyOrder.Unique, keysPairwise_array, and_assoc, ← forall₂_and]

theorem readsBack_map (h : entries.length < 2 ^ 64) (hkeys : ∀ e ∈ entries, ReadsBack limits e.1)
    (hvalues : ∀ e ∈ entries, ReadsBack limits e.2) : ReadsBack limits (.map entries) := by
  have hperm := bytewise.sorted_perm entries
  refine readsBack_of_body 5 (UInt64.ofNat entries.length) (by decide)
    (bytewise.encode_map entries) (Q := fun levels => entries.length ≤ limits.maxItems.toNat ∧
      (∀ e ∈ bytewise.sorted entries, (Within limits levels e.1 ∧ bytewise.Unique e.1) ∧
        Within limits levels e.2 ∧ bytewise.Unique e.2) ∧
      (bytewise.sorted entries).Pairwise fun e e' => bytewise.canon e.1 ≠ bytewise.canon e'.1)
    (fun levels => ?_) fun levels => ?_
  · have hentries : ∀ e ∈ bytewise.sorted entries, ReadsBack limits e.1 ∧ ReadsBack limits e.2 :=
      fun e he => ⟨hkeys e (hperm.mem_iff.1 he), hvalues e (hperm.mem_iff.1 he)⟩
    change Reads (if limits.maxItems < _ then throw tooLong else _) _ _ _
    rw [toNat_ofNat_of_lt h, KeyOrder.canon_map, ← bytewise.length_sorted entries]
    rw [← bytewise.length_sorted entries] at h
    have hread := reads_entries (P := fun v => Within limits levels v ∧ bytewise.Unique v)
      fun e he => ⟨(hentries e he).1 levels, (hentries e he).2 levels⟩
    exact reads_bounded h (hread.map Value.map)
  · rw [within_map, KeyOrder.Unique, keysPairwise_map,
      hperm.pairwise_iff fun h => Ne.symm h, and_assoc]
    refine and_congr_right' ⟨?_, ?_⟩
    · rintro ⟨hparts, hpairwise⟩
      have hparts := fun e he => hparts e (hperm.mem_iff.2 he)
      exact ⟨fun e he => ⟨(hparts e he).1.1, (hparts e he).2.1⟩, hpairwise,
        fun e he => ⟨(hparts e he).1.2, (hparts e he).2.2⟩⟩
    · rintro ⟨hwithin, hpairwise, hunique⟩
      refine ⟨fun e he => ?_, hpairwise⟩
      have he := hperm.mem_iff.1 he
      exact ⟨⟨(hwithin e he).1, (hunique e he).1⟩, (hwithin e he).2, (hunique e he).2⟩

/-- Every value is read back. -/
theorem readsBack (limits : Limits) (hv : Representable v) : ReadsBack limits v := by
  induction hv with
  | uint n =>
    exact readsBack_of_body 0 n (by decide) (append_nil _).symm (fun _ => reads_pure _)
      fun levels => iff_of_true trivial ⟨.uint levels n, .uint n⟩
  | nint n =>
    exact readsBack_of_body 1 n (by decide) (append_nil _).symm (fun _ => reads_pure _)
      fun levels => iff_of_true trivial ⟨.nint levels n, .nint n⟩
  | bytes h =>
    exact readsBack_of_body 2 _ (by decide) rfl (fun _ => reads_string h (reads_pure _))
      fun levels => within_bytes.symm.trans (and_iff_left (.bytes _)).symm
  | text h =>
    exact readsBack_of_body 3 _ (by decide) rfl (fun _ => reads_string h (reads_readText _))
      fun levels => within_text.symm.trans (and_iff_left (.text _)).symm
  | array h _ ih => exact readsBack_array h ih
  | map h _ _ ihkeys ihvalues => exact readsBack_map h ihkeys ihvalues
  | bool b =>
    cases b with
    | false =>
      exact readsBack_of_body 7 20 (by decide) rfl (fun _ => reads_pure _)
        fun levels => iff_of_true trivial ⟨.bool levels false, .bool false⟩
    | true =>
      exact readsBack_of_body 7 21 (by decide) rfl (fun _ => reads_pure _)
        fun levels => iff_of_true trivial ⟨.bool levels true, .bool true⟩
  | null =>
    exact readsBack_of_body 7 22 (by decide) rfl (fun _ => reads_pure _)
      fun levels => iff_of_true trivial ⟨.null levels, .null⟩

end Reads

/-! ### Decoding -/

variable {bytes : Bytes} {w : Value}

theorem decodeCanonical_eq_ok : decodeCanonical bytes limits = .ok v ↔
    (readValue limits (limits.maxDepth.toNat + 1)).run bytes = .ok (v, []) ∧
      toCanonical v = bytes := by
  refine Result.bind_eq_ok.trans ⟨?_, ?_⟩
  · rintro ⟨⟨u, rest⟩, hread, hchecks⟩
    dsimp only at hchecks
    split_ifs at hchecks with hrest hcanonical
    cases hchecks
    rw [not_not] at hrest hcanonical
    exact ⟨hrest ▸ hread, hcanonical⟩
  · rintro ⟨hread, hcanonical⟩
    refine ⟨(v, []), hread, ?_⟩
    dsimp only
    rw [if_neg (not_not.2 rfl), if_neg (not_not.2 hcanonical)]

/-- When a canonical encoding is accepted, and as what. -/
theorem decodeCanonical_toCanonical_iff (hv : Representable v) :
    decodeCanonical (toCanonical v) limits = .ok w ↔
      (Within limits (limits.maxDepth.toNat + 1) v ∧ bytewise.Unique v) ∧ w = bytewise.canon v := by
  have hread := readsBack limits hv (limits.maxDepth.toNat + 1) [] (w, [])
  rw [append_nil] at hread
  rw [decodeCanonical_eq_ok, hread]
  constructor
  · rintro ⟨⟨hgood, heq⟩, -⟩
    exact ⟨hgood, (Prod.mk.inj heq).1⟩
  · rintro ⟨hgood, rfl⟩
    exact ⟨⟨hgood, rfl⟩, bytewise.encode_canon v⟩

/-- Limits with room for every length. -/
def anyLength : Limits := ⟨0, 0xffffffffffffffff, 0xffffffffffffffff⟩

/-- With room for every length and enough levels, each value is within the limits. -/
theorem within_of_sizeOf (hv : Representable v) {levels : ℕ} (h : sizeOf v ≤ levels) :
    Within anyLength levels v := by
  have hbound {n : ℕ} (hn : n < 2 ^ 64) : n ≤ (0xffffffffffffffff : UInt64).toNat := by
    change n ≤ 18446744073709551615
    omega
  induction hv generalizing levels with
  | uint n | nint n | bytes hlength | text hlength | bool b | null =>
    obtain _ | levels := levels
    · simp at h
    · constructor <;> exact hbound hlength
  | array hlength _ ih =>
    obtain _ | levels := levels
    · simp at h
    · simp only [Value.array.sizeOf_spec] at h
      refine .array (hbound hlength) fun x hx => ih x hx ?_
      have := sizeOf_lt_of_mem hx
      omega
  | @map entries hlength _ _ ihkeys ihvalues =>
    obtain _ | levels := levels
    · simp at h
    · simp only [Value.map.sizeOf_spec] at h
      have hparts (e : Value × Value) (he : e ∈ entries) :
          sizeOf e.1 ≤ levels ∧ sizeOf e.2 ≤ levels := by
        have := sizeOf_lt_of_mem he
        obtain ⟨k, v⟩ := e
        simp only [Prod.mk.sizeOf_spec] at this
        dsimp only
        omega
      exact .map (hbound hlength) (fun e he => ihkeys e he (hparts e he).1)
        fun e he => ihvalues e he (hparts e he).2

theorem determines_bytewise : bytewise.Determines := by
  intro v w hv hw huv huw hencode
  have hread {u : Value} (hu : Representable u) (huu : bytewise.Unique u)
      (hsize : sizeOf u ≤ sizeOf v + sizeOf w) :
      (readValue anyLength (sizeOf v + sizeOf w)).run (toCanonical u ++ []) =
        .ok (bytewise.canon u, []) :=
    (readsBack _ hu _ _ _).2 ⟨⟨within_of_sizeOf hu hsize, huu⟩, rfl⟩
  have hsame := (hread hv huv (Nat.le_add_right _ _)).symm.trans
    (congrArg (fun bytes => (readValue anyLength (sizeOf v + sizeOf w)).run (bytes ++ [])) hencode)
  exact (Prod.mk.inj (Except.ok.inj (hsame.trans (hread hw huw (Nat.le_add_left _ _))))).1

private theorem length_of_readString {arg : UInt64} {b rest : Bytes}
    (h : (readString limits arg).run bytes = .ok (b, rest)) : b.length < 2 ^ 64 := by
  unfold readString at h
  split_ifs at h
  · cases h
  · change (if arg.toNat ≤ bytes.length then .ok (bytes.take arg.toNat, bytes.drop arg.toNat)
      else .error malformed) = Except.ok (b, rest) at h
    split_ifs at h with hle
    cases h
    rw [length_take, Nat.min_eq_left hle]
    exact arg.toNat_lt

private theorem representable_of_readValue {levels : ℕ} {rest : Bytes}
    (h : (readValue limits levels).run bytes = .ok (v, rest)) : Representable v := by
  induction levels generalizing bytes v rest with
  | zero => cases h
  | succ levels ih =>
    have hpushItem (acc : List Value) (bs : Bytes) (r : List Value × Bytes)
        (hr : (pushItem (readValue limits levels) acc).run bs = .ok r) :
        ∃ x, Representable x ∧ r.1 = acc ++ [x] := by
      obtain ⟨x, rest', hx, hpush⟩ := run_bind_eq_ok.1 hr
      cases hpush
      exact ⟨x, ih hx, rfl⟩
    have hpushEntry (acc : List (Value × Value)) (bs : Bytes) (r : List (Value × Value) × Bytes)
        (hr : (pushEntry (readValue limits levels) acc).run bs = .ok r) :
        ∃ e : Value × Value, (Representable e.1 ∧ Representable e.2) ∧ r.1 = acc ++ [e] := by
      obtain ⟨key, rest', hkey, hentry⟩ := run_bind_eq_ok.1 hr
      split_ifs at hentry
      · cases hentry
      obtain ⟨value, rest'', hvalue, hpush⟩ := run_bind_eq_ok.1 hentry
      cases hpush
      exact ⟨(key, value), ⟨ih hkey, ih hvalue⟩, rfl⟩
    obtain ⟨⟨major, arg⟩, bytes', -, hbody⟩ := run_bind_eq_ok.1 h
    unfold readBody at hbody
    split at hbody
    · cases hbody
      exact .uint arg
    · cases hbody
      exact .nint arg
    · obtain ⟨b, rest', hstring, hpure⟩ := run_bind_eq_ok.1 hbody
      cases hpure
      exact .bytes (length_of_readString hstring)
    · obtain ⟨raw, rest', hstring, htext⟩ := run_bind_eq_ok.1 hbody
      unfold readText at htext
      split at htext
      next s hs =>
        cases htext
        refine .text ?_
        rw [utf8_of_ofUtf8 hs]
        exact length_of_readString hstring
      · cases htext
    · split_ifs at hbody
      · cases hbody
      obtain ⟨items, rest', hitems, hpure⟩ := run_bind_eq_ok.1 hbody
      cases hpure
      obtain ⟨l, rfl, hlength, hall⟩ := iterate_append hpushItem hitems
      exact .array (hlength ▸ arg.toNat_lt) hall
    · split_ifs at hbody
      · cases hbody
      obtain ⟨entries, rest', hentries, hpure⟩ := run_bind_eq_ok.1 hbody
      cases hpure
      obtain ⟨l, rfl, hlength, hall⟩ := iterate_append hpushEntry hentries
      exact representable_map.2 ⟨hlength ▸ arg.toNat_lt, hall⟩
    · split at hbody
      · cases hbody
        exact .bool false
      · cases hbody
        exact .bool true
      · cases hbody
        exact .null
      · cases hbody
    · cases hbody

/-- What is accepted is within the limits, without ambiguous keys, and in canonical order. -/
theorem wellFormed_of_decodeCanonical (h : decodeCanonical bytes limits = .ok v) :
    Within limits (limits.maxDepth.toNat + 1) v ∧ bytewise.Unique v ∧ v = bytewise.canon v := by
  obtain ⟨hread, hcanonical⟩ := decodeCanonical_eq_ok.1 h
  have hv := representable_of_readValue hread
  rw [← hcanonical] at h
  obtain ⟨⟨hwithin, hunique⟩, hcanon⟩ := (decodeCanonical_toCanonical_iff hv).1 h
  exact ⟨hwithin, hunique, hcanon⟩

/-- The codec is a bijection: a value within the limits without equal keys is decoded from its
encoding up to the order of maps, accepted bytes are the encoding of what they are decoded to, and
different accepted bytes are decoded to different values, also up to the order of maps. -/
theorem canonical_codec_bijective (limits : Limits) :
    (∀ v, Within limits (limits.maxDepth.toNat + 1) v → KeysPairwise (fun k k' => ¬ Same k k') v →
      ∃ w, decodeCanonical (toCanonical v) limits = .ok w ∧ Same v w) ∧
    (∀ bytes v, decodeCanonical bytes limits = .ok v → toCanonical v = bytes) ∧
    ∀ bytes bytes' v v', decodeCanonical bytes limits = .ok v →
      decodeCanonical bytes' limits = .ok v' → Same v v' → bytes = bytes' := by
  refine ⟨fun v hwithin hkeys => ?_, fun bytes v h => (decodeCanonical_eq_ok.1 h).2,
    fun bytes bytes' v v' h h' hsame => ?_⟩
  · have hunique := (KeyOrder.unique_iff determines_bytewise hwithin.representable).2 hkeys
    exact ⟨bytewise.canon v, (decodeCanonical_toCanonical_iff hwithin.representable).2
      ⟨⟨hwithin, hunique⟩, rfl⟩, bytewise.same_canon v⟩
  · obtain ⟨hwithin, hunique, -⟩ := wellFormed_of_decodeCanonical h
    obtain ⟨hwithin', hunique', -⟩ := wellFormed_of_decodeCanonical h'
    rw [← (decodeCanonical_eq_ok.1 h).2, ← (decodeCanonical_eq_ok.1 h').2]
    exact (KeyOrder.encode_eq_iff_same determines_bytewise hwithin.representable
      hwithin'.representable hunique hunique').2 hsame

/-- The default limits of the source. -/
def Limits.default : Limits := ⟨16, 4096, 64 * 1024⟩

/-- A map whose entries are not in the order of their keys. -/
def unorderedMap : Value := .map [(.uint 2, .text "b"), (.uint 1, .array [.null])]

/-- It is accepted in the order of its keys. -/
theorem unorderedMap_round_trip :
    decodeCanonical (toCanonical unorderedMap) .default =
        .ok (.map [(.uint 1, .array [.null]), (.uint 2, .text "b")]) ∧
      ∃ w, decodeCanonical (toCanonical unorderedMap) .default = .ok w ∧ Same unorderedMap w := by
  refine ⟨by decide +kernel, (canonical_codec_bijective .default).1 unorderedMap ?_ ?_⟩
  · refine within_map.2 ⟨by decide, ?_⟩
    simp only [forall_mem_cons, not_mem_nil, false_imp_iff, implies_true, and_true]
    exact ⟨⟨.uint _ _, .text _ (by decide +kernel)⟩, .uint _ _, .array (by decide) (by
      simpa using Within.null _)⟩
  · refine keysPairwise_map.2 ⟨?_, ?_⟩
    · have hne : ¬ Same (.uint 2) (.uint 1) := by
        intro h
        rcases Relation.ReflTransGen.cases_head h with heq | ⟨_, hswap, -⟩
        · cases heq
        · cases hswap
      simpa using hne
    · simp only [forall_mem_cons, not_mem_nil, false_imp_iff, implies_true, and_true]
      exact ⟨⟨.uint _, .text _⟩, .uint _, .array (by simpa using KeysPairwise.null)⟩

/-- Keys that differ in the order of their entries only are equal keys. -/
example :
    decodeCanonical (toCanonical (.map [(.map [(.uint 1, .null), (.uint 2, .null)], .null),
        (.map [(.uint 2, .null), (.uint 1, .null)], .null)])) .default = .error .notCanonical := by
  decide +kernel

end CopyLocker.Proto
