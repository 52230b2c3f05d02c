import CopyLocker.Foundation.Result
import CopyLocker.Proto.Artifacts
import Mathlib.Data.List.Induction

/-!
# License keys

The key a user types, `copylocker-proto::license_key`: twenty symbols of five bits, the last twelve
bits of which are a CRC of the first 88. Entry is tolerant: case, separators, look-alike letters and
the prefix do not matter, and the checksum tells a slip of one or two neighbouring symbols.

The register of the CRC is linear, and the checksum holds if all hundred bits leave it empty. A
change of two neighbouring symbols leaves something in it, which the symbols after it do not clear.
-/

namespace CopyLocker.Proto

open Foundation Result List Except

/-! ### Checksum -/

/-- Shift one bit into the register. -/
def crcStep (crc : BitVec 12) (bit : Bool) : BitVec 12 :=
  if crc.msb ^^ bit then crc <<< 1 ^^^ 0xF13 else crc <<< 1

/-- Shift in the lowest `n` bits of a value, most significant first. -/
def crcFrom : ℕ → BitVec 12 → ℕ → BitVec 12
  | 0, crc, _ => crc
  | n + 1, crc, value => crcFrom n (crcStep crc (value.testBit n)) value

/-- The checksum of the first 88 bits. -/
def crc12 (value : ℕ) : BitVec 12 := crcFrom 88 0 value

/-! ### Symbols -/

/-- Crockford's symbols. -/
def alphabet : List Char := "0123456789ABCDEFGHJKMNPQRSTVWXYZ".toList

/-- The symbol of five bits. -/
def symbol (d : BitVec 5) : Char := alphabet.get ⟨d.toNat, d.isLt⟩

/-- Letters that look like a digit are read as the digit. -/
def confusable (c : Char) : Char :=
  if c = 'I' ∨ c = 'L' then '1' else if c = 'O' then '0' else c

/-- The five bits of a symbol, or of one that is confused with it. -/
def decodeChar (c : Char) : Except ProtoError (BitVec 5) :=
  ofOption ((alphabet.findIdx? (· == confusable c)).map (BitVec.ofNat 5)) .malformedLicenseKey

/-- The lowest `width` symbols of a number, most significant first. -/
def toSymbols : ℕ → ℕ → List (BitVec 5)
  | 0, _ => []
  | width + 1, n => toSymbols width (n / 32) ++ [BitVec.ofNat 5 n]

/-- The number that symbols spell. -/
def ofSymbols (ds : List (BitVec 5)) : ℕ := ds.foldl (fun n d => n * 32 + d.toNat) 0

/-! ### Keys -/

/-- A license key: a product byte and ten random bytes. -/
structure LicenseKey where
  productShort : UInt8
  random : ByteId 10
  deriving DecidableEq

/-- The characters in groups of five, each after a dash. -/
def grouped (cs : List Char) : List Char :=
  cs.zipIdx.flatMap fun (c, i) => if i % 5 = 0 then ['-', c] else [c]

/-- The text before the symbols. -/
def versionPrefix : List Char := ['C', 'L', Char.ofNat (48 + protoVer)]

namespace LicenseKey

/-- The 88 bits under the checksum. -/
def checked (k : LicenseKey) : ℕ := k.productShort.toNat * 2 ^ 80 + k.random.toNat

/-- The key of its 88 bits. -/
def ofChecked (checked : ℕ) : LicenseKey :=
  { productShort := UInt8.ofNat (checked / 2 ^ 80), random := BitVec.ofNat 80 checked }

/-- The key followed by its checksum. -/
def payloadBits (k : LicenseKey) : ℕ := k.checked * 2 ^ 12 + (crc12 k.checked).toNat

/-- The twenty symbols of a key. -/
def symbols (k : LicenseKey) : List (BitVec 5) := toSymbols 20 k.payloadBits

/-- The text of a key. -/
def toStringGrouped (k : LicenseKey) : String :=
  String.ofList (versionPrefix ++ grouped (k.symbols.map symbol))

end LicenseKey

/-- What is typed, without separators and in upper case. -/
def entered (input : List Char) : List Char := (input.filter Char.isAlphanum).map Char.toUpper

/-- Strip the prefix, and reject a version this build does not speak. -/
def entryBody : List Char → Except ProtoError (List Char)
  | 'C' :: 'L' :: v :: rest =>
    let ver := ((confusable v).toNat.toUInt8 - 48).toNat
    if ver = protoVer then .ok rest else .error (.unsupportedProtoVersion ver)
  | chars => .ok chars

/-- The symbols of an entry, with look-alike letters replaced. -/
def payloadSymbols (input : String) : Except ProtoError (List Char) :=
  List.map confusable <$> entryBody (entered input.toList)

/-- Read a key as it was typed. -/
def LicenseKey.parse (input : String) : Except ProtoError LicenseKey := do
  let body ← entryBody (entered input.toList)
  require (body.length = 20) .malformedLicenseKey
  let digits ← body.mapM decodeChar
  let bits := ofSymbols digits
  let checked := bits / 2 ^ 12
  require (crc12 checked = BitVec.ofNat 12 bits) .malformedLicenseKey
  return ofChecked checked

/-! ### The register -/

section Register

variable {n m v v' : ℕ} {r r' : BitVec 12}

private theorem crcStep_xor {b b' : Bool} :
    crcStep (r ^^^ r') (b ^^ b') = crcStep r b ^^^ crcStep r' b' := by
  have htap : ∀ t t' : Bool, (if t ^^ t' then 0xF13 else 0 : BitVec 12) =
      (if t then 0xF13 else 0) ^^^ if t' then 0xF13 else 0 := by decide
  have hstep (r : BitVec 12) (b : Bool) :
      crcStep r b = r <<< 1 ^^^ if r.msb ^^ b then 0xF13 else 0 := by
    unfold crcStep
    split <;> simp
  have htop : ((r ^^^ r').msb ^^ (b ^^ b')) = ((r.msb ^^ b) ^^ (r'.msb ^^ b')) := by
    simp only [BitVec.msb_xor, Bool.xor_assoc, Bool.xor_left_comm]
  rw [hstep, hstep r, hstep r', htop, htap, BitVec.shiftLeft_xor_distrib]
  ac_rfl

theorem crcFrom_xor : crcFrom n (r ^^^ r') (v ^^^ v') = crcFrom n r v ^^^ crcFrom n r' v' := by
  induction n generalizing r r' with
  | zero => rfl
  | succ n ih => simp only [crcFrom, Nat.testBit_xor, crcStep_xor, ih]

theorem crcFrom_add : crcFrom (m + n) r v = crcFrom n (crcFrom m r (v / 2 ^ n)) v := by
  induction m generalizing r with
  | zero => rw [Nat.zero_add]; rfl
  | succ m ih => rw [Nat.succ_add, crcFrom, ih, crcFrom, Nat.testBit_div_two_pow, Nat.add_comm m n]

theorem crcFrom_mod (hm : n ≤ m) : crcFrom n r (v % 2 ^ m) = crcFrom n r v := by
  induction n generalizing r with
  | zero => rfl
  | succ n ih => simp [crcFrom, ih (by omega), decide_eq_true (show n < m by omega)]

theorem crcFrom_zero (h : crcFrom n r 0 = 0) : r = 0 := by
  have hstep : ∀ r : BitVec 12, crcStep r false = 0 → r = 0 := by decide +kernel
  induction n generalizing r with
  | zero => exact h
  | succ n ih => exact hstep r (by simpa using ih h)

/-- The register is emptied by what it holds, and by nothing else. -/
theorem crcFrom_eq_zero_iff : crcFrom 12 r v = 0 ↔ r = BitVec.ofNat 12 v := by
  have hown : ∀ c : BitVec 12, crcFrom 12 c c.toNat = 0 := by decide +kernel
  have hv : crcFrom 12 (BitVec.ofNat 12 v) v = 0 := by
    rw [← crcFrom_mod le_rfl]
    exact hown (BitVec.ofNat 12 v)
  refine ⟨fun h => ?_, fun h => h ▸ hv⟩
  have hdiff : crcFrom 12 (r ^^^ BitVec.ofNat 12 v) (v ^^^ v) = 0 := by
    rw [crcFrom_xor, h, hv]
    rfl
  rw [Nat.xor_self] at hdiff
  exact BitVec.xor_eq_zero_iff.1 (crcFrom_zero hdiff)

/-- Shift in a symbol. -/
def crcSymbol (crc : BitVec 12) (d : BitVec 5) : BitVec 12 := crcFrom 5 crc d.toNat

theorem crcSymbol_xor {d d' : BitVec 5} :
    crcSymbol (r ^^^ r') (d ^^^ d') = crcSymbol r d ^^^ crcSymbol r' d' := by
  rw [crcSymbol, BitVec.toNat_xor, crcFrom_xor]
  rfl

theorem ofSymbols_concat (ds : List (BitVec 5)) (d : BitVec 5) :
    ofSymbols (ds ++ [d]) = ofSymbols ds * 32 + d.toNat := by
  simp [ofSymbols]

theorem crcFrom_ofSymbols (ds : List (BitVec 5)) :
    crcFrom (5 * ds.length) r (ofSymbols ds) = ds.foldl crcSymbol r := by
  induction ds using reverseRecOn with
  | nil => rfl
  | append_singleton ds d ih =>
    have hquotient : (ofSymbols ds * 32 + d.toNat) / 2 ^ 5 = ofSymbols ds := by omega
    have hrest : (ofSymbols ds * 32 + d.toNat) % 2 ^ 5 = d.toNat := by omega
    rw [length_append, length_singleton, Nat.mul_add, crcFrom_add, ofSymbols_concat,
      hquotient, ih, ← crcFrom_mod (m := 5) le_rfl, hrest, foldl_concat, crcSymbol]

theorem crcSymbols_inj {ds : List (BitVec 5)} (h : ds.foldl crcSymbol r = ds.foldl crcSymbol r') :
    r = r' := by
  induction ds generalizing r r' with
  | nil => exact h
  | cons d ds ih =>
    have hdiff : crcSymbol (r ^^^ r') (d ^^^ d) = 0 := by
      rw [crcSymbol_xor, ih h]
      exact BitVec.xor_self
    rw [BitVec.xor_self] at hdiff
    exact BitVec.xor_eq_zero_iff.1 (crcFrom_zero hdiff)

/-- Two symbols leave different registers. -/
theorem crcSymbol_pair_inj {a b a' b' : BitVec 5}
    (h : crcSymbol (crcSymbol r a) b = crcSymbol (crcSymbol r a') b') : a = a' ∧ b = b' := by
  have hburst : ∀ x y : BitVec 5, crcSymbol (crcSymbol 0 x) y = 0 → x = 0 ∧ y = 0 := by
    decide +kernel
  have hdiff : crcSymbol (crcSymbol (r ^^^ r) (a ^^^ a')) (b ^^^ b') = 0 := by
    rw [crcSymbol_xor, crcSymbol_xor, h]
    exact BitVec.xor_self
  rw [BitVec.xor_self] at hdiff
  obtain ⟨ha, hb⟩ := hburst _ _ hdiff
  exact ⟨BitVec.xor_eq_zero_iff.1 ha, BitVec.xor_eq_zero_iff.1 hb⟩

end Register

/-! ### Symbols and keys -/

section Symbols

variable {n : ℕ} {c : Char} {d : BitVec 5} {ds : List (BitVec 5)}

theorem decodeChar_eq_ok : decodeChar c = .ok d ↔ confusable c = symbol d := by
  constructor
  · intro h
    obtain ⟨i, hi, rfl⟩ := Option.map_eq_some_iff.1 (ofOption_eq_ok.1 h)
    obtain ⟨hlt, hsymbol, -⟩ := findIdx?_eq_some_iff_getElem.1 hi
    rw [← eq_of_beq hsymbol]
    exact congrArg alphabet.get (Fin.ext (Nat.mod_eq_of_lt hlt).symm)
  · intro h
    have hfound : ∀ d, (alphabet.findIdx? (· == symbol d)).map (BitVec.ofNat 5) = some d := by
      decide
    rw [decodeChar, h, hfound]
    rfl

theorem toSymbols_ofSymbols : toSymbols ds.length (ofSymbols ds) = ds := by
  induction ds using reverseRecOn with
  | nil => rfl
  | append_singleton ds d ih =>
    have hquotient : (ofSymbols ds * 32 + d.toNat) / 32 = ofSymbols ds := by omega
    rw [length_append, length_singleton, toSymbols, ofSymbols_concat, hquotient, ih]
    congr 2
    apply BitVec.eq_of_toNat_eq
    simp
    omega

theorem ofSymbols_toSymbols {width : ℕ} (h : n < 32 ^ width) :
    ofSymbols (toSymbols width n) = n := by
  induction width generalizing n with
  | zero => simp_all [toSymbols, ofSymbols]
  | succ width ih =>
    rw [toSymbols, ofSymbols_concat, ih (by rw [Nat.pow_succ] at h; omega)]
    simp
    omega

@[simp] theorem length_toSymbols (width n : ℕ) : (toSymbols width n).length = width := by
  induction width generalizing n with
  | zero => rfl
  | succ width ih => simp [toSymbols, ih]

theorem ofSymbols_lt (ds : List (BitVec 5)) : ofSymbols ds < 32 ^ ds.length := by
  induction ds using reverseRecOn with
  | nil => exact Nat.one_pos
  | append_singleton ds d ih =>
    rw [ofSymbols_concat, length_append, length_singleton, Nat.pow_succ]
    omega

theorem crc12_eq_iff : crc12 (n / 2 ^ 12) = BitVec.ofNat 12 n ↔ crcFrom (5 * 20) 0 n = 0 := by
  rw [show 5 * 20 = 88 + 12 from rfl, crcFrom_add, crcFrom_eq_zero_iff, crc12]

end Symbols

namespace LicenseKey

variable {k k' : LicenseKey} {input : String}

theorem checked_lt (k : LicenseKey) : k.checked < 2 ^ 88 := by
  have hshort := k.productShort.toNat_lt
  simp only [checked]
  omega

private theorem ofChecked_checked (k : LicenseKey) : ofChecked k.checked = k := by
  obtain ⟨short, random⟩ := k
  have hshort := short.toNat_lt
  simp only [ofChecked, checked, mk.injEq]
  constructor
  · apply UInt8.toNat_inj.1
    rw [UInt8.toNat_ofNat']
    omega
  · apply BitVec.eq_of_toNat_eq
    rw [BitVec.toNat_ofNat]
    omega

theorem checked_ofChecked {n : ℕ} (h : n < 2 ^ 88) : (ofChecked n).checked = n := by
  simp only [checked, ofChecked, UInt8.toNat_ofNat', BitVec.toNat_ofNat]
  omega

/-- The symbols of a key have its checksum, and are those of no other key. -/
theorem symbols_valid (k : LicenseKey) :
    crc12 (ofSymbols k.symbols / 2 ^ 12) = BitVec.ofNat 12 (ofSymbols k.symbols) ∧
      ofChecked (ofSymbols k.symbols / 2 ^ 12) = k := by
  have hchecked := k.checked_lt
  have hbits : ofSymbols k.symbols = k.checked * 2 ^ 12 + (crc12 k.checked).toNat :=
    ofSymbols_toSymbols (by simp only [payloadBits]; omega)
  have hquotient : ofSymbols k.symbols / 2 ^ 12 = k.checked := by omega
  rw [hquotient, hbits, ofChecked_checked]
  refine ⟨BitVec.eq_of_toNat_eq ?_, rfl⟩
  rw [BitVec.toNat_ofNat]
  omega

private theorem symbols_ofChecked {ds : List (BitVec 5)} (h : ds.length = 20)
    (hcrc : crc12 (ofSymbols ds / 2 ^ 12) = BitVec.ofNat 12 (ofSymbols ds)) :
    (ofChecked (ofSymbols ds / 2 ^ 12)).symbols = ds := by
  have hlt := ofSymbols_lt ds
  rw [h] at hlt
  have hbits : (ofChecked (ofSymbols ds / 2 ^ 12)).payloadBits = ofSymbols ds := by
    rw [payloadBits, checked_ofChecked (by omega), hcrc, BitVec.toNat_ofNat]
    omega
  rw [symbols, hbits, ← h, toSymbols_ofSymbols]

/-- A key is parsed from what has its symbols, look-alikes apart. -/
theorem parse_eq_ok_iff :
    parse input = .ok k ↔ payloadSymbols input = .ok (k.symbols.map symbol) := by
  have hdecode {body : List Char} {ds : List (BitVec 5)} :
      body.mapM decodeChar = .ok ds ↔ body.map confusable = ds.map symbol := by
    simp [mapM_eq_ok, decodeChar_eq_ok, ← forall₂_eq_eq_eq]
  simp only [parse, payloadSymbols, map_eq_ok, bind_eq_ok, hdecode]
  refine exists_congr fun body => and_congr_right fun _ => ⟨?_, fun h => ?_⟩
  · rintro ⟨_, hlength, ds, hds, _, hcrc, hreturn⟩
    have h20 : ds.length = 20 := by
      simpa [require_eq_ok.1 hlength] using (congrArg length hds).symm
    rw [hds, ← ok.inj hreturn, symbols_ofChecked h20 (require_eq_ok.1 hcrc)]
  · have hlength : body.length = 20 := by simpa [symbols] using congrArg length h
    obtain ⟨hcrc, hkey⟩ := k.symbols_valid
    exact ⟨(), require_eq_ok.2 hlength, k.symbols, h, (), require_eq_ok.2 hcrc,
      congrArg ok hkey⟩

/-- No two keys differ in two neighbouring symbols alone. -/
theorem symbols_inj_of_neighbours {ds fs : List (BitVec 5)} {a b a' b' : BitVec 5}
    (h : k.symbols = ds ++ a :: b :: fs) (h' : k'.symbols = ds ++ a' :: b' :: fs) :
    a = a' ∧ b = b' := by
  have hempty (k : LicenseKey) : k.symbols.foldl crcSymbol 0 = 0 := by
    have hlength : k.symbols.length = 20 := length_toSymbols 20 _
    have hfold := crcFrom_ofSymbols (r := 0) k.symbols
    rw [hlength, crc12_eq_iff.1 k.symbols_valid.1] at hfold
    exact hfold.symm
  have hk := (hempty k).trans (hempty k').symm
  simp only [h, h', foldl_append, foldl_cons] at hk
  exact crcSymbol_pair_inj (crcSymbols_inj hk)

end LicenseKey

/-! ### Entry -/

/-- What a user may type for a character: itself, or a letter that looks like it. -/
def LooksLike (a b : Char) : Prop :=
  b = a ∨ a = '1' ∧ (b = 'I' ∨ b = 'L') ∨ a = '0' ∧ b = 'O'

/-- A text that is typed with other separators, in other case and with look-alike letters. -/
inductive Retyped : List Char → List Char → Prop
  | nil : Retyped [] []
  | added {c text typed} (hc : ¬ c.isAlphanum = true) (h : Retyped text typed) :
    Retyped text (c :: typed)
  | dropped {c text typed} (hc : ¬ c.isAlphanum = true) (h : Retyped text typed) :
    Retyped (c :: text) typed
  | symbol {a b text typed} (ha : a.isAlphanum = true) (hb : b.isAlphanum = true)
    (hlike : LooksLike a.toUpper b.toUpper) (h : Retyped text typed) :
    Retyped (a :: text) (b :: typed)

theorem Retyped.refl (text : List Char) : Retyped text text := by
  induction text with
  | nil => exact .nil
  | cons c text ih =>
    by_cases hc : c.isAlphanum
    · exact .symbol hc hc (.inl rfl) ih
    · exact .dropped hc (.added hc ih)

section Entry

variable {text typed : List Char}

theorem entered_append (l l' : List Char) : entered (l ++ l') = entered l ++ entered l' := by
  simp [entered]

theorem entered_grouped (cs : List Char) : entered (grouped cs) = entered cs := by
  have hdrop (l : List (Char × ℕ)) :
      entered (l.flatMap fun (c, i) => if i % 5 = 0 then ['-', c] else [c]) =
        entered (l.map Prod.fst) := by
    induction l with
    | nil => rfl
    | cons p l ih =>
      rw [flatMap_cons, entered_append, ih, map_cons, ← singleton_append, entered_append]
      dsimp only
      split <;> rfl
  rw [grouped, hdrop, zipIdx_map_fst]

theorem symbol_spec : ∀ d, (symbol d).isAlphanum ∧ (symbol d).toUpper = symbol d ∧
    confusable (symbol d) = symbol d := by
  decide

theorem symbols_injective : Function.Injective (map symbol) := by
  refine map_injective_iff.2 fun d d' h => ?_
  have hd : decodeChar (symbol d) = .ok d := decodeChar_eq_ok.2 (symbol_spec d).2.2
  exact ok.inj (hd.symm.trans (decodeChar_eq_ok.2 ((symbol_spec d).2.2.trans h)))

theorem entered_symbols (ds : List (BitVec 5)) : entered (ds.map symbol) = ds.map symbol := by
  rw [entered, filter_eq_self.2 (forall_mem_map.2 fun d _ => (symbol_spec d).1), map_map]
  exact map_congr_left fun d _ => (symbol_spec d).2.1

theorem confusable_symbols (ds : List (BitVec 5)) :
    (ds.map symbol).map confusable = ds.map symbol := by
  rw [map_map]
  exact map_congr_left fun d _ => (symbol_spec d).2.2

/-- The body of a text with the prefix. -/
theorem payloadSymbols_prefixed (cs : List Char) :
    payloadSymbols (String.ofList (versionPrefix ++ grouped cs)) =
      .ok ((entered cs).map confusable) := by
  rw [payloadSymbols, String.toList_ofList, entered_append, entered_grouped]
  rfl

theorem Retyped.entered (h : Retyped text typed) :
    List.Forall₂ LooksLike (entered text) (entered typed) := by
  induction h with
  | nil => exact .nil
  | added hc _ ih | dropped hc _ ih => simpa [Proto.entered, hc] using ih
  | symbol ha hb hlike _ ih =>
    rw [Proto.entered, Proto.entered, filter_cons_of_pos ha, filter_cons_of_pos hb]
    exact .cons hlike ih

theorem confusable_of_looksLike {ds : List (BitVec 5)}
    (h : List.Forall₂ LooksLike (ds.map symbol) typed) : typed.map confusable = ds.map symbol := by
  rw [← forall₂_eq_eq_eq, forall₂_map_left_iff, forall₂_map_right_iff]
  refine (forall₂_map_left_iff.1 h).flip.imp fun c d hlike => ?_
  rcases hlike with rfl | ⟨hd, rfl | rfl⟩ | ⟨hd, rfl⟩
  · exact (symbol_spec d).2.2
  · exact hd.symm
  · exact hd.symm
  · exact hd.symm

end Entry

open LicenseKey

/-- A key is read back from its text form, and the text form of a key that is parsed has the payload
symbols of the entry. -/
theorem text_form_of_parsed_key :
    (∀ k : LicenseKey, parse k.toStringGrouped = .ok k) ∧
    (∀ input k, parse input = .ok k → payloadSymbols k.toStringGrouped = payloadSymbols input) ∧
    ∀ input input' k k', parse input = .ok k → parse input' = .ok k' →
      payloadSymbols input ≠ payloadSymbols input' → k ≠ k' := by
  have htext (k : LicenseKey) : payloadSymbols k.toStringGrouped = .ok (k.symbols.map symbol) := by
    rw [toStringGrouped, payloadSymbols_prefixed, entered_symbols, confusable_symbols]
  refine ⟨fun k => parse_eq_ok_iff.2 (htext k), fun input k h => ?_, ?_⟩
  · rw [htext, parse_eq_ok_iff.1 h]
  · rintro input input' k _ h h' hne rfl
    exact hne ((parse_eq_ok_iff.1 h).trans (parse_eq_ok_iff.1 h').symm)

/-- Two neighbouring symbols of a text form are not replaced without the parser noticing. -/
theorem neighbouring_slip_rejected (k k' : LicenseKey) {ds fs : List (BitVec 5)} {d e : BitVec 5}
    {a b : Char} (h : k.symbols = ds ++ d :: e :: fs)
    (hslip : ¬ (confusable a.toUpper = symbol d ∧ confusable b.toUpper = symbol e)) :
    parse (String.ofList (versionPrefix ++ grouped (ds.map symbol ++ a :: b :: fs.map symbol))) ≠
      .ok k' := by
  intro hparse
  have hpayload := parse_eq_ok_iff.1 hparse
  have hpair : a :: b :: fs.map symbol = [a, b] ++ fs.map symbol := rfl
  rw [payloadSymbols_prefixed, hpair, entered_append, entered_append, map_append,
    map_append, entered_symbols, entered_symbols, confusable_symbols, confusable_symbols,
    ok.injEq] at hpayload
  -- a separator would leave the entry too short
  have htwo : entered [a, b] = [a.toUpper, b.toUpper] := by
    have hlength : (entered [a, b]).length = 2 := by
      have hk := congrArg length h
      have hk' := congrArg length hpayload
      simp only [symbols, length_append, length_map, length_cons, length_toSymbols] at hk hk'
      omega
    by_cases ha : a.isAlphanum <;> by_cases hb : b.isAlphanum <;>
      simp [entered, ha, hb] at hlength ⊢
  rw [htwo] at hpayload
  obtain ⟨ds', rest, hk', hds, hrest⟩ := map_eq_append_iff.1 hpayload.symm
  obtain ⟨d', rest', rfl, hd', hrest'⟩ := map_eq_cons_iff.1 hrest
  obtain ⟨e', fs', rfl, he', hfs⟩ := map_eq_cons_iff.1 hrest'
  rw [symbols_injective hds, symbols_injective hfs] at hk'
  obtain ⟨rfl, rfl⟩ := symbols_inj_of_neighbours h hk'
  exact hslip ⟨hd'.symm, he'.symm⟩

/-- What is typed for a text form is parsed to its key, unless the prefix is left out and the entry
begins with the letters of the prefix. -/
theorem retyped_parses_iff (k : LicenseKey) (typed : String) :
    (Retyped k.toStringGrouped.toList typed.toList → parse typed = .ok k) ∧
    (Retyped (grouped (k.symbols.map symbol)) typed.toList →
      (parse typed = .ok k ↔ ¬ ['C', 'L'] <+: entered typed.toList)) := by
  rw [parse_eq_ok_iff, payloadSymbols, map_eq_ok]
  refine ⟨fun h => ?_, fun h => ?_⟩
  · have htyped := h.entered
    rw [toStringGrouped, String.toList_ofList, entered_append, entered_grouped, entered_symbols,
      show entered versionPrefix = ['C', 'L', '1'] from rfl] at htyped
    simp only [cons_append, nil_append, forall₂_cons_left_iff] at htyped
    obtain ⟨c, _, hc, ⟨l, _, hl, ⟨v, rest, hv, hrest, rfl⟩, rfl⟩, htyped⟩ := htyped
    obtain rfl : c = 'C' := by simpa [LooksLike] using hc
    obtain rfl : l = 'L' := by simpa [LooksLike] using hl
    refine ⟨rest, ?_, confusable_of_looksLike hrest⟩
    rw [htyped]
    rcases hv with rfl | ⟨-, rfl | rfl⟩ | ⟨hv, -⟩
    · rfl
    · rfl
    · rfl
    · exact absurd hv (by decide)
  · have htyped := h.entered
    rw [entered_grouped, entered_symbols] at htyped
    have hlength := htyped.length_eq
    have hsymbols := confusable_of_looksLike htyped
    simp only [symbols, length_map, length_toSymbols] at hlength
    generalize hentered : entered typed.toList = chars at *
    fun_cases entryBody chars with
    | case1 v rest =>
      refine iff_of_false ?_ fun h => h ⟨_, rfl⟩
      rintro ⟨_, ⟨⟩, hrest⟩
      have hshort := congrArg length hrest
      simp only [symbols, length_map, length_toSymbols, length_cons] at hshort hlength
      omega
    | case2 v rest => exact iff_of_false (fun ⟨_, hbody, _⟩ => by cases hbody) fun h => h ⟨_, rfl⟩
    | case3 _ hother =>
      refine iff_of_true ⟨_, rfl, hsymbols⟩ ?_
      rintro ⟨rest, rfl⟩
      cases rest with
      | nil => cases hlength
      | cons v rest => exact hother v rest rfl

/-- A key whose symbols begin with `C1`. -/
def sampleKey : LicenseKey := { productShort := 0x60, random := 0x40000000000000000000 }

theorem sampleKey_swap_rejected :
    parse (String.ofList (versionPrefix ++ grouped (([] : List (BitVec 5)).map symbol ++
      '1' :: 'C' :: (sampleKey.symbols.drop 2).map symbol))) ≠ .ok sampleKey :=
  neighbouring_slip_rejected sampleKey sampleKey
    (show sampleKey.symbols = [] ++ 12 :: 1 :: sampleKey.symbols.drop 2 by decide +kernel)
    (by decide)

/-- The prefix is left out, and an `L` is typed for the second symbol. -/
theorem look_alike_taken_for_prefix :
    Retyped (grouped (sampleKey.symbols.map symbol)) "CL000-00000-00000-003KM".toList ∧
      parse "CL000-00000-00000-003KM" = .error (.unsupportedProtoVersion 0) := by
  have htext : grouped (sampleKey.symbols.map symbol) =
      '-' :: 'C' :: '1' :: "000-00000-00000-003KM".toList := by decide +kernel
  rw [htext]
  exact ⟨.dropped (by decide) (.symbol rfl rfl (.inl rfl)
    (.symbol rfl rfl (.inr (.inl ⟨rfl, .inr rfl⟩)) (.refl _))), rfl⟩

end CopyLocker.Proto
