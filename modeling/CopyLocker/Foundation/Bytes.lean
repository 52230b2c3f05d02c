import Mathlib.Algebra.Group.Nat.Defs
import Mathlib.Tactic.SplitIfs

/-!
# Bytes

Numbers, texts and hexadecimal digits as sequences of bytes.
-/

namespace CopyLocker.Foundation

open List

/-! ### Numbers as bytes -/

/-- The number with the given bytes, most significant first. -/
def ofBigEndian (bs : List UInt8) : ℕ := bs.foldl (fun n b => n * 256 + b.toNat) 0

/-- The last `width` bytes of a number, most significant first. -/
def toBigEndian (width n : ℕ) : List UInt8 :=
  (range width).map fun i => UInt8.ofNat (n >>> (8 * (width - 1 - i)))

private theorem toBigEndian_succ (width n : ℕ) :
    toBigEndian (width + 1) n = toBigEndian width (n / 256) ++ [UInt8.ofNat n] := by
  have hfront (i : ℕ) (hi : i < width) :
      n >>> (8 * (width - i)) = (n / 256) >>> (8 * (width - 1 - i)) := by
    have hshift : 8 * (width - i) = 8 + 8 * (width - 1 - i) := by omega
    rw [hshift, Nat.shiftRight_add, Nat.shiftRight_eq_div_pow n 8]
  simp only [toBigEndian, range_succ, map_append, map_cons, map_nil, Nat.add_sub_cancel,
    Nat.sub_self, Nat.mul_zero, Nat.shiftRight_zero]
  congr 1
  exact map_congr_left fun i hi => by rw [hfront i (mem_range.1 hi)]

@[simp] theorem length_toBigEndian (width n : ℕ) : (toBigEndian width n).length = width := by
  simp [toBigEndian]

theorem ofBigEndian_toBigEndian {width n : ℕ} (h : n < 256 ^ width) :
    ofBigEndian (toBigEndian width n) = n := by
  induction width generalizing n with
  | zero =>
    obtain rfl : n = 0 := by simpa using h
    rfl
  | succ width ih =>
    have hquotient : n / 256 < 256 ^ width := by
      omega
    have hfront := ih hquotient
    unfold ofBigEndian at hfront ⊢
    rw [toBigEndian_succ, foldl_append, hfront]
    simp only [foldl_cons, foldl_nil, UInt8.toNat_ofNat']
    omega

/-! ### Texts as bytes -/

/-- The UTF-8 form of a text. -/
def utf8 (s : String) : List UInt8 := s.toByteArray.data.toList

/-- The text with a given UTF-8 form. -/
def ofUtf8 (bs : List UInt8) : Option String :=
  if h : (ByteArray.mk bs.toArray).IsValidUTF8 then some (.ofByteArray _ h) else none

theorem length_utf8 (s : String) : (utf8 s).length = s.utf8ByteSize := Array.length_toList

theorem ofUtf8_utf8 (s : String) : ofUtf8 (utf8 s) = some s := by
  have hbytes : ByteArray.mk (utf8 s).toArray = s.toByteArray := by
    rw [utf8, Array.toArray_toList]
  unfold ofUtf8
  simp only [hbytes, s.isValidUTF8, dif_pos]

theorem utf8_of_ofUtf8 {bs : List UInt8} {s : String} (h : ofUtf8 bs = some s) : utf8 s = bs := by
  unfold ofUtf8 at h
  split_ifs at h
  cases h
  rfl

/-- The lower-case hexadecimal digits of bytes. -/
def hexEncode (bytes : List UInt8) : String :=
  String.ofList (bytes.flatMap fun b =>
    [Nat.digitChar (b.toNat / 16), Nat.digitChar (b.toNat % 16)])

end CopyLocker.Foundation
