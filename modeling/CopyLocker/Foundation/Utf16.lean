import Mathlib.Tactic.Common

/-!
# UTF-16

Texts as sequences of 16-bit units, in which a surrogate need not have a partner, and as sequences
of characters. Reading units as characters replaces every surrogate that stands alone.
-/

namespace CopyLocker.Foundation.Utf16

/-- The units of a character. -/
def units (c : Char) : List UInt16 :=
  if c.toNat < 0x10000 then [UInt16.ofNat c.toNat]
  else
    [UInt16.ofNat (0xd800 + (c.toNat - 0x10000) / 0x400),
      UInt16.ofNat (0xdc00 + (c.toNat - 0x10000) % 0x400)]

/-- The units of a text. -/
def encode (cs : List Char) : List UInt16 := cs.flatMap units

/-- The first half of a pair of surrogates. -/
def isHigh (u : UInt16) : Bool := decide (0xd800 ≤ u.toNat) && decide (u.toNat < 0xdc00)

/-- The second half of a pair of surrogates. -/
def isLow (u : UInt16) : Bool := decide (0xdc00 ≤ u.toNat) && decide (u.toNat < 0xe000)

def isSurrogate (u : UInt16) : Bool := isHigh u || isLow u

/-- The character of a unit that is not part of a pair; a surrogate is replaced. -/
def single (u : UInt16) : Char := if isSurrogate u then '�' else Char.ofNat u.toNat

/-- The character of a pair of surrogates. -/
def pair (u v : UInt16) : Char :=
  Char.ofNat (0x10000 + (u.toNat - 0xd800) * 0x400 + (v.toNat - 0xdc00))

/-- The characters of a sequence of units. -/
def chars : List UInt16 → List Char
  | [] => []
  | [u] => [single u]
  | u :: v :: us =>
    if isHigh u && isLow v then pair u v :: chars us else single u :: chars (v :: us)

end CopyLocker.Foundation.Utf16
