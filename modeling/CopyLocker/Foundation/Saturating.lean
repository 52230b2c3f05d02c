import Mathlib.Algebra.Ring.Int.Defs
import Mathlib.Algebra.Ring.Nat
import Mathlib.Data.Int.Order.Basic
import Mathlib.Tactic.Common

/-!
# Saturating machine arithmetic

Fixed-width integers are modelled by unbounded ones with every saturating operation
clamped to the range of its width. Signed values live in `Int`, counters in `Nat`.
-/

namespace CopyLocker.Foundation.Saturating

variable (w : ℕ)

/-- The least value of a signed integer of width `w`. -/
def signedMin : ℤ := -(2 ^ (w - 1) : ℕ)

/-- The greatest value of a signed integer of width `w`. -/
def signedMax : ℤ := (2 ^ (w - 1) : ℕ) - 1

/-- The value of width `w` closest to `x`. -/
def clamp (x : ℤ) : ℤ := max (signedMin w) (min (signedMax w) x)

/-- Saturating addition of signed integers of width `w`. -/
def signedAdd (a b : ℤ) : ℤ := clamp w (a + b)

/-- Saturating subtraction of signed integers of width `w`. -/
def signedSub (a b : ℤ) : ℤ := clamp w (a - b)

/-- Saturating multiplication of signed integers of width `w`. -/
def signedMul (a b : ℤ) : ℤ := clamp w (a * b)

/-- The greatest value of a counter of width `w`. -/
def unsignedMax : ℕ := 2 ^ w - 1

/-- Saturating addition of counters of width `w`. -/
def unsignedAdd (w a b : ℕ) : ℕ := min (unsignedMax w) (a + b)

/-- Saturating multiplication of counters of width `w`. -/
def unsignedMul (w a b : ℕ) : ℕ := min (unsignedMax w) (a * b)

end CopyLocker.Foundation.Saturating
