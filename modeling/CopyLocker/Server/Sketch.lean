import CopyLocker.Types
import Mathlib.Order.Lattice

/-!
# Sketches of distinct machines

The HyperLogLog sketches of `analytics/hll.rs`. A machine has one register and a rank, and a
register holds the largest rank of the machines that were added to it. So a sketch says of its
machines only which they are: it is below a bound exactly if all of them are (`Built.le_iff`),
however they were added, merged, stored and read.
-/

namespace CopyLocker.Server

/-- `2 ^ HLL_PRECISION`, with a precision of 14. -/
def hllRegisters : ℕ := 1 <<< 14

def sketchVersion : UInt8 := 1

def sketchBytes : ℕ := 1 + hllRegisters

/-- The registers of a sketch. -/
@[ext] structure HllSketch where
  registers : List UInt8
  length_eq : registers.length = hllRegisters

/-- Why bytes are no sketch. -/
inductive SketchError
  | badLength (got : ℕ)
  | unsupportedVersion (got : UInt8)
  deriving DecidableEq

/-- FNV-1a with a finalizer. -/
def hash64 (data : Bytes) : UInt64 :=
  let h := data.foldl (fun h b => (h ^^^ b.toUInt64) * 0x100000001b3) 0xcbf29ce484222325
  let h := (h ^^^ h >>> 30) * 0xbf58476d1ce4e5b9
  let h := (h ^^^ h >>> 27) * 0x94d049bb133111eb
  h ^^^ h >>> 31

/-- The register of a value: the first 14 bits of its hash. -/
def registerIndex (value : Bytes) : ℕ := (hash64 value >>> 50).toNat

/-- The rank of a value: the place of the first one among the other bits. -/
def rank (value : Bytes) : UInt8 :=
  let w := hash64 value <<< 14 ||| (1 : UInt64) <<< 13
  UInt8.ofNat (w.toBitVec.clz.toNat + 1)

/-- A register after a rank. -/
def raise (register rank : UInt8) : UInt8 := if register < rank then rank else register

namespace HllSketch

/-- The empty sketch. -/
def new : HllSketch := ⟨List.replicate hllRegisters 0, List.length_replicate⟩

/-- Add one value. -/
def add (s : HllSketch) (value : Bytes) : HllSketch :=
  ⟨s.registers.modify (registerIndex value) (raise · (rank value)),
    (List.length_modify ..).trans s.length_eq⟩

/-- The greater of each register. -/
def merge (s other : HllSketch) : HllSketch :=
  ⟨List.zipWith raise s.registers other.registers, by simp [s.length_eq, other.length_eq]⟩

/-- The version and the registers. -/
def toBytes (s : HllSketch) : Bytes := sketchVersion :: s.registers

/-- Read a sketch of this version. -/
def fromBytes (bytes : Bytes) : Except SketchError HllSketch :=
  if h : bytes.length ≠ sketchBytes then .error (.badLength bytes.length)
  else
    match bytes, h with
    | [], _ => .error (.badLength 0)
    | version :: registers, h =>
      if version ≠ sketchVersion then .error (.unsupportedVersion version)
      else .ok ⟨registers, by simpa [sketchBytes, Nat.add_comm] using h⟩

/-- The sketch of a collection. -/
def ofValues (values : List Bytes) : HllSketch := values.foldl add new

/-- How a sketch of a collection can come about. -/
inductive Built : List Bytes → HllSketch → Prop
  | new : Built [] new
  | add {values : List Bytes} {s : HllSketch} (value : Bytes) (h : Built values s) :
    Built (value :: values) (s.add value)
  | merge {values values' : List Bytes} {s s' : HllSketch} (h : Built values s)
    (h' : Built values' s') : Built (values ++ values') (s.merge s')
  | stored {values : List Bytes} {s s' : HllSketch} (h : Built values s)
    (hread : fromBytes s.toBytes = .ok s') : Built values s'

variable {values : List Bytes} {s : HllSketch}

theorem fromBytes_toBytes (s : HllSketch) : fromBytes s.toBytes = .ok s := by
  have hlength : ¬ s.toBytes.length ≠ sketchBytes := by
    rw [toBytes, List.length_cons, s.length_eq, not_not]
    exact Nat.add_comm ..
  rw [fromBytes, dif_neg hlength]
  rfl

theorem raise_le {a b bound : UInt8} : raise a b ≤ bound ↔ b ≤ bound ∧ a ≤ bound := by
  unfold raise
  grind

/-- A register is the largest rank of its values. -/
theorem Built.le_iff (h : Built values s) {i : ℕ} (hi : i < s.registers.length) (bound : UInt8) :
    s.registers[i] ≤ bound ↔ ∀ v ∈ values, registerIndex v = i → rank v ≤ bound := by
  induction h with
  | new => simp [HllSketch.new]
  | @add values s value h ih =>
    have hi : i < s.registers.length := by simpa [HllSketch.add] using hi
    simp only [HllSketch.add, List.getElem_modify, List.forall_mem_cons, ← ih hi]
    split_ifs with heq
    · simp [raise_le, heq]
    · simp [heq]
  | merge _ _ ih ih' =>
    simp only [HllSketch.merge, List.getElem_zipWith, raise_le, List.forall_mem_append, ih, ih']
    exact and_comm
  | stored _ hread ih =>
    rw [fromBytes_toBytes] at hread
    cases hread
    exact ih hi

theorem Built.foldl (h : Built values s) (l : List Bytes) :
    Built (l.reverse ++ values) (l.foldl HllSketch.add s) := by
  induction l generalizing values s with
  | nil => exact h
  | cons v l ih => simpa using ih (h.add v)

end HllSketch

open HllSketch

/-- However a sketch comes about, it is that of its values, and is read back from its bytes. -/
theorem sketch_of_values {values whole : List Bytes} {s : HllSketch} (h : Built values s)
    (hsame : ∀ v, v ∈ whole ↔ v ∈ values) :
    s = ofValues whole ∧ fromBytes s.toBytes = .ok s := by
  have hwhole : Built _ (ofValues whole) := Built.new.foldl whole
  refine ⟨?_, fromBytes_toBytes s⟩
  ext1
  refine List.ext_getElem (by rw [s.length_eq, (ofValues whole).length_eq]) fun i hi hi' => ?_
  have hle (bound : UInt8) : s.registers[i] ≤ bound ↔ (ofValues whole).registers[i] ≤ bound := by
    simp [h.le_iff, hwhole.le_iff, hsame]
  exact UInt8.le_antisymm ((hle _).2 (UInt8.le_refl _)) ((hle _).1 (UInt8.le_refl _))

/-- Two parts that overlap. -/
theorem sketch_of_overlapping_parts :
    (ofValues [[1]]).merge (ofValues [[2], [1]]) = ofValues [[1], [2]] :=
  (sketch_of_values ((Built.new.foldl [[1]]).merge (Built.new.foldl [[2], [1]])) fun v => by
    simp).1

end CopyLocker.Server
