import Mathlib.Data.List.Chain
import Mathlib.Data.List.Nodup

/-!
# Hash-linked logs

A log row carries its number, the hash of the row before it and its own hash. `Linkage` names these
three fields of a row type, and `Continues n h rows` says that the rows go on where a log ended
with number `n` and hash `h`. A log only grows by a row numbered and linked from its last row, and
`continues_concat` is that step; the rest are consequences of the predicate.
-/

namespace CopyLocker.Foundation

open List

/-- The fields by which the rows of a log are linked. -/
structure Linkage (ρ η : Type*) where
  seq : ρ → ℕ
  prev : ρ → η
  hash : ρ → η

namespace Linkage

variable {ρ η : Type*} (L : Linkage ρ η)

/-- The rows continue a log that ends with number `n` and hash `h`. -/
def Continues : ℕ → η → List ρ → Prop
  | _, _, [] => True
  | n, h, row :: rows => L.seq row = n + 1 ∧ L.prev row = h ∧ Continues (n + 1) (L.hash row) rows

/-- The last number of a log that continues one ending with `n`. -/
def lastSeq (n : ℕ) (rows : List ρ) : ℕ := (rows.getLast?.map L.seq).getD n

/-- The last hash of a log that continues one ending with `h`. -/
def lastHash (h : η) (rows : List ρ) : η := (rows.getLast?.map L.hash).getD h

@[simp] theorem lastSeq_nil (n : ℕ) : L.lastSeq n [] = n := rfl

@[simp] theorem lastHash_nil (h : η) : L.lastHash h [] = h := rfl

@[simp] theorem lastSeq_concat (n : ℕ) (rows : List ρ) (row : ρ) :
    L.lastSeq n (rows ++ [row]) = L.seq row := by
  simp [lastSeq]

theorem lastSeq_cons (n : ℕ) (row : ρ) (rows : List ρ) :
    L.lastSeq n (row :: rows) = L.lastSeq (L.seq row) rows := by
  cases rows <;> simp [lastSeq, getLast?_cons]

variable {L} {n : ℕ} {h : η} {rows : List ρ}

/-- A log grows by a row that is numbered and linked from its last one. -/
theorem continues_concat {row : ρ} :
    L.Continues n h (rows ++ [row]) ↔
      L.Continues n h rows ∧ L.seq row = L.lastSeq n rows + 1 ∧ L.prev row = L.lastHash h rows := by
  induction rows generalizing n h with
  | nil => simp [Continues]
  | cons first rows ih =>
    have hlast : L.lastHash h (first :: rows) = L.lastHash (L.hash first) rows := by
      cases rows <;> simp [lastHash, getLast?_cons]
    rw [cons_append, Continues, Continues, ih, lastSeq_cons, hlast]
    constructor
    · rintro ⟨hseq, hprev, hrows, hrow, hlink⟩
      exact ⟨⟨hseq, hprev, hrows⟩, hseq ▸ hrow, hlink⟩
    · rintro ⟨⟨hseq, hprev, hrows⟩, hrow, hlink⟩
      exact ⟨hseq, hprev, hrows, hseq ▸ hrow, hlink⟩

namespace Continues

variable (hrows : L.Continues n h rows)

include hrows

theorem map_seq : rows.map L.seq = range' (n + 1) rows.length := by
  induction rows generalizing n h with
  | nil => rfl
  | cons row rows ih =>
    obtain ⟨hseq, -, hrest⟩ := hrows
    rw [map_cons, length_cons, range'_succ, hseq, ih hrest]

theorem prev_head : ∀ row ∈ rows.head?, L.prev row = h := by
  cases rows with
  | nil => simp
  | cons row rows =>
    intro row' hrow'
    obtain rfl : row = row' := by simpa using hrow'
    exact hrows.2.1

theorem isChain : rows.IsChain fun row next => L.prev next = L.hash row := by
  induction rows generalizing n h with
  | nil => exact .nil
  | cons row rows ih =>
    cases rows with
    | nil => exact .singleton row
    | cons next rows =>
      obtain ⟨-, -, hrest⟩ := hrows
      exact .cons_cons hrest.2.1 (ih hrest)

theorem lastSeq_eq : L.lastSeq n rows = n + rows.length := by
  induction rows generalizing n h with
  | nil => rfl
  | cons row rows ih =>
    obtain ⟨hseq, -, hrest⟩ := hrows
    rw [lastSeq_cons, hseq, ih hrest, length_cons]
    omega

theorem seq_le_lastSeq {row : ρ} (hrow : row ∈ rows) : L.seq row ≤ L.lastSeq n rows := by
  have hmem : L.seq row ∈ range' (n + 1) rows.length := hrows.map_seq ▸ mem_map_of_mem hrow
  rw [hrows.lastSeq_eq]
  have := mem_range'_1.1 hmem
  omega

end Continues

end Linkage

end CopyLocker.Foundation
