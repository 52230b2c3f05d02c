import Mathlib.Data.List.Induction
import Mathlib.Data.List.Nodup
import Mathlib.Data.List.Perm.Subperm
import Mathlib.Tactic.Common

/-!
# Tables with a primary key

A table is a list of rows in insertion order together with the proof that no two rows share their
key, so the uniqueness that a database enforces is part of the type. The operations are the
statements a keyed store runs: insertion that refuses a taken key, replacement of the row at a
key, an update and a deletion of all rows that satisfy a condition, and selection of a least row.

## Main definitions

* `Table key`: rows with pairwise different keys.
* `Table.find`, `Table.insert`, `Table.upsert`, `Table.ofList`, `Table.updateWhere`,
  `Table.deleteWhere`, `Table.countWhere`, `Table.firstBy`.

## Main results

* `Table.mem_rows_iff`: a row is in the table exactly when its key finds it.
* `Table.find_insert`, `Table.find_upsert`, `Table.find_updateWhere`, `Table.find_deleteWhere`:
  what a lookup answers after each statement.
* `Table.find_ofList`: of the rows inserted with one key the last stays.
* `Table.countWhere_le`: how the counts of two tables compare.
-/

namespace CopyLocker.Foundation

open List Function

variable {ρ κ : Type} [DecidableEq κ] {key : ρ → κ}

/-- Rows in insertion order, no two with the same key. -/
@[ext] structure Table (key : ρ → κ) where
  rows : List ρ
  nodup : (rows.map key).Nodup

namespace Table

instance [DecidableEq ρ] : DecidableEq (Table key) := fun t t' =>
  decidable_of_iff (t.rows = t'.rows) Table.ext_iff.symm

/-- The table without rows. -/
def empty : Table key := ⟨[], nodup_nil⟩

/-- The row stored under a key. -/
def find (t : Table key) (k : κ) : Option ρ := t.rows.find? fun r => key r = k

variable {t t' : Table key} {k : κ} {r : ρ} {p : ρ → Bool}

/-- A row stored under its key is the row found there, and every found row is stored. -/
theorem find_eq_some_iff : t.find k = some r ↔ r ∈ t.rows ∧ key r = k := by
  constructor
  · intro h
    exact ⟨mem_of_find?_eq_some h, by simpa using find?_some h⟩
  · rintro ⟨hmem, rfl⟩
    cases hfind : t.find (key r) with
    | none =>
      have hne : ∀ x ∈ t.rows, ¬ key x = key r := by simpa [find] using hfind
      exact absurd rfl (hne r hmem)
    | some r' =>
      have hkey : key r' = key r := by simpa using find?_some hfind
      have hmem' : r' ∈ t.rows := mem_of_find?_eq_some hfind
      rw [inj_on_of_nodup_map t.nodup hmem' hmem hkey]

theorem mem_rows_iff : r ∈ t.rows ↔ t.find (key r) = some r := by
  simp [find_eq_some_iff]

theorem key_of_find (h : t.find k = some r) : key r = k := (find_eq_some_iff.1 h).2

theorem find_eq_none_iff : t.find k = none ↔ ∀ r ∈ t.rows, key r ≠ k := by
  simp [find]

private theorem find_eq_of_some_iff {o o' : Option ρ}
    (h : ∀ r, o = some r ↔ o' = some r) : o = o' := by
  cases o with
  | none =>
    cases o' with
    | none => rfl
    | some r' => exact absurd ((h r').2 rfl) (by simp)
  | some r => exact ((h r).1 rfl).symm

/-- `INSERT`: refused when the key is taken. -/
def insert (t : Table key) (r : ρ) : Option (Table key) :=
  if h : t.find (key r) = none then
    some ⟨t.rows ++ [r], by
      have hfree : key r ∉ t.rows.map key := by
        simpa [mem_map] using find_eq_none_iff.1 h
      rw [map_append, nodup_append]
      refine ⟨t.nodup, by simp, ?_⟩
      intro a ha b hb hab
      obtain rfl : b = key r := by simpa using hb
      exact hfree (hab ▸ ha)⟩
  else none

theorem insert_rows (h : t.insert r = some t') : t'.rows = t.rows ++ [r] := by
  unfold insert at h
  split_ifs at h
  cases h
  rfl

theorem insert_eq_none_iff : t.insert r = none ↔ t.find (key r) ≠ none := by
  unfold insert
  split_ifs with h <;> simp [h]

/-- A row is inserted only where its key is free. -/
theorem find_eq_none_of_insert (h : t.insert r = some t') : t.find (key r) = none := by
  by_contra hne
  rw [insert_eq_none_iff.2 hne] at h
  cases h

theorem find_insert (h : t.insert r = some t') (k : κ) :
    t'.find k = if key r = k then some r else t.find k := by
  have hrows := insert_rows h
  have hfree := find_eq_none_of_insert h
  simp only [find, hrows, find?_append, find?_singleton, decide_eq_true_eq]
  split_ifs with hk
  · subst hk
    have hnone : find? (fun x => decide (key x = key r)) t.rows = none := hfree
    simp [hnone]
  · simp

/-- `UPDATE … WHERE p`, for an assignment that leaves the key alone. -/
def updateWhere (t : Table key) (p : ρ → Bool) (f : ρ → ρ)
    (hf : ∀ r, key (f r) = key r := by intro r; rfl) : Table key where
  rows := t.rows.map fun r => if p r then f r else r
  nodup := by
    have hkeys : (t.rows.map fun r => if p r then f r else r).map key = t.rows.map key := by
      rw [map_map]
      refine map_congr_left fun r _ => ?_
      simp only [comp_apply]
      split_ifs
      · exact hf r
      · rfl
    rw [hkeys]
    exact t.nodup

theorem find_updateWhere (t : Table key) (p : ρ → Bool) (f : ρ → ρ)
    (hf : ∀ r, key (f r) = key r) (k : κ) :
    (t.updateWhere p f hf).find k = (t.find k).map fun r => if p r then f r else r := by
  have hkey : ∀ r, key (if p r then f r else r) = key r := by
    intro r
    split_ifs
    · exact hf r
    · rfl
  simp only [find, updateWhere, find?_map, comp_def, hkey]

/-- `DELETE … WHERE p`. -/
def deleteWhere (t : Table key) (p : ρ → Bool) : Table key where
  rows := t.rows.filter fun r => !p r
  nodup := List.Nodup.sublist (filter_sublist.map key) t.nodup

omit [DecidableEq κ] in
theorem mem_deleteWhere : r ∈ (t.deleteWhere p).rows ↔ r ∈ t.rows ∧ p r = false := by
  simp [deleteWhere]

theorem find_deleteWhere (t : Table key) (p : ρ → Bool) (k : κ) :
    (t.deleteWhere p).find k = (t.find k).filter fun r => !p r := by
  refine find_eq_of_some_iff fun r => ?_
  rw [find_eq_some_iff, mem_deleteWhere, Option.filter_eq_some_iff, find_eq_some_iff]
  simp only [Bool.not_eq_true']
  tauto

/-- `INSERT … ON CONFLICT DO UPDATE`: the row takes the place of the one at its key, or is added
at the end. -/
def upsert (t : Table key) (r : ρ) : Table key :=
  match t.insert r with
  | some t' => t'
  | none => ⟨t.rows.map fun x => if key x = key r then r else x, by
      have hkeys : (t.rows.map fun x => if key x = key r then r else x).map key =
          t.rows.map key := by
        rw [map_map]
        refine map_congr_left fun x _ => ?_
        simp only [comp_apply]
        split_ifs with hx
        · exact hx.symm
        · rfl
      rw [hkeys]
      exact t.nodup⟩

theorem find_upsert (t : Table key) (r : ρ) (k : κ) :
    (t.upsert r).find k = if key r = k then some r else t.find k := by
  cases hins : t.insert r with
  | some t' => simpa only [upsert, hins] using find_insert hins k
  | none =>
    obtain ⟨old, hold⟩ := Option.ne_none_iff_exists'.1 (insert_eq_none_iff.1 hins)
    have hkey : ∀ x, key (if key x = key r then r else x) = key x := by
      intro x
      split_ifs with hx
      · exact hx.symm
      · rfl
    simp only [upsert, hins, find, find?_map, comp_def, hkey]
    split_ifs with hk
    · subst hk
      have hfound : find? (fun x => decide (key x = key r)) t.rows = some old := hold
      rw [hfound]
      simp [key_of_find hold]
    · cases hfind : find? (fun x => decide (key x = k)) t.rows with
      | none => rfl
      | some x =>
        have hx : key x = k := by simpa using find?_some hfind
        have hne : key x ≠ key r := fun h => hk (h ▸ hx)
        simp [hne]

/-- A row with a new key is added at the end. -/
theorem upsert_rows (h : t.find (key r) = none) : (t.upsert r).rows = t.rows ++ [r] := by
  cases hins : t.insert r with
  | some t' => simpa only [upsert, hins] using insert_rows hins
  | none => exact absurd h (insert_eq_none_iff.1 hins)

/-- The rows inserted one after the other, each in place of an earlier one with its key. -/
def ofList (l : List ρ) : Table key := l.foldl upsert empty

/-- Of the inserted rows with a key the last one stays. -/
theorem find_ofList (l : List ρ) (k : κ) :
    (ofList l : Table key).find k = l.reverse.find? fun r => key r = k := by
  induction l using reverseRecOn with
  | nil => rfl
  | append_singleton l r ih =>
    rw [ofList, foldl_concat, find_upsert, reverse_concat, find?_cons]
    by_cases hk : key r = k
    · simp [hk]
    · rw [if_neg hk, decide_eq_false hk]
      exact ih

theorem mem_of_mem_ofList {l : List ρ} (h : r ∈ (ofList l : Table key).rows) : r ∈ l := by
  rw [mem_rows_iff, find_ofList] at h
  exact mem_reverse.1 (mem_of_find?_eq_some h)

theorem ofList_rows_eq_nil_iff {l : List ρ} : (ofList l : Table key).rows = [] ↔ l = [] := by
  constructor
  · intro h
    refine eq_nil_iff_forall_not_mem.2 fun r hr => ?_
    have hnone : (ofList l : Table key).find (key r) = none := by
      rw [find, h]
      rfl
    rw [find_ofList, find?_eq_none] at hnone
    exact hnone r (mem_reverse.2 hr) (decide_eq_true rfl)
  · rintro rfl
    rfl

/-- `SELECT COUNT(*) … WHERE p`. -/
def countWhere (t : Table key) (p : ρ → Bool) : ℕ := t.rows.countP p

omit [DecidableEq κ] in
/-- When every row that satisfies `p` has a new key or the key of such a row of another table, the
counts differ by the new keys at most. -/
theorem countWhere_le (new : List κ)
    (h : ∀ r' ∈ t'.rows, p r' → key r' ∈ new ∨ ∃ r ∈ t.rows, p r ∧ key r = key r') :
    t'.countWhere p ≤ new.length + t.countWhere p := by
  have hnodup : ((t'.rows.filter p).map key).Nodup := t'.nodup.sublist (filter_sublist.map key)
  have hsubset : (t'.rows.filter p).map key ⊆ new ++ (t.rows.filter p).map key := by
    intro k hk
    obtain ⟨r', hr', rfl⟩ := mem_map.1 hk
    obtain ⟨hmem, hp⟩ := mem_filter.1 hr'
    rcases h r' hmem hp with hnew | ⟨r, hr, hpr, hkey⟩
    · exact mem_append_left _ hnew
    · exact mem_append_right _ (mem_map.2 ⟨r, mem_filter.2 ⟨hr, hpr⟩, hkey⟩)
  have hlength := (hnodup.subperm hsubset).length_le
  rw [length_append, length_map, length_map] at hlength
  rw [countWhere, countWhere, countP_eq_length_filter, countP_eq_length_filter]
  exact hlength

/-- `SELECT … WHERE p ORDER BY … LIMIT 1`: the first of the least rows that satisfy `p`. -/
def firstBy (t : Table key) (p : ρ → Bool) (before : ρ → ρ → Bool) : Option ρ :=
  (t.rows.filter p).foldl (fun best r => match best with
      | none => some r
      | some b => if before r b then some r else some b) none

private theorem foldl_first_mem (before : ρ → ρ → Bool) (rows : List ρ) (start : Option ρ) (r : ρ)
    (h : rows.foldl (fun best x => match best with
      | none => some x
      | some b => if before x b then some x else some b) start = some r) :
    start = some r ∨ r ∈ rows := by
  induction rows generalizing start with
  | nil => exact .inl h
  | cons x rest ih =>
    rcases ih _ h with hstart | hmem
    · cases start with
      | none =>
        obtain rfl : x = r := by simpa using hstart
        exact .inr mem_cons_self
      | some b =>
        simp only at hstart
        split_ifs at hstart
        · obtain rfl : x = r := by simpa using hstart
          exact .inr mem_cons_self
        · exact .inl hstart
    · exact .inr (mem_cons_of_mem x hmem)

variable {before : ρ → ρ → Bool}

omit [DecidableEq κ] in
/-- The selected row is a row of the table that satisfies the condition. -/
theorem mem_of_firstBy (h : t.firstBy p before = some r) : r ∈ t.rows ∧ p r := by
  rcases foldl_first_mem before _ none r h with hnone | hmem
  · cases hnone
  · simpa using hmem

private theorem foldl_first_isSome (before : ρ → ρ → Bool) (rows : List ρ) (b : ρ) :
    (rows.foldl (fun best x => match best with
      | none => some x
      | some b => if before x b then some x else some b) (some b)).isSome := by
  induction rows generalizing b with
  | nil => rfl
  | cons x rest ih =>
    rw [foldl_cons]
    dsimp only
    split_ifs
    · exact ih x
    · exact ih b

omit [DecidableEq κ] in
theorem eq_false_of_firstBy_eq_none (h : t.firstBy p before = none) (hr : r ∈ t.rows) :
    p r = false := by
  by_contra hp
  obtain ⟨x, rest, hrows⟩ : ∃ x rest, t.rows.filter p = x :: rest :=
    exists_cons_of_ne_nil (ne_nil_of_mem (mem_filter.2 ⟨hr, by simpa using hp⟩))
  have hsome := foldl_first_isSome before rest x
  rw [firstBy, hrows, foldl_cons] at h
  rw [h] at hsome
  cases hsome

end Table

end CopyLocker.Foundation
