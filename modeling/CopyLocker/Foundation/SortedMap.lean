import Mathlib.Data.List.Nodup
import Mathlib.Order.Lattice
import Mathlib.Tactic.Common

/-!
# Maps in the order of their keys

A map is the list of its entries in the order of the keys, with the proof that the keys ascend. Two
maps with the same entries are therefore equal, whatever the order in which they were filled.
-/

namespace CopyLocker.Foundation

open List

/-- Entries in the order of their keys, each key once. -/
@[ext] structure SortedMap (κ ν : Type) [LinearOrder κ] where
  entries : List (κ × ν)
  ascending : entries.Pairwise fun e e' => e.1 < e'.1

namespace SortedMap

variable {κ ν : Type} [LinearOrder κ]

instance [DecidableEq ν] : DecidableEq (SortedMap κ ν) := fun m m' =>
  decidable_of_iff (m.entries = m'.entries) SortedMap.ext_iff.symm

def empty : SortedMap κ ν := ⟨[], .nil⟩

variable (m : SortedMap κ ν)

def keys : List κ := m.entries.map Prod.fst

/-- The value of a key. -/
def get (k : κ) : Option ν :=
  (m.entries.find? fun e => e.1 = k).map Prod.snd

theorem nodup_keys : m.keys.Nodup := pairwise_map.2 (m.ascending.imp ne_of_lt)

variable {m} {k : κ} {v : ν} {l : List (κ × ν)} {e : κ × ν}

theorem mem_keys : k ∈ m.keys ↔ ∃ v, (k, v) ∈ m.entries := by
  simp [keys]

/-- Two maps with the same entries are equal. -/
theorem ext_mem {m' : SortedMap κ ν} (h : ∀ e, e ∈ m.entries ↔ e ∈ m'.entries) : m = m' := by
  have hperm : m.entries.Perm m'.entries :=
    (perm_ext_iff_of_nodup m.nodup_keys.of_map m'.nodup_keys.of_map).2 h
  exact SortedMap.ext (hperm.eq_of_pairwise (fun a b _ _ hab hba => absurd hab hba.not_gt)
    m.ascending m'.ascending)

/-! ### Insertion -/

/-- Put an entry in its place; an entry with the same key is replaced. -/
def place (k : κ) (v : ν) : List (κ × ν) → List (κ × ν)
  | [] => [(k, v)]
  | e :: l =>
    if k < e.1 then (k, v) :: e :: l
    else if k = e.1 then (k, v) :: l
    else e :: place k v l

theorem mem_place (hl : l.Pairwise fun e e' => e.1 < e'.1) (e : κ × ν) :
    e ∈ place k v l ↔ e = (k, v) ∨ (e ∈ l ∧ e.1 ≠ k) := by
  induction l with
  | nil => simp [place]
  | cons a l ih =>
    obtain ⟨hfirst, hrest⟩ := pairwise_cons.1 hl
    unfold place
    split_ifs with hlt heq
    · have hnew : ∀ b ∈ a :: l, b.1 ≠ k := by
        refine forall_mem_cons.2 ⟨hlt.ne', fun b hb => (hlt.trans (hfirst b hb)).ne'⟩
      rw [mem_cons]
      exact or_congr_right (and_iff_left_of_imp (hnew e)).symm
    · subst heq
      rw [mem_cons, mem_cons]
      refine or_congr_right ⟨fun he => ⟨.inr he, (hfirst e he).ne'⟩, ?_⟩
      rintro ⟨rfl | he, hne⟩
      · exact absurd rfl hne
      · exact he
    · rw [mem_cons, ih hrest, mem_cons]
      constructor
      · rintro (rfl | rfl | ⟨he, hne⟩)
        · exact .inr ⟨.inl rfl, Ne.symm heq⟩
        · exact .inl rfl
        · exact .inr ⟨.inr he, hne⟩
      · rintro (rfl | ⟨rfl | he, hne⟩)
        · exact .inr (.inl rfl)
        · exact .inl rfl
        · exact .inr (.inr ⟨he, hne⟩)

theorem place_ascending (k : κ) (v : ν) (hl : l.Pairwise fun e e' => e.1 < e'.1) :
    (place k v l).Pairwise fun e e' => e.1 < e'.1 := by
  induction l with
  | nil => exact pairwise_singleton _ _
  | cons a l ih =>
    obtain ⟨hfirst, hrest⟩ := pairwise_cons.1 hl
    unfold place
    split_ifs with hlt heq
    · exact pairwise_cons.2 ⟨forall_mem_cons.2 ⟨hlt, fun b hb => hlt.trans (hfirst b hb)⟩, hl⟩
    · subst heq
      exact pairwise_cons.2 ⟨hfirst, hrest⟩
    · refine pairwise_cons.2 ⟨fun b hb => ?_, ih hrest⟩
      rcases (mem_place hrest b).1 hb with rfl | ⟨hb, -⟩
      · exact lt_of_le_of_ne (not_lt.1 hlt) (Ne.symm heq)
      · exact hfirst b hb

/-- Set the value of a key. -/
def insert (k : κ) (v : ν) : SortedMap κ ν :=
  ⟨place k v m.entries, place_ascending k v m.ascending⟩

theorem mem_insert : e ∈ (m.insert k v).entries ↔ e = (k, v) ∨ (e ∈ m.entries ∧ e.1 ≠ k) :=
  mem_place m.ascending e

theorem mem_keys_insert {k' : κ} : k' ∈ (m.insert k v).keys ↔ k' ∈ m.keys ∨ k' = k := by
  simp only [mem_keys, mem_insert, Prod.mk.injEq]
  constructor
  · rintro ⟨v', ⟨rfl, rfl⟩ | ⟨he, -⟩⟩
    · exact .inr rfl
    · exact .inl ⟨v', he⟩
  · rintro (⟨v', he⟩ | rfl)
    · by_cases hk : k' = k
      · exact ⟨v, .inl ⟨hk, rfl⟩⟩
      · exact ⟨v', .inr ⟨he, hk⟩⟩
    · exact ⟨v, .inl ⟨rfl, rfl⟩⟩

/-! ### Filling a map -/

/-- Insert entries one after the other. -/
def insertAll (l : List (κ × ν)) : SortedMap κ ν :=
  l.foldl (fun m e => m.insert e.1 e.2) m

/-- Insert all pairs; the last value of a key remains. -/
def ofList (l : List (κ × ν)) : SortedMap κ ν := empty.insertAll l

theorem mem_keys_insertAll : k ∈ (m.insertAll l).keys ↔ k ∈ m.keys ∨ k ∈ l.map Prod.fst := by
  induction l generalizing m with
  | nil => simp [insertAll]
  | cons e l ih =>
    have hstep : m.insertAll (e :: l) = (m.insert e.1 e.2).insertAll l := rfl
    rw [hstep, ih, mem_keys_insert, map_cons, mem_cons, or_assoc]

private theorem mem_of_mem_insertAll (h : e ∈ (m.insertAll l).entries) : e ∈ m.entries ∨ e ∈ l := by
  induction l generalizing m with
  | nil => exact .inl h
  | cons a l ih =>
    rcases ih (m := m.insert a.1 a.2) h with he | he
    · rcases mem_insert.1 he with rfl | ⟨he, -⟩
      · exact .inr mem_cons_self
      · exact .inl he
    · exact .inr (mem_cons_of_mem _ he)

theorem mem_of_mem_ofList (h : e ∈ (ofList l).entries) : e ∈ l :=
  (mem_of_mem_insertAll h).resolve_left not_mem_nil

theorem mem_insertAll (hl : (l.map Prod.fst).Nodup) (hm : ∀ k ∈ m.keys, k ∉ l.map Prod.fst) :
    e ∈ (m.insertAll l).entries ↔ e ∈ m.entries ∨ e ∈ l := by
  induction l generalizing m with
  | nil => simp [insertAll]
  | cons a l ih =>
    obtain ⟨ha, hrest⟩ := nodup_cons.1 hl
    have hstep : m.insertAll (a :: l) = (m.insert a.1 a.2).insertAll l := rfl
    have hdisjoint : ∀ k ∈ (m.insert a.1 a.2).keys, k ∉ l.map Prod.fst := by
      intro k hk
      rcases mem_keys_insert.1 hk with hk | rfl
      · exact fun hmem => hm k hk (mem_cons_of_mem _ hmem)
      · exact ha
    have hkept : e ∈ m.entries → e.1 ≠ a.1 := fun he heq =>
      hm e.1 (mem_map_of_mem he) (heq ▸ mem_cons_self)
    rw [hstep, ih hrest hdisjoint, mem_insert, mem_cons, and_iff_left_of_imp hkept]
    tauto

/-- A map is filled again from its entries in any order. -/
theorem ofList_of_perm (h : l.Perm m.entries) : ofList l = m := by
  refine ext_mem fun e => ?_
  rw [ofList, mem_insertAll ((h.map Prod.fst).nodup_iff.2 m.nodup_keys) (by simp [keys, empty])]
  simp [empty, h.mem_iff]

end SortedMap

end CopyLocker.Foundation
