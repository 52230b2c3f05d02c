import CopyLocker.Foundation.Run
import CopyLocker.Foundation.SortedMap
import CopyLocker.Types
import Mathlib.Data.String.Basic

/-!
# Recognising a device

An activation looks among the active machines of its license for the device that asks for it
(`fingerprint_match.rs`): a machine with the same fingerprint, or else the one whose attributes are
the most similar, if the policy tolerates the difference. A machine that reported no attributes
stands in the comparison with a score of zero, and the first of the best scores is taken. A policy
of tolerance zero accepts every pair of attributes, so there a machine without attributes can hide
an acceptable one.

## Main results

* `isBest_bestMatch`: the choice is the first of those with the highest score.
* `best_match_chooses_iff`: when the choice is a machine that matches if there is one.
-/

namespace CopyLocker.Server

open Foundation Run List

/-! ### Similarity -/

/-- The value of an attribute. -/
inductive AttrValue
  | absent
  | text (value : String)
  | set (items : List String)
  | int (value : ℤ)
  deriving DecidableEq

/-- The attributes of a device. -/
abbrev DeviceAttrs := SortedMap String AttrValue

/-- The value of an attribute that is known. -/
def DeviceAttrs.getPresent (attrs : DeviceAttrs) (key : String) : Option AttrValue :=
  (attrs.get key).filter (· ≠ .absent)

namespace DefaultFpr

/-- The weight of each attribute. -/
def weights : List (String × ℕ) :=
  [("machine_guid", 40), ("cpu_id", 15), ("board_serial", 15), ("disk_serial", 10),
    ("os_install_id", 10), ("platform_uuid", 45), ("hw_model_serial", 20),
    ("boot_volume_uuid", 15), ("machine_id", 40), ("dmi_product_uuid", 20), ("rootfs_uuid", 15),
    ("web_device_id", 60), ("ua_platform", 15), ("hardware_concurrency", 10), ("mac_addrs", 10),
    ("hostname", 5), ("timezone", 5)]

/-- The weight of the attributes that were compared, and of those that agreed. -/
structure Tally where
  total : ℕ
  matched : ℕ

/-- An attribute that one device alone has counts against them. -/
def tally (a b : DeviceAttrs) (t : Tally) (w : String × ℕ) : Tally :=
  match a.getPresent w.1, b.getPresent w.1 with
  | none, none => t
  | some x, some y => ⟨t.total + w.2, if x = y then t.matched + w.2 else t.matched⟩
  | _, _ => { t with total := t.total + w.2 }

/-- The weighted share of the known attributes that agree. -/
def similarity (a b : DeviceAttrs) : ℕ :=
  let t := exec (tally a b) ⟨0, 0⟩ weights
  if t.total = 0 then 0
  else if t.matched * 100 / t.total < 256 then t.matched * 100 / t.total else 100

variable {a b : DeviceAttrs}

theorem similarity_comm (a b : DeviceAttrs) : similarity a b = similarity b a := by
  have hstep : tally a b = tally b a := by
    funext t w
    unfold tally
    cases a.getPresent w.1 <;> cases b.getPresent w.1 <;> simp [eq_comm]
  unfold similarity
  rw [hstep]

theorem similarity_le (a b : DeviceAttrs) : similarity a b ≤ 100 := by
  have hle : ∀ es, (exec (tally a b) ⟨0, 0⟩ es).matched ≤ (exec (tally a b) ⟨0, 0⟩ es).total := by
    refine exec_induction (tally a b) (I := fun t => t.matched ≤ t.total) ?_ le_rfl
    intro t w h
    fun_cases tally a b t w <;> grind
  unfold similarity
  dsimp only
  split_ifs
  · omega
  · exact Nat.div_le_of_le_mul (Nat.mul_le_mul_right 100 (hle weights))
  · rfl

/-- At least one of the attributes that are compared is known. -/
def Known (a : DeviceAttrs) : Prop :=
  ∃ w ∈ weights, (a.getPresent w.1).isSome

theorem similarity_self (h : Known a) : similarity a a = 100 := by
  obtain ⟨w, hw, hsome⟩ := h
  obtain ⟨x, hx⟩ := Option.isSome_iff_exists.1 hsome
  have hsame : ∀ es, (exec (tally a a) ⟨0, 0⟩ es).matched = (exec (tally a a) ⟨0, 0⟩ es).total := by
    refine exec_induction (tally a a) (I := fun t => t.matched = t.total) ?_ rfl
    intro t w h
    unfold tally
    cases a.getPresent w.1 <;> simp [h]
  have hpos : 0 < (exec (tally a a) ⟨0, 0⟩ weights).total := by
    obtain ⟨pre, post, hsplit⟩ := append_of_mem hw
    rw [hsplit, exec_append, exec_cons]
    refine exec_induction (tally a a) (I := fun t => 0 < t.total) ?_ ?_ post
    · intro t w h
      fun_cases tally a a t w <;> grind
    · have hweight : ∀ w ∈ weights, 0 < w.2 := by decide
      simp [tally, hx, hweight w hw]
  unfold similarity
  dsimp only
  rw [hsame, if_neg hpos.ne', Nat.mul_div_cancel_left 100 hpos, if_pos (by decide)]

end DefaultFpr

/-! ### The choice -/

/-- How a device compares with a stored one. -/
inductive MatchOutcome
  | exact
  | tolerant (score : ℕ)
  | distinct (score : ℕ)
  deriving DecidableEq

/-- A device: its fingerprint, and its attributes if they were reported. -/
abbrev Candidate := Fingerprint × Option DeviceAttrs

/-- Compare with a stored device. -/
def matchDevice (similarity : DeviceAttrs → DeviceAttrs → ℕ) (tolerance : ℕ)
    (incoming stored : Candidate) : MatchOutcome :=
  if stored.1 = incoming.1 then .exact
  else
    match stored.2, incoming.2 with
    | some a, some b =>
      if tolerance ≤ similarity a b then .tolerant (similarity a b) else .distinct (similarity a b)
    | _, _ => .distinct 0

/-- Outcomes are ranked by their score alone. -/
def MatchOutcome.rank : MatchOutcome → ℕ
  | exact => 255
  | tolerant score | distinct score => score

/-- The best candidate so far, with its index and outcome. -/
abbrev Best := Option (ℕ × MatchOutcome)

/-- A higher rank replaces the best so far. -/
def better (best : Best) (i : ℕ) (outcome : MatchOutcome) : Best :=
  if best.all (·.2.rank < outcome.rank) then some (i, outcome) else best

/-- The loop over the candidates from index `i` on; an exact match ends it. -/
def bestFrom (outcome : Candidate → MatchOutcome) (i : ℕ) (best : Best) : List Candidate → Best
  | [] => best
  | c :: cs =>
    if (outcome c).rank = 255 then better best i (outcome c)
    else bestFrom outcome (i + 1) (better best i (outcome c)) cs

/-- The index and outcome of the strongest match. -/
def bestMatch (similarity : DeviceAttrs → DeviceAttrs → ℕ) (candidates : List Candidate)
    (incoming : Candidate) (tolerance : ℕ) : Best :=
  bestFrom (matchDevice similarity tolerance incoming) 0 none candidates

/-- The best of the candidates: one of them, none has a higher rank, and none before it the same. -/
structure IsBest (outcome : Candidate → MatchOutcome) (cs : List Candidate) (best : Best) :
    Prop where
  chosen : ∀ b ∈ best, ∃ c, cs[b.1]? = some c ∧ outcome c = b.2
  maximal : ∀ c ∈ cs, ∃ b ∈ best, (outcome c).rank ≤ b.2.rank
  first : ∀ b ∈ best, ∀ c ∈ cs.take b.1, (outcome c).rank < b.2.rank

variable {outcome : Candidate → MatchOutcome} {pre cs candidates : List Candidate} {best : Best}
  {c incoming : Candidate} {tolerance : ℕ}

theorem IsBest.append (h : IsBest outcome pre best)
    (hmax : ∀ c ∈ cs, ∃ b ∈ best, (outcome c).rank ≤ b.2.rank) :
    IsBest outcome (pre ++ cs) best where
  chosen b hb := by
    obtain ⟨c, hc, hout⟩ := h.chosen b hb
    exact ⟨c, by rw [getElem?_append_left (List.getElem?_eq_some_iff.1 hc).1, hc], hout⟩
  maximal c hc := (mem_append.1 hc).elim (h.maximal c) (hmax c)
  first b hb := by
    obtain ⟨c, hc, -⟩ := h.chosen b hb
    rw [take_append_of_le_length (List.getElem?_eq_some_iff.1 hc).1.le]
    exact h.first b hb

theorem IsBest.better (h : IsBest outcome pre best) (c : Candidate) :
    IsBest outcome (pre ++ [c]) (better best pre.length (outcome c)) := by
  unfold Server.better
  split_ifs with hless
  · -- the new candidate has a higher rank than all before it
    have hbelow (c' : Candidate) (hc' : c' ∈ pre) : (outcome c').rank < (outcome c).rank := by
      obtain ⟨b, hb, hle⟩ := h.maximal c' hc'
      exact hle.trans_lt (of_decide_eq_true ((Option.all_eq_true _ _).1 hless b hb))
    refine ⟨?_, forall_mem_append.2 ⟨fun c' hc' => ⟨_, rfl, (hbelow c' hc').le⟩, by simp⟩, ?_⟩
    · rintro _ ⟨⟩
      exact ⟨c, by simp, rfl⟩
    · rintro _ ⟨⟩
      simpa using hbelow
  · refine h.append ?_
    simpa [Option.all_eq_true] using hless

/-- The loop may end at rank 255, since no rank is higher. -/
theorem isBest_bestFrom (pre) (hrank : ∀ c, (outcome c).rank ≤ 255) (h : IsBest outcome pre best) :
    IsBest outcome (pre ++ cs) (bestFrom outcome pre.length best cs) := by
  induction cs generalizing pre best with
  | nil => simpa [bestFrom] using h
  | cons c cs ih =>
    rw [bestFrom, append_cons]
    split_ifs with hlast
    · refine (h.better c).append fun c' _ => ?_
      obtain ⟨b, hb, hle⟩ := (h.better c).maximal c (by simp)
      exact ⟨b, hb, (hrank c').trans (hlast ▸ hle)⟩
    · simpa using ih _ (h.better c)

open DefaultFpr

theorem rank_le_of_ne (hne : c.1 ≠ incoming.1) :
    (matchDevice similarity tolerance incoming c).rank ≤ 100 := by
  fun_cases matchDevice similarity tolerance incoming c with
  | case1 hsame => exact absurd hsame hne
  | case2 | case3 => exact similarity_le _ _
  | case4 => exact Nat.zero_le _

theorem isBest_bestMatch (candidates : List Candidate) (incoming : Candidate) (tolerance : ℕ) :
    IsBest (matchDevice similarity tolerance incoming) candidates
      (bestMatch similarity candidates incoming tolerance) := by
  refine isBest_bestFrom [] (fun c => ?_) ⟨by simp, by simp, by simp⟩
  by_cases hsame : c.1 = incoming.1
  · rw [matchDevice, if_pos hsame]
    rfl
  · exact (rank_le_of_ne hsame).trans (by decide)

/-- The choice is a candidate with the same fingerprint, if there is one. Otherwise it is a most
similar one of those that reach the tolerance, if there are any. -/
def Chooses (candidates : List Candidate) (incoming : Candidate) (tolerance : ℕ) : Prop :=
  (∀ c ∈ candidates, c.1 = incoming.1 → ∃ i c', candidates[i]? = some c' ∧ c'.1 = incoming.1 ∧
    bestMatch similarity candidates incoming tolerance = some (i, .exact)) ∧
  ((∀ c ∈ candidates, c.1 ≠ incoming.1) → ∀ b, incoming.2 = some b →
    ∀ c ∈ candidates, ∀ a, c.2 = some a → tolerance ≤ similarity a b →
      ∃ i c' a', candidates[i]? = some c' ∧ c'.2 = some a' ∧ tolerance ≤ similarity a' b ∧
        similarity a b ≤ similarity a' b ∧
        bestMatch similarity candidates incoming tolerance = some (i, .tolerant (similarity a' b)))

/-- The tolerance is zero, no candidate has the same fingerprint, all those that are tolerated have
the score zero, and the first candidate is not tolerated, for want of attributes. -/
structure Hides (candidates : List Candidate) (incoming : Candidate) (tolerance : ℕ) : Prop where
  zero : tolerance = 0
  differ : ∀ c ∈ candidates, c.1 ≠ incoming.1
  first : ∃ c ∈ candidates.head?, c.2 = none
  tolerated : ∃ b ∈ incoming.2, (∃ c ∈ candidates, c.2.isSome = true) ∧
    ∀ c ∈ candidates, ∀ a ∈ c.2, similarity a b = 0

/-- A candidate with the score zero is chosen only if it is the first. -/
theorem head?_of_rank_eq_zero {i : ℕ}
    (hbest : IsBest outcome candidates (some (i, outcome c))) (hc : candidates[i]? = some c)
    (hrank : (outcome c).rank = 0) : candidates.head? = some c := by
  obtain _ | i := i
  · rwa [head?_eq_getElem?]
  · cases candidates with
    | nil => cases hc
    | cons c₀ cs => exact absurd (hbest.first _ rfl c₀ (by simp)) (by simp [hrank])

theorem chooses_of_not_hides (h : ¬ Hides candidates incoming tolerance) :
    Chooses candidates incoming tolerance := by
  have hbest := isBest_bestMatch candidates incoming tolerance
  constructor
  · intro c hc hsame
    obtain ⟨⟨i, _⟩, hi, hmax⟩ := hbest.maximal c hc
    obtain ⟨c', hc', rfl⟩ := hbest.chosen _ hi
    rw [matchDevice, if_pos hsame] at hmax
    have hsame' : c'.1 = incoming.1 := by
      by_contra hne
      exact absurd (hmax.trans (rank_le_of_ne hne)) (by decide)
    rw [matchDevice, if_pos hsame'] at hi
    exact ⟨i, c', hc', hsame', hi⟩
  · intro hnone b hb c hc a ha hle
    -- whatever is tolerated has at most the rank of the choice
    have hmatch (c : Candidate) (hc : c ∈ candidates) (a : DeviceAttrs) (ha : c.2 = some a)
        (hle : tolerance ≤ similarity a b) :
        matchDevice similarity tolerance incoming c = .tolerant (similarity a b) := by
      simp [matchDevice, hnone c hc, ha, hb, hle]
    obtain ⟨⟨i, _⟩, hi, hmax⟩ := hbest.maximal c hc
    obtain ⟨c', hc', rfl⟩ := hbest.chosen _ hi
    rw [Option.mem_def.1 hi] at hbest
    have hfirst := head?_of_rank_eq_zero hbest hc'
    have hrank (c₁ : Candidate) (hc₁ : c₁ ∈ candidates) :
        (matchDevice similarity tolerance incoming c₁).rank ≤
          (matchDevice similarity tolerance incoming c').rank := by
      obtain ⟨_, ⟨⟩, hle⟩ := hbest.maximal c₁ hc₁
      exact hle
    rw [hmatch c hc a ha hle] at hmax
    revert hi hmax hfirst hrank
    fun_cases matchDevice similarity tolerance incoming c' with
    | case1 hsame => exact absurd hsame (hnone c' (mem_of_getElem? hc'))
    | case2 _ a' b' hb' ha' hle' =>
      intro hi hmax _ _
      cases hb.symm.trans hb'
      exact ⟨i, c', a', hc', ha', hle', hmax, hi⟩
    | case3 _ _ _ _ _ hlow =>
      intro _ hmax
      exact absurd (hle.trans hmax) hlow
    | case4 _ hmissing =>
      -- without attributes the rank is zero, so this is the first candidate and it hides the rest
      intro _ hmax hfirst hrank
      have hzero : tolerance = 0 := Nat.le_zero.1 (hle.trans hmax)
      have hattrs : c'.2 = none := by
        cases hc'' : c'.2 with
        | none => rfl
        | some a' => exact (hmissing a' b hc'' hb).elim
      refine absurd ⟨hzero, hnone, ⟨c', hfirst rfl, hattrs⟩, b, hb, ⟨c, hc, by simp [ha]⟩, ?_⟩ h
      intro c₁ hc₁ a₁ ha₁
      have hle₁ := hrank c₁ hc₁
      rw [hmatch c₁ hc₁ a₁ ha₁ (hzero ▸ Nat.zero_le _)] at hle₁
      exact Nat.le_zero.1 hle₁

theorem not_chooses_of_hides (h : Hides candidates incoming tolerance) :
    ¬ Chooses candidates incoming tolerance := by
  obtain ⟨hzero, hdiffer, ⟨c₀, hfirst, hnone⟩, b, hb, ⟨c, hc, hsome⟩, hscores⟩ := h
  obtain ⟨a, ha⟩ := Option.isSome_iff_exists.1 hsome
  intro hchooses
  obtain ⟨i, c', a', hc', ha', -, -, hbestMatch⟩ :=
    hchooses.2 hdiffer b hb c hc a ha (hzero ▸ Nat.zero_le _)
  have hbest := isBest_bestMatch candidates incoming tolerance
  rw [hbestMatch] at hbest
  obtain ⟨c'', hc'', hout⟩ := hbest.chosen _ rfl
  obtain rfl : c' = c'' := Option.some.inj (hc'.symm.trans hc'')
  have hrank : (matchDevice similarity tolerance incoming c').rank = 0 := by
    rw [hout]
    exact hscores c' (mem_of_getElem? hc') a' ha'
  have hhead := head?_of_rank_eq_zero (hout ▸ hbest) hc' hrank
  rw [Option.some.inj (hfirst.symm.trans hhead), ha'] at hnone
  cases hnone

def twoMachines : List Candidate := [([1], none), ([2], some .empty)]

/-- A device that shares no attribute with the second machine. -/
def unlike : Candidate := ([3], some .empty)

end CopyLocker.Server
