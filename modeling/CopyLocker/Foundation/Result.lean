import Mathlib.Data.List.Forall2
import Mathlib.Data.List.ReduceOption
import Mathlib.Tactic.Common

/-!
# Computations that may fail

Inversion of sequences in `Except`: what a success says about the parts. A check is
`Result.require`; `Result.FailsWith` and `Result.Decides` say how a computation fails and when it
succeeds, and the rules take both apart along a sequence, a map and a fold.
-/

namespace CopyLocker.Foundation.Result

open List Except

variable {ε α β : Type}

variable {x : Except ε α} {f : α → Except ε β} {b : β} {e : ε} {l : List α} {a : α} {o : Option α}
  {l' : List β}

theorem bind_eq_ok : (x >>= f) = .ok b ↔ ∃ a, x = .ok a ∧ f a = .ok b := by
  cases x with
  | error e => exact iff_of_false (fun h => by cases h) fun ⟨a, h, _⟩ => by cases h
  | ok a =>
    constructor
    · intro h
      exact ⟨a, rfl, h⟩
    · rintro ⟨a', ha, h⟩
      cases ha
      exact h

theorem bind_eq_error : (x >>= f) = .error e ↔ x = .error e ∨ ∃ a, x = .ok a ∧ f a = .error e := by
  cases x with
  | error e' =>
    constructor
    · intro h
      exact .inl (congrArg error (error.inj h))
    · rintro (h | ⟨a, h, -⟩)
      · exact congrArg error (error.inj h)
      · cases h
  | ok a =>
    constructor
    · intro h
      exact .inr ⟨a, rfl, h⟩
    · rintro (h | ⟨a', ha, h⟩)
      · cases h
      · cases ha
        exact h

/-- A fold whose every step succeeds and keeps an invariant succeeds and keeps it. -/
theorem foldlM_succeeds {f : β → α → Except ε β} {I : β → Prop}
    (hstep : ∀ a ∈ l, ∀ b, I b → ∃ b', f b a = .ok b' ∧ I b') (hb : I b) :
    ∃ b', l.foldlM f b = .ok b' ∧ I b' := by
  induction l generalizing b with
  | nil => exact ⟨b, rfl, hb⟩
  | cons a l ih =>
    obtain ⟨b', hf, hb'⟩ := hstep a mem_cons_self b hb
    obtain ⟨last, hlast, hI⟩ := ih (fun a' ha' => hstep a' (mem_cons_of_mem _ ha')) hb'
    exact ⟨last, by rw [foldlM_cons, bind_eq_ok]; exact ⟨b', hf, hlast⟩, hI⟩

theorem foldlM_adds {f : β → α → Except ε β} {M : β → Prop} {P : α → Prop}
    (hstep : ∀ b a b', f b a = .ok b' → (M b' ↔ M b ∨ P a)) {b' : β} (h : l.foldlM f b = .ok b') :
    M b' ↔ M b ∨ ∃ a ∈ l, P a := by
  induction l generalizing b with
  | nil =>
    cases h
    simp
  | cons a l ih =>
    obtain ⟨next, hnext, hrest⟩ := bind_eq_ok.1 h
    rw [ih hrest, hstep b a next hnext]
    simp only [mem_cons, exists_eq_or_imp, or_assoc]

theorem seq_eq_ok {x : Except ε Unit} {y : Except ε β} :
    (x >>= fun _ => y) = .ok b ↔ x = .ok () ∧ y = .ok b :=
  bind_eq_ok.trans ⟨fun ⟨_, hx, hy⟩ => ⟨hx, hy⟩, fun h => ⟨(), h⟩⟩

theorem forM_eq_ok {f : α → Except ε Unit} : l.forM f = .ok () ↔ ∀ a ∈ l, f a = .ok () := by
  induction l with
  | nil => exact iff_of_true rfl (by simp)
  | cons a l ih =>
    rw [forall_mem_cons, ← ih]
    exact seq_eq_ok

theorem map_eq_ok {f : α → β} : f <$> x = .ok b ↔ ∃ a, x = .ok a ∧ f a = b := by
  rw [map_eq_pure_bind, bind_eq_ok]
  simp [pure, Except.pure]

theorem map_eq_error {f : α → β} : f <$> x = .error e ↔ x = .error e := by
  rw [map_eq_pure_bind, bind_eq_error]
  simp [pure, Except.pure]

theorem mapError_eq_error {ε' : Type} {f : ε → ε'} {e' : ε'} :
    x.mapError f = .error e' ↔ ∃ e, x = .error e ∧ f e = e' := by
  cases x with
  | error e =>
    constructor
    · intro h
      exact ⟨e, rfl, error.inj h⟩
    · rintro ⟨e'', he, h⟩
      cases he
      exact congrArg error h
  | ok a => exact iff_of_false (fun h => by cases h) fun ⟨_, h, _⟩ => by cases h

theorem mapError_eq_ok {ε' : Type} {f : ε → ε'} : x.mapError f = .ok a ↔ x = .ok a := by
  cases x with
  | error e => exact iff_of_false (fun h => by cases h) fun h => by cases h
  | ok a' => exact ⟨fun h => congrArg ok (ok.inj h), fun h => by rw [h]; rfl⟩

/-- Fail unless the condition holds. -/
def require (p : Prop) [Decidable p] (e : ε) : Except ε Unit := if p then .ok () else .error e

/-- A value that is there, or a failure. -/
def ofOption (o : Option α) (e : ε) : Except ε α :=
  match o with
  | some a => .ok a
  | none => .error e

theorem require_eq_ok {p : Prop} [Decidable p] : require p e = .ok () ↔ p := by
  unfold require
  split_ifs with hp
  · exact iff_of_true rfl hp
  · exact iff_of_false (fun h => by cases h) hp

theorem ofOption_eq_error {e' : ε} : ofOption o e = .error e' ↔ o = none ∧ e = e' := by
  cases o with
  | none => exact ⟨fun h => ⟨rfl, error.inj h⟩, fun h => congrArg error h.2⟩
  | some a => exact iff_of_false (fun h => by cases h) fun ⟨h, _⟩ => by cases h

theorem ofOption_eq_ok : ofOption o e = .ok a ↔ o = some a := by
  cases o with
  | none => exact iff_of_false (fun h => by cases h) fun h => by cases h
  | some a' => exact ⟨fun h => congrArg some (ok.inj h), fun h => by rw [h]; rfl⟩

theorem mapM_eq_ok : l.mapM f = .ok l' ↔ List.Forall₂ (fun a b => f a = .ok b) l l' := by
  induction l generalizing l' with
  | nil =>
    rw [mapM_nil, forall₂_nil_left_iff]
    exact ⟨fun h => (ok.inj h).symm, fun h => congrArg ok h.symm⟩
  | cons a l ih =>
    rw [mapM_cons, bind_eq_ok, forall₂_cons_left_iff]
    constructor
    · rintro ⟨b, hb, h⟩
      obtain ⟨rest, hrest, h⟩ := bind_eq_ok.1 h
      exact ⟨b, rest, hb, ih.1 hrest, (ok.inj h).symm⟩
    · rintro ⟨b, rest, hb, hrest, rfl⟩
      exact ⟨b, hb, bind_eq_ok.2 ⟨rest, ih.2 hrest, rfl⟩⟩

/-- A result of the list comes from one of its elements. -/
theorem exists_of_mem_mapM (h : l.mapM f = .ok l') (hb : b ∈ l') : ∃ a ∈ l, f a = .ok b := by
  have hall := mapM_eq_ok.1 h
  clear h
  induction hall with
  | nil => cases hb
  | cons hab _ ih =>
    rcases mem_cons.1 hb with rfl | hb
    · exact ⟨_, mem_cons_self, hab⟩
    · obtain ⟨a, ha, hf⟩ := ih hb
      exact ⟨a, mem_cons_of_mem _ ha, hf⟩

theorem ok_of_mem_mapM (h : l.mapM f = .ok l') (ha : a ∈ l) : ∃ b, f a = .ok b := by
  have hall := (mapM_eq_ok.1 h).imp fun a b hab => And.intro (Exists.intro b hab) hab
  exact ((forall₂_and_left l l').1 hall).1 a ha

theorem mapM_reduceOption {f : α → Except ε (Option β)} {l' : List (Option β)}
    (h : l.mapM f = .ok l') : l'.reduceOption = l.filterMap fun a => (f a).toOption.join := by
  have hall := mapM_eq_ok.1 h
  clear h
  induction hall with
  | nil => rfl
  | @cons a b l l' hab _ ih =>
    rw [filterMap_cons, hab]
    cases b with
    | none => exact ih
    | some b => exact congrArg (b :: ·) ih

theorem mapM_find {κ : Type} [BEq κ] {key : α → κ} {key' : β → κ}
    (hkey : ∀ a b, f a = .ok b → key' b = key a) (h : l.mapM f = .ok l') (k : κ)
    (ha : l.find? (key · == k) = some a) : ∃ b, f a = .ok b ∧ l'.find? (key' · == k) = some b := by
  have hall := mapM_eq_ok.1 h
  clear h
  induction hall with
  | nil => cases ha
  | @cons x y l l' hxy _ ih =>
    rw [find?_cons] at ha ⊢
    rw [hkey x y hxy]
    cases hk : key x == k with
    | true =>
      rw [hk] at ha
      cases ha
      exact ⟨y, hxy, rfl⟩
    | false =>
      rw [hk] at ha
      exact ih ha

/-! ### Which errors a computation has -/

/-- Every error of the computation satisfies `P`. -/
def FailsWith (P : ε → Prop) (x : Except ε α) : Prop := ∀ e, x = .error e → P e

section FailsWith

variable {P : ε → Prop}

theorem FailsWith.ok (a : α) : FailsWith P (.ok a : Except ε α) := by
  intro e h
  cases h

theorem FailsWith.bind (hx : FailsWith P x) (hf : ∀ a, x = .ok a → FailsWith P (f a)) :
    FailsWith P (x >>= f) := by
  intro e h
  rcases bind_eq_error.1 h with h | ⟨a, ha, h⟩
  · exact hx e h
  · exact hf a ha e h

theorem FailsWith.map (hx : FailsWith P x) (f : α → β) : FailsWith P (f <$> x) :=
  fun e h => hx e (map_eq_error.1 h)

theorem FailsWith.require {p : Prop} [Decidable p] (he : P e) : FailsWith P (require p e) := by
  intro e' h
  unfold Result.require at h
  split_ifs at h
  rwa [← error.inj h]

theorem FailsWith.ofOption (he : P e) : FailsWith P (ofOption o e) := by
  intro e' h
  rwa [← (ofOption_eq_error.1 h).2]

theorem FailsWith.mapM (hf : ∀ a, FailsWith P (f a)) (l : List α) : FailsWith P (l.mapM f) := by
  induction l with
  | nil => exact .ok []
  | cons a l ih =>
    rw [mapM_cons]
    exact (hf a).bind fun b _ => ih.bind fun rest _ => .ok (b :: rest)

theorem FailsWith.forM {f : α → Except ε Unit} (hf : ∀ a, FailsWith P (f a)) (l : List α) :
    FailsWith P (l.forM f) := by
  induction l with
  | nil => exact .ok ()
  | cons a l ih => exact (hf a).bind fun _ _ => ih

/-- The computation succeeds exactly under `Q`, and its errors satisfy `P`. -/
structure Decides (Q : Prop) (P : ε → Prop) (x : Except ε α) : Prop where
  succeeds_iff : (∃ a, x = .ok a) ↔ Q
  fails : FailsWith P x

namespace Decides

variable {Q R : Prop}

theorem ok (a : α) : Decides True P (.ok a : Except ε α) := ⟨iff_of_true ⟨a, rfl⟩ trivial, .ok a⟩

theorem error (he : P e) : Decides False P (.error e : Except ε α) :=
  ⟨iff_of_false (fun ⟨_, h⟩ => by cases h) not_false, by rintro _ ⟨⟩; exact he⟩

theorem congr (hx : Decides Q P x) (h : Q ↔ R) : Decides R P x := ⟨hx.1.trans h, hx.2⟩

theorem bind (hx : Decides Q P x) (hf : ∀ a, Decides R P (f a)) : Decides (Q ∧ R) P (x >>= f) := by
  refine ⟨?_, hx.2.bind fun a _ => (hf a).2⟩
  rw [← hx.1]
  constructor
  · rintro ⟨b, h⟩
    obtain ⟨a, hx, hb⟩ := bind_eq_ok.1 h
    exact ⟨⟨a, hx⟩, (hf a).1.1 ⟨b, hb⟩⟩
  · rintro ⟨⟨a, hx⟩, hR⟩
    obtain ⟨b, hb⟩ := (hf a).1.2 hR
    exact ⟨b, bind_eq_ok.2 ⟨a, hx, hb⟩⟩

theorem require {p : Prop} [Decidable p] (he : P e) : Decides p P (require p e) := by
  unfold Result.require
  split_ifs with hp
  · exact (ok ()).congr (iff_of_true trivial hp)
  · exact (error he).congr (iff_of_false not_false hp)

theorem foldlM {f : β → α → Except ε β} {S : α → Prop} (hf : ∀ a ∈ l, ∀ b, Decides (S a) P (f b a))
    (b : β) : Decides (∀ a ∈ l, S a) P (l.foldlM f b) := by
  induction l generalizing b with
  | nil => exact (ok b).congr (by simp)
  | cons a l ih =>
    rw [forall_mem_cons] at hf ⊢
    exact (hf.1 b).bind fun b' => ih hf.2 b'

end Decides

end FailsWith

end CopyLocker.Foundation.Result
