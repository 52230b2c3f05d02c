import CopyLocker.Foundation.Result

/-!
# Request handlers

A handler runs on a shared state, keeps what it wrote when it fails, and answers a value or a
failure. Between two of its steps it may yield, and others change the state. The inversion lemmas
take a successful run apart step by step.
-/

namespace CopyLocker.Foundation

open Except

/-- A computation on the state `σ` that answers an `α` or fails with an `ε`. -/
def Handler (σ ε α : Type) := σ → σ × Except ε α

namespace Handler

variable {σ ε α β : Type}

instance : Monad (Handler σ ε) where
  pure a := fun s => (s, .ok a)
  bind x f := fun s =>
    match x s with
    | (s', .ok a) => f a s'
    | (s', .error e) => (s', .error e)

/-- Refuse unless the condition holds. -/
def require (p : Prop) [Decidable p] (e : ε) : Handler σ ε Unit :=
  fun s => (s, if p then .ok () else .error e)

/-- Answer with a result computed without the state. -/
def ofExcept (r : Except ε α) : Handler σ ε α := fun s => (s, r)

/-- Answer with a value, or fail when there is none. -/
def ofOption (o : Option α) (e : ε) : Handler σ ε α :=
  fun s => (s, match o with
    | some a => .ok a
    | none => .error e)

/-- Read the state. -/
def read (g : σ → α) : Handler σ ε α := fun s => (s, .ok (g s))

/-- Run a transition of the state that has an answer. -/
def call (g : σ → σ × α) : Handler σ ε α := fun s => ((g s).1, .ok (g s).2)

/-- Let others change the state. -/
def yield (g : σ → σ) : Handler σ ε Unit := fun s => (g s, .ok ())

variable {x : Handler σ ε α} {p : Prop} {e : ε} {r : Except ε α} {f : α → Handler σ ε β} {s : σ}

theorem bind_eq_ok {s' : σ} {b : β} (h : (x >>= f) s = (s', .ok b)) :
    ∃ s₁ a, x s = (s₁, .ok a) ∧ f a s₁ = (s', .ok b) := by
  simp only [bind] at h
  split at h
  next s₁ a hx => exact ⟨s₁, a, hx, h⟩
  · cases h

/-- The handler answers a value from this state. -/
def Succeeds (x : Handler σ ε α) (s : σ) : Prop := ∃ s' a, x s = (s', .ok a)

theorem succeeds_iff {x : Handler σ ε Unit} : x.Succeeds s ↔ (x s).2 = .ok () :=
  ⟨fun ⟨_, _, h⟩ => congrArg Prod.snd h, fun h => ⟨_, (), Prod.ext rfl h⟩⟩

theorem succeeds_bind : (x >>= f).Succeeds s ↔ ∃ s₁ a, x s = (s₁, .ok a) ∧ (f a).Succeeds s₁ := by
  constructor
  · rintro ⟨s', b, h⟩
    obtain ⟨s₁, a, hx, hf⟩ := bind_eq_ok h
    exact ⟨s₁, a, hx, s', b, hf⟩
  · rintro ⟨s₁, a, hx, s', b, hf⟩
    refine ⟨s', b, ?_⟩
    simp only [Bind.bind, hx]
    exact hf

/-- The second part may be judged before the first one runs, if the first one does not touch what it
depends on. -/
theorem succeeds_bind_iff {P : Prop} (h : ∀ s₁ a, x s = (s₁, .ok a) → ((f a).Succeeds s₁ ↔ P)) :
    (x >>= f).Succeeds s ↔ x.Succeeds s ∧ P := by
  rw [succeeds_bind]
  constructor
  · rintro ⟨s₁, a, hx, hf⟩
    exact ⟨⟨s₁, a, hx⟩, (h s₁ a hx).1 hf⟩
  · rintro ⟨⟨s₁, a, hx⟩, hP⟩
    exact ⟨s₁, a, hx, (h s₁ a hx).2 hP⟩

variable {f : α → Handler σ ε β} {s s' : σ} {b : β}

theorem require_bind [Decidable p] {f : Unit → Handler σ ε β}
    (h : (require p e >>= f) s = (s', .ok b)) : p ∧ f () s = (s', .ok b) := by
  obtain ⟨s₁, u, hx, h⟩ := bind_eq_ok h
  unfold require at hx
  split_ifs at hx with hp
  · cases hx
    exact ⟨hp, h⟩
  · cases hx

theorem ofExcept_bind (h : (ofExcept r >>= f) s = (s', .ok b)) :
    ∃ a, r = .ok a ∧ f a s = (s', .ok b) := by
  obtain ⟨s₁, a, hx, h⟩ := bind_eq_ok h
  cases hx
  exact ⟨a, rfl, h⟩

theorem ofOption_bind {o : Option α} (h : (ofOption o e >>= f) s = (s', .ok b)) :
    ∃ a, o = some a ∧ f a s = (s', .ok b) := by
  obtain ⟨s₁, a, hx, h⟩ := bind_eq_ok h
  unfold ofOption at hx
  split at hx <;> cases hx
  exact ⟨a, rfl, h⟩

/-! ### Steps with a known outcome -/

theorem require_bind_of_pos [Decidable p] {f : Unit → Handler σ ε β} (hp : p) :
    (require p e >>= f) = f () := by
  funext s
  simp [Bind.bind, require, if_pos hp]

theorem ofExcept_ok_bind (a : α) : (ofExcept (.ok a) >>= f) = f a := rfl

theorem ofOption_some_bind (a : α) (e : ε) : (ofOption (some a) e >>= f) = f a := rfl

/-! ### Which failures a handler has -/

/-- Every failure of the handler satisfies `P`, from whatever state it starts. -/
def FailsWith (P : ε → Prop) (x : Handler σ ε α) : Prop := ∀ s, Result.FailsWith P (x s).2

section FailsWith

variable {P : ε → Prop}

theorem FailsWith.bind (hx : FailsWith P x) (hf : ∀ a, FailsWith P (f a)) :
    FailsWith P (x >>= f) := by
  intro s e h
  rcases hresult : x s with ⟨s₁, r⟩
  simp only [Bind.bind, hresult] at h
  cases r with
  | error e' =>
    refine hx s e ?_
    rw [hresult]
    exact congrArg error (error.inj h)
  | ok a => exact hf a s₁ e h

theorem FailsWith.mono {Q : ε → Prop} (hx : FailsWith Q x) (hQ : ∀ e, Q e → P e) : FailsWith P x :=
  fun s e h => hQ e (hx s e h)

theorem FailsWith.require_bind [Decidable p] {f : Unit → Handler σ ε β} (he : P e)
    (hf : p → FailsWith P (f ())) : FailsWith P (require p e >>= f) := by
  by_cases hp : p
  · rw [require_bind_of_pos hp]
    exact hf hp
  · intro s e' h
    simp only [Bind.bind, require, if_neg hp] at h
    rwa [← error.inj h]

theorem FailsWith.ofExcept (hr : Result.FailsWith P r) : FailsWith P (ofExcept r : Handler σ ε α) :=
  fun _ => hr

theorem FailsWith.ofExcept_bind (hr : Result.FailsWith P r)
    (hf : ∀ a, r = .ok a → FailsWith P (f a)) : FailsWith P (Handler.ofExcept r >>= f) := by
  cases r with
  | error e =>
    intro s e' h
    exact hr e' (congrArg error (error.inj h))
  | ok a => exact hf a rfl

theorem FailsWith.ofOption_bind {o : Option α} (he : P e)
    (hf : ∀ a, o = some a → FailsWith P (f a)) : FailsWith P (ofOption o e >>= f) := by
  cases o with
  | none =>
    intro s e' h
    have hsame : (error e : Except ε β) = .error e' := h
    rwa [← error.inj hsame]
  | some a => exact hf a rfl

theorem FailsWith.read (g : σ → α) : FailsWith P (read g : Handler σ ε α) :=
  fun _ => Result.FailsWith.ok _

theorem FailsWith.call (g : σ → σ × α) : FailsWith P (call g : Handler σ ε α) :=
  fun _ => Result.FailsWith.ok _

theorem FailsWith.yield (g : σ → σ) : FailsWith P (yield g : Handler σ ε Unit) :=
  fun _ => Result.FailsWith.ok _

end FailsWith

end Handler

end CopyLocker.Foundation
