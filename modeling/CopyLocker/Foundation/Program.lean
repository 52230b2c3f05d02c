import Mathlib.Data.List.Basic

/-!
# Programs that call a shared object

A program is a tree: it is finished with a result, or it makes a call and goes on with the answer.
An object performs calls, and may refuse one with an answer that says so. A run of a program stops
when it is finished, or when it is interrupted between two calls. `Object.Safe` is an invariant
before each call and at the end, and so at every point where the program may be interrupted
(`Object.Safe.run`).
-/

namespace CopyLocker.Foundation

/-- A program that makes calls `c : κ`, answered by `ρ c`, and returns an `α`. -/
inductive Program (κ : Type) (ρ : κ → Type) (α : Type) : Type
  | done (result : α)
  | call (c : κ) (next : ρ c → Program κ ρ α)

namespace Program

variable {κ : Type} {ρ : κ → Type} {α β : Type}

protected def bind : Program κ ρ α → (α → Program κ ρ β) → Program κ ρ β
  | done result, f => f result
  | call c next, f => call c fun answer => (next answer).bind f

instance : Monad (Program κ ρ) where
  pure := done
  bind := Program.bind

end Program

/-- An object with state `σ`: what a call does and answers, and the answer when it is refused. -/
structure Object (κ : Type) (ρ : κ → Type) (σ : Type) where
  answer : σ → (c : κ) → ρ c
  effect : σ → κ → σ
  refusal : (c : κ) → ρ c

namespace Object

variable {κ : Type} {ρ : κ → Type} {σ α β : Type} (O : Object κ ρ σ)

/-- The result, if the program was not interrupted, and the state after a run. -/
def run : Program κ ρ α → σ → List Bool → Option α × σ
  | .done result, s, _ => (some result, s)
  | .call _ _, s, [] => (none, s)
  | .call c next, s, true :: outcomes => run (next (O.answer s c)) (O.effect s c) outcomes
  | .call c next, s, false :: outcomes => run (next (O.refusal c)) s outcomes

/-- The result and the state of a program that is neither refused a call nor interrupted. -/
def complete : Program κ ρ α → σ → α × σ
  | .done result, s => (result, s)
  | .call c next, s => complete (next (O.answer s c)) (O.effect s c)

/-- Each call of the run that is refused may be refused. -/
def Allowed (P : σ → κ → Prop) : Program κ ρ α → σ → List Bool → Prop
  | .done _, _, _ => True
  | .call _ _, _, [] => True
  | .call c next, s, true :: outcomes => Allowed P (next (O.answer s c)) (O.effect s c) outcomes
  | .call c next, s, false :: outcomes => P s c ∧ Allowed P (next (O.refusal c)) s outcomes

/-- Whatever is refused of what may be refused, `I` holds before each call, and `Q` of the result
and the state at the end. -/
def Safe (P : σ → κ → Prop) (I : σ → Prop) (Q : α → σ → Prop) : Program κ ρ α → σ → Prop
  | .done result, s => Q result s
  | .call c next, s =>
    I s ∧ Safe P I Q (next (O.answer s c)) (O.effect s c) ∧
      (P s c → Safe P I Q (next (O.refusal c)) s)

/-- The same when nothing is refused. -/
abbrev Served (I : σ → Prop) (Q : α → σ → Prop) : Program κ ρ α → σ → Prop :=
  O.Safe (fun _ _ => False) I Q

variable {O} {P : σ → κ → Prop} {I : σ → Prop} {Q : α → σ → Prop} {s : σ}

variable {p : Program κ ρ α} {R : α → σ → Prop}

/-- One program after another. -/
theorem Safe.bind {f : α → Program κ ρ β} {R : β → σ → Prop}
    (h : O.Safe P I (fun a s => O.Safe P I R (f a) s) p s) : O.Safe P I R (p >>= f) s := by
  induction p generalizing s with
  | done a => exact h
  | call c next ih =>
    obtain ⟨hI, hworks, hrefused⟩ := h
    exact ⟨hI, ih _ hworks, fun hP => ih _ (hrefused hP)⟩

theorem Safe.weaken {P' : σ → κ → Prop} {J : σ → Prop} (h : O.Safe P I Q p s)
    (hP : ∀ s c, P' s c → P s c) (hI : ∀ s, I s → J s) (hQ : ∀ a s, Q a s → R a s) :
    O.Safe P' J R p s := by
  induction p generalizing s with
  | done a => exact hQ a s h
  | call c next ih =>
    obtain ⟨hs, hworks, hrefused⟩ := h
    exact ⟨hI s hs, ih _ hworks, fun hc => ih _ (hrefused (hP s c hc))⟩

theorem Safe.mono (h : O.Safe P I Q p s) (hQ : ∀ a s, Q a s → R a s) : O.Safe P I R p s :=
  h.weaken (fun _ _ => id) (fun _ => id) hQ

theorem Safe.and {J : σ → Prop} (h : O.Safe P I Q p s) (h' : O.Safe P J R p s) :
    O.Safe P (fun s => I s ∧ J s) (fun a s => Q a s ∧ R a s) p s := by
  induction p generalizing s with
  | done a => exact ⟨h, h'⟩
  | call c next ih =>
    obtain ⟨hI, hworks, hrefused⟩ := h
    obtain ⟨hJ, hworks', hrefused'⟩ := h'
    exact ⟨⟨hI, hJ⟩, ih _ hworks hworks', fun hP => ih _ (hrefused hP) (hrefused' hP)⟩

theorem Safe.here (h : O.Safe P I Q p s) (hQ : ∀ a s, Q a s → I s) : I s := by
  cases p with
  | done a => exact hQ a s h
  | call c next => exact h.1

theorem Safe.exceptBind {ε : Type} {x : ExceptT ε (Program κ ρ) α}
    {f : α → ExceptT ε (Program κ ρ) β} {R : Except ε β → σ → Prop}
    (h : O.Safe P I (fun r s =>
      match r with
      | .ok a => O.Safe P I R (f a).run s
      | .error e => R (.error e) s) x.run s) :
    O.Safe P I R (x >>= f).run s := by
  refine Safe.bind (p := x.run) (h.mono fun r s hr => ?_)
  cases r with
  | ok a => exact hr
  | error e => exact hr

theorem safe_of_forall (hI : ∀ s, I s) (hQ : ∀ a s, Q a s) (p : Program κ ρ α) (s : σ) :
    O.Safe P I Q p s := by
  induction p generalizing s with
  | done a => exact hQ a s
  | call c next ih => exact ⟨hI s, ih _ _, fun _ => ih _ s⟩

/-- What a safe program leaves behind when nothing is refused. -/
theorem Safe.complete (h : O.Safe P I Q p s) : Q (O.complete p s).1 (O.complete p s).2 := by
  induction p generalizing s with
  | done a => exact h
  | call c next ih => exact ih _ h.2.1

theorem allowed_of_forall {outcomes : List Bool} (h : ∀ outcome ∈ outcomes, outcome) :
    O.Allowed P p s outcomes := by
  induction p generalizing s outcomes with
  | done a => trivial
  | call c next ih =>
    cases outcomes with
    | nil => trivial
    | cons outcome outcomes =>
      obtain rfl := h outcome List.mem_cons_self
      exact ih _ fun other hother => h other (List.mem_cons_of_mem _ hother)

theorem allowed_of_forall_call {outcomes : List Bool} (h : ∀ s c, P s c) :
    O.Allowed P p s outcomes := by
  induction p generalizing s outcomes with
  | done a => trivial
  | call c next ih =>
    rcases outcomes with _ | ⟨_ | _, outcomes⟩
    · trivial
    · exact ⟨h s c, ih _⟩
    · exact ih _

/-- A safe program may be interrupted anywhere. -/
theorem Safe.run {outcomes : List Bool} (h : O.Safe P I Q p s)
    (hallowed : O.Allowed P p s outcomes) :
    (∀ a ∈ (O.run p s outcomes).1, Q a (O.run p s outcomes).2) ∧
      ((O.run p s outcomes).1 = none → I (O.run p s outcomes).2) := by
  induction p generalizing s outcomes with
  | done a =>
    refine ⟨fun b hb => ?_, fun hnone => ?_⟩
    · cases hb
      exact h
    · cases hnone
  | call c next ih =>
    obtain ⟨hI, hworks, hrefused⟩ := h
    cases outcomes with
    | nil => exact ⟨nofun, fun _ => hI⟩
    | cons outcome outcomes =>
      cases outcome with
      | true => exact ih _ hworks hallowed
      | false => exact ih _ (hrefused hallowed.1) hallowed.2

end Object

end CopyLocker.Foundation
