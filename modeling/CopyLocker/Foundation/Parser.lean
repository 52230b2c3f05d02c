import CopyLocker.Foundation.Bytes
import CopyLocker.Foundation.Result
import CopyLocker.Foundation.Run
import Mathlib.Algebra.Group.Nat.Defs

/-!
# Parsers of bytes

A parser takes bytes from the front of a list, or fails. What is shown of a parser is which bytes it
reads: `Reads p bs Q a` says that on input that begins with `bs` the parser succeeds exactly if `Q`,
with the value `a`, and leaves what follows `bs`. The rules follow the way parsers are written.
-/

namespace CopyLocker.Foundation

open Run List

/-- A parser with errors `ε`. -/
abbrev Parser (ε α : Type) := StateT (List UInt8) (Except ε) α

namespace Parser

variable {ε α β : Type}

/-- The next byte. -/
def byte (e : ε) : Parser ε UInt8
  | [] => .error e
  | b :: bs => .ok (b, bs)

/-- The next `n` bytes. -/
def take (n : ℕ) (e : ε) : Parser ε (List UInt8) := fun bs =>
  if n ≤ bs.length then .ok (bs.take n, bs.drop n) else .error e

/-- A parser with the bytes that it takes. -/
def consumed (p : Parser ε α) : Parser ε (α × List UInt8) := fun bs =>
  (p.run bs).map fun r => ((r.1, bs.take (bs.length - r.2.length)), r.2)

/-- Pass a value through `n` repetitions. -/
def iterate (step : α → Parser ε α) : ℕ → α → Parser ε α
  | 0, a => pure a
  | n + 1, a => step a >>= iterate step n

/-- On input that begins with `bs`, the parser succeeds exactly if `Q`; it then returns `a` and
leaves the rest. -/
def Reads (p : Parser ε α) (bs : List UInt8) (Q : Prop) (a : α) : Prop :=
  ∀ rest r, p.run (bs ++ rest) = .ok r ↔ Q ∧ r = (a, rest)

variable {f : α → Parser ε β}

theorem run_bind_eq_ok {p : Parser ε α} {bs : List UInt8} {r : β × List UInt8} :
    (p >>= f).run bs = .ok r ↔ ∃ a rest, p.run bs = .ok (a, rest) ∧ (f a).run rest = .ok r := by
  exact Result.bind_eq_ok.trans Prod.exists

section Rules

variable {p : Parser ε α} {bs bs' : List UInt8} {Q Q' : Prop} {a : α} {b : β} {e : ε}

theorem reads_pure (a : α) : Reads (pure a : Parser ε α) [] True a := by
  intro rest r
  rw [true_and]
  exact ⟨fun h => (Except.ok.inj h).symm, fun h => h ▸ rfl⟩

theorem Reads.congr (h : Reads p bs Q a) (hQ : Q ↔ Q') : Reads p bs Q' a := by
  rwa [← propext hQ]

/-- One parser after another. -/
theorem Reads.bind (hp : Reads p bs Q a)
    (hf : Q → Reads (f a) bs' Q' b) : Reads (p >>= f) (bs ++ bs') (Q ∧ Q') b := by
  intro rest r
  rw [run_bind_eq_ok, append_assoc]
  constructor
  · rintro ⟨a', rest', hfirst, hsecond⟩
    obtain ⟨hQ, heq⟩ := (hp _ _).1 hfirst
    cases heq
    obtain ⟨hQ', hr⟩ := (hf hQ _ _).1 hsecond
    exact ⟨⟨hQ, hQ'⟩, hr⟩
  · rintro ⟨⟨hQ, hQ'⟩, hr⟩
    exact ⟨a, bs' ++ rest, (hp _ _).2 ⟨hQ, rfl⟩, (hf hQ _ _).2 ⟨hQ', hr⟩⟩

theorem Reads.map (hp : Reads p bs Q a) (f : α → β) :
    Reads (p >>= fun a => pure (f a)) bs Q (f a) := by
  have h := hp.bind (f := fun a => pure (f a)) fun _ => reads_pure (f a)
  rw [append_nil, and_true] at h
  exact h

theorem Reads.guard {c : Prop} [Decidable c] (hp : ¬ c → Reads p bs Q a) :
    Reads (if c then throw e else p) bs (¬ c ∧ Q) a := by
  by_cases hc : c
  · rw [if_pos hc]
    exact fun rest r => iff_of_false nofun fun h => h.1.1 hc
  · rw [if_neg hc]
    exact (hp hc).congr (and_iff_right hc).symm

theorem reads_byte (b : UInt8) : Reads (byte e) [b] True b := by
  intro rest r
  rw [true_and]
  exact ⟨fun h => (Except.ok.inj h).symm, fun h => h ▸ rfl⟩

theorem reads_take (bs : List UInt8) : Reads (take bs.length e) bs True bs := by
  intro rest r
  have hle : bs.length ≤ (bs ++ rest).length := by
    rw [length_append]
    omega
  have hrun : (take bs.length e).run (bs ++ rest) = .ok (bs, rest) := by
    change (if bs.length ≤ (bs ++ rest).length then
      (.ok ((bs ++ rest).take bs.length, (bs ++ rest).drop bs.length) : Except ε _) else _) = _
    rw [if_pos hle, take_left, drop_left]
  rw [hrun, true_and, Except.ok.injEq, eq_comm]

theorem Reads.consumed (hp : Reads p bs Q a) : Reads (consumed p) bs Q (a, bs) := by
  intro rest r
  refine Result.map_eq_ok.trans ?_
  have htaken : (bs ++ rest).take ((bs ++ rest).length - rest.length) = bs := by
    rw [length_append, Nat.add_sub_cancel, take_left]
  constructor
  · rintro ⟨r', hr', rfl⟩
    obtain ⟨hQ, rfl⟩ := (hp rest r').1 hr'
    exact ⟨hQ, by rw [htaken]⟩
  · rintro ⟨hQ, rfl⟩
    exact ⟨(a, rest), (hp rest _).2 ⟨hQ, rfl⟩, by rw [htaken]⟩

variable {step : α → Parser ε α}

theorem Reads.iterate (encode : β → List UInt8) (Q : α → β → Prop)
    (next : α → β → α) {parts : List β}
    (h : ∀ a, ∀ x ∈ parts, Reads (step a) (encode x) (Q a x) (next a x)) (a : α) :
    Reads (iterate step parts.length a) (parts.flatMap encode) (Along next Q a parts)
      (exec next a parts) := by
  induction parts generalizing a with
  | nil => exact reads_pure a
  | cons x parts ih =>
    exact (h a x mem_cons_self).bind fun _ =>
      ih (fun a y hy => h a y (mem_cons_of_mem _ hy)) (next a x)

theorem iterate_append {push : List α → Parser ε (List α)} {P : α → Prop}
    (hpush : ∀ acc bs r, (push acc).run bs = .ok r → ∃ x, P x ∧ r.1 = acc ++ [x]) {n : ℕ}
    {acc parts : List α} {rest : List UInt8}
    (h : (iterate push n acc).run bs = .ok (parts, rest)) :
    ∃ l, parts = acc ++ l ∧ l.length = n ∧ ∀ x ∈ l, P x := by
  induction n generalizing acc bs with
  | zero =>
    cases h
    exact ⟨[], (append_nil _).symm, rfl, fun _ hx => absurd hx not_mem_nil⟩
  | succ n ih =>
    obtain ⟨acc', rest', hfirst, hrest⟩ := run_bind_eq_ok.1 h
    obtain ⟨x, hx, rfl⟩ := hpush acc bs _ hfirst
    obtain ⟨l, rfl, rfl, hl⟩ := ih hrest
    exact ⟨x :: l, append_assoc .., rfl, forall_mem_cons.2 ⟨hx, hl⟩⟩

end Rules

end Parser

end CopyLocker.Foundation
