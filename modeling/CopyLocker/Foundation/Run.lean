import Mathlib.Data.List.Induction

/-!
# Runs of a deterministic machine

A machine is a step function `σ → ε → σ`. A run handles a list of events one after
another. Two kinds of statement about runs are packaged here: a property of every
reached state (`exec_induction`), and a property of every handled event together with
the state that event finds (`Along`). The second kind carries temporal statements: a
predicate persists between two kinds of event exactly when no handled event breaks it.

## Main definitions

* `exec`: the state after a run.
* `Along`: a property of every event of a run and the state it finds.
* `Occurs`: some event of a run has a property in the state it finds.
* `PersistsUntil`: once a predicate holds, it holds until an event that releases it.
* `DuringWindows`, `HeldAfter`: a property of the events, and a predicate of the states, after an
  event of a given kind.
* `firsts`, `Remembers`: the first event of each key, and a machine that ignores the others.

## Main results

* `along_iff_forall_split`: `Along` speaks about every split of the run at an event.
* `occurs_of_reached`: what holds at the end of a run and not at its start has an event that
  brought it about.
* `never_iff_along`: a run never reaches a predicate exactly when none of its events brings it
  about.
* `persistsUntil_iff_along`: persistence over a run is preservation at every event.
* `heldAfter_iff_duringWindows`: a predicate is held after an event exactly when the later events
  of one kind keep it.
* `Remembers.exec_firsts`: a machine that remembers keys ends in the same state without the repeats.
-/

namespace CopyLocker.Foundation.Run

open List

variable {σ ε : Type*} (step : σ → ε → σ)

/-- The state reached after handling the events of `es` in order. -/
def exec (s : σ) (es : List ε) : σ :=
  es.foldl step s

@[simp] theorem exec_nil (s : σ) : exec step s [] = s := rfl

@[simp] theorem exec_cons (s : σ) (e : ε) (es : List ε) :
    exec step s (e :: es) = exec step (step s e) es := rfl

@[simp] theorem exec_append (s : σ) (es es' : List ε) :
    exec step s (es ++ es') = exec step (exec step s es) es' :=
  foldl_append

variable {I : σ → Prop} {s : σ} {es : List ε}

/-- An invariant of the step function holds in every state of a run. -/
theorem exec_induction (hstep : ∀ s e, I s → I (step s e)) (hs : I s) (es : List ε) :
    I (exec step s es) := by
  induction es generalizing s with
  | nil => exact hs
  | cons e es ih => exact ih (hstep s e hs)

/-- `P` holds at every event of the run, of the state the event finds and the event. -/
def Along (P : σ → ε → Prop) : σ → List ε → Prop
  | _, [] => True
  | s, e :: es => P s e ∧ Along P (step s e) es

variable {step} {P Q : σ → ε → Prop}

@[simp] theorem along_nil (s : σ) : Along step P s [] := trivial

@[simp] theorem along_cons (s : σ) (e : ε) (es : List ε) :
    Along step P s (e :: es) ↔ P s e ∧ Along step P (step s e) es := Iff.rfl

theorem along_append (s : σ) (es es' : List ε) :
    Along step P s (es ++ es') ↔ Along step P s es ∧ Along step P (exec step s es) es' := by
  induction es generalizing s with
  | nil => simp
  | cons e es ih => simp [ih, and_assoc]

/-- A property along a run is the property at every split of the run at one event. -/
theorem along_iff_forall_split (s : σ) (es : List ε) :
    Along step P s es ↔ ∀ pre e post, es = pre ++ e :: post → P (exec step s pre) e := by
  constructor
  · rintro h pre e post rfl
    exact ((along_append s pre (e :: post)).mp h).2.1
  · intro h
    induction es generalizing s with
    | nil => trivial
    | cons e es ih =>
      refine ⟨h [] e es rfl, ih (step s e) ?_⟩
      rintro pre e' post rfl
      exact h (e :: pre) e' post rfl

theorem along_congr (h : ∀ s, ∀ e ∈ es, P s e ↔ Q s e) (s : σ) :
    Along step P s es ↔ Along step Q s es := by
  induction es generalizing s with
  | nil => exact Iff.rfl
  | cons e es ih =>
    exact and_congr (h s e (by simp)) (ih (fun s e he ↦ h s e (by simp [he])) (step s e))

theorem along_and (s : σ) (es : List ε) :
    Along step (fun s e ↦ P s e ∧ Q s e) s es ↔ Along step P s es ∧ Along step Q s es := by
  induction es generalizing s with
  | nil => simp
  | cons e es ih => simp only [along_cons, ih, and_and_and_comm]

/-- An invariant that is only kept by events satisfying `P` holds after every run along
which `P` holds. -/
theorem exec_induction_along (hstep : ∀ s e, I s → P s e → I (step s e)) (hs : I s)
    (hP : Along step P s es) : I (exec step s es) := by
  induction es generalizing s with
  | nil => exact hs
  | cons e es ih => exact ih (hstep s e hs hP.1) hP.2

theorem along_const {P : ε → Prop} (s : σ) (es : List ε) :
    Along step (fun _ e ↦ P e) s es ↔ ∀ e ∈ es, P e := by
  induction es generalizing s with
  | nil => simp
  | cons e es ih => simp [ih]

theorem exec_append_map {α : Type*} (f : ε → α) (es : List ε) (s : List α) :
    exec (fun s e ↦ s ++ [f e]) s es = s ++ es.map f := by
  induction es generalizing s with
  | nil => simp
  | cons e es ih => simp [ih]

/-- What every event satisfies that an invariant finds holds along the run. -/
theorem along_of_invariant (hstep : ∀ s e, I s → P s e → I (step s e) ∧ Q s e) (hs : I s)
    (hP : Along step P s es) : Along step Q s es := by
  induction es generalizing s with
  | nil => trivial
  | cons e es ih =>
    obtain ⟨hnext, hQ⟩ := hstep s e hs hP.1
    exact ⟨hQ, ih hnext hP.2⟩

/-- Two properties agree along a run if they agree wherever an invariant holds that the events with
the second property keep. -/
theorem along_iff_of_invariant (hagree : ∀ s, ∀ e ∈ es, I s → (P s e ↔ Q s e))
    (hstep : ∀ s, ∀ e ∈ es, I s → Q s e → I (step s e)) (hs : I s) :
    Along step P s es ↔ Along step Q s es := by
  induction es generalizing s with
  | nil => exact Iff.rfl
  | cons e es ih =>
    rw [along_cons, along_cons, hagree s e (by simp) hs]
    refine and_congr_right fun hQ ↦ ih ?_ ?_ (hstep s e (by simp) hs hQ)
    · exact fun s e he ↦ hagree s e (by simp [he])
    · exact fun s e he ↦ hstep s e (by simp [he])

instance decidableAlong [∀ s e, Decidable (P s e)] :
    ∀ s es, Decidable (Along step P s es)
  | _, [] => .isTrue trivial
  | s, e :: es =>
    have := decidableAlong (step s e) es
    inferInstanceAs (Decidable (P s e ∧ Along step P (step s e) es))

section Splits

variable {p : List ε → Prop} {e : ε}

theorem forall_split_nil : (∀ pre post, [] = pre ++ post → p pre) ↔ p [] := by
  simp

theorem forall_split_cons :
    (∀ pre post, e :: es = pre ++ post → p pre) ↔
      p [] ∧ ∀ pre post, es = pre ++ post → p (e :: pre) := by
  constructor
  · intro h
    exact ⟨h [] _ rfl, fun pre post hsplit ↦ h (e :: pre) post (congrArg _ hsplit)⟩
  · rintro ⟨hnil, hcons⟩ pre post hsplit
    cases pre with
    | nil => exact hnil
    | cons e' pre =>
      obtain ⟨rfl, hrest⟩ := cons.inj hsplit
      exact hcons pre post hrest

end Splits

section Occurrence

variable (step) (P)

/-- Some event of the run satisfies `P` in the state it finds. -/
def Occurs (s : σ) (es : List ε) : Prop :=
  ∃ pre e post, es = pre ++ e :: post ∧ P (exec step s pre) e

variable {step P}

private theorem not_occurs_iff_along (s : σ) (es : List ε) :
    ¬ Occurs step P s es ↔ Along step (fun s e ↦ ¬ P s e) s es := by
  rw [along_iff_forall_split]
  constructor
  · intro h pre e post hes hP
    exact h ⟨pre, e, post, hes, hP⟩
  · rintro h ⟨pre, e, post, hes, hP⟩
    exact h pre e post hes hP

/-- What does not hold at the start of a run and holds at its end was brought about by one of its
events. -/
theorem occurs_of_reached {T : σ → Prop} (hs : ¬ T s) (h : T (exec step s es)) :
    Occurs step (fun s e ↦ ¬ T s ∧ T (step s e)) s es := by
  by_contra hnever
  rw [not_occurs_iff_along] at hnever
  refine exec_induction_along (I := fun s ↦ ¬ T s) (fun s e hT hkeep hT' ↦ ?_) hs hnever h
  exact hkeep ⟨hT, hT'⟩

/-- What holds at the end of a run, and in no state before an event with `P`, was last brought about
by one, and every later event satisfies `Q`. -/
theorem exists_last {T : σ → Prop} (hI : ∀ s e, I s → I (step s e))
    (hstep : ∀ s e, I s → T (step s e) → P s e ∨ T s ∧ Q s e) (hinit : I s) (hs : ¬ T s)
    (h : T (exec step s es)) :
    ∃ pre e post, es = pre ++ e :: post ∧ P (exec step s pre) e ∧
      Along step Q (step (exec step s pre) e) post := by
  induction es using reverseRecOn with
  | nil => exact absurd h hs
  | append_singleton es e ih =>
    rw [exec_append] at h
    obtain hP | ⟨hT, hQ⟩ := hstep _ e (exec_induction step hI hinit es) h
    · exact ⟨es, e, [], rfl, hP, trivial⟩
    · obtain ⟨pre, e', post, rfl, hP, hpost⟩ := ih hT
      refine ⟨pre, e', post ++ [e], by simp, hP, (along_append ..).2 ⟨hpost, ?_, trivial⟩⟩
      simpa using hQ

/-- Of events that satisfy `K`, those with `P` are the ones that bring `T` about. Then a run of such
events never reaches `T` exactly when `P` holds at none of them. -/
theorem never_iff_along {T : σ → Prop} {K : ε → Prop}
    (hstep : ∀ s e, ¬ T s → K e → (T (step s e) ↔ P s e)) (hs : ¬ T s) (hK : ∀ e ∈ es, K e) :
    (∀ pre post, es = pre ++ post → ¬ T (exec step s pre)) ↔
      Along step (fun s e ↦ ¬ P s e) s es := by
  induction es generalizing s with
  | nil => exact iff_of_true (forall_split_nil.2 hs) trivial
  | cons e es ih =>
    have hes : ∀ e' ∈ es, K e' := fun e' he' ↦ hK e' (by simp [he'])
    rw [forall_split_cons, along_cons, ← hstep s e hs (hK e (by simp))]
    constructor
    · rintro ⟨-, hnever⟩
      have hnot : ¬ T (step s e) := hnever [] es rfl
      exact ⟨hnot, (ih hnot hes).1 hnever⟩
    · rintro ⟨hnot, hlater⟩
      exact ⟨hs, (ih hnot hes).2 hlater⟩

end Occurrence

section Persistence

variable (step) (T : σ → Prop) (R : ε → Prop)

/-- Once `T` holds in the run, it holds until an event that satisfies `R` is handled. -/
def PersistsUntil (s : σ) (es : List ε) : Prop :=
  ∀ pre mid post, es = pre ++ mid ++ post → T (exec step s pre) →
    (∀ e ∈ mid, ¬ R e) → T (exec step s (pre ++ mid))

variable {T R}

private theorem persists_of_along (h : Along step (fun s e ↦ T s → ¬ R e → T (step s e)) s es)
    (hs : T s) (hR : ∀ e ∈ es, ¬ R e) : T (exec step s es) := by
  induction es generalizing s with
  | nil => exact hs
  | cons e es ih =>
    have hT : T (step s e) := h.1 hs (hR e (by simp))
    exact ih h.2 hT fun e' he' ↦ hR e' (by simp [he'])

/-- A predicate persists until release along a run exactly when every handled event
keeps it or releases it. -/
theorem persistsUntil_iff_along (s : σ) (es : List ε) :
    PersistsUntil step T R s es ↔ Along step (fun s e ↦ T s → ¬ R e → T (step s e)) s es := by
  constructor
  · intro h
    rw [along_iff_forall_split]
    rintro pre e post rfl hT hR
    have hmid := h pre [e] post (by simp) hT (by simpa using hR)
    simpa using hmid
  · rintro h pre mid post rfl hT hR
    rw [along_append, along_append] at h
    rw [exec_append]
    exact persists_of_along step h.1.2 hT hR

end Persistence

section Windows

variable (step) (S : σ → ε → Prop) (K : σ → ε → Prop) (T : σ → Prop) (R : ε → Prop)

/-- `P` holds at every event that follows an event satisfying `S`, as long as `K` holds at the
events in between. -/
def DuringWindows (P : σ → ε → Prop) (s : σ) (es : List ε) : Prop :=
  ∀ pre e mid e' post, es = pre ++ e :: mid ++ e' :: post → S (exec step s pre) e →
    Along step K (exec step s (pre ++ [e])) mid → P (exec step s (pre ++ e :: mid)) e'

/-- After an event that satisfies `S`, the predicate `T` holds for as long as no event outside `R`
breaks it. -/
def HeldAfter (s : σ) (es : List ε) : Prop :=
  ∀ pre e mid post, es = pre ++ e :: mid ++ post → S (exec step s pre) e →
    Along step (fun s e ↦ ¬ R e → T (step s e)) (exec step s (pre ++ [e])) mid →
    T (exec step s (pre ++ e :: mid))

variable {step S T R}

/-- A predicate is held after `S` exactly when every event of `R` in a window keeps it. `P` says
which events of `R` do. -/
theorem heldAfter_iff_duringWindows {P : σ → ε → Prop} (hS : ∀ s e, S s e → T (step s e))
    (hP : ∀ s e, T s → R e → (T (step s e) ↔ P s e)) (hother : ∀ s e, ¬ R e → P s e)
    (s : σ) (es : List ε) :
    HeldAfter step S T R s es ↔ DuringWindows step S (fun s e ↦ ¬ R e → T (step s e)) P s es := by
  constructor
  · rintro h pre e mid e' post rfl hSe hmid
    by_cases hR : R e'
    · have hbefore : T (exec step s (pre ++ e :: mid)) := h pre e mid (e' :: post) rfl hSe hmid
      have hmid' : Along step (fun s e ↦ ¬ R e → T (step s e)) (exec step s (pre ++ [e]))
          (mid ++ [e']) :=
        (along_append _ mid [e']).2 ⟨hmid, fun hR' ↦ absurd hR hR', trivial⟩
      have hafter := h pre e (mid ++ [e']) post (by simp) hSe hmid'
      rw [← cons_append, ← append_assoc, exec_append] at hafter
      exact (hP _ e' hbefore hR).1 hafter
    · exact hother _ e' hR
  · rintro h pre e mid post rfl hSe hmid
    -- the events of the window keep `T`: those of `R` by `h`, the others by assumption
    have hall : Along step (fun s e ↦ (¬ R e → T (step s e)) ∧ P s e)
        (exec step s (pre ++ [e])) mid := by
      rw [along_iff_forall_split]
      rintro before e' after rfl
      have hbefore := (along_append _ before (e' :: after)).1 hmid
      refine ⟨hbefore.2.1, ?_⟩
      have := h pre e before e' (after ++ post) (by simp) hSe hbefore.1
      simpa using this
    have hstart : T (exec step s (pre ++ [e])) := by simpa using hS _ e hSe
    have hheld : T (exec step (exec step s (pre ++ [e])) mid) := by
      refine exec_induction_along (fun s' e' hT hkeep ↦ ?_) hstart hall
      by_cases hR : R e'
      · exact (hP s' e' hT hR).2 hkeep.2
      · exact hkeep.1 hR
    simpa using hheld

end Windows

section Repeats

variable {κ : Type*} [DecidableEq κ] (key : ε → κ)

/-- The events whose key is neither known nor that of an earlier event. -/
def firsts : List κ → List ε → List ε
  | _, [] => []
  | known, e :: es => if key e ∈ known then firsts known es else e :: firsts (key e :: known) es

variable (step) in
/-- The machine records the key of every event it handles, forgets none, and does nothing at an
event whose key it has recorded. -/
structure Remembers (seen : σ → κ → Prop) : Prop where
  records : ∀ s e, seen (step s e) (key e)
  keeps : ∀ s e k, seen s k → seen (step s e) k
  ignores : ∀ s e, seen s (key e) → step s e = s

variable {key} {seen : σ → κ → Prop}

omit [DecidableEq κ] in
/-- After a run, the keys of its events are recorded. -/
theorem Remembers.seen_exec (h : Remembers step key seen) (s : σ) {k : κ}
    (hk : seen s k ∨ k ∈ es.map key) : seen (exec step s es) k := by
  induction es generalizing s with
  | nil => simpa using hk
  | cons e es ih =>
    refine ih (step s e) ?_
    rcases hk with hseen | hmem
    · exact .inl (h.keeps s e k hseen)
    · rcases mem_cons.1 hmem with rfl | hlater
      · exact .inl (h.records s e)
      · exact .inr hlater

/-- Leaving out the repeats changes nothing. -/
theorem Remembers.exec_firsts (h : Remembers step key seen) {known : List κ}
    (hknown : ∀ k ∈ known, seen s k) (es : List ε) :
    exec step s (firsts key known es) = exec step s es := by
  induction es generalizing s known with
  | nil => rfl
  | cons e es ih =>
    by_cases hmem : key e ∈ known
    · rw [firsts, if_pos hmem, exec_cons, h.ignores s e (hknown _ hmem)]
      exact ih hknown
    · rw [firsts, if_neg hmem, exec_cons, exec_cons]
      refine ih fun k hk ↦ ?_
      rcases mem_cons.1 hk with rfl | hk
      · exact h.records s e
      · exact h.keeps s e k (hknown k hk)

end Repeats

end CopyLocker.Foundation.Run
