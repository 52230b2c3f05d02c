import CopyLocker.Foundation.Run
import Mathlib.Data.List.Perm.Basic

/-!
# Concurrent jobs on a shared state

A job looks at a shared state three times: it checks whether there is anything to do, it reads, and
it writes what it made of the reading, unless the check has come to hold. Workers run jobs
concurrently, and the steps of different workers may come in any order. When every write finds what
its reading would find again, the shared state is the one that whole jobs leave, one after another
in the order in which they finish.
-/

namespace CopyLocker.Foundation.Serial

open Run List

variable {σ ε ρ : Type*}

/-- A check that ends the job, a reading that may fail, and the write. -/
structure Job (σ ε ρ : Type*) where
  skip : σ → ε → Bool
  load : σ → ε → Option ρ
  commit : σ → ε → ρ → σ

/-- What a worker has of its job: the task alone, the task after the check, or the task with what
was read for it. -/
inductive Worker (ε ρ : Type*)
  | waiting (e : ε)
  | admitted (e : ε)
  | loaded (e : ε) (r : ρ)
  | done
  deriving DecidableEq

/-- The task that a worker has not finished. -/
def Worker.task : Worker ε ρ → Option ε
  | waiting e | admitted e | loaded e _ => some e
  | done => none

/-- The shared state and the workers. -/
structure System (σ ε ρ : Type*) where
  shared : σ
  workers : List (Worker ε ρ)

/-- The tasks that are not finished. -/
def System.tasks (S : System σ ε ρ) : List ε := S.workers.filterMap Worker.task

/-- One worker for each task. -/
def System.start (s : σ) (tasks : List ε) : System σ ε ρ := ⟨s, tasks.map .waiting⟩

@[simp] theorem System.tasks_start (s : σ) (es : List ε) :
    (start s es : System σ ε ρ).tasks = es := by
  simp only [tasks, start, filterMap_map]
  exact filterMap_some

open Worker

namespace Job

variable (j : Job σ ε ρ)

/-- The job as one step. -/
def perform (s : σ) (e : ε) : σ := if j.skip s e then s else (j.load s e).elim s (j.commit s e)

/-- One step of one worker. -/
def advance (s : σ) : Worker ε ρ → σ × Worker ε ρ
  | .waiting e => (s, if j.skip s e then .done else .admitted e)
  | .admitted e => (s, (j.load s e).elim .done (.loaded e))
  | .loaded e r => (j.commit s e r, .done)
  | .done => (s, .done)

/-- The worker at position `i` takes its next step. -/
def step (S : System σ ε ρ) (i : ℕ) : System σ ε ρ :=
  match S.workers[i]? with
  | none => S
  | some w => ⟨(j.advance S.shared w).1, S.workers.set i (j.advance S.shared w).2⟩

/-- A worker that writes would read the same again. -/
def Undisturbed (S : System σ ε ρ) (i : ℕ) : Prop :=
  ∀ e r, S.workers[i]? = some (.loaded e r) → j.load S.shared e = some r

variable {j}

/-- A step of a worker leaves the shared state alone, or finishes its task with the effect of the
whole job. -/
theorem advance_spec
    (habort : ∀ s e r, j.skip s e → j.load s e = some r → j.commit s e r = s) {s : σ}
    {w : Worker ε ρ} (hread : ∀ e r, w = .loaded e r → j.load s e = some r) :
    (j.advance s w).1 = s ∧ (j.advance s w).2.task = w.task ∨
      ∃ e, w.task = some e ∧ (j.advance s w).2.task = none ∧ (j.advance s w).1 = j.perform s e := by
  cases w with
  | waiting e =>
    cases hskip : j.skip s e with
    | true =>
      exact .inr ⟨e, rfl, by simp [advance, hskip, task], by simp [advance, perform, hskip]⟩
    | false => exact .inl ⟨rfl, by simp [advance, hskip, task]⟩
  | admitted e =>
    cases hload : j.load s e with
    | none =>
      exact .inr ⟨e, rfl, by simp [advance, hload, task], by simp [advance, perform, hload]⟩
    | some r => exact .inl ⟨rfl, by simp [advance, hload, task]⟩
  | loaded e r =>
    refine .inr ⟨e, rfl, rfl, ?_⟩
    cases hskip : j.skip s e with
    | true => simp [advance, perform, hskip, habort s e r hskip (hread e r rfl)]
    | false => simp [advance, perform, hskip, hread e r rfl]
  | done => exact .inl ⟨rfl, rfl⟩

private theorem filterMap_set {ws : List (Worker ε ρ)} {i : ℕ} {w : Worker ε ρ}
    (hw : ws[i]? = some w) (w' : Worker ε ρ) :
    ∃ before after, ws.filterMap task = before ++ w.task.toList ++ after ∧
      (ws.set i w').filterMap task = before ++ w'.task.toList ++ after := by
  have hcons (w : Worker ε ρ) (ws : List (Worker ε ρ)) :
      (w :: ws).filterMap task = w.task.toList ++ ws.filterMap task := by
    cases htask : w.task <;> simp [htask]
  induction ws generalizing i with
  | nil => cases hw
  | cons w₀ ws ih =>
    cases i with
    | zero =>
      cases hw
      exact ⟨[], ws.filterMap task, by simp [hcons], by simp [hcons]⟩
    | succ i =>
      obtain ⟨before, after, hbefore, hafter⟩ := ih hw
      refine ⟨w₀.task.toList ++ before, after, ?_, ?_⟩
      · rw [hcons, hbefore, append_assoc, append_assoc, append_assoc]
      · rw [set_cons_succ, hcons, hafter, append_assoc, append_assoc, append_assoc]

/-- One step of the system: the effect of whole jobs on the tasks that it finishes. -/
theorem step_spec (habort : ∀ s e r, j.skip s e → j.load s e = some r → j.commit s e r = s)
    {S : System σ ε ρ} {i : ℕ} (hread : j.Undisturbed S i) :
    ∃ order, (order ++ (j.step S i).tasks).Perm S.tasks ∧
      (j.step S i).shared = exec j.perform S.shared order := by
  unfold step
  cases hw : S.workers[i]? with
  | none => exact ⟨[], .refl _, rfl⟩
  | some w =>
    obtain ⟨before, after, hbefore, hafter⟩ := filterMap_set hw (j.advance S.shared w).2
    simp only [System.tasks, hbefore, hafter]
    rcases advance_spec habort (fun e r h => hread e r (h ▸ hw)) with
      ⟨hsame, htask⟩ | ⟨e, htask, hdone, heffect⟩
    · refine ⟨[], ?_, hsame⟩
      rw [htask, nil_append]
    · refine ⟨[e], ?_, heffect⟩
      rw [htask, hdone]
      simpa using perm_middle.symm

/-- When no write is disturbed, the shared state is the one that whole jobs leave, in some order of
the tasks that were finished. -/
theorem exists_order
    (habort : ∀ s e r, j.skip s e → j.load s e = some r → j.commit s e r = s)
    {S : System σ ε ρ} {steps : List ℕ} (h : Along j.step j.Undisturbed S steps) :
    ∃ order, (order ++ (exec j.step S steps).tasks).Perm S.tasks ∧
      (exec j.step S steps).shared = exec j.perform S.shared order := by
  induction steps generalizing S with
  | nil => exact ⟨[], .refl _, rfl⟩
  | cons i steps ih =>
    obtain ⟨first, hfirst, hshared⟩ := step_spec habort h.1
    obtain ⟨rest, hrest, hshared'⟩ := ih h.2
    refine ⟨first ++ rest, ?_, ?_⟩
    · rw [append_assoc]
      exact (hrest.append_left first).trans hfirst
    · rw [exec_append, ← hshared]
      exact hshared'

end Job

end CopyLocker.Foundation.Serial
