import CopyLocker.Foundation.Program
import CopyLocker.Foundation.Run
import Mathlib.Logic.Function.Basic

/-!
# Processes that share an object

Each process works through a queue of tasks. A task is a program; its calls are made one at a time,
in any order among the processes, and none is refused. A process is disturbed when another one has
changed the object since its own task began.

## Main definitions

* `Process`, `System`, `System.step`: the processes, and one step of one of them.
* `System.Undisturbed`: a process changes the object only while it is not disturbed.
* `Settles`: a result that counts comes with a change of the object.

## Main results

* `System.invariant`: what each task preserves alone is preserved by every undisturbed run, and
  every result that was counted stays counted.
-/

namespace CopyLocker.Foundation.Processes

open Run Function

variable {κ : Type} {ρ : κ → Type} {σ ω α ι : Type}

/-- A process: its tasks, the one it is at, whether it is disturbed, and its results. -/
structure Process (κ : Type) (ρ : κ → Type) (ω α : Type) where
  queue : List ω
  active : Option (ω × Program κ ρ α)
  disturbed : Bool
  finished : List (ω × α)

namespace Process

/-- A process before its first task. -/
def start (queue : List ω) : Process κ ρ ω α where
  queue := queue
  active := none
  disturbed := false
  finished := []

/-- Go on with a task, or finish it. -/
def resume (p : Process κ ρ ω α) (task : ω) : Program κ ρ α → Process κ ρ ω α
  | .done result => { p with active := none, finished := p.finished ++ [(task, result)] }
  | .call c next => { p with active := some (task, .call c next) }

/-- The next call of the process changes the object. -/
def nextChanges (changes : κ → Bool) (p : Process κ ρ ω α) : Bool :=
  match p.active with
  | some (_, .call c _) => changes c
  | _ => false

end Process

/-- Processes and the object they share. -/
structure System (κ : Type) (ρ : κ → Type) (σ ω α ι : Type) where
  shared : σ
  processes : ι → Process κ ρ ω α

/-- The tasks as programs, and the calls that may change the object. -/
structure Workload (κ : Type) (ρ : κ → Type) (ω α : Type) where
  program : ω → Program κ ρ α
  changes : κ → Bool

namespace System

variable [DecidableEq ι] (O : Object κ ρ σ) (W : Workload κ ρ ω α)

/-- The processes after a call of process `i`, with the rest of its task. -/
def afterCall (S : System κ ρ σ ω α ι) (i : ι) (task : ω) (c : κ) (rest : Program κ ρ α) (j : ι) :
    Process κ ρ ω α :=
  if j = i then (S.processes i).resume task rest
  else { S.processes j with disturbed := (S.processes j).disturbed || W.changes c }

/-- Process `i` begins its next task, or makes the next call of its task. -/
def step (S : System κ ρ σ ω α ι) (i : ι) : System κ ρ σ ω α ι :=
  match (S.processes i).active, (S.processes i).queue with
  | some (task, .call c next), _ =>
    { shared := O.effect S.shared c
      processes := S.afterCall W i task c (next (O.answer S.shared c)) }
  | some (_, .done _), _ => S
  | none, task :: queue =>
    { S with
      processes := update S.processes i
        (({ S.processes i with queue, disturbed := false } : Process κ ρ ω α).resume task
          (W.program task)) }
  | none, [] => S

/-- A process that makes a change is not disturbed. -/
def Undisturbed (S : System κ ρ σ ω α ι) (i : ι) : Prop :=
  (S.processes i).nextChanges W.changes = true → (S.processes i).disturbed = false

instance (S : System κ ρ σ ω α ι) (i : ι) : Decidable (Undisturbed W S i) :=
  inferInstanceAs (Decidable (_ → _))

end System

/-- The results of the program that count are those of a call that changes the object; `changed`
says whether the last call did. -/
def Settles (changes : κ → Bool) (R : α → Prop) (changed : Bool) : Program κ ρ α → Prop
  | .done result => changed = true ∨ R result
  | .call c next => ∀ answer, Settles changes R (changes c) (next answer)

variable {p : Program κ ρ α} {changed : Bool}

section Settles

variable {changes : κ → Bool} {α' ε : Type} {R : α → Prop}

/-- A fallible program settles if errors do not count and what follows settles. -/
theorem Settles.exceptBind {R : Except ε α → Prop}
    {x : ExceptT ε (Program κ ρ) α'} {f : α' → ExceptT ε (Program κ ρ) α}
    (herror : ∀ e, R (.error e)) (hf : ∀ a changed, Settles changes R changed (f a).run)
    (changed : Bool) : Settles changes R changed (x >>= f).run := by
  have hbind (p : Program κ ρ (Except ε α')) (changed : Bool) :
      Settles changes R changed (ExceptT.run (ExceptT.mk p >>= f)) := by
    induction p generalizing changed with
    | done a =>
      cases a with
      | error e => exact .inr (herror e)
      | ok a => exact hf a changed
    | call c next ih => exact fun answer => ih answer _
  exact hbind x.run changed

theorem settles_of_forall (hR : ∀ a, R a) (p : Program κ ρ α) (changed : Bool) :
    Settles changes R changed p := by
  induction p generalizing changed with
  | done a => exact .inr (hR a)
  | call c next ih => exact fun answer => ih answer _

theorem Settles.map {R' : α' → Prop} {g : α → α'}
    (hg : ∀ a, R a → R' (g a)) (h : Settles changes R changed p) :
    Settles changes R' changed (p >>= fun a => .done (g a)) := by
  induction p generalizing changed with
  | done a => exact h.imp_right (hg a)
  | call c next ih =>
    intro answer
    exact ih answer (h answer)

end Settles

/-! ### Invariants -/

section Invariant

variable (O : Object κ ρ σ) (W : Workload κ ρ ω α) (Given : ω → Prop) (Inv : σ → Prop)
  (Held : ω → α → σ → Prop)

/-- Everything that was held before is held. -/
def Extends (s s' : σ) : Prop := ∀ task result, Held task result s → Held task result s'

/-- A task alone: it preserves the invariant and what is held before each call, and its result is
held at the end. -/
def Alone (task : ω) (s : σ) (p : Program κ ρ α) (now : σ) : Prop :=
  O.Served (fun s' => Inv s' ∧ Extends Held s s')
    (fun result s' => (Inv s' ∧ Extends Held s s') ∧ Held task result s') p now

/-- What is asked of the tasks that are given, each of them alone. -/
structure Contract : Prop where
  reads : ∀ s c, W.changes c = false → O.effect s c = s
  alone : ∀ task s, Given task → Inv s → Alone O Inv Held task s (W.program task) s
  settles : ∀ task, Settles W.changes (fun result => ∀ s, Held task result s) false (W.program task)

/-- The invariant of a system: results are held, and a process that is not disturbed is where its
task alone would be. -/
structure Sane (S : System κ ρ σ ω α ι) : Prop where
  inv : Inv S.shared
  queued : ∀ i, ∀ task ∈ (S.processes i).queue, Given task
  held : ∀ i, ∀ r ∈ (S.processes i).finished, Held r.1 r.2 S.shared
  settles : ∀ i task p, (S.processes i).active = some (task, p) →
    Settles W.changes (fun result => ∀ s, Held task result s) false p
  alone : ∀ i task p, (S.processes i).active = some (task, p) → (S.processes i).disturbed = false →
      ∃ s, (∀ j, ∀ r ∈ (S.processes j).finished, Held r.1 r.2 s) ∧
        Alone O Inv Held task s p S.shared

end Invariant

open Process

section Step

variable {O : Object κ ρ σ} {W : Workload κ ρ ω α} {Given : ω → Prop} {Inv : σ → Prop}
  {Held : ω → α → σ → Prop}

variable {task : ω} {rest : Program κ ρ α} {c : κ}

theorem Alone.here {s now : σ} (h : Alone O Inv Held task s p now) :
    Inv now ∧ Extends Held s now :=
  Object.Safe.here (I := fun s' => Inv s' ∧ Extends Held s s') h fun _ _ hresult => hresult.1

theorem Process.mem_finished_resume {p : Process κ ρ ω α} {r : ω × α} :
    r ∈ (p.resume task rest).finished ↔
      r ∈ p.finished ∨ ∃ result, rest = .done result ∧ r = (task, result) := by
  cases rest with
  | done result => simp [resume]
  | call c next => simp [resume]

theorem Process.active_resume {p : Process κ ρ ω α} {task' : ω} {q : Program κ ρ α}
    (h : (p.resume task rest).active = some (task', q)) :
    task' = task ∧ q = rest ∧ ∃ c next, rest = .call c next := by
  cases rest with
  | done result => cases h
  | call c next =>
    cases h
    exact ⟨rfl, rfl, c, next, rfl⟩

theorem Process.disturbed_resume (p : Process κ ρ ω α) (task : ω) (rest : Program κ ρ α) :
    (p.resume task rest).disturbed = p.disturbed := by
  cases rest <;> rfl

theorem Process.queue_resume (p : Process κ ρ ω α) (task : ω) (rest : Program κ ρ α) :
    (p.resume task rest).queue = p.queue := by
  cases rest <;> rfl

/-- A result that is reached by a read is held anyway. -/
theorem Settles.held_of_done {result : α}
    (h : Settles W.changes (fun result => ∀ s, Held task result s) false rest)
    (hdone : rest = .done result) (s : σ) : Held task result s := by
  subst hdone
  exact h.resolve_left Bool.false_ne_true s

variable [DecidableEq ι] {S : System κ ρ σ ω α ι} {i : ι}

section Contract

variable (hcontract : Contract O W Given Inv Held)

include hcontract

theorem Sane.begin (h : Sane O W Given Inv Held S) {queue : List ω}
    (hqueue : (S.processes i).queue = task :: queue) :
    Sane O W Given Inv Held { S with
      processes := update S.processes i
        (({ S.processes i with queue, disturbed := false } : Process κ ρ ω α).resume task
          (W.program task)) } := by
  set begun := ({ S.processes i with queue, disturbed := false } : Process κ ρ ω α).resume task
    (W.program task) with hbegun
  have hcases (j : ι) : update S.processes i begun j = begun ∨
      update S.processes i begun j = S.processes j := by
    rw [update_apply]
    split_ifs
    · exact .inl rfl
    · exact .inr rfl
  -- a task without a call is finished at once
  have hfinished (s : σ) (hs : ∀ j, ∀ r ∈ (S.processes j).finished, Held r.1 r.2 s) (j : ι) :
      ∀ r ∈ (update S.processes i begun j).finished, Held r.1 r.2 s := by
    intro r hr
    rcases hcases j with hj | hj <;> rw [hj] at hr
    · rcases mem_finished_resume.1 hr with hold | ⟨result, hdone, rfl⟩
      · exact hs i r hold
      · exact (hcontract.settles task).held_of_done hdone s
    · exact hs j r hr
  have hgiven := h.queued i
  rw [hqueue, List.forall_mem_cons] at hgiven
  refine ⟨h.inv, fun j task' htask => ?_, hfinished S.shared h.held,
    fun j task' p hactive => ?_, fun j task' p hactive hdisturbed => ?_⟩
  · rcases hcases j with hj | hj <;> simp only [hj] at htask
    · rw [hbegun, queue_resume] at htask
      exact hgiven.2 task' htask
    · exact h.queued j task' htask
  · rcases hcases j with hj | hj <;> simp only [hj] at hactive
    · obtain ⟨rfl, rfl, -⟩ := active_resume hactive
      exact hcontract.settles task'
    · exact h.settles j task' p hactive
  · rcases hcases j with hj | hj <;> simp only [hj] at hactive hdisturbed
    · obtain ⟨rfl, rfl, -⟩ := active_resume hactive
      exact ⟨S.shared, hfinished S.shared h.held, hcontract.alone task' S.shared hgiven.1 h.inv⟩
    · obtain ⟨s, hs, halone⟩ := h.alone j task' p hactive hdisturbed
      exact ⟨s, hfinished s hs, halone⟩

omit hcontract

theorem mem_finished_afterCall {j : ι} {r : ω × α}
    (h : r ∈ (S.afterCall W i task c rest j).finished) :
    r ∈ (S.processes j).finished ∨ ∃ result, rest = .done result ∧ r = (task, result) := by
  unfold System.afterCall at h
  split_ifs at h with hj
  · subst hj
    exact mem_finished_resume.1 h
  · exact .inl h

private theorem active_afterCall {task' : ω} {j : ι}
    (h : (S.afterCall W i task c rest j).active = some (task', p)) :
    (j = i ∧ task' = task ∧ p = rest ∧ ∃ c next, rest = .call c next) ∨
      (j ≠ i ∧ (S.processes j).active = some (task', p)) := by
  unfold System.afterCall at h
  split_ifs at h with hj
  · exact .inl ⟨hj, active_resume h⟩
  · exact .inr ⟨hj, h⟩

include hcontract

theorem Sane.call (h : Sane O W Given Inv Held S)
    {next : ρ c → Program κ ρ α} (hactive : (S.processes i).active = some (task, .call c next))
    (hundisturbed : W.changes c → (S.processes i).disturbed = false) :
    Sane O W Given Inv Held
      { shared := O.effect S.shared c
        processes := S.afterCall W i task c (next (O.answer S.shared c)) } := by
  set rest := next (O.answer S.shared c) with hrest
  have hsettles : Settles W.changes (fun result => ∀ s, Held task result s) (W.changes c) rest :=
    h.settles i task _ hactive _
  -- the own task goes on where it would be alone
  have halone (hdisturbed : (S.processes i).disturbed = false) :
      ∃ s, (∀ j, ∀ r ∈ (S.processes j).finished, Held r.1 r.2 s) ∧
        Alone O Inv Held task s rest (O.effect S.shared c) := by
    obtain ⟨s, hs, -, hworks, -⟩ := h.alone i task _ hactive hdisturbed
    exact ⟨s, hs, hworks⟩
  have hsettles_active (j : ι) (task' : ω) (p : Program κ ρ α)
      (hp : (S.afterCall W i task c rest j).active = some (task', p)) :
      Settles W.changes (fun result => ∀ s, Held task' result s) false p := by
    rcases active_afterCall hp with ⟨-, rfl, rfl, _, _, hcall⟩ | ⟨-, hp⟩
    · rw [hcall] at hsettles ⊢
      exact hsettles
    · exact h.settles j task' p hp
  have hqueued (j : ι) (task' : ω) (htask : task' ∈ (S.afterCall W i task c rest j).queue) :
      Given task' := by
    refine h.queued j task' ?_
    unfold System.afterCall at htask
    split_ifs at htask with hj
    · rwa [hj, ← queue_resume]
    · exact htask
  cases hchanges : W.changes c with
  | false =>
    -- a read: nothing changes, and a result is held anyway
    rw [hchanges] at hsettles
    have hsame := hcontract.reads S.shared c hchanges
    have hfinished (s : σ) (hs : ∀ j, ∀ r ∈ (S.processes j).finished, Held r.1 r.2 s) (j : ι) :
        ∀ r ∈ (S.afterCall W i task c rest j).finished, Held r.1 r.2 s := by
      intro r hr
      rcases mem_finished_afterCall hr with hold | ⟨result, hdone, rfl⟩
      · exact hs j r hold
      · exact hsettles.held_of_done hdone s
    rw [hsame] at halone ⊢
    refine ⟨h.inv, hqueued, hfinished S.shared h.held, hsettles_active,
      fun j task' p hp hdisturbed => ?_⟩
    rcases active_afterCall hp with ⟨rfl, rfl, rfl, -⟩ | ⟨hj, hp⟩
    · simp only [System.afterCall, if_true, disturbed_resume] at hdisturbed
      obtain ⟨s, hs, halone⟩ := halone hdisturbed
      exact ⟨s, hfinished s hs, halone⟩
    · simp only [System.afterCall, if_neg hj, hchanges, Bool.or_false] at hdisturbed
      obtain ⟨s, hs, halone⟩ := h.alone j task' p hp hdisturbed
      exact ⟨s, hfinished s hs, halone⟩
  | true =>
    -- a change: the process is not disturbed, and all others are from now on
    obtain ⟨s, hs, hown⟩ := halone (hundisturbed hchanges)
    obtain ⟨hinv, hextends⟩ := hown.here
    refine ⟨hinv, hqueued, fun j r hr => ?_, hsettles_active, fun j task' p hp hdisturbed => ?_⟩
    · rcases mem_finished_afterCall hr with hold | ⟨result, hdone, rfl⟩
      · exact hextends _ _ (hs j r hold)
      · rw [hdone] at hown
        exact hown.2
    · rcases active_afterCall hp with ⟨rfl, rfl, rfl, c', next', hcall⟩ | ⟨hj, -⟩
      · refine ⟨s, fun k r hr => ?_, hown⟩
        rcases mem_finished_afterCall hr with hold | ⟨result, hdone, -⟩
        · exact hs k r hold
        · rw [hcall] at hdone
          cases hdone
      · simp [System.afterCall, if_neg hj, hchanges] at hdisturbed

theorem Sane.next (h : Sane O W Given Inv Held S)
    (hundisturbed : System.Undisturbed W S i) : Sane O W Given Inv Held (System.step O W S i) := by
  unfold System.step
  unfold System.Undisturbed nextChanges at hundisturbed
  split
  next task c next hactive =>
    rw [hactive] at hundisturbed
    exact Sane.call hcontract h hactive hundisturbed
  · exact h
  next hactive hqueue => exact Sane.begin hcontract h hqueue
  · exact h

/-- What each task preserves alone is preserved by every undisturbed run, and every result stays
held. -/
theorem System.invariant {s : σ} (hs : Inv s) {queues : ι → List ω}
     (hqueues : ∀ i, ∀ task ∈ queues i, Given task) {schedule : List ι}
    (h : Along (System.step O W) (System.Undisturbed W) ⟨s, fun i => start (queues i)⟩ schedule) :
    let S := exec (System.step O W) ⟨s, fun i => start (queues i)⟩ schedule
    Inv S.shared ∧ ∀ i, ∀ r ∈ (S.processes i).finished, Held r.1 r.2 S.shared := by
  have hstart : Sane O W Given Inv Held ⟨s, fun i => start (queues i)⟩ :=
    ⟨hs, hqueues, fun _ _ hr => absurd hr List.not_mem_nil, nofun, nofun⟩
  have hsane := exec_induction_along (fun S i hS hi => Sane.next hcontract hS hi) hstart h
  exact ⟨hsane.inv, hsane.held⟩

end Contract

end Step

end CopyLocker.Foundation.Processes
