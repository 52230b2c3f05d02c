import CopyLocker.Worker.KillOrders

/-!
# Reclaiming the seats of silent devices

`copylocker-server-core` gives a seat back when the device was last seen before a cutoff. The
durable object of a license has the rule as a statement on its rows, which goes by the last
heartbeat where there was one. A validation counts as contact for the first rule only, so the two
part where a device goes on validating but not beating. Otherwise they agree, and the object's rule
gives back every seat that the core's does (`rule_refines_iff`).
-/

namespace CopyLocker.Worker.LicenseDO

open Foundation Run Server List

/-- An activation of `copylocker-server-core`, as far as the rule reads and writes it. -/
structure SeenRecord where
  machineId : MachineId
  status : ActivationStatus
  createdAt : ℤ
  lastSeenAt : Option ℤ
  deriving DecidableEq

/-- The core's rule. -/
def SeenRecord.isZombie (cutoff : ℤ) (a : SeenRecord) : Bool :=
  a.status == .active && decide (a.lastSeenAt.getD a.createdAt < cutoff)

/-- The activations after the rule, and the number of seats given back. -/
def reclaimZombies (activations : List SeenRecord) (heartbeatSecs : Option ℤ) (now : ℤ) :
    List SeenRecord × ℕ :=
  match heartbeatSecs.bind (Heartbeat.zombieCutoff · now) with
  | none => (activations, 0)
  | some cutoff =>
    (activations.map fun a => if a.isZombie cutoff then { a with status := .released } else a,
      activations.countP (·.isZombie cutoff))

/-- What the core's rule reads of a row. -/
def Activation.record (a : Activation) : SeenRecord where
  machineId := a.machineId
  status := a.status
  createdAt := a.createdAt
  lastSeenAt := a.lastSeenAt

def License.records (l : License) : List SeenRecord := l.activations.rows.map (·.record)

/-- The rows with their status. -/
def statuses (activations : List SeenRecord) : List (MachineId × ActivationStatus) :=
  activations.map fun a => (a.machineId, a.status)

/-- The tables that the heartbeat rule of an alarm finds. -/
def State.beforeRule (s : State) (now : ℤ) : Option License :=
  s.license.map (·.releaseWhere (isStalePending now) now)

/-- The rule of the object gives back the seats that the rule of the core does. -/
def RuleRefines (s : State) (now : ℤ) : Prop :=
  ∀ l ∈ s.beforeRule now, statuses ((l.reclaimZombies now).getD l).records =
    statuses (LicenseDO.reclaimZombies l.records l.heartbeatSec now).1

/-- No active row has its heartbeat and its last contact on different sides of the cutoff. -/
def SameSide (s : State) (now : ℤ) : Prop :=
  ∀ l ∈ s.beforeRule now, ∀ interval ∈ l.heartbeatSec,
    ∀ cutoff ∈ Heartbeat.zombieCutoff interval now, ∀ a ∈ l.activations.rows,
      a.status = .active → (a.beatAt < cutoff ↔ a.seenAt < cutoff)

/-! ### Both rules, row by row -/

section Rules

variable (l : License) (now : ℤ)

/-- The cutoff of both rules, if the license has a heartbeat. -/
def License.cutoff : Option ℤ := l.heartbeatSec.bind (Heartbeat.zombieCutoff · now)

/-- The rows with their status after those with `p` are given back. -/
def License.after (p : Activation → Bool) : List (MachineId × ActivationStatus) :=
  l.activations.rows.map fun a => (a.machineId, if p a then .released else a.status)

theorem statuses_object : statuses ((l.reclaimZombies now).getD l).records =
    l.after fun a => (l.cutoff now).any (isZombie · a) := by
  have hwhere (p : Activation → Bool) : statuses (l.releaseWhere p now).records = l.after p := by
    rw [License.records, License.releaseWhere, License.appendProjections_activations, statuses,
      map_map]
    refine map_map.trans (map_congr_left fun a _ => ?_)
    dsimp only [Function.comp_apply]
    split_ifs <;> rfl
  have hkept : statuses l.records = l.after fun _ => false := map_map
  unfold License.reclaimZombies License.cutoff
  cases l.heartbeatSec with
  | none => exact hkept
  | some interval =>
    cases h : Heartbeat.zombieCutoff interval now with
    | none => simpa [h] using hkept
    | some cutoff => simp [h, hwhere]

theorem statuses_core : statuses (reclaimZombies l.records l.heartbeatSec now).1 =
    l.after fun a => (l.cutoff now).any (a.record.isZombie ·) := by
  unfold reclaimZombies License.after License.cutoff
  cases l.heartbeatSec.bind (Heartbeat.zombieCutoff · now) with
  | none => exact map_map
  | some cutoff =>
    simp only [License.records, statuses, map_map, Option.any_some]
    refine map_congr_left fun a _ => ?_
    dsimp only [Function.comp_apply]
    split_ifs <;> rfl

/-- The two rules on one row. -/
theorem released_iff (a : Activation) (cutoff : ℤ) :
    (if isZombie cutoff a then .released else a.status) =
        (if a.record.isZombie cutoff then .released else a.status) ↔
      (a.status = .active → (a.beatAt < cutoff ↔ a.seenAt < cutoff)) := by
  have hseen : a.record.lastSeenAt.getD a.record.createdAt = a.seenAt := rfl
  have hstatus : a.record.status = a.status := rfl
  unfold isZombie SeenRecord.isZombie
  rw [hseen, hstatus]
  cases a.status with
  | active =>
    by_cases hbeat : a.beatAt < cutoff <;> by_cases hseen : a.seenAt < cutoff <;>
      simp [hbeat, hseen]
  | released | revoked | pending => simp

theorem License.released_mem_after {p : Activation → Bool} {m : MachineId} :
    (m, .released) ∈ l.after p ↔
      ∃ a ∈ l.activations.rows, a.machineId = m ∧ (p a ∨ a.status = .released) := by
  simp [License.after, or_iff_not_imp_left]

end Rules

theorem ruleRefines_iff (s : State) (now : ℤ) : RuleRefines s now ↔ SameSide s now := by
  refine forall₂_congr fun l _ => ?_
  rw [statuses_object, statuses_core, License.after, License.after, map_inj_left]
  unfold License.cutoff
  cases l.heartbeatSec with
  | none => simp
  | some interval =>
    cases hcutoff : Heartbeat.zombieCutoff interval now with
    | none => simp [hcutoff]
    | some cutoff => simp [hcutoff, released_iff]

/-! ### Times that do not go back -/

/-- No heartbeat of a row is after its last contact, and no contact after `now`. -/
def License.InOrder (now : ℤ) (l : License) : Prop :=
  ∀ a ∈ l.activations.rows, a.beatAt ≤ a.seenAt ∧ a.seenAt ≤ now

section InOrder

variable {c : Call} {l l' : License} {s : State} {now : ℤ}

/-- An update that is a contact, and perhaps a heartbeat, of every row that it changes. -/
theorem License.InOrder.update (h : l.InOrder now) {p : Activation → Bool}
    {f : Activation → Activation} (hf : ∀ a, (f a).machineId = a.machineId)
    (hseen : ∀ a, (f a).lastSeenAt = some now)
    (hbeat : ∀ a, (f a).lastHbAt = a.lastHbAt ∨ (f a).lastHbAt = some now) :
    (l.updateActivations p f hf).InOrder now := by
  intro a' ha'
  obtain ⟨a, ha, rfl⟩ := mem_map.1 ha'
  obtain ⟨hle, hnow⟩ := h a ha
  split_ifs
  · unfold Activation.beatAt Activation.seenAt at *
    rw [hseen]
    refine ⟨?_, le_rfl⟩
    rcases hbeat a with hkept | hnew
    · rw [hkept]
      cases hlast : a.lastHbAt with
      | none => exact le_rfl
      | some t =>
        rw [hlast] at hle
        exact hle.trans hnow
    · rw [hnew]
      exact le_rfl
  · exact ⟨hle, hnow⟩

theorem Write.inOrder (h : Write c l l') (hl : l.InOrder c.now) : l'.InOrder c.now := by
  cases h with
  | configure | applyPending | administer | raiseFloor | raiseEpoch | appendProjection
  | revokeLicense | expire | flush => exact hl
  | forget | purge => exact fun a ha => hl a (Table.mem_deleteWhere.1 ha).1
  | recordNonce hnonce =>
    obtain ⟨nonces, -, rfl⟩ := Option.map_eq_some_iff.1 hnonce
    exact hl
  | countValidation =>
    obtain ⟨start, count, heq⟩ := l.countValidation_eq c.now
    rw [heq]
    exact hl
  | insertPending _ _ _ _ hinsert =>
    intro a ha
    rw [Table.insert_rows hinsert] at ha
    rcases mem_append.1 ha with hold | hnew
    · exact hl a hold
    · cases mem_singleton.1 hnew
      exact ⟨le_rfl, le_rfl⟩
  | setSuspicion =>
    intro a' ha'
    obtain ⟨a, ha, rfl⟩ := mem_map.1 ha'
    split_ifs <;> exact hl a ha
  | activate | commitPending | deactivate | revokeMachine | recordValidation | reclaimPending
  | reclaimZombies | releaseExpired => exact hl.update _ (fun _ => rfl) fun _ => .inl rfl
  | recordBeat => exact hl.update _ (fun _ => rfl) fun _ => .inr rfl

/-- Every seat that the rule of the core gives back, the rule of the object does. -/
def RuleWithin (s : State) (now : ℤ) : Prop :=
  ∀ l ∈ s.beforeRule now, ∀ m,
    (m, .released) ∈ statuses (LicenseDO.reclaimZombies l.records l.heartbeatSec now).1 →
      (m, .released) ∈ statuses ((l.reclaimZombies now).getD l).records

private theorem ruleWithin_of_inOrder (h : ∀ l ∈ s.license, l.InOrder now) : RuleWithin s now := by
  intro l hl m
  obtain ⟨l₀, hl₀, rfl⟩ := Option.map_eq_some_iff.1 hl
  have horder : (l₀.releaseWhere (isStalePending now) now).InOrder now := by
    rw [License.InOrder, License.releaseWhere, License.appendProjections_activations]
    exact (h l₀ hl₀).update _ (fun _ => rfl) fun _ => .inl rfl
  rw [statuses_object, statuses_core, License.released_mem_after, License.released_mem_after]
  rintro ⟨a, ha, hm, hzombie | hreleased⟩
  · refine ⟨a, ha, hm, .inl ?_⟩
    obtain ⟨hcutoff, hrecord⟩ := (Option.any_eq_true_iff_get _ _).1 hzombie
    obtain ⟨hactive, hseen⟩ := Bool.and_eq_true_iff.1 hrecord
    have hbeat := (horder a ha).1.trans_lt (of_decide_eq_true hseen)
    exact (Option.any_eq_true_iff_get _ _).2
      ⟨hcutoff, Bool.and_eq_true_iff.2 ⟨hactive, decide_eq_true hbeat⟩⟩
  · exact ⟨a, ha, hm, .inr hreleased⟩

private theorem along_ruleWithin (env : Env) {calls : List Call}
    (hordered : calls.Pairwise fun c c' => c.now ≤ c'.now)
    (hs : ∀ l ∈ s.license, ∀ c ∈ calls, l.InOrder c.now) :
    Along (step env) (fun s c => RuleWithin s c.now) s calls := by
  induction calls generalizing s with
  | nil => trivial
  | cons c calls ih =>
    obtain ⟨hlater, hrest⟩ := pairwise_cons.1 hordered
    have hfound (l : License) (hl : s.license = some l) : l.InOrder c.now :=
      hs l hl c mem_cons_self
    refine ⟨ruleWithin_of_inOrder hfound, ih hrest fun l hl c' hc' a ha => ?_⟩
    have hstep : l.InOrder c.now := step_keeps (fun _ _ _ ha => by cases ha)
      (fun _ _ hw => hw.inOrder) hfound l hl
    exact ⟨(hstep a ha).1, (hstep a ha).2.trans (hlater c' hc')⟩

end InOrder

/-- In every run, the object gives back the seats that the core would at each of its alarms exactly
if at each of them no active row is on different sides. If the times of the calls do not go back,
it always gives back at least those. -/
theorem rule_refines_iff (env : Env) (calls : List Call) :
    (Along (step env) (fun s c => ∀ sends, c.request = .alarm sends → RuleRefines s c.now)
        State.new calls ↔
      Along (step env) (fun s c => ∀ sends, c.request = .alarm sends → SameSide s c.now)
        State.new calls) ∧
      (calls.Pairwise (fun c c' => c.now ≤ c'.now) →
        Along (step env) (fun s c => RuleWithin s c.now) State.new calls) := by
  refine ⟨along_congr (fun s c _ => ?_) State.new, fun hordered => along_ruleWithin env hordered ?_⟩
  · simp [ruleRefines_iff]
  · rintro _ ⟨⟩

/-! ### A device that validates and does not beat -/

/-- The heartbeat of machine 7. -/
def sampleBeat : AuthenticatedRequest :=
  sampleAuth 6 [ (2, .bytes (Suite.ByteId.toBytes (1 : LicenseId))),
    (3, .bytes (Suite.ByteId.toBytes (7 : MachineId))),
    (4, .bytes (Suite.ByteId.toBytes (6 : ByteId 32))) ]

/-- A machine beats once and validates later. -/
def beatThenValidate : List Call :=
  [ ⟨0, .init { sampleInit with heartbeatSec := some 10 }⟩,
    ⟨10, .reserve keyedReserve⟩,
    ⟨11, .commit 7⟩,
    ⟨12, .heartbeat sampleBeat⟩,
    ⟨40, .validate sampleValidate⟩ ]

/-- Five seconds after its validation the object gives the seat back, and the core keeps it. -/
theorem validating_device_reclaimed :
    ¬ Along (step sampleEnv) (fun s c => ∀ sends, c.request = .alarm sends → RuleRefines s c.now)
      State.new (beatThenValidate ++ [⟨45, .alarm 0⟩]) := by
  intro h
  rw [along_append] at h
  exact absurd (h.2.1 0 rfl _ rfl) (by decide)

end CopyLocker.Worker.LicenseDO
