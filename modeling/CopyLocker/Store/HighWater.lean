import CopyLocker.Foundation.Run
import CopyLocker.Store.SecureStore

/-!
# High-water marks over the replicas

A save merges the marks of the replicas it could read, and a load writes the merged marks back to
both replicas. Neither knows the marks of a replica whose read failed, and both write over it. This
file follows the largest marks over the replicas along saves, loads, wipes and restored copies,
where every access may fail and every operation may be interrupted before each access.

## Main results

* `safe_resolveReplicas`, `safe_saveRecord`, `safe_loadRecord`: what holds before each access.
* `high_water_marks_persist`: the marks along every covered run.
-/

namespace CopyLocker.Store

open Foundation Run Operation Object ReplicaSource Safe Function
open Client (MonotonicState)

/-! ### Marks of the store -/

/-- The marks of a replica that opens under the root secret. -/
def Disk.marksAt (d : Disk) (source : ReplicaSource) : WithBot MonotonicState :=
  match d.replica source with
  | some x => if d.rootSecret = some x.root then x.record.monotonic else ⊥
  | none => ⊥

/-- The largest value of each mark over the replicas. -/
def Disk.marks (d : Disk) : WithBot MonotonicState := d.marksAt .platform ⊔ d.marksAt .file

variable {d : Disk} {source : ReplicaSource} {x : Sealed} {root : Root}
  {extra : WithBot MonotonicState} {r : Resolution}

theorem marksAt_of_replica (hx : d.replica source = some x) (hroot : d.rootSecret = some x.root) :
    d.marksAt source = x.record.monotonic := by
  simp [Disk.marksAt, hx, if_pos hroot]

theorem ReplicaSource.other_ne (source : ReplicaSource) : source.other ≠ source := by
  cases source <;> decide

theorem marks_le {m : WithBot MonotonicState} (h : ∀ source, d.marksAt source ≤ m) :
    d.marks ≤ m := sup_le (h .platform) (h .file)

theorem marks_eq_sup_other (d : Disk) (source : ReplicaSource) :
    d.marks = d.marksAt source ⊔ d.marksAt source.other := by
  cases source with
  | platform => rfl
  | file => exact sup_comm _ _

theorem marks_of_no_root (h : d.rootSecret = none) : d.marks = ⊥ := by
  refine le_bot_iff.1 (marks_le fun source => ?_)
  unfold Disk.marksAt
  split
  · rw [h, if_neg (by simp)]
  · exact le_rfl

/-- A stored replica brings its marks. -/
theorem le_marks_store (d : Disk) (source : ReplicaSource) (hroot : d.rootSecret = some x.root) :
    (x.record.monotonic : WithBot MonotonicState) ≤
      (storage.effect d (.storeReplica source x)).marks := by
  have hreplica : (storage.effect d (.storeReplica source x)).replica source = some x :=
    update_self ..
  rw [← marksAt_of_replica hreplica hroot]
  cases source with
  | platform => exact le_sup_left
  | file => exact le_sup_right

/-! ### Reads -/

/-- The other replica opens, and a mark of this one is neither on the other nor among `extra`. -/
def Hides (extra : WithBot MonotonicState) (d : Disk) (source : ReplicaSource) : Prop :=
  d.marksAt source.other ≠ ⊥ ∧ ¬ d.marksAt source ≤ d.marksAt source.other ⊔ extra

/-- Every access may fail, except the read of a replica that hides a mark. -/
def MayFail (extra : WithBot MonotonicState) (d : Disk) : Call → Prop
  | .loadReplica source => ¬ Hides extra d source
  | _ => True

/-- An answer to the read of a replica that hides no mark when it fails. -/
inductive ReadingOf (extra : WithBot MonotonicState) (d : Disk) (source : ReplicaSource) :
    Reading → Prop
  | found : ReadingOf extra d source (.ok (d.replica source))
  | failed (e : StoreError) (h : ¬ Hides extra d source) : ReadingOf extra d source (.error e)

variable {platform file : Reading} {readings : List Reading}

/-- The marks of a replica that was read are in those of the record that is chosen. -/
theorem marksAt_le_resolution
    (hroot : d.rootSecret = some root) (h : resolve root readings = .ok (some r))
    (hmem : .ok (d.replica source) ∈ readings) : d.marksAt source ≤ r.record.monotonic := by
  obtain ⟨-, -, -, hvalid⟩ := resolve_eq_some h
  unfold Disk.marksAt
  split
  next x hx =>
    split_ifs with hopens
    · rw [hx] at hmem
      have hx := mem_validReplicas.2 ⟨hmem, Option.some.inj (hopens.symm.trans hroot)⟩
      exact WithBot.coe_le_coe.2 (hvalid x hx).1
    · exact bot_le
  · exact bot_le

private theorem marksAt_ne_bot_of_error {e : StoreError} (hroot : d.rootSecret = some root)
    (h : resolve root readings = .ok (some r))
    (hreadings : ∀ reading ∈ readings, reading = .ok (d.replica source) ∨ reading = .error e) :
    d.marksAt source ≠ ⊥ := by
  obtain ⟨hmem, -⟩ := resolve_eq_some h
  obtain ⟨hread, hopens⟩ := mem_validReplicas.1 hmem
  rcases hreadings _ hread with hfound | herror
  · have hx : d.replica source = some r.sealedBytes := (Except.ok.inj hfound).symm
    rw [marksAt_of_replica hx (by rw [hroot, hopens])]
    exact WithBot.coe_ne_bot
  · cases herror

/-- The record that is chosen has the marks of both replicas, up to `extra`. -/
theorem marks_le_resolution (hroot : d.rootSecret = some root)
    (hplatform : ReadingOf extra d .platform platform) (hfile : ReadingOf extra d .file file)
    (h : resolve root [platform, file] = .ok (some r)) :
    d.marks ≤ (r.record.monotonic : WithBot MonotonicState) ⊔ extra := by
  have hread {source : ReplicaSource} (hmem : .ok (d.replica source) ∈ [platform, file]) :
      d.marksAt source ≤ r.record.monotonic := marksAt_le_resolution hroot h hmem
  cases hplatform with
  | found =>
    have hp : d.marksAt .platform ≤ r.record.monotonic := hread (by simp)
    cases hfile with
    | found => exact (sup_le hp (hread (by simp))).trans le_sup_left
    | failed e hhides =>
      have hopens : d.marksAt .platform ≠ ⊥ := marksAt_ne_bot_of_error (e := e) hroot h (by simp)
      have hf : d.marksAt .file ≤ d.marksAt .platform ⊔ extra :=
        not_not.1 fun hnot => hhides ⟨hopens, hnot⟩
      exact sup_le (hp.trans le_sup_left) (hf.trans (sup_le_sup_right hp extra))
  | failed e hhides =>
    cases hfile with
    | found =>
      have hf : d.marksAt .file ≤ r.record.monotonic := hread (by simp)
      have hopens : d.marksAt .file ≠ ⊥ := marksAt_ne_bot_of_error (e := e) hroot h (by simp)
      have hp : d.marksAt .platform ≤ d.marksAt .file ⊔ extra :=
        not_not.1 fun hnot => hhides ⟨hopens, hnot⟩
      exact sup_le (hp.trans (sup_le_sup_right hf extra)) (hf.trans le_sup_left)
    | failed e' =>
      obtain ⟨hmem, -⟩ := resolve_eq_some h
      simpa using (mem_validReplicas.1 hmem).1

theorem marks_of_resolve_none (hplatform : ReadingOf extra d .platform platform)
    (hfile : ReadingOf extra d .file file) (h : resolve root [platform, file] = .ok none) :
    d.marks = ⊥ := by
  have hnone := resolve_eq_none h
  have hempty {source : ReplicaSource} {reading : Reading}
      (hreading : ReadingOf extra d source reading)
      (hmem : reading ∈ [platform, file]) : d.marksAt source ≤ ⊥ := by
    have hreplica := hnone reading hmem
    cases hreading with
    | found => simp only [Disk.marksAt, Except.ok.inj hreplica, le_refl]
    | failed e => cases hreplica
  exact le_bot_iff.1 (sup_le (hempty hplatform (by simp)) (hempty hfile (by simp)))

/-! ### Operations -/

variable {P : Disk → Call → Prop} {I : Disk → Prop}

section Safety

variable {α : Type} {Q : Except StoreError α → Disk → Prop}

theorem safe_loadRoot {f : Option Root → Operation α} (hI : I d)
    (hfound : storage.Safe P I Q (f d.rootSecret).run d)
    (hrefused : P d .loadRoot → Q (.error .protectedStorage) d) :
    storage.Safe P I Q (loadRoot >>= f).run d :=
  exceptBind ⟨hI, hfound, hrefused⟩

theorem safe_loadReplica {f : Option Sealed → Operation α} (hI : I d)
    (hfound : storage.Safe P I Q (f (d.replica source)).run d)
    (hrefused : P d (.loadReplica source) → Q (.error source.error) d) :
    storage.Safe P I Q (loadReplica source >>= f).run d :=
  exceptBind ⟨hI, hfound, hrefused⟩

/-- What a choice between the replicas leaves behind. -/
structure Resolved (extra : WithBot MonotonicState) (d : Disk)
    (result : Except StoreError (Option StoreRecord)) (d' : Disk) : Prop where
  marks_le : d.marks ≤ d'.marks
  rootSecret : d'.rootSecret = d.rootSecret
  record : ∀ record, result = .ok (some record) →
    d.marks ≤ (record.monotonic : WithBot MonotonicState) ⊔ extra
  empty : result = .ok none → d.marks = ⊥

variable (nonce : Option Nonce)

/-- A repair stores bytes with the record that was chosen in both replicas, or cannot seal it. -/
theorem safe_repair {Q : Except StoreError Unit → Disk → Prop} (hsealed : r.sealedBytes.root = root)
    (hkept : r.stateChanged = false → r.sealedBytes.record = r.record)
    (herror : ∀ e, sealRecord root nonce r.record = .error e → Q (.error e) d)
    (hstores : ∀ x : Sealed, x.root = root → x.record = r.record → storage.Safe P I Q (do
        let _ ← attempt (storeReplica .platform x)
        let _ ← attempt (storeReplica .file x)
        pure () : Operation Unit).run d) :
    storage.Safe P I Q (repairReplicas root nonce r).run d := by
  refine exceptBind ?_
  cases hchanged : r.stateChanged with
  | false => exact hstores _ hsealed (hkept hchanged)
  | true =>
    cases hseal : sealRecord root nonce r.record with
    | error e => exact herror e hseal
    | ok x =>
      obtain ⟨hx, hrecord, -⟩ := sealRecord_eq_ok hseal
      exact hstores x hx hrecord

/-- A repair stores bytes that open and cover the marks of both replicas. -/
theorem safe_repairReplicas (hroot : d.rootSecret = some root) (hsealed : r.sealedBytes.root = root)
    (hkept : r.stateChanged = false → r.sealedBytes.record = r.record)
    (hmarks : d.marks ≤ r.record.monotonic) :
    storage.Safe P (fun d' => d.marks ≤ d'.marks)
      (fun _ d' => d.marks ≤ d'.marks ∧ d'.rootSecret = d.rootSecret)
      (repairReplicas root nonce r).run d := by
  refine safe_repair nonce hsealed hkept (fun _ _ => ⟨le_rfl, rfl⟩) fun x hx hrecord => ?_
  -- whatever the repair stores, the marks are there from then on
  have hstored (d' : Disk) (hd' : d'.rootSecret = d.rootSecret) (source : ReplicaSource) :
      d.marks ≤ (storage.effect d' (.storeReplica source x)).marks := by
    rw [← hrecord] at hmarks
    exact hmarks.trans (le_marks_store d' source (by rw [hd', hroot, hx]))
  refine exceptBind ⟨le_rfl, ?_, fun _ => ?_⟩
  · exact exceptBind ⟨hstored d rfl .platform,
      ⟨hstored (storage.effect d (.storeReplica .platform x)) rfl .file, rfl⟩,
      fun _ => ⟨hstored d rfl .platform, rfl⟩⟩
  · exact exceptBind ⟨le_rfl, ⟨hstored d rfl .file, rfl⟩, fun _ => ⟨le_rfl, rfl⟩⟩

/-- The choice between the replicas never loses a mark: without a repair it only reads, and a
repair stores the marks of both replicas. -/
theorem safe_resolveReplicas {repair : Bool}
    (hroot : d.rootSecret = some root) (hextra : repair → extra = ⊥) :
    storage.Safe (MayFail extra) (fun d' => d.marks ≤ d'.marks) (Resolved extra d)
      (resolveReplicas root repair nonce).run d := by
  have hsettle {platform file : Reading} (hplatform : ReadingOf extra d .platform platform)
      (hfile : ReadingOf extra d .file file) :
      storage.Safe (MayFail extra) (fun d' => d.marks ≤ d'.marks) (Resolved extra d)
        (settleReplicas root repair nonce [platform, file]).run d := by
    unfold settleReplicas
    split
    next e herror => exact ⟨le_rfl, rfl, nofun, nofun⟩
    next hnone =>
      exact ⟨le_rfl, rfl, nofun, fun _ => marks_of_resolve_none hplatform hfile hnone⟩
    next r hsome =>
      have hmarks := marks_le_resolution hroot hplatform hfile hsome
      have hrecord (record : StoreRecord)
          (h : (.ok (some r.record) : Except StoreError (Option StoreRecord)) = .ok (some record)) :
          d.marks ≤ (record.monotonic : WithBot MonotonicState) ⊔ extra := by
        cases h
        exact hmarks
      split_ifs with hrepair
      · rw [hextra (Bool.and_eq_true_iff.1 hrepair).1, sup_of_le_left bot_le] at hmarks
        obtain ⟨hmem, -, hkept, -⟩ := resolve_eq_some hsome
        refine exceptBind ((safe_repairReplicas nonce hroot
          (mem_validReplicas.1 hmem).2 hkept hmarks).mono fun result d' h => ?_)
        cases result with
        | ok => exact ⟨h.1, h.2, hrecord, nofun⟩
        | error e => exact ⟨h.1, h.2, nofun, nofun⟩
      · exact ⟨le_rfl, rfl, hrecord, nofun⟩
  refine exceptBind ⟨le_rfl, ?_, fun hplatform => ?_⟩
  · refine exceptBind ⟨le_rfl, hsettle .found .found, fun hfile => ?_⟩
    exact hsettle .found (.failed file.error hfile)
  · refine exceptBind ⟨le_rfl, ?_, fun hfile => ?_⟩
    · exact hsettle (.failed platform.error hplatform) .found
    · exact hsettle (.failed platform.error hplatform) (.failed file.error hfile)

/-- The record that a save writes: it covers the marks, and follows the generation, of the old. -/
theorem durableRecord_spec {record durable : StoreRecord} {existing : Option StoreRecord}
    (h : durableRecord record existing = .ok durable) :
    durable.payload = record.payload ∧ record.monotonic ≤ durable.monotonic ∧
      ∀ old ∈ existing, old.monotonic ≤ durable.monotonic ∧
        durable.generation = old.generation + 1 := by
  cases existing with
  | none =>
    cases h
    exact ⟨rfl, le_rfl, nofun⟩
  | some old =>
    unfold durableRecord at h
    dsimp only at h
    split_ifs at h
    cases h
    refine ⟨rfl, le_sup_left, ?_⟩
    rintro _ ⟨⟩
    exact ⟨le_sup_right, rfl⟩

/-- A save never loses a mark, wherever it is interrupted. -/
theorem safe_saveRecord (record : StoreRecord) (generated : Option Root) (nonce : Option Nonce)
    (d : Disk) :
    storage.Safe (MayFail record.monotonic) (fun d' => d.marks ≤ d'.marks)
      (fun _ d' => d.marks ≤ d'.marks) (saveRecord record generated nonce).run d := by
  cases hroot : d.rootSecret with
  | none =>
    rw [marks_of_no_root hroot]
    exact safe_of_forall (fun _ => bot_le) (fun _ _ => bot_le) _ d
  | some root =>
    refine exceptBind ?_
    cases record.encode with
    | error e => exact le_rfl
    | ok encoded =>
      refine exceptBind (safe_loadRoot le_rfl ?_ fun _ => le_rfl)
      rw [hroot]
      have hnoRepair (h : false) : (record.monotonic : WithBot MonotonicState) = ⊥ := by
        cases h
      refine exceptBind ((safe_resolveReplicas none hroot hnoRepair).mono ?_)
      rintro result d' ⟨hgrows, hsecret, hrecord, hempty⟩
      cases result with
      | error e => exact hgrows
      | ok existing =>
        refine exceptBind ?_
        cases hbytes : (durableRecord record existing).bind (sealRecord root nonce) with
        | error e => exact hgrows
        | ok x =>
          obtain ⟨durable, hdurable, hseal⟩ := Result.bind_eq_ok.1 hbytes
          obtain ⟨hx, rfl, -⟩ := sealRecord_eq_ok hseal
          obtain ⟨-, hnew, hold⟩ := durableRecord_spec hdurable
          have hmarks : d.marks ≤ x.record.monotonic := by
            cases existing with
            | none => exact (hempty rfl).trans_le bot_le
            | some old =>
              refine (hrecord old rfl).trans (sup_le ?_ (WithBot.coe_le_coe.2 hnew))
              exact WithBot.coe_le_coe.2 (hold old rfl).1
          have hopens : d'.rootSecret = some x.root := by rw [hsecret, hroot, hx]
          have hplatform := hmarks.trans (le_marks_store d' .platform hopens)
          exact ⟨hgrows, ⟨hplatform, hmarks.trans (le_marks_store _ .file hopens),
            fun _ => hplatform⟩, fun _ => hgrows⟩

/-- The marks of a record that was found. -/
def marksOf (found : Option StoreRecord) : WithBot MonotonicState :=
  found.elim ⊥ fun record => record.monotonic

/-- A load never loses a mark, wherever it is interrupted, and returns them all. -/
theorem safe_loadRecord (d : Disk) :
    storage.Safe (MayFail ⊥) (fun d' => d.marks ≤ d'.marks)
      (fun result d' => d.marks ≤ d'.marks ∧ ∀ found, result = .ok found → d.marks ≤ marksOf found)
      (loadRecord nonce).run d := by
  cases hroot : d.rootSecret with
  | none =>
    rw [marks_of_no_root hroot]
    exact safe_of_forall (fun _ => bot_le) (fun _ _ => ⟨bot_le, fun _ _ => bot_le⟩) _ d
  | some root =>
    refine safe_loadRoot le_rfl ?_ fun _ => ⟨le_rfl, nofun⟩
    rw [hroot]
    refine (safe_resolveReplicas nonce hroot fun _ => rfl).mono fun result d' h => ?_
    refine ⟨h.marks_le, fun found hfound => ?_⟩
    cases found with
    | none => exact (h.empty hfound).le
    | some record => exact (h.record record hfound).trans (sup_of_le_left bot_le).le

end Safety

/-! ### Runs -/

/-- An operation with the outcomes of its accesses, after which it is interrupted if it is not
finished; or a copy of a replica that is put back. -/
inductive Event
  | save (record : StoreRecord) (generated : Option Root) (nonce : Option Nonce)
      (outcomes : List Bool)
  | load (nonce : Option Nonce) (outcomes : List Bool)
  | wipe (outcomes : List Bool)
  | restore (source : ReplicaSource) (copy : Sealed)

def Event.isWipe : Event → Bool
  | wipe _ => true
  | _ => false

/-- The disk after an event. -/
def step (d : Disk) : Event → Disk
  | .save record generated nonce outcomes =>
    (storage.run (saveRecord record generated nonce).run d outcomes).2
  | .load nonce outcomes => (storage.run (loadRecord nonce).run d outcomes).2
  | .wipe outcomes => (storage.run wipe.run d outcomes).2
  | .restore source copy =>
    { d with replica := update d.replica source (some copy) }

/-- No failed read of a save or a load hides a mark, and a copy is put back only over a replica
whose marks are on the other one or on the copy. -/
def Event.Covered (d : Disk) : Event → Prop
  | .save record generated nonce outcomes =>
    storage.Allowed (MayFail record.monotonic) (saveRecord record generated nonce).run d outcomes
  | .load nonce outcomes => storage.Allowed (MayFail ⊥) (loadRecord nonce).run d outcomes
  | .wipe _ => True
  | .restore source copy => d.marksAt source ≤ d.marksAt source.other ⊔
      (step d (.restore source copy)).marksAt source

/-- What holds at the end and wherever it may stop holds after a run. -/
theorem safe_state {α : Type} {p : Program Call Call.Answer α} {outcomes : List Bool}
    (h : storage.Safe P I (fun _ d => I d) p d) (hallowed : storage.Allowed P p d outcomes) :
    I (storage.run p d outcomes).2 := by
  obtain ⟨hdone, hstopped⟩ := h.run hallowed
  cases hresult : (storage.run p d outcomes).1 with
  | none => exact hstopped hresult
  | some a => exact hdone a hresult

private theorem marks_le_step {e : Event} (hwipe : e.isWipe = false) (hcovered : e.Covered d) :
    d.marks ≤ (step d e).marks := by
  cases e with
  | save record generated nonce outcomes =>
    exact safe_state (safe_saveRecord record generated nonce d) hcovered
  | load nonce outcomes =>
    exact safe_state ((safe_loadRecord nonce d).mono fun _ _ h => h.1) hcovered
  | wipe outcomes => cases hwipe
  | restore source copy =>
    have hother : (step d (.restore source copy)).marksAt source.other =
        d.marksAt source.other := by
      simp only [Disk.marksAt, step, update_of_ne source.other_ne]
      rfl
    rw [marks_eq_sup_other d source, marks_eq_sup_other _ source, hother]
    exact sup_le (hcovered.trans (sup_comm _ _).le) le_sup_right

/-- Along a covered run no mark of the store decreases, except by a wipe: from any point of the run
to any later one without a wipe between them. -/
theorem high_water_marks_persist {events : List Event}
    (hcovered : Along step (fun d e => e.Covered d) d events) (pre mid post : List Event)
    (hsplit : events = pre ++ mid ++ post) (hwipe : ∀ e ∈ mid, e.isWipe = false) :
    (exec step d pre).marks ≤ (exec step d (pre ++ mid)).marks := by
  subst hsplit
  rw [exec_append]
  have hmid : Along step (fun d e => e.Covered d) (exec step d pre) mid := by
    rw [along_append, along_append] at hcovered
    exact hcovered.1.2
  clear hcovered
  generalize exec step d pre = start at hmid ⊢
  induction mid generalizing start with
  | nil => exact le_rfl
  | cons e mid ih =>
    have hstep := marks_le_step (hwipe e List.mem_cons_self) hmid.1
    exact hstep.trans (ih (fun e he => hwipe e (List.mem_cons_of_mem _ he)) (step start e) hmid.2)

/-! ### A repair over an unread replica -/

/-- A record with one time as its marks. -/
def sampleRecord (time : ℤ) : StoreRecord := .new [] ⟨time, time, 0, 0, 0⟩

/-- Nine accesses that work, as many as a first save makes. -/
def allWork : List Bool := List.replicate 9 true

/-- A first save, and a second one that is interrupted between its replicas. -/
def interruptedSave : List Event :=
  [ .save (sampleRecord 100) (some 1) (some 1) allWork,
    .save (sampleRecord 200) none (some 2) [true, true, true, true] ]

/-- A load that reads both replicas keeps the marks of the interrupted save. -/
theorem interruptedSave_marks_persist :
    (exec step .empty interruptedSave).marks = ((sampleRecord 200).monotonic :) ∧
      (exec step .empty interruptedSave).marks ≤
        (exec step .empty (interruptedSave ++ [.load (some 3) allWork])).marks := by
  have hcovered : Along step (fun d e => e.Covered d) .empty
      (interruptedSave ++ [.load (some 3) allWork] ++ []) :=
    ⟨allowed_of_forall (by decide), allowed_of_forall (by decide),
      allowed_of_forall (by decide), trivial⟩
  exact ⟨by decide +kernel, high_water_marks_persist hcovered _ _ _ rfl (by decide)⟩

/-- The platform's storage fails once, when the load reads the replica: the repair then writes the
older record of the file over the newer one. -/
theorem failed_read_lowers_marks :
    (exec step .empty interruptedSave).marks = ((sampleRecord 200).monotonic :) ∧
      (exec step .empty (interruptedSave ++
        [.load (some 3) [true, false, true, true, true]])).marks =
          ((sampleRecord 100).monotonic :) := by
  decide +kernel

end CopyLocker.Store
