import CopyLocker.Foundation.Processes
import CopyLocker.Store.HighWater
import Mathlib.Data.Set.Insert

/-!
# Processes that share a store

The lock of a store is per process. Two processes that save and load interleave their accesses to
the root secret and the replicas. This file shows what a load finds after they have finished, when
each process stores something only while no other has stored anything since its own operation began,
and what it finds otherwise.

## Main results

* `sound_alone`: a save and a load, each alone, keep a store sound.
* `load_after_processes`: a load after every undisturbed run.
* `racing_firstSaves_lose_store`: a run of two first saves after which no load succeeds.
* `load_after_save`: a load after a save that succeeded.
* `save_refines`, `load_refines`: where no access fails, the store is the cell that a client sees.
-/

namespace CopyLocker.Store

open Foundation Processes Run Object Safe Option List
open Client (MonotonicState)

/-! ### Tasks -/

/-- What a process is asked to do. -/
inductive Task
  | save (record : StoreRecord) (generated : Option Root) (nonce : Option Nonce)
  | load (nonce : Option Nonce)

/-- What it returned. -/
inductive TaskResult
  | saved (result : Except StoreError Unit)
  | loaded (result : Except StoreError (Option StoreRecord))

/-- The accesses that change what is stored. -/
def Call.changes : Call → Bool
  | loadRoot | loadReplica _ => false
  | storeRoot _ | deleteRoot | storeReplica _ _ | deleteReplica _ => true

/-- Saves and loads as programs over the storage. -/
def workload : Workload Call Call.Answer Task TaskResult where
  program
    | .save record generated nonce =>
      (saveRecord record generated nonce).run >>= fun result => .done (.saved result)
    | .load nonce => (loadRecord nonce).run >>= fun result => .done (.loaded result)
  changes := Call.changes

/-! ### Sound stores -/

/-- Every replica opens under the root secret, is the record of a save and can be sealed again, and
replicas of one generation have one payload. -/
structure Sound (payloads : Set Bytes) (d : Disk) : Prop where
  opens : ∀ source x, d.replica source = some x → d.rootSecret = some x.root
  payload : ∀ source x, d.replica source = some x → x.record.payload ∈ payloads
  encodes : ∀ source x, d.replica source = some x → x.record.encode = .ok x.record
  agree : ∀ source x y, d.replica source = some x → d.replica source.other = some y →
    x.record.generation = y.record.generation → x.record.payload = y.record.payload

section Sound

variable {payloads : Set Bytes} {d : Disk} {root : Root} {x : Sealed}

theorem sound_of_no_replica (h : ∀ source, d.replica source = none) : Sound payloads d := by
  constructor <;> simp [h]

theorem ReplicaSource.eq_or_eq_other (source source' : ReplicaSource) :
    source' = source ∨ source' = source.other := by
  cases source <;> cases source' <;> decide

/-- Storing a replica that does not contradict the other one. -/
theorem Sound.store (h : Sound payloads d) {source : ReplicaSource}
    (hroot : d.rootSecret = some x.root) (hpayload : x.record.payload ∈ payloads)
    (hencodes : x.record.encode = .ok x.record)
    (hagree : ∀ y, d.replica source.other = some y →
      x.record.generation = y.record.generation → x.record.payload = y.record.payload) :
    Sound payloads (storage.effect d (.storeReplica source x)) := by
  set d' := storage.effect d (.storeReplica source x) with hd'
  have hself : d'.replica source = some x := Function.update_self ..
  have hother : d'.replica source.other = d.replica source.other :=
    Function.update_of_ne source.other_ne ..
  -- a property of single replicas
  have hreplica {p : Sealed → Prop} (hx : p x)
      (hp : ∀ source y, d.replica source = some y → p y) (source' : ReplicaSource) (y : Sealed)
      (hy : d'.replica source' = some y) : p y := by
    rcases source.eq_or_eq_other source' with rfl | rfl
    · rw [hself] at hy
      exact some.inj hy ▸ hx
    · rw [hother] at hy
      exact hp _ y hy
  refine ⟨hreplica hroot h.opens, hreplica hpayload h.payload, hreplica hencodes h.encodes, ?_⟩
  intro source' y z hy hz hgeneration
  rcases source.eq_or_eq_other source' with rfl | rfl
  · rw [hself] at hy
    rw [hother] at hz
    cases hy
    exact hagree z hz hgeneration
  · have hback : source.other.other = source := by cases source <;> rfl
    rw [hother] at hy
    rw [hback, hself] at hz
    cases hz
    exact (hagree y hy hgeneration.symm).symm

theorem Sound.storeBoth (h : Sound payloads d) (hroot : d.rootSecret = some x.root)
    (hpayload : x.record.payload ∈ payloads) (hencodes : x.record.encode = .ok x.record)
    (hagree : ∀ y, d.replica .file = some y →
      x.record.generation = y.record.generation → x.record.payload = y.record.payload) :
    Sound payloads (storage.effect d (.storeReplica .platform x)) ∧
      Sound payloads (storage.effect (storage.effect d (.storeReplica .platform x))
        (.storeReplica .file x)) := by
  have hplatform : Sound payloads (storage.effect d (.storeReplica .platform x)) :=
    h.store hroot hpayload hencodes hagree
  refine ⟨hplatform, hplatform.store hroot hpayload hencodes fun y hy _ => ?_⟩
  have hsame : some x = some y := hy
  rw [some.inj hsame]

/-- The answers to the reads of both replicas. -/
def Disk.readings (d : Disk) : List Reading := [.ok (d.replica .platform), .ok (d.replica .file)]

theorem mem_readings {reading : Reading} :
    reading ∈ d.readings ↔ ∃ source, reading = .ok (d.replica source) := by
  simp only [Disk.readings, mem_cons, not_mem_nil, or_false]
  constructor
  · rintro (rfl | rfl)
    · exact ⟨.platform, rfl⟩
    · exact ⟨.file, rfl⟩
  · rintro ⟨source, rfl⟩
    cases source with
    | platform => exact .inl rfl
    | file => exact .inr rfl

theorem mem_readings_some : .ok (some x) ∈ d.readings ↔ ∃ source, d.replica source = some x := by
  rw [mem_readings]
  exact exists_congr fun source => ⟨fun h => (Except.ok.inj h).symm, fun h => by rw [h]⟩

/-- A choice between the replicas of a sound store is made. -/
theorem Sound.exists_resolve (h : Sound payloads d) (hroot : d.rootSecret = some root) :
    ∃ result, resolve root d.readings = .ok result := by
  refine exists_resolve_eq_ok (fun e he => ?_) (fun x hx => ?_) fun x y hx hy hgeneration => ?_
  · obtain ⟨source, herror⟩ := mem_readings.1 he
    cases herror
  · obtain ⟨source, hx⟩ := mem_readings_some.1 hx
    exact some.inj ((h.opens source x hx).symm.trans hroot)
  · obtain ⟨source, hx⟩ := mem_readings_some.1 hx
    obtain ⟨source', hy⟩ := mem_readings_some.1 hy
    rcases source.eq_or_eq_other source' with rfl | rfl
    · rw [some.inj (hx.symm.trans hy)]
    · exact h.agree source x y hx hy hgeneration

theorem isWellFormed_merge {m m' : MonotonicState} (h : m.isWellFormed) (h' : m'.isWellFormed) :
    (m.merge m').isWellFormed :=
  decide_eq_true (sup_le_sup (of_decide_eq_true h) (of_decide_eq_true h'))

/-- The record that is chosen: it comes from a save and can be sealed, and no replica contradicts
it. -/
theorem Sound.resolve_spec (h : Sound payloads d) (hroot : d.rootSecret = some root)
    {r : Resolution} (hr : resolve root d.readings = .ok (some r)) :
    r.sealedBytes.root = root ∧ r.sealedBytes.record.encode = .ok r.sealedBytes.record ∧
      r.record.encode = .ok r.record ∧ r.record.payload ∈ payloads ∧
      (r.stateChanged = false → r.sealedBytes.record = r.record) ∧
      ∀ source y, d.replica source = some y → y.record.generation ≤ r.record.generation ∧
        (y.record.generation = r.record.generation → y.record.payload = r.record.payload) := by
  obtain ⟨hmem, hrecord, hkept, hcovers⟩ := resolve_eq_some hr
  obtain ⟨hread, hopens⟩ := mem_validReplicas.1 hmem
  obtain ⟨source, hsource⟩ := mem_readings_some.1 hread
  have hvalid (source : ReplicaSource) (y : Sealed) (hy : d.replica source = some y) :
      y ∈ validReplicas root d.readings :=
    mem_validReplicas.2 ⟨mem_readings_some.2 ⟨source, hy⟩,
      some.inj ((h.opens source y hy).symm.trans hroot)⟩
  have hencodes := h.encodes source _ hsource
  refine ⟨hopens, hencodes, ?_, ?_, hkept, fun source y hy => (hcovers y (hvalid source y hy)).2⟩
  · obtain ⟨-, hlong, htotal⟩ := StoreRecord.encode_eq_ok_iff.1 hencodes
    refine StoreRecord.encode_eq_ok_iff.2 ⟨?_, ?_, ?_⟩
    · refine resolve_marks (p := fun m => m.isWellFormed) hr (fun y hy => ?_)
        fun _ _ => isWellFormed_merge
      obtain ⟨source', hy⟩ := mem_readings_some.1 (mem_validReplicas.1 hy).1
      exact (StoreRecord.encode_eq_ok_iff.1 (h.encodes source' y hy)).1
    · rw [hrecord]
      exact hlong
    · rw [hrecord]
      exact htotal
  · rw [hrecord]
    exact h.payload source _ hsource

/-- What was chosen of a sound store. -/
def Chosen (payloads : Set Bytes) (d : Disk) : Option StoreRecord → Prop
  | none => ∀ source, d.replica source = none
  | some record => record.payload ∈ payloads ∧
      ∀ source y, d.replica source = some y → y.record.generation ≤ record.generation

/-- The state after a choice, alone: it is made, unless it is to be repaired and cannot be
sealed. -/
structure ChosenAfter (payloads : Set Bytes) (root : Root) (d : Disk) (sealable : Prop)
    (result : Except StoreError (Option StoreRecord)) (d' : Disk) : Prop where
  sound : Sound payloads d'
  rootSecret : d'.rootSecret = some root
  chosen : ∀ existing, result = .ok existing → Chosen payloads d existing
  succeeds : sealable → ∃ existing, result = .ok existing

variable (h : Sound payloads d)

include h

/-- A repair, alone. -/
theorem sound_repairReplicas (hroot : d.rootSecret = some root) {r : Resolution}
    (hr : resolve root d.readings = .ok (some r)) (nonce : Option Nonce) :
    storage.Served (Sound payloads) (fun result d' => Sound payloads d' ∧
        d'.rootSecret = some root ∧ (nonce.isSome → result = .ok ()))
      (repairReplicas root nonce r).run d := by
  obtain ⟨hopens, hencodes, hrecord, hpayload, hkept, hagree⟩ := h.resolve_spec hroot hr
  refine safe_repair nonce hopens hkept (fun e hseal => ⟨h, hroot, fun hnonce => ?_⟩)
    fun x hx hxrecord => ?_
  · obtain ⟨nonce, rfl⟩ := isSome_iff_exists.1 hnonce
    rw [sealRecord, hrecord] at hseal
    cases hseal
  · rw [← hxrecord] at hpayload hrecord hagree
    obtain ⟨hplatform, hfile⟩ := h.storeBoth (by rw [hroot, hx]) hpayload hrecord
      fun y hy hgeneration => ((hagree .file y hy).2 hgeneration.symm).symm
    refine exceptBind ⟨h, ?_, False.elim⟩
    exact exceptBind ⟨hplatform, ⟨hfile, hroot, fun _ => rfl⟩, False.elim⟩

theorem sound_resolveReplicas (hroot : d.rootSecret = some root) (repair : Bool)
    (nonce : Option Nonce) :
    storage.Served (Sound payloads)
      (fun result d' => ChosenAfter payloads root d (repair = false ∨ nonce.isSome) result d'
        ∧ (repair = false → d' = d))
      (resolveReplicas root repair nonce).run d := by
  refine exceptBind ⟨h, exceptBind ⟨h, ?_, False.elim⟩, False.elim⟩
  change storage.Served _ _ (settleReplicas root repair nonce d.readings).run d
  obtain ⟨result, hresult⟩ := h.exists_resolve hroot
  unfold settleReplicas
  rw [hresult]
  cases result with
  | none =>
    refine ⟨⟨h, hroot, ?_, fun _ => ⟨none, rfl⟩⟩, fun _ => rfl⟩
    rintro _ ⟨⟩
    intro source
    exact Except.ok.inj (resolve_eq_none hresult _ (mem_readings.2 ⟨source, rfl⟩))
  | some r =>
    obtain ⟨-, -, -, hpayload, -, hagree⟩ := h.resolve_spec hroot hresult
    have hchosen : Chosen payloads d (some r.record) :=
      ⟨hpayload, fun source y hy => (hagree source y hy).1⟩
    dsimp only
    split_ifs with hrepair
    · obtain ⟨rfl, -⟩ := Bool.and_eq_true_iff.1 hrepair
      refine exceptBind ((sound_repairReplicas h hroot hresult nonce).mono ?_)
      rintro result d' ⟨hsound, hroot', hsealed⟩
      cases result with
      | ok =>
        refine ⟨⟨hsound, hroot', ?_, fun _ => ⟨some r.record, rfl⟩⟩, nofun⟩
        rintro _ ⟨⟩
        exact hchosen
      | error e =>
        refine ⟨⟨hsound, hroot', nofun, fun hsealable => ?_⟩, nofun⟩
        cases hsealed (hsealable.resolve_left nofun)
    · refine ⟨⟨h, hroot, ?_, fun _ => ⟨some r.record, rfl⟩⟩, fun _ => rfl⟩
      rintro _ ⟨⟩
      exact hchosen

theorem Sound.replica_of_no_root (hroot : d.rootSecret = none) (source : ReplicaSource) :
    d.replica source = none := by
  cases hx : d.replica source with
  | none => rfl
  | some x =>
    have hopens := h.opens source x hx
    rw [hroot] at hopens
    cases hopens

/-- The root secret, alone: it is there, or it is created over an empty store. -/
theorem sound_rootForSave (generated : Option Root) :
    storage.Served (Sound payloads)
      (fun result d' => Sound payloads d' ∧ ∀ root, result = .ok root → d'.rootSecret = some root)
      (rootForSave generated).run d := by
  refine safe_loadRoot h ?_ False.elim
  cases hroot : d.rootSecret with
  | some root =>
    refine ⟨h, ?_⟩
    rintro _ ⟨⟩
    exact hroot
  | none =>
    have hempty := h.replica_of_no_root hroot
    refine safe_loadReplica h ?_ False.elim
    rw [hempty, if_neg (by simp)]
    refine safe_loadReplica h ?_ False.elim
    rw [hempty, if_neg (by simp)]
    cases generated with
    | none => exact ⟨h, nofun⟩
    | some generated =>
      have hcreated : Sound payloads (storage.effect d (.storeRoot generated)) :=
        sound_of_no_replica hempty
      refine exceptBind ⟨h, ?_, False.elim⟩
      refine exceptBind ⟨hcreated, ⟨hcreated, ?_⟩, False.elim⟩
      rintro _ ⟨⟩
      rfl

/-- A save, alone, keeps the store sound. -/
theorem sound_saveRecord {record : StoreRecord} (hpayload : record.payload ∈ payloads)
    (generated : Option Root) (nonce : Option Nonce) :
    storage.Served (Sound payloads) (fun _ d' => Sound payloads d')
      (saveRecord record generated nonce).run d := by
  refine exceptBind ?_
  cases record.encode with
  | error e => exact h
  | ok encoded =>
    refine exceptBind ((sound_rootForSave h generated).mono ?_)
    rintro (e | root) d' ⟨h', hroot⟩
    · exact h'
    refine exceptBind ((sound_resolveReplicas h' (hroot root rfl) false none).mono ?_)
    rintro (e | existing) d'' ⟨hafter, hsame⟩
    · exact hafter.sound
    obtain rfl := hsame rfl
    have hchosen := hafter.chosen existing rfl
    refine exceptBind ?_
    cases hbytes : (durableRecord record existing).bind (sealRecord root nonce) with
    | error e => exact h'
    | ok x =>
      obtain ⟨durable, hdurable, hseal⟩ := Result.bind_eq_ok.1 hbytes
      obtain ⟨hx, rfl, hencodes⟩ := sealRecord_eq_ok hseal
      obtain ⟨hsame, -, hnext⟩ := durableRecord_spec hdurable
      have hopens : d''.rootSecret = some x.root := by rw [hroot root rfl, hx]
      obtain ⟨hplatform, hfile⟩ := h'.storeBoth hopens (hsame ▸ hpayload) hencodes (by
        intro y hy hgeneration
        cases existing with
        | none =>
          rw [hchosen .file] at hy
          cases hy
        | some old =>
          -- the generation of the save is later than that of every replica
          have hlater := hchosen.2 .file y hy
          have := (hnext old rfl).2
          omega)
      exact ⟨h', ⟨hplatform, hfile, False.elim⟩, False.elim⟩

/-- A load, alone: the store stays sound, and the load succeeds unless it cannot seal. -/
theorem sound_loadRecord (nonce : Option Nonce) :
    storage.Served (Sound payloads) (fun result d' => Sound payloads d' ∧
        (∀ existing, result = .ok existing → Chosen payloads d existing) ∧
        (nonce.isSome → ∃ existing, result = .ok existing))
      (loadRecord nonce).run d := by
  refine safe_loadRoot h ?_ False.elim
  cases hroot : d.rootSecret with
  | none =>
    have hempty := h.replica_of_no_root hroot
    refine safe_loadReplica h (safe_loadReplica h ?_ False.elim) False.elim
    simp only [hempty, isNone_none, Bool.and_self, if_true]
    refine ⟨h, ?_, fun _ => ⟨none, rfl⟩⟩
    rintro _ ⟨⟩
    exact hempty
  | some root =>
    refine (sound_resolveReplicas h hroot true nonce).mono ?_
    rintro result d' ⟨hafter, -⟩
    exact ⟨hafter.sound, hafter.chosen, fun hnonce => hafter.succeeds (.inr hnonce)⟩

end Sound

theorem Sound.mono {payloads payloads' : Set Bytes} {d : Disk} (h : Sound payloads d)
    (hsub : payloads ⊆ payloads') :
    Sound payloads' d :=
  ⟨h.opens, fun source x hx => hsub (h.payload source x hx), h.encodes, h.agree⟩

/-- A sound store with at least the marks `least`. -/
def Kept (payloads : Set Bytes) (least : WithBot MonotonicState) (d : Disk) : Prop :=
  Sound payloads d ∧ least ≤ d.marks

/-! ### A save that succeeds -/

section Saved

variable {d : Disk}

theorem sound_of_replicas {x : Sealed} (h : ∀ source, d.replica source = some x)
    (hroot : d.rootSecret = some x.root) (hencodes : x.record.encode = .ok x.record) :
    Sound {x.record.payload} d := by
  refine ⟨by simp [h, hroot], fun source y hy => ?_, by simp [h, hencodes], by simp [h]⟩
  rw [h] at hy
  cases hy
  rfl

/-- Whatever is refused, a save goes on with the root secret that is stored. -/
theorem rootSecret_rootForSave (generated : Option Root) :
    storage.Safe (fun _ _ => True) (fun _ => True)
      (fun result d' => ∀ root, result = .ok root → d'.rootSecret = some root)
      (rootForSave generated).run d := by
  refine safe_loadRoot trivial ?_ fun _ _ h => by cases h
  cases hroot : d.rootSecret with
  | some root =>
    rintro _ ⟨⟩
    exact hroot
  | none =>
    refine safe_loadReplica trivial ?_ fun _ _ h => by cases h
    split_ifs
    · rintro _ ⟨⟩
    · refine safe_loadReplica trivial ?_ fun _ _ h => by cases h
      split_ifs
      · rintro _ ⟨⟩
      · cases generated with
        | none => rintro _ ⟨⟩
        | some generated =>
          refine exceptBind ⟨trivial, ?_, fun _ _ h => by cases h⟩
          refine exceptBind ⟨trivial, ?_, fun _ _ h => by cases h⟩
          rintro _ ⟨⟩
          rfl

private theorem resolveReplicas_state (root : Root) :
    storage.Safe (fun _ _ => True) (fun _ => True) (fun _ d' => d' = d)
      (resolveReplicas root false none).run d := by
  have hsettle (readings : List Reading) :
      storage.Safe (fun _ _ => True) (fun _ => True) (fun _ d' => d' = d)
        (settleReplicas root false none readings).run d := by
    unfold settleReplicas
    split
    · rfl
    · rfl
    · rfl
  refine exceptBind ⟨trivial, ?_, fun _ => ?_⟩
  · exact exceptBind ⟨trivial, hsettle _, fun _ => hsettle _⟩
  · exact exceptBind ⟨trivial, hsettle _, fun _ => hsettle _⟩

/-- Whatever is refused, a save that succeeds leaves its own record in both replicas. -/
theorem kept_saveRecord (record : StoreRecord) (generated : Option Root) (nonce : Option Nonce) :
    storage.Safe (fun _ _ => True) (fun _ => True)
      (fun result d' => result = .ok () → Kept {record.payload} record.monotonic d')
      (saveRecord record generated nonce).run d := by
  refine exceptBind ?_
  cases record.encode with
  | error e => rintro ⟨⟩
  | ok encoded =>
    refine exceptBind ((rootSecret_rootForSave generated).mono ?_)
    rintro (e | root) d' hroot
    · rintro ⟨⟩
    refine exceptBind ((resolveReplicas_state root).mono ?_)
    rintro (e | existing) _ rfl
    · rintro ⟨⟩
    refine exceptBind ?_
    cases hbytes : (durableRecord record existing).bind (sealRecord root nonce) with
    | error e => rintro ⟨⟩
    | ok x =>
      obtain ⟨durable, hdurable, hseal⟩ := Result.bind_eq_ok.1 hbytes
      obtain ⟨rfl, rfl, hencodes⟩ := sealRecord_eq_ok hseal
      obtain ⟨hpayload, hmarks, -⟩ := durableRecord_spec hdurable
      have hopens := hroot x.root rfl
      refine ⟨trivial, ⟨trivial, fun _ => ⟨?_, ?_⟩, fun _ h => by cases h⟩, fun _ h => by cases h⟩
      · exact hpayload ▸ sound_of_replicas (fun source => by cases source <;> rfl) hopens hencodes
      · exact (WithBot.coe_le_coe.2 hmarks).trans (le_marks_store _ .file hopens)

end Saved

/-! ### Processes -/

/-- A save that is given has one of the payloads. -/
def Task.From (payloads : Set Bytes) : Task → Prop
  | save record _ _ => record.payload ∈ payloads
  | load _ => True

/-- The payloads of the saves in the queues. -/
def savedPayloads {ι : Type} (queues : ι → List Task) : Set Bytes :=
  {payload | ∃ i record generated nonce, .save record generated nonce ∈ queues i ∧
    payload = record.payload}

/-- A save that was completed has left its marks in the store, and no payload but those of
saves. -/
def Held (saves : Set Bytes) : Task → TaskResult → Disk → Prop
  | .save record _ _, .saved (.ok _), d => Kept saves record.monotonic d
  | _, _, _ => True

section Processes

variable {payloads saves : Set Bytes} {least : WithBot MonotonicState} {d : Disk} {task : Task}

theorem Held.mono {result : TaskResult} {d' : Disk} (hsound : Sound saves d → Sound saves d')
    (hmarks : d.marks ≤ d'.marks) (h : Held saves task result d) : Held saves task result d' := by
  unfold Held at h ⊢
  split
  · exact ⟨hsound h.1, le_trans h.2 hmarks⟩
  · trivial

/-- A task alone, from what is shown of its program: it keeps a store sound, loses no mark, and its
result is held. -/
theorem alone_of_safe {α : Type} {p : Program Call Call.Answer α} {result : α → TaskResult}
    (hleast : least ≤ d.marks)
    (hsound : storage.Served (Sound payloads) (fun _ => Sound payloads) p d)
    (hsaves : Sound saves d → storage.Served (Sound saves) (fun _ => Sound saves) p d)
    (hmarks : storage.Served (fun d' => d.marks ≤ d'.marks) (fun _ d' => d.marks ≤ d'.marks) p d)
    (hheld : storage.Served (fun _ => True) (fun a d' => Held saves task (result a) d') p d) :
    Alone storage (Kept payloads least) (Held saves) task d
      (p >>= fun a => .done (result a)) d := by
  have hkeeps : storage.Served (fun d' => Sound saves d → Sound saves d')
      (fun _ d' => Sound saves d → Sound saves d') p d := by
    by_cases h : Sound saves d
    · exact (hsaves h).weaken (fun _ _ => id) (fun _ h _ => h) fun _ _ h _ => h
    · exact safe_of_forall (fun _ h' => absurd h' h) (fun _ _ h' => absurd h' h) p d
  have hkept {d' : Disk} (hd' : Sound payloads d') (hgrows : d.marks ≤ d'.marks)
      (hkeeps : Sound saves d → Sound saves d') :
      Kept payloads least d' ∧ Extends (Held saves) d d' :=
    ⟨⟨hd', hleast.trans hgrows⟩, fun _ _ => Held.mono hkeeps hgrows⟩
  refine bind ((((hsound.and hmarks).and hkeeps).and hheld).weaken (fun _ _ => id) ?_ ?_)
  · rintro d' ⟨⟨⟨hd', hgrows⟩, hkeeps⟩, -⟩
    exact hkept hd' hgrows hkeeps
  · rintro a d' ⟨⟨⟨hd', hgrows⟩, hkeeps⟩, hresult⟩
    exact ⟨hkept hd' hgrows hkeeps, hresult⟩

/-- A save and a load, each alone, keep a store sound. -/
theorem sound_alone (htask : task.From saves) (hsub : saves ⊆ payloads)
    (h : Kept payloads least d) :
    Alone storage (Kept payloads least) (Held saves) task d (workload.program task) d := by
  obtain ⟨hsound, hleast⟩ := h
  cases task with
  | save record generated nonce =>
    refine alone_of_safe hleast (sound_saveRecord hsound (hsub htask) generated nonce)
      (fun h => sound_saveRecord h htask generated nonce)
      ((safe_saveRecord record generated nonce d).weaken (fun _ _ => False.elim) (fun _ => id)
        fun _ _ => id) ?_
    refine (kept_saveRecord record generated nonce).weaken (fun _ _ => False.elim) (fun _ => id) ?_
    rintro (e | _) d' hkept
    · trivial
    · exact ⟨(hkept rfl).1.mono (Set.singleton_subset_iff.2 htask), (hkept rfl).2⟩
  | load nonce =>
    refine alone_of_safe hleast ((sound_loadRecord hsound nonce).mono fun _ _ h => h.1)
      (fun h => (sound_loadRecord h nonce).mono fun _ _ h => h.1)
      ((safe_loadRecord nonce d).weaken (fun _ _ => False.elim) (fun _ => id) fun _ _ h => h.1) ?_
    exact safe_of_forall (fun _ => trivial) (fun _ _ => trivial) _ d

theorem settles_saveRecord (record : StoreRecord) (generated : Option Root) (nonce : Option Nonce) :
    Settles Call.changes
      (fun result => ∀ d, Held saves (.save record generated nonce) (.saved result) d)
      false (saveRecord record generated nonce).run := by
  have herror (e : StoreError) (d : Disk) :
      Held saves (.save record generated nonce) (.saved (.error e)) d := trivial
  refine Settles.exceptBind herror (fun _ _ => ?_) _
  refine Settles.exceptBind herror (fun root _ => ?_) _
  refine Settles.exceptBind herror (fun existing _ => ?_) _
  refine Settles.exceptBind herror (fun x _ => ?_) _
  refine Settles.exceptBind herror (fun _ _ => ?_) _
  exact fun _ => .inl rfl

theorem contract (hsub : saves ⊆ payloads) (least : WithBot MonotonicState) :
    Contract storage workload (Task.From saves) (Kept payloads least) (Held saves) where
  reads d c hc := by
    cases c with
    | loadRoot | loadReplica source => rfl
    | storeRoot root | deleteRoot | storeReplica source x | deleteReplica source => cases hc
  alone task d htask h := sound_alone htask hsub h
  settles task := by
    cases task with
    | save record generated nonce =>
      exact (settles_saveRecord record generated nonce).map fun _ => id
    | load nonce => exact settles_of_forall (fun _ _ => trivial) _ _

theorem load_of_kept (h : Kept payloads least d) (nonce : Nonce) :
    ∃ found, (storage.complete (loadRecord (some nonce)).run d).1 = .ok found ∧
      (∀ record, found = some record → record.payload ∈ payloads) ∧ d.marks ≤ marksOf found := by
  obtain ⟨-, hchosen, hsucceeds⟩ := (sound_loadRecord h.1 (some nonce)).complete
  obtain ⟨-, hmarks⟩ := (safe_loadRecord (some nonce) d).complete
  obtain ⟨found, hfound⟩ := hsucceeds rfl
  refine ⟨found, hfound, ?_, hmarks found hfound⟩
  rintro record rfl
  exact (hchosen _ hfound).1

/-- Where there are marks, a load finds a record with them. -/
theorem exists_load_of_kept {m : MonotonicState} (h : Kept payloads m d) (nonce : Nonce) :
    ∃ found, (storage.complete (loadRecord (some nonce)).run d).1 = .ok (some found) ∧
      found.payload ∈ payloads ∧ m ≤ found.monotonic := by
  obtain ⟨found, hfound, hpayload, hmarks⟩ := load_of_kept h nonce
  cases found with
  | none => exact absurd (h.2.trans hmarks) (WithBot.not_coe_le_bot _)
  | some found =>
    exact ⟨found, hfound, hpayload found rfl, WithBot.coe_le_coe.1 (h.2.trans hmarks)⟩

/-- After an undisturbed run of processes over a sound store, a load succeeds. Its payload is that
of a save, or was stored before. Its marks are at least those stored before and those of every save
that was completed; after such a save the payload is not one that was stored before. -/
theorem load_after_processes {ι : Type} [DecidableEq ι] {earlier : Set Bytes}
    (hsound : Sound earlier d) (queues : ι → List Task) (schedule : List ι)
    (hundisturbed : Along (System.step storage workload) (System.Undisturbed workload)
      ⟨d, fun i => Process.start (queues i)⟩ schedule) (nonce : Nonce) :
    let S := exec (System.step storage workload) ⟨d, fun i => Process.start (queues i)⟩ schedule
    ∃ found, (storage.complete (loadRecord (some nonce)).run S.shared).1 = .ok found ∧
      (∀ record, found = some record → record.payload ∈ earlier ∪ savedPayloads queues) ∧
      d.marks ≤ marksOf found ∧
      ∀ i saved generated sealing, (.save saved generated sealing, .saved (.ok ())) ∈
        (S.processes i).finished → ∃ record, found = some record ∧
          saved.monotonic ≤ record.monotonic ∧ record.payload ∈ savedPayloads queues := by
  intro S
  have hqueues (i : ι) (task : Task) (htask : task ∈ queues i) :
      task.From (savedPayloads queues) := by
    cases task with
    | save record generated nonce => exact ⟨i, record, generated, nonce, htask, rfl⟩
    | load nonce => trivial
  have hstart : Kept (earlier ∪ savedPayloads queues) d.marks d :=
    ⟨hsound.mono Set.subset_union_left, le_rfl⟩
  obtain ⟨hkept, hheld⟩ := System.invariant (contract Set.subset_union_right d.marks) hstart hqueues
    hundisturbed
  obtain ⟨found, hfound, hpayload, hmarks⟩ := load_of_kept hkept nonce
  refine ⟨found, hfound, hpayload, hkept.2.trans hmarks, fun i saved generated sealing hsaved => ?_⟩
  -- what the save left behind is itself a sound store, over the saves only
  have hleft : Kept (savedPayloads queues) saved.monotonic S.shared := hheld i _ hsaved
  obtain ⟨record, hrecord, hfresh, hle⟩ := exists_load_of_kept hleft nonce
  exact ⟨record, Except.ok.inj (hfound.symm.trans hrecord), hle, hfresh⟩

end Processes

/-! ### Two first saves -/

/-- Each of two processes saves once. -/
def firstSaves : Bool → List Task
  | false => [.save (sampleRecord 100) (some 1) (some 1)]
  | true => [.save (sampleRecord 200) (some 2) (some 2)]

/-- The system after a schedule of the two saves, with the root secret of neither created. -/
def afterFirstSaves (schedule : List Bool) : System Call Call.Answer Disk Task TaskResult Bool :=
  exec (System.step storage workload) ⟨.empty, fun i => Process.start (firstSaves i)⟩ schedule

/-- One save after the other: a load returns the marks of both. -/
theorem load_after_firstSaves :
    let S := afterFirstSaves (replicate 10 false ++ replicate 6 true)
    ∃ found, (storage.complete (loadRecord (some 3)).run S.shared).1 = .ok found ∧
      ∃ record, found = some record ∧ (sampleRecord 200).monotonic ≤ record.monotonic := by
  have hempty : Sound ∅ .empty := sound_of_no_replica fun _ => rfl
  obtain ⟨found, hfound, -, -, hsaved⟩ := load_after_processes hempty firstSaves
    (replicate 10 false ++ replicate 6 true) (by decide +kernel) 3
  obtain ⟨record, hrecord, hle, -⟩ := hsaved true _ (some 2) (some 2) (mem_singleton.2 rfl)
  exact ⟨found, hfound, record, hrecord, hle⟩

/-- Both processes find no root secret. The first reads back its own secret before the second stores
another one, and its replicas are the last to be written: both saves are completed, and no replica
opens under the root secret that is left. -/
theorem racing_firstSaves_lose_store :
    let S := afterFirstSaves (replicate 4 true ++ replicate 8 false ++
      replicate 6 true ++ replicate 2 false)
    (∀ i, (S.processes i).finished = (firstSaves i).map fun task => (task, .saved (.ok ()))) ∧
      ∀ nonce, (storage.complete (loadRecord nonce).run S.shared).1 = .error .integrity := by
  refine ⟨?_, fun nonce => rfl⟩
  rintro (_ | _) <;> rfl

/-! ### A load after a save -/

/-- A save that succeeds, over whatever was stored before and whatever was refused to it on the way,
is what the next load finds: its payload, and at least its marks. -/
theorem load_after_save (d : Disk) (record : StoreRecord) (generated : Option Root)
    (nonce : Option Nonce) (outcomes : List Bool)
    (hsaved : (storage.run (saveRecord record generated nonce).run d outcomes).1 = some (.ok ()))
    (nonce' : Nonce) :
    ∃ found, (storage.complete (loadRecord (some nonce')).run
        (step d (.save record generated nonce outcomes))).1 = .ok (some found) ∧
      found.payload = record.payload ∧ record.monotonic ≤ found.monotonic := by
  have hallowed : storage.Allowed (fun _ _ => True) (saveRecord record generated nonce).run d
      outcomes := allowed_of_forall_call fun _ _ => trivial
  exact exists_load_of_kept (((kept_saveRecord record generated nonce).run hallowed).1 _ hsaved rfl)
    nonce'

/-- The platform's replica cannot be read by a save after an interrupted one. -/
theorem load_after_failed_read :
    ∃ found, (storage.complete (loadRecord (some 5)).run (step (exec step .empty interruptedSave)
        (.save (sampleRecord 300) none (some 4) [true, false, true, true, true]))).1 =
          .ok (some found) ∧
      found.payload = [] ∧ (sampleRecord 300).monotonic ≤ found.monotonic :=
  load_after_save _ _ _ _ _ (by decide +kernel) 5

/-! ### The cell of the client -/

/-- The record as the client reads it. -/
def StoreRecord.toClient (decode : Bytes → Client.Payload) (r : StoreRecord) : Client.StoreRecord :=
  { monotonic := r.monotonic, payload := decode r.payload }

/-- The store is a cell: both replicas are one record that opens, or there is none. -/
structure Holds (d : Disk) (content : Option Sealed) : Prop where
  replicas : ∀ source, d.replica source = content
  opens : ∀ x ∈ content, d.rootSecret = some x.root
  encodes : ∀ x ∈ content, x.record.encode = .ok x.record

/-- The cell as the client sees it. -/
def cell (decode : Bytes → Client.Payload) (content : Option Sealed) : Client.KeyStore :=
  content.map fun x => x.record.toClient decode

section Cell

variable {decode : Bytes → Client.Payload} {d : Disk} {content : Option Sealed} {root : Root}

theorem Holds.content_of_no_root (h : Holds d content) (hroot : d.rootSecret = none) :
    content = none := by
  cases content with
  | none => rfl
  | some x => cases (h.opens x rfl).symm.trans hroot

/-- Two equal replicas that open need no repair. -/
theorem Holds.settle (h : Holds d content) (hroot : d.rootSecret = some root) (repair : Bool)
    (nonce : Option Nonce) :
    settleReplicas root repair nonce d.readings = pure (content.map (·.record)) := by
  rw [Disk.readings, h.replicas, h.replicas]
  cases content with
  | none => rfl
  | some x =>
    have hmerge : x.record.monotonic.merge x.record.monotonic = x.record.monotonic := sup_idem _
    have hopens : x.root = root := some.inj ((h.opens x rfl).symm.trans hroot)
    simp [settleReplicas, resolve, validReplicas, openRecord, newest, mergedMarks, anyInvalid,
      firstError, hmerge, hopens]

/-- A load that is refused nothing reads the cell. -/
theorem load_refines (h : Holds d content) (nonce : Option Nonce) :
    storage.Served (fun _ => True)
      (fun result d' => result = .ok (content.map (·.record)) ∧ d' = d)
      (loadRecord nonce).run d := by
  refine safe_loadRoot trivial ?_ False.elim
  cases hroot : d.rootSecret with
  | none =>
    obtain rfl := h.content_of_no_root hroot
    refine safe_loadReplica trivial (safe_loadReplica trivial ?_ False.elim) False.elim
    rw [h.replicas, h.replicas]
    exact ⟨rfl, rfl⟩
  | some root =>
    refine exceptBind ⟨trivial, exceptBind ⟨trivial, ?_, False.elim⟩, False.elim⟩
    change storage.Safe _ _ _ (settleReplicas root true nonce d.readings).run d
    rw [h.settle hroot]
    exact ⟨rfl, rfl⟩

private theorem holds_rootForSave (h : Holds d content) (generated : Root) :
    storage.Served (fun _ => True)
      (fun result d' => ∃ root, result = .ok root ∧ d'.rootSecret = some root ∧ Holds d' content)
      (rootForSave (some generated)).run d := by
  refine safe_loadRoot trivial ?_ False.elim
  cases hroot : d.rootSecret with
  | some root => exact ⟨root, rfl, hroot, h⟩
  | none =>
    obtain rfl := h.content_of_no_root hroot
    refine safe_loadReplica trivial ?_ False.elim
    rw [h.replicas, if_neg (by simp)]
    refine safe_loadReplica trivial ?_ False.elim
    rw [h.replicas, if_neg (by simp)]
    refine exceptBind ⟨trivial, exceptBind ⟨trivial, ?_, False.elim⟩, False.elim⟩
    exact ⟨generated, rfl, rfl, h.replicas, by simp, by simp⟩

/-- A save that is refused nothing succeeds, and is the save of the cell. -/
theorem save_refines (h : Holds d content) {record : StoreRecord}
    (hencodes : record.encode = .ok record)
    (hgeneration : ∀ x ∈ content, x.record.generation + 1 < 2 ^ 64)
    (generated : Root) (nonce : Nonce) :
    storage.Served (fun _ => True)
      (fun result d' => result = .ok () ∧ ∃ x, Holds d' (some x) ∧
        (cell decode content).save (record.toClient decode) true = .ok (cell decode (some x)))
      (saveRecord record (some generated) (some nonce)).run d := by
  obtain ⟨durable, hdurable, hsealed, hcell⟩ : ∃ durable,
      durableRecord record (content.map (·.record)) = .ok durable ∧
      durable.encode = .ok durable ∧
      (cell decode content).save (record.toClient decode) true =
        .ok (some (durable.toClient decode)) := by
    obtain ⟨hformed, hsize⟩ := StoreRecord.encode_eq_ok_iff.1 hencodes
    cases content with
    | none => exact ⟨_, rfl, StoreRecord.encode_eq_ok_iff.2 ⟨hformed, hsize⟩, rfl⟩
    | some x =>
      have hold := (StoreRecord.encode_eq_ok_iff.1 (h.encodes x rfl)).1
      exact ⟨_, if_pos (hgeneration x rfl),
        StoreRecord.encode_eq_ok_iff.2 ⟨isWellFormed_merge hformed hold, hsize⟩, rfl⟩
  refine exceptBind ?_
  rw [hencodes]
  refine exceptBind ((holds_rootForSave h generated).mono ?_)
  rintro _ d' ⟨root, rfl, hroot, h'⟩
  refine exceptBind (exceptBind ⟨trivial, exceptBind ⟨trivial, ?_, False.elim⟩, False.elim⟩)
  change storage.Safe _ _ _ (settleReplicas root false none d'.readings).run d'
  rw [h'.settle hroot]
  refine exceptBind ?_
  rw [hdurable, Except.bind, sealRecord, hsealed]
  refine ⟨trivial, ⟨trivial, ⟨rfl, ⟨root, nonce, durable⟩, ?_, hcell⟩, False.elim⟩, False.elim⟩
  exact ⟨fun source => by cases source <;> rfl, by rintro _ ⟨⟩; exact hroot,
    by rintro _ ⟨⟩; exact hsealed⟩

/-- A wipe that meets no failure empties the cell. -/
theorem wipe_refines (d : Disk) :
    (storage.complete wipe.run d).1 = .ok () ∧ Holds (storage.complete wipe.run d).2 none :=
  ⟨rfl, fun source => by cases source <;> rfl, by simp, by simp⟩

end Cell

end CopyLocker.Store
