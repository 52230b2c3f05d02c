import CopyLocker.Client.Snapshot
import CopyLocker.Foundation.Program
import Mathlib.Order.WithBot

/-!
# The device-bound store

The desktop store (`copylocker-store`): one sealed record, kept as two replicas, in the storage that
the platform protects and in a file. The key of the seal comes from a root secret, which is created
on first use. A save and a load are programs that read and write the root secret and the two
replicas one after the other.

Sealed bytes are the record that was sealed, with the root secret and the nonce of the seal: they
open under that root secret only. Random values are inputs of an operation, `none` where the source
of randomness fails.

## Main results

* `resolve_eq_some`, `resolve_marks`: what the record chosen holds of the replicas that were read.
* `exists_resolve_eq_ok`, `resolve_eq_none`: when a choice is made, and when there is nothing to
  choose.
-/

namespace CopyLocker.Store

open Foundation List
open Client (MonotonicState maxRecordLen recordHeaderLen)

/-! ### Marks -/

/-- Marks are compared one by one, and `merge` is their least upper bound. -/
instance : SemilatticeSup MonotonicState where
  le m m' := m.lastSeenMax ≤ m'.lastSeenMax ∧ m.lastServerTime ≤ m'.lastServerTime ∧
    m.rollbackEvents ≤ m'.rollbackEvents ∧ m.maxSeenSecurityFloor ≤ m'.maxSeenSecurityFloor ∧
    m.maxSeenRevocationEpoch ≤ m'.maxSeenRevocationEpoch
  le_refl _ := ⟨le_rfl, le_rfl, le_rfl, le_rfl, le_rfl⟩
  le_trans _ _ _ := fun ⟨h₁, h₂, h₃, h₄, h₅⟩ ⟨k₁, k₂, k₃, k₄, k₅⟩ =>
    ⟨h₁.trans k₁, h₂.trans k₂, h₃.trans k₃, h₄.trans k₄, h₅.trans k₅⟩
  le_antisymm := by
    rintro m m' ⟨h₁, h₂, h₃, h₄, h₅⟩ ⟨k₁, k₂, k₃, k₄, k₅⟩
    obtain ⟨⟩ := m
    obtain ⟨⟩ := m'
    exact MonotonicState.mk.injEq .. ▸
      ⟨h₁.antisymm k₁, h₂.antisymm k₂, h₃.antisymm k₃, h₄.antisymm k₄, h₅.antisymm k₅⟩
  sup := MonotonicState.merge
  le_sup_left _ _ :=
    ⟨le_max_left .., le_max_left .., le_max_left .., le_max_left .., le_max_left ..⟩
  le_sup_right _ _ :=
    ⟨le_max_right .., le_max_right .., le_max_right .., le_max_right .., le_max_right ..⟩
  sup_le _ _ _ := fun ⟨h₁, h₂, h₃, h₄, h₅⟩ ⟨k₁, k₂, k₃, k₄, k₅⟩ =>
    ⟨max_le h₁ k₁, max_le h₂ k₂, max_le h₃ k₃, max_le h₄ k₄, max_le h₅ k₅⟩

/-! ### Records and replicas -/

/-- The errors of the store. -/
inductive StoreError
  | entropyUnavailable
  | protectedStorage
  | missingProtectedSecret
  | invalidRecord
  | recordTooLarge
  | integrity
  | replicaConflict
  | fileSystem
  deriving DecidableEq

/-- The root secret. -/
abbrev Root := ByteId 32

abbrev Nonce := ByteId 24

/-- The record inside the seal. -/
structure StoreRecord where
  generation : ℕ
  monotonic : MonotonicState
  payload : Bytes
  deriving DecidableEq

/-- Create a new record; its generation is assigned by the save. -/
def StoreRecord.new (payload : Bytes) (monotonic : MonotonicState) : StoreRecord :=
  { generation := 0, monotonic, payload }

/-- The checks of the plaintext format; the format itself is read back as the record. -/
def StoreRecord.encode (r : StoreRecord) : Except StoreError StoreRecord :=
  if ¬ r.monotonic.isWellFormed then .error .invalidRecord
  else if 2 ^ 32 ≤ r.payload.length then .error .recordTooLarge
  else if maxRecordLen < recordHeaderLen + r.payload.length then .error .recordTooLarge
  else .ok r

/-- Sealed bytes. -/
structure Sealed where
  root : Root
  nonce : Nonce
  record : StoreRecord
  deriving DecidableEq

/-- Encrypt a record under the root secret. -/
def sealRecord (root : Root) (nonce : Option Nonce) (record : StoreRecord) :
    Except StoreError Sealed := do
  let record ← record.encode
  match nonce with
  | none => .error .entropyUnavailable
  | some nonce => .ok { root, nonce, record }

theorem StoreRecord.encode_eq_ok {r r' : StoreRecord} (h : r.encode = .ok r') : r' = r := by
  unfold StoreRecord.encode at h
  split_ifs at h
  exact (Except.ok.inj h).symm

theorem StoreRecord.encode_eq_ok_iff {r : StoreRecord} :
    r.encode = .ok r ↔ r.monotonic.isWellFormed ∧ r.payload.length < 2 ^ 32 ∧
      recordHeaderLen + r.payload.length ≤ maxRecordLen := by
  unfold StoreRecord.encode
  split_ifs with hformed hlong htotal
  · exact iff_of_false (by simp) fun h => absurd h.2.1 (Nat.not_lt.2 hlong)
  · exact iff_of_false (by simp) fun h => absurd h.2.2 (Nat.not_le.2 htotal)
  · exact iff_of_true rfl ⟨hformed, Nat.not_le.1 hlong, Nat.not_lt.1 htotal⟩
  · exact iff_of_false (by simp) fun h => hformed h.1

theorem sealRecord_eq_ok {root : Root} {nonce : Option Nonce} {record : StoreRecord} {x : Sealed}
    (h : sealRecord root nonce record = .ok x) :
    x.root = root ∧ x.record = record ∧ record.encode = .ok record := by
  unfold sealRecord at h
  cases hencode : record.encode with
  | error e =>
    rw [hencode] at h
    cases h
  | ok encoded =>
    rw [hencode] at h
    cases nonce with
    | none => cases h
    | some nonce =>
      cases h
      obtain rfl := StoreRecord.encode_eq_ok hencode
      exact ⟨rfl, rfl, rfl⟩

/-- Decrypt; another root does not open it. -/
def openRecord (root : Root) (sealedBytes : Sealed) : Option StoreRecord :=
  if sealedBytes.root = root then some sealedBytes.record else none

/-- Where a replica is kept: in the storage that the platform protects, or in a file. -/
inductive ReplicaSource
  | platform
  | file
  deriving DecidableEq

/-- The other replica. -/
def ReplicaSource.other : ReplicaSource → ReplicaSource
  | platform => file
  | file => platform

/-- What is stored for one application. -/
structure Disk where
  rootSecret : Option Root
  replica : ReplicaSource → Option Sealed

/-- A store before its first use. -/
def Disk.empty : Disk where
  rootSecret := none
  replica _ := none

/-! ### Accesses to the storage -/

/-- An access to the storage. -/
inductive Call
  | loadRoot
  | storeRoot (root : Root)
  | deleteRoot
  | loadReplica (source : ReplicaSource)
  | storeReplica (source : ReplicaSource) (sealedBytes : Sealed)
  | deleteReplica (source : ReplicaSource)

/-- What it answers with. -/
def Call.Answer : Call → Type
  | loadRoot => Except StoreError (Option Root)
  | loadReplica _ => Except StoreError (Option Sealed)
  | storeRoot _ | deleteRoot | storeReplica _ _ | deleteReplica _ => Except StoreError Unit

/-- The error of a replica that cannot be accessed. -/
def ReplicaSource.error : ReplicaSource → StoreError
  | platform => .protectedStorage
  | file => .fileSystem

/-- The storage: a refused access is an error of the platform or of the file system. -/
def storage : Object Call Call.Answer Disk where
  answer d
    | .loadRoot => .ok d.rootSecret
    | .loadReplica source => .ok (d.replica source)
    | .storeRoot _ | .deleteRoot | .storeReplica _ _ | .deleteReplica _ => .ok ()
  effect d
    | .loadRoot | .loadReplica _ => d
    | .storeRoot root => { d with rootSecret := some root }
    | .deleteRoot => { d with rootSecret := none }
    | .storeReplica source sealedBytes =>
      { d with replica := Function.update d.replica source (some sealedBytes) }
    | .deleteReplica source => { d with replica := Function.update d.replica source none }
  refusal
    | .loadRoot | .storeRoot _ | .deleteRoot => .error .protectedStorage
    | .loadReplica source | .storeReplica source _ | .deleteReplica source => .error source.error

/-- A part of an operation: it may fail, and it may be interrupted before each access. -/
abbrev Operation (α : Type) := ExceptT StoreError (Program Call Call.Answer) α

namespace Operation

def loadRoot : Operation (Option Root) := Program.call Call.loadRoot .done

def storeRoot (root : Root) : Operation Unit := Program.call (.storeRoot root) .done

def deleteRoot : Operation Unit := Program.call Call.deleteRoot .done

def loadReplica (source : ReplicaSource) : Operation (Option Sealed) :=
  Program.call (.loadReplica source) .done

def storeReplica (source : ReplicaSource) (sealedBytes : Sealed) : Operation Unit :=
  Program.call (.storeReplica source sealedBytes) .done

def deleteReplica (source : ReplicaSource) : Operation Unit :=
  Program.call (.deleteReplica source) .done

/-- Go on after an error, with the error as a value. -/
def attempt {α : Type} (x : Operation α) : Operation (Except StoreError α) := ExceptT.lift x.run

end Operation

/-! ### The choice between the replicas -/

/-- The answer to the read of a replica. -/
abbrev Reading := Except StoreError (Option Sealed)

/-- The replicas that were read and open under the root secret. -/
def validReplicas (root : Root) (readings : List Reading) : List Sealed :=
  readings.filterMap fun
    | .ok (some sealedBytes) => (openRecord root sealedBytes).map fun _ => sealedBytes
    | _ => none

/-- A replica was read and does not open. -/
def anyInvalid (root : Root) (readings : List Reading) : Bool :=
  readings.any fun
    | .ok (some sealedBytes) => (openRecord root sealedBytes).isNone
    | _ => false

/-- The first error among the readings. -/
def firstError (readings : List Reading) : Option StoreError :=
  readings.findSome? fun
    | .error e => some e
    | .ok _ => none

/-- The last replica of the highest generation, as `max_by_key` picks it. -/
def newest : List Sealed → Option Sealed
  | [] => none
  | first :: rest => some (rest.foldl (fun best r =>
      if best.record.generation ≤ r.record.generation then r else best) first)

/-- What was chosen: the record with the merged marks, the bytes it was read from, whether merging
changed its marks, and whether both replicas are these bytes. -/
structure Resolution where
  record : StoreRecord
  sealedBytes : Sealed
  stateChanged : Bool
  replicasIdentical : Bool
  deriving DecidableEq

/-- The marks of all replicas. -/
def mergedMarks (first : Sealed) (rest : List Sealed) : MonotonicState :=
  rest.foldl (fun m r => m.merge r.record.monotonic) first.record.monotonic

/-- The part of `resolve_replicas` between its reads and its repair. -/
def resolve (root : Root) (readings : List Reading) : Except StoreError (Option Resolution) :=
  let valid := validReplicas root readings
  match valid, newest valid with
  | first :: rest, some winner =>
    let sameGeneration := valid.filter fun r => r.record.generation == winner.record.generation
    if sameGeneration.any fun r =>
        sameGeneration.head?.any fun f => r.record.payload != f.record.payload then
      .error .replicaConflict
    else
      let merged := mergedMarks first rest
      let others := valid.erase winner
      .ok (some {
        record := { winner.record with monotonic := merged }
        sealedBytes := winner
        stateChanged := winner.record.monotonic != merged
        replicasIdentical := !anyInvalid root readings && (firstError readings).isNone &&
          others == [winner] })
  | _, _ =>
    if anyInvalid root readings then .error .integrity
    else match firstError readings with
      | some e => .error e
      | none => .ok none

section Resolve

variable {root : Root} {readings : List Reading} {x : Sealed} {r : Resolution}

theorem mem_validReplicas :
    x ∈ validReplicas root readings ↔ .ok (some x) ∈ readings ∧ x.root = root := by
  simp only [validReplicas, mem_filterMap]
  constructor
  · rintro ⟨reading, hmem, hx⟩
    split at hx
    next y =>
      obtain ⟨record, hopen, rfl⟩ := Option.map_eq_some_iff.1 hx
      unfold openRecord at hopen
      split_ifs at hopen with hroot
      exact ⟨hmem, hroot⟩
    · cases hx
  · rintro ⟨hmem, hroot⟩
    exact ⟨_, hmem, by simp [openRecord, hroot]⟩

theorem anyInvalid_eq_false_iff :
    anyInvalid root readings = false ↔ ∀ x, .ok (some x) ∈ readings → x.root = root := by
  simp only [anyInvalid, any_eq_false]
  constructor
  · intro h x hmem
    by_contra hroot
    exact h _ hmem (by simp [openRecord, hroot])
  · intro h reading hmem
    split
    next y => simp [openRecord, h y hmem]
    · exact Bool.false_ne_true

theorem firstError_eq_none_iff : firstError readings = none ↔ ∀ e, .error e ∉ readings := by
  simp only [firstError, findSome?_eq_none_iff]
  constructor
  · intro h e hmem
    cases h _ hmem
  · intro h reading hmem
    cases reading with
    | error e => exact absurd hmem (h e)
    | ok found => rfl

/-- The replica that wins is one of them, and has the highest generation. -/
theorem newest_spec {l : List Sealed} {winner : Sealed} (h : newest l = some winner) :
    winner ∈ l ∧ ∀ y ∈ l, y.record.generation ≤ winner.record.generation := by
  cases l with
  | nil => cases h
  | cons first rest =>
    obtain rfl := Option.some.inj h
    clear h
    induction rest generalizing first with
    | nil => simp
    | cons second rest ih =>
      simp only [foldl_cons]
      split_ifs with hle
      · obtain ⟨hmem, hmax⟩ := ih second
        refine ⟨mem_cons_of_mem _ hmem, fun y hy => ?_⟩
        rcases mem_cons.1 hy with rfl | hy
        · exact hle.trans (hmax second mem_cons_self)
        · exact hmax y hy
      · obtain ⟨hmem, hmax⟩ := ih first
        constructor
        · rcases mem_cons.1 hmem with hfirst | hrest
          · rw [hfirst]
            exact mem_cons_self
          · exact mem_cons_of_mem _ (mem_cons_of_mem _ hrest)
        · intro y hy
          rcases mem_cons.1 hy with rfl | hy
          · exact hmax y mem_cons_self
          rcases mem_cons.1 hy with rfl | hy
          · exact (not_le.1 hle).le.trans (hmax first mem_cons_self)
          · exact hmax y (mem_cons_of_mem _ hy)

theorem le_mergedMarks {first : Sealed} {rest : List Sealed} (hx : x ∈ first :: rest) :
    x.record.monotonic ≤ mergedMarks first rest := by
  have hgrows (l : List Sealed) (m : MonotonicState) :
      m ≤ l.foldl (fun m r => m.merge r.record.monotonic) m ∧
        ∀ y ∈ l, y.record.monotonic ≤ l.foldl (fun m r => m.merge r.record.monotonic) m := by
    induction l generalizing m with
    | nil => simp
    | cons y l ih =>
      obtain ⟨hle, hmem⟩ := ih (m.merge y.record.monotonic)
      refine ⟨le_sup_left.trans hle, fun z hz => ?_⟩
      rcases mem_cons.1 hz with rfl | hz
      · exact le_sup_right.trans hle
      · exact hmem z hz
  rcases mem_cons.1 hx with rfl | hx
  · exact (hgrows rest _).1
  · exact (hgrows rest _).2 x hx

/-- What every replica that opens satisfies and merging preserves holds of the marks that are
chosen. -/
theorem resolve_marks {p : MonotonicState → Prop} (h : resolve root readings = .ok (some r))
    (hvalid : ∀ x ∈ validReplicas root readings, p x.record.monotonic)
    (hmerge : ∀ m m', p m → p m' → p (m.merge m')) : p r.record.monotonic := by
  have hfold (l : List Sealed) (hl : ∀ x ∈ l, p x.record.monotonic) (m : MonotonicState)
      (hm : p m) : p (l.foldl (fun m r => m.merge r.record.monotonic) m) := by
    induction l generalizing m with
    | nil => exact hm
    | cons y l ih =>
      exact ih (fun x hx => hl x (mem_cons_of_mem _ hx)) _ (hmerge m _ hm (hl y mem_cons_self))
  unfold resolve at h
  dsimp only at h
  split at h
  next first rest winner heq hnewest =>
    split_ifs at h
    cases h
    rw [heq] at hvalid
    exact hfold rest (fun x hx => hvalid x (mem_cons_of_mem _ hx)) _ (hvalid first mem_cons_self)
  · split_ifs at h
    split at h <;> cases h

private theorem payload_eq_of_no_conflict {l : List Sealed} {y : Sealed}
    (h : ¬ (l.any fun r => l.head?.any fun f => r.record.payload != f.record.payload))
    (hx : x ∈ l) (hy : y ∈ l) : x.record.payload = y.record.payload := by
  obtain ⟨first, rest, rfl⟩ := exists_cons_of_ne_nil (ne_nil_of_mem hx)
  have hfirst (z : Sealed) (hz : z ∈ first :: rest) : z.record.payload = first.record.payload := by
    by_contra hne
    exact h (any_eq_true.2 ⟨z, hz, by simpa using hne⟩)
  rw [hfirst x hx, hfirst y hy]

/-- The record that is chosen: it was read, its marks cover those of every replica that opens, and
no such replica is of a later generation or of the same with another payload. -/
theorem resolve_eq_some (h : resolve root readings = .ok (some r)) :
    r.sealedBytes ∈ validReplicas root readings ∧
      r.record = { r.sealedBytes.record with monotonic := r.record.monotonic } ∧
      (r.stateChanged = false → r.sealedBytes.record = r.record) ∧
      ∀ x ∈ validReplicas root readings, x.record.monotonic ≤ r.record.monotonic ∧
        x.record.generation ≤ r.record.generation ∧
        (x.record.generation = r.record.generation → x.record.payload = r.record.payload) := by
  unfold resolve at h
  dsimp only at h
  split at h
  next first rest winner hvalid hnewest =>
    split_ifs at h with hconflict
    obtain ⟨hmem, hmax⟩ := newest_spec hnewest
    cases h
    refine ⟨hmem, rfl, fun hsame => ?_, fun x hx => ⟨?_, hmax x hx, fun hgeneration => ?_⟩⟩
    · have hmarks : winner.record.monotonic = mergedMarks first rest := by simpa using hsame
      rw [← hmarks]
    · rw [hvalid] at hx
      exact le_mergedMarks hx
    · exact payload_eq_of_no_conflict hconflict (mem_filter.2 ⟨hx, beq_iff_eq.2 hgeneration⟩)
        (mem_filter.2 ⟨hmem, beq_self_eq_true _⟩)
  · split_ifs at h
    split at h <;> cases h

/-- The choice fails only over a conflict, a replica that does not open, or a failed read. -/
theorem exists_resolve_eq_ok (herror : ∀ e, .error e ∉ readings)
    (hopens : ∀ x, .ok (some x) ∈ readings → x.root = root)
    (hagree : ∀ x y, .ok (some x) ∈ readings → .ok (some y) ∈ readings →
      x.record.generation = y.record.generation → x.record.payload = y.record.payload) :
    ∃ result, resolve root readings = .ok result := by
  unfold resolve
  dsimp only
  split
  next first rest winner hvalid hnewest =>
    rw [if_neg]
    · exact ⟨_, rfl⟩
    · intro hconflict
      obtain ⟨x, hx, hhead⟩ := any_eq_true.1 hconflict
      obtain ⟨y, hy, hne⟩ := (Option.any_eq_true ..).1 hhead
      have hx' := mem_filter.1 hx
      have hy' := mem_filter.1 (mem_of_mem_head? hy)
      have hgeneration : x.record.generation = y.record.generation := by
        rw [beq_iff_eq.1 hx'.2, beq_iff_eq.1 hy'.2]
      exact (bne_iff_ne.1 hne) (hagree x y (mem_validReplicas.1 hx'.1).1
        (mem_validReplicas.1 hy'.1).1 hgeneration)
  · rw [if_neg (Bool.eq_false_iff.1 (anyInvalid_eq_false_iff.2 hopens)),
      firstError_eq_none_iff.2 herror]
    exact ⟨none, rfl⟩

/-- Nothing is chosen only where nothing was found. -/
theorem resolve_eq_none (h : resolve root readings = .ok none) :
    ∀ reading ∈ readings, reading = .ok none := by
  unfold resolve at h
  dsimp only at h
  split at h
  · split_ifs at h
    cases h
  next hempty =>
    split_ifs at h with hinvalid
    split at h
    · cases h
    next herror =>
      intro reading hmem
      cases reading with
      | error e => exact absurd hmem (firstError_eq_none_iff.1 herror e)
      | ok found =>
        cases found with
        | none => rfl
        | some x =>
          have hroot := anyInvalid_eq_false_iff.1 (Bool.eq_false_iff.2 hinvalid) x hmem
          have hx := mem_validReplicas.2 ⟨hmem, hroot⟩
          obtain ⟨first, rest, hvalid⟩ := exists_cons_of_ne_nil (ne_nil_of_mem hx)
          exact absurd hvalid fun hvalid => hempty first rest _ hvalid (by rw [hvalid]; rfl)

end Resolve

/-! ### Operations -/

open Operation

/-- Write the choice to both replicas, as far as the storage allows. -/
def repairReplicas (root : Root) (nonce : Option Nonce) (r : Resolution) : Operation Unit := do
  let sealedBytes ← ExceptT.mk (pure
    (if r.stateChanged then sealRecord root nonce r.record else .ok r.sealedBytes))
  let _ ← attempt (storeReplica .platform sealedBytes)
  let _ ← attempt (storeReplica .file sealedBytes)
  pure ()

/-- The part of `resolve_replicas` after its reads. -/
def settleReplicas (root : Root) (repair : Bool) (nonce : Option Nonce) (readings : List Reading) :
    Operation (Option StoreRecord) :=
  match resolve root readings with
  | .error e => throw e
  | .ok none => pure none
  | .ok (some r) =>
    if repair && (r.stateChanged || !r.replicasIdentical) then do
      repairReplicas root nonce r
      pure (some r.record)
    else pure (some r.record)

/-- Choose between the replicas; with `repair`, write the choice back where that is needed. -/
def resolveReplicas (root : Root) (repair : Bool) (nonce : Option Nonce) :
    Operation (Option StoreRecord) := do
  let platform ← attempt (loadReplica .platform)
  let file ← attempt (loadReplica .file)
  settleReplicas root repair nonce [platform, file]

/-- The root secret, which is created when there is neither a secret nor a replica, and read
back. -/
def rootForSave (generated : Option Root) : Operation Root := do
  match ← loadRoot with
  | some root => pure root
  | none =>
    if (← loadReplica .platform).isSome then throw .missingProtectedSecret
    else if (← loadReplica .file).isSome then throw .missingProtectedSecret
    else
      match generated with
      | none => throw .entropyUnavailable
      | some generated =>
        storeRoot generated
        match ← loadRoot with
        | some root => pure root
        | none => throw .missingProtectedSecret

/-- The record that a save writes: its marks are merged with those of the record it replaces, and
its generation is the next one. -/
def durableRecord (record : StoreRecord) (existing : Option StoreRecord) :
    Except StoreError StoreRecord :=
  match existing with
  | none => .ok { record with generation := 1 }
  | some old =>
    if old.generation + 1 < 2 ^ 64 then
      .ok { record with
        generation := old.generation + 1
        monotonic := record.monotonic.merge old.monotonic }
    else .error .invalidRecord

/-- Save a record: first to the platform's storage, then to the file. -/
def saveRecord (record : StoreRecord) (generated : Option Root) (nonce : Option Nonce) :
    Operation Unit := do
  let _ ← ExceptT.mk (pure record.encode)
  let root ← rootForSave generated
  let existing ← resolveReplicas root false none
  let sealedBytes ← ExceptT.mk (pure ((durableRecord record existing).bind (sealRecord root nonce)))
  storeReplica .platform sealedBytes
  storeReplica .file sealedBytes

/-- Load the record, merging and repairing the replicas. -/
def loadRecord (nonce : Option Nonce) : Operation (Option StoreRecord) := do
  match ← loadRoot with
  | none =>
    let platform ← loadReplica .platform
    let file ← loadReplica .file
    if platform.isNone && file.isNone then pure none else throw .missingProtectedSecret
  | some root => resolveReplicas root true nonce

/-- Delete both replicas and the root secret, as far as the storage allows. -/
def wipe : Operation Unit := do
  let platform ← attempt (deleteReplica .platform)
  let file ← attempt (deleteReplica .file)
  let root ← attempt deleteRoot
  ExceptT.mk (pure (platform.bind fun _ => file.bind fun _ => root))

end CopyLocker.Store
