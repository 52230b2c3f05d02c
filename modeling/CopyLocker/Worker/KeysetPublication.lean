import CopyLocker.Worker.Registry

/-!
# Publishing the keyset

The keyset in KV is rebuilt as a side effect of the two operations on signing epochs, the upload of
one and the revocation of one (`epochs.rs`: `upload`, `publish_epoch_revocation`,
`rebuild_keyset`). The operation is journalled in the batch that changes the epochs, and stays
pending until an attempt has carried out its side effect; attempts are made by the request itself,
by retries and by the cron job, and they may overlap or stop anywhere. A rebuild reads the
certificates, reads the published revocation epoch, and writes.

Revocations of licenses and machines (`admin.rs`) take numbers in the same table and publish them,
and do not rebuild the keyset.

The approvals before an epoch revocation, the batches in KV and the audit events are left out: a
step of theirs that fails is a step at which an attempt stops.

## Main results

* `keyset_current_of_undisturbed`: with no operation pending, the keyset is current in every run
  of undisturbed steps.
* `revocation_and_overlap_leave_keyset_behind`: a license revocation, or two overlapping rebuilds,
  leave it behind.
-/

namespace CopyLocker.Worker.KeysetPublication

open Foundation Run Suite Proto Registry List Option Table Function

variable {k seq i : ℕ} {row : RevocationRow} {g : Registry} {requestId : String} {now : ℤ}

/-! ### Operations and attempts -/

/-- What an operation is still to publish. -/
inductive SideEffect
  | publishKeyset
  | publishRevocation (seq : ℕ) (requestId : String)
  deriving DecidableEq

/-- A journalled operation on epochs. -/
structure Operation where
  effect : SideEffect
  completed : Bool
  deriving DecidableEq

/-- An attempt at the side effect of the operation with number `k`. -/
inductive Attempt
  | idle
  | publishing (k seq : ℕ) (requestId : String)
  | rebuilding (k : ℕ)
  | certified (k : ℕ) (certificates : List (Wire Envelope))
  | ready (k : ℕ) (keyset : Keyset)
  | written (k : ℕ)

/-- What the checks of an upload use. -/
structure KeysetEnv where
  primitives : Primitives Tbs
  sha256 : Bytes → Digest

/-- The tables, the journalled operations and the attempts. -/
structure KeysetSystem where
  registry : Registry
  operations : List Operation
  attempts : ℕ → Attempt

/-- What can happen. -/
inductive KeysetStep
  | upload (certificate : Wire Envelope) (rootBytes : Bytes)
  | revokeEpoch (id : EpochId) (seq : ℕ) (actor requestId : String) (now : ℤ)
  | revocation (step : RegistryStep)
  | start (i k : ℕ)
  | apply (i : ℕ) (now : ℤ)
  | publish (i : ℕ) (now : ℤ)
  | readCertificates (i : ℕ)
  | readRevocationEpoch (i : ℕ)
  | write (i : ℕ)
  | complete (i : ℕ)
  | stop (i : ℕ)

/-- The statements of a license or machine revocation. -/
def isRevocationStep : RegistryStep → Bool
  | .reserveRevocation .. | .markApplied .. | .markPublished .. => true
  | _ => false

variable (env : KeysetEnv) (s : KeysetSystem)

namespace KeysetSystem

def new : KeysetSystem := { registry := .new, operations := [], attempts := fun _ => .idle }

def setAttempt (i : ℕ) (a : Attempt) : KeysetSystem :=
  { s with attempts := update s.attempts i a }

/-- The batch that inserts an epoch. -/
def upload (certificate : Wire Envelope) (rootBytes : Bytes) : KeysetSystem :=
  match s.registry.upload env.primitives env.sha256 certificate rootBytes with
  | none => s
  | some registry =>
    { s with
      registry
      operations := s.operations ++ [{ effect := .publishKeyset, completed := false }] }

/-- The batch that revokes an epoch; it is refused when the number or the request id is taken. -/
def revokeEpoch (id : EpochId) (seq : ℕ) (actor requestId : String) (now : ℤ) : KeysetSystem :=
  if (s.registry.revocations.find seq).isSome ∨
      s.registry.revocations.rows.any fun r => r.requestId == requestId then s
  else
    { s with
      registry := s.registry.revokeEpoch id seq actor requestId now
      operations :=
        s.operations ++ [{ effect := .publishRevocation seq requestId, completed := false }] }

/-- Where an attempt at an operation begins. A published revocation only lacks the keyset. -/
def start (k : ℕ) : Attempt :=
  match s.operations[k]? with
  | none => .idle
  | some op =>
    if op.completed then .idle
    else
      match op.effect with
      | .publishKeyset => .rebuilding k
      | .publishRevocation seq requestId =>
        match s.registry.revocations.find seq with
        | none => .idle
        | some row => if row.publishedAt.isSome then .rebuilding k else .publishing k seq requestId

/-- The checkpoint of the publication finds its row. -/
def checkpointed (seq : ℕ) (requestId : String) : Bool :=
  (s.registry.revocations.find seq).any fun row =>
    row.requestId == requestId && row.appliedAt.isSome

/-- The system after a step. -/
def step : KeysetStep → KeysetSystem
  | .upload certificate rootBytes => s.upload env certificate rootBytes
  | .revokeEpoch id seq actor requestId now => s.revokeEpoch id seq actor requestId now
  | .revocation e =>
    if isRevocationStep e then
      { s with registry := s.registry.step env.primitives env.sha256 e }
    else s
  | .start i k => s.setAttempt i (s.start k)
  | .apply i now =>
    match s.attempts i with
    | .publishing _ seq requestId =>
      { s with
        registry := s.registry.step env.primitives env.sha256 (.markApplied seq requestId now) }
    | _ => s
  | .publish i now =>
    match s.attempts i with
    | .publishing k seq requestId =>
      if s.checkpointed seq requestId then
        { s with
          registry := s.registry.step env.primitives env.sha256
            (.markPublished seq requestId now) }.setAttempt i (.rebuilding k)
      else s.setAttempt i .idle
    | _ => s
  | .readCertificates i =>
    match s.attempts i with
    | .rebuilding k => s.setAttempt i (.certified k s.registry.certificates)
    | _ => s
  | .readRevocationEpoch i =>
    match s.attempts i with
    | .certified k certificates =>
      match s.registry.readKeyset certificates with
      | some keyset => s.setAttempt i (.ready k keyset)
      | none => s.setAttempt i .idle
    | _ => s
  | .write i =>
    match s.attempts i with
    | .ready k keyset =>
      { s with registry := { s.registry with keyset := some keyset } }.setAttempt i (.written k)
    | _ => s
  | .complete i =>
    match s.attempts i with
    | .written k =>
      { s with
        operations := s.operations.modify k fun op => { op with completed := true } }.setAttempt i
          .idle
    | _ => s
  | .stop i => s.setAttempt i .idle

end KeysetSystem

/-! ### The keyset that the tables describe -/

/-- The certificates of the unrevoked epochs up to the limit, and the highest published number. -/
def fresh (g : Registry) : Keyset where
  protoVer := protoVer
  epochCertificates := g.certificates
  revocationEpoch := publishedRevocationEpoch g.revocations

/-- The published keyset is the one that the tables describe; none is published before the first
epoch. -/
def Current (g : Registry) : Prop :=
  match g.keyset with
  | none => g.epochs.rows = []
  | some keyset => keyset = fresh g

/-- No operation on epochs and no revocation is pending. -/
structure Quiescent (s : KeysetSystem) : Prop where
  operations : ∀ op ∈ s.operations, op.completed = true
  revocations : ∀ row ∈ s.registry.revocations.rows, row.publishedAt.isSome

/-- A pending operation that no attempt has written the keyset for. -/
def Outstanding (k : ℕ) : Prop :=
  (∃ op, s.operations[k]? = some op ∧ op.completed = false) ∧ ∀ i, s.attempts i ≠ .written k

/-- A rebuild writes what the tables still say, and a license or machine revocation is published
only while an operation on epochs has yet to write the keyset. -/
def Undisturbed : KeysetStep → Prop
  | .write i => ∀ k keyset, s.attempts i = .ready k keyset → keyset = fresh s.registry
  | .revocation e =>
    fresh (s.registry.step env.primitives env.sha256 e) = fresh s.registry ∨ ∃ k, Outstanding s k
  | _ => True

/-! ### What the attempts know -/

/-- The operation is journalled, and the revocation that it publishes, if any, is published. -/
def Effected (k : ℕ) : Prop :=
  ∃ op, s.operations[k]? = some op ∧ ∀ seq requestId, op.effect = .publishRevocation seq requestId →
    ∃ row, s.registry.revocations.find seq = some row ∧ row.publishedAt.isSome

/-- An attempt is at an operation of its kind, and rebuilds only after the publication. -/
def Attempt.Fits : Attempt → Prop
  | .idle => True
  | .publishing k seq requestId =>
    ∃ op, s.operations[k]? = some op ∧ op.effect = .publishRevocation seq requestId
  | .rebuilding k | .certified k _ | .ready k _ | .written k => Effected s k

/-- The later system has the operations and the published revocations of the earlier one. -/
structure Extends (s s' : KeysetSystem) : Prop where
  operations : ∀ (k : ℕ) (op : Operation), s.operations[k]? = some op →
    ∃ op', s'.operations[k]? = some op' ∧ op'.effect = op.effect
  published : ∀ seq row, s.registry.revocations.find seq = some row → row.publishedAt.isSome →
    ∃ row', s'.registry.revocations.find seq = some row' ∧ row'.publishedAt.isSome

variable {s} {s' : KeysetSystem}

theorem Effected.mono (hle : Extends s s') (h : Effected s k) : Effected s' k := by
  obtain ⟨op, hop, hpublished⟩ := h
  obtain ⟨op', hop', heffect⟩ := hle.operations k op hop
  refine ⟨op', hop', ?_⟩
  intro seq requestId heq
  obtain ⟨row, hrow, hsome⟩ := hpublished seq requestId (heffect ▸ heq)
  exact hle.published seq row hrow hsome

variable {a : Attempt} {e : RegistryStep}

theorem Attempt.Fits.mono (hle : Extends s s') (h : a.Fits s) : a.Fits s' := by
  cases a with
  | idle => exact trivial
  | publishing k seq requestId =>
    obtain ⟨op, hop, heq⟩ := h
    obtain ⟨op', hop', heffect⟩ := hle.operations k op hop
    exact ⟨op', hop', heffect.trans heq⟩
  | rebuilding | certified | ready | written => exact Effected.mono hle h

/-- A statement on the revocations keeps the published ones published. -/
theorem published_step (g : Registry) (he : isRevocationStep e)
    (hrow : g.revocations.find seq = some row) (hsome : row.publishedAt.isSome) :
    ∃ row', (g.step env.primitives env.sha256 e).revocations.find seq = some row' ∧
      row'.publishedAt.isSome := by
  cases e with
  | reserveRevocation target targetRevoked reason actor requestId now =>
    obtain hsame | ⟨-, -, hrows⟩ := reserveRevocation_cases g.revocations target targetRevoked
      reason actor requestId now
    · exact ⟨row, by simp only [step, hsame, hrow], hsome⟩
    · refine ⟨row, ?_, hsome⟩
      rw [find_eq_some_iff] at hrow ⊢
      exact ⟨by simp only [step, hrows, mem_append, hrow.1, true_or], hrow.2⟩
  | markApplied | markPublished =>
    simp only [step, markApplied, markPublished]
    rw [find_updateWhere, hrow, map_some]
    refine ⟨_, rfl, ?_⟩
    split <;> simp [hsome]
  | _ => cases he

theorem find_revokeEpoch {id : EpochId} {seq' : ℕ} {actor : String}
    (hrow : g.revocations.find seq' = some row) :
    (g.revokeEpoch id seq actor requestId now).revocations.find seq' = some row := by
  unfold revokeEpoch
  split
  · exact hrow
  next revocations hinsert =>
  split
  · exact hrow
  · change revocations.find seq' = some row
    rw [find_insert hinsert, if_neg, hrow]
    rintro rfl
    rw [find_eq_none_of_insert hinsert] at hrow
    cases hrow

/-- Attempts fit their operations, and what is completed was carried out. -/
structure Tidy (s : KeysetSystem) : Prop where
  attempts : ∀ i, (s.attempts i).Fits s
  completed : ∀ (k : ℕ) (op : Operation), s.operations[k]? = some op → op.completed = true →
    Effected s k

namespace Tidy

theorem new : Tidy .new where
  attempts _ := trivial
  completed k op hop := by simp [KeysetSystem.new] at hop

theorem fits (h : Tidy s) (ha : s.attempts i = a) : a.Fits s := ha ▸ h.attempts i

theorem setAttempt (h : Tidy s) (ha : a.Fits s) :
    Tidy (s.setAttempt i a) where
  attempts := (forall_update_iff s.attempts fun _ a => a.Fits s).2
    ⟨ha, fun j _ => h.attempts j⟩
  completed := h.completed

/-- A change of the tables that leaves the journal's checkpoints. -/
theorem of_extends (h : Tidy s) (hle : Extends s s') (hattempts : s'.attempts = s.attempts)
    (hcompleted : ∀ (k : ℕ) (op : Operation), s'.operations[k]? = some op → op.completed →
      ∃ op', s.operations[k]? = some op' ∧ op'.completed) : Tidy s' where
  attempts i := by
    rw [hattempts]
    exact (h.attempts i).mono hle
  completed k op hop hdone := by
    obtain ⟨op', hop', hdone'⟩ := hcompleted k op hop hdone
    exact (h.completed k op' hop' hdone').mono hle

theorem journal (h : Tidy s) {effect : SideEffect}
    (hpublished : ∀ seq row, s.registry.revocations.find seq = some row →
      row.publishedAt.isSome → g.revocations.find seq = some row) :
    Tidy { s with
      registry := g
      operations := s.operations ++ [{ effect, completed := false }] } := by
  refine h.of_extends ⟨?_, fun seq row hrow hsome => ⟨row, hpublished seq row hrow hsome, hsome⟩⟩
    rfl ?_
  · intro k op hop
    exact ⟨op, by rwa [getElem?_append_left (List.getElem?_eq_some_iff.1 hop).1], rfl⟩
  intro k op hop hdone
  rcases Nat.lt_or_ge k s.operations.length with hlt | hge
  · exact ⟨op, by rwa [getElem?_append_left hlt] at hop, hdone⟩
  · -- the new operation is not completed
    rw [getElem?_append_right hge, getElem?_singleton] at hop
    split_ifs at hop
    cases hop
    cases hdone

theorem registryStep (h : Tidy s) (he : isRevocationStep e) :
    Tidy { s with registry := s.registry.step env.primitives env.sha256 e } := by
  refine h.of_extends ⟨fun _ op hop => ⟨op, hop, rfl⟩, fun _ _ hrow hsome => ?_⟩ rfl
    fun _ op hop hdone => ⟨op, hop, hdone⟩
  exact published_step env s.registry he hrow hsome

theorem complete (h : Tidy s) (hk : Effected s k) :
    Tidy
      { s with operations := s.operations.modify k fun op => { op with completed := true } } := by
  have hle : Extends s
      { s with operations := s.operations.modify k fun op => { op with completed := true } } := by
    refine ⟨fun j op hop => ?_, fun _ row hrow hsome => ⟨row, hrow, hsome⟩⟩
    rw [getElem?_modify, hop]
    refine ⟨_, rfl, ?_⟩
    split <;> rfl
  refine ⟨fun i => (h.attempts i).mono hle, ?_⟩
  intro j op hop hdone
  by_cases hj : k = j
  · exact hj ▸ hk.mono hle
  · have hsame : s.operations[j]? = some op := by
      simpa [getElem?_modify, hj] using hop
    exact (h.completed j op hsame hdone).mono hle

theorem fits_start (s : KeysetSystem) (k : ℕ) : (s.start k).Fits s := by
  fun_cases KeysetSystem.start s k with
  | case3 op hop _ heffect =>
    refine ⟨op, hop, fun seq requestId heq => ?_⟩
    cases heffect.symm.trans heq
  | case5 op hop _ seq requestId heffect row hrow hsome =>
    refine ⟨op, hop, fun seq' requestId' heq => ?_⟩
    cases heffect.symm.trans heq
    exact ⟨row, hrow, hsome⟩
  | case6 op hop _ seq requestId heffect => exact ⟨op, hop, heffect⟩
  | _ => exact trivial

/-- After the checkpoint of its publication an attempt goes on to rebuild. -/
theorem effected_of_checkpointed (hfits : (Attempt.publishing k seq requestId).Fits s)
    (hrow : s.checkpointed seq requestId) :
    Effected
      { s with
        registry := s.registry.step env.primitives env.sha256 (.markPublished seq requestId now) }
      k := by
  obtain ⟨op, hop, heffect⟩ := hfits
  refine ⟨op, hop, ?_⟩
  intro seq' requestId' heq
  rw [heffect] at heq
  cases heq
  unfold KeysetSystem.checkpointed at hrow
  cases hfind : s.registry.revocations.find seq with
  | none =>
    rw [hfind] at hrow
    cases hrow
  | some row =>
    rw [hfind, any_some, Bool.and_eq_true] at hrow
    have hseq : row.seq = seq := key_of_find hfind
    simp only [step, markPublished]
    rw [find_updateWhere, hfind, map_some]
    refine ⟨_, rfl, ?_⟩
    rw [if_pos (by simp [hseq, hrow])]
    cases row.publishedAt <;> rfl

theorem step (h : Tidy s) (e : KeysetStep) : Tidy (s.step env e) := by
  fun_cases KeysetSystem.step env s e with
  | case1 certificate rootBytes =>
    fun_cases KeysetSystem.upload env s certificate rootBytes with
    | case1 => exact h
    | case2 registry hupload =>
      obtain ⟨_, _, -, rfl⟩ := upload_eq_some hupload
      exact h.journal fun _ _ hrow _ => hrow
  | case2 =>
    unfold KeysetSystem.revokeEpoch
    split
    · exact h
    · exact h.journal fun _ _ hrow _ => find_revokeEpoch hrow
  | case3 e he => exact h.registryStep env he
  | case5 i k => exact h.setAttempt (fits_start s k)
  | case6 => exact h.registryStep env rfl
  | case8 i now k seq requestId hattempt hrow =>
    have hfits := h.fits hattempt
    exact (h.registryStep env rfl).setAttempt (effected_of_checkpointed env hfits hrow)
  | case9 | case14 | case20 => exact h.setAttempt trivial
  | case11 i k hattempt | case13 i k certificates hattempt =>
    have hfits := h.fits hattempt
    exact h.setAttempt hfits
  | case16 i k keyset hattempt =>
    have hfits := h.fits hattempt
    have hle : Extends s { s with registry := { s.registry with keyset := some keyset } } :=
      ⟨fun _ op hop => ⟨op, hop, rfl⟩, fun _ row hrow hsome => ⟨row, hrow, hsome⟩⟩
    have hextended := h.of_extends hle rfl fun _ op hop hdone => ⟨op, hop, hdone⟩
    exact hextended.setAttempt (hfits.mono hle)
  | case18 i k hattempt =>
    have hfits := h.fits hattempt
    exact (h.complete hfits).setAttempt trivial
  | _ => exact h

end Tidy

/-! ### The keyset over whole runs -/

theorem current_congr {g' : Registry} (hepochs : g'.epochs = g.epochs)
    (hkeyset : g'.keyset = g.keyset) (hfresh : fresh g' = fresh g) : Current g' ↔ Current g := by
  unfold Current
  rw [hkeyset]
  cases g.keyset with
  | none => rw [hepochs]
  | some keyset => rw [hfresh]

theorem fresh_updateWhere {q : RevocationRow → Bool} {f : RevocationRow → RevocationRow}
    (hf : ∀ r, (f r).seq = r.seq)
    (h : ∀ r ∈ g.revocations.rows, q r → (f r).publishedAt.isSome = r.publishedAt.isSome) :
    fresh { g with revocations := g.revocations.updateWhere q f hf } = fresh g := by
  have hmax := maxSeq_updateWhere g.revocations (fun r => r.publishedAt.isSome) q f hf h
  simp only [fresh, publishedRevocationEpoch, hmax]
  rfl

/-- A keyset that is not current has an operation that will write it. -/
def Covered (s : KeysetSystem) : Prop := ¬ Current s.registry → ∃ k, Outstanding s k

namespace Covered

/-- Moving an attempt to a phase before its write. -/
theorem setAttempt (h : Covered s) (ha : ∀ k, a ≠ .written k) : Covered (s.setAttempt i a) := by
  intro hstale
  obtain ⟨k, hop, hwritten⟩ := h hstale
  exact ⟨k, hop, (forall_update_iff s.attempts fun _ a => a ≠ .written k).2
    ⟨ha k, fun j _ => hwritten j⟩⟩

theorem journal (ht : Tidy s) (g : Registry) (effect : SideEffect) :
    Covered { s with
      registry := g
      operations := s.operations ++ [{ effect, completed := false }] } := by
  intro _
  refine ⟨s.operations.length, ⟨_, getElem?_concat_length, rfl⟩, ?_⟩
  intro i hwritten
  -- no attempt is at an operation that is not journalled yet
  obtain ⟨op, hop, -⟩ := ht.fits hwritten
  simp at hop

theorem registryStep (h : Covered s) (he : isRevocationStep e)
    (hfresh : fresh (s.registry.step env.primitives env.sha256 e) = fresh s.registry ∨
      ∃ k, Outstanding s k) :
    Covered { s with registry := s.registry.step env.primitives env.sha256 e } := by
  intro hstale
  rcases hfresh with hsame | hout
  · refine h fun hcurrent => hstale ((current_congr ?_ ?_ hsame).2 hcurrent)
    all_goals
      cases e with
      | reserveRevocation | markApplied | markPublished => rfl
      | _ => cases he
  · exact hout

/-- The operation whose revocation is not published yet is outstanding. -/
theorem outstanding_of_unpublished (ht : Tidy s)
    (hattempt : s.attempts i = .publishing k seq requestId)
    (hrow : s.registry.revocations.find seq = some row) (hnone : row.publishedAt = none) :
    Outstanding s k := by
  obtain ⟨op, hop, heffect⟩ := ht.fits hattempt
  have hunpublished : ¬ Effected s k := by
    rintro ⟨op', hop', hpublished⟩
    obtain rfl : op = op' := some.inj (hop.symm.trans hop')
    obtain ⟨row', hrow', hsome⟩ := hpublished seq requestId heffect
    obtain rfl : row = row' := some.inj (hrow.symm.trans hrow')
    rw [hnone] at hsome
    cases hsome
  refine ⟨⟨op, hop, ?_⟩, ?_⟩
  · by_contra hdone
    exact hunpublished (ht.completed k op hop (by simpa using hdone))
  · intro j hwritten
    exact hunpublished (ht.fits hwritten)

theorem step (h : Covered s) (ht : Tidy s) {e : KeysetStep} (hundisturbed : Undisturbed env s e) :
    Covered (s.step env e) := by
  revert hundisturbed
  fun_cases KeysetSystem.step env s e with intro hundisturbed
  | case1 certificate rootBytes =>
    fun_cases KeysetSystem.upload env s certificate rootBytes with
    | case1 => exact h
    | case2 => exact journal ht _ _
  | case2 =>
    unfold KeysetSystem.revokeEpoch
    split
    · exact h
    · exact journal ht _ _
  | case3 e he => exact h.registryStep env he hundisturbed
  | case5 i k =>
    refine h.setAttempt fun k' => ?_
    fun_cases KeysetSystem.start s k <;> simp
  | case6 => exact h.registryStep env rfl (.inl (fresh_updateWhere _ fun _ _ _ => rfl))
  | case8 i now k seq requestId hattempt =>
    refine setAttempt (h.registryStep env rfl ?_) (by simp)
    -- either the row was published before, or the operation has yet to write
    by_cases hall : ∀ row, s.registry.revocations.find seq = some row → row.publishedAt.isSome
    · refine .inl (fresh_updateWhere _ fun row hrow hq => ?_)
      simp only [Bool.and_eq_true, beq_iff_eq] at hq
      have hsome := hall row (find_eq_some_iff.2 ⟨hrow, hq.1.1⟩)
      obtain ⟨t, ht⟩ := isSome_iff_exists.1 hsome
      simp [ht]
    · obtain ⟨row, hrow, hnone⟩ : ∃ row, s.registry.revocations.find seq = some row ∧
          row.publishedAt = none := by simpa using hall
      exact .inr ⟨k, outstanding_of_unpublished ht hattempt hrow hnone⟩
  | case9 | case11 | case13 | case14 | case20 => exact h.setAttempt (by simp)
  | case16 i k keyset hattempt =>
    intro hstale
    exact absurd (hundisturbed k keyset hattempt) hstale
  | case18 i k hattempt =>
    refine setAttempt ?_ (by simp)
    intro hstale
    obtain ⟨k', ⟨op, hop, hpending⟩, hwritten⟩ := h hstale
    -- the completed operation has written, so it is another one
    have hne : k ≠ k' := by
      rintro rfl
      exact hwritten i hattempt
    exact ⟨k', ⟨op, by simpa [getElem?_modify, hne] using hop, hpending⟩, hwritten⟩
  | _ => exact h

end Covered

/-- In every interleaving of uploads, epoch revocations, license and machine revocations whose steps
are undisturbed, the keyset is current whenever nothing is pending. -/
theorem keyset_current_of_undisturbed (env : KeysetEnv) {steps : List KeysetStep}
    (hsteps : Along (KeysetSystem.step env) (Undisturbed env) .new steps)
    (hquiet : Quiescent (exec (KeysetSystem.step env) .new steps)) :
    Current (exec (KeysetSystem.step env) .new steps).registry := by
  have hnew : Covered .new := fun hstale => absurd rfl hstale
  obtain ⟨hcovered, -⟩ := exec_induction_along (I := fun s => Covered s ∧ Tidy s)
    (fun _ e h hundisturbed => ⟨h.1.step env h.2 hundisturbed, h.2.step env e⟩)
    ⟨hnew, Tidy.new⟩ hsteps
  by_contra hstale
  obtain ⟨k, ⟨op, hop, hpending⟩, -⟩ := hcovered hstale
  have hdone := hquiet.operations op (mem_of_getElem? hop)
  rw [hpending] at hdone
  cases hdone

/-! ### A keyset that is left behind -/

def sampleEnv : KeysetEnv where
  primitives := .permissive Tbs
  sha256 _ := 0

/-- An attempt at an operation reads both inputs of the keyset. -/
def reads (i k : ℕ) : List KeysetStep := [.start i k, .readCertificates i, .readRevocationEpoch i]

/-- It writes the keyset and completes the operation. -/
def writes (i : ℕ) : List KeysetStep := [.write i, .complete i]

/-- A revocation of license `1`, from its reservation to its publication. -/
def licenseRevoked : List KeysetStep :=
  [ .revocation (.reserveRevocation (.license 1) false 1 "admin" "request" 1000),
    .revocation (.markApplied 1 "request" 1001),
    .revocation (.markPublished 1 "request" 1002) ]

/-- An epoch is uploaded and its keyset published; then a license is revoked. -/
def revokedAfterwards : List KeysetStep :=
  [.upload (certificateOf 5) rootKeyBytes] ++ reads 0 0 ++ writes 0 ++ licenseRevoked

/-- A second epoch is uploaded, and its keyset published, between the reads and the write of the
first one's rebuild. -/
def overlappingRebuilds : List KeysetStep :=
  [.upload (certificateOf 5) rootKeyBytes] ++ reads 0 0 ++
    [.upload (certificateOf 6) rootKeyBytes] ++ reads 1 1 ++ writes 1 ++ writes 0

def reached (steps : List KeysetStep) : KeysetSystem :=
  exec (KeysetSystem.step sampleEnv) .new steps

/-- Nothing is pending in either run, and the keyset shows the old revocation epoch in the one and
lacks the second certificate in the other. -/
theorem revocation_and_overlap_leave_keyset_behind :
    (Quiescent (reached revokedAfterwards) ∧
      (reached revokedAfterwards).registry.keyset.map (·.revocationEpoch) = some 0 ∧
      publishedRevocationEpoch (reached revokedAfterwards).registry.revocations = 1 ∧
      ¬ Current (reached revokedAfterwards).registry) ∧
    Quiescent (reached overlappingRebuilds) ∧
      (reached overlappingRebuilds).registry.keyset.map (·.epochCertificates.length) = some 1 ∧
      (reached overlappingRebuilds).registry.certificates.length = 2 ∧
      ¬ Current (reached overlappingRebuilds).registry := by
  refine ⟨⟨⟨by decide, by decide⟩, rfl, rfl, ?_⟩, ⟨⟨by decide, by decide⟩, rfl, rfl, ?_⟩⟩
  · intro hcurrent
    exact absurd (congrArg Keyset.revocationEpoch hcurrent) (by decide)
  · intro hcurrent
    exact absurd (congrArg (·.epochCertificates.length) hcurrent) (by decide)

/-- A license is revoked between the upload of an epoch and its rebuild. -/
def revokedBefore : List KeysetStep :=
  [.upload (certificateOf 5) rootKeyBytes] ++ licenseRevoked ++ reads 0 0 ++ writes 0

theorem keyset_current_after_rebuild :
    (reached revokedBefore).registry.keyset.map (·.revocationEpoch) = some 1 ∧
      Current (reached revokedBefore).registry := by
  refine ⟨rfl, keyset_current_of_undisturbed sampleEnv ?_ ⟨by decide, by decide⟩⟩
  have houtstanding : Outstanding
      (reached ([.upload (certificateOf 5) rootKeyBytes] ++ licenseRevoked.take 2)) 0 :=
    ⟨⟨_, rfl, rfl⟩, fun _ => Attempt.noConfusion⟩
  refine ⟨trivial, .inl rfl, .inl rfl, .inr ⟨0, houtstanding⟩, trivial, trivial, trivial, ?_,
    trivial, trivial⟩
  rintro k keyset ⟨⟩
  rfl

end CopyLocker.Worker.KeysetPublication
