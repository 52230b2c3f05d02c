import CopyLocker.Worker.Registry

/-!
# Publishing revocations

A revocation of a license, a machine or an epoch takes a number in the table `revocations`, and its
signed batch is then put into KV under `rev:batch:<number - 1>`, before the pointer `rev:epoch` is
moved and the row is marked as published (`admin.rs`: `reserve_revocation`, `apply_and_publish`,
`publish_batch`; `epochs.rs`: `persist_second_approval`, `publish_epoch_revocation`). Numbers are
taken in two ways: a license or a machine gets one in a single statement, an epoch gets the one
after the head that its request read before.

An attempt to publish is a sequence of reads and writes. It may stop anywhere, and further attempts
are made by retries and by the cron job, also while another is under way; so an attempt is a
process with a phase.

The issuer answers a repeated request for a batch as before until it forgets the answer; then it
signs anew, with the key of that time. Its memory is given here by the number of the batch: the
idempotency key is a digest of the body, and the body of a batch holds its number.

The audit events and the license objects are left out, and so is the check that a revoked epoch
did not sign its own batch: where a call or a check of theirs fails, the attempt stops.

## Main results

* `exec_numbered`: only the row with the last number may be unpublished.
* `exec_stored`: the batches below the pointer are there, each for the number after its key.
* `batches_exec`: a stored batch is never replaced by another.
-/

namespace CopyLocker.Worker.RevocationPublication

open Foundation Run Suite Proto Table List Function

variable {secret : Option IssuerDO.EpochSecretPayload} {row : RevocationRow} {i : ℕ}

/-! ### Batches -/

/-- The batch of one revocation. -/
def batchOf (row : RevocationRow) : RevocationBatch where
  protoVer := protoVer
  suiteId := clStd1SuiteId
  fromEpoch := row.seq
  toEpoch := row.seq
  issuedAt := row.createdAt
  revokedLicenseIds := match row.target with
    | .license id => [id]
    | _ => []
  revokedMachineIds := match row.target with
    | .machine id => [id]
    | _ => []
  revokedEpochIds := match row.target with
    | .epoch id => [id]
    | _ => []

/-- An envelope around a batch. -/
structure SignedBatch where
  batch : RevocationBatch
  suiteId : SuiteId
  sig : Bytes
  signer : EpochId
  deriving DecidableEq

/-- The envelope of a batch. -/
def SignedBatch.toEnvelope (b : SignedBatch) : Envelope where
  protoVer := protoVer
  suiteId := b.suiteId
  kind := .revocationBatch
  tbs := .revocationBatch b.batch
  sig := b.sig
  epochRef := some b.signer

/-- The batch covers one number. -/
def SignedBatch.Covers (b : SignedBatch) (n : ℕ) : Prop :=
  b.batch.fromEpoch = n ∧ b.batch.toEpoch = n

/-- The subject of a batch. -/
def subjectOf : RevocationTarget → Bytes
  | .license id => ByteId.toBytes id
  | .machine id => ByteId.toBytes id
  | .epoch id => ByteId.toBytes id

/-- The issuer, and the license and product under which the batch of a target is signed. -/
structure PublicationEnv where
  issuer : IssuerDO.Env
  route : RevocationTarget → LicenseId × ProductId

/-- The request to sign the batch of a row. -/
def issueRequest (env : PublicationEnv) (row : RevocationRow) : IssuerDO.IssueRequest where
  idempotencyKey := ""
  shard := IssuerDO.issuerShard (ByteId.toBytes (env.route row.target).1)
  routingKey := ByteId.toBytes (env.route row.target).1
  kind := some .revocationBatch
  productId := (env.route row.target).2
  subject := subjectOf row.target
  tbs := .revocationBatch (batchOf row)

/-- A fresh signature of the batch under the key of the secret. -/
def signBatch (env : PublicationEnv) (secret : Option IssuerDO.EpochSecretPayload)
    (row : RevocationRow) : Option SignedBatch := do
  let key ← secret.bind (IssuerDO.parseEpochSecret env.issuer.primitives)
  let suiteId ← IssuerDO.validateTbs env.issuer (issueRequest env row) .revocationBatch key
  match IssuerDO.signEnvelope env.issuer (issueRequest env row) .revocationBatch key suiteId with
  | .error _ => none
  | .ok envelope =>
    some { batch := batchOf row, suiteId, sig := envelope.sig, signer := key.epochId }

variable {env : PublicationEnv} {b : SignedBatch}

/-- What is signed is the envelope that the issuer makes. -/
theorem signBatch_eq_some (h : signBatch env secret row = some b) :
    b.batch = batchOf row ∧ ∃ key suiteId,
      IssuerDO.signEnvelope env.issuer (issueRequest env row) .revocationBatch key suiteId =
        .ok b.toEnvelope := by
  obtain ⟨key, -, h⟩ := Option.bind_eq_some_iff.1 h
  obtain ⟨suiteId, -, h⟩ := Option.bind_eq_some_iff.1 h
  unfold IssuerDO.signEnvelope at h ⊢
  cases hsig : (hybridSig env.issuer.primitives).sign key.signingKey
      { kind := .revocationBatch, suiteId, productId := (issueRequest env row).productId }
      (issueRequest env row).tbs with
  | error e =>
    rw [hsig] at h
    cases h
  | ok sig =>
    rw [hsig] at h
    obtain rfl := (Option.some.inj h).symm
    refine ⟨rfl, key, suiteId, ?_⟩
    rw [hsig]
    rfl

/-- The issuer's answer to a request for the batch of a row: the remembered one, or a new one. -/
def issueBatch (env : PublicationEnv) (answers : ℕ → Option SignedBatch)
    (secret : Option IssuerDO.EpochSecretPayload) (row : RevocationRow) : Option SignedBatch :=
  match answers row.seq with
  | some b => some b
  | none => signBatch env secret row

/-- Where the pointer `rev:epoch` may not stand when a number is published. -/
def epochRefusal (epoch n : ℕ) : Option String :=
  if n < epoch then some "KV revocation epoch is ahead of the pending operation"
  else if epoch < n - 1 then some "KV revocation epoch has a publication gap"
  else none

theorem epochRefusal_eq_none_iff {epoch n : ℕ} :
    epochRefusal epoch n = none ↔ epoch ≤ n ∧ n - 1 ≤ epoch := by
  unfold epochRefusal
  split_ifs <;> simp <;> omega

/-! ### Attempts -/

/-- An attempt to publish a row, with what it holds. -/
inductive Attempt
  | idle
  | loaded (row : RevocationRow)
  | applied (row : RevocationRow)
  | signed (row : RevocationRow) (b : SignedBatch)
  | absent (row : RevocationRow) (b : SignedBatch)
  | stored (row : RevocationRow)
  | behind (row : RevocationRow)
  | advanced (row : RevocationRow)
  deriving DecidableEq

/-- The table, the issuer's memory, the two kinds of KV keys, the heads that requests to revoke an
epoch have read, and the attempts. -/
structure Publication where
  revocations : Table RevocationRow.seq
  answers : ℕ → Option SignedBatch
  batches : ℕ → Option SignedBatch
  epoch : ℕ
  heads : ℕ → Option ℕ
  attempts : ℕ → Attempt

/-- What can happen. -/
inductive PublicationStep
  | reserve (target : RevocationTarget) (targetRevoked : Bool) (reason : ℕ)
      (actor requestId : String) (now : ℤ)
  | readHead (j : ℕ)
  | insertEpoch (j : ℕ) (id : EpochId) (actor requestId : String) (now : ℤ)
  | load (i seq : ℕ)
  | apply (i : ℕ) (now : ℤ)
  | sign (i : ℕ) (secret : Option IssuerDO.EpochSecretPayload)
  | forget (seq : ℕ)
  | getBatch (i : ℕ)
  | putBatch (i : ℕ)
  | getEpoch (i : ℕ)
  | putEpoch (i : ℕ)
  | publish (i : ℕ) (now : ℤ)
  | stop (i : ℕ)

namespace Publication

def new : Publication where
  revocations := .empty
  answers _ := none
  batches _ := none
  epoch := 0
  heads _ := none
  attempts _ := .idle

variable (s : Publication)

def setAttempt (i : ℕ) (a : Attempt) : Publication :=
  { s with attempts := update s.attempts i a }

/-- The statement of the second confirmation that takes the number after the head. -/
def insertEpoch (head : ℕ) (id : EpochId) (actor requestId : String) (now : ℤ) : Publication :=
  if s.revocations.rows.any fun r => r.requestId == requestId then s
  else
    match s.revocations.insert (epochRevocation id (head + 1) actor requestId now) with
    | none => s
    | some revocations => { s with revocations }

/-- The row that an attempt starts with is not published. -/
def load (seq : ℕ) : Attempt :=
  match (s.revocations.find seq).filter (·.publishedAt.isNone) with
  | none => .idle
  | some row => .loaded row

/-- The second half of `publish_batch`: where the pointer stands. -/
def compareEpoch (epoch : ℕ) (row : RevocationRow) : Attempt :=
  if (epochRefusal epoch row.seq).isSome then .idle
  else if epoch < row.seq then .behind row
  else .advanced row

/-- The state after a step. -/
def step (env : PublicationEnv) (s : Publication) : PublicationStep → Publication
  | .reserve target targetRevoked reason actor requestId now =>
    { s with
      revocations :=
        (reserveRevocation s.revocations target targetRevoked reason actor requestId now).1 }
  | .readHead j =>
    let head :=
      if s.revocations.rows.any (·.publishedAt.isNone) then none
      else some (maxSeq s.revocations fun _ => true)
    { s with heads := update s.heads j head }
  | .insertEpoch j id actor requestId now =>
    match s.heads j with
    | none => s
    | some head => s.insertEpoch head id actor requestId now
  | .load i seq => s.setAttempt i (s.load seq)
  | .apply i now =>
    match s.attempts i with
    | .loaded row =>
      let s :=
        if row.appliedAt.isNone then
          { s with revocations := markApplied s.revocations row.seq row.requestId now }
        else s
      s.setAttempt i (.applied row)
    | _ => s
  | .sign i secret =>
    match s.attempts i with
    | .applied row =>
      match issueBatch env s.answers secret row with
      | none => s.setAttempt i .idle
      | some b =>
        { s with answers := update s.answers row.seq (some b) }.setAttempt i
          (.signed row b)
    | _ => s
  | .forget seq => { s with answers := update s.answers seq none }
  | .getBatch i =>
    match s.attempts i with
    | .signed row b =>
      match s.batches (row.seq - 1) with
      | none => s.setAttempt i (.absent row b)
      | some existing => s.setAttempt i (if existing = b then .stored row else .idle)
    | _ => s
  | .putBatch i =>
    match s.attempts i with
    | .absent row b =>
      { s with batches := update s.batches (row.seq - 1) (some b) }.setAttempt i
        (.stored row)
    | _ => s
  | .getEpoch i =>
    match s.attempts i with
    | .stored row => s.setAttempt i (compareEpoch s.epoch row)
    | _ => s
  | .putEpoch i =>
    match s.attempts i with
    | .behind row => { s with epoch := row.seq }.setAttempt i (.advanced row)
    | _ => s
  | .publish i now =>
    match s.attempts i with
    | .advanced row =>
      { s with
        revocations := markPublished s.revocations row.seq row.requestId now }.setAttempt i .idle
    | _ => s
  | .stop i => s.setAttempt i .idle

/-- What `/v1/revocations?since=…` answers from KV; an absent batch is a temporary failure. -/
def served (size : SignedBatch → ℕ) (since : ℕ) : Option (Wire Envelope) :=
  (s.batches since).map fun b => { size := size b, decoded := .ok b.toEnvelope }

end Publication

/-! ### Numbers -/

/-- Only the last number may be unpublished, and a head that was read is still the last number or
has a row after it. -/
structure Numbered (s : Publication) : Prop where
  positive : ∀ row ∈ s.revocations.rows, 0 < row.seq
  pending : ∀ row ∈ s.revocations.rows, row.publishedAt.isNone →
    row.seq = maxSeq s.revocations fun _ => true
  heads : ∀ j head, s.heads j = some head → (maxSeq s.revocations (fun _ => true) = head ∧
      ∀ row ∈ s.revocations.rows, row.publishedAt.isSome) ∨
      (s.revocations.find (head + 1)).isSome

open Publication

variable {s s' : Publication} {a : Attempt}

namespace Numbered

theorem new : Numbered .new where
  positive _ h := absurd h not_mem_nil
  pending _ h := absurd h not_mem_nil
  heads _ _ h := nomatch h

variable (h : Numbered s)

include h

theorem congr (hrows : s'.revocations = s.revocations) (hheads : s'.heads = s.heads) :
    Numbered s' where
  positive := hrows ▸ h.positive
  pending := hrows ▸ h.pending
  heads := by
    rw [hrows, hheads]
    exact h.heads

/-- A row with the next number is added while everything is published. -/
theorem added {revocations : Table RevocationRow.seq}
    (hall : ∀ r ∈ s.revocations.rows, r.publishedAt.isSome)
    (hseq : row.seq = maxSeq s.revocations (fun _ => true) + 1)
    (hrows : revocations.rows = s.revocations.rows ++ [row]) :
    Numbered { s with revocations } where
  positive r hr := by
    rw [hrows] at hr
    rcases mem_append.1 hr with hr | hr
    · exact h.positive r hr
    · obtain rfl := mem_singleton.1 hr
      omega
  pending r hr hpending := by
    rw [hrows] at hr
    rcases mem_append.1 hr with hr | hr
    · have hpublished := hall r hr
      rw [Option.isNone_iff_eq_none.1 hpending] at hpublished
      cases hpublished
    · obtain rfl := mem_singleton.1 hr
      rw [maxSeq, hrows, filter_append, foldl_append]
      exact (max_eq_right (hseq ▸ Nat.le_succ _)).symm
  heads j head hhead := by
    have hmem : ∀ r ∈ s.revocations.rows ++ [row], (revocations.find r.seq).isSome := by
      intro r hr
      rw [mem_rows_iff.1 (hrows ▸ hr)]
      rfl
    right
    rcases h.heads j head hhead with ⟨rfl, -⟩ | hfind
    · rw [← hseq]
      exact hmem row (mem_append_right _ (mem_singleton_self row))
    · obtain ⟨r, hr⟩ := Option.isSome_iff_exists.1 hfind
      obtain ⟨hr, hkey⟩ := find_eq_some_iff.1 hr
      rw [← hkey]
      exact hmem r (mem_append_left _ hr)

/-- Rows are updated in such a way that what is published remains so. -/
theorem updated (p : RevocationRow → Bool) (f : RevocationRow → RevocationRow)
    (hf : ∀ r, (f r).seq = r.seq)
    (hpublished : ∀ r, r.publishedAt.isSome → (f r).publishedAt.isSome) :
    Numbered { s with revocations := s.revocations.updateWhere p f hf } := by
  have hmax := maxSeq_updateWhere s.revocations (fun _ => true) p f hf fun _ _ _ => rfl
  -- every row comes from one with its number, which is published only if this one is
  have hrow : ∀ row ∈ (s.revocations.updateWhere p f hf).rows, ∃ r ∈ s.revocations.rows,
      row.seq = r.seq ∧ (r.publishedAt.isSome → row.publishedAt.isSome) := by
    intro row hmem
    obtain ⟨r, hr, rfl⟩ := mem_map.1 hmem
    refine ⟨r, hr, ?_⟩
    split_ifs
    · exact ⟨hf r, hpublished r⟩
    · exact ⟨rfl, id⟩
  constructor
  case positive =>
    intro row hmem
    obtain ⟨r, hr, hseq, -⟩ := hrow row hmem
    exact hseq ▸ h.positive r hr
  case pending =>
    intro row hmem hpending
    obtain ⟨r, hr, hseq, hkeeps⟩ := hrow row hmem
    have hnone : r.publishedAt.isNone := by
      by_contra hsome
      have := hkeeps (by simpa [Option.isNone_iff_eq_none, Option.ne_none_iff_isSome] using hsome)
      rw [Option.isNone_iff_eq_none.1 hpending] at this
      cases this
    rw [hseq, hmax]
    exact h.pending r hr hnone
  case heads =>
    intro j head hhead
    rw [hmax, find_updateWhere, Option.isSome_map]
    refine (h.heads j head hhead).imp_left ?_
    rintro ⟨hlast, hall⟩
    refine ⟨hlast, fun row hmem => ?_⟩
    obtain ⟨r, hr, -, hkeeps⟩ := hrow row hmem
    exact hkeeps (hall r hr)

theorem markApplied (row : RevocationRow) (now : ℤ) :
    Numbered { s with revocations := Worker.markApplied s.revocations row.seq row.requestId now } :=
  h.updated _ (fun r => { r with appliedAt := r.appliedAt <|> some now }) _ fun _ hr => hr

theorem markPublished (row : RevocationRow) (now : ℤ) :
    Numbered
      { s with revocations := Worker.markPublished s.revocations row.seq row.requestId now } := by
  refine h.updated _ (fun r => { r with publishedAt := r.publishedAt <|> some now }) _ ?_
  intro r hr
  obtain ⟨published, hpublished⟩ := Option.isSome_iff_exists.1 hr
  simp [hpublished]

theorem readHead (env : PublicationEnv) (j : ℕ) :
    Numbered (s.step env (.readHead j)) where
  positive := h.positive
  pending := h.pending
  heads k head hhead := by
    by_cases hk : k = j
    · subst hk
      simp only [step, update_self] at hhead
      split_ifs at hhead with hany
      cases hhead
      refine .inl ⟨rfl, fun row hmem => ?_⟩
      by_contra hnone
      exact hany (any_eq_true.2 ⟨row, hmem, by simpa using hnone⟩)
    · simp only [step, update_of_ne hk] at hhead
      exact h.heads k head hhead

private theorem insertEpoch {j head : ℕ} (hhead : s.heads j = some head) (id : EpochId)
    (actor requestId : String) (now : ℤ) :
    Numbered (s.insertEpoch head id actor requestId now) := by
  unfold Publication.insertEpoch
  split_ifs
  · exact h
  cases hinsert : s.revocations.insert _ with
  | none => exact h
  | some revocations =>
    have hfree : s.revocations.find (head + 1) = none := find_eq_none_of_insert hinsert
    rcases h.heads j head hhead with ⟨hlast, hall⟩ | hfind
    · exact h.added hall (congrArg (· + 1) hlast.symm) (insert_rows hinsert)
    · rw [hfree] at hfind
      cases hfind

omit h

theorem step (env : PublicationEnv) (h : Numbered s) (e : PublicationStep) :
    Numbered (s.step env e) := by
  fun_cases Publication.step env s e with
  | case1 target targetRevoked reason actor requestId now =>
    rcases reserveRevocation_cases s.revocations target targetRevoked reason actor requestId now
      with hsame | ⟨hall, -, hrows⟩
    · exact h.congr hsame rfl
    · exact h.added hall rfl hrows
  | case2 j => exact h.readHead env j
  | case4 j id actor requestId now head hhead => exact h.insertEpoch hhead id actor requestId now
  | case6 i now row hattempt s' =>
    subst s'
    split_ifs
    · exact (h.markApplied row now).congr rfl rfl
    · exact h.congr rfl rfl
  | case21 i now row => exact (h.markPublished row now).congr rfl rfl
  | _ => exact h.congr rfl rfl

end Numbered

theorem exec_numbered (env : PublicationEnv) (steps : List PublicationStep) :
    Numbered (exec (step env) .new steps) :=
  exec_induction _ (fun _ e h => h.step env e) .new steps

/-! ### Stored batches -/

/-- What an attempt knows: its number, the batch it holds, and what is stored already. -/
def Attempt.Knows (batches : ℕ → Option SignedBatch) : Attempt → Prop
  | .idle => True
  | .loaded row | .applied row | .advanced row => 0 < row.seq
  | .signed row b | .absent row b => 0 < row.seq ∧ b.Covers row.seq
  | .stored row => 0 < row.seq ∧ (batches (row.seq - 1)).isSome
  | .behind row => 0 < row.seq ∧ ∀ k < row.seq, (batches k).isSome

theorem Attempt.Knows.mono {batches batches' : ℕ → Option SignedBatch} (h : a.Knows batches)
    (hle : ∀ k, (batches k).isSome → (batches' k).isSome) : a.Knows batches' := by
  cases a with
  | stored row => exact ⟨h.1, hle _ h.2⟩
  | behind row => exact ⟨h.1, fun k hk => hle k (h.2 k hk)⟩
  | idle | loaded row | applied row | advanced row | signed row b | absent row b => exact h

/-- Below the pointer nothing is missing, and every batch is for the number after its key. -/
structure Stored (s : Publication) : Prop where
  below : ∀ k < s.epoch, (s.batches k).isSome
  covers : ∀ k b, s.batches k = some b → b.Covers (k + 1)
  answers : ∀ n b, s.answers n = some b → b.Covers n
  attempts : ∀ i, (s.attempts i).Knows s.batches

namespace Stored

theorem new : Stored .new where
  below _ h := absurd h (Nat.not_lt_zero _)
  covers _ _ h := nomatch h
  answers _ _ h := nomatch h
  attempts _ := trivial

/-- The row that an attempt loads has a number. -/
theorem knows_load (hnumbered : Numbered s) (seq : ℕ) : (s.load seq).Knows s.batches := by
  unfold load
  split
  · trivial
  next row hrow =>
    obtain ⟨hfind, -⟩ := Option.filter_eq_some_iff.1 hrow
    exact hnumbered.positive row (find_eq_some_iff.1 hfind).1

variable (h : Stored s)

include h

theorem setTables (revocations : Table RevocationRow.seq) (heads : ℕ → Option ℕ) :
    Stored { s with revocations, heads } :=
  { h with }

theorem knows (ha : s.attempts i = a) : a.Knows s.batches := ha ▸ h.attempts i

theorem setAttempt (ha : a.Knows s.batches) : Stored (s.setAttempt i a) :=
  { h with
    attempts := (forall_update_iff s.attempts fun _ a => a.Knows s.batches).2
      ⟨ha, fun j _ => h.attempts j⟩ }

theorem setAnswer {n : ℕ} {answer : Option SignedBatch} (ha : ∀ b, answer = some b → b.Covers n) :
    Stored { s with answers := update s.answers n answer } :=
  { h with
    answers := (forall_update_iff s.answers fun n o => ∀ b, o = some b → b.Covers n).2
      ⟨ha, fun m _ => h.answers m⟩ }

theorem putBatch (hseq : 0 < row.seq) (hb : b.Covers row.seq) :
    Stored { s with batches := update s.batches (row.seq - 1) (some b) } := by
  have hle : ∀ k, (s.batches k).isSome → (update s.batches (row.seq - 1) (some b) k).isSome :=
    (forall_update_iff s.batches fun k o => (s.batches k).isSome → o.isSome).2
      ⟨fun _ => rfl, fun _ _ => id⟩
  refine ⟨fun k hk => hle k (h.below k hk), ?_, h.answers, fun i => (h.attempts i).mono hle⟩
  refine (forall_update_iff s.batches fun k o => ∀ b, o = some b → b.Covers (k + 1)).2
    ⟨?_, fun k _ => h.covers k⟩
  rintro _ ⟨⟩
  rwa [Nat.sub_add_cancel hseq]

theorem putEpoch {n : ℕ} (hn : ∀ k < n, (s.batches k).isSome) : Stored { s with epoch := n } :=
  { h with below := hn }

/-- The pointer is moved only over stored batches: the ones below it, and the one just stored. -/
theorem knows_compareEpoch (hseq : 0 < row.seq) (hstored : (s.batches (row.seq - 1)).isSome) :
    (compareEpoch s.epoch row).Knows s.batches := by
  unfold compareEpoch
  split_ifs with hout hbehind
  · trivial
  · rw [Option.not_isSome_iff_eq_none, epochRefusal_eq_none_iff] at hout
    refine ⟨hseq, fun k hk => ?_⟩
    by_cases hlast : k = row.seq - 1
    · rwa [hlast]
    · exact h.below k (by omega)
  · exact hseq

/-- A batch that is signed covers the row's number, whether it is remembered or new. -/
theorem covers_issueBatch (hb : issueBatch env s.answers secret row = some b) :
    b.Covers row.seq := by
  unfold issueBatch at hb
  cases hanswer : s.answers row.seq with
  | some b' =>
    rw [hanswer] at hb
    cases hb
    exact h.answers _ _ hanswer
  | none =>
    rw [hanswer] at hb
    have hbatch := (signBatch_eq_some hb).1
    unfold SignedBatch.Covers
    rw [hbatch]
    exact ⟨rfl, rfl⟩

omit h

theorem step (env : PublicationEnv) (hnumbered : Numbered s) (h : Stored s) (e : PublicationStep) :
    Stored (s.step env e) := by
  fun_cases Publication.step env s e with
  | case1 | case2 => exact h.setTables _ _
  | case4 j id actor requestId now head =>
    fun_cases insertEpoch s head id actor requestId now <;> exact h.setTables _ _
  | case5 i seq => exact h.setAttempt (knows_load hnumbered seq)
  | case6 i now row hattempt s' =>
    have hseq := h.knows hattempt
    subst s'
    split_ifs
    · exact (h.setTables _ s.heads).setAttempt hseq
    · exact h.setAttempt hseq
  | case9 i secret row hattempt b hb =>
    have hcovers := h.covers_issueBatch hb
    refine (h.setAnswer fun b' hb' => ?_).setAttempt ⟨h.knows hattempt, hcovers⟩
    cases hb'
    exact hcovers
  | case11 => exact h.setAnswer fun b hb => nomatch hb
  | case12 i row b hattempt =>
    have hknows := h.knows hattempt
    exact h.setAttempt hknows
  | case13 i row b hattempt existing hexisting =>
    refine h.setAttempt ?_
    split_ifs
    · exact ⟨(h.knows hattempt).1, by rw [hexisting]; rfl⟩
    · trivial
  | case15 i row b hattempt =>
    obtain ⟨hseq, hcovers⟩ := h.knows hattempt
    refine (h.putBatch hseq hcovers).setAttempt ⟨hseq, ?_⟩
    simp
  | case17 i row hattempt =>
    obtain ⟨hseq, hstored⟩ := h.knows hattempt
    exact h.setAttempt (h.knows_compareEpoch hseq hstored)
  | case19 i row hattempt =>
    obtain ⟨hseq, hbelow⟩ := h.knows hattempt
    exact (h.putEpoch hbelow).setAttempt hseq
  | case21 i now row => exact (h.setTables _ s.heads).setAttempt trivial
  | case8 | case23 => exact h.setAttempt trivial
  | _ => exact h

end Stored

theorem exec_stored (env : PublicationEnv) (steps : List PublicationStep) :
    Stored (exec (step env) .new steps) :=
  (exec_induction (I := fun s => Numbered s ∧ Stored s) _
    (fun _ e h => ⟨h.1.step env e, h.2.step env h.1 e⟩) ⟨.new, .new⟩ steps).2

/-! ### One value for each key -/

/-- The issuer does not forget an answer that an attempt has still to store: a request does not
outlive the day for which answers are kept. -/
def KeepsAnswers (s : Publication) : PublicationStep → Prop
  | .forget seq => ∀ i row b, s.attempts i = .signed row b ∨ s.attempts i = .absent row b →
    row.seq ≠ seq
  | _ => True

/-- The batch that an attempt holds is the issuer's answer, and not another than the stored one if
the attempt is about to store it. -/
def Attempt.Agrees (s : Publication) : Attempt → Prop
  | .signed row b => s.answers row.seq = some b
  | .absent row b => s.answers row.seq = some b ∧ ∀ b', s.batches (row.seq - 1) = some b' → b' = b
  | _ => True

/-- An attempt goes on to agree while its answer is kept and no other batch gets under its key. -/
theorem Attempt.Agrees.mono (h : a.Agrees s)
    (hanswers : ∀ row b, a = .signed row b ∨ a = .absent row b →
      s.answers row.seq = some b → s'.answers row.seq = some b)
    (hbatches : ∀ row b b', a = .absent row b → s.answers row.seq = some b →
      s'.batches (row.seq - 1) = some b' → s.batches (row.seq - 1) = some b' ∨ b' = b) :
    a.Agrees s' := by
  cases a with
  | signed row b => exact hanswers row b (.inl rfl) h
  | absent row b =>
    refine ⟨hanswers row b (.inr rfl) h.1, fun b' hb' => ?_⟩
    exact (hbatches row b b' rfl h.1 hb').elim (h.2 b') id
  | idle | loaded row | applied row | stored row | behind row | advanced row => trivial

/-- Attempts that are about to store a batch agree on it. -/
def Agreed (s : Publication) : Prop := ∀ i, (s.attempts i).Agrees s

namespace Agreed

theorem setAttempt (h : Agreed s) (ha : a.Agrees s) : Agreed (s.setAttempt i a) := by
  exact (forall_update_iff s.attempts fun _ a => a.Agrees s).2 ⟨ha, fun j _ => h j⟩

/-- Nothing that is remembered is forgotten, and the batches are as they were. -/
theorem mono (h : Agreed s) (hanswers : ∀ n b, s.answers n = some b → s'.answers n = some b)
    (hbatches : s'.batches = s.batches) (hattempts : s'.attempts = s.attempts) : Agreed s' := by
  intro i
  rw [hattempts]
  exact (h i).mono (fun _ b _ => hanswers _ b) fun _ _ _ _ _ hb' => .inl (hbatches ▸ hb')

theorem congr (h : Agreed s) (hanswers : s'.answers = s.answers)
    (hbatches : s'.batches = s.batches) (hattempts : s'.attempts = s.attempts) : Agreed s' :=
  h.mono (fun _ _ hb => hanswers ▸ hb) hbatches hattempts

/-- An answer is remembered: either it was before, or there was none. -/
theorem remembered (h : Agreed s) (hb : issueBatch env s.answers secret row = some b) :
    Agreed { s with answers := update s.answers row.seq (some b) } := by
  refine h.mono (fun n b' hb' => ?_) rfl rfl
  by_cases hn : n = row.seq
  · subst hn
    unfold issueBatch at hb
    rw [hb'] at hb
    simp only [update_self]
    exact hb.symm
  · simpa only [update_of_ne hn] using hb'

theorem forget (h : Agreed s) {seq : ℕ} (hkept : KeepsAnswers s (.forget seq)) :
    Agreed { s with answers := update s.answers seq none } := by
  intro i
  refine (h i).mono (fun row b ha hb => ?_) fun _ _ _ _ _ => .inl
  simpa only [update_of_ne (hkept i row b ha)] using hb

/-- Whoever else is about to write the same key holds the same answer. -/
theorem putBatch (hstored : Stored s) (h : Agreed s) (hattempt : s.attempts i = .absent row b) :
    Agreed { s with batches := update s.batches (row.seq - 1) (some b) } := by
  have hmine := h i
  rw [hattempt] at hmine
  obtain ⟨hpos, -⟩ := hstored.knows hattempt
  intro j
  refine (h j).mono (fun _ _ _ => id) fun row' b' b'' hother hanswer hb'' => ?_
  by_cases hkey : row'.seq - 1 = row.seq - 1
  · obtain ⟨hpos', -⟩ := hstored.knows hother
    have hseq : row'.seq = row.seq := by omega
    simp only [hkey, update_self] at hb''
    rw [hseq, hmine.1] at hanswer
    exact .inr ((Option.some.inj hb'').symm.trans (Option.some.inj hanswer))
  · simp only [update_of_ne hkey] at hb''
    exact .inl hb''

theorem step (env : PublicationEnv) (hstored : Stored s) (h : Agreed s) {e : PublicationStep}
    (he : KeepsAnswers s e) : Agreed (s.step env e) := by
  revert he
  fun_cases Publication.step env s e with intro he
  | case4 j id actor requestId now head =>
    fun_cases insertEpoch s head id actor requestId now <;> exact h.congr rfl rfl rfl
  | case5 i seq =>
    refine h.setAttempt ?_
    unfold load
    split <;> trivial
  | case6 i now row hattempt s' =>
    refine setAttempt ?_ trivial
    subst s'
    split_ifs
    · exact h.congr rfl rfl rfl
    · exact h
  | case9 i secret row hattempt b hb =>
    refine (h.remembered hb).setAttempt ?_
    simp [Attempt.Agrees]
  | case11 => exact h.forget he
  | case12 i row b hattempt hnone =>
    have hmine := h i
    rw [hattempt] at hmine
    exact h.setAttempt ⟨hmine, fun b' hb' => by rw [hnone] at hb'; cases hb'⟩
  | case13 =>
    refine h.setAttempt ?_
    split_ifs <;> trivial
  | case15 i row b hattempt => exact (h.putBatch hstored hattempt).setAttempt trivial
  | case17 =>
    refine h.setAttempt ?_
    unfold compareEpoch
    split_ifs <;> trivial
  | case19 | case21 => exact setAttempt (h.congr rfl rfl rfl) trivial
  | case8 | case23 => exact h.setAttempt trivial
  | _ => exact h.congr rfl rfl rfl

private theorem batches_step (env : PublicationEnv) (h : Agreed s) (e : PublicationStep) {k : ℕ}
    (hb : s.batches k = some b) : (s.step env e).batches k = some b := by
  fun_cases Publication.step env s e with
  | case4 j id actor requestId now head =>
    fun_cases insertEpoch s head id actor requestId now <;> exact hb
  | case6 i now row hattempt s' =>
    subst s'
    split_ifs <;> exact hb
  | case15 i row mine hattempt =>
    have hmine := h i
    rw [hattempt] at hmine
    by_cases hk : k = row.seq - 1
    · subst hk
      simp only [Publication.setAttempt, update_self]
      rw [hmine.2 b hb]
    · simpa only [Publication.setAttempt, update_of_ne hk] using hb
  | _ => exact hb

end Agreed

/-- What a prefix of a run has stored is there at its end. -/
theorem batches_exec (env : PublicationEnv) {before after : List PublicationStep}
    (h : Along (step env) KeepsAnswers .new (before ++ after)) {k : ℕ}
    (hb : (exec (step env) .new before).batches k = some b) :
    (exec (step env) .new (before ++ after)).batches k = some b := by
  induction after using reverseRecOn with
  | nil => rwa [append_nil]
  | append_singleton after e ih =>
    rw [← append_assoc, along_append] at h
    rw [← append_assoc, exec_append]
    have hinv := exec_induction_along (I := fun s => (Numbered s ∧ Stored s) ∧ Agreed s)
      (fun _ e hs he => ⟨⟨hs.1.1.step env e, hs.1.2.step env hs.1.1 e⟩, hs.2.step env hs.1.2 he⟩)
      ⟨⟨.new, .new⟩, fun _ => trivial⟩ h.1
    exact hinv.2.batches_step env e (ih h.1)

end CopyLocker.Worker.RevocationPublication
