import CopyLocker.Foundation.HashChain
import CopyLocker.Worker.Issuer

/-!
# The issuance log

What the issuer's log and its idempotency table look like after any run of sign requests and
alarms. The signing key may be rotated between two calls, so a call carries the secret that the
secrets store holds when it is served.

The hashes are fields of the environment, and the digests are finitely many, so that a statement
which rests on the hash names the two inputs that would have to collide.

## Main results

* `exec_linked`: the log of every reachable object is linked.
* `find_keyedStep`: a stored answer stays what it is until an alarm deletes it.
* `issuance_log_linked_and_idempotent`: both, with what a repeated key is answered.
-/

namespace CopyLocker.Worker.IssuerDO

open Foundation Run Suite Proto List Table

/-- A call, and the signing key's secret at that time. -/
structure KeyedCall where
  secret : Option EpochSecretPayload
  call : Call

/-- The object's surroundings during a call. -/
def Env.during (env : Env) (secret : Option EpochSecretPayload) : Env := { env with secret }

/-- A call under the secret of its time. -/
def keyedStep (env : Env) (s : State) (c : KeyedCall) : State :=
  step (env.during c.secret) s c.call

/-! ### The log -/

/-- What the hash of a row of a shard is taken of; the product is not in the row. -/
def LogRow.hashInput (row : LogRow) (shard : ℕ) (productId : ProductId) : IssuanceHashInput where
  shard := shard
  seq := row.seq
  occurredAt := row.ts
  kind := row.kind
  productId := productId
  subject := row.subject
  epochId := row.epochId
  digest := row.digest
  prevHash := row.prevHash

/-- The row's hash is taken of its own fields. -/
def Committed (env : Env) (row : LogRow) : Prop :=
  ∃ productId, row.hash = env.issuanceHash (row.hashInput env.shard productId)

/-- Two inputs on which the issuance hash collides. -/
def HashCollision (env : Env) (a b : IssuanceHashInput) : Prop :=
  a ≠ b ∧ env.issuanceHash a = env.issuanceHash b

/-- The log runs from 1 without a gap, its rows are linked, each hash is taken of its row, and
another row with the same hash is a collision. -/
structure Linked (env : Env) (log : List LogRow) : Prop where
  numbered : log.map (·.seq) = range' 1 log.length
  first : ∀ row ∈ log.head?, row.prevHash = 0
  linked : log.IsChain fun row next => next.prevHash = row.hash
  committed : ∀ row ∈ log, Committed env row
  binding : ∀ row ∈ log, ∀ row', Committed env row' → row'.hash = row.hash → row' ≠ row →
    ∃ productId productId', HashCollision env (row.hashInput env.shard productId)
      (row'.hashInput env.shard productId')

/-- The link fields of a log row. -/
def logLinkage : Linkage LogRow Digest where
  seq := LogRow.seq
  prev := LogRow.prevHash
  hash := LogRow.hash

/-- Two rows with one hash are one row, or a collision. -/
theorem Committed.collision {env : Env} {row row' : LogRow} (hrow : Committed env row)
    (hrow' : Committed env row') (heq : row'.hash = row.hash) (hne : row' ≠ row) :
    ∃ productId productId', HashCollision env (row.hashInput env.shard productId)
      (row'.hashInput env.shard productId') := by
  obtain ⟨productId, hhash⟩ := hrow
  obtain ⟨productId', hhash'⟩ := hrow'
  refine ⟨productId, productId', ?_, hhash.symm.trans (heq.symm.trans hhash')⟩
  -- equal inputs agree in every field of the rows
  intro hinput
  apply hne
  cases row
  cases row'
  simp only [LogRow.hashInput, IssuanceHashInput.mk.injEq] at hinput
  simp only [LogRow.mk.injEq]
  tauto

variable {env : Env} {s s' : State} {input : IssueRequest} {now : ℤ}

/-- A call leaves the log, or appends the row that continues it. -/
theorem log_keyedStep (env : Env) (s : State) (c : KeyedCall) :
    (keyedStep env s c).log = s.log ∨
      ∃ row, (keyedStep env s c).log = s.log ++ [row] ∧ Committed env row ∧
        row.seq = logLinkage.lastSeq 0 s.log + 1 ∧
        row.prevHash = logLinkage.lastHash 0 s.log := by
  obtain ⟨secret, t, request⟩ := c
  cases request with
  | alarm sends => exact .inl rfl
  | sign input =>
    obtain ⟨answer, heq, -⟩ | ⟨row, -, -, heq⟩ | ⟨s', row, heq, hshard, hissues⟩ :=
      sign_cases (env.during secret) s input t
    · exact .inl (congrArg (·.1.log) heq)
    · exact .inl (congrArg (·.1.log) heq)
    · obtain ⟨kind, key, envelope, hlog⟩ := hissues.logged
      refine .inr ⟨_, (congrArg (·.1.log) heq).trans hlog, ⟨input.productId, ?_⟩, rfl, rfl⟩
      change input.shard = env.shard at hshard
      rw [← hshard]
      rfl

/-- The log of every reachable object is linked. -/
theorem exec_linked (env : Env) (calls : List KeyedCall) :
    Linked env (exec (keyedStep env) .new calls).log := by
  have hinv := exec_induction (keyedStep env)
    (I := fun s => logLinkage.Continues 0 0 s.log ∧ ∀ row ∈ s.log, Committed env row)
    (fun s c hs => by
      obtain hlog | ⟨row, hlog, hcommitted, hseq, hprev⟩ := log_keyedStep env s c
      · rwa [hlog]
      · rw [hlog]
        refine ⟨Linkage.continues_concat.2 ⟨hs.1, hseq, hprev⟩, ?_⟩
        intro row' hrow'
        rcases mem_append.1 hrow' with hold | hnew
        · exact hs.2 row' hold
        · rwa [mem_singleton.1 hnew])
    (s := State.new) ⟨trivial, by simp [State.new]⟩ calls
  exact ⟨hinv.1.map_seq, hinv.1.prev_head, hinv.1.isChain, hinv.2,
    fun row hrow _ hrow' => (hinv.2 row hrow).collision hrow'⟩

/-! ### The idempotency table -/

/-- The table holds the key in every state of the run. -/
def RetainedAlong (env : Env) (key : String) (s : State) (calls : List KeyedCall) : Prop :=
  ∀ before after, calls = before ++ after → ((exec (keyedStep env) s before).idem.find key).isSome

variable {row : IdemRow} {secret : Option EpochSecretPayload}

/-- A stored answer stays what it is until an alarm deletes it. -/
theorem find_keyedStep {key : String} (c : KeyedCall) (h : s.idem.find key = some row)
    (hkept : ((keyedStep env s c).idem.find key).isSome) :
    (keyedStep env s c).idem.find key = some row := by
  obtain ⟨secret, t, request⟩ := c
  cases request with
  | alarm sends =>
    change ((s.idem.deleteWhere _).find key).isSome at hkept
    change (s.idem.deleteWhere _).find key = some row
    rw [find_deleteWhere, h, Option.filter_some] at hkept ⊢
    split_ifs at hkept ⊢
    · rfl
    · cases hkept
  | sign input =>
    obtain ⟨answer, heq, -⟩ | ⟨row', -, -, heq⟩ | ⟨s', row', heq, -, hissues⟩ :=
      sign_cases (env.during secret) s input t
    · exact (congrArg (·.1.idem.find key) heq).trans h
    · exact (congrArg (·.1.idem.find key) heq).trans h
    · refine (congrArg (·.1.idem.find key) heq).trans ?_
      rw [find_insert hissues.stored]
      split_ifs with hkey
      · -- the table refuses a second row for the key
        rw [← hkey, find_eq_none_of_insert hissues.stored] at h
        cases h
      · exact h

theorem find_exec {key : String} (h : s.idem.find key = some row) {calls : List KeyedCall}
    (hkept : RetainedAlong env key s calls) :
    (exec (keyedStep env) s calls).idem.find key = some row := by
  induction calls generalizing s with
  | nil => exact h
  | cons c calls ih =>
    refine ih (find_keyedStep c h ?_) ?_
    · exact hkept [c] calls rfl
    · intro before after hsplit
      exact hkept (c :: before) after (by rw [hsplit, cons_append])

variable {status : ℕ} {resp : IssueResponse}

theorem find_of_issued (h : (sign (env.during secret) s input now).2 = .issued status resp) :
    ∃ row, (sign (env.during secret) s input now).1.idem.find input.idempotencyKey = some row ∧
      row.requestHash = env.requestHash input ∧ row.resp = resp := by
  obtain ⟨answer, heq, hne⟩ | ⟨row, hfind, hhash, heq⟩ | ⟨s', row, heq, -, hissues⟩ :=
    sign_cases (env.during secret) s input now
  · rw [heq] at h
    exact absurd h (hne status resp)
  · rw [heq] at h ⊢
    cases h
    exact ⟨row, hfind, hhash, rfl⟩
  · rw [heq] at h ⊢
    cases h
    refine ⟨row, ?_, hissues.requestHash_eq, rfl⟩
    rw [find_insert hissues.stored, if_pos hissues.key_eq]

/-- Whoever is answered with an artifact passed the checks that precede the table. -/
theorem valid_of_issued (h : (sign env s input now).2 = .issued status resp) :
    (∃ kind, validateIssueRequest env input = some kind) ∧ input.shard = env.shard := by
  unfold sign at h
  split at h
  · cases h
  next kind hkind =>
  split_ifs at h with hshard
  exact ⟨⟨kind, hkind⟩, not_not.1 hshard⟩

/-- Two requests that differ in more than their keys, with one request hash. -/
def RequestCollision (env : Env) (a b : IssueRequest) : Prop :=
  { a with idempotencyKey := b.idempotencyKey } ≠ b ∧ env.requestHash a = env.requestHash b

/-- For every run of sign requests and alarms, with any signing keys: the log is linked, and after
a request was answered with an artifact, for as long as its key is retained, the same request is
answered with the same artifact, any other request under the key is refused unless the two collide,
and neither changes the object. -/
theorem issuance_log_linked_and_idempotent (env : Env) (calls : List KeyedCall) :
    Linked env (exec (keyedStep env) .new calls).log ∧ ∀ secret now input status resp later,
        (sign (env.during secret) (exec (keyedStep env) .new calls) input now).2 =
            .issued status resp →
        let s := exec (keyedStep env) .new (calls ++ [⟨secret, now, .sign input⟩])
        RetainedAlong env input.idempotencyKey s later →
        ∀ secret' now', let s' := exec (keyedStep env) s later
          sign (env.during secret') s' input now' = (s', .issued 200 resp) ∧
            ∀ input', input'.idempotencyKey = input.idempotencyKey → input' ≠ input →
              ¬ RequestCollision env input' input →
              ∃ status code,
                sign (env.during secret') s' input' now' = (s', .error status code) := by
  refine ⟨exec_linked env calls, ?_⟩
  intro secret now input status resp later hissued s hretained secret' now' s'
  obtain ⟨row, hfind, hrow, rfl⟩ := find_of_issued hissued
  obtain ⟨⟨kind, hkind⟩, hshard⟩ := valid_of_issued hissued
  have hs : s = (sign (env.during secret) (exec (keyedStep env) .new calls) input now).1 :=
    exec_append (keyedStep env) .new calls [⟨secret, now, .sign input⟩]
  have hfind' : s'.idem.find input.idempotencyKey = some row := find_exec (hs ▸ hfind) hretained
  constructor
  · -- a stored answer is replayed to its own request
    have hkind' : validateIssueRequest (env.during secret') input = some kind := hkind
    have hshard' : ¬ input.shard ≠ (env.during secret').shard := not_not.2 hshard
    have hrow' : row.requestHash = (env.during secret').requestHash input := hrow
    simp [sign, hkind', if_neg hshard', hfind', if_pos hrow']
  intro input' hkey hne hfree
  -- and makes every other request under its key fail
  have hother : row.requestHash ≠ (env.during secret').requestHash input' := by
    intro heq
    refine hfree ⟨?_, heq.symm.trans hrow⟩
    rw [← hkey]
    exact hne
  unfold sign
  split
  · exact ⟨_, _, rfl⟩
  split
  · exact ⟨_, _, rfl⟩
  simp only [hkey ▸ hfind', if_neg hother]
  exact ⟨_, _, rfl⟩

/-- The object of the shard that license `1` is routed to. -/
def batchIssuer : Env where
  primitives := .permissive Tbs
  shard := issuerShard (ByteId.toBytes (1 : LicenseId))
  testEnvironment := false
  secret := none
  tbsSize _ := 100
  requestHash input := BitVec.ofNat _ input.subject.length
  envelopeSize _ := 200
  envelopeDigest _ := 0
  issuanceHash input := BitVec.ofNat _ input.seq

def batchSecret : EpochSecretPayload where
  schemaVersion := 1
  epochId := some 5
  suiteId := some clStd1SuiteId
  signingKey := replicate 64 0

/-- A request to sign the batch that revokes license `1`. -/
def batchRequest : IssueRequest where
  idempotencyKey := "revocation-1"
  shard := issuerShard (ByteId.toBytes (1 : LicenseId))
  routingKey := ByteId.toBytes (1 : LicenseId)
  kind := some .revocationBatch
  productId := "app"
  subject := ByteId.toBytes (1 : LicenseId)
  tbs := .revocationBatch
    { protoVer := 1, suiteId := clStd1SuiteId, issuedAt := 1000, fromEpoch := 1, toEpoch := 1,
      revokedLicenseIds := [1], revokedMachineIds := [], revokedEpochIds := [] }

/-- The request is signed, and signed again with the key unavailable it is answered alike. -/
theorem signed_batch_is_replayed :
    ∃ resp, (sign (batchIssuer.during (some batchSecret)) .new batchRequest 1000).2 =
        .issued 201 resp ∧
      (sign (batchIssuer.during none)
        (exec (keyedStep batchIssuer) .new [⟨some batchSecret, 1000, .sign batchRequest⟩])
        batchRequest 2000).2 = .issued 200 resp := by
  obtain ⟨resp, hissued⟩ : ∃ resp,
      (sign (batchIssuer.during (some batchSecret)) .new batchRequest 1000).2 =
        .issued 201 resp := ⟨_, rfl⟩
  have hretained : RetainedAlong batchIssuer "revocation-1"
      (exec (keyedStep batchIssuer) .new [⟨some batchSecret, 1000, .sign batchRequest⟩]) [] := by
    intro before after hsplit
    obtain ⟨rfl, -⟩ := append_eq_nil_iff.1 hsplit.symm
    rfl
  have hreplayed := ((issuance_log_linked_and_idempotent batchIssuer []).2 (some batchSecret) 1000
    batchRequest 201 resp [] hissued hretained none 2000).1
  exact ⟨resp, hissued, congrArg Prod.snd hreplayed⟩

end CopyLocker.Worker.IssuerDO
