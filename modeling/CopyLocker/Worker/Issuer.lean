import CopyLocker.Worker.Database

/-!
# The issuer

The durable object that signs with the epoch's hybrid key (`durable/issuer.rs`). A sign request is
validated, answered from the idempotency table when it was served before, and otherwise signed and
appended to the hash-chained issuance log. A request is one step here. The object waits once, for
the signing key, and repeats its look-up afterwards, so a request that was not answered before the
wait does what it would do when taken alone at the second look-up.

Hashes and encoded lengths are fields of the environment. Of the audit event only the fields that
its validity test reads are kept; its object key in the archive is left out.

## Main results

* `hybridSigned_of_sign`: an object whose stored answers are hybrid-signed gives no others.
-/

namespace CopyLocker.Worker

open Foundation Saturating Suite Proto

/-- The suite of the registered epoch keys. -/
def clStd1SuiteId : SuiteId := 0x01000001

/-- The synthetic suite of test deployments. -/
def testSuiteId : SuiteId := 0x02000001

namespace IssuerDO

/-! ### Requests -/

def issuerShards : ℕ := 8

/-- The shard of a routing key: FNV-1a. -/
def issuerShard (routingKey : Bytes) : ℕ :=
  (routingKey.foldl (fun hash byte => (hash ^^^ byte.toUInt64) * 0x00000100000001b3)
    (0xcbf29ce484222325 : UInt64)).toNat % issuerShards

/-- The parsed secret of the epoch key; an identifier is `none` for a wrong length. -/
structure EpochSecretPayload where
  schemaVersion : ℕ
  epochId : Option EpochId
  suiteId : Option SuiteId
  signingKey : Bytes
  deriving DecidableEq

/-- The signing key of an epoch. -/
structure EpochKey where
  epochId : EpochId
  suiteId : SuiteId
  signingKey : HybridSigningKey

def epochSecretSchemaVersion : ℕ := 1

/-- Read the key from the secret store. -/
def parseEpochSecret (P : Primitives Tbs) (payload : EpochSecretPayload) : Option EpochKey :=
  if payload.schemaVersion ≠ epochSecretSchemaVersion then none
  else if payload.suiteId ≠ some clStd1SuiteId then none
  else
    match payload.epochId, (hybridSig P).decodeSk payload.signingKey with
    | some epochId, .ok signingKey => some { epochId, suiteId := clStd1SuiteId, signingKey }
    | _, _ => none

/-- A sign request; `kind` is `none` for an unknown code. -/
structure IssueRequest where
  idempotencyKey : String
  shard : ℕ
  routingKey : Bytes
  kind : Option ArtifactKind
  productId : ProductId
  subject : Bytes
  tbs : Tbs

/-- The inputs of a row's hash. -/
structure IssuanceHashInput where
  shard : ℕ
  seq : ℕ
  occurredAt : ℤ
  kind : ArtifactKind
  productId : ProductId
  subject : Bytes
  epochId : EpochId
  digest : Digest
  prevHash : Digest

/-- What surrounds one object. -/
structure Env where
  primitives : Primitives Tbs
  shard : ℕ
  testEnvironment : Bool
  secret : Option EpochSecretPayload
  tbsSize : Tbs → ℕ
  requestHash : IssueRequest → Digest
  envelopeSize : Envelope → ℕ
  envelopeDigest : Envelope → Digest
  issuanceHash : IssuanceHashInput → Digest

def maxTbsSize : ℕ := 1024 * 1024

/-- The artifacts that the object signs. -/
def isIssuableKind : ArtifactKind → Bool
  | .machineCred | .validationTicket | .killOrder | .revocationBatch | .offlineLicenseKey
  | .activationResponse => true
  | _ => false

/-- The same test as the license object's. -/
def isProductId (value : String) : Bool := LicenseDO.isProductId value

/-- A visible ASCII character. -/
def isAsciiGraphic (c : Char) : Bool := decide ('!' ≤ c) && decide (c ≤ '~')

/-- The request is well formed; its kind. -/
def validateIssueRequest (env : Env) (input : IssueRequest) : Option ArtifactKind :=
  input.kind.filter fun kind =>
    !input.idempotencyKey.isEmpty && decide (input.idempotencyKey.utf8ByteSize ≤ 128) &&
      input.idempotencyKey.toList.all isAsciiGraphic &&
      decide (input.routingKey.length = 16) &&
      decide (issuerShard input.routingKey = input.shard) &&
      isIssuableKind kind && isProductId input.productId &&
      !input.subject.isEmpty && decide (input.subject.length ≤ 64) &&
      decide (0 < env.tbsSize input.tbs) && decide (env.tbsSize input.tbs ≤ maxTbsSize)

/-- The suites that the key may sign under. -/
def supportedSuite (env : Env) (key : EpochKey) (suiteId : SuiteId) : Option SuiteId :=
  if suiteId = key.suiteId ∨ (env.testEnvironment ∧ suiteId = testSuiteId) then some suiteId
  else none

/-- Read the body as an artifact. -/
def readTbs (α : Type) [Artifact α] (tbs : Tbs) : Option α :=
  match (Artifact.fromCanonical tbs : Except CodecError α) with
  | .ok a => some a
  | .error _ => none

/-- A machine credential of the request's license and product, under the key's epoch. -/
def credentialMatches (input : IssueRequest) (key : EpochKey) (a : MachineCredential) : Bool :=
  a.epochId == key.epochId && a.productId == input.productId &&
    ByteId.toBytes a.licenseId == input.routingKey && ByteId.toBytes a.licenseId == input.subject

/-- Whether the body may be signed, and under which suite. -/
def validateTbs (env : Env) (input : IssueRequest) (kind : ArtifactKind) (key : EpochKey) :
    Option SuiteId :=
  let supported := supportedSuite env key
  match kind with
  | .machineCred =>
    ((readTbs MachineCredential input.tbs).filter (credentialMatches input key)).bind fun a =>
      supported a.suiteId
  | .validationTicket =>
    ((readTbs ValidationTicket input.tbs).filter fun a =>
      a.epochId == key.epochId && ByteId.toBytes a.machineId == input.subject).bind fun a =>
        supported a.suiteId
  | .killOrder =>
    -- a kill order names no epoch, so nothing ties it to the key's
    ((readTbs KillOrder input.tbs).filter fun a =>
      ByteId.toBytes a.machineId == input.subject).bind fun a => supported a.suiteId
  | .revocationBatch =>
    ((readTbs RevocationBatch input.tbs).filter fun batch =>
      batch.protoVer == Proto.protoVer && decide (0 < batch.fromEpoch) &&
        decide (batch.fromEpoch ≤ batch.toEpoch) &&
        (batch.revokedLicenseIds.any (fun id => ByteId.toBytes id == input.subject) ||
          batch.revokedMachineIds.any (fun id => ByteId.toBytes id == input.subject) ||
          batch.revokedEpochIds.any fun id => ByteId.toBytes id == input.subject)).bind fun a =>
        supported a.suiteId
  | .offlineLicenseKey =>
    ((readTbs OfflineLicenseKey input.tbs).filter fun a =>
      a.epochId == key.epochId && a.productId == input.productId &&
        ByteId.toBytes a.licenseId == input.routingKey &&
        ByteId.toBytes a.licenseId == input.subject).bind fun a => supported a.suiteId
  | .activationResponse =>
    (readTbs ActivationResponse input.tbs).bind fun response =>
      (supported response.suiteId).filter fun suite =>
        match response.credential.decoded.bind (·.peekUnverified MachineCredential) with
        | .ok credential => credential.suiteId == suite && credentialMatches input key credential
        | .error _ => false
  | _ => none

/-- The signed envelope. -/
def signEnvelope (env : Env) (input : IssueRequest) (kind : ArtifactKind) (key : EpochKey)
    (suiteId : SuiteId) : Except CryptoError Envelope := do
  let sig ← (hybridSig env.primitives).sign key.signingKey
    { kind, suiteId, productId := input.productId } input.tbs
  return {
    protoVer := Proto.protoVer, suiteId, kind, tbs := input.tbs, sig, epochRef := some key.epochId }

/-! ### The object -/

/-- A row of `issuance_log`. -/
structure LogRow where
  seq : ℕ
  ts : ℤ
  kind : ArtifactKind
  subject : Bytes
  epochId : EpochId
  digest : Digest
  prevHash : Digest
  hash : Digest
  deriving DecidableEq

/-- The answer to a request. -/
structure IssueResponse where
  seq : ℕ
  epochId : EpochId
  envelope : Envelope
  digest : Digest
  prevHash : Digest
  hash : Digest

/-- The archived copy of a log row. -/
structure AuditArchiveEvent where
  shard : ℕ
  productId : ProductId
  row : LogRow
  envelope : Envelope

/-- An event for the archive, and when it was sent. -/
structure OutboxRow where
  event : AuditArchiveEvent
  sentAt : Option ℤ

/-- A row of `idem`. -/
structure IdemRow where
  key : String
  requestHash : Digest
  resp : IssueResponse
  createdAt : ℤ

/-- The tables of the object. -/
structure State where
  log : List LogRow
  outbox : List OutboxRow
  idem : Table IdemRow.key

def State.new : State := { log := [], outbox := [], idem := .empty }

/-- Why a request is refused. -/
inductive ErrorCode
  | invalidRequest
  | wrongIssuerShard
  | idempotencyConflict
  | issuerUnavailable
  | invalidArtifact
  deriving DecidableEq

/-- The answer to a call; a fault is an internal error. -/
inductive Answer
  | issued (status : ℕ) (resp : IssueResponse)
  | error (status : ℕ) (code : ErrorCode)
  | fault
  | done

def maxAuditEnvelope : ℕ := 2 * 1024 * 1024

/-- The position of a row in the index over all shards. -/
def auditIndexSeq (shard seq : ℕ) : Option ℕ :=
  if shard ≥ issuerShards ∨ seq = 0 then none
  else some ((seq - 1) * issuerShards + shard + 1) |>.filter fun v => (v : ℤ) ≤ maxSafeInteger

/-- The validity test of an archive event that the object itself generated. -/
def AuditArchiveEvent.isValid (env : Env) (e : AuditArchiveEvent) : Bool :=
  decide (e.shard < issuerShards) && decide (1 ≤ e.row.seq) &&
    decide ((e.row.seq : ℤ) ≤ maxSafeInteger) && decide (0 ≤ e.row.ts) &&
    decide (e.row.ts ≤ maxSafeInteger) && isIssuableKind e.row.kind && isProductId e.productId &&
    !e.row.subject.isEmpty && decide (e.row.subject.length ≤ 64) &&
    decide (0 < env.envelopeSize e.envelope) &&
    decide (env.envelopeSize e.envelope ≤ maxAuditEnvelope) &&
    decide (env.envelopeDigest e.envelope = e.row.digest) &&
    decide (env.issuanceHash
      { shard := e.shard, seq := e.row.seq, occurredAt := e.row.ts, kind := e.row.kind,
        productId := e.productId, subject := e.row.subject, epochId := e.row.epochId,
        digest := e.row.digest, prevHash := e.row.prevHash } = e.row.hash) &&
    (auditIndexSeq e.shard e.row.seq).isSome

/-- The log row of an envelope, linked to the last one. -/
def nextRow (env : Env) (s : State) (input : IssueRequest) (kind : ArtifactKind) (key : EpochKey)
    (envelope : Envelope) (now : ℤ) : LogRow :=
  let seq := (s.log.getLast?.map (·.seq)).getD 0 + 1
  let prevHash := (s.log.getLast?.map (·.hash)).getD 0
  let digest := env.envelopeDigest envelope
  { seq
    ts := now
    kind
    subject := input.subject
    epochId := key.epochId
    digest
    prevHash
    hash := env.issuanceHash
      { shard := input.shard, seq, occurredAt := now, kind, productId := input.productId,
        subject := input.subject, epochId := key.epochId, digest, prevHash } }

/-- Append the envelope to the log, the outbox and the idempotency table, in one write. -/
def appendIssuance (env : Env) (s : State) (input : IssueRequest) (kind : ArtifactKind)
    (key : EpochKey) (envelope : Envelope) (now : ℤ) : Option (State × IssueResponse) := do
  let row := nextRow env s input kind key envelope now
  let event : AuditArchiveEvent :=
    { shard := input.shard, productId := input.productId, row, envelope }
  if event.isValid env then
    let resp : IssueResponse :=
      { seq := row.seq, epochId := row.epochId, envelope, digest := row.digest,
        prevHash := row.prevHash, hash := row.hash }
    let idem ← s.idem.insert
      { key := input.idempotencyKey, requestHash := env.requestHash input, resp, createdAt := now }
    some ({ log := s.log ++ [row], outbox := s.outbox ++ [{ event, sentAt := none }], idem }, resp)
  else none

/-- Sign one artifact, or answer a repeated request as before. -/
def sign (env : Env) (s : State) (input : IssueRequest) (now : ℤ) : State × Answer :=
  match validateIssueRequest env input with
  | none => (s, .error 400 .invalidRequest)
  | some kind =>
    if input.shard ≠ env.shard then (s, .error 409 .wrongIssuerShard)
    else
      match s.idem.find input.idempotencyKey with
      | some row =>
        if row.requestHash = env.requestHash input then (s, .issued 200 row.resp)
        else (s, .error 409 .idempotencyConflict)
      | none =>
        match env.secret.bind (parseEpochSecret env.primitives) with
        | none => (s, .error 503 .issuerUnavailable)
        | some key =>
          match validateTbs env input kind key with
          | none => (s, .error 400 .invalidArtifact)
          | some suiteId =>
            match signEnvelope env input kind key suiteId with
            | .error _ => (s, .error 503 .issuerUnavailable)
            | .ok envelope =>
              match appendIssuance env s input kind key envelope now with
              | none => (s, .fault)
              | some (s, resp) => (s, .issued 201 resp)

def idempotencyTtlSecs : ℤ := 24 * 60 * 60

def sentOutboxTtlSecs : ℤ := 7 * 24 * 60 * 60

/-- The alarm: old answers and sent events go, and the first `sends` unsent events are sent. -/
def alarm (s : State) (sends : ℕ) (now : ℤ) : State :=
  let kept := s.outbox.filter fun row =>
    !row.sentAt.any fun t => decide (t ≤ signedSub 64 now sentOutboxTtlSecs)
  let (outbox, _) := kept.foldl (fun (acc : List OutboxRow × ℕ) row =>
    if row.sentAt.isNone ∧ 0 < acc.2 then (acc.1 ++ [{ row with sentAt := some now }], acc.2 - 1)
    else (acc.1 ++ [row], acc.2)) ([], sends)
  { s with
    outbox
    idem := s.idem.deleteWhere fun row =>
      decide (row.createdAt ≤ signedSub 64 now idempotencyTtlSecs) }

/-- The requests of the object. -/
inductive Request
  | sign (input : IssueRequest)
  | alarm (sends : ℕ)

structure Call where
  now : ℤ
  request : Request

/-- The state after a call. -/
def step (env : Env) (s : State) (c : Call) : State :=
  match c.request with
  | .sign input => (sign env s input c.now).1
  | .alarm sends => alarm s sends c.now

/-! ### What the object signs -/

/-- Some hybrid key made the envelope's signature. -/
def HybridSigned (P : Primitives Tbs) (envelope : Envelope) : Prop :=
  ∃ sk ctx, hybridSign P sk ctx envelope.tbs = .ok envelope.sig

/-- All stored answers are hybrid-signed. -/
def State.WellSigned (P : Primitives Tbs) (s : State) : Prop :=
  ∀ row ∈ s.idem.rows, HybridSigned P row.resp.envelope

variable {env : Env} {s s' : State} {input : IssueRequest} {now : ℤ} {kind : ArtifactKind}
  {key : EpochKey} {envelope : Envelope}

theorem hybridSigned_signEnvelope {suiteId : SuiteId}
    (h : signEnvelope env input kind key suiteId = .ok envelope) :
    HybridSigned env.primitives envelope := by
  have hsign : hybridSign env.primitives key.signingKey
      { kind, suiteId, productId := input.productId } input.tbs = .ok envelope.sig ∧
      envelope.tbs = input.tbs := by
    unfold signEnvelope at h
    cases hsig : (hybridSig env.primitives).sign key.signingKey
        { kind, suiteId, productId := input.productId } input.tbs with
    | error e =>
      rw [hsig] at h
      cases h
    | ok sig =>
      rw [hsig] at h
      cases h
      exact ⟨hsig, rfl⟩
  exact ⟨key.signingKey, _, hsign.2 ▸ hsign.1⟩

/-- What a request that is served anew does to the object: `row` is the stored answer. -/
structure Issues (env : Env) (s : State) (input : IssueRequest) (now : ℤ) (s' : State)
    (row : IdemRow) : Prop where
  key_eq : row.key = input.idempotencyKey
  requestHash_eq : row.requestHash = env.requestHash input
  stored : s.idem.insert row = some s'.idem
  logged : ∃ kind key envelope, s'.log = s.log ++ [nextRow env s input kind key envelope now]
  signed : HybridSigned env.primitives row.resp.envelope

private theorem issues_of_appendIssuance
    {resp : IssueResponse} (hsigned : HybridSigned env.primitives envelope)
    (h : appendIssuance env s input kind key envelope now = some (s', resp)) :
    ∃ row, row.resp = resp ∧ Issues env s input now s' row := by
  unfold appendIssuance at h
  simp only at h
  split_ifs at h
  obtain ⟨idem, hins, h⟩ := Option.bind_eq_some_iff.1 h
  cases h
  exact ⟨_, rfl, rfl, rfl, hins, ⟨kind, key, envelope, rfl⟩, hsigned⟩

/-- A sign request is refused, replays the answer stored for it, or is served anew. -/
theorem sign_cases (env : Env) (s : State) (input : IssueRequest) (now : ℤ) :
    (∃ answer, sign env s input now = (s, answer) ∧ ∀ status resp, answer ≠ .issued status resp) ∨
      (∃ row, s.idem.find input.idempotencyKey = some row ∧
        row.requestHash = env.requestHash input ∧
        sign env s input now = (s, .issued 200 row.resp)) ∨
      ∃ s' row, sign env s input now = (s', .issued 201 row.resp) ∧ input.shard = env.shard ∧
        Issues env s input now s' row := by
  fun_cases sign env s input now with
  | case3 _ _ _ row hfind hhash => exact .inr (.inl ⟨row, hfind, hhash, rfl⟩)
  | case9 _ _ hshard _ _ _ _ _ envelope hsign s' resp happend =>
    obtain ⟨row, rfl, hissues⟩ := issues_of_appendIssuance (hybridSigned_signEnvelope hsign) happend
    exact .inr (.inr ⟨s', row, rfl, not_not.1 hshard, hissues⟩)
  | _ => exact .inl ⟨_, rfl, by simp⟩

/-- A well signed object answers with hybrid-signed envelopes only. -/
theorem hybridSigned_of_sign (hs : s.WellSigned env.primitives) {status : ℕ}
    {resp : IssueResponse} (h : (sign env s input now).2 = .issued status resp) :
    HybridSigned env.primitives resp.envelope := by
  obtain ⟨answer, heq, hne⟩ | ⟨row, hfind, -, heq⟩ | ⟨s', row, heq, -, hissues⟩ :=
    sign_cases env s input now
  · rw [heq] at h
    exact absurd h (hne status resp)
  · rw [heq] at h
    cases h
    exact hs row (Table.find_eq_some_iff.1 hfind).1
  · rw [heq] at h
    cases h
    exact hissues.signed

theorem step_wellSigned (hs : s.WellSigned env.primitives) (c : Call) :
    (step env s c).WellSigned env.primitives := by
  unfold step
  cases c.request with
  | sign input =>
    obtain ⟨answer, heq, -⟩ | ⟨row, -, -, heq⟩ | ⟨s', row, heq, -, hissues⟩ :=
      sign_cases env s input c.now
    · simpa only [heq] using hs
    · simpa only [heq] using hs
    · intro row' hrow'
      simp only [heq, Table.insert_rows hissues.stored, List.mem_append,
        List.mem_singleton] at hrow'
      rcases hrow' with hold | rfl
      · exact hs row' hold
      · exact hissues.signed
  | alarm sends =>
    -- the alarm only deletes stored answers
    intro row hrow
    exact hs row (Table.mem_deleteWhere.1 hrow).1

end IssuerDO

end CopyLocker.Worker
