import CopyLocker.Worker.IssuanceLog
import CopyLocker.Worker.Registry

/-!
# The worker as a whole

The registry, the objects of all licenses and the issuers, and the two ways in which a request
handler of the worker has an artifact signed: by the fast key of the signing epoch, which the
worker reads from the secrets store itself (`bindings/signing.rs`), or by an issuer
(`issue_artifact` in `router.rs`).

A handler yields at every call to an object or to D1, so what the rest of the worker does in the
meantime comes as a list of `ServiceStep` between two of its calls. Nothing is assumed about
those steps: they are any requests with any contents.

## Main results

* `exec_issuersWellSigned`: the issuers of every reachable service are well signed.
* `exec_registered`: a registered certificate stays registered.
-/

namespace CopyLocker.Worker

open Foundation Run Suite Proto

variable {productId : ProductId} {suiteId : SuiteId} {envelope : Envelope} {now : ℤ}

/-- The parsed secret of the fast key has the fields of that of the epoch key. -/
abbrev FastSecretPayload := IssuerDO.EpochSecretPayload

/-- What surrounds the worker. The fast secret is `none` when it is missing or does not parse. -/
structure ServiceEnv where
  issuer : IssuerDO.Env
  license : LicenseDO.Env
  sha256 : Bytes → Digest
  fastSecret : Option FastSecretPayload

def ServiceEnv.primitives (env : ServiceEnv) : Primitives Tbs := env.issuer.primitives

def ServiceEnv.issuerAt (env : ServiceEnv) (shard : ℕ) : IssuerDO.Env := { env.issuer with shard }

def ServiceEnv.licenseAt (env : ServiceEnv) (owner : LicenseId) : LicenseDO.Env :=
  { env.license with owner }

/-- The database's tables and the objects. -/
structure Service where
  registry : Registry
  licenses : LicenseId → LicenseDO.State
  issuers : ℕ → IssuerDO.State

/-- A step of one of them. -/
inductive ServiceStep
  | registry (step : RegistryStep)
  | license (id : LicenseId) (call : LicenseDO.Call)
  | issuer (shard : ℕ) (call : IssuerDO.Call)

namespace Service

/-- Nothing has been stored yet. -/
def new : Service :=
  { registry := .new, licenses := fun _ => .new, issuers := fun _ => .new }

def setLicense (w : Service) (id : LicenseId) (s : LicenseDO.State) : Service :=
  { w with licenses := fun id' => if id' = id then s else w.licenses id' }

def setIssuer (w : Service) (shard : ℕ) (s : IssuerDO.State) : Service :=
  { w with issuers := fun shard' => if shard' = shard then s else w.issuers shard' }

/-- One request to one part of the service. -/
def step (env : ServiceEnv) (w : Service) : ServiceStep → Service
  | .registry step => { w with registry := w.registry.step env.primitives env.sha256 step }
  | .license id call => w.setLicense id (LicenseDO.step (env.licenseAt id) (w.licenses id) call)
  | .issuer shard call =>
    w.setIssuer shard (IssuerDO.step (env.issuerAt shard) (w.issuers shard) call)

/-- A call to the object of a license, with its answer. -/
def callLicense (env : ServiceEnv) (w : Service) (id : LicenseId) (request : LicenseDO.Request)
    (now : ℤ) : Service × LicenseDO.Response :=
  let (s, response) := LicenseDO.handle (env.licenseAt id) (w.licenses id) now request
  (w.setLicense id s, response)

end Service

/-! ### The fast key -/

/-- The classical key of an epoch. -/
structure FastEpochSigner where
  epochId : EpochId
  signingKey : ByteArr 32
  deriving DecidableEq

def fastSecretSchemaVersion : ℕ := 1

/-- The signer of the secret, if the secret is the one of the expected epoch. -/
def parseSecret (P : Primitives Tbs) (payload : FastSecretPayload) (expected : SigningEpoch) :
    Except String FastEpochSigner :=
  if payload.schemaVersion = fastSecretSchemaVersion ∧ payload.epochId = some expected.epochId ∧
      payload.suiteId = some clStd1SuiteId then
    match (fastSig P).decodeSk payload.signingKey with
    | .error _ => .error "fast epoch signing key is invalid"
    | .ok signingKey =>
      if (fastSig P).encodeVk ((fastSig P).verifyingKey signingKey) ≠ expected.fastVerifyingKey then
        .error "fast epoch signing key does not match the registered public key"
      else .ok { epochId := expected.epochId, signingKey }
  else .error "fast epoch signing key metadata does not match D1"

/-- Seal an artifact with the fast epoch key. -/
def sealFast {α : Type} [Artifact α] (P : Primitives Tbs) (signer : FastEpochSigner) (artifact : α)
    (productId : ProductId) (suiteId : SuiteId) : Except String Envelope :=
  match EnvelopeOf.sealArtifact (fastSig P) artifact suiteId productId (some signer.epochId)
      signer.signingKey with
  | .error _ => .error "fast artifact signing failed"
  | .ok envelope => .ok envelope

/-! ### The issuers -/

/-- The code of a kind on the wire. -/
def artifactKindCode : ArtifactKind → ℕ
  | .epochCert => 1
  | .machineCred => 2
  | .validationTicket => 3
  | .killOrder => 4
  | .revocationBatch => 5
  | .offlineLicenseKey => 6
  | .integrityManifest => 7
  | .activationRequest => 8
  | .activationResponse => 9
  | .validateRequest => 10
  | .heartbeatRequest => 11
  | .deactivateRequest => 12

/-- Have an issuer sign an artifact of a license. An issuer that refuses is an internal error. -/
def issueArtifact (env : ServiceEnv) (w : Service) (licenseId : LicenseId) (productId : ProductId)
    (subject : Bytes) (kind : ArtifactKind) (tbs : Tbs) (now : ℤ) :
    Service × Except String Envelope :=
  let routingKey := ByteId.toBytes licenseId
  let shard := IssuerDO.issuerShard routingKey
  let call : IssuerDO.IssueRequest :=
    { idempotencyKey := "issue-" ++ toString (artifactKindCode kind) ++ "-" ++
        hexEncode (ByteId.toBytes (env.primitives.digest tbs))
      shard, routingKey, kind := some kind, productId, subject, tbs }
  let (s, answer) := IssuerDO.sign (env.issuerAt shard) (w.issuers shard) call now
  let w := w.setIssuer shard s
  match answer with
  | .issued _ resp => (w, .ok resp.envelope)
  | _ => (w, .error "IssuerDO rejected artifact signing")

/-- How a policy has its tickets and kill orders signed. -/
inductive VtSignature
  | fast
  | pq
  deriving DecidableEq

/-- Sign the answer to a validation in the form that the policy asks for. -/
def signOnlineArtifact {α : Type} [Artifact α] (env : ServiceEnv) (w : Service)
    (vtSignature : VtSignature) (licenseId : LicenseId) (productId : ProductId)
    (epoch : SigningEpoch) (machineId : MachineId) (artifact : α) (suiteId : SuiteId) (now : ℤ) :
    Service × Except String Envelope :=
  match vtSignature with
  | .fast =>
    (w, match env.fastSecret with
      | none => .error "fast epoch signing key is not configured"
      | some payload =>
        (parseSecret env.primitives payload epoch).bind fun signer =>
          sealFast env.primitives signer artifact productId suiteId)
  | .pq =>
    issueArtifact env w licenseId productId (ByteId.toBytes machineId) (Artifact.kind α)
      (Artifact.toCanonical artifact) now

/-! ### Over whole runs -/

/-- Every issuer has stored hybrid-signed answers only. -/
def Service.IssuersWellSigned (env : ServiceEnv) (w : Service) : Prop :=
  ∀ shard, (w.issuers shard).WellSigned env.primitives

/-- The certificate of an epoch is registered. -/
def Service.Registered (w : Service) (id : EpochId) (cert : EpochCert) : Prop :=
  ∃ row, w.registry.epochs.find id = some row ∧ row.cert = cert

variable (env : ServiceEnv)

private theorem step_issuersWellSigned (w : Service) (e : ServiceStep)
    (hw : w.IssuersWellSigned env) : (w.step env e).IssuersWellSigned env := by
  intro shard
  cases e with
  | registry step => exact hw shard
  | license id call => exact hw shard
  | issuer shard' call =>
    simp only [Service.step, Service.setIssuer]
    split_ifs with h
    · have hshard : (w.issuers shard').WellSigned (env.issuerAt shard').primitives := hw shard'
      exact IssuerDO.step_wellSigned hshard call
    · exact hw shard

variable {w : Service}

theorem exec_issuersWellSigned (hw : w.IssuersWellSigned env)
    (steps : List ServiceStep) : (exec (Service.step env) w steps).IssuersWellSigned env :=
  exec_induction _ (fun w e h => step_issuersWellSigned env w e h) hw steps

/-- Certificates are never replaced: a registry step adds rows or marks them revoked. -/
theorem Registry.step_registered (P : Primitives Tbs) (sha256 : Bytes → Digest) (s : Registry)
    (e : RegistryStep) {id : EpochId} {row : EpochRow} (h : s.epochs.find id = some row) :
    ∃ row', (s.step P sha256 e).epochs.find id = some row' ∧ row'.cert = row.cert := by
  cases e with
  | upload certificate rootBytes =>
    simp only [Registry.step]
    cases hupload : s.upload P sha256 certificate rootBytes with
    | none => exact ⟨row, h, rfl⟩
    | some s' =>
    obtain ⟨parsed, epochs, hinsert, rfl⟩ := Registry.upload_eq_some hupload
    -- the new row has another id, because the id of `row` is taken
    have hne : EpochRow.id { parsed with revokedAt := none } ≠ id := by
      rintro rfl
      have hnone := Table.insert_eq_none_iff.2 (h ▸ Option.some_ne_none row)
      rw [hnone] at hinsert
      cases hinsert
    exact ⟨row, by rw [Option.getD_some, Table.find_insert hinsert, if_neg hne, h], rfl⟩
  | revokeEpoch id' seq actor requestId now =>
    simp only [Registry.step, Registry.revokeEpoch]
    split
    · exact ⟨row, h, rfl⟩
    split
    · exact ⟨row, h, rfl⟩
    · have hfind := Table.find_updateWhere s.epochs (fun r => r.id == id' && r.revokedAt.isNone)
        (fun r => { r with revokedAt := some now }) (fun _ => rfl) id
      rw [h, Option.map_some] at hfind
      refine ⟨_, hfind, ?_⟩
      split_ifs <;> rfl
  | raiseFloor | writeKeyset =>
    simp only [Registry.step]
    split <;> exact ⟨row, h, rfl⟩
  | _ => exact ⟨row, h, rfl⟩

theorem exec_registered {id : EpochId} {cert : EpochCert}
    (hw : w.Registered id cert) (steps : List ServiceStep) :
    (exec (Service.step env) w steps).Registered id cert := by
  refine exec_induction (I := fun w : Service => w.Registered id cert) _ (fun w e hw => ?_) hw steps
  obtain ⟨row, hrow, rfl⟩ := hw
  cases e with
  | registry step => exact Registry.step_registered _ _ _ step hrow
  | license id call => exact ⟨row, hrow, rfl⟩
  | issuer shard call => exact ⟨row, hrow, rfl⟩

/-! ### What the two keys sign -/

variable {env : ServiceEnv} {w' : Service} {licenseId : LicenseId}

section Keys

variable {P : Primitives Tbs} {payload : FastSecretPayload} {epoch : SigningEpoch}
  {signer : FastEpochSigner}

/-- The fast signer has the key that is registered for the expected epoch. -/
theorem parseSecret_eq_ok (h : parseSecret P payload epoch = .ok signer) :
    signer.epochId = epoch.epochId ∧
      (fastSig P).encodeVk (P.edVerifyingKey signer.signingKey) = epoch.fastVerifyingKey := by
  unfold parseSecret at h
  split_ifs at h
  split at h
  · cases h
  · split_ifs at h with hkey
    cases h
    exact ⟨rfl, not_not.1 hkey⟩

/-- An envelope sealed with the fast key verifies under every chain that holds the certificate of
the key's epoch. -/
theorem verifyArtifactFast_sealFast {α : Type} [Artifact α] {artifact : α} (hP : P.Correct)
    (hsigner : parseSecret P payload epoch = .ok signer)
    (hseal : sealFast P signer artifact productId suiteId = .ok envelope) {S : SignatureScheme Tbs}
    {chain : VerifiedChain S} {e : VerifiedEpoch S} (he : chain.signer envelope now = .ok e)
    (hkey : e.cert.vkFast = epoch.fastVerifyingKey) :
    chain.verifyArtifactFast α (fastSig P) envelope productId now = .ok artifact := by
  obtain ⟨-, hencoded⟩ := parseSecret_eq_ok hsigner
  have hvk : (fastSig P).decodeVk e.cert.vkFast = .ok (P.edVerifyingKey signer.signingKey) := by
    rw [hkey, ← hencoded]
    simp [fastSig, ByteArr.fromSlice_val, hP.ed_decode_encode]
  rw [VerifiedChain.verifyArtifactFast_eq_ok he hvk]
  cases hseal
  have hverify := fastVerify_edSign hP signer.signingKey
    { kind := Artifact.kind α, suiteId, productId } (Artifact.toCanonical artifact)
  simp only [EnvelopeOf.openArtifact, fastSig, hverify, ne_eq, not_true_eq_false, if_false]
  simp [EnvelopeOf.readBody, Artifact.from_to]

end Keys

/-- An envelope that an issuer of a well signed service hands out is hybrid-signed. -/
theorem hybridSigned_of_issueArtifact
    (hw : w.IssuersWellSigned env) {subject : Bytes} {kind : ArtifactKind} {tbs : Tbs}
    (h : issueArtifact env w licenseId productId subject kind tbs now = (w', .ok envelope)) :
    IssuerDO.HybridSigned env.primitives envelope := by
  unfold issueArtifact at h
  simp only at h
  generalize IssuerDO.issuerShard (ByteId.toBytes licenseId) = shard at h
  split at h
  next status resp hanswer =>
    cases h
    have hshard : (w.issuers shard).WellSigned (env.issuerAt shard).primitives := hw shard
    exact IssuerDO.hybridSigned_of_sign hshard hanswer
  · cases h

/-- A worker with the keys of epoch `5`. -/
def sampleWorker : ServiceEnv where
  issuer := IssuerDO.batchIssuer.during (some IssuerDO.batchSecret)
  license :=
    { owner := 0
      operationHash := fun _ => 0
      primitives := .permissive LicenseDO.ProofInput }
  sha256 _ := 0
  fastSecret := some { IssuerDO.batchSecret with signingKey := List.replicate 32 0 }

end CopyLocker.Worker
