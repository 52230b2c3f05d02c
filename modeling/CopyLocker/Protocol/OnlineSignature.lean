import CopyLocker.Client.Restart
import CopyLocker.Wasm.Session
import CopyLocker.Worker.Routes
import CopyLocker.Worker.SignedTickets

/-!
# Signatures of tickets and kill orders

The worker signs the answer to a validation in the form that the policy of the license asks for:
with the epoch's fast key, or with its hybrid key through an issuer. Both clients verify the answer
with the epoch's fast key, whatever the policy. So the two sides agree exactly for the first form.

## Main results

* `opensAsKind_iff`: an answer of the worker verifies under a chain exactly when it has the fast
  form.
* `online_signature_accepted_iff`: the same for the two clients, after every run of the worker.
-/

namespace CopyLocker.Protocol

open Foundation Run Suite Proto Client Wasm Worker Worker.Router

/-- The chain holds the certificate that the worker registered for the epoch of the envelope, not
revoked and in its window. -/
def Installed {S : SignatureScheme Tbs} (chain : VerifiedChain S) (w : Service)
    (envelope : Envelope) (now : ℤ) : Prop :=
  ∃ id e, envelope.epochRef = some id ∧ chain.epoch id = some e ∧ w.Registered id e.cert ∧
    chain.revocation.isEpochRevoked id = false ∧ e.cert.window.contains now = true

/-- The envelope is a ticket or a kill order, and the step reads it as what it is. -/
def OpensAsKind (envelope : Envelope) (ticket : Except FatalError ValidationTicket)
    (order : Except FatalError KillOrder) : Prop :=
  (envelope.kind = .validationTicket ∧ ∃ t, ticket = .ok t) ∨
    (envelope.kind = .killOrder ∧ ∃ k, order = .ok k)

/-- The signature step of the desktop client accepts the envelope. -/
def DesktopAccepts {S : CryptoSuite} (config : Config) (rt : Runtime S) (envelope : Envelope)
    (now : ℤ) : Prop :=
  OpensAsKind envelope (openOnline ValidationTicket config rt envelope now)
    (openOnline KillOrder config rt envelope now)

/-- The signature step of the browser session accepts the envelope. -/
def WasmAccepts {S : CryptoSuite} (config : Config) (s : Session S) (envelope : Envelope)
    (now : ℤ) : Prop :=
  match s.chain with
  | none => False
  | some chain =>
    OpensAsKind envelope (s.openOnline ValidationTicket config chain envelope now)
      (s.openOnline KillOrder config chain envelope now)

section Chain

variable {env : ServiceEnv} {v : ValidationMessage} {authorization : AuthorizationContext}
  {epoch : SigningEpoch} {cert : EpochCert} {w w' : Service} {envelope : Envelope} {now : ℤ}
  {S : SignatureScheme Tbs} {chain : VerifiedChain S} {later : ℤ}

/-- A hybrid signature does not verify under a fast key, whatever the chain holds. -/
theorem not_verifies_of_hybridSigned {P : Primitives Tbs} (h : IssuerDO.HybridSigned P envelope)
    (productId : ProductId) {α : Type} [Artifact α] {a : α} :
    chain.verifyArtifactFast α (fastSig P) envelope productId later ≠ .ok a := by
  obtain ⟨sk, ctx, hsign⟩ := h
  have hlong := length_hybridSign hsign
  exact VerifiedChain.verifyArtifactFast_of_length_ne (by omega)

/-- Signing one artifact: the answer has the artifact's kind and verifies in the fast form, and is
hybrid-signed in the other. -/
theorem signAnswer_eq_ok {α : Type} [Artifact α] {artifact : α} (hP : env.primitives.Correct)
    (hw : w.IssuersWellSigned env) (hcert : w.Registered epoch.epochId cert)
    (hkey : cert.vkFast = epoch.fastVerifyingKey)
    (h : signAnswer env authorization epoch v artifact now w = (w', .ok envelope))
    (hinstalled : Installed chain w' envelope later) :
    (authorization.vtSignature = .fast ∧ envelope.kind = Artifact.kind α ∧
      chain.verifyArtifactFast α (fastSig env.primitives) envelope authorization.productId later =
        .ok artifact) ∨
    (authorization.vtSignature = .pq ∧ IssuerDO.HybridSigned env.primitives envelope) := by
  have hsigned := signing_eq_ok h
  cases hvt : authorization.vtSignature with
  | fast =>
    rw [hvt, signOnlineArtifact] at hsigned
    obtain ⟨rfl, hfast⟩ := Prod.mk.inj hsigned
    split at hfast
    · cases hfast
    next payload _ =>
    obtain ⟨signer, hsigner, hseal⟩ := Result.bind_eq_ok.1 hfast
    obtain ⟨href, hkind⟩ : envelope.epochRef = some signer.epochId ∧
        envelope.kind = Artifact.kind α := by
      cases hseal
      exact ⟨rfl, rfl⟩
    refine .inl ⟨rfl, hkind, ?_⟩
    -- the installed certificate is the registered one, so its fast key is the signer's
    obtain ⟨id, e, hid, hepoch, ⟨row, hrow, hrowcert⟩, hrevoked, hwindow⟩ := hinstalled
    obtain ⟨row', hrow', rfl⟩ := hcert
    obtain rfl : epoch.epochId = id := by
      rw [href] at hid
      rw [← (parseSecret_eq_ok hsigner).1, Option.some.inj hid]
    obtain rfl : row' = row := Option.some.inj (hrow'.symm.trans hrow)
    have hsignerEpoch : chain.signer envelope later = .ok e :=
      VerifiedChain.signer_eq_ok_iff.2 ⟨_, hid, hepoch, hrevoked, hwindow⟩
    exact verifyArtifactFast_sealFast hP hsigner hseal hsignerEpoch (hrowcert ▸ hkey)
  | pq =>
    rw [hvt] at hsigned
    exact .inr ⟨rfl, hybridSigned_of_issueArtifact hw hsigned⟩

/-- An answer of the worker reads as its kind, under a chain with the registered certificate,
exactly when the policy asks for the fast form. -/
theorem opensAsKind_iff (hP : env.primitives.Correct) (hw : w.IssuersWellSigned env)
    (hcert : w.Registered epoch.epochId cert) (hkey : cert.vkFast = epoch.fastVerifyingKey)
    (h : Signs env v authorization epoch now w w' envelope)
    (hinstalled : Installed chain w' envelope later) :
    OpensAsKind envelope
        (orFatal (chain.verifyArtifactFast ValidationTicket (fastSig env.primitives) envelope
          authorization.productId later))
        (orFatal (chain.verifyArtifactFast KillOrder (fastSig env.primitives) envelope
          authorization.productId later)) ↔
      authorization.vtSignature = .fast := by
  constructor
  · intro hopens
    by_contra hne
    have hybrid : IssuerDO.HybridSigned env.primitives envelope := by
      obtain ⟨t, ht⟩ | ⟨k, hk⟩ := h
      · exact ((signAnswer_eq_ok hP hw hcert hkey ht hinstalled).resolve_left fun h => hne h.1).2
      · exact ((signAnswer_eq_ok hP hw hcert hkey hk hinstalled).resolve_left fun h => hne h.1).2
    obtain ⟨-, t, ht⟩ | ⟨-, k, hk⟩ := hopens
    · exact not_verifies_of_hybridSigned hybrid _ (orFatal_eq_ok.1 ht)
    · exact not_verifies_of_hybridSigned hybrid _ (orFatal_eq_ok.1 hk)
  · intro hfast
    have hpq : ¬ authorization.vtSignature = .pq := by simp [hfast]
    obtain ⟨t, ht⟩ | ⟨k, hk⟩ := h
    · obtain ⟨-, hkind, hok⟩ :=
        (signAnswer_eq_ok hP hw hcert hkey ht hinstalled).resolve_right fun h => hpq h.1
      exact .inl ⟨hkind, t, orFatal_eq_ok.2 hok⟩
    · obtain ⟨-, hkind, hok⟩ :=
        (signAnswer_eq_ok hP hw hcert hkey hk hinstalled).resolve_right fun h => hpq h.1
      exact .inr ⟨hkind, k, orFatal_eq_ok.2 hok⟩

end Chain

/-- After every run of the worker and for every policy: the ticket or kill order that it signs for
a validation request is accepted by the signature steps of both clients, which hold the certificate
of the signing epoch, exactly when the policy asks for the fast form. -/
theorem online_signature_accepted_iff (env : ServiceEnv) (hP : env.primitives.Correct)
    (steps : List ServiceStep) {v : ValidationMessage} {authorization : AuthorizationContext}
    {material : TicketMaterial} {waits : ValidationWaits} {now : ℤ} {w : Service}
    {envelope : Envelope}
    (h : validate env v (.ok authorization) material waits now
      (exec (Service.step env) .new steps) = (w, .ok envelope))
    {S S' : CryptoSuite} (hS : S.primitives = env.primitives) (hS' : S'.primitives = env.primitives)
    (config config' : Config) (hproduct : config.productId = authorization.productId)
    (hproduct' : config'.productId = authorization.productId)
    (rt : Runtime S) (s : Session S') {chain : VerifiedChain S.sig} {chain' : VerifiedChain S'.sig}
    (hchain : rt.chain = some chain) (hchain' : s.chain = some chain') (later later' : ℤ)
    (hinstalled : Installed chain w envelope (rt.effectiveNow later))
    (hinstalled' : Installed chain' w envelope (s.state.clock.effectiveNow later')) :
    (DesktopAccepts config rt envelope later ∧ WasmAccepts config' s envelope later') ↔
      authorization.vtSignature = .fast := by
  have hw := exec_issuersWellSigned env (w := .new) nofun steps
  obtain ⟨authorization', epoch, cert, w₁, hauth, hw₁, hcert, hkey, hsigns⟩ :=
    signs_of_validate hw h
  obtain rfl : authorization = authorization' := Except.ok.inj hauth
  have hdesktop := opensAsKind_iff hP hw₁ hcert hkey hsigns hinstalled
  have hwasm := opensAsKind_iff hP hw₁ hcert hkey hsigns hinstalled'
  have hD : DesktopAccepts config rt envelope later ↔ authorization.vtSignature = .fast := by
    rw [← hdesktop]
    simp [DesktopAccepts, openOnline, hchain, hS, hproduct]
  have hW : WasmAccepts config' s envelope later' ↔ authorization.vtSignature = .fast := by
    rw [← hwasm]
    simp [WasmAccepts, Session.openOnline, hchain', hS', hproduct']
  rw [hD, hW, and_self]

/-! ### A policy with hybrid-signed tickets -/

/-- The certificate of epoch `5`, which the clients' keyset lists. -/
def certificateUploaded : List ServiceStep :=
  sampleKeyset.epochCertificates.map fun certificate =>
    .registry (.upload certificate sampleRootKey)

def sampleInfo : ClientInfo where
  releaseId := "r1"
  variantId := 1
  buildFingerprint := "build"
  appVersion := "1"
  os := "os"
  arch := "arch"
  sdkVersion := "1"

def sampleParsed : ParsedActivation where
  suiteId := clStd1SuiteId
  fingerprint := [7]
  deviceKemEk := [1]
  deviceSigVk := List.replicate 32 0
  deviceAttrs := none
  clientInfo := sampleInfo
  idempotencyKey := "k"
  requestHash := 0

def sampleRelease : ReleaseMaterial :=
  { releaseId := "r1", buildFingerprint := "build", variantId := 1 }

def sampleAuthorization (vtSignature : VtSignature) : AuthorizationContext where
  licenseId := 1
  productId := "app"
  seats := 1
  heartbeatSecs := none
  expiresAt := none
  vtSignature := vtSignature
  refreshAfterSecs := 5000
  graceSecs := 600
  reportAttrs := false
  policyExpiresAt := none
  entitlements := .empty
  release := some sampleRelease
  verdict := .ok
  killReason := none

def sampleMaterial : ActivationMaterial where
  machineId := 2
  candidateState := some [1]
  sealedSecret := some ([], [])
  offlineNonce := 0
  wrappedKeks := some []
  preloadedKeks := .ok none

def noWaits : ActivationWaits :=
  { beforeFloor := [], beforeInit := [], beforeReserve := [], beforeIssue := [],
    beforeComplete := [] }

/-- The worker after the certificate was uploaded and machine `2` was reserved and committed. -/
def machineCommitted (vtSignature : VtSignature) : List ServiceStep :=
  let authorization := sampleAuthorization vtSignature
  let reserve :=
    reserveCall sampleParsed authorization sampleRelease .online sampleMaterial [1] 0 1000
  certificateUploaded ++
    [ .license 1 ⟨1000, .init (initCall sampleParsed authorization none)⟩,
      .license 1 ⟨1000, .reserve reserve⟩,
      .license 1 ⟨1000, .commit 2⟩ ]

def sampleValidation : ValidationMessage :=
  { firstReleaseMessage with
    clientInfo := sampleInfo
    proofInput :=
      { size := 100
        decoded := .ok [ (0, .uint 1), (1, .bytes (ByteId.toBytes clStd1SuiteId)),
            (12, .bytes (ByteId.toBytes (1 : LicenseId))),
            (2, .bytes (ByteId.toBytes (2 : MachineId))),
            (4, .bytes (ByteId.toBytes (3 : ByteId 32))) ] }
    proof := List.replicate 64 0 }

/-- The answer to the validation under this signature policy. -/
def validated (vtSignature : VtSignature) : Service × Except Failure Envelope :=
  validate sampleWorker sampleValidation (.ok (sampleAuthorization vtSignature))
    { serverNonce := 0, wrappedKeks := some none }
    { beforeFloor := [], beforeLicense := [], beforeEpoch := [], beforeSigning := [] } 1500
    (exec (Service.step sampleWorker) .new (machineCommitted vtSignature))

/-- A session with the state, the credential and the chain of a desktop client. -/
def sessionOf {S : CryptoSuite} (rt : Runtime S) : Session S where
  state := rt.state
  device := none
  credential := rt.credential
  credentialEnvelope := none
  ticketEnvelope := none
  epochCertificates := []
  chain := rt.chain
  material := rt.material
  entitlements := rt.entitlements
  onlineWrappedKeks := []
  maxSecurityFloor := rt.maxSecurityFloor
  maxRevocationEpoch := rt.maxRevocationEpoch
  pendingActivationNonce := none
  pendingValidateNonce := some 3

/-- The worker answers an honest validation under a `pq` policy with a ticket that neither client
accepts, although both hold the certificate of its epoch. -/
theorem hybrid_ticket_refused :
    ∃ w envelope inner chain, validated .pq = (w, .ok envelope) ∧
      (activatedSystem 0).client = some inner ∧ inner.runtime.chain = some chain ∧
      Installed chain w envelope (inner.runtime.effectiveNow 1500) ∧
      ¬ DesktopAccepts sampleConfig inner.runtime envelope 1500 ∧
      ¬ WasmAccepts sampleConfig (sessionOf inner.runtime) envelope 1500 := by
  refine ⟨_, _, _, _, rfl, rfl, rfl, ?_, ?_, ?_⟩
  · exact ⟨5, _, rfl, rfl, ⟨_, rfl, rfl⟩, rfl, rfl⟩
  all_goals
    rintro (⟨-, t, ht⟩ | ⟨hkind, -⟩)
    · cases ht
    · cases hkind

/-- The theorem at the same request under a `fast` policy. -/
theorem fast_ticket_accepted :
    ∃ w envelope inner chain, validated .fast = (w, .ok envelope) ∧
      (activatedSystem 0).client = some inner ∧ inner.runtime.chain = some chain ∧
      Installed chain w envelope (inner.runtime.effectiveNow 1500) ∧
      DesktopAccepts sampleConfig inner.runtime envelope 1500 ∧
      WasmAccepts sampleConfig (sessionOf inner.runtime) envelope 1500 := by
  have hvalid : validated .fast = (_, .ok _) := rfl
  refine ⟨_, _, _, _, hvalid, rfl, rfl, ⟨5, _, rfl, rfl, ⟨_, rfl, rfl⟩, rfl, rfl⟩, ?_⟩
  exact (online_signature_accepted_iff sampleWorker (Primitives.permissive_correct Tbs)
    (machineCommitted .fast) hvalid rfl rfl sampleConfig sampleConfig rfl rfl _ (sessionOf _)
    rfl rfl 1500 1500 ⟨5, _, rfl, rfl, ⟨_, rfl, rfl⟩, rfl, rfl⟩
    ⟨5, _, rfl, rfl, ⟨_, rfl, rfl⟩, rfl, rfl⟩).2 rfl

end CopyLocker.Protocol
