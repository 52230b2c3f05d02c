import CopyLocker.Foundation.Result
import CopyLocker.Proto.Artifacts

/-!
# The certificate chain

Pinned root, epoch certificate, artifact (`copylocker-proto::chain`). A chain holds the epoch
certificates that passed root verification together with the client's knowledge of revoked
epochs, and every artifact is verified against both, at the time of the verification.
-/

namespace CopyLocker.Proto

open Foundation Suite

/-- The digests of the root verifying keys compiled into a client. -/
structure PinnedRoots where
  current : Digest
  next : Option Digest
  deriving DecidableEq

/-- Whether a digest is that of a pinned root. -/
def PinnedRoots.accepts (r : PinnedRoots) (d : Digest) : Bool :=
  r.current == d || r.next == some d

/-- Append the identifiers that are not there yet. -/
def mergeEpochs (known revoked : List EpochId) : List EpochId :=
  revoked.foldl (fun known e => if known.contains e then known else known ++ [e]) known

theorem mem_mergeEpochs {known revoked : List EpochId} {id : EpochId} :
    id ∈ mergeEpochs known revoked ↔ id ∈ known ∨ id ∈ revoked := by
  induction revoked generalizing known with
  | nil => simp [mergeEpochs]
  | cons e revoked ih =>
    have hstep : id ∈ mergeEpochs known (e :: revoked) ↔
        id ∈ (if known.contains e then known else known ++ [e]) ∨ id ∈ revoked := ih
    rw [hstep, List.mem_cons, ← or_assoc]
    refine or_congr_left ?_
    split_ifs with hknown
    · refine (or_iff_left_of_imp ?_).symm
      rintro rfl
      exact List.contains_iff_mem.1 hknown
    · rw [List.mem_append, List.mem_singleton]

/-- Local knowledge of revoked epochs, and how recent it is. -/
structure RevocationState where
  epoch : ℕ
  revokedEpochs : List EpochId
  deriving DecidableEq

namespace RevocationState

/-- Nothing is revoked. -/
def default : RevocationState := { epoch := 0, revokedEpochs := [] }

def isEpochRevoked (r : RevocationState) (id : EpochId) : Bool := r.revokedEpochs.contains id

/-- Merge a newer view; an older one is refused. -/
def advance (r : RevocationState) (toEpoch : ℕ) (revoked : List EpochId) :
    Except ProtoError RevocationState :=
  if toEpoch < r.epoch then .error .monotonicityViolation
  else .ok { epoch := toEpoch, revokedEpochs := mergeEpochs r.revokedEpochs revoked }

end RevocationState

/-- An epoch certificate with the verifying key that its bytes decode to. -/
structure VerifiedEpoch (S : SignatureScheme Tbs) where
  cert : EpochCert
  vk : S.VerifyingKey
  decodes : S.decodeVk cert.vk = .ok vk

/-- Pinned roots and the epoch certificates validated against them. -/
structure VerifiedChain (S : SignatureScheme Tbs) where
  roots : PinnedRoots
  epochs : List (VerifiedEpoch S)
  revocation : RevocationState

namespace VerifiedChain

variable {S : SignatureScheme Tbs}

/-- A chain without certificates. -/
def new (roots : PinnedRoots) : VerifiedChain S := { roots, epochs := [], revocation := .default }

/-- The verified certificate of an epoch. -/
def epoch (chain : VerifiedChain S) (id : EpochId) : Option (VerifiedEpoch S) :=
  chain.epochs.find? fun e => e.cert.epochId == id

/-- Verify an epoch certificate against the pinned roots and add it. The issuer must be pinned
before any signature is looked at. -/
def addEpoch (hash : Bytes → Digest) (chain : VerifiedChain S) (env : Envelope)
    (productId : ProductId) (rootVk : S.VerifyingKey) (now : ℤ) :
    Except ProtoError (VerifiedChain S) := do
  let cert ← env.peekUnverified EpochCert
  if ¬ chain.roots.accepts cert.issuerVkDigest then throw .rootPinMismatch
  if hash (S.encodeVk rootVk) ≠ cert.issuerVkDigest then throw .rootPinMismatch
  match S.verify rootVk { kind := .epochCert, suiteId := cert.suiteId, productId } env.tbs
      env.sig with
  | .error e => throw (.crypto e)
  | .ok () => pure ()
  if ¬ cert.window.contains now then throw .outsideValidityWindow
  if chain.revocation.isEpochRevoked cert.epochId then throw .epochRevoked
  match h : S.decodeVk cert.vk with
  | .error e => throw (.crypto e)
  | .ok vk =>
    pure { chain with
      epochs := chain.epochs.filter (fun e => e.cert.epochId != cert.epochId) ++ [⟨cert, vk, h⟩] }

variable {chain : VerifiedChain S} {env : Envelope} {now : ℤ}

/-- The certificate that is added was signed by a pinned root, is in its window and not revoked; it
replaces the one of its epoch. -/
theorem addEpoch_eq_ok {hash : Bytes → Digest} {chain' : VerifiedChain S}
    {productId : ProductId} {rootVk : S.VerifyingKey}
    (h : chain.addEpoch hash env productId rootVk now = .ok chain') :
    ∃ e : VerifiedEpoch S, env.peekUnverified EpochCert = .ok e.cert ∧
      chain.roots.accepts (hash (S.encodeVk rootVk)) ∧
      S.verify rootVk { kind := .epochCert, suiteId := e.cert.suiteId, productId } env.tbs
        env.sig = .ok () ∧
      e.cert.window.contains now ∧ chain.revocation.isEpochRevoked e.cert.epochId = false ∧
      chain' = { chain with
        epochs := chain.epochs.filter (fun e' => e'.cert.epochId != e.cert.epochId) ++ [e] } := by
  obtain ⟨cert, hpeek, h⟩ := Result.bind_eq_ok.1 h
  dsimp only at h
  split at h
  · cases h
  next hpinned =>
  split at h
  · cases h
  next hroot =>
  split at h
  · cases h
  next hverify =>
  split at h
  · cases h
  next hwindow =>
  split at h
  · cases h
  next hrevoked =>
  split at h
  · cases h
  next vk hvk =>
  have hissuer : hash (S.encodeVk rootVk) = cert.issuerVkDigest := not_not.1 hroot
  refine ⟨⟨cert, vk, hvk⟩, hpeek, ?_, hverify, not_not.1 hwindow, ?_, (Except.ok.inj h).symm⟩
  · rw [hissuer]
    exact not_not.1 hpinned
  · exact Bool.eq_false_iff.2 hrevoked

/-- The epoch that an envelope names, if it may sign at `now`. -/
def signer (chain : VerifiedChain S) (env : Envelope) (now : ℤ) :
    Except ProtoError (VerifiedEpoch S) :=
  match env.epochRef with
  | none => .error .unknownEpoch
  | some epochId =>
    match chain.epoch epochId with
    | none => .error .unknownEpoch
    | some epoch =>
      if chain.revocation.isEpochRevoked epochId then .error .epochRevoked
      else if ¬ epoch.cert.window.contains now then .error .outsideValidityWindow
      else .ok epoch

/-- Verify an artifact under the key for durable artifacts. -/
def verifyArtifact (α : Type) [Artifact α] (chain : VerifiedChain S) (env : Envelope)
    (productId : ProductId) (now : ℤ) : Except ProtoError α :=
  match chain.signer env now with
  | .error e => .error e
  | .ok epoch => env.openArtifact α S productId epoch.vk

/-- Verify an artifact under the epoch's fast key, which its certificate carries. -/
def verifyArtifactFast (α : Type) [Artifact α] (F : SignatureScheme Tbs) (chain : VerifiedChain S)
    (env : Envelope) (productId : ProductId) (now : ℤ) : Except ProtoError α :=
  match chain.signer env now with
  | .error e => .error e
  | .ok epoch =>
    match F.decodeVk epoch.cert.vkFast with
    | .error _ => .error (.crypto .invalid)
    | .ok vk => env.openArtifact α F productId vk

/-! ### The signing epoch -/

theorem signer_eq_ok_iff {e : VerifiedEpoch S} :
    chain.signer env now = .ok e ↔ ∃ id, env.epochRef = some id ∧ chain.epoch id = some e ∧
      chain.revocation.isEpochRevoked id = false ∧ e.cert.window.contains now := by
  unfold signer
  cases href : env.epochRef with
  | none => simp
  | some id =>
    dsimp only
    cases hepoch : chain.epoch id with
    | none => simp [hepoch]
    | some e' =>
      dsimp only
      split_ifs with hrevoked hwindow
      · simp [hrevoked]
      · constructor
        · intro h
          obtain rfl : e' = e := Except.ok.inj h
          exact ⟨id, rfl, hepoch, by simpa using hrevoked, by simpa using hwindow⟩
        · rintro ⟨id', hid, he, -, -⟩
          cases hid
          rw [hepoch] at he
          cases he
          rfl
      · constructor
        · intro h
          cases h
        · rintro ⟨id', hid, he, -, hin⟩
          cases hid
          rw [hepoch] at he
          cases he
          exact absurd hin hwindow

/-! ### Verified artifacts -/

section Verified

variable {α : Type} [Artifact α] {chain : VerifiedChain S} {env : Envelope} {productId : ProductId}
  {now : ℤ} {a : α}

/-- A verified artifact is the body of its envelope. -/
theorem peek_of_verifyArtifact (h : chain.verifyArtifact α env productId now = .ok a) :
    env.peekUnverified α = .ok a := by
  unfold verifyArtifact at h
  split at h
  · cases h
  · exact EnvelopeOf.peekUnverified_of_openArtifact h

variable {F : SignatureScheme Tbs}

theorem peek_of_verifyArtifactFast (h : chain.verifyArtifactFast α F env productId now = .ok a) :
    env.peekUnverified α = .ok a := by
  unfold verifyArtifactFast at h
  split at h
  · cases h
  split at h
  · cases h
  · exact EnvelopeOf.peekUnverified_of_openArtifact h

theorem verifyArtifactFast_eq_ok {e : VerifiedEpoch S}
    {vk : F.VerifyingKey} (hsigner : chain.signer env now = .ok e)
    (hvk : F.decodeVk e.cert.vkFast = .ok vk) :
    chain.verifyArtifactFast α F env productId now = env.openArtifact α F productId vk := by
  simp [verifyArtifactFast, hsigner, hvk]

/-- No envelope is accepted under a fast key whose signature has another length than Ed25519's,
whatever certificates the chain holds. -/
theorem verifyArtifactFast_of_length_ne {P : Primitives Tbs} (hlen : env.sig.length ≠ 64) :
    chain.verifyArtifactFast α (fastSig P) env productId now ≠ .ok a := by
  intro h
  unfold verifyArtifactFast at h
  split at h
  · cases h
  · split at h
    · cases h
    next vk _ =>
      unfold EnvelopeOf.openArtifact at h
      have hverify : ∀ ctx, (fastSig P).verify vk ctx env.tbs env.sig = .error .badLength :=
        fun ctx => by simp [fastSig, fastVerify, ByteArr.fromSlice, hlen]
      simp only [hverify] at h
      split_ifs at h

end Verified

end VerifiedChain

end CopyLocker.Proto
