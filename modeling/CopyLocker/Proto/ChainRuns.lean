import CopyLocker.Foundation.Run
import CopyLocker.Proto.Chain

/-!
# Chains along every sequence of calls

A chain starts with its pinned roots, gets certificates by `add_epoch` and learns of revoked epochs
by `advance`, in any order. A certificate is in the table only if a pinned root signed it. It stays
there when its window ends or its epoch is revoked, so both are looked at again for every artifact.

That a root signed what verifies under its key is the unforgeability of the scheme: `Signed` is what
the holder of a key has signed, and the results assume that nothing else verifies.
-/

namespace CopyLocker.Proto

open Foundation.Run Suite List

variable {S : SignatureScheme Tbs}

/-- A key with a pinned digest signed the certificate. -/
def RootSigned (hash : Bytes → Digest) (roots : PinnedRoots)
    (Signed : S.VerifyingKey → DomainCtx → Tbs → Prop) (cert : EpochCert) : Prop :=
  ∃ (env : Envelope) (productId : ProductId) (rootVk : S.VerifyingKey),
    env.peekUnverified EpochCert = .ok cert ∧ roots.accepts (hash (S.encodeVk rootVk)) = true ∧
      Signed rootVk { kind := .epochCert, suiteId := cert.suiteId, productId } env.tbs

namespace VerifiedChain

/-- A call that changes a chain. -/
inductive Call (S : SignatureScheme Tbs)
  | addEpoch (env : Envelope) (productId : ProductId) (rootVk : S.VerifyingKey) (now : ℤ)
  | advance (toEpoch : ℕ) (revoked : List EpochId)

/-- The chain after a call. A call that fails leaves it. -/
def call (hash : Bytes → Digest) (chain : VerifiedChain S) : Call S → VerifiedChain S
  | .addEpoch env productId rootVk now =>
    (chain.addEpoch hash env productId rootVk now).toOption.getD chain
  | .advance toEpoch revoked =>
    { chain with
      revocation := (chain.revocation.advance toEpoch revoked).toOption.getD chain.revocation }

/-- An envelope verifies as an artifact, under the durable or under the fast key. -/
inductive Accepts (chain : VerifiedChain S) (env : Envelope) (now : ℤ) : Prop
  | durable {α : Type} [Artifact α] {productId : ProductId} {a : α}
      (h : chain.verifyArtifact α env productId now = .ok a)
  | fast {α : Type} [Artifact α] {F : SignatureScheme Tbs} {productId : ProductId} {a : α}
      (h : chain.verifyArtifactFast α F env productId now = .ok a)

variable {hash : Bytes → Digest} {chain : VerifiedChain S} {env : Envelope} {now : ℤ}

/-- Whatever verifies was signed by an epoch that may sign. -/
theorem Accepts.signer (h : chain.Accepts env now) : ∃ e, chain.signer env now = .ok e := by
  cases h with
  | durable h =>
    unfold verifyArtifact at h
    split at h
    · cases h
    next e hsigner => exact ⟨e, hsigner⟩
  | fast h =>
    unfold verifyArtifactFast at h
    split at h
    · cases h
    next e hsigner => exact ⟨e, hsigner⟩

/-! ### The table of epochs -/

/-- Every certificate of the chain was signed by one of its roots. -/
structure Anchored (hash : Bytes → Digest) (roots : PinnedRoots)
    (Signed : S.VerifyingKey → DomainCtx → Tbs → Prop) (chain : VerifiedChain S) : Prop where
  roots_eq : chain.roots = roots
  signed : ∀ e ∈ chain.epochs, RootSigned hash roots Signed e.cert

section Anchored

variable {roots : PinnedRoots} {Signed : S.VerifyingKey → DomainCtx → Tbs → Prop}

theorem Anchored.call
    (hunforgeable : ∀ vk ctx tbs sig, S.verify vk ctx tbs sig = .ok () → Signed vk ctx tbs)
    (h : Anchored hash roots Signed chain) (k : Call S) :
    Anchored hash roots Signed (chain.call hash k) := by
  cases k with
  | advance toEpoch revoked => exact ⟨h.roots_eq, h.signed⟩
  | addEpoch env productId rootVk now =>
    simp only [VerifiedChain.call]
    cases hadd : chain.addEpoch hash env productId rootVk now with
    | error e => exact h
    | ok chain' =>
      obtain ⟨added, hpeek, hpinned, hverify, -, -, rfl⟩ := addEpoch_eq_ok hadd
      refine ⟨h.roots_eq, fun e he => ?_⟩
      rcases mem_append.1 he with hold | hnew
      · exact h.signed e (mem_of_mem_filter hold)
      · rw [mem_singleton.1 hnew]
        exact ⟨env, productId, rootVk, hpeek, h.roots_eq ▸ hpinned, hunforgeable _ _ _ _ hverify⟩

end Anchored

/-! ### The revoked epochs -/

private theorem revokedEpochs_subset_call (k : Call S) :
    chain.revocation.revokedEpochs ⊆ (chain.call hash k).revocation.revokedEpochs := by
  cases k with
  | addEpoch env productId rootVk now =>
    simp only [call]
    cases hadd : chain.addEpoch hash env productId rootVk now with
    | error e => exact List.Subset.refl _
    | ok chain' =>
      obtain ⟨added, -, -, -, -, -, rfl⟩ := addEpoch_eq_ok hadd
      exact List.Subset.refl _
  | advance toEpoch revoked =>
    simp only [call, RevocationState.advance]
    split_ifs
    · exact List.Subset.refl _
    · exact fun id hid => mem_mergeEpochs.2 (.inl hid)

private theorem isEpochRevoked_eq_false_iff {r : RevocationState} {id : EpochId} :
    r.isEpochRevoked id = false ↔ id ∉ r.revokedEpochs := by
  rw [RevocationState.isEpochRevoked, Bool.eq_false_iff, ne_eq, contains_iff_mem]

/-- After any calls on a new chain an envelope verifies only under an epoch whose certificate a
pinned root signed, which is in its window at that instant and not revoked. The revoked epochs only
grow, and an envelope of a revoked epoch never verifies again, whatever is called. -/
theorem accepted_under_pinned_root (hash : Bytes → Digest) (roots : PinnedRoots)
    (Signed : S.VerifyingKey → DomainCtx → Tbs → Prop)
    (hunforgeable : ∀ vk ctx tbs sig, S.verify vk ctx tbs sig = .ok () → Signed vk ctx tbs)
    (calls : List (Call S)) :
    let chain := exec (call hash) (new roots) calls
    (∀ env now, chain.Accepts env now → ∃ id e, env.epochRef = some id ∧ chain.epoch id = some e ∧
      RootSigned hash roots Signed e.cert ∧ e.cert.window.contains now = true ∧
      id ∉ chain.revocation.revokedEpochs) ∧
    ∀ more, let chain' := exec (call hash) (new roots) (calls ++ more)
      chain.revocation.revokedEpochs ⊆ chain'.revocation.revokedEpochs ∧
      ∀ id ∈ chain.revocation.revokedEpochs, ∀ env now,
        env.epochRef = some id → ¬ chain'.Accepts env now := by
  intro chain
  have hanchored : Anchored hash roots Signed chain :=
    exec_induction (call hash) (fun _ k h => h.call hunforgeable k) ⟨rfl, nofun⟩ calls
  refine ⟨?_, fun more => ?_⟩
  · intro env now haccepts
    obtain ⟨e, hsigner⟩ := haccepts.signer
    obtain ⟨id, href, hepoch, hrevoked, hwindow⟩ := signer_eq_ok_iff.1 hsigner
    have hmem := mem_of_find?_eq_some hepoch
    exact ⟨id, e, href, hepoch, hanchored.signed e hmem, hwindow,
      isEpochRevoked_eq_false_iff.1 hrevoked⟩
  · rw [exec_append]
    have hgrown := exec_induction (call hash) (I := fun chain =>
        (exec (call hash) (new roots) calls).revocation.revokedEpochs ⊆
          chain.revocation.revokedEpochs)
      (fun _ k hsubset => List.Subset.trans hsubset (revokedEpochs_subset_call k))
      (List.Subset.refl _) more
    refine ⟨hgrown, ?_⟩
    intro id hid env now href haccepts
    obtain ⟨e, hsigner⟩ := haccepts.signer
    obtain ⟨id', href', -, hrevoked, -⟩ := signer_eq_ok_iff.1 hsigner
    obtain rfl : id = id' := Option.some.inj (href.symm.trans href')
    exact isEpochRevoked_eq_false_iff.1 hrevoked (hgrown hid)

/-! ### An epoch that is revoked and added again -/

/-- The scheme with one key, which accepts everything. -/
abbrev permissiveSig : SignatureScheme Tbs := fastSig (.permissive Tbs)

/-- The certificate of the epoch `5`. -/
def fifthEpoch : EpochCert := { sampleCert 5 with notAfter := 1000, productScope := none }

/-- An envelope around a body that names the epoch `5` as its signer. -/
def fifthSigned (kind : ArtifactKind) (tbs : Tbs) : Envelope where
  protoVer := Proto.protoVer
  suiteId := 0x01000001
  kind := kind
  tbs := tbs
  sig := replicate 64 0
  epochRef := some 5

/-- An order of the epoch `5`. -/
def fifthOrder : Envelope :=
  fifthSigned .killOrder (.killOrder
    { protoVer := Proto.protoVer, suiteId := 0x01000001, machineId := 0, nonceCEcho := 0,
      serverTime := 10, reason := .fraud, userMessage := none, revocationEpoch := 0 })

def addFifth : Call permissiveSig :=
  .addEpoch (fifthSigned .epochCert (.epochCert fifthEpoch)) "app" () 10

/-- The chain after these calls, with a hash that pins every key. -/
def afterCalls (calls : List (Call permissiveSig)) : VerifiedChain permissiveSig :=
  exec (call fun _ => 0) (new { current := 0, next := none }) calls

/-- The order verifies after the epoch is added; once it is revoked, not even after it is added
again. -/
theorem revoked_epoch_added_again :
    (afterCalls [addFifth]).Accepts fifthOrder 10 ∧
      ¬ (afterCalls ([addFifth, .advance 1 [5]] ++ [addFifth])).Accepts fifthOrder 10 := by
  have hall := accepted_under_pinned_root (fun _ => 0) { current := 0, next := none }
    (fun vk ctx tbs => ∃ sig, permissiveSig.verify vk ctx tbs sig = .ok ())
    (fun _ _ _ sig hverify => ⟨sig, hverify⟩) [addFifth, .advance 1 [5]]
  refine ⟨?_, (hall.2 [addFifth]).2 5 (by decide) fifthOrder 10 rfl⟩
  exact .durable (show (afterCalls [addFifth]).verifyArtifact KillOrder fifthOrder "app" 10 = .ok _
    from rfl)

end VerifiedChain

end CopyLocker.Proto
