import CopyLocker.Client.Restart
import CopyLocker.Worker.IssuanceLog
import CopyLocker.Worker.RevocationPublication

/-!
# Following the published revocations

The worker keeps the batch of a number `n` under the key `n - 1`, and `/v1/revocations?since=…`
looks its argument up as a key. The desktop client (`sync_revocations`) asks with the number that it
needs next, and accepts only a batch that starts there. So the two count differently by one: the
client is answered with the batch after the one it needs, or with none. It reaches the published
epoch only if it is there already (`reaches_iff`).
-/

namespace CopyLocker.Protocol

open Foundation.Run Proto Client Worker RevocationPublication

variable {S : CryptoSuite}

/-- How following the batches ends. -/
inductive SyncEnd
  | synced
  | unavailable
  | failed (error : ClientError)
  | unfinished
  deriving DecidableEq

/-- `sync_revocations` against the batches that are served, with the surroundings of each round. -/
def syncRevocations (config : Config) (served : ℕ → Option (Wire Envelope)) (target : ℕ) :
    List (Io × ℤ) → Runtime S → KeyStore → Runtime S × SyncEnd
  | [], rt, _ => (rt, .unfinished)
  | (io, now) :: rounds, rt, store =>
    match nextSyncStep rt target with
    | .done => (rt, .synced)
    | .failed e => (rt, .failed (.fatal e))
    | .fetch cursor =>
      match served cursor with
      | none => (rt, .unavailable)
      | some response =>
        let r := applyBatch config rt store io rt.maxRevocationEpoch target response now
        match r.outcome with
        | .ok => syncRevocations config served target rounds r.runtime r.store
        | .error e => (r.runtime, .failed e)
        | .retry | .aborted => (r.runtime, .unfinished)

/-- The client comes to the target in some number of rounds. -/
def Reaches (config : Config) (served : ℕ → Option (Wire Envelope)) (target : ℕ) (rt : Runtime S)
    (store : KeyStore) : Prop :=
  ∃ rounds, (syncRevocations config served target rounds rt store).2 = .synced

/-- A batch that starts elsewhere is not applied. -/
theorem applyBatch_outcome_ne_ok {config : Config} {rt : Runtime S} {store : KeyStore} {io : Io}
    {target : ℕ} {response : Wire Envelope} {b : SignedBatch} {now : ℤ}
    (hresponse : response.decoded = .ok b.toEnvelope)
    (hfrom : b.batch.fromEpoch ≠ rt.maxRevocationEpoch + 1) :
    (applyBatch config rt store io rt.maxRevocationEpoch target response now).outcome ≠ .ok := by
  rcases applyBatch_cases config rt store io rt.maxRevocationEpoch target response now with
    ⟨error, -, heq⟩ | ⟨-, heq⟩ |
    ⟨envelope, chain, batch, -, -, hdecoded, -, -, hverified, hfine, -, -⟩
  · rw [heq]
    exact nofun
  · rw [heq]
    exact nofun
  · -- the verified artifact is the body of the envelope
    obtain rfl : b.toEnvelope = envelope := Except.ok.inj (hresponse.symm.trans hdecoded)
    have hpeek := VerifiedChain.peek_of_verifyArtifact hverified
    obtain rfl : b.batch = batch := Except.ok.inj hpeek
    exact absurd (.inr (.inr (.inl hfrom))) hfine

/-- The client reaches the published epoch only if it is there already: otherwise it asks for the
key after the one that it needs. -/
theorem reaches_iff {s : Publication} (hs : Stored s) (config : Config) (size : SignedBatch → ℕ)
    {rt : Runtime S} (store : KeyStore) :
    Reaches config (s.served size) s.epoch rt store ↔ rt.maxRevocationEpoch = s.epoch := by
  constructor
  · rintro ⟨rounds, hsynced⟩
    cases rounds with
    | nil => cases hsynced
    | cons round rounds =>
      simp only [syncRevocations] at hsynced
      split at hsynced
      next hdone =>
        unfold nextSyncStep at hdone
        split_ifs at hdone with hlt heq
        exact heq.symm
      · cases hsynced
      next cursor hfetch =>
        have hcursor : cursor = rt.maxRevocationEpoch + 1 := by
          unfold nextSyncStep at hfetch
          split_ifs at hfetch
          exact (SyncStep.fetch.inj hfetch).symm
        split at hsynced
        · cases hsynced
        next response hserved =>
          obtain ⟨b, hb, rfl⟩ := Option.map_eq_some_iff.1 hserved
          have hcovers := hs.covers cursor b hb
          have hrefused : (applyBatch config rt store round.1 rt.maxRevocationEpoch s.epoch
              { size := size b, decoded := .ok b.toEnvelope } round.2).outcome ≠ .ok := by
            refine applyBatch_outcome_ne_ok rfl ?_
            rw [hcovers.1, hcursor]
            omega
          split at hsynced
          next hok => exact absurd hok hrefused
          · cases hsynced
          · cases hsynced
          · cases hsynced
  · intro heq
    refine ⟨[({ saves := true, wipes := true }, 0)], ?_⟩
    have hdone : nextSyncStep rt s.epoch = .done := by
      unfold nextSyncStep
      rw [if_neg (by omega), if_pos heq.symm]
    simp [syncRevocations, hdone]

/-- Along every run at most one row is unpublished; every batch below the pointer is stored, never
replaced, and for the number after its key; and a client at or below the pointer can follow the
batches to it exactly if it is there. -/
theorem published_in_order_and_reached_iff (env : PublicationEnv) (steps : List PublicationStep)
    (hkeeps : Along (Publication.step env) KeepsAnswers .new steps) :
    let s := exec (Publication.step env) .new steps
    (∀ row ∈ s.revocations.rows, ∀ row' ∈ s.revocations.rows,
      row.publishedAt.isNone → row'.publishedAt.isNone → row = row') ∧
    (∀ k < s.epoch, ∃ b, s.batches k = some b ∧ b.Covers (k + 1)) ∧
    (∀ before after, steps = before ++ after → ∀ k b,
      (exec (Publication.step env) .new before).batches k = some b → s.batches k = some b) ∧
    ∀ (S : CryptoSuite) (config : Config) (size : SignedBatch → ℕ) (rt : Runtime S)
      (store : KeyStore), rt.maxRevocationEpoch ≤ s.epoch →
      (Reaches config (s.served size) s.epoch rt store ↔ rt.maxRevocationEpoch = s.epoch) := by
  have hnumbered := exec_numbered env steps
  have hstored := exec_stored env steps
  refine ⟨?_, ?_, ?_, ?_⟩
  · intro row hrow row' hrow' hpending hpending'
    have hseq : row.seq = row'.seq :=
      (hnumbered.pending row hrow hpending).trans (hnumbered.pending row' hrow' hpending').symm
    have hfind := Foundation.Table.mem_rows_iff.1 hrow
    rw [hseq, Foundation.Table.mem_rows_iff.1 hrow'] at hfind
    exact (Option.some.inj hfind).symm
  · intro k hk
    obtain ⟨b, hb⟩ := Option.isSome_iff_exists.1 (hstored.below k hk)
    exact ⟨b, hb, hstored.covers k b hb⟩
  · rintro before after rfl k b hb
    exact batches_exec env hkeeps hb
  · intro S config size rt store _
    exact reaches_iff hstored config size store

/-! ### Two revocations and a client that has seen none -/

def publishingEnv : PublicationEnv where
  issuer := IssuerDO.batchIssuer
  route
    | .license id => (id, "app")
    | _ => (0, "app")

/-- A revocation of a license is reserved under the number `n` and published. -/
def revoked (n : ℕ) (id : LicenseId) (requestId : String) : List PublicationStep :=
  [.reserve (.license id) false 1 "ops" requestId 1000, .load 0 n, .apply 0 1000,
    .sign 0 (some IssuerDO.batchSecret), .getBatch 0, .putBatch 0, .getEpoch 0, .putEpoch 0,
    .publish 0 1001]

def twoRevoked : List PublicationStep := revoked 1 8 "first" ++ revoked 2 9 "second"

/-- A run of publications. -/
def publication (steps : List PublicationStep) : Publication :=
  exec (Publication.step publishingEnv) .new steps

theorem keepsAnswers_twoRevoked :
    Along (Publication.step publishingEnv) KeepsAnswers .new twoRevoked := by
  simp [twoRevoked, revoked, KeepsAnswers]

/-- Both batches are published, and none of them names the client's license. The client asks with
`1`, is given the batch of `2`, and fails. After the first of them it was given nothing. -/
theorem client_cannot_follow_batches :
    Along (Publication.step publishingEnv) KeepsAnswers .new twoRevoked ∧
      (publication twoRevoked).epoch = 2 ∧
      ∃ inner, (activatedSystem 0).client = some inner ∧ inner.runtime.maxRevocationEpoch = 0 ∧
        (syncRevocations sampleConfig ((publication (revoked 1 8 "first")).served fun _ => 100) 1
          [({ saves := true, wipes := true }, 1002)] inner.runtime
          (activatedSystem 0).store).2 = .unavailable ∧
        (syncRevocations sampleConfig ((publication twoRevoked).served fun _ => 100) 2
          [({ saves := true, wipes := true }, 1002)] inner.runtime
          (activatedSystem 0).store).2 = .failed (.fatal .credentialCorrupt) ∧
        ¬ Reaches sampleConfig ((publication twoRevoked).served fun _ => 100) 2 inner.runtime
          (activatedSystem 0).store := by
  refine ⟨keepsAnswers_twoRevoked, rfl, _, rfl, rfl, rfl, rfl, ?_⟩
  intro hreaches
  have hmark := (reaches_iff (exec_stored publishingEnv twoRevoked) sampleConfig (fun _ => 100)
    (activatedSystem 0).store).1 hreaches
  exact absurd hmark (by decide)

/-- The theorem at that run: the first batch is stored for good under the key `0`. -/
theorem two_revocations_published_in_order :
    Along (Publication.step publishingEnv) KeepsAnswers .new twoRevoked ∧
      ∃ b, (publication twoRevoked).batches 0 = some b ∧ b.Covers 1 :=
  ⟨keepsAnswers_twoRevoked,
    (published_in_order_and_reached_iff publishingEnv twoRevoked keepsAnswers_twoRevoked).2.1 0
      (by decide)⟩

end CopyLocker.Protocol
