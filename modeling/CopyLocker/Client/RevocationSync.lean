import CopyLocker.Client.Responses
import CopyLocker.Client.Restart

/-!
# Following revocations to a target

`sync_revocations` of the desktop client asks for the batch after its mark until the mark is the
target. What it is answered with is the server's choice in every round: nothing, an error, a batch
of any range. A call is a run of rounds here; it counts its requests and keeps the batches that it
accepted, and its result is there once it has returned. No other call changes the client meanwhile.

## Main results

* `SyncCall.sync_covers_range`: what a call that returns has done, for any answers.
-/

namespace CopyLocker.Client

open Foundation.Run Proto List

variable {S : CryptoSuite}

/-- A round of the loop: what the request is answered with, and its surroundings. -/
structure SyncRound where
  response : Except ValidationResponseError (Wire Envelope)
  io : Io
  now : ℤ

/-- The request failed, or the batch was refused. -/
inductive SyncError
  | response (error : ValidationResponseError)
  | client (error : ClientError)

/-- A call of `sync_revocations`. -/
structure SyncCall (S : CryptoSuite) where
  runtime : Runtime S
  store : KeyStore
  fetches : ℕ
  accepted : List RevocationBatch
  result : Option (Except SyncError Unit)

/-- The batch that is in a response. -/
def responseBatch (response : Wire Envelope) : Option RevocationBatch :=
  response.decoded.toOption.bind fun envelope =>
    (envelope.peekUnverified RevocationBatch).toOption

namespace SyncCall

/-- The call starts. -/
def start (rt : Runtime S) (store : KeyStore) : SyncCall S where
  runtime := rt
  store := store
  fetches := 0
  accepted := []
  result := none

/-- The result of a round in which a batch was looked at: without an error the loop goes on. -/
def afterBatch : Outcome → Option (Except SyncError Unit)
  | .error e => some (.error (.client e))
  | .ok | .retry | .aborted => none

/-- A round in which a batch is fetched. -/
def fetch (config : Config) (target : ℕ) (s : SyncCall S) (round : SyncRound) : SyncCall S :=
  match round.response with
  | .error e => { s with fetches := s.fetches + 1, result := some (.error (.response e)) }
  | .ok response =>
    let r := applyBatch config s.runtime s.store round.io s.runtime.maxRevocationEpoch target
      response round.now
    { runtime := r.runtime
      store := r.store
      fetches := s.fetches + 1
      accepted := s.accepted ++ if r.outcome = .ok then (responseBatch response).toList else []
      result := afterBatch r.outcome }

/-- A round of the loop. A call that has returned has no more rounds. -/
def step (config : Config) (target : ℕ) (s : SyncCall S) (round : SyncRound) : SyncCall S :=
  match s.result with
  | some _ => s
  | none =>
    match nextSyncStep s.runtime target with
    | .done => { s with result := some (.ok ()) }
    | .failed e => { s with result := some (.error (.client (.fatal e))) }
    | .fetch _ => s.fetch config target round

end SyncCall

/-! ### Ranges of batches -/

/-- The batches cover the numbers above `low` up to `high`, each of them once, and no others. -/
def Tiles (batches : List RevocationBatch) (low high : ℕ) : Prop :=
  ∀ n, batches.countP (fun b => b.fromEpoch ≤ n ∧ n ≤ b.toEpoch) =
    if low < n ∧ n ≤ high then 1 else 0

theorem Tiles.append {batches : List RevocationBatch} {low high : ℕ} {b : RevocationBatch}
    (h : Tiles batches low high) (hlow : low ≤ high) (hfrom : b.fromEpoch = high + 1)
    (hto : b.fromEpoch ≤ b.toEpoch) : Tiles (batches ++ [b]) low b.toEpoch := by
  intro n
  rw [countP_append, h n, countP_singleton]
  simp only [decide_eq_true_eq]
  split_ifs <;> omega

/-- The batch names the license, the machine or the signing epoch. -/
def Names (b : RevocationBatch) (ids : LicenseId × MachineId × EpochId) : Prop :=
  ids.1 ∈ b.revokedLicenseIds ∨ ids.2.1 ∈ b.revokedMachineIds ∨ ids.2.2 ∈ b.revokedEpochIds

private theorem not_names_of_revocationReason {b : RevocationBatch}
    {ids : LicenseId × MachineId × EpochId} (h : revocationReason b ids = none) :
    ¬ Names b ids := by
  unfold revocationReason at h
  dsimp only at h
  split_ifs at h with hlicense hmachine hepoch
  rw [contains_iff_mem] at hlicense hmachine hepoch
  rintro (hnamed | hnamed | hnamed)
  · exact hlicense hnamed
  · exact hmachine hnamed
  · exact hepoch hnamed

/-- A batch that is applied at the client's mark is refused, or continues at the mark, names nothing
that the client holds and moves the mark to its end. -/
theorem applyBatch_at_mark (config : Config) (rt : Runtime S) (store : KeyStore) (io : Io)
    (target : ℕ) (response : Wire Envelope) (now : ℤ) :
    let r := applyBatch config rt store io rt.maxRevocationEpoch target response now
    (∃ e, r.outcome = .error e) ∨ ∃ batch, responseBatch response = some batch ∧
        batch.fromEpoch = rt.maxRevocationEpoch + 1 ∧ batch.fromEpoch ≤ batch.toEpoch ∧
        batch.toEpoch ≤ target ∧ (∀ ids, rt.credentialIds = some ids → ¬ Names batch ids) ∧
        r.outcome = .ok ∧ r.runtime.maxRevocationEpoch = batch.toEpoch ∧
        r.runtime.credentialIds = rt.credentialIds := by
  rcases applyBatch_cases config rt store io rt.maxRevocationEpoch target response now with
    ⟨error, -, heq⟩ | ⟨hmoved, -⟩ |
    ⟨envelope, chain, batch, snapshot, revocation, hdecoded, -, -, hverified, hfine, -, heq⟩
  · exact .inl ⟨error, by rw [heq]; rfl⟩
  · exact absurd rfl hmoved
  · rw [heq]
    unfold concludeBatch
    have hids : (rt.withBatch chain revocation snapshot batch).credentialIds =
        rt.credentialIds := rfl
    split
    next reason hreason =>
      refine .inl ?_
      dsimp only [revokeLocked, wipeOutcome]
      split_ifs
      · exact ⟨_, rfl⟩
      · exact ⟨_, rfl⟩
    next hnone =>
      unfold persisting
      split
      · exact .inl ⟨_, rfl⟩
      · simp only [batchRefused, not_or, not_lt, not_not] at hfine
        obtain ⟨-, -, hfrom, hrange, htarget, -⟩ := hfine
        refine .inr ⟨batch, ?_, hfrom, hrange, htarget, ?_, rfl, rfl, hids⟩
        · rw [responseBatch, hdecoded]
          simp only [Except.toOption, Option.bind_some,
            VerifiedChain.peek_of_verifyArtifact hverified]
        · intro ids hheld
          rw [hids, hheld] at hnone
          exact not_names_of_revocationReason hnone

/-! ### Runs of a call -/

namespace SyncCall

variable {config : Config} {target : ℕ} {rt : Runtime S} {s : SyncCall S} {round : SyncRound}

/-- The call has failed. -/
def Failed (s : SyncCall S) : Prop := ∃ e, s.result = some (.error e)

/-- A call that has not failed stands where its batches end, and has made no more requests than
there are numbers up to there. -/
structure Progress (rt : Runtime S) (s : SyncCall S) : Prop where
  ids : s.runtime.credentialIds = rt.credentialIds
  fetches : rt.maxRevocationEpoch + s.fetches ≤ s.runtime.maxRevocationEpoch
  tiles : Tiles s.accepted rt.maxRevocationEpoch s.runtime.maxRevocationEpoch
  unnamed : ∀ b ∈ s.accepted, ∀ ids, rt.credentialIds = some ids → ¬ Names b ids

/-- The invariant of a call for the target that started with the runtime `rt`. -/
structure Sound (rt : Runtime S) (target : ℕ) (s : SyncCall S) : Prop where
  fetches : s.fetches ≤ target - rt.maxRevocationEpoch
  progress : ¬ s.Failed → s.Progress rt
  reached : s.result = some (.ok ()) → s.runtime.maxRevocationEpoch = target

theorem not_failed_of_running (h : s.result = none) : ¬ s.Failed := by
  rintro ⟨e, he⟩
  rw [h] at he
  cases he

theorem Sound.fetch (h : Sound rt target s) (hrunning : s.result = none)
    (hlt : s.runtime.maxRevocationEpoch < target) :
    Sound rt target (s.fetch config target round) := by
  have hprogress := h.progress (not_failed_of_running hrunning)
  have hfetches : s.fetches + 1 ≤ target - rt.maxRevocationEpoch := by
    have := hprogress.fetches
    omega
  unfold SyncCall.fetch
  split
  next e _ => exact ⟨hfetches, fun hnot => absurd ⟨_, rfl⟩ hnot, nofun⟩
  next response _ =>
    rcases applyBatch_at_mark config s.runtime s.store round.io target response round.now with
      ⟨e, houtcome⟩ | ⟨batch, hbatch, hfrom, hrange, htarget, hunnamed, houtcome, hmark, hids⟩
    · simp only [houtcome, afterBatch]
      exact ⟨hfetches, fun hnot => absurd ⟨_, rfl⟩ hnot, nofun⟩
    · simp only [houtcome, afterBatch, if_true, hbatch, Option.toList_some]
      have hbefore := hprogress.fetches
      refine ⟨hfetches, fun _ => ⟨hids.trans hprogress.ids, ?_, ?_, ?_⟩, nofun⟩
      · dsimp only
        omega
      · dsimp only
        rw [hmark]
        exact hprogress.tiles.append (by omega) hfrom hrange
      · intro b hb
        rcases mem_append.1 hb with hold | hnew
        · exact hprogress.unnamed b hold
        · rw [mem_singleton.1 hnew, ← hprogress.ids]
          exact hunnamed

theorem Sound.step (h : Sound rt target s) (round : SyncRound) :
    Sound rt target (s.step config target round) := by
  unfold SyncCall.step
  split
  · exact h
  next hrunning =>
  split
  next hdone =>
    refine ⟨h.fetches, fun _ => ?_, fun _ => ?_⟩
    · obtain ⟨hids, hfetches, htiles, hunnamed⟩ := h.progress (not_failed_of_running hrunning)
      exact ⟨hids, hfetches, htiles, hunnamed⟩
    · unfold nextSyncStep at hdone
      split_ifs at hdone with _ heq
      exact heq.symm
  next e _ => exact ⟨h.fetches, fun hnot => absurd ⟨_, rfl⟩ hnot, nofun⟩
  next cursor hfetch =>
    -- a request is made below the target only
    unfold nextSyncStep at hfetch
    split_ifs at hfetch
    exact h.fetch hrunning (by omega)

/-! ### The call returns -/

theorem exec_of_returned {result : Except SyncError Unit} (h : s.result = some result)
    (rounds : List SyncRound) : exec (step config target) s rounds = s := by
  induction rounds with
  | nil => rfl
  | cons round rounds ih =>
    have hstep : s.step config target round = s := by
      simp [step, h]
    rw [exec_cons, hstep, ih]

/-- A round after which the call goes on is a request. -/
theorem fetches_step (h : (s.step config target round).result = none) :
    (s.step config target round).fetches = s.fetches + 1 := by
  unfold step at h ⊢
  split at h
  next result hresult =>
    rw [hresult] at h
    cases h
  next hrunning =>
    split at h
    · cases h
    · cases h
    next cursor hfetch =>
      unfold fetch
      split
      · rfl
      · rfl

/-- A call that goes on after some rounds has made a request in each of them. -/
theorem fetches_exec (s : SyncCall S) (rounds : List SyncRound)
    (h : (exec (step config target) s rounds).result = none) :
    (exec (step config target) s rounds).fetches = s.fetches + rounds.length := by
  induction rounds generalizing s with
  | nil => rfl
  | cons round rounds ih =>
    rw [exec_cons] at h ⊢
    have hgoes : (s.step config target round).result = none := by
      cases hresult : (s.step config target round).result with
      | none => rfl
      | some result =>
        rw [exec_of_returned hresult, hresult] at h
        cases h
    rw [ih _ h, fetches_step hgoes, length_cons]
    omega

/-- Whatever the rounds are answered with, a call makes at most as many requests as the target is
above the mark that it started at, and has returned after one more round. If it returns without an
error, the mark is the target, the batches that were accepted cover the numbers up to it once each,
and none of them names what the client holds. -/
theorem sync_covers_range (config : Config) (target : ℕ) (rt : Runtime S) (store : KeyStore)
    (rounds : List SyncRound) :
    let s := exec (step config target) (start rt store) rounds
    s.fetches ≤ target - rt.maxRevocationEpoch ∧
      (target - rt.maxRevocationEpoch < rounds.length → s.result.isSome = true) ∧
      (s.result = some (.ok ()) → s.runtime.maxRevocationEpoch = target ∧
        Tiles s.accepted rt.maxRevocationEpoch target ∧
        ∀ b ∈ s.accepted, ∀ ids, rt.credentialIds = some ids → ¬ Names b ids) := by
  intro s
  have hnone : Tiles [] rt.maxRevocationEpoch rt.maxRevocationEpoch := by
    intro n
    rw [countP_nil, if_neg (by omega)]
  have hsound : Sound rt target s :=
    exec_induction (step config target) (fun _ round h => h.step round)
      ⟨Nat.zero_le _, fun _ => ⟨rfl, le_rfl, hnone, nofun⟩, nofun⟩ rounds
  refine ⟨hsound.fetches, fun hlong => ?_, fun hok => ?_⟩
  · by_contra hnone
    rw [Option.not_isSome_iff_eq_none] at hnone
    have hcount : s.fetches = _ + rounds.length := fetches_exec _ _ hnone
    have hfetches := hsound.fetches
    omega
  · have hprogress := hsound.progress fun ⟨e, he⟩ => by
      rw [hok] at he
      cases he
    have hmark := hsound.reached hok
    have htiles := hprogress.tiles
    rw [hmark] at htiles
    exact ⟨hmark, htiles, hprogress.unnamed⟩

/-- An activated client accepts the batch of one revocation, and returns in the round after it. -/
theorem sync_of_one_batch :
    ∃ inner, (activatedSystem 0).client = some inner ∧
      let s := exec (step sampleConfig 1) (start inner.runtime (activatedSystem 0).store)
        (replicate 2 ⟨.ok otherBatch, { saves := true, wipes := true }, 1001⟩)
      s.result = some (.ok ()) ∧ s.accepted.length = 1 ∧ Tiles s.accepted 0 1 :=
  ⟨_, rfl, rfl, rfl, ((sync_covers_range sampleConfig 1 _ _ _).2.2 rfl).2.1⟩

end SyncCall

end CopyLocker.Client
