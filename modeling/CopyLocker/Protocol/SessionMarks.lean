import CopyLocker.Protocol.RestartGrants
import CopyLocker.Wasm.Marks

/-!
# Marks of a browser session along a run

A session's marks protect against old artifacts. They fail in two ways. A snapshot brings its own
marks, so importing an old one lets the session forget what it has seen. And the revocation mark is
raised by a number that nobody signed, the one of a keyset, after which the signed artifacts of an
honest server are too old.
-/

namespace CopyLocker.Wasm.Session

open Foundation.Run Proto Client Protocol

variable {S : CryptoSuite}

/-! ### Imported marks -/

/-- In every run whose accepted imports bring the session's marks along, no mark ever decreases. -/
theorem marks_advance (config : Config) (anchors : TrustAnchors S) (s : Session S)
    (calls : List SessionCall)
    (hbrings : Along (step config anchors) (fun s call => s.Brings config anchors call) s calls)
    (pre mid post : List SessionCall) (hsplit : calls = pre ++ mid ++ post) :
    (exec (step config anchors) s pre).Advances (exec (step config anchors) s (pre ++ mid)) := by
  subst hsplit
  rw [along_append, along_append] at hbrings
  rw [exec_append]
  exact exec_induction_along (I := fun s' => (exec (step config anchors) s pre).Advances s')
    (fun s' call h hcall => h.trans (s'.advances_step hcall)) (.refl _) hbrings.1.2

/-- A session that has seen the time `5000` and the epoch `7`. -/
def raised : List SessionCall :=
  [hostTick 5000,
    ⟨5000, .ingestKeyset (.ok { sampleKeyset with revocationEpoch := 7 })⟩]

/-- What a session exports. -/
def blobOf (s : Session S) : SnapshotBlob :=
  { size := s.snapshot.encodedLen, decoded := s.snapshot }

def freshSession : Session sampleSuite := new sampleConfig 1000

def raisedSession : Session sampleSuite :=
  exec (step sampleConfig sampleAnchors) freshSession raised

/-- A session imports the snapshot that it exported at its start, and forgets what it has seen. -/
theorem import_lowers_marks :
    freshSession.snapshotExport = .ok (blobOf freshSession) ∧
      ¬ (exec (step sampleConfig sampleAnchors) freshSession raised).Advances
        (exec (step sampleConfig sampleAnchors) freshSession
          (raised ++ [⟨1000, .snapshotImport (blobOf freshSession)⟩])) := by
  refine ⟨by rfl, fun h => ?_⟩
  have hepoch : 7 ≤ 0 := h.epoch
  omega

/-- A later snapshot brings the marks along. -/
theorem marks_advance_raised :
    (exec (step sampleConfig sampleAnchors) freshSession raised).Advances
      (exec (step sampleConfig sampleAnchors) freshSession
        (raised ++ [⟨5000, .snapshotImport (blobOf raisedSession)⟩])) := by
  refine marks_advance sampleConfig sampleAnchors freshSession
    (raised ++ [⟨5000, .snapshotImport (blobOf raisedSession)⟩]) ?_ raised
    [⟨5000, .snapshotImport (blobOf raisedSession)⟩] [] rfl
  refine ⟨?_, ?_, ?_, trivial⟩
  · exact brings_of_not_import _ rfl
  · exact brings_of_not_import _ rfl
  · rintro blob hblob - - snap hsnap
    obtain rfl : blobOf raisedSession = blob := SessionOp.snapshotImport.inj hblob
    obtain rfl : raisedSession.snapshot = snap := Option.some.inj hsnap
    exact ⟨le_rfl, le_rfl, .inl le_rfl⟩

/-! ### The number of a keyset -/

/-- The operation fails closed because of a revocation epoch below the session's. -/
def RejectsAsRollback (config : Config) (anchors : TrustAnchors S) (s : Session S)
    (call : SessionCall) : Prop :=
  (s.answer config anchors call).2 = .error (fatalCode .revocationRollback)

/-- Ingesting the keyset leaves the revocation mark alone, and its number makes no later operation
fail that would not fail after the same keyset with the session's own number. -/
def KeysetHarmless (config : Config) (anchors : TrustAnchors S) (s : Session S) (keyset : Keyset)
    (now : ℤ) : Prop :=
  let ingested (k : Keyset) : Session S := (s.ingestKeyset config anchors (.ok k) now).1
  (ingested keyset).maxRevocationEpoch = s.maxRevocationEpoch ∧ ∀ calls call,
      (exec (step config anchors) (ingested keyset) calls).RejectsAsRollback config anchors call →
        (exec (step config anchors)
          (ingested { keyset with revocationEpoch := s.maxRevocationEpoch })
          calls).RejectsAsRollback config anchors call

/-- What an accepted keyset does to the revocation mark. -/
theorem ingestKeyset_eq_ok {config : Config} {anchors : TrustAnchors S} {s : Session S}
    {keyset : Keyset} {now : ℤ}
    (h : (s.ingestKeyset config anchors (.ok keyset) now).2 = .ok none) :
    s.maxRevocationEpoch ≤ keyset.revocationEpoch ∧
      (s.ingestKeyset config anchors (.ok keyset) now).1.maxRevocationEpoch =
        max s.maxRevocationEpoch keyset.revocationEpoch := by
  have hbytes : orFatal (.ok keyset : Except ProtoError Keyset) = .ok keyset := rfl
  unfold ingestKeyset at h ⊢
  rw [hbytes] at h ⊢
  dsimp only at h ⊢
  split at h
  · cases h
  next chain hchain =>
  refine ⟨?_, rfl⟩
  by_contra hbehind
  unfold TrustAnchors.verifyKeyset at hchain
  rw [if_pos (not_le.1 hbehind)] at hchain
  split_ifs at hchain <;> cases hchain

/-- An accepted keyset is harmless exactly when its number is not above the session's. -/
theorem keysetHarmless_iff (config : Config) (anchors : TrustAnchors S) (s : Session S)
    (keyset : Keyset) (now : ℤ)
    (haccepted : (s.ingestKeyset config anchors (.ok keyset) now).2 = .ok none) :
    s.KeysetHarmless config anchors keyset now ↔ keyset.revocationEpoch ≤ s.maxRevocationEpoch := by
  obtain ⟨hle, hmark⟩ := ingestKeyset_eq_ok haccepted
  constructor
  · rintro ⟨hsame, -⟩
    have hmax : keyset.revocationEpoch ≤ max s.maxRevocationEpoch keyset.revocationEpoch :=
      le_max_right ..
    rwa [← hmark, hsame] at hmax
  · intro hge
    have hown : { keyset with revocationEpoch := s.maxRevocationEpoch } = keyset := by
      rw [le_antisymm hle hge]
    refine ⟨?_, fun calls call hrejects => ?_⟩
    · rw [hmark, max_eq_left hge]
    · rw [hown]
      exact hrejects

/-- A session with device keys. -/
def keyedSession : Session sampleSuite :=
  (new sampleConfig 1000).step sampleConfig sampleAnchors
    ⟨1000, .deviceKeygen (some sampleKeys)⟩

/-- The sample keyset with a number of its own, and the session that has ingested it. -/
def keysetWith (number : ℕ) : Keyset := { sampleKeyset with revocationEpoch := number }

def ingestedSession (number : ℕ) : Session sampleSuite :=
  keyedSession.step sampleConfig sampleAnchors
    ⟨1000, .ingestKeyset (.ok (keysetWith number))⟩

/-- The certificates of both keysets verify. After the one with the number `7` the activation of an
honest server is refused and the session wiped; after the one with the session's own number it
succeeds. -/
theorem unsigned_number_locks_out :
    (keyedSession.ingestKeyset sampleConfig sampleAnchors (.ok (keysetWith 7)) 1000).2 = .ok none ∧
      (ingestedSession 7).RejectsAsRollback sampleConfig sampleAnchors
        ⟨1000, .ingestActivateResponse activationResponse⟩ ∧
      ((ingestedSession 0).answer sampleConfig sampleAnchors
        ⟨1000, .ingestActivateResponse activationResponse⟩).2 = .ok none := by
  exact ⟨rfl, rfl, rfl⟩

/-- A keyset with the session's own number is harmless. -/
theorem keysetHarmless_own :
    keyedSession.KeysetHarmless sampleConfig sampleAnchors (keysetWith 0) 1000 :=
  (keysetHarmless_iff sampleConfig sampleAnchors keyedSession (keysetWith 0) 1000 rfl).2 le_rfl

end CopyLocker.Wasm.Session
