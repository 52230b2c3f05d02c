import CopyLocker.Client.System

/-!
# Restarting the desktop client

The client keeps working across a restart only if construction accepts what the running client
wrote. It does not: the stored credential is opened again against marks that later tickets and
revocation batches have raised, although no credential can carry a counter from after its own
issue. And its own expiry is checked before the stored ticket that extended it is looked at.

## Main results

* `restart_after_raise`: once a ticket or a batch has raised a mark, no restart permits keys.
* `restart_between_expiries`: between the credential's expiry and the ticket's no restart succeeds.
-/

namespace CopyLocker.Client

open CopyLocker.Core Foundation.Run Proto Suite Section

variable {S : CryptoSuite}

/-- A client constructed from the store starts in a state that permits keys. -/
def RestartPermits (S : CryptoSuite) (config : Config) (store : KeyStore) (generated : DeviceKeys)
    (now : ℤ) : Prop :=
  ∃ inner : Inner S, construct S config store generated now = .ok inner ∧
    inner.runtime.state.state.permitsKeyDerivation = true

/-- The outcomes of a call that has taken over a ticket or a batch and written it. -/
def Outcome.accepted : Outcome → Bool
  | .ok | .error .reactivationRequired | .error .versionOutOfScope => true
  | _ => false

/-- The calls that take over a validation ticket or a revocation batch. -/
def Operation.isEvidence : Operation → Bool
  | .acceptTicket _ _ | .applyBatch _ _ _ => true
  | _ => false

/-! ### What an accepted ticket or batch leaves in the store -/

/-- The stored credential is the one from before, and the new runtime has been written. -/
structure Section.Kept (rt : Runtime S) (r : Section S) : Prop where
  stored : r.runtime.storedEnvelope = rt.storedEnvelope
  recorded : ∃ record, r.store = some record ∧ Recorded r.runtime record

section Kept

variable {rt rt' : Runtime S} {store : KeyStore} {io : Io} {now : ℤ}

theorem kept_persisting {outcome : Outcome} (hstored : rt'.storedEnvelope = rt.storedEnvelope)
    (h : (persisting rt' store io outcome).outcome.accepted) :
    Kept rt (persisting rt' store io outcome) := by
  unfold persisting at h ⊢
  split
  next e hpersist =>
    rw [hpersist] at h
    cases h
  next store' hpersist => exact ⟨hstored, persistLocked_eq_ok hpersist⟩

variable {config : Config} {response : Wire Envelope} {envelope : Envelope} {nonce : ByteId 32}

theorem kept_acceptTicket
    (h : (acceptTicket config rt store io response envelope nonce now).outcome.accepted) :
    Kept rt (acceptTicket config rt store io response envelope nonce now) := by
  revert h
  fun_cases acceptTicket config rt store io response envelope nonce now with intro h
  | case7 c _ ticket _ clock _ _ _ _ _ _ snapshot hsnapshot =>
    -- a ticket is accepted by the section's last branch only
    refine kept_persisting ?_ h
    have hsame : rt.snapshot = some snapshot := hsnapshot
    simp [Runtime.storedEnvelope, hsame]
  | _ => cases h

private theorem kept_applyBatch {current target : ℕ}
    (h : (applyBatch config rt store io current target response now).outcome.accepted) :
    Kept rt (applyBatch config rt store io current target response now) := by
  rcases applyBatch_cases config rt store io current target response now with
    ⟨error, herror, heq⟩ | ⟨-, heq⟩ |
    ⟨envelope, chain, batch, snapshot, revocation, -, -, -, -, -, hsnapshot, heq⟩
  · rw [heq] at h
    rcases herror with rfl | ⟨e, rfl⟩
    · cases h
    · cases h
  · rw [heq] at h
    cases h
  · rw [heq] at h ⊢
    unfold concludeBatch at h ⊢
    split at h
    next reason hreason =>
      -- a batch that names the client is not accepted
      dsimp only [revokeLocked, wipeOutcome] at h
      split_ifs at h <;> cases h
    next hnone =>
      refine kept_persisting ?_ h
      simp [Runtime.withBatch, Runtime.storedEnvelope, hsnapshot]

end Kept

variable {store : KeyStore} {rt : Runtime S}

/-- An accepted ticket or batch keeps the stored credential and writes the new marks. -/
theorem kept_of_accepted {config : Config} {inner : Inner S} {c : Call}
    (hop : c.operation.isEvidence)
    (h : (perform config inner store c).outcome.accepted) :
    Kept inner.runtime (perform config inner store c) := by
  unfold perform at h ⊢
  cases hc : c.operation with
  | acceptTicket response nonce =>
    simp only [hc, withEnvelope] at h ⊢
    cases hdecoded : orFatal response.decoded with
    | error e =>
      simp only [hdecoded] at h
      cases h
    | ok envelope =>
      simp only [hdecoded] at h ⊢
      exact kept_acceptTicket h
  | applyBatch current target response =>
    simp only [hc] at h ⊢
    exact kept_applyBatch h
  | _ =>
    rw [hc] at hop
    cases hop

/-! ### Raised marks -/

/-- A record whose marks are beyond those that covered its credential does not restart into a
state that permits keys. -/
theorem not_restartPermits_of_raised {rt' : Runtime S} {record : StoreRecord} (hrt : rt.Consistent)
    (hstored : rt'.storedEnvelope = rt.storedEnvelope) (hrecorded : Recorded rt' record)
    (hraise : rt.maxSecurityFloor < rt'.maxSecurityFloor ∨
      rt.maxRevocationEpoch < rt'.maxRevocationEpoch)
    (config : Config) (generated : DeviceKeys) (now : ℤ) :
    ¬ RestartPermits S config (some record) generated now := by
  rintro ⟨inner, hconstruct, hpermits⟩
  obtain hblank | ⟨encoded, envelope, hstarts⟩ := construct_cases hconstruct
  · rw [hblank.state] at hpermits
    cases hpermits
  · obtain ⟨record', snapshot, hstore, hdecoded, hencoded, rt₀, hloaded, hfloor, hepoch⟩ :=
      hstarts.record
    cases hstore
    -- the opened envelope is the one that the old marks covered
    have hsame : rt.storedEnvelope = some encoded := by
      rw [← hstored, hrecorded.storedEnvelope hdecoded, hencoded]
    obtain ⟨p, hp, hpfloor, hpepoch⟩ := hloaded.opened.counters
    have hcovered := hrt.marked encoded envelope hsame hstarts.decoded p hp
    have hwritten := hrecorded.securityFloor
    have hwritten' := hrecorded.revocationEpoch
    omega

/-- In every run of the client, from any contents of the store: once a ticket or a batch that it
accepted has raised one of its marks, no client constructed from the store starts in a state that
permits keys, at any time. -/
theorem restart_after_raise (config : Config) (store : KeyStore) (calls : List Call)
    {inner : Inner S}
    (hrun : (exec (step config) (.stopped S store) calls).client = some inner)
    (c : Call) (hop : c.operation.isEvidence) (r : Section S)
    (hr : perform config inner
      (exec (step config) (.stopped S store) calls).store c = r)
    (haccepted : r.outcome.accepted)
    (hraise : inner.runtime.maxSecurityFloor < r.runtime.maxSecurityFloor ∨
      inner.runtime.maxRevocationEpoch < r.runtime.maxRevocationEpoch)
    (generated : DeviceKeys) (now : ℤ) :
    ¬ RestartPermits S config r.store generated now := by
  have hconsistent := exec_consistent config store calls inner hrun
  subst hr
  obtain ⟨hstored, record, hstore, hrecorded⟩ := kept_of_accepted hop haccepted
  rw [hstore]
  exact not_restartPermits_of_raised hconsistent hstored hrecorded hraise config generated now

/-! ### Extended expiries -/

/-- The stored record, if it can be read, holds this machine credential. -/
def StoreHolds (c : MachineCredential) (store : KeyStore) : Prop :=
  ∃ record, store = some record ∧
    ∀ snapshot, record.payload.decoded = .ok snapshot → Stores c snapshot.credentialEnvelope

/-- A client runs and holds this machine credential. -/
def System.Holds (c : MachineCredential) (sys : System S) : Prop :=
  ∃ inner, sys.client = some inner ∧ inner.runtime.credential = some c

section Extended

variable {config : Config} {c : MachineCredential}

theorem storeHolds_of_recorded {record : StoreRecord} (hrecorded : Recorded rt record)
    (hc : Stores c rt.storedEnvelope) : StoreHolds c (some record) := by
  refine ⟨record, rfl, ?_⟩
  intro snapshot hdecoded
  rw [← hrecorded.storedEnvelope hdecoded]
  exact hc

theorem Section.Sound.storeHolds {r : Section S} (h : Sound rt store r)
    (hstore : StoreHolds c store) (hc : Stores c r.runtime.storedEnvelope) :
    StoreHolds c r.store := by
  rcases h.store with hsame | ⟨-, hnone⟩ | ⟨record, hrecord, hrecorded⟩
  · rw [hsame]
    exact hstore
  · obtain ⟨encoded, -, hencoded, -⟩ := hc
    rw [hnone] at hencoded
    cases hencoded
  · rw [hrecord]
    exact storeHolds_of_recorded hrecorded hc

/-- As long as the client holds the credential, so does the store. -/
theorem step_storeHolds {sys : System S} {call : Call} (hsys : sys.Consistent)
    (hstore : StoreHolds c sys.store) (hholds : (step config sys call).Holds c) :
    StoreHolds c (step config sys call).store := by
  have hconsistent := step_consistent config hsys call
  obtain ⟨inner', hinner', hc⟩ := hholds
  have hstored := (hconsistent inner' hinner').credential c hc
  obtain ⟨hsame, -⟩ | ⟨inner, -, hperformed, hruntime⟩ := client_of_step hinner'
  · rw [hsame]
    exact hstore
  · rw [hruntime] at hstored
    rw [hperformed]
    exact (perform_sound config inner sys.store call).storeHolds hstore hstored

/-- A stored machine credential that has run out is not opened, whatever ticket is stored with
it. -/
theorem construct_of_expired {now : ℤ} (hstore : StoreHolds c store) (hlimited : c.notAfter ≠ 0)
    (hexpired : c.notAfter ≤ now) (generated : DeviceKeys) (inner : Inner S) :
    construct S config store generated now ≠ .ok inner := by
  intro hconstruct
  obtain ⟨record, rfl, hrecord⟩ := hstore
  obtain hblank | ⟨encoded, envelope, hstarts⟩ := construct_cases hconstruct
  · -- the record holds a credential, so the client does not start blank
    obtain ⟨state, snapshot, m, hrestore, -⟩ := construct_eq_ok hconstruct
    have hdecoded := (restoreState_some hrestore).1
    obtain ⟨encoded, -, hencoded, -⟩ := hrecord snapshot hdecoded
    rw [hblank.record record snapshot rfl hdecoded] at hencoded
    cases hencoded
  · obtain ⟨record', snapshot, hsome, hdecoded, hencoded, rt, hloaded, -⟩ := hstarts.record
    cases hsome
    obtain ⟨encoded', envelope', hencoded', hdecoded', hpeek⟩ := hrecord snapshot hdecoded
    rw [hencoded] at hencoded'
    cases hencoded'
    rw [hstarts.decoded] at hdecoded'
    cases hdecoded'
    have hnow : now ≤ rt.effectiveNow now := by
      simp only [Runtime.effectiveNow, ClockState.effectiveNow]
      split_ifs <;> omega
    cases hloaded.opened with
    | credential c' hpeek' hfine =>
      rw [hpeek] at hpeek'
      cases hpeek'
      simp only [credentialRefused, not_or] at hfine
      omega
    | olk l hpeek' hfine =>
      have hkind := EnvelopeOf.kind_of_peekUnverified hpeek
      have hkind' := EnvelopeOf.kind_of_peekUnverified hpeek'
      rw [hkind] at hkind'
      cases hkind'

/-- The call accepts the ticket, with this result. -/
structure AcceptsTicket (config : Config) (inner : Inner S) (store : KeyStore) (call : Call)
    (t : ValidationTicket) (r : Section S) : Prop where
  opens : ∃ response nonce envelope, call.operation = .acceptTicket response nonce ∧
    response.decoded = .ok envelope ∧
    openOnline ValidationTicket config inner.runtime envelope call.now = .ok t
  result : perform config inner store call = r
  accepted : r.outcome.accepted = true

/-- The instants from the credential's expiry until the ticket's. -/
def BetweenExpiries (c : MachineCredential) (t : ValidationTicket) (now : ℤ) : Prop :=
  c.notAfter ≠ 0 ∧ c.notAfter ≤ now ∧ (t.notAfter = 0 ∨ now < t.notAfter)

/-- A client constructed from the store has the running client's deadlines, and answers a tick with
the same permission. -/
def System.RestartKeeps (config : Config) (sys : System S) (generated : DeviceKeys) (now : ℤ) :
    Prop :=
  ∃ inner inner', sys.client = some inner ∧
    construct S config sys.store generated now = .ok inner' ∧
    inner'.runtime.state.deadlines = inner.runtime.state.deadlines ∧
    (inner'.runtime.handle .tick now).state.state.permitsKeyDerivation =
      (inner.runtime.handle .tick now).state.state.permitsKeyDerivation

/-- In every run, from any contents of the store: after the client has accepted a ticket, and as
long as it holds the credential, no restart between the expiry of the credential and that of the
ticket keeps what the running client has, because none succeeds. -/
theorem restart_between_expiries (store : KeyStore) (calls : List Call) {inner : Inner S}
    (hrun : (exec (step config) (.stopped S store) calls).client = some inner)
    (hc : inner.runtime.credential = some c) {call : Call} {t : ValidationTicket} {r : Section S}
    (haccepts : AcceptsTicket config inner
      (exec (step config) (.stopped S store) calls).store call t r)
    (later : List Call)
    (hlater : Along (step config) (fun sys call => (step config sys call).Holds c)
      (r.system inner) later)
    (generated : DeviceKeys) {now : ℤ} (hbetween : BetweenExpiries c t now) :
    ¬ (exec (step config) (r.system inner) later).RestartKeeps config generated now := by
  have hconsistent := exec_consistent config store calls inner hrun
  obtain ⟨⟨response, nonce, envelope, hop, -, -⟩, hr, haccepted⟩ := haccepts
  have hevidence : call.operation.isEvidence := by
    rw [hop]
    rfl
  have hsound := perform_sound config inner
    (exec (step config) (.stopped S store) calls).store call
  rw [hr] at hsound
  obtain ⟨hstored, record, hrecord, hrecorded⟩ := hr ▸ kept_of_accepted hevidence (hr ▸ haccepted)
  have hwritten : StoreHolds c r.store := by
    rw [hrecord]
    refine storeHolds_of_recorded hrecorded ?_
    rw [hstored]
    exact hconsistent.credential c hc
  have hsys : (r.system inner).Consistent := by
    intro inner' hinner'
    dsimp only [system] at hinner'
    split_ifs at hinner'
    cases hinner'
    exact hsound.change.consistent hconsistent
  have hholds := exec_induction_along (I := fun sys : System S => sys.Consistent ∧
      StoreHolds c sys.store) (P := fun sys call => (step config sys call).Holds c)
    (fun sys call h hP => ⟨step_consistent config h.1 call, step_storeHolds h.1 h.2 hP⟩)
    ⟨hsys, hwritten⟩ hlater
  rintro ⟨-, inner', -, hconstruct, -⟩
  exact construct_of_expired hholds.2 hbetween.1 hbetween.2.1 generated inner' hconstruct

end Extended

/-! ### A batch that names another license -/

/-- A suite whose keys accept everything. -/
def sampleSuite : CryptoSuite where
  suiteId := 0x01000001
  primitives := .permissive Tbs
  sig := hybridSig (.permissive Tbs)
  hash _ := 0
  Material := Unit
  validKemKey _ := true
  bindCredential _ _ := some ()
  bindOlk _ := some ()
  setOnlineSession material _ _ := material

def sampleRootKey : Bytes := List.replicate 32 0

/-- The configuration of the runs below. -/
def sampleConfig : Config where
  productId := "app"
  supportedSuites := [0x01000001]
  buildFingerprint := "build"
  variantId := 1
  currentRootKey := sampleRootKey
  nextRootKey := none
  allowUnboundOlk := false
  core := .default
  fingerprint := [7]

def sampleKeys : DeviceKeys := { kem := [1], signing := List.replicate 32 1 }

/-- A keyset with the epoch `5`. -/
def sampleKeyset : Keyset where
  protoVer := 1
  epochCertificates := [certificateOf 5]
  revocationEpoch := 0

/-- A call while the store works. -/
def sampleCall (now : ℤ) (operation : Operation) : Call :=
  { now, io := { saves := true, wipes := true }, operation }

/-- Start without a record, and activate. -/
def activation (notAfter : ℤ) : List Call :=
  [sampleCall 1000 (.start sampleKeys), sampleCall 1000 (.installKeyset sampleKeyset),
    sampleCall 1000 (.activateInstall
      (sampleEnvelope .machineCred (.machineCred (sampleCredential notAfter)) (some 5)) 0)]

/-- A run of the client over an empty store. -/
def sampleRun (calls : List Call) : System sampleSuite :=
  exec (step sampleConfig) (.stopped sampleSuite none) calls

/-- The client after an activation. -/
def activatedSystem (notAfter : ℤ) : System sampleSuite :=
  sampleRun (activation notAfter)

/-- The batch that revokes license `9`. -/
def otherBatch : Wire Envelope :=
  sampleEnvelope .revocationBatch (.revocationBatch
    { protoVer := 1, suiteId := 0x01000001, fromEpoch := 1, toEpoch := 1, issuedAt := 1001,
      revokedLicenseIds := [9], revokedMachineIds := [], revokedEpochIds := [] }) (some 5)

def otherRevoked : Call := sampleCall 1001 (.applyBatch 0 1 otherBatch)

/-- An active client applies a batch that names another license, and can no longer be started. -/
theorem other_revocation_prevents_restart :
    ∃ inner r, (activatedSystem 0).client = some inner ∧
      inner.runtime.state.state.permitsKeyDerivation = true ∧
      perform sampleConfig inner (activatedSystem 0).store otherRevoked = r ∧ r.outcome = .ok ∧
      inner.runtime.maxRevocationEpoch < r.runtime.maxRevocationEpoch ∧
      construct sampleSuite sampleConfig r.store sampleKeys 1001 =
        .error (.fatal .revocationRollback) ∧
      ¬ RestartPermits sampleSuite sampleConfig r.store sampleKeys 1001 := by
  refine ⟨_, _, rfl, rfl, rfl, rfl, by decide, rfl, ?_⟩
  rintro ⟨inner, hconstruct, -⟩
  cases hconstruct

/-- The theorem at that run. -/
theorem restart_after_raise_other_revocation :
    ∃ inner r, (activatedSystem 0).client = some inner ∧
      perform sampleConfig inner (activatedSystem 0).store otherRevoked = r ∧
      r.outcome.accepted = true ∧
      (inner.runtime.maxSecurityFloor < r.runtime.maxSecurityFloor ∨
        inner.runtime.maxRevocationEpoch < r.runtime.maxRevocationEpoch) ∧
      ¬ RestartPermits sampleSuite sampleConfig r.store sampleKeys 1001 :=
  ⟨_, _, rfl, rfl, rfl, .inr (by decide),
    restart_after_raise sampleConfig none (activation 0) rfl otherRevoked rfl _ rfl rfl
      (.inr (by decide)) sampleKeys 1001⟩

/-! ### A ticket that extends the credential -/

/-- A ticket at `1500` that expires at `100000`. -/
def extendedTicket : ValidationTicket :=
  { zeroTicket 1500 with
    machineId := 2, nonceCEcho := 3, nextRefreshAfter := 60000, notAfter := 100000, epochId := 5 }

/-- The ticket under the epoch's fast key. -/
def extendedResponse : Wire Envelope where
  size := 100
  decoded := .ok
    { protoVer := 1, suiteId := 0x01000001, kind := .validationTicket,
      tbs := .validationTicket extendedTicket, sig := List.replicate 64 0, epochRef := some 5 }

/-- The call that accepts it. -/
def ticketAccepted : Call := sampleCall 1500 (.acceptTicket extendedResponse 3)

/-- A credential that ran out at `2000` was extended until `100000`. At `3000` the running client
goes on permitting keys, and a restart fails. -/
theorem extended_credential_prevents_restart :
    ∃ inner r, (activatedSystem 2000).client = some inner ∧
      inner.runtime.credential = some (sampleCredential 2000) ∧
      AcceptsTicket sampleConfig inner (activatedSystem 2000).store ticketAccepted
        extendedTicket r ∧
      BetweenExpiries (sampleCredential 2000) extendedTicket 3000 ∧
      (r.runtime.handle .tick 3000).state.state.permitsKeyDerivation = true ∧
      construct sampleSuite sampleConfig r.store sampleKeys 3000 =
        .error (.fatal .credentialCorrupt) ∧
      ¬ (r.system inner).RestartKeeps sampleConfig sampleKeys 3000 := by
  refine ⟨_, _, rfl, rfl, ⟨⟨_, _, _, rfl, rfl, rfl⟩, rfl, rfl⟩, ?_, rfl, rfl, ?_⟩
  · unfold BetweenExpiries
    decide
  · rintro ⟨-, inner', -, hconstruct, -⟩
    cases hconstruct

/-- The theorem at that run, after one more request for a feature key. -/
theorem restart_between_expiries_extended :
    ∃ inner r, (activatedSystem 2000).client = some inner ∧
      AcceptsTicket sampleConfig inner (activatedSystem 2000).store ticketAccepted
        extendedTicket r ∧
      Along (step sampleConfig)
        (fun sys call => (step sampleConfig sys call).Holds (sampleCredential 2000))
        (r.system inner) [sampleCall 2500 .featureKey] ∧
      ¬ (exec (step sampleConfig) (r.system inner) [sampleCall 2500 .featureKey]).RestartKeeps
        sampleConfig sampleKeys 3000 := by
  refine ⟨_, _, rfl, ⟨⟨_, _, _, rfl, rfl, rfl⟩, rfl, rfl⟩, ⟨⟨_, rfl, rfl⟩, trivial⟩, ?_⟩
  exact restart_between_expiries none (activation 2000) rfl rfl
    ⟨⟨_, _, _, rfl, rfl, rfl⟩, rfl, rfl⟩ [sampleCall 2500 .featureKey] ⟨⟨_, rfl, rfl⟩, trivial⟩
    sampleKeys (by unfold BetweenExpiries; decide)

end CopyLocker.Client
