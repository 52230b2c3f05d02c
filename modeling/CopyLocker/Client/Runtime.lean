import CopyLocker.Client.Trust

/-!
# The client's memory, and how it is rebuilt

What a running client keeps under its lock (`Runtime` of `copylocker-client::client`), how it is
written to the store, and `construct`, which rebuilds it from there: the stored credential is
opened again, the stored ticket is checked again, and the state machine is told.

A ticket check that overflows ends the process; construction answers `aborted` there. The
background scheduler's own bookkeeping is left out.

## Main results

* `persistLocked_eq_ok`: what a successful write leaves in the store.
* `loadStored_eq_ok`: loading opens the stored artifact under the marks it starts from.
* `construct_cases`: a constructed client holds no credential, or has opened the record's.
-/

namespace CopyLocker.Client

open CopyLocker.Core Foundation Proto Suite Result

/-- An error that says nothing about the license. -/
inductive LocalError
  | store (error : StoreError)
  | snapshotCorrupt
  | stateUnavailable
  deriving DecidableEq

/-- Why a client could not be constructed. -/
inductive ClientInitError
  | invalidClientInfo
  | localError (error : LocalError)
  | fatal (error : FatalError)
  | unboundOlkDisabled
  | aborted
  deriving DecidableEq

/-- The state under the client's lock. -/
structure Runtime (S : CryptoSuite) where
  state : StateMachine
  snapshot : Option ClientSnapshot
  credential : Option MachineCredential
  olk : Option OfflineLicenseKey
  material : Option S.Material
  entitlements : Entitlements
  offlineWrappedKeks : WrappedKeks
  onlineWrappedKeks : WrappedKeks
  chain : Option (VerifiedChain S.sig)
  maxSecurityFloor : ℕ
  maxRevocationEpoch : ℕ

variable {S : CryptoSuite} (config : Config) (anchors : TrustAnchors S) (rt : Runtime S)

namespace Runtime

/-- Pass an event to the state machine. -/
def handle (event : Event) (now : ℤ) : Runtime S :=
  { rt with state := (rt.state.handle event now).1 }

/-- The time that verification uses. -/
def effectiveNow (now : ℤ) : ℤ := rt.state.clock.effectiveNow now

/-- Raise the two marks. -/
def raise (securityFloor revocationEpoch : ℕ) : Runtime S :=
  { rt with
    maxSecurityFloor := max rt.maxSecurityFloor securityFloor
    maxRevocationEpoch := max rt.maxRevocationEpoch revocationEpoch }

/-- Tell the state machine and forget everything but it and the marks. The event is one that the
table answers without looking at the time. -/
def wiped (event : Event) (now : ℤ) : Runtime S :=
  { rt.handle event now with
    snapshot := none
    credential := none
    olk := none
    material := none
    entitlements := .empty
    offlineWrappedKeks := []
    onlineWrappedKeks := []
    chain := none }

/-- The marks that are written with the snapshot. -/
def monotonic : MonotonicState where
  lastSeenMax := rt.state.clock.lastSeenMax
  lastServerTime := rt.state.clock.lastServerTime
  rollbackEvents := rt.state.clock.rollbackEvents
  maxSeenSecurityFloor := rt.maxSecurityFloor
  maxSeenRevocationEpoch := rt.maxRevocationEpoch

end Runtime

/-- Write the snapshot and the marks to the store. -/
def persistLocked (store : KeyStore) (available : Bool) : Except LocalError KeyStore :=
  match rt.snapshot with
  | none => .error .stateUnavailable
  | some snapshot =>
    match snapshot.encode with
    | .error _ => .error .snapshotCorrupt
    | .ok payload =>
      match ({ monotonic := rt.monotonic, payload } : StoreRecord).encode with
      | .error e => .error (.store e)
      | .ok record =>
        match store.save record available with
        | .error e => .error (.store e)
        | .ok store => .ok store

/-! ### Construction -/

/-- Both stored device keys can be read. -/
def validateDeviceKeys (S : CryptoSuite) (snapshot : ClientSnapshot) : Bool :=
  S.validKemKey snapshot.kemSecretKey &&
    match (fastSig S.primitives).decodeSk snapshot.signingSecretKey with
    | .ok _ => true
    | .error _ => false

/-- The state machine, snapshot and marks of the store, or fresh ones. -/
def restoreState (S : CryptoSuite) (config : Config) (store : KeyStore)
    (generated : DeviceKeys) (now : ℤ) :
    Except ClientInitError (StateMachine × ClientSnapshot × MonotonicState) :=
  match store with
  | none =>
    .ok (.new config.core now, .new generated,
      { lastSeenMax := now, lastServerTime := now, rollbackEvents := 0, maxSeenSecurityFloor := 0,
        maxSeenRevocationEpoch := 0 })
  | some record =>
    match record.payload.decoded with
    | .error _ => .error (.localError .snapshotCorrupt)
    | .ok snapshot =>
      if ¬ validateDeviceKeys S snapshot then .error (.fatal .credentialCorrupt)
      else
        let m := record.monotonic
        match ClockState.fromPersisted m.lastSeenMax m.lastServerTime m.rollbackEvents with
        | none => .error (.localError .snapshotCorrupt)
        | some clock => .ok ({ StateMachine.new config.core m.lastSeenMax with clock }, snapshot, m)

/-- A runtime without credential. -/
def Runtime.blank (state : StateMachine) (snapshot : ClientSnapshot) (m : MonotonicState) :
    Runtime S where
  state
  snapshot := some snapshot
  credential := none
  olk := none
  material := none
  entitlements := .empty
  offlineWrappedKeks := []
  onlineWrappedKeks := []
  chain := none
  maxSecurityFloor := m.maxSeenSecurityFloor
  maxRevocationEpoch := m.maxSeenRevocationEpoch

/-- The keyset of the stored certificates. -/
def storedKeyset (snapshot : ClientSnapshot) (revocationEpoch : ℕ) : Keyset :=
  { protoVer := Proto.protoVer, epochCertificates := snapshot.epochCertificates, revocationEpoch }

/-- An answer that is fatal when it is an error. -/
def orInit {α : Type} : Except FatalError α → Except ClientInitError α
  | .ok a => .ok a
  | .error e => .error (.fatal e)

/-- Hold an opened offline license key. -/
def Runtime.withOlk (l : OfflineLicenseKey) (material : S.Material) (chain : VerifiedChain S.sig) :
    Runtime S :=
  { rt.raise l.securityFloor l.revocationEpoch with
    state := rt.state.setDeadlines (olkDeadlines l)
    credential := none
    olk := some l
    material := some material
    entitlements := l.entitlements
    offlineWrappedKeks := l.wrappedKeks
    onlineWrappedKeks := []
    chain := some chain }

/-- Hold an opened machine credential. -/
def Runtime.withCredential (c : MachineCredential) (material : S.Material)
    (chain : VerifiedChain S.sig) : Runtime S :=
  { rt.raise c.securityFloor c.revocationEpoch with
    state := rt.state.setDeadlines (credentialDeadlines c)
    credential := some c
    olk := none
    material := some material
    entitlements := c.entitlements
    offlineWrappedKeks := c.wrappedKeks
    onlineWrappedKeks := []
    chain := some chain }

/-- Take over what a checked ticket says, for a client with this credential. -/
def Runtime.withTicket (c : MachineCredential) (t : ValidationTicket) : Runtime S :=
  { rt.raise t.securityFloor t.revocationEpoch with
    state := rt.state.setDeadlines (deadlinesFromTicket c t)
    entitlements := t.entitlements.getD rt.entitlements
    material :=
      if t.verdict = .ok then rt.material.map (S.setOnlineSession · t.serverNonce t.epochId)
      else rt.material
    onlineWrappedKeks := if t.verdict = .ok then t.wrappedKeks.getD [] else [] }

/-- Set the clock of the state machine. -/
def Runtime.withClock (clock : ClockState) : Runtime S :=
  { rt with state := { rt.state with clock } }

/-- Restore a client from a stored offline license key. -/
def loadOlk (snapshot : ClientSnapshot) (envelope : Envelope) (now : ℤ) : Except ClientInitError
    (Runtime S) := do
  if snapshot.validationTicket.isSome then throw (.fatal .credentialCorrupt)
  let preview ← orInit (orFatal (envelope.peekUnverified OfflineLicenseKey))
  let chain ← orInit (anchors.verifyKeyset (storedKeyset snapshot rt.maxRevocationEpoch)
    config.productId preview.issuedAt rt.maxRevocationEpoch snapshot.revokedEpochs)
  match openOfflineLicense config envelope chain (rt.effectiveNow now) rt.maxSecurityFloor
      rt.maxRevocationEpoch with
  | .error (.fatal e) => throw (.fatal e)
  | .error .unboundDisabled => throw .unboundOlkDisabled
  | .ok (l, material) =>
    return ((rt.withOlk l material chain).handle .credentialLoaded now).handle .tick now

/-- Check the stored ticket against its own nonce. -/
def restoreTicket (chain : VerifiedChain S.sig) (c : MachineCredential) (encoded : Wire Envelope)
    (now : ℤ) : Except ClientInitError (Runtime S × Verdict) := do
  let envelope ← orInit (orFatal encoded.decoded)
  let ticket ← orInit (orFatal (chain.verifyArtifactFast ValidationTicket (fastSig S.primitives)
    envelope config.productId (rt.effectiveNow now)))
  match envelope.epochRef with
  | none => throw (.fatal .chainInvalid)
  | some verifiedEpoch =>
    let checks : TicketChecks :=
      { supportedSuites := config.supportedSuites, verifiedEpoch, sentNonce := ticket.nonceCEcho,
        machineId := c.machineId, knownRevocationEpoch := rt.maxRevocationEpoch,
        knownSecurityFloor := rt.maxSecurityFloor }
    match checkTicket ticket checks rt.state.clock now with
    | none => throw .aborted
    | some (_, .error e) => throw (.fatal e)
    | some (clock, .ok _) => return ((rt.withClock clock).withTicket c ticket, ticket.verdict)

/-- The event by which the state machine learns of a denial. -/
def Runtime.deny (verdict : Verdict) (now : ℤ) : Runtime S :=
  match verdict with
  | .ok => rt
  | .needsReactivation | .versionOutOfScope => rt.handle (.ticketDenied verdict) now

/-- Restore a client from a stored credential, and its ticket. -/
def loadCredential (snapshot : ClientSnapshot) (encoded : Wire Envelope) (now : ℤ) : Except
    ClientInitError (Runtime S) := do
  let chain ← orInit (anchors.verifyKeyset (storedKeyset snapshot rt.maxRevocationEpoch)
    config.productId (rt.effectiveNow now) rt.maxRevocationEpoch snapshot.revokedEpochs)
  let (c, material) ← orInit (openMachineCredential config encoded chain snapshot
    (rt.effectiveNow now) rt.maxSecurityFloor rt.maxRevocationEpoch)
  let rt := rt.withCredential c material chain
  match snapshot.validationTicket with
  | none => return (rt.handle .credentialLoaded now).handle .tick now
  | some ticket =>
    let (rt, verdict) ← restoreTicket config rt chain c ticket now
    return ((rt.handle .credentialLoaded now).handle .tick now).deny verdict now

/-- Load the stored credential, by its kind. -/
def loadStored (snapshot : ClientSnapshot) (now : ℤ) : Except ClientInitError (Runtime S) :=
  match snapshot.credentialEnvelope with
  | none => .ok rt
  | some encoded =>
    match orInit (orFatal encoded.decoded) with
    | .error e => .error e
    | .ok envelope =>
      match envelope.kind with
      | .offlineLicenseKey => loadOlk config anchors rt snapshot envelope now
      | .machineCred => loadCredential config anchors rt snapshot encoded now
      | _ => .error (.fatal .credentialCorrupt)

/-- A constructed client: its trust anchors and its runtime. -/
structure Inner (S : CryptoSuite) where
  anchors : TrustAnchors S
  runtime : Runtime S

/-- Construct a client from what the store holds. -/
def construct (S : CryptoSuite) (config : Config) (store : KeyStore) (generated : DeviceKeys)
    (now : ℤ) : Except ClientInitError (Inner S) := do
  if ¬ config.supportedSuites.contains S.suiteId then throw .invalidClientInfo
  let anchors ← orInit (TrustAnchors.decode S config.currentRootKey config.nextRootKey)
  let (state, snapshot, monotonic) ← restoreState S config store generated now
  let runtime ← loadStored config anchors (.blank state snapshot monotonic) snapshot now
  return { anchors, runtime }

/-! ### Writing -/

/-- A record that holds the runtime's snapshot, as it will be read back, under marks that are not
below the runtime's. -/
structure Recorded (rt : Runtime S) (record : StoreRecord) : Prop where
  payload : ∃ snapshot, rt.snapshot = some snapshot ∧ record.payload.decoded = snapshot.readBack
  lastSeenMax : rt.state.clock.lastSeenMax ≤ record.monotonic.lastSeenMax
  securityFloor : rt.maxSecurityFloor ≤ record.monotonic.maxSeenSecurityFloor
  revocationEpoch : rt.maxRevocationEpoch ≤ record.monotonic.maxSeenRevocationEpoch

/-- The stored credential of a runtime. -/
def Runtime.storedEnvelope : Option (Wire Envelope) :=
  rt.snapshot.bind (·.credentialEnvelope)

variable {config anchors rt} {store : KeyStore} {envelope : Envelope} {c : MachineCredential}
  {now : ℤ} {generated : DeviceKeys} {record : StoreRecord} {snapshot : ClientSnapshot}

/-- The snapshot read back from a record has the credential that was written. -/
theorem Recorded.storedEnvelope
    (h : Recorded rt record) (hdecoded : record.payload.decoded = .ok snapshot) :
    rt.storedEnvelope = snapshot.credentialEnvelope := by
  obtain ⟨written, hwritten, hpayload⟩ := h.payload
  rw [hpayload] at hdecoded
  rw [Runtime.storedEnvelope, hwritten, Option.bind_some, ClientSnapshot.readBack_eq_ok hdecoded]

theorem persistLocked_eq_ok {store' : KeyStore} {available : Bool}
    (h : persistLocked rt store available = .ok store') :
    ∃ record, store' = some record ∧ Recorded rt record := by
  revert h
  fun_cases persistLocked rt store available with
  | case5 snapshot hsnapshot payload hencode record hrecord store'' hsave =>
    rintro ⟨⟩
    obtain rfl := StoreRecord.encode_eq_ok hrecord
    obtain ⟨r', hstore, hpayload, hseen, hfloor, hepoch⟩ := KeyStore.save_eq_ok hsave
    refine ⟨r', hstore, ⟨snapshot, hsnapshot, ?_⟩, hseen, hfloor, hepoch⟩
    rw [hpayload]
    unfold ClientSnapshot.encode at hencode
    split_ifs at hencode
    rw [← Except.ok.inj hencode]
  | _ => rintro ⟨⟩

/-! ### What a constructed client has opened -/

/-- The stored artifact passed its checks, at the runtime's marks and time. -/
inductive Opened (config : Config) (rt : Runtime S) (now : ℤ) (envelope : Envelope) : Prop
  | credential (c : MachineCredential) (hpeek : envelope.peekUnverified MachineCredential = .ok c)
      (hfine : ¬ credentialRefused S config envelope c (rt.effectiveNow now) rt.maxSecurityFloor
        rt.maxRevocationEpoch)
  | olk (l : OfflineLicenseKey) (hpeek : envelope.peekUnverified OfflineLicenseKey = .ok l)
      (hfine : ¬ licenseRefused S config envelope l (rt.effectiveNow now) rt.maxSecurityFloor
        rt.maxRevocationEpoch)

/-- Floor and epoch of the license artifact in an envelope. -/
def licenseCounters (envelope : Envelope) : Option (ℕ × ℕ) :=
  match envelope.peekUnverified MachineCredential, envelope.peekUnverified OfflineLicenseKey with
  | .ok c, _ => some (c.securityFloor, c.revocationEpoch)
  | .error _, .ok l => some (l.securityFloor, l.revocationEpoch)
  | .error _, .error _ => none

theorem licenseCounters_of_credential (h : envelope.peekUnverified MachineCredential = .ok c) :
    licenseCounters envelope = some (c.securityFloor, c.revocationEpoch) := by
  simp [licenseCounters, h]

theorem licenseCounters_of_olk {l : OfflineLicenseKey}
    (h : envelope.peekUnverified OfflineLicenseKey = .ok l) :
    licenseCounters envelope = some (l.securityFloor, l.revocationEpoch) := by
  have hkind : envelope.kind = .offlineLicenseKey := EnvelopeOf.kind_of_peekUnverified h
  have hother : envelope.peekUnverified MachineCredential = .error .artifactKindMismatch := by
    rw [EnvelopeOf.peekUnverified, hkind]
    exact if_pos (by decide)
  simp [licenseCounters, hother, h]

/-- What was opened is not behind the marks. -/
theorem Opened.counters (h : Opened config rt now envelope) :
    ∃ p, licenseCounters envelope = some p ∧ rt.maxSecurityFloor ≤ p.1 ∧
      rt.maxRevocationEpoch ≤ p.2 := by
  cases h with
  | credential c hpeek hfine =>
    refine ⟨_, licenseCounters_of_credential hpeek, ?_⟩
    simp only [credentialRefused, not_or, Nat.not_lt] at hfine
    exact ⟨hfine.2.2.2.2.2.2.2.1, hfine.2.2.2.2.2.2.2.2.1⟩
  | olk l hpeek hfine =>
    refine ⟨_, licenseCounters_of_olk hpeek, ?_⟩
    simp only [licenseRefused, not_or, Nat.not_lt] at hfine
    exact ⟨hfine.2.2.2.2.2.2.2.2.2.1, hfine.2.2.2.2.2.2.2.2.2.2.1⟩

/-- The marks of a runtime are not below another's. -/
def MarksLE (rt rt' : Runtime S) : Prop :=
  rt.maxSecurityFloor ≤ rt'.maxSecurityFloor ∧ rt.maxRevocationEpoch ≤ rt'.maxRevocationEpoch

/-- The counters of an envelope's license artifact are at most the runtime's marks. -/
def WithinMarks (rt : Runtime S) (envelope : Envelope) : Prop :=
  ∀ p, licenseCounters envelope = some p → p.1 ≤ rt.maxSecurityFloor ∧ p.2 ≤ rt.maxRevocationEpoch

theorem WithinMarks.mono {rt' : Runtime S} (h : WithinMarks rt envelope) (hle : MarksLE rt rt') :
    WithinMarks rt' envelope := by
  intro p hp
  have hbound := h p hp
  exact ⟨Nat.le_trans hbound.1 hle.1, Nat.le_trans hbound.2 hle.2⟩

theorem marksLE_raise (rt : Runtime S) (floor epoch : ℕ) : MarksLE rt (rt.raise floor epoch) :=
  ⟨Nat.le_max_left .., Nat.le_max_left ..⟩

theorem withinMarks_withCredential (rt : Runtime S) (material : S.Material)
    (chain : VerifiedChain S.sig) (h : envelope.peekUnverified MachineCredential = .ok c) :
    WithinMarks (rt.withCredential c material chain) envelope := by
  intro p hp
  rw [licenseCounters_of_credential h] at hp
  cases hp
  exact ⟨Nat.le_max_right .., Nat.le_max_right ..⟩

theorem withinMarks_withOlk (rt : Runtime S) (material : S.Material) (chain : VerifiedChain S.sig)
    {l : OfflineLicenseKey} (h : envelope.peekUnverified OfflineLicenseKey = .ok l) :
    WithinMarks (rt.withOlk l material chain) envelope := by
  intro p hp
  rw [licenseCounters_of_olk h] at hp
  cases hp
  exact ⟨Nat.le_max_right .., Nat.le_max_right ..⟩

/-- What loading an envelope's artifact establishes: it was opened under the old marks, the new
marks cover it, and a machine credential that is then held is its body. -/
structure Loaded (config : Config) (rt rt' : Runtime S) (now : ℤ) (envelope : Envelope) : Prop where
  opened : Opened config rt now envelope
  within : WithinMarks rt' envelope
  snapshot : rt'.snapshot = rt.snapshot
  credential : ∀ c, rt'.credential = some c → envelope.peekUnverified MachineCredential = .ok c

section Load

variable {rt' : Runtime S}

theorem loadOlk_eq_ok (h : loadOlk config anchors rt snapshot envelope now = .ok rt') :
    Loaded config rt rt' now envelope := by
  unfold loadOlk at h
  split at h
  · cases h
  obtain ⟨preview, -, h⟩ := bind_eq_ok.1 h
  obtain ⟨chain, -, h⟩ := bind_eq_ok.1 h
  split at h
  · cases h
  · cases h
  next l material hopen =>
  cases h
  obtain ⟨hpeek, hfine⟩ := openOfflineLicense_eq_ok hopen
  refine ⟨.olk l hpeek hfine, withinMarks_withOlk rt material chain hpeek, rfl, ?_⟩
  intro c hc
  cases hc

variable {encoded : Wire Envelope}

/-- A restored ticket lowers no mark and leaves snapshot and credential alone. -/
theorem restoreTicket_eq_ok {chain : VerifiedChain S.sig}
    {verdict : Verdict} (h : restoreTicket config rt chain c encoded now = .ok (rt', verdict)) :
    MarksLE rt rt' ∧ rt'.snapshot = rt.snapshot ∧ rt'.credential = rt.credential := by
  obtain ⟨envelope, -, h⟩ := bind_eq_ok.1 h
  obtain ⟨ticket, -, h⟩ := bind_eq_ok.1 h
  split at h
  · cases h
  dsimp only at h
  split at h
  · cases h
  · cases h
  · cases h
    exact ⟨marksLE_raise .., rfl, rfl⟩

@[simp] theorem deny_snapshot (rt : Runtime S) (verdict : Verdict) (now : ℤ) :
    (rt.deny verdict now).snapshot = rt.snapshot := by
  cases verdict <;> rfl

@[simp] theorem deny_credential (rt : Runtime S) (verdict : Verdict) (now : ℤ) :
    (rt.deny verdict now).credential = rt.credential := by
  cases verdict <;> rfl

theorem orInit_eq_ok {α : Type} {x : Except FatalError α} {a : α} :
    orInit x = .ok a ↔ x = .ok a := by
  cases x <;> simp [orInit]

private theorem loadCredential_eq_ok (hdecoded : encoded.decoded = .ok envelope)
    (h : loadCredential config anchors rt snapshot encoded now = .ok rt') :
    Loaded config rt rt' now envelope := by
  obtain ⟨chain, -, h⟩ := bind_eq_ok.1 h
  obtain ⟨⟨c, material⟩, hopen, h⟩ := bind_eq_ok.1 h
  obtain ⟨envelope', hdecoded', hpeek, hfine⟩ := openCredential_eq_ok (orInit_eq_ok.1 hopen)
  rw [hdecoded] at hdecoded'
  cases hdecoded'
  have hwithin := withinMarks_withCredential rt material chain hpeek
  have hheld : ∀ c', some c = some c' → envelope.peekUnverified MachineCredential = .ok c' := by
    intro c' hc'
    rw [hpeek, Option.some.inj hc']
  have hopened : Opened config rt now envelope := .credential c hpeek hfine
  dsimp only at h
  split at h
  · cases h
    exact ⟨hopened, hwithin, rfl, hheld⟩
  next ticket hticket =>
    obtain ⟨restored, hrestored, h⟩ := bind_eq_ok.1 h
    cases h
    obtain ⟨hle, hsnapshot, hcredential⟩ := restoreTicket_eq_ok hrestored
    have hdeny : MarksLE restored.1
        (((restored.1.handle .credentialLoaded now).handle .tick now).deny restored.2 now) := by
      cases restored.2 <;> exact ⟨Nat.le_refl _, Nat.le_refl _⟩
    refine ⟨hopened, (hwithin.mono hle).mono hdeny, ?_, ?_⟩
    · rw [deny_snapshot]
      exact hsnapshot
    · intro c' hc'
      rw [deny_credential] at hc'
      exact hheld c' (hcredential.symm.trans hc')

/-- Loading opens the stored artifact, or there is nothing to load. -/
theorem loadStored_eq_ok (h : loadStored config anchors rt snapshot now = .ok rt') :
    (snapshot.credentialEnvelope = none ∧ rt' = rt) ∨
      ∃ encoded envelope, snapshot.credentialEnvelope = some encoded ∧
        encoded.decoded = .ok envelope ∧ Loaded config rt rt' now envelope := by
  unfold loadStored at h
  split at h
  next hnone =>
    cases h
    exact .inl ⟨hnone, rfl⟩
  next encoded hencoded =>
    right
    split at h
    · cases h
    next envelope henvelope =>
    have hdecoded := orFatal_eq_ok.1 (orInit_eq_ok.1 henvelope)
    refine ⟨encoded, envelope, hencoded, hdecoded, ?_⟩
    split at h
    · exact loadOlk_eq_ok h
    · exact loadCredential_eq_ok hdecoded h
    · cases h

end Load

/-- The clock that the marks were taken from. -/
def MonotonicState.clock (m : MonotonicState) : ClockState :=
  ⟨m.lastSeenMax, m.lastServerTime, m.rollbackEvents⟩

/-- The machine that construction starts from. -/
def StoreRecord.machine (config : Config) (record : StoreRecord) : StateMachine :=
  { StateMachine.new config.core record.monotonic.lastSeenMax with clock := record.monotonic.clock }

theorem restoreState_some {state : StateMachine} {m : MonotonicState}
    (h : restoreState S config (some record) generated now = .ok (state, snapshot, m)) :
    record.payload.decoded = .ok snapshot ∧ m = record.monotonic ∧
      state = record.machine config := by
  unfold restoreState at h
  simp only at h
  split at h
  · cases h
  next hdecoded =>
  split at h
  · cases h
  split at h
  · cases h
  next clock hclock =>
  cases h
  unfold ClockState.fromPersisted at hclock
  split_ifs at hclock
  cases hclock
  exact ⟨hdecoded, rfl, rfl⟩

theorem construct_eq_ok {inner : Inner S} (h : construct S config store generated now = .ok inner) :
    ∃ state snapshot m, restoreState S config store generated now = .ok (state, snapshot, m) ∧
      loadStored config inner.anchors (.blank state snapshot m) snapshot now =
        .ok inner.runtime := by
  unfold construct at h
  split at h
  · cases h
  obtain ⟨anchors, -, h⟩ := bind_eq_ok.1 h
  obtain ⟨restored, hrestored, h⟩ := bind_eq_ok.1 h
  obtain ⟨runtime, hload, h⟩ := bind_eq_ok.1 h
  cases h
  exact ⟨restored.1, restored.2.1, restored.2.2, hrestored, hload⟩

/-- A fresh client, or one whose record holds no credential. -/
structure StartsBlank (store : KeyStore) (rt : Runtime S) : Prop where
  stored : rt.storedEnvelope = none
  credential : rt.credential = none
  state : rt.state.state = .unlicensed
  record : ∀ record snapshot, store = some record → record.payload.decoded = .ok snapshot →
    snapshot.credentialEnvelope = none

/-- A client that has opened the credential of its record, under the record's marks and clock. -/
structure StartsLoaded (config : Config) (store : KeyStore) (now : ℤ) (rt' : Runtime S)
    (encoded : Wire Envelope) (envelope : Envelope) : Prop where
  stored : rt'.storedEnvelope = some encoded
  decoded : encoded.decoded = .ok envelope
  record : ∃ record snapshot, store = some record ∧ record.payload.decoded = .ok snapshot ∧
    snapshot.credentialEnvelope = some encoded ∧
    ∃ rt : Runtime S, Loaded config rt rt' now envelope ∧
      rt.maxSecurityFloor = record.monotonic.maxSeenSecurityFloor ∧
      rt.maxRevocationEpoch = record.monotonic.maxSeenRevocationEpoch

theorem construct_cases {inner : Inner S} (h : construct S config store generated now = .ok inner) :
    StartsBlank store inner.runtime ∨
      ∃ encoded envelope, StartsLoaded config store now inner.runtime encoded envelope := by
  obtain ⟨state, snapshot, m, hrestore, hload⟩ := construct_eq_ok h
  cases store with
  | none =>
    -- a fresh client has nothing to load
    cases hrestore
    obtain ⟨-, hrt⟩ | ⟨encoded, -, hnone, -⟩ := loadStored_eq_ok hload
    · rw [hrt]
      exact .inl ⟨rfl, rfl, rfl, fun _ _ hstore => by cases hstore⟩
    · cases hnone
  | some record =>
    obtain ⟨hdecoded, rfl, rfl⟩ := restoreState_some hrestore
    obtain ⟨hnone, hrt⟩ | ⟨encoded, envelope, hencoded, henvelope, hloaded⟩ :=
      loadStored_eq_ok hload
    · rw [hrt]
      refine .inl ⟨hnone, rfl, rfl, ?_⟩
      rintro record' snapshot' hstore hdecoded'
      cases hstore
      rw [hdecoded] at hdecoded'
      cases hdecoded'
      exact hnone
    · refine .inr ⟨encoded, envelope, ?_, henvelope, record, snapshot, rfl, hdecoded, hencoded, _,
        hloaded, rfl, rfl⟩
      rw [Runtime.storedEnvelope, hloaded.snapshot]
      exact hencoded

end CopyLocker.Client
