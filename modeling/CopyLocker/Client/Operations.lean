import CopyLocker.Client.Runtime

/-!
# The desktop client's operations

Each public call of `copylocker-client::client` takes the client's lock for one or more critical
sections, with network requests between them. A section is a function here: from the runtime and
the store to both of them and an outcome. Whatever a server can answer is an argument, and so are
the reading of the clock and whether the store could be written, so every interleaving of calls is
a sequence of sections.

-/

namespace CopyLocker.Client

open CopyLocker.Core Proto Suite

/-- Whether the store can be written and wiped during a section. -/
structure Io where
  saves : Bool
  wipes : Bool
  deriving DecidableEq

/-- The errors of the client's calls. -/
inductive ClientError
  | notActivated
  | alreadyActivated
  | noPendingRequest
  | unsupportedCredential
  | unboundOlkDisabled
  | reactivationRequired
  | versionOutOfScope
  | fatal (error : FatalError)
  | localError (error : LocalError)
  deriving DecidableEq

/-- How a section ended. A batch that another call overtook is fetched again; an overflow ends the
process. -/
inductive Outcome
  | ok
  | error (error : ClientError)
  | retry
  | aborted
  deriving DecidableEq

/-- The result of a critical section. -/
structure Section (S : CryptoSuite) where
  runtime : Runtime S
  store : KeyStore
  outcome : Outcome

variable {S : CryptoSuite}

variable (config : Config) (anchors : TrustAnchors S) (rt : Runtime S) (store : KeyStore) (io : Io)

/-- Write the runtime to the store, and end with the outcome given if that succeeds. -/
def persisting (outcome : Outcome) : Section S :=
  match persistLocked rt store io.saves with
  | .error e => { runtime := rt, store, outcome := .error (.localError e) }
  | .ok store => { runtime := rt, store, outcome }

/-- A section that ends with an error and changes nothing. -/
def refused (error : ClientError) : Section S :=
  { runtime := rt, store, outcome := .error error }

/-! ### Wipes -/

/-- A fatal error wipes the client. -/
def failClosedLocked (error : FatalError) (now : ℤ) : Section S where
  runtime := rt.wiped (.verificationFailed error) now
  store := store.wipe io.wipes
  outcome := .error (.fatal error)

/-- The outcome of a call that ends by wiping the store. -/
def wipeOutcome : Outcome :=
  if io.wipes then .ok else .error (.localError (.store .unavailable))

/-- A verified kill order wipes it. -/
def revokeLocked (reason : KillReason) (now : ℤ) : Section S where
  runtime := rt.wiped (.killOrderVerified reason) now
  store := store.wipe io.wipes
  outcome := wipeOutcome io

/-- A deactivation wipes it. -/
def userDeactivateLocked (now : ℤ) : Section S where
  runtime := rt.wiped .userDeactivate now
  store := store.wipe io.wipes
  outcome := wipeOutcome io

/-! ### Ticks -/

/-- `feature_key` and `unseal`: tick, write, then derive. -/
def featureKey (now : ℤ) : Section S :=
  let rt := rt.handle .tick now
  match rt.snapshot with
  | none => { runtime := rt, store, outcome := .ok }
  | some _ =>
    match persistLocked rt store io.saves with
    | .error _ => refused rt store (.fatal .integrityFailure)
    | .ok store => { runtime := rt, store, outcome := .ok }

/-- The head of a scheduler cycle; a failed write is ignored. -/
def schedulerCycle (onlineHint : Bool) (now : ℤ) : Section S :=
  let rt := rt.handle (if onlineHint then .networkAvailable else .tick) now
  { persisting rt store io .ok with outcome := .ok }

/-- A failed request is told to the machine. -/
def applyTransientFailure (error : TransientError) (now : ℤ) : Section S :=
  persisting (rt.handle (.networkFailed error) now) store io .ok

/-- The head of a validation: the attempt is noted even when there is nothing to validate. -/
def beginValidate (S : CryptoSuite) (rt : Runtime S) (store : KeyStore) (now : ℤ) : Section S :=
  let rt := { rt with state := rt.state.noteValidationAttempt now }
  match rt.credential, rt.snapshot with
  | some _, some snapshot =>
    match (fastSig S.primitives).decodeSk snapshot.signingSecretKey with
    | .error _ => refused rt store (.fatal .credentialCorrupt)
    | .ok _ => { runtime := rt, store, outcome := .ok }
  | _, _ => refused rt store .notActivated

/-! ### Keysets and revocation batches -/

/-- A verified keyset is stored with the client. -/
def installKeyset (keyset : Keyset) (now : ℤ) : Section S :=
  match rt.snapshot with
  | none => refused rt store .notActivated
  | some snapshot =>
    match anchors.verifyKeyset keyset config.productId (rt.effectiveNow now) rt.maxRevocationEpoch
        snapshot.revokedEpochs with
    | .error e => refused rt store (.fatal e)
    | .ok chain =>
      { runtime :=
          { rt with
            snapshot := some { snapshot with epochCertificates := keyset.epochCertificates }
            chain := some chain }
        store
        outcome := .ok }

/-- The header of a batch: it continues where the client stands, ends within the target, and does
not revoke its own signer. -/
def batchRefused (S : CryptoSuite) (envelope : Envelope) (batch : RevocationBatch)
    (cursor target : ℕ) : Prop :=
  batch.protoVer ≠ Proto.protoVer ∨ batch.suiteId ≠ S.suiteId ∨ batch.fromEpoch ≠ cursor ∨
    batch.toEpoch < batch.fromEpoch ∨ batch.toEpoch > target ∨
    envelope.epochRef.any fun signer => batch.revokedEpochIds.contains signer

instance (envelope : Envelope) (batch : RevocationBatch) (cursor target : ℕ) :
    Decidable (batchRefused S envelope batch cursor target) :=
  inferInstanceAs (Decidable (_ ∨ _))

/-- License, machine and signing epoch of what the client holds. -/
def Runtime.credentialIds : Option (LicenseId × MachineId × EpochId) :=
  match rt.credential, rt.olk with
  | some c, _ => some (c.licenseId, c.machineId, c.epochId)
  | none, some l => some (l.licenseId, l.machineId, l.epochId)
  | none, none => none

/-- Why a batch revokes what the client holds. -/
def revocationReason (batch : RevocationBatch) :
    LicenseId × MachineId × EpochId → Option KillReason := fun (licenseId, machineId, epochId) =>
  if batch.revokedLicenseIds.contains licenseId then some .revokedLicense
  else if batch.revokedMachineIds.contains machineId then some .revokedActivation
  else if batch.revokedEpochIds.contains epochId then some .epochRevoked
  else none

/-- The runtime with a batch merged into it. -/
def Runtime.withBatch (chain : VerifiedChain S.sig) (revocation : RevocationState)
    (snapshot : ClientSnapshot) (batch : RevocationBatch) : Runtime S :=
  { rt with
    chain := some { chain with revocation }
    maxRevocationEpoch := batch.toEpoch
    snapshot := some
      { snapshot with
        revokedEpochs := mergeEpochs snapshot.revokedEpochs batch.revokedEpochIds } }

/-- A merged batch that names what the client holds wipes it. -/
def concludeBatch (batch : RevocationBatch) (now : ℤ) : Section S :=
  match rt.credentialIds.bind (revocationReason batch) with
  | some reason =>
    let revoked := revokeLocked rt store io reason now
    { revoked with
      outcome := if io.wipes then .error (.fatal (.revoked reason)) else revoked.outcome }
  | none => persisting rt store io .ok

/-- The body of the loop in `sync_revocations`, for the batch fetched at mark `current`. -/
def applyBatch (current target : ℕ) (response : Wire Envelope) (now : ℤ) : Section S :=
  match orFatal response.decoded with
  | .error e => refused rt store (.fatal e)
  | .ok envelope =>
    if rt.maxRevocationEpoch ≠ current then { runtime := rt, store, outcome := .retry }
    else
      match rt.chain with
      | none => refused rt store (.fatal .chainInvalid)
      | some chain =>
        match orFatal (chain.verifyArtifact RevocationBatch envelope config.productId
            (rt.effectiveNow now)) with
        | .error e => refused rt store (.fatal e)
        | .ok batch =>
          if batchRefused S envelope batch (current + 1) target then
            refused rt store (.fatal .credentialCorrupt)
          else
            match rt.snapshot with
            | none => refused rt store .notActivated
            | some snapshot =>
              match orFatal (chain.revocation.advance batch.toEpoch batch.revokedEpochIds) with
              | .error e => refused rt store (.fatal e)
              | .ok revocation =>
                concludeBatch (rt.withBatch chain revocation snapshot batch) store io batch now

/-- A batch is refused, has been overtaken, or continues where the client stands and is merged. -/
theorem applyBatch_cases (current target : ℕ) (response : Wire Envelope) (now : ℤ) :
    (∃ error, (error = .notActivated ∨ ∃ e, error = .fatal e) ∧
        applyBatch config rt store io current target response now = refused rt store error) ∨
      (rt.maxRevocationEpoch ≠ current ∧ applyBatch config rt store io current target response now =
          { runtime := rt, store, outcome := .retry }) ∨
      ∃ envelope chain batch snapshot revocation,
        response.decoded = .ok envelope ∧ rt.maxRevocationEpoch = current ∧
        rt.chain = some chain ∧
        chain.verifyArtifact RevocationBatch envelope config.productId (rt.effectiveNow now) =
          .ok batch ∧
        ¬ batchRefused S envelope batch (current + 1) target ∧ rt.snapshot = some snapshot ∧
        applyBatch config rt store io current target response now =
          concludeBatch (rt.withBatch chain revocation snapshot batch) store io batch now := by
  unfold applyBatch
  split
  · exact .inl ⟨_, .inr ⟨_, rfl⟩, rfl⟩
  next envelope hdecoded =>
  split
  next hmoved => exact .inr (.inl ⟨hmoved, rfl⟩)
  next hcurrent =>
  split
  · exact .inl ⟨_, .inr ⟨_, rfl⟩, rfl⟩
  next chain hchain =>
  split
  · exact .inl ⟨_, .inr ⟨_, rfl⟩, rfl⟩
  next batch hverified =>
  split
  · exact .inl ⟨_, .inr ⟨_, rfl⟩, rfl⟩
  next hfine =>
  split
  · exact .inl ⟨_, .inl rfl, rfl⟩
  next snapshot hsnapshot =>
  split
  · exact .inl ⟨_, .inr ⟨_, rfl⟩, rfl⟩
  next revocation hadvance =>
  exact .inr (.inr ⟨envelope, chain, batch, snapshot, revocation, orFatal_eq_ok.1 hdecoded,
    not_not.1 hcurrent, hchain, orFatal_eq_ok.1 hverified, hfine, hsnapshot, rfl⟩)

/-- What the loop of `sync_revocations` does next. -/
inductive SyncStep
  | done
  | failed (error : FatalError)
  | fetch (cursor : ℕ)
  deriving DecidableEq

/-- What a round of `sync_revocations` does. -/
def nextSyncStep (target : ℕ) : SyncStep :=
  if target < rt.maxRevocationEpoch then .failed .revocationRollback
  else if target = rt.maxRevocationEpoch then .done
  else if rt.maxRevocationEpoch + 1 = 2 ^ 64 then .failed .credentialCorrupt
  else .fetch (rt.maxRevocationEpoch + 1)

/-! ### Validation responses -/

/-- The signature step of a validation response: the epoch's fast key, whatever the policy says. -/
def openOnline (α : Type) [Artifact α] (config : Config) (rt : Runtime S) (envelope : Envelope)
    (now : ℤ) : Except FatalError α :=
  match rt.chain with
  | none => .error .chainInvalid
  | some chain =>
    orFatal (chain.verifyArtifactFast α (fastSig S.primitives) envelope config.productId
      (rt.effectiveNow now))

/-- The semantic checks of a ticket for the nonce that was sent. -/
def checkOnlineTicket (c : MachineCredential) (envelope : Envelope) (ticket : ValidationTicket)
    (nonce : ByteId 32) (now : ℤ) : Option (ClockState × Except FatalError TicketObservations) :=
  match envelope.epochRef with
  | none => some (rt.state.clock, .error .chainInvalid)
  | some verifiedEpoch =>
    checkTicket ticket
      { supportedSuites := config.supportedSuites, verifiedEpoch, sentNonce := nonce,
        machineId := c.machineId, knownRevocationEpoch := rt.maxRevocationEpoch,
        knownSecurityFloor := rt.maxSecurityFloor }
      rt.state.clock now

/-- The first look at a ticket, on a copy of the clock. -/
def previewTicket (envelope : Envelope) (nonce : ByteId 32) (now : ℤ) : Section S :=
  match rt.credential with
  | none => failClosedLocked rt store io .credentialCorrupt now
  | some c =>
    match openOnline ValidationTicket config rt envelope now with
    | .error e => failClosedLocked rt store io e now
    | .ok ticket =>
      match checkOnlineTicket config rt c envelope ticket nonce now with
      | none => { runtime := rt, store, outcome := .aborted }
      | some (_, .error e) => failClosedLocked rt store io e now
      | some (_, .ok _) => { runtime := rt, store, outcome := .ok }

/-- The event by which the state machine learns of an accepted ticket. -/
def ticketEvent : Verdict → Event
  | .ok => .ticketVerified
  | verdict => .ticketDenied verdict

/-- The outcome of a validation with this verdict. -/
def verdictOutcome : Verdict → Outcome
  | .ok => .ok
  | .needsReactivation => .error .reactivationRequired
  | .versionOutOfScope => .error .versionOutOfScope

/-- The second look at a ticket, after revocations have been synchronised; it is installed. -/
def acceptTicket (response : Wire Envelope) (envelope : Envelope) (nonce : ByteId 32) (now : ℤ) :
    Section S :=
  match rt.credential with
  | none => refused rt store .notActivated
  | some c =>
    match openOnline ValidationTicket config rt envelope now with
    | .error e => failClosedLocked rt store io e now
    | .ok ticket =>
      match checkOnlineTicket config rt c envelope ticket nonce now with
      | none => { runtime := rt, store, outcome := .aborted }
      | some (_, .error e) => failClosedLocked rt store io e now
      | some (clock, .ok _) =>
        let rt := rt.withClock clock
        let updated := rt.withTicket c ticket
        if ticket.verdict = .ok ∧ rt.material.isNone then
          -- the deadlines are installed only after this test
          refused { updated with state := rt.state } store .notActivated
        else
          let updated := updated.handle (ticketEvent ticket.verdict) now
          match updated.snapshot with
          | none => refused updated store .notActivated
          | some snapshot =>
            persisting
              { updated with snapshot := some { snapshot with validationTicket := some response } }
              store io (verdictOutcome ticket.verdict)

/-- A kill order that names the machine and the nonce wipes the client. -/
def acceptKillOrder (envelope : Envelope) (nonce : ByteId 32) (now : ℤ) : Section S :=
  match rt.credential with
  | none => refused rt store .notActivated
  | some c =>
    match openOnline KillOrder config rt envelope now with
    | .error e => failClosedLocked rt store io e now
    | .ok order =>
      if order.protoVer ≠ Proto.protoVer ∨ order.suiteId ≠ S.suiteId then
        failClosedLocked rt store io .credentialCorrupt now
      else if order.machineId ≠ c.machineId then failClosedLocked rt store io .machineMismatch now
      else if order.nonceCEcho ≠ nonce then failClosedLocked rt store io .nonceMismatch now
      else if order.revocationEpoch < rt.maxRevocationEpoch then
        failClosedLocked rt store io .revocationRollback now
      else
        revokeLocked (rt.withClock (rt.state.clock.observeServerTime order.serverTime)) store io
          order.reason now

/-! ### Activation -/

/-- Device keys are generated once. -/
def ensureDeviceKeys (generated : DeviceKeys) : Runtime S :=
  { rt with snapshot := some (rt.snapshot.getD (.new generated)) }

/-- Whether the client holds a credential of either kind. -/
def Runtime.isActivated : Bool := rt.credential.isSome || rt.olk.isSome

/-- Build an offline request and remember its nonce; `fits` is the size check of the request. -/
def buildOfflineRequest (generated : DeviceKeys) (nonce : ByteId 32) (fits : Bool) : Section S :=
  let rt := ensureDeviceKeys rt generated
  if rt.isActivated then refused rt store .alreadyActivated
  else
    match rt.snapshot with
    | none => refused rt store (.localError .stateUnavailable)
    | some snapshot =>
      if ¬ validateDeviceKeys S snapshot ∨ ¬ fits then refused rt store (.fatal .credentialCorrupt)
      else
        persisting
          { rt with snapshot := some { snapshot with pendingActivationNonce := some nonce } }
          store io .ok

/-- `activate` after its device keys are there. -/
def requestActivation (fits : Bool) (now : ℤ) : Section S :=
  if rt.isActivated then refused rt store .alreadyActivated
  else
    match rt.snapshot with
    | none => refused rt store (.localError .stateUnavailable)
    | some snapshot =>
      if ¬ validateDeviceKeys S snapshot ∨ ¬ fits then
        failClosedLocked rt store io .credentialCorrupt now
      else { runtime := rt, store, outcome := .ok }

/-- The head of an online activation. -/
def beginActivate (generated : DeviceKeys) (fits : Bool) (now : ℤ) : Section S :=
  requestActivation (ensureDeviceKeys rt generated) store io fits now

/-- Install the credential of an online activation, after keyset and revocations; `target` is the
keyset's revocation epoch. Nothing looks again at whether a credential is already held. -/
def activateInstall (encoded : Wire Envelope) (target : ℕ) (now : ℤ) : Section S :=
  match rt.snapshot with
  | none => refused rt store (.localError .stateUnavailable)
  | some snapshot =>
    match rt.chain with
    | none => failClosedLocked rt store io .chainInvalid now
    | some chain =>
      match openMachineCredential config encoded chain snapshot (rt.effectiveNow now)
          rt.maxSecurityFloor rt.maxRevocationEpoch with
      | .error e => failClosedLocked rt store io e now
      | .ok (c, material) =>
        let installed := ((rt.withCredential c material chain).raise 0 target).handle
          .activationVerified now
        persisting
          { installed with
            snapshot := some
              { snapshot with
                credentialEnvelope := some encoded
                validationTicket := none
                pendingActivationNonce := none } }
          store io .ok

/-- Verify an offline response against the request's nonce. -/
def openOfflineResponse (snapshot : ClientSnapshot) (envelope : Envelope)
    (unverified : ActivationResponse) (pendingNonce : ByteId 32) (now : ℤ) : Except FatalError
    (ActivationResponse × MachineCredential × S.Material × VerifiedChain S.sig) := do
  let keyset : Keyset :=
    { protoVer := Proto.protoVer, epochCertificates := unverified.chain,
      revocationEpoch := rt.maxRevocationEpoch }
  let chain ← anchors.verifyKeyset keyset config.productId (rt.effectiveNow now)
    rt.maxRevocationEpoch snapshot.revokedEpochs
  let response ← orFatal (chain.verifyArtifact ActivationResponse envelope config.productId
    (rt.effectiveNow now))
  if response.nonceCEcho ≠ pendingNonce then throw .nonceMismatch
  if response.protoVer ≠ Proto.protoVer ∨ response.suiteId ≠ S.suiteId ∨
      response.validUntil ≤ response.serverTime ∨ rt.effectiveNow now ≥ response.validUntil then
    throw .credentialCorrupt
  let (c, material) ← openMachineCredential config response.credential chain snapshot
    (max (rt.effectiveNow now) response.serverTime) rt.maxSecurityFloor rt.maxRevocationEpoch
  return (response, c, material, chain)

/-- Install the credential of an offline activation response. -/
def importOfflineResponse (bytes : Wire Envelope) (now : ℤ) : Section S :=
  match orFatal bytes.decoded with
  | .error e => failClosedLocked rt store io e now
  | .ok envelope =>
    match orFatal (envelope.peekUnverified ActivationResponse) with
    | .error e => failClosedLocked rt store io e now
    | .ok unverified =>
      if rt.isActivated then refused rt store .alreadyActivated
      else
        match rt.snapshot with
        | none => refused rt store .noPendingRequest
        | some snapshot =>
          match snapshot.pendingActivationNonce with
          | none => refused rt store .noPendingRequest
          | some pendingNonce =>
            match openOfflineResponse config anchors rt snapshot envelope unverified pendingNonce
                now with
            | .error e => failClosedLocked rt store io e now
            | .ok (response, c, material, chain) =>
              let rt := rt.withClock (rt.state.clock.observeServerTime response.serverTime)
              let installed := (rt.withCredential c material chain).handle .activationVerified now
              persisting
                { installed with
                  snapshot := some
                    { snapshot with
                      credentialEnvelope := some response.credential
                      epochCertificates := response.chain
                      validationTicket := none
                      pendingActivationNonce := none } }
                store io .ok

/-- A self-contained offline license. -/
structure OfflineLicenseBundle where
  licenseEnvelope : Wire Envelope
  epochCertificates : List (Wire Envelope)

/-- Verify an offline license against its own certificates, at its issue time. -/
def openBundle (bundle : OfflineLicenseBundle) (envelope : Envelope) (preview : OfflineLicenseKey)
    (now : ℤ) : Except OpenOlkError (OfflineLicenseKey × S.Material × VerifiedChain S.sig) :=
  match rt.snapshot with
  | none => .error (.fatal .credentialCorrupt)
  | some snapshot =>
    let keyset : Keyset :=
      { protoVer := Proto.protoVer, epochCertificates := bundle.epochCertificates,
        revocationEpoch := rt.maxRevocationEpoch }
    match anchors.verifyKeyset keyset config.productId preview.issuedAt rt.maxRevocationEpoch
        snapshot.revokedEpochs with
    | .error e => .error (.fatal e)
    | .ok chain =>
      match openOfflineLicense config envelope chain (rt.effectiveNow now) rt.maxSecurityFloor
          rt.maxRevocationEpoch with
      | .error e => .error e
      | .ok (l, material) => .ok (l, material, chain)

/-- Install an offline license key. -/
def importOlk (armored : Except ProtoError OfflineLicenseBundle) (now : ℤ) : Section S :=
  match orFatal armored with
  | .error e => failClosedLocked rt store io e now
  | .ok bundle =>
    match orFatal bundle.licenseEnvelope.decoded with
    | .error e => failClosedLocked rt store io e now
    | .ok envelope =>
      if envelope.suiteId ≠ S.suiteId ∨ ¬ config.supportedSuites.contains envelope.suiteId then
        refused rt store .unsupportedCredential
      else
        match orFatal (envelope.peekUnverified OfflineLicenseKey) with
        | .error e => failClosedLocked rt store io e now
        | .ok preview =>
          if rt.isActivated then refused rt store .alreadyActivated
          else
            match openBundle config anchors rt bundle envelope preview now with
            | .error .unboundDisabled => refused rt store .unboundOlkDisabled
            | .error (.fatal e) => failClosedLocked rt store io e now
            | .ok (l, material, chain) =>
              let rt := rt.withClock (rt.state.clock.observeServerTime l.issuedAt)
              let installed := (rt.withOlk l material chain).handle .activationVerified now
              persisting
                { installed with
                  snapshot := rt.snapshot.map fun snapshot =>
                    { snapshot with
                      credentialEnvelope := some bundle.licenseEnvelope
                      epochCertificates := bundle.epochCertificates
                      validationTicket := none
                      pendingActivationNonce := none } }
                store io .ok

end CopyLocker.Client
