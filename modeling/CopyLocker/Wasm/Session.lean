import CopyLocker.Client.Runtime

/-!
# The validation half of the browser session

The session of `copylocker-wasm::session` with its operations around a validation: building a
request, and ingesting the ticket or the kill order that answers it. Errors are the numbers of
`codes.rs`.

The session is generic in the suite, as the desktop client is; the shipped one uses the standard
suite. The summary map that every operation returns, and the reason of the last state change in
it, are advisory and left out, except for the verdict or the kill reason of an ingested response.
-/

namespace CopyLocker.Wasm

open CopyLocker.Core Proto Suite Client

/-- A session of the browser shell. -/
structure Session (S : CryptoSuite) where
  state : StateMachine
  device : Option DeviceKeys
  credential : Option MachineCredential
  credentialEnvelope : Option (Wire Envelope)
  ticketEnvelope : Option (Wire Envelope)
  epochCertificates : List (Wire Envelope)
  chain : Option (VerifiedChain S.sig)
  material : Option S.Material
  entitlements : Entitlements
  onlineWrappedKeks : WrappedKeks
  maxSecurityFloor : ℕ
  maxRevocationEpoch : ℕ
  pendingActivationNonce : Option (ByteId 32)
  pendingValidateNonce : Option (ByteId 32)

/-- The answer of an operation. An overflow in the ticket check traps. -/
inductive Answer
  | ok (verdict : Option ℕ)
  | error (code : ℕ)
  | trapped
  deriving DecidableEq

def errEntropy : ℕ := 5

def errNoDeviceKeys : ℕ := 10

def errNoCredential : ℕ := 12

def errNoChain : ℕ := 14

def errNoPending : ℕ := 15

/-- The code of a fatal error. -/
def fatalCode : FatalError → ℕ
  | .signatureInvalid => 100
  | .chainInvalid => 101
  | .epochRevoked => 102
  | .nonceMismatch => 103
  | .machineMismatch => 104
  | .revocationRollback => 105
  | .credentialCorrupt => 106
  | .revoked _ => 107
  | .securityFloorRegression => 108
  | .integrityFailure => 109

/-- The code of a verdict on the wire. -/
def verdictCode : Verdict → ℕ
  | .ok => 0
  | .needsReactivation => 1
  | .versionOutOfScope => 2

/-- The code of a kill reason on the wire. -/
def killReasonCode : KillReason → ℕ
  | .revokedLicense => 1
  | .revokedActivation => 2
  | .seatReclaimed => 3
  | .fraud => 4
  | .refund => 5
  | .epochRevoked => 6

namespace Session

variable {S : CryptoSuite} (config : Config) (s : Session S)

/-- Drop every secret and verified structure; the marks and the state machine stay. -/
def wipeMaterial : Session S :=
  { s with
    device := none
    credential := none
    credentialEnvelope := none
    ticketEnvelope := none
    epochCertificates := []
    chain := none
    material := none
    entitlements := .empty
    onlineWrappedKeks := []
    pendingActivationNonce := none
    pendingValidateNonce := none }

/-- Pass an event to the state machine. -/
def handle (event : Event) (now : ℤ) : Session S :=
  { s with state := (s.state.handle event now).1 }

/-- Drive the failure event, wipe, and answer the code. -/
def failClosed (e : FatalError) (now : ℤ) : Session S × Answer :=
  ((s.handle (.verificationFailed e) now).wipeMaterial, .error (fatalCode e))

/-- The signature step of an ingested response: the epoch's fast key. -/
def openOnline (α : Type) [Artifact α] (config : Config) (s : Session S)
    (chain : VerifiedChain S.sig) (envelope : Envelope) (now : ℤ) : Except FatalError α :=
  orFatal (chain.verifyArtifactFast α (fastSig S.primitives) envelope config.productId
    (s.state.clock.effectiveNow now))

/-- Build a validation request with a nonce drawn for it; the signed body is the answer of the
source and is not kept here. -/
def buildValidateRequest (nonce : Option (ByteId 32)) (now : ℤ) : Session S × Answer :=
  let s := { s with state := s.state.noteValidationAttempt now }
  match nonce with
  | none => (s, .error errEntropy)
  | some nonce =>
    match s.credential with
    | none => (s, .error errNoCredential)
    | some _ =>
      match s.device with
      | none => (s, .error errNoDeviceKeys)
      | some keys =>
        match (fastSig S.primitives).decodeSk keys.signing with
        | .error _ => (s, .error (fatalCode .credentialCorrupt))
        | .ok _ => ({ s with pendingValidateNonce := some nonce }, .ok none)

/-- The checks that the nonce, the machine and the marks impose on a ticket. -/
def ticketChecks (c : MachineCredential) (epoch : EpochId) (nonce : ByteId 32) : TicketChecks where
  supportedSuites := config.supportedSuites
  verifiedEpoch := epoch
  sentNonce := nonce
  machineId := c.machineId
  knownRevocationEpoch := s.maxRevocationEpoch
  knownSecurityFloor := s.maxSecurityFloor

/-- The marks, the entitlements and the clock after an accepted ticket. -/
def observeTicket (ticket : ValidationTicket) (clock : ClockState) : Session S :=
  { s with
    state := { s.state with clock }
    maxSecurityFloor := max s.maxSecurityFloor ticket.securityFloor
    maxRevocationEpoch := max s.maxRevocationEpoch ticket.revocationEpoch
    entitlements := ticket.entitlements.getD s.entitlements }

/-- The deadlines, the state and the stored envelope after a ticket whose session is installed. -/
def installTicket (c : MachineCredential) (ticket : ValidationTicket) (response : Wire Envelope)
    (now : ℤ) : Session S :=
  let s := { s with state := s.state.setDeadlines (deadlinesFromTicket c ticket) }
  let s := s.handle (match ticket.verdict with
    | .ok => .ticketVerified
    | verdict => .ticketDenied verdict) now
  { s with ticketEnvelope := some response }

/-- The eight checks of a ticket and its installation. -/
def ingestTicket (envelope : Envelope) (response : Wire Envelope) (nonce : ByteId 32) (now : ℤ) :
    Session S × Answer :=
  match s.credential, s.chain with
  | none, _ => (s, .error errNoCredential)
  | some _, none => (s, .error errNoChain)
  | some c, some chain =>
    match s.openOnline ValidationTicket config chain envelope now with
    | .error e => s.failClosed e now
    | .ok ticket =>
      match envelope.epochRef with
      | none => s.failClosed .chainInvalid now
      | some epoch =>
        match checkTicket ticket (s.ticketChecks config c epoch nonce) s.state.clock now with
        | none => (s, .trapped)
        | some (_, .error e) => s.failClosed e now
        | some (clock, .ok _) =>
          let s := s.observeTicket ticket clock
          if ticket.verdict = .ok then
            match s.material with
            | none => (s, .error errNoCredential)
            | some material =>
              let s := { s with
                material := some (S.setOnlineSession material ticket.serverNonce ticket.epochId)
                onlineWrappedKeks := ticket.wrappedKeks.getD [] }
              (s.installTicket c ticket response now, .ok (some (verdictCode ticket.verdict)))
          else
            ({ s with onlineWrappedKeks := [] }.installTicket c ticket response now,
              .ok (some (verdictCode ticket.verdict)))

/-- What a kill order gets wrong. -/
def killOrderError (c : MachineCredential) (order : KillOrder) (nonce : ByteId 32) : Option
    FatalError :=
  if order.protoVer ≠ Proto.protoVer ∨ order.suiteId ≠ S.suiteId then some .credentialCorrupt
  else if order.machineId ≠ c.machineId then some .machineMismatch
  else if order.nonceCEcho ≠ nonce then some .nonceMismatch
  else if order.revocationEpoch < s.maxRevocationEpoch then some .revocationRollback
  else none

/-- A verified kill order wipes the session. -/
def ingestKillOrder (envelope : Envelope) (nonce : ByteId 32) (now : ℤ) : Session S × Answer :=
  match s.credential, s.chain with
  | none, _ => (s, .error errNoCredential)
  | some _, none => (s, .error errNoChain)
  | some c, some chain =>
    match s.openOnline KillOrder config chain envelope now with
    | .error e => s.failClosed e now
    | .ok order =>
      match s.killOrderError c order nonce with
      | some e => s.failClosed e now
      | none =>
        let s := { s with
          state := { s.state with clock := s.state.clock.observeServerTime order.serverTime } }
        ((s.handle (.killOrderVerified order.reason) now).wipeMaterial,
          .ok (some (killReasonCode order.reason)))

/-- Ingest the answer to a validation request. Its nonce is spent whatever the answer is. -/
def ingestValidateResponse (response : Wire Envelope) (now : ℤ) : Session S × Answer :=
  match s.pendingValidateNonce with
  | none => (s, .error errNoPending)
  | some nonce =>
    let s := { s with pendingValidateNonce := none }
    match orFatal response.decoded with
    | .error e => s.failClosed e now
    | .ok envelope =>
      match envelope.kind with
      | .validationTicket => s.ingestTicket config envelope response nonce now
      | .killOrder => s.ingestKillOrder config envelope nonce now
      | _ => s.failClosed .credentialCorrupt now

end Session

end CopyLocker.Wasm
