import CopyLocker.Client.Responses
import CopyLocker.Client.System

/-!
# Calls in flight

`validate`, `activate` and `deactivate` of the desktop client send requests, and hold the client's
lock only between them. While a request is under way other calls change what the request was made
with. So a call is a flight: what it has sent or received so far, and which of its sections comes
next. One step is one section of one flight, a scheduler cycle or the use of a key, in any order.

Where a stage of a call ends in a fatal error the lock is released before the client fails closed
(`resolve_validation_stage_error`), so failing closed is a step of its own there. An overflow in a
check ends the process and is not followed further. `Act.conclude` of a ticket is its first look or
its second; the second is at the reading of the first, which is one of the readings a move may have.

-/

namespace CopyLocker.Client

open Proto Suite

/-! ### Flights -/

/-- What a validation request was made with. -/
structure View where
  machineId : MachineId
  nonce : ByteId 32
  knownRevocationEpoch : ℕ
  knownSecurityFloor : ℕ
  deriving DecidableEq

/-- A call that has its first response: a validation, or an activation that was requested with a
device key. -/
inductive Purpose
  | validate (view : View) (response : Wire Envelope)
  | activate (kem : Bytes) (encoded : Wire Envelope)

/-- Where a call stands. -/
inductive Flight
  | idle
  | validating (view : View)
  | activating (kem : Bytes)
  | deactivating
  | refreshing (p : Purpose)
  | syncing (p : Purpose) (target : ℕ) (previewed : Bool) (fetching : Option ℕ)
  | ready (p : Purpose) (target : ℕ) (previewed : Bool)
  | failing (error : FatalError)

/-- How a response to an activation fails. Only this endpoint can refuse without consequences. -/
inductive ActivateResponseError
  | transient (error : TransientError)
  | rejected
  | fatal (error : FatalError)
  deriving DecidableEq

/-- The running client, its store and its calls. The one validation is the flight `none`. -/
structure Desktop (S : CryptoSuite) where
  anchors : TrustAnchors S
  runtime : Runtime S
  store : KeyStore
  flights : Option ℕ → Flight

/-- A section of a call, or a call of one section. -/
inductive Act
  | schedulerCycle (onlineHint : Bool)
  | featureKey
  | ensureDeviceKeys (generated : DeviceKeys)
  | beginValidate (nonce : ByteId 32)
  | beginActivate (i : ℕ) (fits : Bool)
  | beginDeactivate (i : ℕ)
  | validated (response : Except ValidationResponseError (Wire Envelope))
  | activated (i : ℕ) (response : Except ActivateResponseError (Wire Envelope))
  | deactivated (i : ℕ) (response : Except ValidationResponseError Unit)
  | keyset (f : Option ℕ) (response : Except ValidationResponseError Keyset)
  | look (f : Option ℕ)
  | batch (f : Option ℕ) (response : Except ValidationResponseError (Wire Envelope))
  | conclude (f : Option ℕ)
  | failClosed (f : Option ℕ)

/-- A step, with the reading of the clock and what the store can do. -/
structure Move where
  now : ℤ
  io : Io
  act : Act

variable {S : CryptoSuite}

/-- The head of `deactivate`: an offline license is dropped at once, a seat is released first. -/
def requestDeactivation (rt : Runtime S) (store : KeyStore) (io : Io) (now : ℤ) : Section S :=
  if rt.olk.isSome then userDeactivateLocked rt store io now
  else
    match rt.credential, rt.snapshot with
    | some _, some snapshot =>
      match (fastSig S.primitives).decodeSk snapshot.signingSecretKey with
      | .error _ => failClosedLocked rt store io .credentialCorrupt now
      | .ok _ => { runtime := rt, store, outcome := .ok }
    | _, _ => refused rt store .notActivated

namespace Desktop

/-- A constructed client, with no call in flight. -/
def start (inner : Inner S) (store : KeyStore) : Desktop S where
  anchors := inner.anchors
  runtime := inner.runtime
  store
  flights _ := .idle

variable (s : Desktop S)

/-- The client after a section that belongs to no flight. -/
def run (r : Section S) : Desktop S :=
  { s with runtime := r.runtime, store := r.store }

def setFlight (f : Option ℕ) (flight : Flight) : Desktop S :=
  { s with flights := Function.update s.flights f flight }

/-- The client after a section of a flight. -/
def land (r : Section S) (f : Option ℕ) (flight : Flight) : Desktop S :=
  (s.run r).setFlight f flight

/-- The flight after a stage: a fatal error is followed by failing closed. -/
def afterStage (outcome : Outcome) (next : Flight) : Flight :=
  match outcome with
  | .ok | .retry => next
  | .error (.fatal e) => .failing e
  | _ => .idle

/-- The request of a stage failed. Only a validation tells the state machine of an outage. -/
def stageFailed (f : Option ℕ) (p : Purpose) (io : Io) (error : ValidationResponseError) (now : ℤ) :
    Desktop S :=
  match error, p with
  | .transient e, .validate _ _ => s.land (applyTransientFailure s.runtime s.store io e now) f .idle
  | .transient _, .activate _ _ => s.setFlight f .idle
  | .fatal e, _ => s.setFlight f (.failing e)

/-- Where a validation goes with its response: to the keyset first, if the signer is unknown. -/
def receive (view : View) (response : Wire Envelope) (io : Io) (now : ℤ) : Desktop S :=
  match orFatal response.decoded with
  | .error e => s.land (failClosedLocked s.runtime s.store io e now) none .idle
  | .ok envelope =>
    match envelope.epochRef with
    | none => s.setFlight none .idle
    | some id =>
      if (s.runtime.chain.bind (·.epoch id)).isNone then
        s.setFlight none (.refreshing (.validate view response))
      else s.setFlight none (.ready (.validate view response) 0 false)

/-- The flight after the first look at a ticket: the ticket's revocations are followed. -/
def afterPreview (p : Purpose) (envelope : Envelope) (outcome : Outcome) : Flight :=
  match outcome, envelope.peekUnverified ValidationTicket with
  | .ok, .ok ticket => .syncing p ticket.revocationEpoch true none
  | _, _ => .idle

/-- The last sections of a validation, by the kind of the response. -/
def concludeValidation (config : Config) (s : Desktop S) (f : Option ℕ) (view : View)
    (response : Wire Envelope) (previewed : Bool) (io : Io) (now : ℤ) : Desktop S :=
  match response.decoded with
  | .error _ => s.setFlight f .idle
  | .ok envelope =>
    match envelope.kind with
    | .validationTicket =>
      if previewed then
        s.land (acceptTicket config s.runtime s.store io response envelope view.nonce now) f .idle
      else
        let r := previewTicket config s.runtime s.store io envelope view.nonce now
        s.land r f (afterPreview (.validate view response) envelope r.outcome)
    | .killOrder =>
      s.land (acceptKillOrder config s.runtime s.store io envelope view.nonce now) f .idle
    | _ => s.land (failClosedLocked s.runtime s.store io .credentialCorrupt now) f .idle

/-- `validate` starts, if no other one is in flight. -/
def startValidation (nonce : ByteId 32) (now : ℤ) : Desktop S :=
  match s.flights none with
  | .idle =>
    let r := beginValidate S s.runtime s.store now
    match r.outcome, s.runtime.credential with
    | .ok, some c =>
      s.land r none (.validating
        { machineId := c.machineId, nonce,
          knownRevocationEpoch := s.runtime.maxRevocationEpoch,
          knownSecurityFloor := s.runtime.maxSecurityFloor })
    | _, _ => s.run r
  | _ => s

/-- A call of `activate` takes off, if its slot is free. -/
def startActivation (i : ℕ) (io : Io) (fits : Bool) (now : ℤ) : Desktop S :=
  match s.flights (some i) with
  | .idle =>
    let r := requestActivation s.runtime s.store io fits now
    match r.outcome, r.runtime.snapshot with
    | .ok, some snapshot => s.land r (some i) (.activating snapshot.kemSecretKey)
    | _, _ => s.run r
  | _ => s

/-- So does one of `deactivate`. -/
def startDeactivation (i : ℕ) (io : Io) (now : ℤ) : Desktop S :=
  match s.flights (some i) with
  | .idle =>
    let r := requestDeactivation s.runtime s.store io now
    if r.outcome = .ok ∧ s.runtime.olk.isNone then s.land r (some i) .deactivating else s.run r
  | _ => s

/-- One section. A section that no flight is waiting for does nothing. -/
def step (config : Config) (s : Desktop S) (m : Move) : Desktop S :=
  match m.act with
  | .schedulerCycle onlineHint =>
    s.run (Client.schedulerCycle s.runtime s.store m.io onlineHint m.now)
  | .featureKey => s.run (Client.featureKey s.runtime s.store m.io m.now)
  | .ensureDeviceKeys generated =>
    { s with runtime := Client.ensureDeviceKeys s.runtime generated }
  | .beginValidate nonce => s.startValidation nonce m.now
  | .beginActivate i fits => s.startActivation i m.io fits m.now
  | .beginDeactivate i => s.startDeactivation i m.io m.now
  | .validated response =>
    match s.flights none, response with
    | .validating view, .ok response => s.receive view response m.io m.now
    | .validating _, .error (.transient e) =>
      s.land (applyTransientFailure s.runtime s.store m.io e m.now) none .idle
    | .validating _, .error (.fatal e) =>
      s.land (failClosedLocked s.runtime s.store m.io e m.now) none .idle
    | _, _ => s
  | .activated i response =>
    match s.flights (some i), response with
    | .activating kem, .ok encoded => s.setFlight (some i) (.refreshing (.activate kem encoded))
    | .activating _, .error (.fatal e) =>
      s.land (failClosedLocked s.runtime s.store m.io e m.now) (some i) .idle
    | .activating _, .error _ => s.setFlight (some i) .idle
    | _, _ => s
  | .deactivated i response =>
    match s.flights (some i), response with
    | .deactivating, .ok _ =>
      s.land (userDeactivateLocked s.runtime s.store m.io m.now) (some i) .idle
    | .deactivating, .error (.fatal e) =>
      s.land (failClosedLocked s.runtime s.store m.io e m.now) (some i) .idle
    | .deactivating, .error (.transient _) => s.setFlight (some i) .idle
    | _, _ => s
  | .keyset f response =>
    match s.flights f, response with
    | .refreshing p, .ok keyset =>
      let r := installKeyset config s.anchors s.runtime s.store keyset m.now
      s.land r f (afterStage r.outcome (.syncing p keyset.revocationEpoch false none))
    | .refreshing p, .error e => s.stageFailed f p m.io e m.now
    | _, _ => s
  | .look f =>
    match s.flights f with
    | .syncing p target previewed none =>
      match nextSyncStep s.runtime target with
      | .done => s.setFlight f (.ready p target previewed)
      | .failed e => s.setFlight f (.failing e)
      | .fetch _ => s.setFlight f (.syncing p target previewed (some s.runtime.maxRevocationEpoch))
    | _ => s
  | .batch f response =>
    match s.flights f, response with
    | .syncing p target previewed (some current), .ok encoded =>
      let r := applyBatch config s.runtime s.store m.io current target encoded m.now
      s.land r f (afterStage r.outcome (.syncing p target previewed none))
    | .syncing p _ _ (some _), .error e => s.stageFailed f p m.io e m.now
    | _, _ => s
  | .conclude f =>
    match s.flights f with
    | .ready (.validate view response) _ previewed =>
      s.concludeValidation config f view response previewed m.io m.now
    | .ready (.activate _ encoded) target _ =>
      s.land (activateInstall config s.runtime s.store m.io encoded target m.now) f .idle
    | _ => s
  | .failClosed f =>
    match s.flights f with
    | .failing e => s.land (failClosedLocked s.runtime s.store m.io e m.now) f .idle
    | _ => s

end Desktop

end CopyLocker.Client
