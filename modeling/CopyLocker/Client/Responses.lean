import CopyLocker.Client.Operations
import CopyLocker.Proto.Http

/-!
# Responses to a validation

How the desktop client classifies the response to `POST /v1/validate`: `send_post`,
`transient_status`, `require_success_headers` and `validation_response` of `client.rs`, and what
`validate` does with the result. A response that is transient destroys nothing
(`not_destroys_of_transient`), and any other without success fails closed
(`receiveValidation_of_refused`).
-/

namespace CopyLocker.Client

open CopyLocker.Core Proto

/-! ### Classification -/

/-- The size limit of a response with an artifact. -/
def artifactResponseLimit : ℕ := 1024 * 1024

/-- The media type of a `Content-Type` header is `application/cbor`. -/
def isCborContentType (value : String) : Bool :=
  (trim (value.toList.takeWhile (· ≠ ';'))).map Char.toLower = "application/cbor".toList

/-- A success must be CBOR of this protocol version. -/
def requireSuccessHeaders (r : HttpResponse) : Except FatalError Unit :=
  if r.contentType.any isCborContentType ∧ r.protocolVersion = some "1" then .ok ()
  else .error .credentialCorrupt

/-- The statuses after which a request is retried. -/
def transientStatus (r : HttpResponse) : Option TransientError :=
  if r.status = 429 then
    let bodyRetry := r.body.protocolError.bind (·.retryAfter)
    some (.rateLimited ((r.retryAfter.or bodyRetry).getD 60))
  else if 500 ≤ r.status ∧ r.status < 600 then some (.serverError r.status)
  else none

/-- How a request ends without an artifact. -/
inductive ValidationResponseError
  | transient (error : TransientError)
  | fatal (error : FatalError)
  deriving DecidableEq

/-- The envelope of a success. The code of a refusal is not looked at. -/
def validationResponse (r : HttpResponse) : Except ValidationResponseError (Wire Envelope) :=
  match transientStatus r with
  | some e => .error (.transient e)
  | none =>
    match requireSuccessHeaders r with
    | .error e => .error (.fatal e)
    | .ok () =>
      if 200 ≤ r.status ∧ r.status < 300 then .ok r.body.envelope
      else .error (.fatal .credentialCorrupt)

variable {S : CryptoSuite}

/-- What `validate` does when the response arrives. An envelope is handed to the next section. -/
def receiveValidation (rt : Runtime S) (store : KeyStore) (io : Io) (r : HttpResponse) (now : ℤ) :
    Section S :=
  if artifactResponseLimit < r.body.envelope.size then
    failClosedLocked rt store io .credentialCorrupt now
  else
    match validationResponse r with
    | .error (.transient e) => applyTransientFailure rt store io e now
    | .error (.fatal e) => failClosedLocked rt store io e now
    | .ok encoded =>
      match orFatal encoded.decoded with
      | .error e => failClosedLocked rt store io e now
      | .ok _ => { runtime := rt, store, outcome := .ok }

/-! ### What a response destroys -/

/-- The section wipes the credential in memory or in the store, or ends in `tampered`. -/
def Destroys (rt : Runtime S) (store : KeyStore) (r : Section S) : Prop :=
  (rt.credential.isSome = true ∧ r.runtime.credential = none) ∨
    (store.isSome = true ∧ r.store = none) ∨
    (rt.state.state ≠ .tampered ∧ r.runtime.state.state = .tampered)

theorem persisting_runtime (rt : Runtime S) (store : KeyStore) (io : Io) (outcome : Outcome) :
    (persisting rt store io outcome).runtime = rt := by
  unfold persisting
  split <;> rfl

/-- Writing to a store does not empty it. -/
theorem persisting_store_ne_none {rt : Runtime S} {store : KeyStore} {io : Io} {outcome : Outcome}
    (hstore : store.isSome) : (persisting rt store io outcome).store ≠ none := by
  unfold persisting
  split
  · intro h
    rw [show store = none from h] at hstore
    cases hstore
  next store' hsave =>
    obtain ⟨record, hrecord, -⟩ := persistLocked_eq_ok hsave
    rw [hrecord]
    exact Option.some_ne_none record

private theorem not_destroys_applyTransientFailure (rt : Runtime S) (store : KeyStore) (io : Io)
    (e : TransientError) (now : ℤ) :
    ¬ Destroys rt store (applyTransientFailure rt store io e now) := by
  unfold applyTransientFailure
  rintro (⟨hheld, hnone⟩ | ⟨hstore, hnone⟩ | ⟨hstate, htampered⟩)
  · rw [persisting_runtime] at hnone
    rw [show rt.credential = none from hnone] at hheld
    cases hheld
  · exact persisting_store_ne_none hstore hnone
  · rw [persisting_runtime] at htampered
    exact StateMachine.state_ne_tampered_of_handle (fun _ h => by cases h) hstate htampered

section Response

variable {rt : Runtime S} {store : KeyStore} {io : Io} {r : HttpResponse} {now : ℤ}

/-- A rate limit or a failure of the server destroys nothing. -/
theorem not_destroys_of_transient {e : TransientError} (htransient : transientStatus r = some e)
    (hsize : r.body.envelope.size ≤ artifactResponseLimit) :
    ¬ Destroys rt store (receiveValidation rt store io r now) := by
  rw [receiveValidation, if_neg (Nat.not_lt.2 hsize), validationResponse, htransient]
  exact not_destroys_applyTransientFailure rt store io e now

/-- Any other response without success fails closed, whatever code it carries. -/
theorem receiveValidation_of_refused (htransient : transientStatus r = none)
    (hstatus : ¬ (200 ≤ r.status ∧ r.status < 300)) :
    receiveValidation rt store io r now = failClosedLocked rt store io .credentialCorrupt now := by
  unfold receiveValidation
  split_ifs
  · rfl
  · rw [validationResponse, htransient]
    unfold requireSuccessHeaders
    split_ifs
    · rfl
    · rfl

end Response

end CopyLocker.Client
