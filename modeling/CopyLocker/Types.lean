import Mathlib.Algebra.Ring.Int.Defs
import Mathlib.Algebra.Ring.Nat
import Mathlib.Data.Int.Notation
import Mathlib.Tactic.Common

/-!
# Shared vocabulary

The identifiers, states, verdicts and failure families that the client core, the wire
protocol and the server share (`copylocker-types`, `copylocker-core::error`).

Fixed-width byte identifiers are bit vectors of that width. Instants are Unix seconds, a
signed machine word in the source and an integer here; the functions that saturate say so.
-/

namespace CopyLocker

/-- An identifier of `n` bytes. -/
abbrev ByteId (n : ℕ) := BitVec (8 * n)

/-- Server-assigned license identifier. -/
abbrev LicenseId := ByteId 16

/-- Server-assigned identifier of one activation. -/
abbrev MachineId := ByteId 16

/-- Identifier of a signing epoch. -/
abbrev EpochId := ByteId 8

/-- A 256-bit hash output. -/
abbrev Digest := ByteId 32

/-- Crypto suite identifier, present in every artifact header. -/
abbrev SuiteId := ByteId 4

abbrev ProductId := String

/-- Device fingerprint digest. -/
abbrev Fingerprint := List UInt8

/-- A byte string. -/
abbrev Bytes := List UInt8

/-- The Unicode property `White_Space`, as `trim` and `split_whitespace` use it. -/
def isWhitespace (c : Char) : Bool :=
  let n := c.toNat
  (decide (9 ≤ n) && decide (n ≤ 13)) || n == 32 || n == 0x85 || n == 0xa0 || n == 0x1680 ||
    (decide (0x2000 ≤ n) && decide (n ≤ 0x200a)) || n == 0x2028 || n == 0x2029 || n == 0x202f ||
    n == 0x205f || n == 0x3000

/-- Without the white space at both ends. -/
def trim (s : List Char) : List Char :=
  ((s.dropWhile isWhitespace).reverse.dropWhile isWhitespace).reverse

/-- Client license state. -/
inductive LicenseState
  | unlicensed
  | activating
  | active
  | needsRevalidation
  | grace
  | locked
  | revoked
  | tampered
  deriving DecidableEq

namespace LicenseState

/-- Whether the state is one in which a feature key may be derived at all. -/
def permitsKeyDerivation : LicenseState → Bool
  | active | needsRevalidation | grace => true
  | unlicensed | activating | locked | revoked | tampered => false

/-- Whether reaching this state requires wiping stored credential material. -/
def requiresWipe : LicenseState → Bool
  | revoked | tampered => true
  | unlicensed | activating | active | needsRevalidation | grace | locked => false

end LicenseState

/-- Reason codes carried by a kill order. -/
inductive KillReason
  | revokedLicense
  | revokedActivation
  | seatReclaimed
  | fraud
  | refund
  | epochRevoked
  deriving DecidableEq

/-- Why the client state last changed. -/
inductive StateReason
  | activated
  | validated
  | reactivationRequired
  | versionOutOfScope
  | refreshDue
  | networkUnavailable
  | graceExhausted
  | credentialExpired
  | clockRollback
  | killOrder (reason : KillReason)
  | integrityFailure
  | userRequested
  deriving DecidableEq

/-- Server verdict carried by a validation ticket. -/
inductive Verdict
  | ok
  | needsReactivation
  | versionOutOfScope
  deriving DecidableEq

/-- Signed artifact taxonomy. -/
inductive ArtifactKind
  | epochCert
  | machineCred
  | validationTicket
  | killOrder
  | revocationBatch
  | offlineLicenseKey
  | integrityManifest
  | activationRequest
  | activationResponse
  | validateRequest
  | heartbeatRequest
  | deactivateRequest
  deriving DecidableEq

/-- The name embedded in the domain-separation context. -/
def ArtifactKind.ctxName : ArtifactKind → String
  | epochCert => "epoch-cert"
  | machineCred => "machine-cred"
  | validationTicket => "validation-ticket"
  | killOrder => "kill-order"
  | revocationBatch => "revocation-batch"
  | offlineLicenseKey => "olk"
  | integrityManifest => "manifest"
  | activationRequest => "ar"
  | activationResponse => "aresp"
  | validateRequest => "validate-request"
  | heartbeatRequest => "heartbeat-request"
  | deactivateRequest => "deactivate-request"

/-- A half-open range of instants `[notBefore, notAfter)`, where `notAfter = 0` means
"no upper bound". -/
structure TimeWindow where
  notBefore : ℤ
  notAfter : ℤ
  deriving DecidableEq

namespace TimeWindow

/-- Whether the window has no upper bound. -/
def isUnlimited (w : TimeWindow) : Bool := w.notAfter == 0

/-- Whether `now` lies in the window. -/
def contains (w : TimeWindow) (now : ℤ) : Bool :=
  if now < w.notBefore then false else w.isUnlimited || decide (now < w.notAfter)

end TimeWindow

/-- A recoverable failure: the client fails open. -/
inductive TransientError
  | offline
  | timeout
  | serverError (status : ℕ)
  | rateLimited (retryAfter : ℕ)
  | transportFailure
  deriving DecidableEq

/-- An unrecoverable failure: the client fails closed. -/
inductive FatalError
  | signatureInvalid
  | chainInvalid
  | epochRevoked
  | nonceMismatch
  | machineMismatch
  | revocationRollback
  | credentialCorrupt
  | revoked (reason : KillReason)
  | securityFloorRegression
  | integrityFailure
  deriving DecidableEq

end CopyLocker
