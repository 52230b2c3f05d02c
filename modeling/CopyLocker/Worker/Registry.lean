import CopyLocker.Proto.Chain
import CopyLocker.Worker.Issuer
import Mathlib.Data.List.Sort

/-!
# Epochs, revocations and the published keyset

The part of the worker's storage that the two global counters live in: the tables `epochs`,
`revocations` and `security_floor_log` of D1, and the keyset in KV that clients download
(`admin_resources/epochs.rs`, `admin.rs`, `bindings/authorization.rs`).

A statement or a batch of statements is one step, and so is a read that a later write depends on:
between any two of them other requests run. A rebuild of the keyset reads the certificates, then
the revocation epoch, and then writes, so several rebuilds can be under way at once. The batches
in KV, the approvals of an epoch revocation and the journal of Admin operations are left out.

## Main results

* `loadSigningEpoch_eq_some`: a signing epoch is a row of the table.
-/

namespace CopyLocker.Worker

open Foundation Suite Proto List Table

/-! ### Epochs -/

/-- A certificate envelope that reads as a certificate. -/
structure ParsedEpoch where
  certificate : Wire Envelope
  cert : EpochCert
  reads : ∃ envelope, certificate.decoded = .ok envelope ∧
    envelope.peekUnverified EpochCert = .ok cert

/-- A row of `epochs`. Its other columns are fields of the certificate. -/
structure EpochRow extends ParsedEpoch where
  revokedAt : Option ℤ

def EpochRow.id (r : EpochRow) : EpochId := r.cert.epochId

def maxEpochCertBytes : ℕ := 64 * 1024

/-- An identifier of the administration: the same characters as a product id. -/
def ParsedEpoch.validIdentifier (value : String) : Bool := LicenseDO.isProductId value

/-- The fields of an uploaded certificate that do not depend on the signature. -/
def certificateFieldsValid (P : Primitives Tbs) (sha256 : Bytes → Digest) (rootBytes : Bytes)
    (cert : EpochCert) : Bool :=
  cert.protoVer == protoVer && cert.suiteId == clStd1SuiteId && decide (0 ≤ cert.notBefore) &&
    decide (cert.notBefore < cert.notAfter) && decide (cert.notAfter ≤ maxSafeInteger) &&
    decide (sha256 rootBytes = cert.issuerVkDigest) &&
    ((hybridSig P).decodeVk cert.vk).isOk && ((fastSig P).decodeVk cert.vkFast).isOk

/-- The checks of an uploaded certificate, with the texts of their refusals. -/
def ParsedEpoch.parse (P : Primitives Tbs) (sha256 : Bytes → Digest) (certificate : Wire Envelope)
    (rootBytes : Bytes) : Except String ParsedEpoch :=
  if certificate.size = 0 ∨ maxEpochCertBytes < certificate.size then
    .error "certificate_hex is invalid or too large"
  else
    match (hybridSig P).decodeVk rootBytes with
    | .error _ => .error "root verifying key has the wrong shape"
    | .ok rootKey =>
      match hdecoded : certificate.decoded with
      | .error _ => .error "certificate is not a canonical envelope"
      | .ok envelope =>
        if envelope.protoVer ≠ protoVer ∨ envelope.suiteId ≠ clStd1SuiteId ∨
            envelope.kind ≠ .epochCert ∨ envelope.epochRef.isSome then
          .error "certificate envelope metadata is invalid"
        else
          match hpeek : envelope.peekUnverified EpochCert with
          | .error _ => .error "certificate body is invalid"
          | .ok inspected =>
            match inspected.productScope.filter ParsedEpoch.validIdentifier with
            | none => .error "epoch certificate must have a valid product scope"
            | some productId =>
              if ¬ certificateFieldsValid P sha256 rootBytes inspected then
                .error "epoch certificate fields or verifying keys are invalid"
              else
                match envelope.openArtifact EpochCert (hybridSig P) productId rootKey with
                | .error _ => .error "epoch certificate root signature is invalid"
                | .ok _ => .ok ⟨certificate, inspected, envelope, hdecoded, hpeek⟩

/-- The registered key that a ticket is signed under. -/
structure SigningEpoch where
  epochId : EpochId
  fastVerifyingKey : Bytes
  deriving DecidableEq

/-- A row that may sign for the product at `now`. -/
def EpochRow.signs (productId : ProductId) (now : ℤ) (r : EpochRow) : Bool :=
  r.revokedAt.isNone && decide (r.cert.notBefore ≤ now) && decide (now < r.cert.notAfter) &&
    (r.cert.productScope.isNone || r.cert.productScope == some productId)

/-- The product's own epochs come first, then the youngest. -/
def EpochRow.preferred (productId : ProductId) (a b : EpochRow) : Bool :=
  let rank (r : EpochRow) := if r.cert.productScope = some productId then 0 else 1
  decide (rank a < rank b) || (rank a == rank b && decide (b.cert.notBefore < a.cert.notBefore))

/-- The signing epoch of a product; `none` is an internal error. -/
def loadSigningEpoch (epochs : Table EpochRow.id) (productId : ProductId) (now : ℤ) :
    Option SigningEpoch :=
  if isSafeInteger now then
    ((epochs.firstBy (EpochRow.signs productId now) (EpochRow.preferred productId)).filter fun r =>
      r.cert.suiteId == clStd1SuiteId && !r.cert.vkFast.isEmpty).map fun r =>
        { epochId := r.id, fastVerifyingKey := r.cert.vkFast }
  else none

/-- A signing epoch is an unrevoked row of the table, and its key is the certificate's. -/
theorem loadSigningEpoch_eq_some {epochs : Table EpochRow.id} {productId : ProductId} {now : ℤ}
    {epoch : SigningEpoch} (h : loadSigningEpoch epochs productId now = some epoch) :
    ∃ row, epochs.find epoch.epochId = some row ∧ row.cert.vkFast = epoch.fastVerifyingKey := by
  unfold loadSigningEpoch at h
  split_ifs at h
  obtain ⟨row, hrow, rfl⟩ := Option.map_eq_some_iff.1 h
  obtain ⟨hfirst, -⟩ := Option.filter_eq_some_iff.1 hrow
  exact ⟨row, mem_rows_iff.1 (mem_of_firstBy hfirst).1, rfl⟩

/-! ### Revocations -/

/-- What is revoked. -/
inductive RevocationTarget
  | license (id : LicenseId)
  | machine (id : MachineId)
  | epoch (id : EpochId)
  deriving DecidableEq

/-- A row of `revocations`. -/
structure RevocationRow where
  seq : ℕ
  target : RevocationTarget
  reason : ℕ
  actor : String
  createdAt : ℤ
  appliedAt : Option ℤ
  publishedAt : Option ℤ
  requestId : String
  deriving DecidableEq

variable (revocations : Table RevocationRow.seq)

/-- `SELECT COALESCE(MAX(seq), 0) … WHERE p`. -/
def maxSeq (p : RevocationRow → Bool) : ℕ :=
  (revocations.rows.filter p).foldl (fun m r => max m r.seq) 0

/-- The global revocation epoch that a validation passes on. -/
def currentRevocationEpoch : ℕ :=
  maxSeq revocations fun r => r.appliedAt.isSome

/-- The global revocation epoch that a keyset carries. -/
def publishedRevocationEpoch : ℕ :=
  maxSeq revocations fun r => r.publishedAt.isSome

/-- The highest floor of the releases. -/
def currentSecurityFloor (floors : List ℕ) : ℕ := floors.foldl max 0

/-- The answers to a reservation. -/
inductive Reservation
  | ready (row : RevocationRow)
  | alreadyRevoked
  | idempotencyConflict
  | anotherPending
  deriving DecidableEq

/-- The repeated request is the same one. -/
def RevocationRow.repeats (r : RevocationRow) (target : RevocationTarget) (reason : ℕ)
    (actor : String) : Bool :=
  r.target == target && r.reason == reason && r.actor == actor

/-- The row of a new reservation. -/
def reservedRow (target : RevocationTarget) (reason : ℕ) (actor requestId : String) (now : ℤ) :
    RevocationRow :=
  { seq := maxSeq revocations (fun _ => true) + 1, target, reason, actor, createdAt := now,
    appliedAt := none, publishedAt := none, requestId }

/-- The reservation of a sequence number for a license or a machine whose row has the status
`revoked` or not. One revocation is under way at a time. -/
def reserveRevocation (target : RevocationTarget) (targetRevoked : Bool) (reason : ℕ)
    (actor requestId : String) (now : ℤ) : Table RevocationRow.seq × Reservation :=
  match revocations.rows.find? fun r => r.requestId == requestId with
  | some existing =>
    (revocations, if existing.repeats target reason actor then .ready existing
      else .idempotencyConflict)
  | none =>
    if revocations.rows.any fun r => r.target == target && r.publishedAt.isSome then
      (revocations, .alreadyRevoked)
    else if targetRevoked then (revocations, .alreadyRevoked)
    else if revocations.rows.any fun r => r.publishedAt.isNone then (revocations, .anotherPending)
    else
      let row := reservedRow revocations target reason actor requestId now
      (revocations.upsert row, .ready row)

/-- The row of the second approval of an epoch revocation. -/
def epochRevocation (id : EpochId) (seq : ℕ) (actor requestId : String) (now : ℤ) :
    RevocationRow :=
  { seq, target := .epoch id, reason := 6, actor, createdAt := now, appliedAt := none,
    publishedAt := none, requestId }

/-- `UPDATE revocations SET applied_at = COALESCE(applied_at, ?) …`. -/
def markApplied (seq : ℕ) (requestId : String) (now : ℤ) : Table RevocationRow.seq :=
  revocations.updateWhere (fun r => r.seq == seq && r.requestId == requestId) fun r =>
    { r with appliedAt := r.appliedAt <|> some now }

/-- `UPDATE revocations SET published_at = COALESCE(published_at, ?) …`. -/
def markPublished (seq : ℕ) (requestId : String) (now : ℤ) : Table RevocationRow.seq :=
  revocations.updateWhere
    (fun r => r.seq == seq && r.requestId == requestId && r.appliedAt.isSome) fun r =>
      { r with publishedAt := r.publishedAt <|> some now }

open RevocationRow

theorem seq_le_maxSeq {revocations : Table seq} {p : RevocationRow → Bool}
    {row : RevocationRow} (hrow : row ∈ revocations.rows) (hp : p row) :
    row.seq ≤ maxSeq revocations p := by
  have hmem : row ∈ revocations.rows.filter p := mem_filter.2 ⟨hrow, hp⟩
  -- the fold is at least its start and at least every number that it meets
  have hfold : ∀ (rows : List RevocationRow) (m : ℕ), m ≤ rows.foldl (fun m r => max m r.seq) m ∧
        ∀ r ∈ rows, r.seq ≤ rows.foldl (fun m r => max m r.seq) m := by
    intro rows
    induction rows with
    | nil => simp
    | cons first rows ih =>
      intro m
      obtain ⟨hstart, hrows⟩ := ih (max m first.seq)
      refine ⟨le_trans (Nat.le_max_left ..) hstart, ?_⟩
      intro r hr
      rcases mem_cons.1 hr with rfl | hr
      · exact le_trans (Nat.le_max_right ..) hstart
      · exact hrows r hr
  exact (hfold _ 0).2 row hmem

/-- An update that keeps what the maximum is taken over keeps the maximum. -/
theorem maxSeq_updateWhere (p q : RevocationRow → Bool)
    (f : RevocationRow → RevocationRow) (hf : ∀ r, (f r).seq = r.seq)
    (h : ∀ row ∈ revocations.rows, q row → p (f row) = p row) :
    maxSeq (revocations.updateWhere q f hf) p = maxSeq revocations p := by
  have hrows : ∀ (rows : List RevocationRow) (m : ℕ),
      (∀ row ∈ rows, q row → p (f row) = p row) →
      ((rows.map fun r => if q r then f r else r).filter p).foldl (fun m r => max m r.seq) m =
        (rows.filter p).foldl (fun m r => max m r.seq) m := by
    intro rows
    induction rows with
    | nil => intro m _; rfl
    | cons row rows ih =>
      intro m hrow
      have hrest := fun m => ih m fun r hr => hrow r (mem_cons_of_mem row hr)
      have hp : p (if q row then f row else row) = p row := by
        split_ifs with hq
        · exact hrow row mem_cons_self hq
        · rfl
      have hseq : (if q row then f row else row).seq = row.seq := by
        split_ifs
        · exact hf row
        · rfl
      rw [map_cons, filter_cons, filter_cons, hp]
      by_cases hkept : p row
      · rw [if_pos hkept, if_pos hkept, foldl_cons, foldl_cons, hseq, hrest]
      · rw [if_neg hkept, if_neg hkept]
        exact hrest m
  exact hrows revocations.rows 0 h

theorem find_next_eq_none : revocations.find (maxSeq revocations (fun _ => true) + 1) = none := by
  rw [find_eq_none_iff]
  intro row hrow heq
  have hle := seq_le_maxSeq hrow (p := fun _ => true) rfl
  omega

/-- A reservation leaves the table, or adds its row when everything before it is published and the
request id is new. -/
theorem reserveRevocation_cases (target : RevocationTarget)
    (targetRevoked : Bool) (reason : ℕ) (actor requestId : String) (now : ℤ) :
    (reserveRevocation revocations target targetRevoked reason actor requestId now).1 =
        revocations ∨ ((∀ row ∈ revocations.rows, row.publishedAt.isSome) ∧
        (∀ row ∈ revocations.rows, row.requestId ≠ requestId) ∧
        (reserveRevocation revocations target targetRevoked reason actor requestId now).1.rows =
          revocations.rows ++ [reservedRow revocations target reason actor requestId now]) := by
  fun_cases reserveRevocation revocations target targetRevoked reason actor requestId now with
  | case5 hfree _ _ hpending =>
    refine .inr ⟨?_, ?_, upsert_rows (find_next_eq_none revocations)⟩
    · intro row hrow
      by_contra hnone
      exact hpending (any_eq_true.2 ⟨row, hrow, by simpa using hnone⟩)
    · intro row hrow heq
      exact find?_eq_none.1 hfree row hrow (by simpa using heq)
  | _ => exact .inl rfl

/-! ### The registry -/

/-- A rebuild of the keyset between its reads and its write. -/
structure Rebuild where
  certificates : List (Wire Envelope)
  keyset : Option Keyset

/-- The tables, the keyset in KV, and the rebuilds under way. -/
structure Registry where
  epochs : Table EpochRow.id
  revocations : Table RevocationRow.seq
  floors : List ℕ
  keyset : Option Keyset
  rebuilds : List Rebuild

def Registry.new : Registry :=
  { epochs := .empty, revocations := .empty, floors := [], keyset := none, rebuilds := [] }

/-- What can happen. -/
inductive RegistryStep
  | upload (certificate : Wire Envelope) (rootBytes : Bytes)
  | reserveRevocation (target : RevocationTarget) (targetRevoked : Bool) (reason : ℕ)
      (actor requestId : String) (now : ℤ)
  | revokeEpoch (id : EpochId) (seq : ℕ) (actor requestId : String) (now : ℤ)
  | markApplied (seq : ℕ) (requestId : String) (now : ℤ)
  | markPublished (seq : ℕ) (requestId : String) (now : ℤ)
  | raiseFloor (floor : ℕ)
  | readCertificates
  | readRevocationEpoch (n : ℕ)
  | writeKeyset (n : ℕ)

def maxKeysetCertificates : ℕ := 1000

/-- `ORDER BY product_scope, not_before, id`. -/
def EpochRow.listedBefore (a b : EpochRow) : Bool :=
  let scope (r : EpochRow) := r.cert.productScope.getD ""
  decide (scope a < scope b) || (scope a == scope b &&
    (decide (a.cert.notBefore < b.cert.notBefore) ||
      (a.cert.notBefore == b.cert.notBefore && decide (a.id.toNat ≤ b.id.toNat))))

/-- The certificates that a rebuild finds. -/
def Registry.certificates (s : Registry) : List (Wire Envelope) :=
  (((s.epochs.rows.filter (·.revokedAt.isNone)).insertionSort fun a b =>
    a.listedBefore b = true).take maxKeysetCertificates).map (·.certificate)

/-- The statements of the second approval of an epoch revocation, for the sequence number read
before. The batch fails when that number or the request id is taken. -/
def Registry.revokeEpoch (s : Registry) (id : EpochId) (seq : ℕ) (actor requestId : String)
    (now : ℤ) : Registry :=
  match s.revocations.insert (epochRevocation id seq actor requestId now) with
  | none => s
  | some revocations =>
    if s.revocations.rows.any fun r => r.requestId == requestId then s
    else { s with
      epochs := s.epochs.updateWhere (fun r => r.id == id && r.revokedAt.isNone) fun r =>
        { r with revokedAt := some now }
      revocations }

/-- The batch that inserts an uploaded epoch. -/
def Registry.upload (P : Primitives Tbs) (sha256 : Bytes → Digest) (s : Registry)
    (certificate : Wire Envelope) (rootBytes : Bytes) : Option Registry :=
  match ParsedEpoch.parse P sha256 certificate rootBytes with
  | .error _ => none
  | .ok parsed =>
    (s.epochs.insert { parsed with revokedAt := none }).map fun epochs => { s with epochs }

/-- An upload adds the row of its certificate. -/
theorem Registry.upload_eq_some {P : Primitives Tbs} {sha256 : Bytes → Digest} {s s' : Registry}
    {certificate : Wire Envelope} {rootBytes : Bytes}
    (h : s.upload P sha256 certificate rootBytes = some s') :
    ∃ (parsed : ParsedEpoch) (epochs : Table EpochRow.id),
      s.epochs.insert { parsed with revokedAt := none } = some epochs ∧ s' = { s with epochs } := by
  unfold Registry.upload at h
  split at h
  · cases h
  next parsed _ =>
    obtain ⟨epochs, hinsert, rfl⟩ := Option.map_eq_some_iff.1 h
    exact ⟨parsed, epochs, hinsert, rfl⟩

/-- The keyset of a rebuild that has its certificates and reads the revocation epoch. -/
def Registry.readKeyset (s : Registry) (certificates : List (Wire Envelope)) : Option Keyset :=
  let revocationEpoch := publishedRevocationEpoch s.revocations
  if (revocationEpoch : ℤ) ≤ maxSafeInteger then
    some { protoVer, epochCertificates := certificates, revocationEpoch }
  else none

/-- One step; what is refused changes nothing. -/
def Registry.step (P : Primitives Tbs) (sha256 : Bytes → Digest) (s : Registry) :
    RegistryStep → Registry
  | .upload certificate rootBytes => (s.upload P sha256 certificate rootBytes).getD s
  | .reserveRevocation target targetRevoked reason actor requestId now =>
    { s with
      revocations :=
        (CopyLocker.Worker.reserveRevocation s.revocations target targetRevoked reason actor
          requestId now).1 }
  | .revokeEpoch id seq actor requestId now => s.revokeEpoch id seq actor requestId now
  | .markApplied seq requestId now =>
    { s with revocations := CopyLocker.Worker.markApplied s.revocations seq requestId now }
  | .markPublished seq requestId now =>
    { s with revocations := CopyLocker.Worker.markPublished s.revocations seq requestId now }
  | .raiseFloor floor => if floor ∈ s.floors then s else { s with floors := floor :: s.floors }
  | .readCertificates =>
    { s with rebuilds := s.rebuilds ++ [{ certificates := s.certificates, keyset := none }] }
  | .readRevocationEpoch n =>
    { s with
      rebuilds := s.rebuilds.modify n fun r => { r with keyset := s.readKeyset r.certificates } }
  | .writeKeyset n =>
    match s.rebuilds[n]? with
    | some { keyset := some keyset, .. } => { s with keyset := some keyset }
    | _ => s

/-- A root key as it is uploaded with a certificate. -/
def rootKeyBytes : Bytes := List.replicate 32 0

end CopyLocker.Worker
