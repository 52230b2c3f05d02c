import CopyLocker.Foundation.HashChain
import CopyLocker.Worker.Issuer

/-!
# The audit chain of the administration

Every Admin operation and every revocation appends one event to the chain of a durable object
(`durable/admin_audit.rs`), and then copies the event into the table `admin_audit_events` of D1.
Both writers, `ensure_audit` of `admin_operations.rs` and `load_or_create_admin_audit` of
`admin.rs`, do the same: look the operation up in the table, read the table's head, have the object
append at that head, and insert what it answers. They differ only in the contents of the event.

Between any two of these steps other writers run, and a writer may stop for good. A writer is
therefore a process with a phase, and one step of the system is one step of one writer.

The archive key of an event is a function of its time and number and is left out, and so are the
columns of the table that record what was sent to the queue and to the archive. A snapshot that
does not read as one of a revocation's target is an opaque text.

## Main results

* `Sound.append`: an append replays a stored event, is refused, or extends the chain at the head
  that its caller named.
* `Sound.step`: the chain is linked, and the table is behind it by at most one event.
* `audit_chain_linked_and_mirrored`: so it is in every reachable system.
-/

namespace CopyLocker.Worker.AdminAudit

open Foundation Run Linkage List Option

/-! ### Events -/

/-- What an Admin revocation is about. -/
inductive TargetKind
  | license
  | machine
  deriving DecidableEq

def TargetKind.asStr : TargetKind → String
  | .license => "license"
  | .machine => "machine"

/-- The target of a revocation before or after it. -/
structure AdminRevocationSnapshot where
  kind : TargetKind
  target : ByteId 16
  licenseId : LicenseId
  productId : ProductId
  status : String
  seats : ℕ
  heartbeatSec : Option ℕ
  expiresAt : Option ℤ
  affectedMachines : ℕ
  revocationEpoch : ℕ
  deriving DecidableEq

/-- A JSON value of an event; one that reads as a revocation's snapshot is given as such. -/
inductive Snapshot
  | revocation (snapshot : AdminRevocationSnapshot)
  | document (json : String)
  deriving DecidableEq

/-- What the caller decides about an event. -/
structure AuditEntry where
  occurredAt : ℤ
  vendorId : String
  actor : String
  action : String
  target : String
  reason : Option ℕ
  requestId : String
  before : Snapshot
  after : Snapshot
  deriving DecidableEq

/-- The inputs of an event's hash; the snapshots enter in their canonical encoding. -/
structure AuditHashInput where
  seq : ℕ
  entry : AuditEntry
  prevHash : Digest

/-- An event of the chain. -/
structure AdminAuditEvent where
  seq : ℕ
  entry : AuditEntry
  prevHash : Digest
  hash : Digest
  deriving DecidableEq

/-- The hashes, and the size test of a snapshot's canonical encoding. -/
structure AuditEnv where
  auditHash : AuditHashInput → Digest
  requestHash : AuditEntry → Digest
  isCanonical : Snapshot → Bool

/-- The characters and the length of an action. -/
def validAdminAction (value : String) : Bool :=
  !value.isEmpty && decide (value.utf8ByteSize ≤ 128) &&
    value.toList.all fun c => c.isAlphanum || c == ':' || c == '-' || c == '_' || c == '.'

/-- Those of a target. -/
def validAdminTarget (value : String) : Bool :=
  !value.isEmpty && decide (value.utf8ByteSize ≤ 256) && value.toList.all IssuerDO.isAsciiGraphic

/-- Those of a key. -/
def validIdempotencyKey (value : String) : Bool :=
  !value.isEmpty && decide (value.utf8ByteSize ≤ 128) && value.toList.all IssuerDO.isAsciiGraphic

/-- The codes of the kill reasons. -/
def isKillReason (code : ℕ) : Bool := decide (1 ≤ code) && decide (code ≤ 6)

/-- The parts of an event's validity that its entry decides. -/
def AuditEntry.isValid (env : AuditEnv) (e : AuditEntry) : Bool :=
  decide (0 ≤ e.occurredAt) && decide (e.occurredAt ≤ maxSafeInteger) &&
    IssuerDO.isProductId e.vendorId && !e.actor.isEmpty && decide (e.actor.utf8ByteSize ≤ 128) &&
    validAdminAction e.action && validAdminTarget e.target && validIdempotencyKey e.requestId &&
    e.reason.all isKillReason && decide (e.before ≠ e.after) && env.isCanonical e.before &&
    env.isCanonical e.after

/-- The event is well formed and has its own hash. -/
def AdminAuditEvent.isValid (env : AuditEnv) (e : AdminAuditEvent) : Bool :=
  decide (1 ≤ e.seq) && decide ((e.seq : ℤ) ≤ maxSafeInteger) && e.entry.isValid env &&
    decide (env.auditHash { seq := e.seq, entry := e.entry, prevHash := e.prevHash } = e.hash)

/-- The event of a number, linked to the hash before it. -/
def AdminAuditEvent.newV2 (env : AuditEnv) (seq : ℕ) (entry : AuditEntry) (prevHash : Digest) :
    Option AdminAuditEvent :=
  let event : AdminAuditEvent :=
    { seq, entry, prevHash, hash := env.auditHash { seq, entry, prevHash } }
  if event.isValid env then some event else none

variable {event : AdminAuditEvent} {env : AuditEnv} {seq : ℕ}

/-! ### The object -/

/-- The last event of a chain. -/
structure ChainHead where
  seq : ℕ
  hash : Digest
  deriving DecidableEq

/-- The head of an empty chain. -/
def ChainHead.zero : ChainHead := { seq := 0, hash := 0 }

def AdminAuditEvent.head (e : AdminAuditEvent) : ChainHead := { seq := e.seq, hash := e.hash }

/-- The number after the head; none is left after the largest safe integer. -/
def ChainHead.next (head : ChainHead) : Option ℕ :=
  some (head.seq + 1) |>.filter fun seq => decide ((seq : ℤ) ≤ maxSafeInteger)

/-- A request to append, with the head that the caller knows. -/
structure AppendRequest where
  operationId : String
  entry : AuditEntry
  bootstrap : ChainHead

/-- A row of the object's table `events`. -/
structure StoredEvent where
  operationId : String
  requestHash : Digest
  event : AdminAuditEvent

/-- The object: its chain base, and its events in the order of their numbers. -/
structure AuditState where
  base : Option ChainHead
  events : List StoredEvent

/-- The answers of the object. -/
inductive AppendAnswer
  | appended (status : ℕ) (event : AdminAuditEvent)
  | rejected (status : ℕ) (code : String)
  | fault

namespace AuditState

def new : AuditState := { base := none, events := [] }

/-- The request is well formed. -/
def validateAppend (env : AuditEnv) (input : AppendRequest) : Bool :=
  LicenseDO.isOperationId input.operationId &&
    decide ((input.bootstrap.seq : ℤ) ≤ maxSafeInteger) &&
    env.isCanonical input.entry.before && env.isCanonical input.entry.after

/-- The stored event of an operation. -/
def loadOperation (s : AuditState) (operationId : String) : Option StoredEvent :=
  s.events.find? fun row => row.operationId == operationId

/-- The object after the first caller to come here has set the base. -/
def withBase (s : AuditState) (bootstrap : ChainHead) : AuditState :=
  { s with base := some (s.base.getD bootstrap) }

/-- The last event, or else the base. -/
def head (s : AuditState) (bootstrap : ChainHead) : ChainHead :=
  (s.events.getLast?.map (·.event.head)).getD (s.base.getD bootstrap)

/-- The event of a request that names the head. -/
def nextEvent (env : AuditEnv) (input : AppendRequest) : Option AdminAuditEvent :=
  input.bootstrap.next.bind fun seq =>
    AdminAuditEvent.newV2 env seq input.entry input.bootstrap.hash

/-- Append an event at the head that the caller read. -/
def append (env : AuditEnv) (s : AuditState) (input : AppendRequest) : AuditState × AppendAnswer :=
  if ¬ validateAppend env input then (s, .rejected 400 "invalid_request")
  else
    match s.loadOperation input.operationId with
    | some row =>
      if row.requestHash = env.requestHash input.entry then (s, .appended 200 row.event)
      else (s, .rejected 409 "idempotency_conflict")
    | none =>
      if s.head input.bootstrap ≠ input.bootstrap then
        (s.withBase input.bootstrap, .rejected 409 "stale_chain_head")
      else
        match nextEvent env input with
        | none => (s.withBase input.bootstrap, .fault)
        | some event =>
          ({ s.withBase input.bootstrap with
              events := s.events ++ [⟨input.operationId, env.requestHash input.entry, event⟩] },
            .appended 201 event)

end AuditState

/-! ### The table -/

/-- A row of `admin_audit_events`. -/
structure AuditRow where
  operationId : String
  event : AdminAuditEvent
  deriving DecidableEq

/-- The mirrored event of an operation. -/
def loadAudit (mirror : List AuditRow) (operationId : String) : Option AuditRow :=
  mirror.find? fun row => row.operationId == operationId

/-- `SELECT seq, hash … ORDER BY seq DESC LIMIT 1`; the numbers are positive. -/
def mirrorHead (mirror : List AuditRow) : ChainHead :=
  mirror.foldl (fun head row => if head.seq < row.event.seq then row.event.head else head) .zero

/-- `INSERT … ON CONFLICT(operation_id) DO NOTHING`; a taken number is an error. -/
def mirrorInsert (mirror : List AuditRow) (row : AuditRow) : Option (List AuditRow) :=
  if (loadAudit mirror row.operationId).isSome then some mirror
  else if mirror.any fun r => r.event.seq == row.event.seq then none
  else some (mirror ++ [row])

/-! ### The writers -/

/-- Where a writer of the audit event of an operation stands. -/
inductive Writer
  | idle
  | reading (operationId : String) (entry : AuditEntry)
  | appending (operationId : String) (entry : AuditEntry) (head : ChainHead)
  | inserting (operationId : String) (event : AdminAuditEvent)

/-- The object, the table and the writers. -/
structure AuditSystem where
  chain : AuditState
  mirror : List AuditRow
  writers : ℕ → Writer

def AuditSystem.new : AuditSystem := { chain := .new, mirror := [], writers := fun _ => .idle }

/-- One step of one writer: it starts with a look-up, reads the head, appends, inserts, or stops. -/
inductive AuditStep
  | start (writer : ℕ) (operationId : String) (entry : AuditEntry)
  | readHead (writer : ℕ)
  | append (writer : ℕ)
  | insert (writer : ℕ)
  | stop (writer : ℕ)

namespace AuditSystem

def setWriter (s : AuditSystem) (i : ℕ) (w : Writer) : AuditSystem :=
  { s with writers := Function.update s.writers i w }

/-- What an append leaves its writer to do. -/
def afterAppend (operationId : String) : AppendAnswer → Writer
  | .appended _ event => .inserting operationId event
  | _ => .idle

/-- A step of one writer. -/
def step (env : AuditEnv) (s : AuditSystem) : AuditStep → AuditSystem
  | .start i operationId entry =>
    match loadAudit s.mirror operationId with
    | some _ => s.setWriter i .idle
    | none => s.setWriter i (.reading operationId entry)
  | .readHead i =>
    match s.writers i with
    | .reading operationId entry =>
      let head := mirrorHead s.mirror
      if (head.seq : ℤ) ≤ maxSafeInteger then s.setWriter i (.appending operationId entry head)
      else s.setWriter i .idle
    | _ => s
  | .append i =>
    match s.writers i with
    | .appending operationId entry bootstrap =>
      let (chain, answer) := s.chain.append env { operationId, entry, bootstrap }
      { s with chain }.setWriter i (afterAppend operationId answer)
    | _ => s
  | .insert i =>
    match s.writers i with
    | .inserting operationId event =>
      { s with mirror := (mirrorInsert s.mirror { operationId, event }).getD s.mirror }.setWriter i
        .idle
    | _ => s
  | .stop i => s.setWriter i .idle

end AuditSystem

/-! ### The chain and its mirror -/

/-- The link fields of an audit row. -/
def auditLinkage : Linkage AuditRow Digest where
  seq row := row.event.seq
  prev row := row.event.prevHash
  hash row := row.event.hash

/-- The chain as rows of the table. -/
def AuditState.rows (s : AuditState) : List AuditRow :=
  s.events.map fun e => { operationId := e.operationId, event := e.event }

/-- The hash of an event is taken of its contents. -/
def Committed (env : AuditEnv) (e : AdminAuditEvent) : Prop :=
  e.hash = env.auditHash { seq := e.seq, entry := e.entry, prevHash := e.prevHash }

variable {head : ChainHead}

theorem ChainHead.seq_next (h : head.next = some seq) : seq = head.seq + 1 :=
  (some.inj (filter_eq_some_iff.1 h).1).symm

/-- The head that the table shows is the end of its rows. -/
theorem mirrorHead_eq {rows : List AuditRow} (h : auditLinkage.Continues 0 0 rows) :
    mirrorHead rows =
      { seq := auditLinkage.lastSeq 0 rows, hash := auditLinkage.lastHash 0 rows } := by
  induction rows using reverseRecOn with
  | nil => rfl
  | append_singleton rows row ih =>
    obtain ⟨hrows, hseq, -⟩ := continues_concat.1 h
    have hlt : (mirrorHead rows).seq < row.event.seq := by
      rw [ih hrows]
      exact Nat.lt_of_succ_le hseq.ge
    rw [mirrorHead, foldl_append]
    change (if (mirrorHead rows).seq < row.event.seq then row.event.head else mirrorHead rows) = _
    rw [if_pos hlt]
    simp [lastSeq, lastHash, auditLinkage, AdminAuditEvent.head]

open AuditState

/-- What a writer knows about the table and the chain: the head it read is not beyond the table's,
and the event it was given is in the chain. -/
def Writer.Informed (mirror rows : List AuditRow) : Writer → Prop
  | .appending _ _ head => head.seq ≤ auditLinkage.lastSeq 0 mirror ∧ (head.seq = 0 → head = .zero)
  | .inserting operationId event => { operationId, event } ∈ rows
  | _ => True

/-- The chain is linked from zero, and the table has all of it or all but its last event. -/
structure Sound (env : AuditEnv) (s : AuditSystem) : Prop where
  linked : auditLinkage.Continues 0 0 s.chain.rows
  committed : ∀ row ∈ s.chain.rows, Committed env row.event
  unique : (s.chain.rows.map (·.operationId)).Nodup
  base : ∀ b ∈ s.chain.base, b = .zero
  unset : s.chain.base = none → s.chain.events = []
  mirrored : s.mirror = s.chain.rows ∨ ∃ row, s.chain.rows = s.mirror ++ [row]
  informed : ∀ i, (s.writers i).Informed s.mirror s.chain.rows

namespace Sound

variable {env : AuditEnv} {s : AuditSystem}

theorem new (env : AuditEnv) : Sound env .new where
  linked := trivial
  committed := by simp [AuditSystem.new, AuditState.new, AuditState.rows]
  unique := nodup_nil
  base := by simp [AuditSystem.new, AuditState.new]
  unset _ := rfl
  mirrored := .inl rfl
  informed _ := trivial

variable (h : Sound env s)

include h

theorem mirror_linked : auditLinkage.Continues 0 0 s.mirror := by
  rcases h.mirrored with heq | ⟨row, hrows⟩
  · rw [heq]
    exact h.linked
  · exact (continues_concat.1 (hrows ▸ h.linked)).1

/-- A writer may go to any phase that it is informed for. -/
theorem setWriter {i : ℕ} {w : Writer} (hw : w.Informed s.mirror s.chain.rows) :
    Sound env (s.setWriter i w) :=
  { h with
    informed := (Function.forall_update_iff s.writers fun _ w =>
      w.Informed s.mirror s.chain.rows).2 ⟨hw, fun j _ => h.informed j⟩ }

theorem informed_mirrorHead (operationId : String) (entry : AuditEntry) :
    (Writer.appending operationId entry (mirrorHead s.mirror)).Informed s.mirror s.chain.rows := by
  have hlinked := h.mirror_linked
  rw [mirrorHead_eq hlinked]
  refine ⟨Nat.le_refl _, ?_⟩
  intro hzero
  -- the last number counts the rows, so there are none
  have hlen := hlinked.lastSeq_eq
  have hnil : s.mirror = [] := eq_nil_of_length_eq_zero (by simp only at hzero; omega)
  rw [hnil]
  rfl

section Informed

variable (hinformed : head.seq ≤ auditLinkage.lastSeq 0 s.mirror ∧ (head.seq = 0 → head = .zero))

include hinformed

theorem base_eq : s.chain.base.getD head = .zero := by
  cases hbase : s.chain.base with
  | some b => exact h.base b hbase
  | none =>
    have hrows : s.chain.rows = [] := by simp [rows, h.unset hbase]
    have hmirror : s.mirror = [] := by
      rcases h.mirrored with heq | ⟨row, heq⟩
      · rw [heq, hrows]
      · simp [hrows] at heq
    rw [hmirror] at hinformed
    exact hinformed.2 (Nat.le_zero.1 hinformed.1)

theorem head_eq :
    s.chain.head head =
      { seq := auditLinkage.lastSeq 0 s.chain.rows,
        hash := auditLinkage.lastHash 0 s.chain.rows } := by
  simp only [AuditState.head, h.base_eq hinformed, lastSeq, lastHash, AuditState.rows, getLast?_map]
  cases s.chain.events.getLast? <;> rfl

theorem mirror_eq_of_head (hhead : s.chain.head head = head) : s.mirror = s.chain.rows := by
  rcases h.mirrored with heq | ⟨row, hrows⟩
  · exact heq
  · -- the last event is numbered beyond the table, and so is the head
    exfalso
    have hseq := (continues_concat.1 (hrows ▸ h.linked)).2.1
    have hlast : head.seq = auditLinkage.lastSeq 0 s.chain.rows := by
      rw [← hhead, h.head_eq hinformed]
    rw [hrows, lastSeq_concat, hseq] at hlast
    omega

theorem withBase : Sound env { s with chain := s.chain.withBase head } := by
  refine { h with base := fun b hb => ?_, unset := fun hbase => ?_ }
  · obtain rfl : s.chain.base.getD head = b := by simpa [AuditState.withBase] using hb
    exact h.base_eq hinformed
  · simp [AuditState.withBase] at hbase

end Informed

/-- A new event goes to the end of the chain, and only it is missing from the table. -/
theorem extend {input : AppendRequest} (hevent : AuditState.nextEvent env input = some event)
    (hhead : s.chain.head input.bootstrap = input.bootstrap)
    (hfresh : s.chain.loadOperation input.operationId = none)
    (hinformed : input.bootstrap.seq ≤ auditLinkage.lastSeq 0 s.mirror ∧
      (input.bootstrap.seq = 0 → input.bootstrap = .zero)) :
    Sound env { s with
      chain := { s.chain.withBase input.bootstrap with
        events := s.chain.events ++
          [⟨input.operationId, env.requestHash input.entry, event⟩] } } := by
  have hbase := h.withBase hinformed
  have hend := (h.head_eq hinformed).symm.trans hhead
  obtain ⟨seq, hseq, hevent⟩ := bind_eq_some_iff.1 hevent
  unfold AdminAuditEvent.newV2 at hevent
  dsimp only at hevent
  split_ifs at hevent
  have hnew := (some.inj hevent).symm
  rw [ChainHead.seq_next hseq] at hnew
  let row : AuditRow := ⟨input.operationId, event⟩
  have hlinked : auditLinkage.Continues 0 0 (s.chain.rows ++ [row]) := by
    refine continues_concat.2 ⟨h.linked, ?_, ?_⟩
    · exact (congrArg (·.seq) hnew).trans (congrArg (·.seq + 1) hend.symm)
    · exact (congrArg (·.prevHash) hnew).trans (congrArg (·.hash) hend.symm)
  have hrows : AuditState.rows { s.chain.withBase input.bootstrap with
      events := s.chain.events ++ [⟨input.operationId, env.requestHash input.entry, event⟩] } =
      s.chain.rows ++ [row] := map_append
  refine ⟨?_, ?_, ?_, hbase.base, ?_, ?_, ?_⟩
  · rw [hrows]
    exact hlinked
  · intro r hr
    rw [hrows] at hr
    rcases mem_append.1 hr with hold | hlast
    · exact h.committed r hold
    · obtain rfl := mem_singleton.1 hlast
      simp [Committed, row, hnew]
  · rw [hrows, map_append, nodup_append]
    refine ⟨h.unique, nodup_singleton _, ?_⟩
    intro a ha b hb hab
    -- the operation has no event yet
    obtain rfl : b = input.operationId := by simpa [row] using hb
    obtain ⟨r, hr, rfl⟩ := mem_map.1 ha
    obtain ⟨e, he, rfl⟩ := mem_map.1 hr
    have hne := find?_eq_none.1 hfresh e he
    exact hne (by simpa using hab)
  · intro hnone
    simp [AuditState.withBase] at hnone
  · exact .inr ⟨row, hrows.trans (by rw [h.mirror_eq_of_head hinformed hhead])⟩
  · intro i
    rw [hrows]
    have hi := h.informed i
    revert hi
    cases s.writers i with
    | inserting operationId event' => exact fun hmem => mem_append_left _ hmem
    | appending | idle | reading => exact id

theorem append (i : ℕ) (input : AppendRequest)
    (hinformed : input.bootstrap.seq ≤ auditLinkage.lastSeq 0 s.mirror ∧
      (input.bootstrap.seq = 0 → input.bootstrap = .zero)) :
    Sound env ({ s with chain := (s.chain.append env input).1 }.setWriter i
      (AuditSystem.afterAppend input.operationId (s.chain.append env input).2)) := by
  fun_cases AuditState.append env s.chain input with
  | case1 | case3 => exact h.setWriter trivial
  | case2 _ row hrow =>
    have hid : row.operationId = input.operationId := by simpa using find?_some hrow
    exact h.setWriter (mem_map.2 ⟨row, mem_of_find?_eq_some hrow, by rw [hid]⟩)
  | case4 | case5 => exact (h.withBase hinformed).setWriter trivial
  | case6 _ hfresh hhead event hevent =>
    refine (h.extend hevent (not_not.1 hhead) hfresh hinformed).setWriter ?_
    exact mem_map.2 ⟨_, mem_append_right _ (mem_singleton.2 rfl), rfl⟩

/-- An insert adds the missing event, or finds its operation in the table. -/
theorem mirrorInsert_cases {row : AuditRow} (hrow : row ∈ s.chain.rows) :
    mirrorInsert s.mirror row = some s.mirror ∨
      (mirrorInsert s.mirror row = some (s.mirror ++ [row]) ∧
        s.chain.rows = s.mirror ++ [row]) := by
  unfold mirrorInsert
  split
  · exact .inl rfl
  next hnone =>
  have hmirror : row ∉ s.mirror := by
    intro hmem
    apply hnone
    rw [loadAudit, find?_isSome]
    exact ⟨row, hmem, by simp⟩
  rcases h.mirrored with heq | ⟨last, hrows⟩
  · exact absurd (heq ▸ hrow) hmirror
  · obtain rfl : row = last := by
      rcases mem_append.1 (hrows ▸ hrow) with hold | hnew
      · exact absurd hold hmirror
      · exact mem_singleton.1 hnew
    have hseq := (continues_concat.1 (hrows ▸ h.linked)).2.1
    split
    next hany =>
      -- the number of the last event is above all numbers of the table
      obtain ⟨r, hr, heq⟩ := any_eq_true.1 hany
      have hle := h.mirror_linked.seq_le_lastSeq hr
      have heq' : auditLinkage.seq r = auditLinkage.seq row := by simpa [auditLinkage] using heq
      omega
    · exact .inr ⟨rfl, hrows⟩

theorem insert {row : AuditRow} (hrow : row ∈ s.chain.rows) :
    Sound env { s with mirror := (mirrorInsert s.mirror row).getD s.mirror } := by
  rcases h.mirrorInsert_cases hrow with heq | ⟨heq, hrows⟩
  · rw [heq]
    exact h
  · rw [heq, getD_some]
    refine ⟨h.linked, h.committed, h.unique, h.base, h.unset, .inl hrows.symm, ?_⟩
    intro i
    have hi := h.informed i
    revert hi
    cases s.writers i with
    | appending _ _ head =>
      rintro ⟨hle, hzero⟩
      refine ⟨?_, hzero⟩
      have hseq := (continues_concat.1 (hrows ▸ h.linked)).2.1
      rw [lastSeq_concat]
      omega
    | inserting | idle | reading => exact id

/-- Every step of every writer keeps the chain linked and its copy at most one event behind. -/
theorem step (e : AuditStep) : Sound env (s.step env e) := by
  fun_cases AuditSystem.step env s e with
  | case3 i operationId entry => exact h.setWriter (h.informed_mirrorHead operationId entry)
  | case6 i operationId entry head hwriter chain answer happend =>
    have hinformed : (Writer.appending operationId entry head).Informed s.mirror s.chain.rows :=
      hwriter ▸ h.informed i
    have hkept := h.append i ⟨operationId, entry, head⟩ hinformed
    rwa [happend] at hkept
  | case8 i operationId event hwriter =>
    have hmem : (Writer.inserting operationId event).Informed s.mirror s.chain.rows :=
      hwriter ▸ h.informed i
    exact (h.insert hmem).setWriter trivial
  | case1 | case2 | case4 | case10 => exact h.setWriter trivial
  | _ => exact h

end Sound

/-- In every interleaving of the writers, with writers that stop anywhere: the chain is numbered
from 1 without a gap, each event is linked to the one before it and its hash is taken of its
contents, no operation has two events, and the table is the chain or the chain without its last
event. -/
theorem audit_chain_linked_and_mirrored (env : AuditEnv) (steps : List AuditStep) :
    let s := exec (AuditSystem.step env) .new steps
    s.chain.rows.map (·.event.seq) = range' 1 s.chain.rows.length ∧
      (∀ row ∈ s.chain.rows.head?, row.event.prevHash = 0) ∧
      (s.chain.rows.IsChain fun row next => next.event.prevHash = row.event.hash) ∧
      (∀ row ∈ s.chain.rows, Committed env row.event) ∧
      (s.chain.rows.map (·.operationId)).Nodup ∧
      (s.mirror = s.chain.rows ∨ ∃ row, s.chain.rows = s.mirror ++ [row]) := by
  intro s
  have hs : Sound env s :=
    exec_induction (AuditSystem.step env) (fun s e h => h.step e) (Sound.new env) steps
  exact ⟨hs.linked.map_seq, hs.linked.prev_head, hs.linked.isChain, hs.committed, hs.unique,
    hs.mirrored⟩

end CopyLocker.Worker.AdminAudit
