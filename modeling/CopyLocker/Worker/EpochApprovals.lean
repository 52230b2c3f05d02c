import CopyLocker.Worker.Registry

/-!
# Two-person approval of an epoch revocation

Revoking a signing epoch takes two Admin actors (`revoke`, `persist_first_approval` and
`persist_second_approval` in `admin_resources/epochs.rs`). The first confirmation is a row of
`epoch_revocation_approvals` that stays open for fifteen minutes; a confirmation by somebody else
completes it, and in the same D1 batch revokes the epoch and reserves the revocation's number.

A request reads the epoch, the approval, the clock, the revocation head and a version, one after
another, and then commits one batch. Other requests run in between, so a request is a process with
a phase. A batch is atomic: a taken key undoes all of it, but an update that matches no row does
not.

The version counters start at zero here, where the upload of an epoch writes its first version.
The responses, and what follows the batch, are left out.

## Main results

* `twoPerson_of_findsItsApproval`: two people approve in every run in which a batch
  that completes an approval finds the row that its request loaded.
* `renewed_approval_revokes_alone`: one actor revokes an epoch when the first approval is renewed
  between the two.
-/

namespace CopyLocker.Worker.EpochApproval

open Foundation Run Suite Proto Table Option Function

/-! ### The tables -/

/-- An approval is open for fifteen minutes. -/
def approvalWindowSeconds : ℤ := 15 * 60

/-- The columns of the second confirmation, which are set together. -/
structure Second where
  actor : String
  requestId : String
  approvedAt : ℤ
  revocationSeq : ℕ
  deriving DecidableEq

/-- A row of `epoch_revocation_approvals`. -/
structure ApprovalRow where
  epochId : EpochId
  vendorId : String
  firstActor : String
  firstRequestId : String
  firstApprovedAt : ℤ
  expiresAt : ℤ
  second : Option Second
  window : firstApprovedAt < expiresAt
  deriving DecidableEq

/-- An actor of a vendor. -/
structure Principal where
  vendorId : String
  actor : String
  deriving DecidableEq

/-- A confirmed request to revoke an epoch. -/
structure Request where
  principal : Principal
  epochId : EpochId
  requestId : String
  deriving DecidableEq

/-- Where a request stands, with what it has read. -/
inductive Phase
  | idle
  | begun (r : Request)
  | loaded (r : Request) (approval : Option ApprovalRow)
  | first (r : Request) (previous : Bool) (now : ℤ)
  | firstReady (r : Request) (previous : Bool) (now : ℤ) (version : ℕ)
  | second (r : Request) (approval : ApprovalRow) (now : ℤ)
  | numbered (r : Request) (approval : ApprovalRow) (now : ℤ) (seq : ℕ)
  | secondReady (r : Request) (approval : ApprovalRow) (now : ℤ) (seq version : ℕ)

/-- What the requests read besides: the cryptography of an upload, and the vendor of a product. -/
structure ConsoleEnv where
  primitives : Primitives Tbs
  sha256 : Bytes → Digest
  owner : ProductId → Option String

/-- The tables, with the vendor and request id of every journalled operation. -/
structure Console where
  registry : Registry
  approvals : Table ApprovalRow.epochId
  operations : List (String × String)
  epochVersion : EpochId → ℕ
  approvalVersion : EpochId → ℕ
  clock : ℤ
  requests : ℕ → Phase

namespace Console

def new : Console where
  registry := .new
  approvals := .empty
  operations := []
  epochVersion _ := 0
  approvalVersion _ := 0
  clock := 0
  requests _ := .idle

variable (s : Console)

def setPhase (i : ℕ) (p : Phase) : Console :=
  { s with requests := update s.requests i p }

/-- The epoch, if it belongs to the vendor. -/
def loadEpoch (env : ConsoleEnv) (s : Console) (r : Request) : Option EpochRow :=
  (s.registry.epochs.find r.epochId).filter fun row =>
    row.cert.productScope.bind env.owner == some r.principal.vendorId

/-- Another epoch can sign for the product. -/
def replacementReady (epoch : EpochRow) : Bool :=
  s.registry.epochs.rows.any fun row =>
    row.id != epoch.id && row.revokedAt.isNone && decide (row.cert.notBefore ≤ s.clock) &&
      decide (s.clock < row.cert.notAfter) &&
      (row.cert.productScope.isNone || row.cert.productScope == epoch.cert.productScope)

/-- The approval, if it belongs to the vendor. -/
def loadApproval (r : Request) : Option ApprovalRow :=
  (s.approvals.find r.epochId).filter (·.vendorId == r.principal.vendorId)

/-- The journal already has the operation. -/
def journalled (r : Request) : Bool :=
  s.operations.contains (r.principal.vendorId, r.requestId)

/-- The checks before the approval is looked at. -/
def start (env : ConsoleEnv) (s : Console) (r : Request) : Phase :=
  match s.loadEpoch env r with
  | none => .idle
  | some epoch =>
    if s.journalled r ∨ epoch.revokedAt.isSome ∨ ¬ s.replacementReady epoch then .idle
    else .begun r

/-- Which confirmation this is. -/
def choose (r : Request) (approval : Option ApprovalRow) (now : ℤ) : Phase :=
  match approval with
  | none => .first r false now
  | some a =>
    if a.second.isSome then .idle
    else if now < a.expiresAt then
      if a.firstActor = r.principal.actor then .idle else .second r a now
    else .first r true now

/-- The batch of a first confirmation. -/
def commitFirst (r : Request) (previous : Bool) (now : ℤ) (version : ℕ) : Console :=
  if s.journalled r ∨ version ≠ s.approvalVersion r.epochId + 1 ∨
      ¬ isSafeInteger (now + approvalWindowSeconds) then s
  else
    let row : ApprovalRow :=
      { epochId := r.epochId, vendorId := r.principal.vendorId, firstActor := r.principal.actor,
        firstRequestId := r.requestId, firstApprovedAt := now,
        expiresAt := now + approvalWindowSeconds, second := none,
        window := Int.lt_add_of_pos_right now (by decide) }
    let approvals :=
      if previous then
        -- the update of an expired approval; it may match no row
        some (s.approvals.updateWhere
          (fun a => a.epochId == r.epochId && a.vendorId == r.principal.vendorId &&
            a.second.isNone && decide (a.expiresAt ≤ now))
          (fun a => { row with epochId := a.epochId }))
      else s.approvals.insert row
    match approvals with
    | none => s
    | some approvals =>
      { s with
        approvals
        operations := (r.principal.vendorId, r.requestId) :: s.operations
        approvalVersion := update s.approvalVersion r.epochId version }

/-- The keys that the batch of a second confirmation needs are free. -/
def secondFree (r : Request) (seq version : ℕ) : Bool :=
  !s.journalled r && version == s.epochVersion r.epochId + 1 &&
    (s.registry.revocations.find seq).isNone &&
    !s.registry.revocations.rows.any fun row => row.requestId == r.requestId

/-- The approval that the batch of a second confirmation completes. -/
def completes (r : Request) (now : ℤ) (a : ApprovalRow) : Bool :=
  a.epochId == r.epochId && a.vendorId == r.principal.vendorId && a.second.isNone &&
    a.firstActor != r.principal.actor && decide (now < a.expiresAt)

/-- The batch of a second confirmation. -/
def commitSecond (r : Request) (now : ℤ) (seq version : ℕ) : Console :=
  if ¬ s.secondFree r seq version then s
  else
    let second : Second :=
      { actor := r.principal.actor, requestId := r.requestId, approvedAt := now,
        revocationSeq := seq }
    { s with
      registry := s.registry.revokeEpoch r.epochId seq r.principal.actor r.requestId now
      approvals :=
        s.approvals.updateWhere (completes r now) fun a => { a with second := some second }
      operations := (r.principal.vendorId, r.requestId) :: s.operations
      epochVersion := update s.epochVersion r.epochId version }

end Console

/-- The steps of the requests to revoke an epoch, and of everything else. -/
inductive ConsoleStep
  | start (i : ℕ) (r : Request)
  | loadApproval (i : ℕ)
  | choose (i : ℕ)
  | readHead (i : ℕ)
  | readVersion (i : ℕ)
  | commit (i : ℕ)
  | stop (i : ℕ)
  | advance (seconds : ℕ)
  | operation (vendorId requestId : String)
  | registry (step : RegistryStep)

/-- The statements on the registry that other requests run: uploads, and revocations of licenses
and machines. -/
def ofOthers : RegistryStep → Bool
  | .revokeEpoch .. => false
  | .reserveRevocation (.epoch _) .. => false
  | _ => true

namespace Console

/-- A step of one request, or of the clock. -/
def step (env : ConsoleEnv) (s : Console) : ConsoleStep → Console
  | .start i r => s.setPhase i (s.start env r)
  | .loadApproval i =>
    match s.requests i with
    | .begun r => s.setPhase i (.loaded r (s.loadApproval r))
    | _ => s
  | .choose i =>
    match s.requests i with
    | .loaded r approval => s.setPhase i (choose r approval s.clock)
    | _ => s
  | .readHead i =>
    match s.requests i with
    | .second r approval now =>
      if s.registry.revocations.rows.any (·.publishedAt.isNone) then s.setPhase i .idle
      else
        s.setPhase i (.numbered r approval now (maxSeq s.registry.revocations (fun _ => true) + 1))
    | _ => s
  | .readVersion i =>
    match s.requests i with
    | .first r previous now =>
      s.setPhase i (.firstReady r previous now (s.approvalVersion r.epochId + 1))
    | .numbered r approval now seq =>
      s.setPhase i (.secondReady r approval now seq (s.epochVersion r.epochId + 1))
    | _ => s
  | .commit i =>
    match s.requests i with
    | .firstReady r previous now version => (s.commitFirst r previous now version).setPhase i .idle
    | .secondReady r _ now seq version => (s.commitSecond r now seq version).setPhase i .idle
    | _ => s
  | .stop i => s.setPhase i .idle
  | .advance seconds => { s with clock := s.clock + seconds }
  | .operation vendorId requestId =>
    if s.operations.contains (vendorId, requestId) then s
    else { s with operations := (vendorId, requestId) :: s.operations }
  | .registry e =>
    if ofOthers e then { s with registry := s.registry.step env.primitives env.sha256 e } else s

end Console

/-! ### The rule -/

/-- Two distinct actors approved, the second in the window that the first opened. -/
def ApprovalRow.IsComplete (a : ApprovalRow) (b : Second) : Prop :=
  a.second = some b ∧ a.firstActor ≠ b.actor ∧ a.firstApprovedAt ≤ b.approvedAt ∧
    b.approvedAt < a.expiresAt

/-- An epoch is revoked, and its revocation is in the table, only with a complete approval that
names the revocation. -/
structure TwoPerson (s : Console) : Prop where
  epochs : ∀ row ∈ s.registry.epochs.rows, row.revokedAt.isSome →
    ∃ a b, s.approvals.find row.id = some a ∧ a.IsComplete b
  revocations : ∀ row ∈ s.registry.revocations.rows, ∀ id, row.target = .epoch id →
    ∃ a b, s.approvals.find id = some a ∧ a.IsComplete b ∧ b.revocationSeq = row.seq

/-- The batch of a second confirmation finds the approval that its request loaded. -/
def FindsItsApproval (s : Console) : ConsoleStep → Prop
  | .commit i =>
    match s.requests i with
    | .secondReady r approval _ _ _ => s.approvals.find r.epochId = some approval
    | _ => True
  | _ => True

/-! ### What the requests know -/

/-- What a phase implies about the times it carries, and about the approval it is to complete. -/
def Phase.Knows (clock : ℤ) : Phase → Prop
  | .loaded r (some a) =>
    a.firstApprovedAt ≤ clock ∧ a.epochId = r.epochId ∧ a.vendorId = r.principal.vendorId
  | .first _ _ now | .firstReady _ _ now _ => now ≤ clock
  | .second r a now | .numbered r a now _ | .secondReady r a now _ _ =>
    Console.completes r now a = true ∧ a.firstApprovedAt ≤ now
  | _ => True

theorem Phase.Knows.mono {clock clock' : ℤ} (hle : clock ≤ clock') {p : Phase}
    (h : p.Knows clock) : p.Knows clock' := by
  cases p with
  | loaded r approval =>
    cases approval with
    | none => exact trivial
    | some a => exact ⟨h.1.trans hle, h.2⟩
  | first | firstReady => exact le_trans h hle
  | _ => exact h

/-- No approval is from the future, and the requests know what their phases imply. -/
structure Orderly (s : Console) : Prop where
  approvals : ∀ a ∈ s.approvals.rows, a.firstApprovedAt ≤ s.clock
  requests : ∀ i, (s.requests i).Knows s.clock

open Console

variable {previous : Bool} {now : ℤ} {seq : ℕ} (env : ConsoleEnv)

namespace Orderly

variable {s}

theorem new : Orderly .new where
  approvals a ha := by cases ha
  requests _ := trivial

variable {r : Request} {i : ℕ} {p : Phase}

theorem knows (h : Orderly s) (hp : s.requests i = p) : p.Knows s.clock := hp ▸ h.requests i

theorem setPhase (h : Orderly s) (hp : p.Knows s.clock) : Orderly (s.setPhase i p) where
  approvals := h.approvals
  requests := (forall_update_iff s.requests fun _ p => p.Knows s.clock).2
    ⟨hp, fun j _ => h.requests j⟩

/-- The confirmation that a request chooses fits the approval that it loaded. -/
theorem knows_choose {approval : Option ApprovalRow} {clock : ℤ}
    (h : (Phase.loaded r approval).Knows clock) :
    (choose r approval clock).Knows clock := by
  cases approval with
  | none => exact le_refl clock
  | some a =>
    obtain ⟨hle, hepoch, hvendor⟩ := h
    simp only [choose]
    split_ifs with hsecond hopen hactor
    · exact trivial
    · exact trivial
    · refine ⟨?_, hle⟩
      simp [completes, hepoch, hvendor, hactor, hopen, not_isSome_iff_eq_none.1 hsecond]
    · exact le_refl clock

theorem commitFirst (h : Orderly s) {version : ℕ} (hnow : now ≤ s.clock) :
    Orderly (s.commitFirst r previous now version) := by
  unfold Console.commitFirst
  split
  · exact h
  dsimp only
  split
  · exact h
  next approvals happrovals =>
  refine ⟨?_, h.requests⟩
  intro a ha
  cases previous with
  | true =>
    cases happrovals
    obtain ⟨a', ha', rfl⟩ := List.mem_map.1 ha
    split
    · exact hnow
    · exact h.approvals a' ha'
  | false =>
    rw [insert_rows happrovals] at ha
    rcases List.mem_append.1 ha with hold | hlast
    · exact h.approvals a hold
    · obtain rfl := List.mem_singleton.1 hlast
      exact hnow

theorem commitSecond (h : Orderly s) {version : ℕ} :
    Orderly (s.commitSecond r now seq version) := by
  unfold Console.commitSecond
  split
  · exact h
  refine ⟨?_, h.requests⟩
  intro a ha
  obtain ⟨a', ha', rfl⟩ := List.mem_map.1 ha
  split <;> exact h.approvals a' ha'

theorem step (h : Orderly s) (e : ConsoleStep) : Orderly (s.step env e) := by
  fun_cases Console.step env s e with
  | case1 i r =>
    refine h.setPhase ?_
    fun_cases start env s r <;> exact trivial
  | case2 i r =>
    refine h.setPhase ?_
    cases hload : s.loadApproval r with
    | none => exact trivial
    | some a =>
      obtain ⟨hfind, hvendor⟩ := filter_eq_some_iff.1 hload
      obtain ⟨hmem, hkey⟩ := find_eq_some_iff.1 hfind
      exact ⟨h.approvals a hmem, hkey, by simpa using hvendor⟩
  | case4 i r approval hphase => exact h.setPhase (knows_choose (h.knows hphase))
  | case7 i r approval now hphase | case9 i r previous now hphase
    | case10 i r approval now seq hphase =>
    have hknows := h.knows hphase
    exact h.setPhase hknows
  | case12 i r previous now version hphase =>
    exact (h.commitFirst (h.knows hphase)).setPhase trivial
  | case13 => exact h.commitSecond.setPhase trivial
  | case6 | case15 => exact h.setPhase trivial
  | case16 seconds =>
    have hle : s.clock ≤ s.clock + seconds := by omega
    exact ⟨fun a ha => (h.approvals a ha).trans hle, fun i => (h.requests i).mono hle⟩
  | case18 | case19 => exact ⟨h.approvals, h.requests⟩
  | _ => exact h

end Orderly

/-! ### The rule over whole runs -/

theorem mem_epochs_of_ofOthers (g : Registry) {e : RegistryStep}
    (he : ofOthers e) {row : EpochRow}
    (hrow : row ∈ (g.step env.primitives env.sha256 e).epochs.rows)
    (hrevoked : row.revokedAt.isSome) : row ∈ g.epochs.rows := by
  cases e with
  | upload certificate rootBytes =>
    simp only [Registry.step] at hrow
    cases hupload : g.upload env.primitives env.sha256 certificate rootBytes with
    | none => simpa only [hupload, getD_none] using hrow
    | some g' =>
    obtain ⟨parsed, epochs, hinsert, rfl⟩ := Registry.upload_eq_some hupload
    simp only [hupload, getD_some, insert_rows hinsert, List.mem_append, List.mem_singleton] at hrow
    rcases hrow with hold | rfl
    · exact hold
    · cases hrevoked
  | revokeEpoch _ _ _ _ _ => cases he
  | raiseFloor | writeKeyset =>
    simp only [Registry.step] at hrow
    split at hrow <;> exact hrow
  | _ => exact hrow

theorem mem_revocations_of_ofOthers (g : Registry) {e : RegistryStep}
    (he : ofOthers e) {row : RevocationRow} {id : EpochId}
    (hrow : row ∈ (g.step env.primitives env.sha256 e).revocations.rows)
    (htarget : row.target = .epoch id) :
    ∃ row' ∈ g.revocations.rows, row'.target = .epoch id ∧ row'.seq = row.seq := by
  cases e with
  | reserveRevocation target targetRevoked reason actor requestId now =>
    simp only [Registry.step] at hrow
    obtain hsame | ⟨-, -, hrows⟩ := reserveRevocation_cases g.revocations target targetRevoked
      reason actor requestId now
    · exact ⟨row, hsame ▸ hrow, htarget, rfl⟩
    · rw [hrows] at hrow
      rcases List.mem_append.1 hrow with hold | hlast
      · exact ⟨row, hold, htarget, rfl⟩
      · -- the target of the new row is a license or a machine
        obtain rfl := List.mem_singleton.1 hlast
        obtain rfl : target = .epoch id := htarget
        cases he
  | markApplied | markPublished =>
    obtain ⟨row', hrow', rfl⟩ := List.mem_map.1 hrow
    refine ⟨row', hrow', ?_, ?_⟩
    · split at htarget <;> exact htarget
    · split <;> rfl
  | revokeEpoch => cases he
  | upload certificate rootBytes =>
    simp only [Registry.step] at hrow
    cases hupload : g.upload env.primitives env.sha256 certificate rootBytes with
    | none => exact ⟨row, by simpa only [hupload, getD_none] using hrow, htarget, rfl⟩
    | some g' =>
      obtain ⟨_, _, -, rfl⟩ := Registry.upload_eq_some hupload
      exact ⟨row, by simpa only [hupload, getD_some] using hrow, htarget, rfl⟩
  | raiseFloor | writeKeyset | readCertificates | readRevocationEpoch =>
    simp only [Registry.step] at hrow
    repeat' split at hrow
    all_goals exact ⟨row, hrow, htarget, rfl⟩

namespace TwoPerson

variable {s} {s' : Console}

theorem new : TwoPerson .new where
  epochs row hrow := by cases hrow
  revocations row hrow := by cases hrow

/-- A step that leaves the revoked epochs, the epoch revocations and the complete approvals as
they are keeps the rule. -/
theorem of_kept (h : TwoPerson s)
    (hepochs : ∀ row ∈ s'.registry.epochs.rows, row.revokedAt.isSome → row ∈ s.registry.epochs.rows)
    (hrevocations : ∀ row ∈ s'.registry.revocations.rows, ∀ id, row.target = .epoch id →
      ∃ row' ∈ s.registry.revocations.rows, row'.target = .epoch id ∧ row'.seq = row.seq)
    (happrovals : ∀ id a b, s.approvals.find id = some a → a.IsComplete b →
      s'.approvals.find id = some a) : TwoPerson s' where
  epochs row hrow hrevoked := by
    obtain ⟨a, b, hfind, hcomplete⟩ := h.epochs row (hepochs row hrow hrevoked) hrevoked
    exact ⟨a, b, happrovals _ a b hfind hcomplete, hcomplete⟩
  revocations row hrow id htarget := by
    obtain ⟨row', hrow', htarget', hseq⟩ := hrevocations row hrow id htarget
    obtain ⟨a, b, hfind, hcomplete, hb⟩ := h.revocations row' hrow' id htarget'
    exact ⟨a, b, happrovals _ a b hfind hcomplete, hcomplete, hb.trans hseq⟩

variable {r : Request} {version : ℕ}

theorem commitFirst (h : TwoPerson s) : TwoPerson (s.commitFirst r previous now version) := by
  unfold Console.commitFirst
  split
  · exact h
  dsimp only
  split
  · exact h
  next approvals happrovals =>
  refine h.of_kept (fun row hrow _ => hrow) (fun row hrow id ht => ⟨row, hrow, ht, rfl⟩) ?_
  intro id a b hfind hcomplete
  cases previous with
  | true =>
    cases happrovals
    rw [find_updateWhere, hfind, map_some, if_neg]
    simp [hcomplete.1]
  | false =>
    rw [find_insert happrovals, if_neg, hfind]
    rintro rfl
    rw [find_eq_none_of_insert happrovals] at hfind
    cases hfind

/-- A second confirmation that finds the approval it is to complete keeps the rule. -/
theorem commitSecond (h : TwoPerson s) {a : ApprovalRow}
    (hfind : s.approvals.find r.epochId = some a) (hcompletes : completes r now a)
    (hwindow : a.firstApprovedAt ≤ now) : TwoPerson (s.commitSecond r now seq version) := by
  unfold Console.commitSecond
  split
  · exact h
  have hopen := hcompletes
  simp only [completes, Bool.and_eq_true, bne_iff_ne, decide_eq_true_eq,
    isNone_iff_eq_none] at hopen
  obtain ⟨⟨⟨-, hnone⟩, hactors⟩, hexpires⟩ := hopen
  -- the update reaches the approval, and no complete one
  have hfound (second : Second) : (s.approvals.updateWhere (completes r now) fun a =>
      { a with second := some second }).find r.epochId = some { a with second := some second } := by
    rw [find_updateWhere, hfind, map_some, if_pos hcompletes]
  have hkept (second : Second) (id : EpochId) (c : ApprovalRow) (b : Second)
      (hc : s.approvals.find id = some c) (hcomplete : c.IsComplete b) :
      (s.approvals.updateWhere (completes r now) fun a =>
        { a with second := some second }).find id = some c := by
    rw [find_updateWhere, hc, map_some, if_neg]
    simp [completes, hcomplete.1]
  fun_cases s.registry.revokeEpoch r.epochId seq r.principal.actor r.requestId now with
  | case1 | case2 =>
    exact h.of_kept (fun row hrow _ => hrow) (fun row hrow id ht => ⟨row, hrow, ht, rfl⟩) (hkept _)
  | case3 revocations hinsert =>
  refine ⟨?_, ?_⟩
  · intro row hrow hrevoked
    by_cases hid : row.id = r.epochId
    · exact ⟨_, _, hid ▸ hfound _, rfl, hactors, hwindow, hexpires⟩
    · obtain ⟨row', hrow', rfl⟩ := List.mem_map.1 hrow
      have hid' : row'.id ≠ r.epochId := by
        intro heq
        apply hid
        split <;> exact heq
      rw [if_neg (by simp [hid'])] at hrevoked ⊢
      obtain ⟨c, b, hc, hcomplete⟩ := h.epochs row' hrow' hrevoked
      exact ⟨c, b, hkept _ _ c b hc hcomplete, hcomplete⟩
  · intro row hrow id htarget
    rw [insert_rows hinsert] at hrow
    rcases List.mem_append.1 hrow with hold | hlast
    · obtain ⟨c, b, hc, hcomplete, hseq⟩ := h.revocations row hold id htarget
      exact ⟨c, b, hkept _ _ c b hc hcomplete, hcomplete, hseq⟩
    · obtain rfl := List.mem_singleton.1 hlast
      obtain rfl : r.epochId = id := RevocationTarget.epoch.inj htarget
      exact ⟨_, _, hfound _, ⟨rfl, hactors, hwindow, hexpires⟩, rfl⟩

theorem step (h : TwoPerson s) (ho : Orderly s) {e : ConsoleStep}
    (hfinds : FindsItsApproval s e) : TwoPerson (s.step env e) := by
  -- every step but a commit leaves the rows that the rule speaks about
  have hphase (i : ℕ) (p : Phase) (s : Console) (h : TwoPerson s) : TwoPerson (s.setPhase i p) :=
    ⟨h.epochs, h.revocations⟩
  revert hfinds
  fun_cases Console.step env s e with intro hfinds
  | case12 i => exact hphase i _ _ h.commitFirst
  | case13 i r approval now seq version hready =>
    have hknows := ho.knows hready
    have hfind : s.approvals.find r.epochId = some approval := by
      simpa only [FindsItsApproval, hready] using hfinds
    exact hphase i _ _ (h.commitSecond hfind hknows.1 hknows.2)
  | case19 e he =>
    exact h.of_kept (fun row hrow => mem_epochs_of_ofOthers env s.registry he hrow)
      (fun row hrow id => mem_revocations_of_ofOthers env s.registry he hrow)
      (fun _ _ _ hc _ => hc)
  | _ => exact ⟨h.epochs, h.revocations⟩

end TwoPerson

/-- In every interleaving of requests whose completing batches find the approval that they loaded,
an epoch is revoked only together with an approval by two actors, the second in time. -/
theorem twoPerson_of_findsItsApproval (env : ConsoleEnv) {steps : List ConsoleStep}
    (hsteps : Along (Console.step env) FindsItsApproval .new steps) :
    TwoPerson (exec (Console.step env) .new steps) :=
  (exec_induction_along (I := fun s => TwoPerson s ∧ Orderly s)
    (fun _ e h hfinds => ⟨h.1.step env h.2 hfinds, h.2.step env e⟩) ⟨TwoPerson.new, Orderly.new⟩
    hsteps).1

/-! ### A renewed approval -/

def sampleEnv : ConsoleEnv where
  primitives := .permissive Tbs
  sha256 _ := 0
  owner _ := some "vendor"

/-- Epochs `5` and `6` are uploaded. -/
def uploads : List ConsoleStep :=
  [5, 6].map fun id => .registry (.upload (certificateOf id) rootKeyBytes)

def requestBy (actor requestId : String) : Request where
  principal := { vendorId := "vendor", actor }
  epochId := 5
  requestId := requestId

/-- A request that gives the first confirmation, with nothing in between. -/
def confirmsFirst (i : ℕ) (r : Request) : List ConsoleStep :=
  [.start i r, .loadApproval i, .choose i, .readVersion i, .commit i]

/-- A request to give the second confirmation, up to its batch. -/
def preparesSecond (i : ℕ) (r : Request) : List ConsoleStep :=
  [.start i r, .loadApproval i, .choose i, .readHead i, .readVersion i]

/-- Alice confirms, and just before the approval expires Bob prepares the second confirmation. -/
def prepared : List ConsoleStep :=
  uploads ++ confirmsFirst 0 (requestBy "alice" "a") ++ [.advance 890] ++
    preparesSecond 1 (requestBy "bob" "b")

/-- Just after it expired another request by Bob renews the approval. Then the prepared batch
commits. -/
def renewedInBetween : List ConsoleStep :=
  prepared ++ [.advance 20] ++ confirmsFirst 2 (requestBy "bob" "c") ++ [.commit 1]

/-- The epoch is revoked, its revocation is in the table, and one actor is on record. -/
theorem renewed_approval_revokes_alone :
    let s := exec (Console.step sampleEnv) .new renewedInBetween
    (s.registry.epochs.find 5).map (·.revokedAt) = some (some 890) ∧
      s.registry.revocations.rows.map (·.target) = [.epoch 5] ∧
      (s.approvals.find 5).map (fun a => (a.firstActor, a.second)) = some ("bob", none) ∧
      ¬ TwoPerson s := by
  refine ⟨rfl, rfl, rfl, ?_⟩
  intro h
  have hrow : ∃ row ∈ (exec (step sampleEnv) .new renewedInBetween).registry.revocations.rows,
      row.target = .epoch 5 := by decide
  obtain ⟨row, hmem, htarget⟩ := hrow
  obtain ⟨a, b, hfind, hcomplete, -⟩ := h.revocations row hmem 5 htarget
  have hsecond : ((exec (step sampleEnv) .new renewedInBetween).approvals.find 5).bind
      (·.second) = none := rfl
  rw [hfind, bind_some, hcomplete.1] at hsecond
  cases hsecond

/-- Bob confirms in time. -/
def confirmedByTwo : List ConsoleStep := prepared ++ [.commit 1]

theorem epoch_revoked_by_two :
    ((exec (Console.step sampleEnv) .new confirmedByTwo).registry.epochs.find 5).map
        (·.revokedAt) = some (some 890) ∧
      TwoPerson (exec (Console.step sampleEnv) .new confirmedByTwo) := by
  refine ⟨rfl, twoPerson_of_findsItsApproval sampleEnv ?_⟩
  exact ⟨trivial, trivial, trivial, trivial, trivial, trivial, trivial, trivial, trivial, trivial,
    trivial, trivial, trivial, rfl, trivial⟩

end CopyLocker.Worker.EpochApproval
