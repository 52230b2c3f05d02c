import CopyLocker.Worker.ActivationSafety
import Mathlib.Data.List.MinMax

/-!
# Versions of administrator updates

An administrator's change of a license reaches its object as a versioned message, which may come
late, more than once, out of order, or before the object exists. The object keeps the values of the
highest version: it drops a message whose version it has reached, and it parks one that comes before
`init`.

`init` has no version. Over an object that is not initialised yet it gives way to a parked update;
over an initialised one it writes the seats, the heartbeat and the expiry it carries, which the
worker read from the database before it sent them.

## Main results

* `Reflects.step`: what the object remembers of the updates, after one more message.
* `newest_update_inForce_iff`: the newest update is in force all along exactly when no `init`
  overwrites one.
-/

namespace CopyLocker.Worker.LicenseDO

open Foundation Run List

/-! ### Updates -/

/-- The checks that `admin_update` makes of a message alone. -/
def AdminUpdateRequest.Accepted (env : Env) (u : AdminUpdateRequest) : Prop :=
  limitsValid u.seats u.heartbeatSec = true ∧ isOperationId u.operationId = true ∧
    0 < u.version ∧ u.expiresAt.any (fun v => decide (v < 0)) = false ∧ u.status ≠ .revoked ∧
    u.licenseId = env.owner

instance (env : Env) (u : AdminUpdateRequest) : Decidable (u.Accepted env) :=
  inferInstanceAs (Decidable (_ ∧ _))

/-- The update that a message carries, when it passes the checks. -/
def Call.update (env : Env) (c : Call) : Option AdminUpdateRequest :=
  match c.request with
  | .adminUpdate u => if u.Accepted env then some u else none
  | _ => none

/-- The updates among the calls that pass the checks. -/
def updates (env : Env) (calls : List Call) : List AdminUpdateRequest :=
  calls.filterMap (Call.update env)

/-- The update of the highest version, the first one among those of equal version. -/
def newest (us : List AdminUpdateRequest) : Option AdminUpdateRequest :=
  -- the order is named: the one found as a complete lattice does not compute
  @List.argmax _ _ Int.instLinearOrder.toPreorder Int.decLt AdminUpdateRequest.version us

/-- The version reached by a list of updates, as `admin_version` counts it. -/
def reachedVersion (us : List AdminUpdateRequest) : ℤ :=
  (newest us).elim 0 AdminUpdateRequest.version

variable {us : List AdminUpdateRequest} {u : AdminUpdateRequest}

theorem newest_append_of_lt (h : reachedVersion us < u.version) : newest (us ++ [u]) = some u := by
  unfold reachedVersion at h
  unfold newest at h ⊢
  rw [argmax_concat]
  cases hmax : us.argmax AdminUpdateRequest.version with
  | none => rfl
  | some m =>
    rw [hmax] at h
    exact if_pos h

theorem newest_append_of_le (hpos : 0 < u.version) (h : u.version ≤ reachedVersion us) :
    newest (us ++ [u]) = newest us := by
  unfold reachedVersion at h
  unfold newest at h ⊢
  rw [argmax_concat]
  cases hmax : us.argmax AdminUpdateRequest.version with
  | none =>
    rw [hmax] at h
    exact absurd (hpos.trans_le h) (lt_irrefl 0)
  | some m =>
    rw [hmax] at h
    exact if_neg (not_lt.2 h)

theorem reachedVersion_append (hpos : 0 < u.version) :
    reachedVersion (us ++ [u]) = max (reachedVersion us) u.version := by
  rcases lt_or_ge (reachedVersion us) u.version with hlt | hle
  · rw [max_eq_right hlt.le, reachedVersion, newest_append_of_lt hlt]
    rfl
  · rw [max_eq_left hle, reachedVersion, newest_append_of_le hpos hle]
    rfl

theorem version_le_reachedVersion (hu : u ∈ us) : u.version ≤ reachedVersion us := by
  unfold reachedVersion newest
  cases hmax : us.argmax AdminUpdateRequest.version with
  | none =>
    rw [argmax_eq_none.1 hmax] at hu
    cases hu
  | some m => exact le_of_mem_argmax hu hmax

/-! ### What an object remembers of the updates -/

/-- The values of an object that an update sets. -/
def License.settings (l : License) : PendingAdmin where
  status := l.status
  seats := l.seats
  heartbeatSec := l.heartbeatSec
  expiresAt := l.expiresAt

/-- An initialised object holds the values of the newest update. -/
def InForce (us : List AdminUpdateRequest) (s : State) : Prop :=
  ∀ l u, s.license = some l → newest us = some u → l.settings = u.pending

theorem inForce_setLicense_iff (hnewest : newest us = some u) (s : State)
    (l : License) : InForce us (s.setLicense l) ↔ l.settings = u.pending := by
  constructor
  · intro h
    exact h l u rfl hnewest
  · intro h l' u' hl' hu'
    cases hl'
    cases hnewest.symm.trans hu'
    exact h

/-- The object has had exactly the updates `us`: their version, their operations, and the newest
one parked while the object is not initialised. -/
structure Reflects (env : Env) (us : List AdminUpdateRequest) (s : State) : Prop where
  version : s.adminVersion = reachedVersion us
  accepted : ∀ u ∈ us, u.Accepted env
  operation : ∀ id row, s.idem.find ⟨.adminUpdate, id⟩ = some row →
    ∃ u ∈ us, u.operationId = id ∧ row.requestHash = env.operationHash (.adminUpdate u)
  parked : s.license = none → s.pendingAdmin = (newest us).map AdminUpdateRequest.pending
  initialized : ∀ l, s.license = some l →
    s.pendingAdmin = none ∧ l.licenseId = env.owner ∧ l.status ≠ .revoked

variable {env : Env} {s : State} {c : Call} {calls : List Call} {input : InitRequest}

theorem adminUpdate_of_not_accepted (hu : ¬ u.Accepted env) (s : State) (now : ℤ) :
    (adminUpdate env s u now).1 = s := by
  unfold adminUpdate
  split
  · rfl
  split
  · rfl
  next hchecks howner =>
    simp only [not_or, not_not, not_le] at hchecks howner
    exact absurd ⟨hchecks.1, hchecks.2.1, hchecks.2.2.1,
      Bool.eq_false_of_not_eq_true hchecks.2.2.2.1, hchecks.2.2.2.2, howner⟩ hu

theorem inForce_append_of_le (hpos : 0 < u.version) (hle : u.version ≤ reachedVersion us)
    {s : State}
    (h : InForce us s) : InForce (us ++ [u]) s := by
  intro l u' hl hnewest
  rw [newest_append_of_le hpos hle] at hnewest
  exact h l u' hl hnewest

variable (h : Reflects env us s)

include h

/-- The operations of an object after those of one more update. -/
theorem Reflects.operation_append {s' : State} {now : ℤ} (hidem : s'.idem = s.idem.upsert
      ⟨⟨.adminUpdate, u.operationId⟩, env.operationHash (.adminUpdate u), none, now⟩) (id : String)
    (row : IdemRow) (hrow : s'.idem.find ⟨.adminUpdate, id⟩ = some row) : ∃ u' ∈ us ++ [u],
      u'.operationId = id ∧ row.requestHash = env.operationHash (.adminUpdate u') := by
  rw [hidem, Table.find_upsert] at hrow
  split_ifs at hrow with hkey
  · cases hrow
    exact ⟨u, by simp, by simpa using hkey, rfl⟩
  · obtain ⟨u', hu', hid, hhash⟩ := h.operation id row hrow
    exact ⟨u', mem_append_left _ hu', hid, hhash⟩

theorem Reflects.accepted_append (hu : u.Accepted env) : ∀ u' ∈ us ++ [u], u'.Accepted env := by
  intro u' hu'
  rcases mem_append.1 hu' with hmem | hmem
  · exact h.accepted u' hmem
  · rwa [mem_singleton.1 hmem]

theorem Reflects.mem_of_found (hone : ∀ u' ∈ us, u'.operationId = u.operationId → u' = u)
    {row : IdemRow} (hrow : s.idem.find ⟨.adminUpdate, u.operationId⟩ = some row) :
    u ∈ us ∧ row.requestHash = env.operationHash (.adminUpdate u) := by
  obtain ⟨u', hu', hid, hhash⟩ := h.operation _ row hrow
  obtain rfl := hone u' hu' hid
  exact ⟨hu', hhash⟩

/-- An update that is not newer is forgotten, apart from its operation. -/
theorem Reflects.absorb (hu : u.Accepted env) (hle : u.version ≤ reachedVersion us) :
    Reflects env (us ++ [u]) s where
  version := by rw [h.version, reachedVersion_append hu.2.2.1, max_eq_left hle]
  accepted := h.accepted_append hu
  operation id row hrow := by
    obtain ⟨u', hu', hid, hhash⟩ := h.operation id row hrow
    exact ⟨u', mem_append_left _ hu', hid, hhash⟩
  parked hnone := by rw [newest_append_of_le hu.2.2.1 hle, h.parked hnone]
  initialized := h.initialized

/-- A newer update takes the place of what the object holds, parked or in force. -/
theorem Reflects.supersede (hu : u.Accepted env) (hlt : reachedVersion us < u.version) {s' : State}
    (hversion : s'.adminVersion = u.version) {now : ℤ} (hidem : s'.idem = s.idem.upsert
      ⟨⟨.adminUpdate, u.operationId⟩, env.operationHash (.adminUpdate u), none, now⟩)
    (hparked : s'.license = none → s'.pendingAdmin = some u.pending)
    (happlied : ∀ l, s'.license = some l →
      s'.pendingAdmin = none ∧ l.licenseId = env.owner ∧ l.settings = u.pending) :
    Reflects env (us ++ [u]) s' ∧ InForce (us ++ [u]) s' := by
  have hnewest := newest_append_of_lt hlt
  refine ⟨?_, fun l u' hl hu' => ?_⟩
  · exact
      { version := by rw [hversion, reachedVersion_append hu.2.2.1, max_eq_right hlt.le]
        accepted := h.accepted_append hu
        operation := h.operation_append hidem
        parked := fun hnone => by rw [hparked hnone, hnewest, Option.map_some]
        initialized := fun l hl => by
          obtain ⟨hpending, howner, hsettings⟩ := happlied l hl
          have hstatus : l.status = u.status := congrArg PendingAdmin.status hsettings
          exact ⟨hpending, howner, hstatus ▸ hu.2.2.2.2.1⟩ }
  · cases hnewest.symm.trans hu'
    exact (happlied l hl).2.2

/-- An update leaves the object with the newest of what it has had. -/
theorem Reflects.adminUpdate (hu : u.Accepted env)
    (hone : ∀ u' ∈ us, u'.operationId = u.operationId → u' = u) (now : ℤ) :
    Reflects env (us ++ [u]) (adminUpdate env s u now).1 ∧
      (InForce us s → InForce (us ++ [u]) (adminUpdate env s u now).1) := by
  fun_cases LicenseDO.adminUpdate env s u now with
  | case1 hchecks =>
    obtain ⟨hlimits, hid, hversion, hexpiry, hstatus, -⟩ := hu
    exact absurd hchecks (by simp [hlimits, hid, hversion, hexpiry, hstatus])
  | case2 _ howner => exact absurd hu.2.2.2.2.2 howner
  | case3 _ _ _ row hload =>
    obtain ⟨hmem, -⟩ := h.mem_of_found hone (loadOperation_eq_completed hload).1
    have hle := version_le_reachedVersion hmem
    exact ⟨h.absorb hu hle, inForce_append_of_le hu.2.2.1 hle⟩
  | case4 _ _ _ hload =>
    unfold State.loadOperation at hload
    split at hload
    next => cases hload
    next row hfind => rw [if_pos (h.mem_of_found hone hfind).2] at hload; cases hload
  | case5 _ _ _ _ hle =>
    rw [h.version] at hle
    exact ⟨{ h.absorb hu hle with operation := h.operation_append rfl },
      inForce_append_of_le (s := s.storeOperation _) hu.2.2.1 hle⟩
  | case6 _ _ _ _ hlt hl =>
    rw [h.version, not_le] at hlt
    refine And.imp_right (fun hforce _ => hforce) (h.supersede hu hlt rfl rfl (fun _ => rfl) ?_)
    intro l hl'
    cases hl.symm.trans hl'
  | case7 _ _ _ _ _ l hl hlicense =>
    exact absurd ((h.initialized l hl).2.1.trans hu.2.2.2.2.2.symm) hlicense
  | case8 _ _ _ _ _ l hl _ hrevoked => exact absurd hrevoked (h.initialized l hl).2.2
  | case9 _ _ _ _ hlt l hl =>
    obtain ⟨hpending, howner, -⟩ := h.initialized l hl
    rw [h.version, not_le] at hlt
    refine And.imp_right (fun hforce _ => hforce) (h.supersede hu hlt rfl rfl ?_ ?_)
    · intro hnone
      cases hnone
    · intro l' hl'
      cases hl'
      exact ⟨hpending, howner, rfl⟩

/-! ### Initialisation -/

omit h

/-- `init` passes its checks and finds no other identity. -/
def InitRequest.Fits (env : Env) (s : State) (input : InitRequest) : Prop :=
  limitsValid input.seats input.heartbeatSec = true ∧ isProductId input.productId = true ∧
    input.nonceTtlSec.any (fun v => decide (v ≤ 0)) = false ∧ input.licenseId = env.owner ∧
    s.license.all (fun l => l.licenseId == input.licenseId && l.productId == input.productId &&
      l.suiteId == input.suiteId) = true

instance (env : Env) (s : State) (input : InitRequest) : Decidable (input.Fits env s) :=
  inferInstanceAs (Decidable (_ ∧ _))

theorem init_of_not_fits (h : ¬ input.Fits env s) : (init env s input).1 = s := by
  unfold init
  split_ifs with hchecks howner hsame
  · rfl
  · rfl
  · rfl
  · refine absurd ?_ h
    simp only [not_or, not_not] at hchecks howner
    refine ⟨hchecks.1, hchecks.2.1, Bool.eq_false_of_not_eq_true hchecks.2.2, howner, ?_⟩
    cases hl : s.license with
    | none => rfl
    | some l => simpa [hl] using hsame

theorem init_of_fits (h : input.Fits env s) :
    (init env s input).1 = let written := match s.license with
        | some l => l.configure input
        | none => License.new input
      match s.pendingAdmin with
      | none => s.setLicense written
      | some pending =>
        { s.setLicense (written.applyPending pending) with pendingAdmin := none } := by
  obtain ⟨hlimits, hproduct, httl, howner, hsame⟩ := h
  unfold init
  rw [if_neg (by simp [hlimits, hproduct, httl]), if_neg (not_not.2 howner), if_neg]
  · cases s.pendingAdmin with
    | none => rfl
    | some pending => rfl
  · cases hl : s.license with
    | none => simp
    | some l => simpa [hl] using hsame

/-- An accepted `init` that carries other values than the object holds, although the object has had
an update. -/
def OverwritesUpdate (env : Env) (s : State) (c : Call) : Prop :=
  match c.request with
  | .init input => input.Fits env s ∧ 0 < s.adminVersion ∧
      s.license.any (fun l => l.seats != input.seats ||
        l.heartbeatSec != asI64 input.heartbeatSec || l.expiresAt != input.expiresAt) = true
  | _ => False

instance (env : Env) (s : State) (c : Call) : Decidable (OverwritesUpdate env s c) := by
  unfold OverwritesUpdate
  cases c.request <;> infer_instance

/-- `init` keeps what the object remembers of the updates. -/
theorem Reflects.init (h : Reflects env us s) (input : InitRequest) :
    Reflects env us (init env s input).1 := by
  by_cases hfits : input.Fits env s
  · rw [init_of_fits hfits]
    cases hl : s.license with
    | none =>
      have hpending := h.parked hl
      cases hnewest : newest us with
      | none =>
        rw [hnewest] at hpending
        rw [hpending]
        refine { h with parked := nofun, initialized := ?_ }
        rintro l' ⟨⟩
        exact ⟨hpending, hfits.2.2.2.1, nofun⟩
      | some u =>
        rw [hnewest] at hpending
        rw [hpending]
        refine { h with parked := nofun, initialized := ?_ }
        rintro l' ⟨⟩
        have haccepted := h.accepted u (argmax_mem hnewest)
        exact ⟨rfl, hfits.2.2.2.1, haccepted.2.2.2.2.1⟩
    | some l =>
      obtain ⟨hpending, howner, hstatus⟩ := h.initialized l hl
      rw [hpending]
      refine { h with parked := nofun, initialized := ?_ }
      rintro l' ⟨⟩
      exact ⟨hpending, howner, hstatus⟩
  · rw [init_of_not_fits hfits]
    exact h

/-- `init` leaves the newest update in force unless it overwrites one. -/
theorem Reflects.inForce_init_iff (h : Reflects env us s) (hforce : InForce us s)
    (input : InitRequest) (now : ℤ) :
    InForce us (LicenseDO.init env s input).1 ↔ ¬ OverwritesUpdate env s ⟨now, .init input⟩ := by
  by_cases hfits : input.Fits env s
  · rw [init_of_fits hfits]
    simp only [OverwritesUpdate, hfits, true_and]
    cases hl : s.license with
    | none =>
      refine iff_of_true (fun l' u hl' hnewest => ?_) (by simp)
      have hpending := h.parked hl
      rw [hnewest] at hpending
      rw [hpending] at hl'
      cases hl'
      rfl
    | some l =>
      rw [(h.initialized l hl).1, h.version]
      cases hnewest : newest us with
      | none =>
        refine iff_of_true (fun l' u' _ hu' => ?_) (by simp [reachedVersion, hnewest])
        rw [hnewest] at hu'
        cases hu'
      | some u =>
        have hpos := (h.accepted u (argmax_mem hnewest)).2.2.1
        rw [inForce_setLicense_iff hnewest, ← hforce l u hl hnewest, eq_comm]
        simp [reachedVersion, hnewest, hpos, License.settings, License.configure, and_assoc]
  · rw [init_of_not_fits hfits]
    exact iff_of_true hforce fun hover => hfits hover.1

/-! ### Runs -/

/-- The messages of the run: updates and initialisations. -/
def Call.Administers (c : Call) : Prop :=
  match c.request with
  | .init _ | .adminUpdate _ => True
  | _ => False

instance (c : Call) : Decidable c.Administers := by
  unfold Call.Administers
  cases c.request <;> infer_instance

/-- One more message. The operation of an update names it among the updates. -/
theorem Reflects.step (h : Reflects env us s) (hc : c.Administers)
    (hone : ∀ u ∈ c.update env, ∀ u' ∈ us, u'.operationId = u.operationId → u' = u) :
    Reflects env (us ++ (c.update env).toList) (step env s c) ∧ (InForce us s →
        (InForce (us ++ (c.update env).toList) (step env s c) ↔ ¬ OverwritesUpdate env s c)) := by
  obtain ⟨now, request⟩ := c
  cases request with
  | init input =>
    rw [show (Call.update env ⟨now, .init input⟩).toList = [] from rfl, append_nil]
    exact ⟨h.init input, fun hforce => h.inForce_init_iff hforce input now⟩
  | adminUpdate u =>
    by_cases hu : u.Accepted env
    · have hupdate : Call.update env ⟨now, .adminUpdate u⟩ = some u := if_pos hu
      rw [hupdate] at hone ⊢
      obtain ⟨hreflects, hforce⟩ := h.adminUpdate hu (hone u rfl) now
      exact ⟨hreflects, fun hbefore => iff_of_true (hforce hbefore) id⟩
    · have hupdate : Call.update env ⟨now, .adminUpdate u⟩ = none := if_neg hu
      have hstep : step env s ⟨now, .adminUpdate u⟩ = s := adminUpdate_of_not_accepted hu s now
      rw [hupdate, hstep, Option.toList_none, append_nil]
      exact ⟨h, fun hbefore => iff_of_true hbefore id⟩
  | _ => exact hc.elim

private theorem updates_cons (env : Env) (c : Call) (calls : List Call) :
    updates env (c :: calls) = (c.update env).toList ++ updates env calls := by
  unfold updates
  rw [filterMap_cons]
  cases c.update env with
  | none => rfl
  | some u => rfl

private theorem inForce_iff_along (h : Reflects env us s) (hforce : InForce us s)
    (hcalls : ∀ c ∈ calls, c.Administers)
    (hone : ∀ u ∈ us ++ updates env calls, ∀ u' ∈ us ++ updates env calls,
      u'.operationId = u.operationId → u' = u) :
    (∀ pre post, calls = pre ++ post → InForce (us ++ updates env pre) (exec (step env) s pre)) ↔
      Along (step env) (fun s c => ¬ OverwritesUpdate env s c) s calls := by
  -- the updates of the messages handled so far move into `us`
  induction calls generalizing us s with
  | nil => exact iff_of_true (forall_split_nil.2 (by simpa [updates] using hforce)) trivial
  | cons c calls ih =>
    rw [updates_cons, ← append_assoc] at hone
    obtain ⟨hreflects, hstep⟩ := h.step (hcalls c mem_cons_self) fun u hu u' hu' hid =>
      hone u (by simp [Option.mem_def.1 hu]) u' (by simp [hu']) hid
    have hrest := fun hforce' => ih hreflects hforce'
      (fun c' hc' => hcalls c' (mem_cons_of_mem c hc')) hone
    rw [forall_split_cons, along_cons, ← hstep hforce]
    simp only [updates_cons, ← append_assoc, exec_cons]
    constructor
    · rintro ⟨-, hall⟩
      have hc := hall [] calls rfl
      rw [show updates env [] = [] from rfl, append_nil] at hc
      exact ⟨hc, (hrest hc).1 hall⟩
    · rintro ⟨hc, halong⟩
      exact ⟨by simpa [updates] using hforce, (hrest hc).2 halong⟩

/-- Over any order and repetition of updates and initialisations of a new object, in which an
operation names one update, the object holds the values of the newest update from its
initialisation on exactly when no `init` overwrites an update. -/
theorem newest_update_inForce_iff (hcalls : ∀ c ∈ calls, c.Administers)
    (hone : ∀ u ∈ updates env calls, ∀ u' ∈ updates env calls,
      u'.operationId = u.operationId → u' = u) :
    (∀ pre post, calls = pre ++ post → InForce (updates env pre) (exec (step env) State.new pre)) ↔
      Along (step env) (fun s c => ¬ OverwritesUpdate env s c) State.new calls := by
  have hstart : InForce [] State.new := fun l u hl _ => by cases hl
  have hreflects : Reflects env [] State.new :=
    ⟨rfl, by simp, fun _ _ h => (by cases h), fun _ => rfl, fun _ h => (by cases h)⟩
  have h := inForce_iff_along hreflects hstart hcalls (by simpa using hone)
  simpa only [nil_append] using h

/-- An `init` with the number of seats that an activation read from the database. -/
def initWith (seats : ℕ) : Call := ⟨0, .init { sampleInit with seats }⟩

/-- An administrator's change of the number of seats. -/
def seatsUpdate (version : ℤ) (operationId : String) (seats : ℕ) : Call :=
  ⟨0, .adminUpdate
    { licenseId := 1, operationId, version, status := .active, seats, heartbeatSec := none,
      expiresAt := none }⟩

/-- A second update that comes before `init`, a first one that comes late and twice, and an
activation that has read the new number of seats. -/
def parkedRun : List Call :=
  [seatsUpdate 2 "b" 10, initWith 5, seatsUpdate 1 "a" 7, seatsUpdate 1 "a" 7, initWith 10]

/-- The object has ten seats all along. -/
theorem parked_update_inForce :
    (newest (updates sampleEnv parkedRun)).map AdminUpdateRequest.seats = some 10 ∧
      ∀ pre post, parkedRun = pre ++ post →
        InForce (updates sampleEnv pre) (exec (step sampleEnv) State.new pre) :=
  ⟨by decide +kernel,
    (newest_update_inForce_iff (by decide) (by decide +kernel)).2 (by decide +kernel)⟩

/-- An activation reads five seats, an administrator raises them to ten, and the activation's `init`
arrives after the update: the object is back at five. -/
theorem stale_init_overwrites_update :
    (newest (updates sampleEnv [initWith 5, seatsUpdate 1 "a" 10, initWith 5])).map
        AdminUpdateRequest.seats = some 10 ∧
      (exec (step sampleEnv) State.new [initWith 5, seatsUpdate 1 "a" 10]).license.map
        License.seats = some 10 ∧
      (exec (step sampleEnv) State.new
        [initWith 5, seatsUpdate 1 "a" 10, initWith 5]).license.map License.seats = some 5 := by
  decide +kernel

end CopyLocker.Worker.LicenseDO
