import CopyLocker.Foundation.Run
import CopyLocker.Foundation.Saturating
import CopyLocker.Foundation.Table
import CopyLocker.Types
import Mathlib.Order.Basic

/-!
# Sessions of an account

The AccountDO (`durable/account.rs`) keeps the sessions of one account: a pair of an access token
and a refresh token for each session, and the login attempts for the throttle. The limit on
concurrent sessions is looked at when a session is issued. A refresh looks at its own token only,
and a refresh token outlives its access token, so a session that has lapsed comes back without
being counted. The throttle counts the failed logins of the last fifteen minutes; the wait that it
announces is computed from the last of them.

A statement that fails ends the request with an error and leaves the statements before it in place.

## Main results

* `active_step`: which calls raise the number of active sessions above the limit.
* `sessions_within_limit_iff`: the limit is kept along a run exactly when no refresh adds a session
  to a full account.
* `announced_wait_suffices_iff`: when a wait as long as announced ends the throttling.
-/

namespace CopyLocker.Worker.AccountDO

open Foundation Run Saturating List Table

/-! ### Tables -/

/-- The two kinds of token. -/
inductive SessionKind
  | access
  | refresh
  deriving DecidableEq

/-- A row of `sessions`. The pair is the refresh token of the session, also in its own row. -/
structure SessionRow where
  tokenHash : Bytes
  kind : SessionKind
  pair : Bytes
  expiresAt : ℤ
  revokedAt : Option ℤ
  deriving DecidableEq

/-- A login that was recorded. -/
structure LoginAttempt where
  time : ℤ
  ok : Bool
  deriving DecidableEq

/-- The tables of the object. -/
structure State where
  sessions : Table SessionRow.tokenHash
  loginAttempts : List LoginAttempt

def State.empty : State := ⟨Table.empty, []⟩

/-- `revoked_at IS NULL AND expires_at > ?`. -/
def SessionRow.isLive (now : ℤ) (r : SessionRow) : Bool :=
  r.revokedAt.isNone && decide (now < r.expiresAt)

/-- An access session that is unrevoked and unexpired. -/
def SessionRow.isActive (now : ℤ) (r : SessionRow) : Bool :=
  r.kind == .access && r.isLive now

/-- The number of active access sessions. -/
def State.active (s : State) (now : ℤ) : ℕ := s.sessions.countWhere (·.isActive now)

/-! ### Requests and answers -/

def tokenHashLen : ℕ := 32

def maxIpHashLen : ℕ := 32

def maxFailedAttempts : ℕ := 10

/-- Failures of the last fifteen minutes count. -/
def failureWindowSecs : ℤ := 15 * 60

/-- Attempts are kept for a day. -/
def attemptRetentionSecs : ℤ := 24 * 60 * 60

/-- Record a login. -/
structure LoginRecordRequest where
  ok : Bool
  ipHash : Option Bytes
  now : ℤ
  deriving DecidableEq

/-- Issue a pair of tokens. -/
structure SessionIssueRequest where
  accessHash : Bytes
  refreshHash : Bytes
  accessExpiresAt : ℤ
  refreshExpiresAt : ℤ
  maxDevices : ℤ
  now : ℤ
  deriving DecidableEq

/-- A request about one token. -/
structure SessionTokenRequest where
  tokenHash : Bytes
  now : ℤ
  deriving DecidableEq

/-- Replace a pair of tokens. -/
structure SessionRefreshRequest where
  refreshHash : Bytes
  accessHash : Bytes
  newRefreshHash : Bytes
  accessExpiresAt : ℤ
  refreshExpiresAt : ℤ
  now : ℤ
  deriving DecidableEq

/-- The answers of the object. -/
inductive Response
  | allowed
  | throttled (retryAfter : ℤ)
  | ok
  | resolved (active : Bool)
  | error (status : ℕ) (code : String)
  /-- A statement failed. -/
  | failed
  deriving DecidableEq

def invalidRequest : Response := .error 400 "invalid_request"

/-! ### Handlers -/

variable (s : State)

/-- The failed attempts inside the window, and the time of the last of them. -/
def recentFailures (now : ℤ) : ℕ × ℤ :=
  let failures := s.loginAttempts.filter fun a =>
    !a.ok && decide (signedSub 64 now failureWindowSecs < a.time)
  (failures.length, ((failures.map LoginAttempt.time).max?).getD 0)

/-- Whether another login may be tried. -/
def loginGate (now : ℤ) : Response :=
  if now < 0 then invalidRequest
  else
    let (count, latest) := recentFailures s now
    if count < maxFailedAttempts then .allowed
    else
      let backoff := min (30 * 2 ^ min (count - maxFailedAttempts) 7) 3600
      .throttled (max (signedSub 64 (signedAdd 64 latest backoff) now) 1)

/-- Remember a login. -/
def loginRecord (input : LoginRecordRequest) : State × Response :=
  if input.now < 0 ∨ input.ipHash.any (fun h => h.isEmpty || decide (maxIpHashLen < h.length)) then
    (s, invalidRequest)
  else ({ s with loginAttempts := s.loginAttempts ++ [⟨input.now, input.ok⟩] }, .ok)

/-- `INSERT INTO sessions`, followed by the rest of the request when the token is new. -/
def insertSession (r : SessionRow) (next : State → State × Response) : State × Response :=
  match s.sessions.insert r with
  | none => (s, .failed)
  | some sessions => next { s with sessions }

/-- The two rows of a session. -/
def insertPair (accessHash refreshHash : Bytes) (accessExpiresAt refreshExpiresAt : ℤ) : State ×
    Response :=
  insertSession s ⟨accessHash, .access, refreshHash, accessExpiresAt, none⟩ fun s =>
    insertSession s ⟨refreshHash, .refresh, refreshHash, refreshExpiresAt, none⟩ fun s => (s, .ok)

/-- The checked limit of an issue request. -/
def validateSessionIssue (input : SessionIssueRequest) : Option ℤ :=
  if input.accessHash.length = tokenHashLen ∧ input.refreshHash.length = tokenHashLen ∧
      input.accessHash ≠ input.refreshHash ∧ 0 ≤ input.now ∧ input.now < input.accessExpiresAt ∧
      input.accessExpiresAt < input.refreshExpiresAt ∧ 0 ≤ input.maxDevices ∧
      input.maxDevices ≤ 1000 then
    some input.maxDevices
  else none

/-- Issue a session, unless the devices are at their limit. -/
def sessionIssue (input : SessionIssueRequest) : State × Response :=
  match validateSessionIssue input with
  | none => (s, invalidRequest)
  | some maxDevices =>
    if 0 < maxDevices ∧ maxDevices ≤ s.active input.now then (s, .error 409 "device_limit")
    else
      insertPair s input.accessHash input.refreshHash input.accessExpiresAt input.refreshExpiresAt

/-- `session_is_active`. -/
def State.sessionIsActive (tokenHash : Bytes) (kind : SessionKind) (now : ℤ) : Bool :=
  (s.sessions.find tokenHash).any fun r => r.kind == kind && r.isLive now

def SessionTokenRequest.isValid (input : SessionTokenRequest) : Prop :=
  input.tokenHash.length = tokenHashLen ∧ 0 ≤ input.now

instance (input : SessionTokenRequest) : Decidable input.isValid :=
  inferInstanceAs (Decidable (_ ∧ _))

/-- Whether an access token is active. -/
def sessionResolve (input : SessionTokenRequest) : Response :=
  if input.isValid then .resolved (s.sessionIsActive input.tokenHash .access input.now)
  else invalidRequest

def SessionRow.revoke (now : ℤ) (r : SessionRow) : SessionRow := { r with revokedAt := some now }

theorem SessionRow.tokenHash_revoke (now : ℤ) (r : SessionRow) :
    (r.revoke now).tokenHash = r.tokenHash := rfl

/-- `UPDATE sessions SET revoked_at = ? WHERE pair = ? AND revoked_at IS NULL`. -/
def State.revokePair (pair : Bytes) (now : ℤ) : State :=
  { s with
    sessions := s.sessions.updateWhere (fun r => r.pair == pair && r.revokedAt.isNone)
      (SessionRow.revoke now) (SessionRow.tokenHash_revoke now) }

def SessionRefreshRequest.isValid (input : SessionRefreshRequest) : Prop :=
  input.refreshHash.length = tokenHashLen ∧ input.accessHash.length = tokenHashLen ∧
    input.newRefreshHash.length = tokenHashLen ∧ 0 ≤ input.now ∧
    input.now < input.accessExpiresAt ∧ input.now < input.refreshExpiresAt

instance (input : SessionRefreshRequest) : Decidable input.isValid :=
  inferInstanceAs (Decidable (_ ∧ _))

/-- An active refresh token is exchanged for a new pair. -/
def sessionRefresh (input : SessionRefreshRequest) : State × Response :=
  if ¬ input.isValid then (s, invalidRequest)
  else if ¬ s.sessionIsActive input.refreshHash .refresh input.now then
    (s, .error 401 "invalid_session")
  else
    insertPair (s.revokePair input.refreshHash input.now) input.accessHash input.newRefreshHash
      input.accessExpiresAt input.refreshExpiresAt

/-- Revoke a token and the one issued with it. -/
def sessionRevoke (input : SessionTokenRequest) : State × Response :=
  if input.isValid then (s.revokePair input.tokenHash input.now, .ok) else (s, invalidRequest)

/-- Forget what has expired. -/
def reclaim (now : ℤ) : State where
  sessions := s.sessions.deleteWhere fun r => decide (r.expiresAt ≤ now)
  loginAttempts := s.loginAttempts.filter fun a =>
    !decide (a.time ≤ signedSub 64 now attemptRetentionSecs)

/-! ### Runs -/

/-- A request to the object, or its alarm. -/
inductive Call
  | loginGate (now : ℤ)
  | loginRecord (input : LoginRecordRequest)
  | issue (input : SessionIssueRequest)
  | resolve (input : SessionTokenRequest)
  | refresh (input : SessionRefreshRequest)
  | revoke (input : SessionTokenRequest)
  | alarm (now : ℤ)

def Call.now : Call → ℤ
  | .loginGate now | .alarm now => now
  | .loginRecord input => input.now
  | .issue input => input.now
  | .resolve input | .revoke input => input.now
  | .refresh input => input.now

/-- The state and the answer after a call. -/
def handle : Call → State × Response
  | .loginGate now => (s, AccountDO.loginGate s now)
  | .loginRecord input => AccountDO.loginRecord s input
  | .issue input => sessionIssue s input
  | .resolve input => (s, sessionResolve s input)
  | .refresh input => sessionRefresh s input
  | .revoke input => sessionRevoke s input
  | .alarm now => (reclaim s now, .ok)

/-- The state after a call. -/
def step (c : Call) : State := (handle s c).1

/-! ### Counting active sessions -/

variable {t : ℤ} {s} {d : ℕ} {r : SessionRow} {t' : ℤ}

open SessionRow

/-- Time only ends sessions. -/
theorem State.active_antitone (s : State) (hle : t ≤ t') : s.active t' ≤ s.active t := by
  refine countP_mono_left fun _ _ h => ?_
  simp only [isActive, isLive, Bool.and_eq_true, decide_eq_true_eq] at h ⊢
  exact ⟨h.1, h.2.1, lt_of_le_of_lt hle h.2.2⟩

/-- The active sessions of one pair. -/
def State.activeOf (s : State) (pair : Bytes) (now : ℤ) : ℕ :=
  s.sessions.countWhere fun r => r.pair == pair && r.isActive now

private theorem isActive_revoked (r : SessionRow) (pair : Bytes) (now t : ℤ) :
    isActive t (if r.pair == pair && r.revokedAt.isNone then r.revoke now else r) =
      (r.isActive t && !(r.pair == pair)) := by
  by_cases hrevoked : r.revokedAt.isNone
  · by_cases hpair : (r.pair == pair)
    · simp [hpair, hrevoked, isActive, isLive, revoke]
    · simp [hpair]
  · simp [hrevoked, isActive, isLive]

/-- Revoking a pair ends its sessions and no other. -/
theorem State.active_revokePair (s : State) (pair : Bytes) (now t : ℤ) :
    (s.revokePair pair now).active t + s.activeOf pair t = s.active t := by
  simp only [active, activeOf, revokePair, Table.countWhere, Table.updateWhere, countP_map,
    Function.comp_def, isActive_revoked]
  induction s.sessions.rows with
  | nil => rfl
  | cons r rows ih =>
    simp only [countP_cons]
    by_cases hpair : (r.pair == pair)
    · simp [hpair]
      omega
    · simp [hpair]
      omega

theorem State.active_insertSession {sessions : Table _}
    (h : s.sessions.insert r = some sessions) (t : ℤ) :
    ({ s with sessions } : State).active t = s.active t + if r.isActive t then 1 else 0 := by
  simp [active, Table.countWhere, insert_rows h]

/-- What inserting a session makes of the count: its access row is added when its token is new. -/
theorem State.active_insertPair (s : State) (accessHash refreshHash : Bytes)
    (accessExpiresAt refreshExpiresAt : ℤ) (ht : t < accessExpiresAt) :
    (insertPair s accessHash refreshHash accessExpiresAt refreshExpiresAt).1.active t =
      s.active t + if s.sessions.find accessHash = none then 1 else 0 := by
  unfold insertPair insertSession
  split
  next hinsert =>
    rw [if_neg (insert_eq_none_iff.1 hinsert)]
    rfl
  next sessions hinsert =>
    have hfree := find_eq_none_of_insert hinsert
    have haccess := State.active_insertSession hinsert t
    rw [if_pos (by simpa [isActive, isLive] using ht)] at haccess
    rw [if_pos hfree, ← haccess]
    dsimp only
    split
    · rfl
    next hinsert' =>
      have hrefresh := State.active_insertSession (s := { s with sessions }) hinsert' t
      exact hrefresh

/-! ### The limit -/

/-- The limit that every issue request is given. -/
def Call.HasLimit (d : ℕ) : Call → Prop
  | .issue input => input.maxDevices = d
  | _ => True

/-- The refresh is accepted, brings a new access token into an account with `d` active sessions,
and has no active session of its own that it replaces. -/
def RefreshesBeyond (d : ℕ) (s : State) : Call → Prop
  | .refresh input =>
    input.isValid ∧ s.sessionIsActive input.refreshHash .refresh input.now = true ∧
      s.sessions.find input.accessHash = none ∧ d ≤ s.active input.now ∧
      s.activeOf input.refreshHash input.now = 0
  | _ => False

instance (d : ℕ) (s : State) : DecidablePred (RefreshesBeyond d s)
  | .refresh _ => inferInstanceAs (Decidable (_ ∧ _))
  | .loginGate _ | .loginRecord _ | .issue _ | .resolve _ | .revoke _ | .alarm _ =>
    inferInstanceAs (Decidable False)

/-- An issue looks at the limit. -/
theorem active_sessionIssue_le (hd : 0 < d) {input : SessionIssueRequest}
    (hlimit : input.maxDevices = d) (hs : s.active input.now ≤ d) :
    (sessionIssue s input).1.active input.now ≤ d := by
  unfold sessionIssue
  split
  · exact hs
  next maxDevices hvalid =>
    unfold validateSessionIssue at hvalid
    split_ifs at hvalid with h
    cases hvalid
    split_ifs with hfull
    · exact hs
    · have hroom : s.active input.now < d := by omega
      rw [State.active_insertPair s _ _ _ _ h.2.2.2.2.1]
      split_ifs <;> omega

theorem find_revokePair_eq_none_iff (s : State) (pair : Bytes) (now : ℤ) (tokenHash : Bytes) :
    (s.revokePair pair now).sessions.find tokenHash = none ↔ s.sessions.find tokenHash = none := by
  rw [State.revokePair, find_updateWhere, Option.map_eq_none_iff]

/-- A refresh takes an account above the limit exactly when it is beyond it. -/
theorem active_sessionRefresh {input : SessionRefreshRequest} (hs : s.active input.now ≤ d) :
    d < (sessionRefresh s input).1.active input.now ↔ RefreshesBeyond d s (.refresh input) := by
  unfold sessionRefresh RefreshesBeyond
  by_cases hvalid : input.isValid
  · by_cases hactive : s.sessionIsActive input.refreshHash .refresh input.now
    · have hcount := s.active_revokePair input.refreshHash input.now input.now
      rw [if_neg (not_not.2 hvalid), if_neg (not_not.2 hactive),
        State.active_insertPair _ _ _ _ _ hvalid.2.2.2.2.1]
      simp only [find_revokePair_eq_none_iff, hvalid, hactive, true_and]
      split_ifs with hfree
      · simp only [hfree, true_and]
        omega
      · simp only [hfree, false_and, iff_false]
        omega
    · simp [hvalid, hactive, hs]
  · simp [hvalid, hs]

/-- Of all calls, only a refresh can take an account above the limit. -/
theorem active_step (hd : 0 < d) {c : Call} (hlimit : c.HasLimit d) (hs : s.active c.now ≤ d) :
    d < (step s c).active c.now ↔ RefreshesBeyond d s c := by
  cases c with
  | refresh input => exact active_sessionRefresh hs
  | issue input => exact iff_of_false (not_lt.2 (active_sessionIssue_le hd hlimit hs)) id
  | loginGate now => exact iff_of_false (not_lt.2 hs) id
  | resolve input => exact iff_of_false (not_lt.2 hs) id
  | loginRecord input =>
    refine iff_of_false (not_lt.2 ?_) id
    simp only [step, handle, loginRecord]
    split_ifs
    · exact hs
    · exact hs
  | revoke input =>
    refine iff_of_false (not_lt.2 ?_) id
    have hcount := s.active_revokePair input.tokenHash input.now input.now
    have hs' : s.active input.now ≤ d := hs
    have hafter : (s.revokePair input.tokenHash input.now).active input.now ≤ d := by omega
    simp only [step, handle, sessionRevoke, Call.now]
    split_ifs
    · exact hafter
    · exact hs'
  | alarm now =>
    have hle : (reclaim s now).active now ≤ s.active now :=
      List.Sublist.countP_le filter_sublist
    exact iff_of_false (not_lt.2 (hle.trans hs)) id

/-- After each call of the run, and for as long as no other follows, at most `d` sessions are
active. -/
def WithinLimit (d : ℕ) (s : State) (calls : List Call) : Prop :=
  ∀ pre c post, calls = pre ++ c :: post → ∀ t, c.now ≤ t → (exec step s (pre ++ [c])).active t ≤ d

/-- Of the times after a call, its own is the one to look at. -/
private theorem withinLimit_iff {calls : List Call} :
    WithinLimit d s calls ↔ Along step (fun s c => (step s c).active c.now ≤ d) s calls := by
  rw [along_iff_forall_split]
  refine forall₄_congr fun pre c post hsplit => ?_
  rw [exec_append]
  exact ⟨fun h => h c.now le_rfl, fun h t ht => ((step _ c).active_antitone ht).trans h⟩

private theorem withinLimit_iff_along (hd : 0 < d) {calls : List Call}
    (hordered : calls.Pairwise fun c c' => c.now ≤ c'.now) (hlimit : ∀ c ∈ calls, c.HasLimit d)
    (hs : ∀ c ∈ calls, s.active c.now ≤ d) :
    WithinLimit d s calls ↔ Along step (fun s c => ¬ RefreshesBeyond d s c) s calls := by
  rw [withinLimit_iff]
  -- the count at a call bounds the count at the calls after it, since their times are later
  induction calls generalizing s with
  | nil => rfl
  | cons c calls ih =>
    have hc := active_step hd (hlimit c mem_cons_self) (hs c mem_cons_self)
    obtain ⟨hfirst, hrest⟩ := pairwise_cons.1 hordered
    rw [along_cons, along_cons, ← hc, not_lt]
    refine and_congr_right fun hafter => ?_
    exact ih hrest (fun c' hc' => hlimit c' (mem_cons_of_mem c hc'))
      fun c' hc' => ((step s c).active_antitone (hfirst c' hc')).trans hafter

/-- In a run whose calls come in time order and issue sessions under the limit `d`, at most `d`
sessions are active at any time exactly when no refresh brings a session back into a full
account. -/
theorem sessions_within_limit_iff {d : ℕ} (hd : 0 < d) {calls : List Call}
    (hordered : calls.Pairwise fun c c' => c.now ≤ c'.now) (hlimit : ∀ c ∈ calls, c.HasLimit d) :
    WithinLimit d State.empty calls ↔
      Along step (fun s c => ¬ RefreshesBeyond d s c) State.empty calls :=
  withinLimit_iff_along hd hordered hlimit fun _ _ => Nat.zero_le d

/-- A login at `now` with the lifetimes of the account routes, one hour and thirty days. -/
def login (accessHash refreshHash : UInt8) (now : ℤ) : Call :=
  .issue
    { accessHash := replicate 32 accessHash
      refreshHash := replicate 32 refreshHash
      accessExpiresAt := now + 3600
      refreshExpiresAt := now + 2592000
      maxDevices := 1
      now }

/-- A refresh at `now` with the same lifetimes. -/
def rotation (refreshHash accessHash newRefreshHash : UInt8) (now : ℤ) : Call :=
  .refresh
    { refreshHash := replicate 32 refreshHash
      accessHash := replicate 32 accessHash
      newRefreshHash := replicate 32 newRefreshHash
      accessExpiresAt := now + 3600
      refreshExpiresAt := now + 2592000
      now }

/-- A device logs in and rotates its token before a second login is refused: one session at any
time. -/
theorem sessions_within_limit_of_timely_refresh :
    WithinLimit 1 State.empty [login 1 2 0, rotation 2 3 4 1800, login 5 6 3600] :=
  (sessions_within_limit_iff (by decide) (by decide) (by simp [login, rotation, Call.HasLimit])).2
    (by decide +kernel)

/-- A device logs in, a second one logs in after the first access token has lapsed, and the first
one rotates its token: two sessions are active under a limit of one. -/
theorem refresh_after_lapse_exceeds_limit :
    (exec step State.empty [login 1 2 0, login 3 4 3601, rotation 2 5 6 3602]).active 3602 = 2 ∧
      [login 1 2 0, login 3 4 3601, rotation 2 5 6 3602].Pairwise (fun c c' => c.now ≤ c'.now) ∧
      ∀ c ∈ [login 1 2 0, login 3 4 3601, rotation 2 5 6 3602], c.HasLimit 1 := by
  exact ⟨by decide +kernel, by decide, by simp [login, rotation, Call.HasLimit]⟩

/-! ### The wait that the gate announces -/

/-- The call records a failed login. -/
def Call.RecordsFailure : Call → Prop
  | .loginRecord input => input.ok = false
  | _ => False

theorem loginGate_eq_allowed_iff :
    loginGate s t = .allowed ↔ 0 ≤ t ∧ (recentFailures s t).1 < maxFailedAttempts := by
  fun_cases loginGate s t with
  | case1 hnow => exact iff_of_false nofun fun h => absurd h.1 (not_le.2 hnow)
  | case2 hnow count latest hfailures hcount =>
    exact iff_of_true rfl ⟨not_lt.1 hnow, by rwa [hfailures]⟩
  | case3 hnow count latest hfailures hcount =>
    exact iff_of_false nofun fun h => hcount (by rw [hfailures] at h; exact h.2)

/-- Only a failed login adds to the failures in the window. -/
theorem recentFailures_step_le {c : Call} (hc : ¬ c.RecordsFailure) (s : State) (t : ℤ) :
    (recentFailures (step s c) t).1 ≤ (recentFailures s t).1 := by
  have hpair (s : State) (a b : Bytes) (x y : ℤ) :
      (insertPair s a b x y).1.loginAttempts = s.loginAttempts := by
    simp only [insertPair, insertSession]
    repeat' split
    all_goals rfl
  unfold step handle recentFailures
  cases c with
  | loginRecord input =>
    have hok : input.ok := Bool.not_eq_false _ ▸ hc
    simp only [loginRecord]
    split_ifs
    · exact le_rfl
    · simp [hok]
  | alarm now => exact (filter_sublist.filter _).length_le
  | issue input =>
    simp only [sessionIssue]
    repeat' split
    all_goals simp only [hpair, le_refl]
  | refresh input =>
    simp only [sessionRefresh]
    split_ifs
    all_goals simp [hpair, State.revokePair]
  | revoke input =>
    simp only [sessionRevoke]
    split_ifs <;> rfl
  | loginGate now | resolve input => exact le_rfl

/-- Whoever waits as told is let in, if no further login fails, exactly when fewer than ten failures
are still in the window at the end of the wait. -/
theorem announced_wait_suffices_iff {s : State} {t r : ℤ} (h : loginGate s t = .throttled r) :
    (∀ calls : List Call, (∀ c ∈ calls, ¬ c.RecordsFailure) → ∀ t', t + r ≤ t' →
        loginGate (exec step s calls) t' = .allowed) ↔
      (recentFailures s (t + r)).1 < maxFailedAttempts := by
  have hend : 0 ≤ t + r := by
    revert h
    fun_cases loginGate s t with
    | case3 hnow count latest _ hcount backoff =>
      intro h
      obtain rfl := Response.throttled.inj h
      omega
    | _ => nofun
  simp only [loginGate_eq_allowed_iff]
  refine ⟨fun hwait => (hwait [] (by simp) _ le_rfl).2, fun hcount calls hcalls t' ht' => ?_⟩
  have hkept : (recentFailures (exec step s calls) t').1 ≤ (recentFailures s t').1 :=
    exec_induction_along (I := fun s' => (recentFailures s' t').1 ≤ (recentFailures s t').1)
      (fun s' c hle hc => (recentFailures_step_le hc s' t').trans hle) le_rfl
      ((along_const s calls).2 hcalls)
  -- failures leave the window as time goes on
  have hleave : (recentFailures s t').1 ≤ (recentFailures s (t + r)).1 := by
    simp only [recentFailures, ← countP_eq_length_filter]
    refine countP_mono_left fun a _ h => ?_
    simp only [Bool.and_eq_true, decide_eq_true_eq] at h ⊢
    simp only [signedSub, clamp] at h ⊢
    exact ⟨h.1, by omega⟩
  exact ⟨hend.trans ht', (hkept.trans hleave).trans_lt hcount⟩

/-- Failed logins at one time. -/
def failuresAt (n : ℕ) (now : ℤ) : List Call :=
  replicate n (.loginRecord { ok := false, ipHash := none, now })

/-- The first of ten failures leaves the window during the wait. -/
theorem announced_wait_suffices_once :
    loginGate (exec step State.empty (failuresAt 1 0 ++ failuresAt 9 890)) 920 = .allowed :=
  (announced_wait_suffices_iff (t := 895) (r := 25) (by decide)).2 (by decide) [] (by simp) _
    (by decide)

/-- Ten logins fail. The gate announces thirty seconds, and then one second at a time for as long as
the failures are in the window. -/
theorem announced_wait_not_enough :
    loginGate (exec step State.empty (failuresAt 10 100)) 100 = .throttled 30 ∧
      loginGate (exec step State.empty (failuresAt 10 100)) 130 = .throttled 1 ∧
      loginGate (exec step State.empty (failuresAt 10 100)) 999 = .throttled 1 := by
  decide

end CopyLocker.Worker.AccountDO
