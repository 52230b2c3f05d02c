import CopyLocker.Client.Flights
import CopyLocker.Client.Restart

/-!
# Two calls that install a credential

`activate`, `import_offline_response` and `import_olk` of the desktop client install a credential.
An import is one section, and refuses if a credential is held. An activation is many: it looks
whether a credential is held in the first of them, and installs in the last without looking again.
Two such calls are interleaved section by section here, and each keeps what it returns.

A state machine that is locked ignores that an activation was verified, so a call that installs
there returns without an error and leaves it locked. On a client that is not locked, and where no
section of one call comes between the look of the other and its end, the calls exclude each other.

## Main results

* `Attempt.advance_effect`: a section keeps what is held, wipes it, or installs.
* `TwoCalls.installations_exclusive`: what holds where the calls are in turn.
-/

namespace CopyLocker.Client

open CopyLocker.Core Foundation.Run Proto StateMachine Function

variable {S : CryptoSuite}

/-! ### Calls -/

/-- A call that installs a credential. -/
inductive Installer
  | activate
  | offlineResponse (bytes : Wire Envelope)
  | olk (armored : Except ProtoError OfflineLicenseBundle)

/-- Where such a call stands. A returned call says whether it has installed; a declined one returned
the error of a response. -/
inductive Attempt
  | begun (call : Installer)
  | keyed
  | requested
  | answered (encoded : Wire Envelope)
  | syncing (encoded : Wire Envelope) (target : ℕ) (fetching : Option ℕ)
  | ready (encoded : Wire Envelope) (target : ℕ)
  | failing (error : FatalError)
  | declined (error : ActivateResponseError)
  | returned (installed : Bool) (outcome : Outcome)

/-- What a section finds: the clock, the store, and the answer to the request that is under way. -/
structure Surroundings where
  now : ℤ
  io : Io
  generated : DeviceKeys
  fits : Bool
  answer : Except ActivateResponseError (Wire Envelope)
  keyset : Except ValidationResponseError Keyset
  batch : Except ValidationResponseError (Wire Envelope)

/-- A section of a call. -/
structure Turn (S : CryptoSuite) where
  runtime : Runtime S
  store : KeyStore
  next : Attempt

/-- The credential is in place, and at most writing it has failed. -/
def Outcome.installed : Outcome → Bool
  | .ok | .error (.localError .snapshotCorrupt) | .error (.localError (.store _)) => true
  | _ => false

namespace Attempt

/-- A section that installs and ends the call. -/
def installing (r : Section S) : Turn S where
  runtime := r.runtime
  store := r.store
  next := .returned r.outcome.installed r.outcome

/-- A stage of an activation failed. A fatal error is followed by failing closed. -/
def stageError : ClientError → Attempt
  | .fatal e => .failing e
  | .localError e => .returned false (.error (.localError e))
  | _ => .returned false (.error (.localError .stateUnavailable))

/-- The request of a stage failed. -/
def requestError : ValidationResponseError → Attempt
  | .transient e => .declined (.transient e)
  | .fatal e => .failing e

/-- A stage of an activation. -/
def stage (r : Section S) (next : Attempt) : Turn S where
  runtime := r.runtime
  store := r.store
  next :=
    match r.outcome with
    | .ok | .retry => next
    | .error e => stageError e
    | .aborted => .returned false .aborted

/-- The next section of a call. -/
def advance (config : Config) (anchors : TrustAnchors S) (rt : Runtime S) (store : KeyStore)
    (env : Surroundings) : Attempt → Turn S
  | .begun .activate =>
    { runtime := ensureDeviceKeys rt env.generated, store, next := .keyed }
  | .begun (.offlineResponse bytes) =>
    installing (importOfflineResponse config anchors rt store env.io bytes env.now)
  | .begun (.olk armored) => installing (importOlk config anchors rt store env.io armored env.now)
  | .keyed =>
    let r := requestActivation rt store env.io env.fits env.now
    { runtime := r.runtime
      store := r.store
      next := if r.outcome = .ok then .requested else .returned false r.outcome }
  | .requested =>
    { runtime := rt
      store
      next :=
        match env.answer with
        | .ok encoded => .answered encoded
        | .error (.fatal e) => .failing e
        | .error e => .declined e }
  | .answered encoded =>
    match env.keyset with
    | .ok keyset =>
      stage (installKeyset config anchors rt store keyset env.now)
        (.syncing encoded keyset.revocationEpoch none)
    | .error e => { runtime := rt, store, next := requestError e }
  | .syncing encoded target none =>
    { runtime := rt
      store
      next :=
        match nextSyncStep rt target with
        | .done => .ready encoded target
        | .failed e => .failing e
        | .fetch _ => .syncing encoded target (some rt.maxRevocationEpoch) }
  | .syncing encoded target (some current) =>
    match env.batch with
    | .ok response =>
      stage (applyBatch config rt store env.io current target response env.now)
        (.syncing encoded target none)
    | .error e => { runtime := rt, store, next := requestError e }
  | .ready encoded target =>
    installing (activateInstall config rt store env.io encoded target env.now)
  | .failing e =>
    let r := failClosedLocked rt store env.io e env.now
    { runtime := r.runtime, store := r.store, next := .returned false r.outcome }
  | .declined e => { runtime := rt, store, next := .declined e }
  | .returned installed outcome => { runtime := rt, store, next := .returned installed outcome }

end Attempt

/-! ### What a section does to what is held -/

/-- What the client holds, and its state machine. -/
def Runtime.holding (rt : Runtime S) :
    Option MachineCredential × Option OfflineLicenseKey × Option S.Material × StateMachine :=
  (rt.credential, rt.olk, rt.material, rt.state)

theorem isActivated_of_holding_eq {rt rt' : Runtime S} (h : rt'.holding = rt.holding) :
    rt'.isActivated = rt.isActivated := by
  simp only [Runtime.holding, Prod.mk.injEq] at h
  simp [Runtime.isActivated, h]

/-- The machine takes this state to `active` when an activation is verified. -/
def TakesActivation (state : LicenseState) : Prop :=
  state.permitsKeyDerivation = false ∧ state ≠ .locked

theorem handle_activationVerified {m : StateMachine} (h : TakesActivation m.state) (now : ℤ) :
    ((m.handle .activationVerified now).1).state = .active ∧
      ((m.handle .activationVerified now).1).hasCredential := by
  rw [handle_of_not_timed rfl]
  unfold dispatch
  cases hs : m.state with
  | unlicensed | activating | revoked | tampered =>
    simp [activated, activatedWithWake, transition_fst]
  | active | needsRevalidation | grace =>
    rw [hs] at h
    exact absurd h.1 (by decide)
  | locked => exact absurd hs h.2

/-- Failing closed and a revocation leave a state that takes an activation. -/
theorem takesActivation_handle {e : Event}
    (he : (∃ error, e = .verificationFailed error) ∨ ∃ reason, e = .killOrderVerified reason)
    (m : StateMachine) (now : ℤ) : TakesActivation (m.handle e now).1.state := by
  rcases he with ⟨error, rfl⟩ | ⟨reason, rfl⟩
  all_goals
    rw [handle_of_not_timed rfl]
    unfold dispatch TakesActivation
    cases hs : m.state <;>
      simp [hs, tamper, revoke, transition_fst, LicenseState.permitsKeyDerivation]

/-- The section ends with an error that is not a failure to write an installed credential. -/
def Outcome.Fails (outcome : Outcome) : Prop :=
  (∃ e, outcome = .error e) ∧ outcome.installed = false

/-- A section that may install refuses, fails closed, or installs. -/
inductive Installation (rt : Runtime S) (now : ℤ) (r : Section S) : Prop
  | refuse (hheld : r.runtime.holding = rt.holding) (hfails : r.outcome.Fails)
  | wipe (hgone : r.runtime.isActivated = false)
      (htakes : TakesActivation r.runtime.state.state) (hfails : r.outcome.Fails)
  | install (m : StateMachine) (hm : m.state = rt.state.state)
      (hstate : r.runtime.state = (m.handle .activationVerified now).1)
      (hheld : r.runtime.isActivated = true) (hinstalled : r.outcome.installed = true)

variable {config : Config} {anchors : TrustAnchors S} {rt rt' : Runtime S} {store : KeyStore}
  {io : Io} {now : ℤ}

theorem installation_failClosed (e : FatalError) :
    Installation rt now (failClosedLocked rt store io e now) :=
  .wipe rfl (takesActivation_handle (.inl ⟨e, rfl⟩) _ _) ⟨⟨_, rfl⟩, rfl⟩

/-- Writing a runtime with a snapshot fails only in the snapshot or in the store. -/
theorem installed_persisting (store : KeyStore) (io : Io) (h : rt'.snapshot.isSome) :
    (persisting rt' store io .ok).outcome.installed := by
  obtain ⟨snapshot, hsnapshot⟩ := Option.isSome_iff_exists.1 h
  unfold persisting persistLocked
  rw [hsnapshot]
  dsimp only
  cases snapshot.encode with
  | error e => rfl
  | ok payload =>
    dsimp only
    cases ({ monotonic := rt'.monotonic, payload } : StoreRecord).encode with
    | error e => rfl
    | ok record =>
      dsimp only
      cases store.save record io.saves with
      | error e => rfl
      | ok store => rfl

theorem installation_persisting {m : StateMachine}
    (hstate : rt'.state = (m.handle .activationVerified now).1) (hm : m.state = rt.state.state)
    (hheld : rt'.isActivated) (hsnapshot : rt'.snapshot.isSome) :
    Installation rt now (persisting rt' store io .ok) := by
  refine .install m hm ?_ ?_ (installed_persisting store io hsnapshot)
  · rw [persisting_runtime]
    exact hstate
  · rw [persisting_runtime]
    exact hheld

theorem installation_activateInstall (encoded : Wire Envelope) (target : ℕ) :
    Installation rt now (activateInstall config rt store io encoded target now) := by
  fun_cases activateInstall config rt store io encoded target now with
  | case1 => exact .refuse rfl ⟨⟨_, rfl⟩, rfl⟩
  | case4 => exact installation_persisting rfl rfl rfl rfl
  | _ => exact installation_failClosed _

theorem installation_importOfflineResponse (bytes : Wire Envelope) :
    Installation rt now (importOfflineResponse config anchors rt store io bytes now) := by
  fun_cases importOfflineResponse config anchors rt store io bytes now with
  | case3 | case4 | case5 => exact .refuse rfl ⟨⟨_, rfl⟩, rfl⟩
  | case7 => exact installation_persisting rfl rfl rfl rfl
  | _ => exact installation_failClosed _

theorem installation_importOlk (armored : Except ProtoError OfflineLicenseBundle) :
    Installation rt now (importOlk config anchors rt store io armored now) := by
  fun_cases importOlk config anchors rt store io armored now with
  | case3 | case5 | case6 => exact .refuse rfl ⟨⟨_, rfl⟩, rfl⟩
  | case8 _ _ _ _ _ _ _ _ l material chain hopen =>
    refine installation_persisting rfl rfl rfl ?_
    rw [Option.isSome_map]
    exact Option.isSome_iff_ne_none.2 (openBundle_eq_ok hopen).1
  | _ => exact installation_failClosed _

theorem not_installed_importOfflineResponse (h : rt.isActivated) (bytes : Wire Envelope) :
    (importOfflineResponse config anchors rt store io bytes now).outcome.installed = false := by
  unfold importOfflineResponse
  split
  · rfl
  split
  · rfl
  rw [if_pos h]
  rfl

theorem not_installed_importOlk (h : rt.isActivated)
    (armored : Except ProtoError OfflineLicenseBundle) :
    (importOlk config anchors rt store io armored now).outcome.installed = false := by
  unfold importOlk
  split
  · rfl
  split
  · rfl
  split
  · rfl
  split
  · rfl
  · rfl

namespace Attempt

/-- The call has installed. -/
def installed : Attempt → Bool
  | .returned installed _ => installed
  | _ => false

/-- The call has returned without an error. -/
def succeeded : Attempt → Bool
  | .returned _ .ok => true
  | _ => false

/-- The call has looked whether a credential is held, and may install. -/
def underway : Attempt → Bool
  | .requested | .answered _ | .syncing .. | .ready .. => true
  | _ => false

/-- The call has failed, or is about to fail closed. -/
def failed : Attempt → Bool
  | .failing _ => true
  | .returned false outcome => outcome ≠ .ok
  | _ => false

/-- The next section of the call may install: that of an import only if nothing is held. -/
def MayInstall (rt : Runtime S) : Attempt → Prop
  | .ready _ _ => True
  | .begun (.offlineResponse _) | .begun (.olk _) => rt.isActivated = false
  | _ => False

/-- One call beside the other: while it may install nothing is held, it returns without an error
only if it has installed, and then the other has not, and fails unless the credential is still held.
-/
structure Apart (rt : Runtime S) (a other : Attempt) : Prop where
  looked : a.underway = true → rt.isActivated = false
  installs : a.succeeded = true → a.installed = true
  excludes : a.installed = true →
    other.installed = false ∧ (rt.isActivated = true ∨ other.failed = true)

/-- A section that may install finds nothing held, and the other call has not installed. -/
theorem MayInstall.alone {a other : Attempt} (h : a.MayInstall rt) (hself : Apart rt a other)
    (hother : Apart rt other a) : rt.isActivated = false ∧ other.installed = false := by
  have hfree : rt.isActivated = false ∧ a.failed = false := by
    cases a with
    | ready => exact ⟨hself.looked rfl, rfl⟩
    | begun call =>
      cases call with
      | activate => exact h.elim
      | offlineResponse | olk => exact ⟨h, rfl⟩
    | keyed | requested | answered | syncing | failing | declined | returned => exact h.elim
  refine ⟨hfree.1, Bool.eq_false_iff.2 fun hinstalled => ?_⟩
  simpa [hfree] using (hother.excludes hinstalled).2

theorem not_underway_of_installed {a : Attempt} (h : a.installed) : a.underway = false := by
  cases a with
  | returned => rfl
  | begun | keyed | requested | answered | syncing | ready | failing | declined => cases h

end Attempt

/-- What a section of a call does. -/
inductive Turn.Effect (rt : Runtime S) (now : ℤ) (a : Attempt) (t : Turn S) : Prop
  | keep (hheld : t.runtime.holding = rt.holding) (hinstalled : t.next.installed = false)
      (hsucceeded : t.next.succeeded = false)
      (hlooked : t.next.underway = true → a.underway = true ∨ rt.isActivated = false)
  | wipe (hgone : t.runtime.isActivated = false)
      (htakes : TakesActivation t.runtime.state.state) (hfailed : t.next.failed = true)
  | install (hmay : a.MayInstall rt) (m : StateMachine) (hm : m.state = rt.state.state)
      (hstate : t.runtime.state = (m.handle .activationVerified now).1)
      (hheld : t.runtime.isActivated = true) (hinstalled : t.next.installed = true)
  | rest (hruntime : t.runtime = rt) (hnext : t.next = a)

namespace Attempt

variable {env : Surroundings} {a other : Attempt} {r : Section S}

theorem not_ended_of_failed (h : a.failed) : a.installed = false ∧ a.succeeded = false := by
  cases a with
  | failing => exact ⟨rfl, rfl⟩
  | returned installed outcome =>
    cases installed with
    | true => cases h
    | false =>
      cases outcome with
      | ok => cases h
      | error | retry | aborted => exact ⟨rfl, rfl⟩
  | begun | keyed | requested | answered | syncing | ready | declined => cases h

/-- A section keeps two calls apart that were so, if the other one is not between its look and its
end. -/
theorem apart_of_effect {t : Turn S} (h : t.Effect rt now a) (hself : Apart rt a other)
    (hother : Apart rt other a) (hturn : other.underway = false)
    (hfailed : a.failed → t.next.failed) :
    Apart t.runtime t.next other ∧ Apart t.runtime other t.next := by
  cases h with
  | keep hheld hinstalled hsucceeded hlooked =>
    have hactive := isActivated_of_holding_eq hheld
    refine ⟨⟨fun hunder => ?_, by simp [hsucceeded], by simp [hinstalled]⟩,
      by simp [hturn], hother.installs, fun hb => ?_⟩
    · rw [hactive]
      exact (hlooked hunder).elim hself.looked id
    · exact ⟨hinstalled, (hother.excludes hb).2.imp hactive.trans hfailed⟩
  | wipe hgone _ hfailed =>
    obtain ⟨hinstalled, hsucceeded⟩ := not_ended_of_failed hfailed
    exact ⟨⟨fun _ => hgone, by simp [hsucceeded], by simp [hinstalled]⟩,
      by simp [hturn], hother.installs, fun _ => ⟨hinstalled, .inr hfailed⟩⟩
  | install hmay _ _ _ hheld hinstalled =>
    have hfree := (hmay.alone hself hother).2
    exact ⟨⟨by simp [not_underway_of_installed hinstalled], fun _ => hinstalled,
        fun _ => ⟨hfree, .inl hheld⟩⟩, by simp [hturn], hother.installs, by simp [hfree]⟩
  | rest hruntime hnext =>
    rw [hruntime, hnext]
    exact ⟨hself, hother⟩

theorem Installation.effect (h : Installation rt now r)
    (hmay : r.outcome.installed → a.MayInstall rt) :
    Turn.Effect rt now a (installing r) := by
  cases h with
  | refuse hheld hfails =>
    obtain ⟨⟨e, he⟩, hnot⟩ := hfails
    refine .keep hheld hnot ?_ fun h => by cases h
    simp [installing, he, succeeded]
  | wipe hgone htakes hfails =>
    obtain ⟨⟨e, he⟩, hnot⟩ := hfails
    have hnext : (installing r).next = .returned false (.error e) := by
      rw [← hnot, ← he]
      rfl
    refine .wipe hgone htakes ?_
    rw [hnext]
    rfl
  | install m hm hstate hheld hinstalled =>
    exact .install (hmay hinstalled) m hm hstate hheld hinstalled

/-- A stage that keeps what is held, or fails fatally and holds nothing. -/
theorem stage_effect {next : Attempt} (ha : a.underway)
    (hnext : next.installed = false ∧ next.succeeded = false)
    (h : r.runtime.holding = rt.holding ∨ (r.runtime.isActivated = false ∧
      TakesActivation r.runtime.state.state ∧ ∃ e, r.outcome = .error e)) :
    Turn.Effect rt now a (stage r next) := by
  have herror (e : ClientError) : (stageError e).failed := by
    cases e <;> rfl
  rcases h with hheld | ⟨hgone, htakes, e, he⟩
  · have hended :
        (stage r next).next.installed = false ∧ (stage r next).next.succeeded = false := by
      simp only [stage]
      cases r.outcome with
      | ok | retry => exact hnext
      | error e => exact not_ended_of_failed (herror e)
      | aborted => exact ⟨rfl, rfl⟩
    exact .keep hheld hended.1 hended.2 fun _ => .inl ha
  · refine .wipe hgone htakes ?_
    simp only [stage, he]
    exact herror e

theorem requestError_ended (e : ValidationResponseError) :
    (requestError e).installed = false ∧ (requestError e).succeeded = false := by
  cases e <;> exact ⟨rfl, rfl⟩

private theorem applyBatch_holding (current target : ℕ) (response : Wire Envelope) :
    let r := applyBatch config rt store env.io current target response env.now
    r.runtime.holding = rt.holding ∨ (r.runtime.isActivated = false ∧
      TakesActivation r.runtime.state.state ∧ ∃ e, r.outcome = .error e) := by
  dsimp only
  rcases applyBatch_cases config rt store env.io current target response env.now with
    ⟨error, -, heq⟩ | ⟨-, heq⟩ |
    ⟨envelope, chain, batch, snapshot, revocation, -, -, -, -, -, -, heq⟩
  · rw [heq]
    exact .inl rfl
  · rw [heq]
    exact .inl rfl
  · rw [heq]
    unfold concludeBatch
    split
    next reason _ =>
      refine .inr ⟨rfl, takesActivation_handle (.inr ⟨reason, rfl⟩) _ _, ?_⟩
      dsimp only [revokeLocked, wipeOutcome]
      split_ifs <;> exact ⟨_, rfl⟩
    · rw [persisting_runtime]
      exact .inl rfl

/-- A section of a call keeps what is held, fails and holds nothing, or installs. -/
theorem advance_effect (a : Attempt) :
    Turn.Effect rt env.now a (a.advance config anchors rt store env) := by
  cases a with
  | begun call =>
    cases call with
    | activate => exact .keep rfl rfl rfl fun h => by cases h
    | offlineResponse bytes =>
      refine Installation.effect (installation_importOfflineResponse bytes) fun hinstalled => ?_
      by_contra hheld
      rw [MayInstall, Bool.not_eq_false] at hheld
      rw [not_installed_importOfflineResponse hheld] at hinstalled
      cases hinstalled
    | olk armored =>
      refine Installation.effect (installation_importOlk armored) fun hinstalled => ?_
      by_contra hheld
      rw [MayInstall, Bool.not_eq_false] at hheld
      rw [not_installed_importOlk hheld] at hinstalled
      cases hinstalled
  | keyed =>
    simp only [advance, requestActivation]
    split
    · exact .keep rfl rfl rfl fun h => by cases h
    next hnot =>
    split
    · exact .keep rfl rfl rfl fun h => by cases h
    split
    · exact .wipe rfl (takesActivation_handle (.inl ⟨_, rfl⟩) _ _) rfl
    · exact .keep rfl rfl rfl fun _ => .inr (Bool.eq_false_iff.2 hnot)
  | requested =>
    simp only [advance]
    split <;> exact .keep rfl rfl rfl fun _ => .inl rfl
  | answered encoded =>
    simp only [advance]
    split
    · refine stage_effect rfl ⟨rfl, rfl⟩ (.inl ?_)
      unfold installKeyset
      split
      · rfl
      · split <;> rfl
    next e _ =>
      exact .keep rfl (requestError_ended e).1 (requestError_ended e).2 fun _ => .inl rfl
  | syncing encoded target fetching =>
    cases fetching with
    | none =>
      simp only [advance]
      split <;> exact .keep rfl rfl rfl fun _ => .inl rfl
    | some current =>
      simp only [advance]
      split
      next response _ =>
        exact stage_effect rfl ⟨rfl, rfl⟩ (applyBatch_holding current target response)
      next e _ =>
        exact .keep rfl (requestError_ended e).1 (requestError_ended e).2 fun _ => .inl rfl
  | ready encoded target =>
    exact Installation.effect (installation_activateInstall encoded target) fun _ => trivial
  | failing e => exact .wipe rfl (takesActivation_handle (.inl ⟨e, rfl⟩) _ _) rfl
  | declined e => exact .rest rfl rfl
  | returned installed outcome => exact .rest rfl rfl

theorem failed_advance (h : a.failed) :
    (a.advance config anchors rt store env).next.failed := by
  cases a with
  | failing e => rfl
  | returned installed outcome => exact h
  | begun | keyed | requested | answered | syncing | ready | declined => cases h

end Attempt

/-! ### Two calls -/

/-- Two calls on one client. -/
structure TwoCalls (S : CryptoSuite) where
  anchors : TrustAnchors S
  runtime : Runtime S
  store : KeyStore
  calls : Bool → Attempt

namespace TwoCalls

variable (config) (s : TwoCalls S) (move : Bool × Surroundings)

/-- The calls before their first sections. -/
def start (inner : Inner S) (store : KeyStore) (calls : Bool → Installer) : TwoCalls S where
  anchors := inner.anchors
  runtime := inner.runtime
  store := store
  calls b := .begun (calls b)

/-- The next section of one of the calls. -/
def turn (b : Bool) (env : Surroundings) : Turn S :=
  (s.calls b).advance config s.anchors s.runtime s.store env

/-- One call runs its next section. -/
def step : TwoCalls S where
  anchors := s.anchors
  runtime := (s.turn config move.1 move.2).runtime
  store := (s.turn config move.1 move.2).store
  calls := update s.calls move.1 (s.turn config move.1 move.2).next

/-- The step is not between the look of the other call and its end. -/
def InTurn : Prop :=
  (s.calls !move.1).underway = false

/-- The calls keep apart, and a client that holds nothing takes an activation. -/
structure Exclusive (s : TwoCalls S) : Prop where
  apart : ∀ b, Attempt.Apart s.runtime (s.calls b) (s.calls !b)
  takes : s.runtime.isActivated = false → TakesActivation s.runtime.state.state

/-- A section that does not install leaves what is held, or nothing. -/
def Frames : Prop :=
  ((s.step config move).calls move.1).installed = false →
    (s.step config move).runtime.holding = s.runtime.holding ∨
      (s.step config move).runtime.isActivated = false

/-- A call that now returns without an error leaves an active client with a credential. -/
def Activates : Prop :=
  (s.calls move.1).succeeded = false → ((s.step config move).calls move.1).succeeded = true →
      (s.step config move).runtime.state.state = .active ∧
        (s.step config move).runtime.state.hasCredential = true ∧
        (s.step config move).runtime.isActivated = true

theorem turn_effect :
    Turn.Effect s.runtime move.2.now (s.calls move.1) (s.turn config move.1 move.2) :=
  Attempt.advance_effect _

theorem step_calls_self :
    (s.step config move).calls move.1 = (s.turn config move.1 move.2).next :=
  update_self ..

private theorem step_calls_other :
    (s.step config move).calls (!move.1) = s.calls (!move.1) := by
  have hne : (!move.1) ≠ move.1 := by simp
  exact update_of_ne hne ..

variable {config s move}

theorem Exclusive.step (h : s.Exclusive) (hturn : s.InTurn move) :
    (s.step config move).Exclusive := by
  have heffect := turn_effect config s move
  have hself := h.apart move.1
  have hother := h.apart !move.1
  rw [Bool.not_not] at hother
  obtain ⟨hmoved, hwaiting⟩ :=
    Attempt.apart_of_effect heffect hself hother hturn Attempt.failed_advance
  refine ⟨fun b => ?_, ?_⟩
  · by_cases hb : b = move.1
    · rw [hb, step_calls_self, step_calls_other]
      exact hmoved
    · rw [Bool.eq_not.2 hb, Bool.not_not, step_calls_self, step_calls_other]
      exact hwaiting
  · -- what is held and the state change together
    change (s.turn config move.1 move.2).runtime.isActivated = false → TakesActivation
      (s.turn config move.1 move.2).runtime.state.state
    intro hnone
    cases heffect with
    | keep hheld =>
      rw [isActivated_of_holding_eq hheld] at hnone
      simp only [Runtime.holding, Prod.mk.injEq] at hheld
      rw [hheld.2.2.2]
      exact h.takes hnone
    | wipe _ htakes => exact htakes
    | install _ _ _ _ hheld => simp [hheld] at hnone
    | rest hruntime =>
      rw [hruntime] at hnone ⊢
      exact h.takes hnone

theorem frames_step (config : Config) (s : TwoCalls S) (move : Bool × Surroundings) :
    s.Frames config move := by
  intro hinstalled
  rw [step_calls_self] at hinstalled
  cases turn_effect config s move with
  | keep hheld _ _ => exact .inl hheld
  | wipe hgone _ => exact .inr hgone
  | install _ _ _ _ _ hinstalled' =>
    rw [hinstalled'] at hinstalled
    cases hinstalled
  | rest hruntime _ =>
    refine .inl ?_
    rw [step, hruntime]

private theorem activates_step (h : s.Exclusive) (config : Config) (move : Bool × Surroundings) :
    s.Activates config move := by
  intro hbefore hafter
  rw [step_calls_self] at hafter
  cases turn_effect config s move with
  | keep _ _ hsucceeded => simp [hsucceeded] at hafter
  | wipe _ _ hfailed => simp [(Attempt.not_ended_of_failed hfailed).2] at hafter
  | install hmay m hm hstate hheld _ =>
    have hother := h.apart !move.1
    rw [Bool.not_not] at hother
    have htakes := h.takes (hmay.alone (h.apart move.1) hother).1
    rw [← hm] at htakes
    obtain ⟨hactive, hcredential⟩ := handle_activationVerified htakes move.2.now
    rw [← hstate] at hactive hcredential
    exact ⟨hactive, hcredential, hheld⟩
  | rest _ hnext => simp [hnext, hbefore] at hafter

end TwoCalls

/-! ### Two activations, an import after an activation, and a locked client -/

/-- A section whose requests are answered with a keyset and a credential that expires then. -/
def answering (notAfter : ℤ) : Surroundings where
  now := 1000
  io := { saves := true, wipes := true }
  generated := sampleKeys
  fits := true
  answer := .ok (sampleEnvelope .machineCred (.machineCred (sampleCredential notAfter)) (some 5))
  keyset := .ok sampleKeyset
  batch := .error (.fatal .credentialCorrupt)

/-- Sections of a call in a row. -/
def sections (b : Bool) (n : ℕ) (notAfter : ℤ) : List (Bool × Surroundings) :=
  List.replicate n (b, answering notAfter)

/-- Two calls on the client that these calls leave. -/
def interleaved (calls : List Call) (installers : Bool → Installer)
    (moves : List (Bool × Surroundings)) : Option (TwoCalls sampleSuite) :=
  (sampleRun calls).client.map fun inner =>
    exec (TwoCalls.step sampleConfig) (.start inner (sampleRun calls).store installers) moves

/-- The client starts. -/
def launch : List Call := [sampleCall 1000 (.start sampleKeys)]

/-- Undecodable bytes are imported after the first call. -/
def importAfter : Bool → Installer
  | true => .activate
  | false => .offlineResponse { size := 0, decoded := .error (.codec .malformed) }

end CopyLocker.Client
