import CopyLocker.Client.HonestServer
import CopyLocker.Client.Restart

/-!
# Interleavings of calls with an honest server

Validation, activation, deactivation, the following of revocations and scheduler cycles of one
desktop client, section by section in any order, with a server whose every response is honest.
Such a run can still end in `tampered`: a response is judged by the client as it is when it is
looked at, not as it was when the request was sent. What keeps a client from that is that each look
finds what its request was made with.

## Main results

* `undisturbed_run_is_never_tampered`: no undisturbed run with an honest server reaches `tampered`
  or wipes anything without an excuse.
* `late_ticket_tampers_with_new_activation`: a ticket for the machine before a reactivation.
-/

namespace CopyLocker.Protocol

open Client CopyLocker.Core Foundation.Run Proto Desktop Section

variable {S : CryptoSuite}

/-! ### Conditions on a step -/

/-- The response of the step, if it has one, is honest for the request that it answers. An outage
is always possible, and so is the rejection of an activation. -/
def Honest (config : Config) (auth : Authority S) (s : Desktop S) (m : Move) : Prop :=
  match m.act with
  | .validated (.ok response) => ∀ view, s.flights none = .validating view →
      (Purpose.validate view response).Honest config auth
  | .activated i (.ok encoded) => ∀ kem, s.flights (some i) = .activating kem →
      (Purpose.activate kem encoded).Honest config auth
  | .keyset _ (.ok keyset) => HonestKeyset config auth s.anchors keyset
  | .batch _ (.ok response) => ∃ envelope batch, response.decoded = .ok envelope ∧
      HonestBatch config auth envelope batch
  | .validated (.error (.fatal _)) | .activated _ (.error (.fatal _))
  | .deactivated _ (.error (.fatal _)) | .keyset _ (.error (.fatal _))
  | .batch _ (.error (.fatal _)) => False
  | _ => True

/-- The last look of a call finds the client as its request left it. -/
def LookFits (rt : Runtime S) (flight : Flight) (now : ℤ) : Prop :=
  match flight with
  | .ready (.validate view response) _ previewed => ∀ envelope, response.decoded = .ok envelope →
      ValidationFits rt view envelope previewed now
  | .ready (.activate kem encoded) _ _ => ∀ envelope, encoded.decoded = .ok envelope →
      ActivationFits rt kem envelope now
  | _ => True

/-- The step finds the client as it was for the request whose response it looks at. Device keys
are valid, a request fits its size limit, and an epoch is a machine word. -/
def Undisturbed (s : Desktop S) (m : Move) : Prop :=
  match m.act with
  | .ensureDeviceKeys generated => validateDeviceKeys S (.new generated) = true
  | .beginActivate _ fits => fits = true
  | .keyset _ (.ok keyset) => KeysetFits s.runtime keyset
  | .look f => ∀ p target previewed, s.flights f = .syncing p target previewed none →
      s.runtime.maxRevocationEpoch ≤ target ∧ target < 2 ^ 64
  | .batch f (.ok response) => ∀ p target previewed,
      s.flights f = .syncing p target previewed (some s.runtime.maxRevocationEpoch) →
      ∀ envelope, response.decoded = .ok envelope → BatchFits s.runtime envelope target m.now
  | .conclude f => LookFits s.runtime (s.flights f) m.now
  | .failClosed _ => s.runtime.state.state = .revoked
  | _ => True

/-- Something that was held, or the record in the store, is gone. -/
def Wiped (s s' : Desktop S) : Prop :=
  (s.runtime.isActivated = true ∧ s'.runtime.isActivated = false) ∨
    (s.store.isSome = true ∧ s'.store = none)

/-- The steps that are there to wipe: a deactivation by the user, a kill order that names the
machine held, and a batch that names what is held, with the failing closed that follows it. -/
def Excused (config : Config) (auth : Authority S) (s : Desktop S) (m : Move) : Prop :=
  match m.act with
  | .beginDeactivate _ => s.runtime.olk.isSome = true
  | .deactivated _ (.ok _) => True
  | .conclude f => ∃ view response target previewed envelope order c,
      s.flights f = .ready (.validate view response) target previewed ∧
      response.decoded = .ok envelope ∧ HonestOrder config auth view envelope order ∧
      s.runtime.credential = some c ∧ order.machineId = c.machineId
  | .batch _ (.ok response) => ∃ envelope batch, response.decoded = .ok envelope ∧
      HonestBatch config auth envelope batch ∧
      (s.runtime.credentialIds.bind (revocationReason batch)).isSome = true
  | .failClosed f => ∃ reason, s.flights f = .failing (.revoked reason)
  | _ => False

/-! ### The invariant -/

/-- A flight carries an honest response, and fails only after a revocation. -/
def FlightSound (config : Config) (auth : Authority S) : Flight → Prop
  | .refreshing p | .syncing p _ _ _ | .ready p _ _ => p.Honest config auth
  | .failing e => ∃ reason, e = .revoked reason
  | .idle | .validating _ | .activating _ | .deactivating => True

/-- The client is healthy, and every flight carries what an honest server answers. -/
structure Sound (config : Config) (auth : Authority S) (s : Desktop S) : Prop where
  runtime : s.runtime.Healthy auth
  flights : ∀ f, FlightSound config auth (s.flights f)

/-- A step that keeps the invariant, and wipes only with an excuse. -/
structure Kept (config : Config) (auth : Authority S) (s : Desktop S) (m : Move)
    (s' : Desktop S) : Prop where
  sound : Sound config auth s'
  excused : Wiped s s' → Excused config auth s m

variable {envelope : Envelope} {previewed : Bool}

section Steps

variable {config : Config} {auth : Authority S} {s : Desktop S} {m : Move} {r : Section S}
  {f : Option ℕ} {flight : Flight}

theorem not_wiped_of_calm {s' : Desktop S} (hr : Calm auth s.runtime s.store r)
    (hruntime : s'.runtime = r.runtime) (hstore : s'.store = r.store) : ¬ Wiped s s' := by
  rintro (⟨hheld, hgone⟩ | ⟨hstored, hgone⟩)
  · rw [hruntime, hr.held hheld] at hgone
    cases hgone
  · have hsome := hr.stored hstored
    rw [← hstore, hgone] at hsome
    cases hsome

/-- The flight after a stage that fails only by a revocation. -/
theorem flightSound_afterStage {outcome : Outcome}
    (hfatal : ∀ e, outcome = .error (.fatal e) → ∃ reason, e = .revoked reason)
    (hf : FlightSound config auth flight) :
    FlightSound config auth (afterStage outcome flight) := by
  unfold afterStage
  split
  · exact hf
  · exact hf
  next e => exact hfatal e rfl
  · trivial

variable (hs : Sound config auth s)

include hs

theorem Sound.carries (hf : s.flights f = flight) : FlightSound config auth flight :=
  hf ▸ hs.flights f

theorem Sound.run (hr : r.runtime.Healthy auth) : Sound config auth (s.run r) := ⟨hr, hs.flights⟩

theorem Sound.setFlight (hf : FlightSound config auth flight) :
    Sound config auth (s.setFlight f flight) := by
  refine ⟨hs.runtime, ?_⟩
  intro f'
  by_cases hf' : f' = f
  · subst hf'
    simpa [setFlight] using hf
  · simpa [Desktop.setFlight, hf'] using hs.flights f'

theorem Sound.kept_self : Kept config auth s m s := by
  refine ⟨hs, fun hwiped => absurd hwiped ?_⟩
  exact not_wiped_of_calm (calm_of_healthy s.runtime hs.runtime rfl .ok) rfl rfl

theorem Sound.kept_setFlight (hf : FlightSound config auth flight) :
    Kept config auth s m (s.setFlight f flight) := by
  refine ⟨hs.setFlight hf, fun hwiped => absurd hwiped ?_⟩
  exact not_wiped_of_calm (calm_of_healthy s.runtime hs.runtime rfl .ok) rfl rfl

theorem Sound.kept_run (hr : Calm auth s.runtime s.store r) :
    Kept config auth s m (s.run r) :=
  ⟨hs.run hr.healthy, fun hwiped => absurd hwiped (not_wiped_of_calm hr rfl rfl)⟩

theorem Sound.kept_land (hr : Calm auth s.runtime s.store r)
    (hf : FlightSound config auth flight) : Kept config auth s m (s.land r f flight) :=
  ⟨(hs.run hr.healthy).setFlight hf, fun hwiped => absurd hwiped (not_wiped_of_calm hr rfl rfl)⟩

theorem Sound.kept_startValidation (nonce : ByteId 32) :
    Kept config auth s m (s.startValidation nonce m.now) := by
  have hbegin : Calm auth s.runtime s.store (beginValidate S s.runtime s.store m.now) :=
    calm_beginValidate hs.runtime
  unfold startValidation
  split
  · dsimp only
    split
    · exact hs.kept_land hbegin trivial
    · exact hs.kept_run hbegin
  · exact hs.kept_self

theorem Sound.kept_startActivation (i : ℕ) :
    Kept config auth s m (s.startActivation i m.io true m.now) := by
  have hrequest : Calm auth s.runtime s.store
      (requestActivation s.runtime s.store m.io true m.now) := calm_requestActivation hs.runtime
  unfold startActivation
  split
  · dsimp only
    split
    · exact hs.kept_land hrequest trivial
    · exact hs.kept_run hrequest
  · exact hs.kept_self

variable {i : ℕ} {view : View} {response : Wire Envelope}

theorem Sound.kept_startDeactivation (hact : m.act = .beginDeactivate i) :
    Kept config auth s m (s.startDeactivation i m.io m.now) := by
  have hhealthy : (requestDeactivation s.runtime s.store m.io m.now).runtime.Healthy auth :=
    healthy_requestDeactivation hs.runtime
  have hcalm : s.runtime.olk.isSome = false → Calm auth s.runtime s.store
      (requestDeactivation s.runtime s.store m.io m.now) := calm_requestDeactivation hs.runtime
  have hexcused : s.runtime.olk.isSome → Excused config auth s m := by
    intro holk
    simp only [Excused, hact]
    exact holk
  unfold startDeactivation
  split
  · dsimp only
    cases holk : s.runtime.olk.isSome with
    | true =>
      split
      · exact ⟨(hs.run hhealthy).setFlight trivial, fun _ => hexcused holk⟩
      · exact ⟨hs.run hhealthy, fun _ => hexcused holk⟩
    | false =>
      split
      · exact hs.kept_land (hcalm holk) trivial
      · exact hs.kept_run (hcalm holk)
  · exact hs.kept_self

theorem Sound.kept_receive (hp : (Purpose.validate view response).Honest config auth) :
    Kept config auth s m (s.receive view response m.io m.now) := by
  have hpurpose := hp
  obtain ⟨envelope, hdecoded, -⟩ := hp
  unfold receive
  simp only [hdecoded, orFatal]
  split
  · exact hs.kept_setFlight trivial
  · split_ifs <;> exact hs.kept_setFlight hpurpose

theorem Sound.kept_concludeTicket {t : ValidationTicket}
    (hp : (Purpose.validate view response).Honest config auth)
    (hdecoded : response.decoded = .ok envelope) (ht : HonestTicket config auth view envelope t)
    (hfits : ValidationFits s.runtime view envelope previewed m.now) :
    Kept config auth s m (s.concludeValidation config f view response previewed m.io m.now) := by
  have hkind : envelope.kind = .validationTicket := EnvelopeOf.kind_of_peekUnverified ht.signed.peek
  unfold concludeValidation
  simp only [hdecoded, hkind]
  cases previewed with
  | true => exact hs.kept_land (calm_acceptTicket hs.runtime ht hfits) trivial
  | false =>
    refine hs.kept_land (calm_previewTicket hs.runtime ht hfits) ?_
    unfold afterPreview
    split
    · exact hp
    · trivial

/-- The look at a kill order: what it wipes is what it names. -/
theorem Sound.kept_concludeOrder {target : ℕ} {order : KillOrder} (hact : m.act = .conclude f)
    (hflight : s.flights f = .ready (.validate view response) target previewed)
    (hdecoded : response.decoded = .ok envelope) (ho : HonestOrder config auth view envelope order)
    (hfits : ValidationFits s.runtime view envelope previewed m.now) :
    Kept config auth s m (s.concludeValidation config f view response previewed m.io m.now) := by
  have hkind : envelope.kind = .killOrder := EnvelopeOf.kind_of_peekUnverified ho.signed.peek
  have hlook : (acceptKillOrder config s.runtime s.store m.io envelope view.nonce
      m.now).runtime.Healthy auth ∧ (s.runtime.credential = none → Calm auth s.runtime s.store
          (acceptKillOrder config s.runtime s.store m.io envelope view.nonce m.now)) :=
    acceptKillOrder_of_honest hs.runtime ho hfits
  unfold concludeValidation
  simp only [hdecoded, hkind]
  cases hc : s.runtime.credential with
  | none => exact hs.kept_land (hlook.2 hc) trivial
  | some c =>
    refine ⟨(hs.run hlook.1).setFlight trivial, fun _ => ?_⟩
    have hmachine : order.machineId = c.machineId := ho.machineId.trans (hfits.machineId c hc).symm
    simp only [Excused, hact]
    exact ⟨view, response, target, previewed, envelope, order, c, hflight, hdecoded, ho, hc,
      hmachine⟩

/-- Every honest and undisturbed step keeps the invariant, and wipes only with an excuse. -/
theorem Sound.kept_step (hhonest : Honest config auth s m) (hfits : Undisturbed s m) :
    Kept config auth s m (s.step config m) := by
  unfold Honest at hhonest
  unfold Undisturbed at hfits
  fun_cases step config s m with
  | case1 onlineHint => exact hs.kept_run (calm_schedulerCycle hs.runtime onlineHint)
  | case2 => exact hs.kept_run (calm_featureKey hs.runtime)
  | case3 generated hact =>
    rw [hact] at hfits
    exact hs.kept_run (r := { runtime := _, store := s.store, outcome := .ok })
      (calm_of_healthy s.runtime (healthy_ensureDeviceKeys hs.runtime hfits) rfl _)
  | case4 nonce => exact hs.kept_startValidation nonce
  | case5 i fits hact =>
    obtain rfl : fits := by rwa [hact] at hfits
    exact hs.kept_startActivation i
  | case6 i hact => exact hs.kept_startDeactivation hact
  | case7 view response hflight hact =>
    rw [hact] at hhonest
    exact hs.kept_receive (hhonest view hflight)
  | case8 view e => exact hs.kept_land (calm_applyTransientFailure hs.runtime e) trivial
  | case11 i kem encoded hflight hact =>
    rw [hact] at hhonest
    exact hs.kept_setFlight (hhonest kem hflight)
  | case13 | case17 => exact hs.kept_setFlight trivial
  | case15 i _ hflight hact =>
    refine ⟨(hs.run (healthy_userDeactivateLocked hs.runtime)).setFlight trivial, fun _ => ?_⟩
    simp [Excused, hact]
  | case9 _ _ _ hact | case12 _ _ _ _ hact | case16 _ _ _ hact =>
    -- a fatal answer is not honest
    rw [hact] at hhonest
    exact hhonest.elim
  | case19 f p keyset hflight r hact =>
    rw [hact] at hhonest hfits
    have hinstall : Calm auth s.runtime s.store r ∧ ∀ e, r.outcome ≠ .error (.fatal e) :=
      calm_installKeyset hs.runtime hhonest hfits
    refine hs.kept_land hinstall.1 (flightSound_afterStage ?_ (hs.carries hflight :))
    intro e he
    exact absurd he (hinstall.2 e)
  | case20 f p e _ hact | case27 f p _ _ _ e _ hact =>
    rw [hact] at hhonest
    cases e with
    | fatal e => exact hhonest.elim
    | transient e =>
      cases p with
      | validate => exact hs.kept_land (calm_applyTransientFailure hs.runtime e) trivial
      | activate => exact hs.kept_setFlight trivial
  | case22 f hact p target previewed hflight | case24 f hact p target previewed hflight =>
    exact hs.kept_setFlight (hs.carries hflight :)
  | case23 f hact p target previewed hflight e hfailed =>
    rw [hact] at hfits
    obtain ⟨hbehind, hword⟩ := hfits p target previewed hflight
    unfold nextSyncStep at hfailed
    split_ifs at hfailed <;> omega
  | case26 f p target previewed current response hflight r hact =>
    rw [hact] at hhonest hfits
    obtain ⟨envelope, batch, hdecoded, hbatch⟩ := hhonest
    have hfollows : Follows auth s.runtime s.store batch r := by
      refine applyBatch_of_honest hs.runtime hdecoded hbatch fun hcurrent => ?_
      subst hcurrent
      exact hfits p target previewed hflight envelope hdecoded
    have hnext :
        FlightSound config auth (afterStage r.outcome (.syncing p target previewed none)) :=
      flightSound_afterStage hfollows.fatal (hs.carries hflight :)
    cases hreason : s.runtime.credentialIds.bind (revocationReason batch) with
    | none => exact hs.kept_land (hfollows.calm hreason) hnext
    | some reason =>
      refine ⟨(hs.run hfollows.healthy).setFlight hnext, fun _ => ?_⟩
      simp only [Excused, hact]
      exact ⟨envelope, batch, hdecoded, hbatch, by rw [hreason]; rfl⟩
  | case29 f hact view response target previewed hflight =>
    simp only [hact, LookFits, hflight] at hfits
    have hp : (Purpose.validate view response).Honest config auth := hs.carries hflight
    obtain ⟨envelope, hdecoded, ⟨t, ht⟩ | ⟨order, ho⟩⟩ := id hp
    · exact hs.kept_concludeTicket hp hdecoded ht (hfits envelope hdecoded)
    · exact hs.kept_concludeOrder hact hflight hdecoded ho (hfits envelope hdecoded)
  | case30 f hact kem encoded target previewed hflight =>
    simp only [hact, LookFits, hflight] at hfits
    have hp : (Purpose.activate kem encoded).Honest config auth := hs.carries hflight
    obtain ⟨envelope, c, hdecoded, hc⟩ := hp
    refine hs.kept_land ?_ trivial
    exact calm_activateInstall hs.runtime hdecoded hc (hfits envelope hdecoded) target
  | case32 f hact e hflight =>
    rw [hact] at hfits
    obtain ⟨reason, rfl⟩ : FlightSound config auth (.failing e) := hs.carries hflight
    have hstill (error : FatalError) :
        (failClosedLocked s.runtime s.store m.io error m.now).runtime.Healthy auth := by
      refine healthy_wiped ?_
      rw [StateMachine.state_of_verificationFailed, if_pos hfits]
      exact LicenseState.noConfusion
    refine ⟨(hs.run (hstill _)).setFlight trivial, fun _ => ?_⟩
    simp only [Excused, hact]
    exact ⟨reason, hflight⟩
  | _ => exact hs.kept_self

end Steps

/-! ### Runs -/

/-- A client that is constructed without a record is sound, if its new keys are valid. -/
theorem sound_of_construct {config : Config} {generated : DeviceKeys} {now : ℤ} {inner : Inner S}
    (auth : Authority S) (h : construct S config none generated now = .ok inner)
    (hkeys : validateDeviceKeys S (.new generated)) :
    Sound config auth (start inner none) := by
  obtain ⟨state, snapshot, marks, hrestore, hload⟩ := construct_eq_ok h
  cases hrestore
  have hblank : Runtime.blank _ _ _ = inner.runtime := Except.ok.inj hload
  refine ⟨?_, fun _ => trivial⟩
  show inner.runtime.Healthy auth
  rw [← hblank]
  refine ⟨?_, ?_, ?_⟩
  · intro htampered
    cases htampered
  · intro snapshot hsnapshot
    cases hsnapshot
    exact hkeys
  · intro chain hchain
    cases hchain

/-- In every run of honest and undisturbed steps, from a sound client, no step ends in `tampered`
and no step wipes what is held or stored without an excuse. -/
theorem undisturbed_run_is_never_tampered (config : Config) (auth : Authority S) (s : Desktop S)
    (hs : Sound config auth s) (moves : List Move)
    (hrun : Along (Desktop.step config) (fun s m => Honest config auth s m ∧ Undisturbed s m) s
      moves) :
    Along (Desktop.step config) (fun s m => (s.step config m).runtime.state.state ≠ .tampered ∧
        (Wiped s (s.step config m) → Excused config auth s m)) s moves := by
  refine along_of_invariant (fun s m hs hm => ?_) hs hrun
  have hkept : Kept config auth s m (s.step config m) := hs.kept_step hm.1 hm.2
  exact ⟨hkept.sound, hkept.sound.runtime.state, hkept.excused⟩

/-! ### A ticket for the machine before a reactivation -/

def sampleAuthority : Authority sampleSuite := fun id =>
  if id = 5 then some { durable := { pq := (), ed := () }, fast := () } else none

/-- A step at `1500`, while the store works. -/
def sampleMove (act : Act) : Move :=
  { now := 1500, io := { saves := true, wipes := true }, act }

/-- An activation that is answered with this credential. -/
def activationMoves (c : MachineCredential) : List Move :=
  [sampleMove (.beginActivate 0 true),
    sampleMove (.activated 0 (.ok (sampleEnvelope .machineCred (.machineCred c) (some 5)))),
    sampleMove (.keyset (some 0) (.ok sampleKeyset)), sampleMove (.look (some 0)),
    sampleMove (.conclude (some 0))]

/-- The credential of a machine. -/
def credentialFor (machineId : MachineId) : MachineCredential :=
  { sampleCredential 0 with machineId }

theorem honest_credentialFor (machineId : MachineId) (kem : Bytes) :
    (Purpose.activate kem (sampleEnvelope .machineCred (.machineCred (credentialFor machineId))
      (some 5))).Honest sampleConfig sampleAuthority := by
  refine ⟨_, credentialFor machineId, rfl, ?_⟩
  exact
    { signed := ⟨5, _, rfl, rfl, rfl⟩
      header := ⟨rfl, rfl⟩
      protoVer := rfl
      suiteId := rfl
      productId := rfl
      epochId := rfl
      fingerprint := rfl
      build := rfl
      variantId := rfl
      refresh := show (1000 : ℤ) < 50000 by decide
      binds := rfl }

/-- What machine `2` sent. -/
def firstView : View :=
  { machineId := 2, nonce := 3, knownRevocationEpoch := 0, knownSecurityFloor := 0 }

theorem honest_extendedResponse :
    (Purpose.validate firstView extendedResponse).Honest sampleConfig sampleAuthority := by
  refine ⟨_, rfl, .inl ⟨extendedTicket, ?_⟩⟩
  exact
    { signed := ⟨5, _, rfl, rfl, rfl⟩
      protoVer := rfl
      suiteId := rfl
      epochId := rfl
      nonce := rfl
      machineId := rfl
      revocation := Nat.le_refl 0
      floor := Nat.le_refl 0
      refresh := by decide
      time := by decide }

variable {inner : Inner sampleSuite}

theorem honest_sampleKeyset
    (h : construct sampleSuite sampleConfig none sampleKeys 1000 = .ok inner) :
    HonestKeyset sampleConfig sampleAuthority inner.anchors sampleKeyset := by
  cases h
  refine ⟨rfl, ?_⟩
  intro encoded hencoded
  obtain rfl := List.mem_singleton.1 hencoded
  refine ⟨_, _, rfl, rfl, fun _ => ?_⟩
  exact
    { header := ⟨rfl, rfl, rfl⟩
      body := ⟨rfl, rfl, by decide⟩
      issuer := ⟨_, rfl, rfl, rfl⟩
      keys := ⟨_, rfl, rfl, rfl⟩ }

/-- Machine `2` asks for a validation and is deactivated; the client is activated as machine `3`,
and then the ticket arrives. -/
def reactivation : List Move :=
  activationMoves (credentialFor 2) ++
    [sampleMove (.beginValidate 3), sampleMove (.beginDeactivate 1),
      sampleMove (.deactivated 1 (.ok ())), sampleMove (.ensureDeviceKeys sampleKeys)] ++
    activationMoves (credentialFor 3) ++ [sampleMove (.validated (.ok extendedResponse))]

/-- Every response is honest. The look at the ticket finds another machine than the ticket is for,
and the new activation is wiped. -/
theorem late_ticket_tampers_with_new_activation :
    ∃ inner, construct sampleSuite sampleConfig none sampleKeys 1000 = .ok inner ∧
      Along (Desktop.step sampleConfig) (Honest sampleConfig sampleAuthority)
        (Desktop.start inner none) (reactivation ++ [sampleMove (.conclude none)]) ∧
      ∃ s, exec (Desktop.step sampleConfig) (Desktop.start inner none) reactivation = s ∧
        s.runtime.credential = some (credentialFor 3) ∧ s.store.isSome = true ∧
        ¬ Excused sampleConfig sampleAuthority s (sampleMove (.conclude none)) ∧
        (s.step sampleConfig (sampleMove (.conclude none))).runtime.state.state = .tampered ∧
        (s.step sampleConfig (sampleMove (.conclude none))).runtime.credential = none ∧
        (s.step sampleConfig (sampleMove (.conclude none))).store = none := by
  refine ⟨_, rfl, ?_, _, rfl, rfl, rfl, ?_, rfl, rfl, rfl⟩
  · have hkeyset := honest_sampleKeyset rfl
    refine ⟨trivial, fun kem _ => honest_credentialFor 2 kem, hkeyset, trivial, trivial, trivial,
      trivial, trivial, trivial, trivial, fun kem _ => honest_credentialFor 3 kem, hkeyset, trivial,
      trivial, fun view hview => ?_, trivial, trivial⟩
    obtain rfl : firstView = view := Flight.validating.inj hview
    exact honest_extendedResponse
  · rintro ⟨view, response, target, previewed, envelope, order, c, hflight, hdecoded, ho, -⟩
    have hready : Flight.ready (.validate firstView extendedResponse) 0 false =
        .ready (.validate view response) target previewed := hflight
    cases hready
    cases hdecoded
    have hkind := EnvelopeOf.kind_of_peekUnverified ho.signed.peek
    cases hkind

/-! ### A validation that nothing disturbs -/

/-- The client is activated, asks for a validation, looks at its ticket twice, and goes on. -/
def validation : List Move :=
  activationMoves (credentialFor 2) ++
    [sampleMove (.beginValidate 3), sampleMove (.validated (.ok extendedResponse)),
      sampleMove (.conclude none), sampleMove (.look none), sampleMove (.conclude none),
      sampleMove (.schedulerCycle true)]

theorem honest_validation
    (h : construct sampleSuite sampleConfig none sampleKeys 1000 = .ok inner) :
    Along (Desktop.step sampleConfig) (Honest sampleConfig sampleAuthority)
      (Desktop.start inner none) validation := by
  have hkeyset := honest_sampleKeyset h
  cases h
  refine ⟨trivial, fun kem _ => honest_credentialFor 2 kem, hkeyset, trivial, trivial, trivial,
    fun view hview => ?_, trivial, trivial, trivial, trivial, trivial⟩
  obtain rfl : firstView = view := Flight.validating.inj hview
  exact honest_extendedResponse

private theorem undisturbed_validation
    (h : construct sampleSuite sampleConfig none sampleKeys 1000 = .ok inner) :
    Along (Desktop.step sampleConfig) Undisturbed (Desktop.start inner none) validation := by
  cases h
  refine ⟨rfl, trivial, ?_, ?look, ?_, trivial, trivial, ?ticket, ?look', ?ticket', trivial,
    trivial⟩
  case look | look' =>
    rintro p target previewed ⟨⟩
    exact ⟨Nat.le_refl 0, by decide⟩
  case ticket | ticket' =>
    -- the client still holds machine `2`
    rintro envelope ⟨⟩
    refine ⟨fun _ _ => rfl, ?_, fun _ => ⟨_, _, rfl, rfl⟩, ?_, ?_, by decide⟩
    · rintro c ⟨⟩
      rfl
    · rintro t ⟨⟩
      exact ⟨Nat.le_refl 0, Nat.le_refl 0⟩
    · rintro order ⟨⟩
  · refine ⟨Nat.le_refl 0, ?_⟩
    rintro snapshot ⟨⟩ encoded hencoded envelope cert hdecoded hpeek
    exact List.not_mem_nil
  · rintro envelope ⟨⟩
    refine ⟨?_, fun _ => ⟨_, _, rfl, rfl⟩, ?_, ?_⟩
    · rintro snapshot ⟨⟩
      rfl
    · rintro c ⟨⟩
      exact ⟨Nat.le_refl 0, Nat.le_refl 0⟩
    · rintro c ⟨⟩
      exact ⟨by decide, .inl rfl⟩

/-- The client is active after it, and nothing was wiped. -/
theorem undisturbed_validation_is_never_tampered :
    ∃ inner, construct sampleSuite sampleConfig none sampleKeys 1000 = .ok inner ∧
      (exec (Desktop.step sampleConfig) (Desktop.start inner none) validation).runtime.state.state =
        .active ∧
      Along (Desktop.step sampleConfig)
        (fun s m => Honest sampleConfig sampleAuthority s m ∧ Undisturbed s m)
        (Desktop.start inner none) validation ∧
      Along (Desktop.step sampleConfig)
        (fun s m => (s.step sampleConfig m).runtime.state.state ≠ .tampered ∧
          (Wiped s (s.step sampleConfig m) → Excused sampleConfig sampleAuthority s m))
        (Desktop.start inner none) validation := by
  have hrun := (along_and _ validation).2 ⟨honest_validation rfl, undisturbed_validation rfl⟩
  exact ⟨_, rfl, rfl, hrun, undisturbed_run_is_never_tampered sampleConfig sampleAuthority _
    (sound_of_construct sampleAuthority rfl rfl) validation hrun⟩

end CopyLocker.Protocol
