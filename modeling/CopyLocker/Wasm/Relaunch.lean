import CopyLocker.Client.System
import CopyLocker.Wasm.Snapshot

/-!
# What an imported session permits

The counterpart of the desktop client's relaunch for the browser session: every operation keeps the
state machine in step with the envelopes that a snapshot exports, except when a rollback past the
tolerance or a failed validation locks the machine for a reason that the snapshot does not show.

## Main results

* `Session.step_via`: every operation keeps the session, passes an event on, wipes, or installs.
* `Session.exec_rebuildable`: regular operations keep the session rebuildable.
* `Session.not_permits_of_imported`: a session that does not permit keys is not imported into one
  that does.
-/

namespace CopyLocker.Wasm

open CopyLocker.Core Foundation Run Saturating Proto Client StateMachine

variable {S : CryptoSuite}

/-! ### What an operation does -/

/-- The event that an operation passes to the machine, if it does not wipe. -/
def SessionOp.passes : SessionOp → Option Event
  | .event .tick | .deriveM _ _ | .unsealAsset _ _ => some .tick
  | .event (.appResumed gap) => some (.appResumed gap)
  | .event .networkAvailable => some .networkAvailable
  | .event .networkFailed => some (.networkFailed .offline)
  | _ => none

def SessionOp.isImport : SessionOp → Bool
  | .snapshotImport _ => true
  | _ => false

variable {config : Config} {anchors : TrustAnchors S} {s s' s'' : Session S} {op : SessionOp}
  {call : SessionCall} {now : ℤ}

namespace Session

/-- No mark of `s'` is below that of `s`. -/
structure Advances (s s' : Session S) : Prop where
  floor : s.maxSecurityFloor ≤ s'.maxSecurityFloor
  epoch : s.maxRevocationEpoch ≤ s'.maxRevocationEpoch
  clock : s.state.clock.lastSeenMax ≤ s'.state.clock.lastSeenMax

/-- No mark falls, and nothing else that an import depends on changes. -/
structure Keeps (s s' : Session S) : Prop extends Advances s s' where
  credential : s'.credential = s.credential
  credentialEnvelope : s'.credentialEnvelope = s.credentialEnvelope
  ticketEnvelope : s'.ticketEnvelope = s.ticketEnvelope
  state : s'.state.state = s.state.state
  hasCredential : s'.state.hasCredential = s.state.hasCredential
  deadlines : s'.state.deadlines = s.state.deadlines

/-- What an operation other than an import does to a session. -/
inductive Via (s : Session S) (op : SessionOp) (now : ℤ) : Session S → Prop
  | keep {s' : Session S} (h : s.Keeps s') : Via s op now s'
  | event {e : Event} (he : op.passes = some e) : Via s op now (s.handle e now)
  | wipe {base : Session S} {e : Event} (h : s.Keeps base) (he : StateMachine.IsWipe e) :
      Via s op now (base.handle e now).wipeMaterial
  | ticket {base : Session S} {c : MachineCredential} {t : ValidationTicket}
      {response : Wire Envelope} (h : s.Keeps base) (hc : s.credential = some c)
      (hresponse : storedTicket response = some t) :
      Via s op now (base.installTicket c t response now)
  | activate {base s' : Session S} {c : MachineCredential} {encoded : Wire Envelope}
      (h : s.Keeps base) (hfree : s.credential = none) (hstores : Stores c (some encoded))
      (hstate : s'.state =
        ((base.state.setDeadlines (credentialDeadlines c)).handle .activationVerified now).1)
      (hfloor : s'.maxSecurityFloor = base.maxSecurityFloor)
      (hepoch : s'.maxRevocationEpoch = base.maxRevocationEpoch) (hc : s'.credential = some c)
      (hencoded : s'.credentialEnvelope = some encoded)
      (hticket : s'.ticketEnvelope = s.ticketEnvelope) : Via s op now s'

variable {ticket : ValidationTicket} {clock : ClockState} {c : MachineCredential}
  {response : Wire Envelope}

theorem Keeps.refl (s : Session S) : s.Keeps s :=
  ⟨⟨le_rfl, le_rfl, le_rfl⟩, rfl, rfl, rfl, rfl, rfl, rfl⟩

theorem Keeps.trans (h : s.Keeps s') (h' : s'.Keeps s'') : s.Keeps s'' where
  floor := le_trans h.floor h'.floor
  epoch := le_trans h.epoch h'.epoch
  clock := le_trans h.clock h'.clock
  credential := h'.credential.trans h.credential
  credentialEnvelope := h'.credentialEnvelope.trans h.credentialEnvelope
  ticketEnvelope := h'.ticketEnvelope.trans h.ticketEnvelope
  state := h'.state.trans h.state
  hasCredential := h'.hasCredential.trans h.hasCredential
  deadlines := h'.deadlines.trans h.deadlines

theorem keeps_observeCredential (s : Session S) (c : MachineCredential) :
    s.Keeps (s.observeCredential c) :=
  ⟨⟨le_max_left .., le_max_left .., le_rfl⟩, rfl, rfl, rfl, rfl, rfl, rfl⟩

/-- A checked ticket moves the clock forwards. -/
theorem keeps_observeTicket {checks : TicketChecks} {observations : TicketObservations}
    (hcheck : checkTicket ticket checks s.state.clock now = some (clock, .ok observations)) :
    s.Keeps (s.observeTicket ticket clock) := by
  obtain ⟨-, -, -, -, rfl⟩ := checkTicket_eq_ok hcheck
  exact ⟨⟨le_max_left .., le_max_left .., s.state.clock.lastSeenMax_le_observeServerTime _⟩,
    rfl, rfl, rfl, rfl, rfl, rfl⟩

theorem keeps_ensureDeviceKeys (s : Session S) (generated : Option DeviceKeys) :
    s.Keeps (s.ensureDeviceKeys generated).1 := by
  fun_cases s.ensureDeviceKeys generated with
  | case3 => exact { Keeps.refl s with }
  | _ => exact .refl s

theorem via_failClosed (h : s.Keeps s') (e : FatalError) :
    s.Via op now (s'.failClosed e now).1 :=
  .wipe h (show IsWipe (.verificationFailed e) from trivial)

theorem via_buildActivateRequest (s : Session S) (wellFormed : Bool)
    (generated : Option DeviceKeys) (nonce : Option (ByteId 32)) (fits : Bool) :
    s.Via op now (s.buildActivateRequest wellFormed generated nonce fits).1 := by
  have hkeys := keeps_ensureDeviceKeys s generated
  fun_cases s.buildActivateRequest wellFormed generated nonce fits with
  | case1 | case2 => exact .keep (.refl s)
  | case3 _ _ s' _ hensured | case4 _ _ s' _ hensured =>
    rw [hensured] at hkeys
    exact .keep hkeys
  | case5 _ _ s' _ hensured =>
    rw [hensured] at hkeys
    exact .keep (hkeys.trans { Keeps.refl s' with })
  | case6 => exact .keep hkeys

theorem via_ingestKeyset (s : Session S) (config : Config) (anchors : TrustAnchors S)
    (bytes : Except ProtoError Keyset) :
    s.Via op now (s.ingestKeyset config anchors bytes now).1 := by
  unfold ingestKeyset
  split
  · exact via_failClosed (.refl s) _
  split
  · exact via_failClosed (.refl s) _
  · exact .keep ⟨⟨le_rfl, le_max_left .., le_rfl⟩, rfl, rfl, rfl, rfl, rfl, rfl⟩

variable {chain : VerifiedChain S.sig}

theorem via_ingestActivateResponse (s : Session S) (config : Config) (encoded : Wire Envelope) :
    s.Via op now (s.ingestActivateResponse config encoded now).1 := by
  fun_cases s.ingestActivateResponse config encoded now with
  | case1 | case2 | case3 => exact .keep (.refl s)
  | case4 => exact via_failClosed (.refl s) _
  | case5 hfree chain keys _ _ c material hopen =>
    have hnone : s.credential = none := by simpa using hfree
    obtain ⟨envelope, hdecoded, hpeek, -⟩ := openCredential_eq_ok hopen
    exact .activate (keeps_observeCredential s c) hnone ⟨encoded, envelope, rfl, hdecoded, hpeek⟩
      rfl rfl rfl rfl rfl rfl

theorem openOnline_eq_ok {α : Type} [Artifact α]
    {envelope : Envelope} {a : α} (h : s.openOnline α config chain envelope now = .ok a) :
    envelope.peekUnverified α = .ok a :=
  VerifiedChain.peek_of_verifyArtifactFast (orFatal_eq_ok.1 h)

theorem via_ingestTicket (h : s.Keeps s') (config : Config) {envelope : Envelope}
    (hdecoded : response.decoded = .ok envelope) (nonce : ByteId 32) :
    s.Via op now (s'.ingestTicket config envelope response nonce now).1 := by
  fun_cases s'.ingestTicket config envelope response nonce now with
  | case1 | case2 | case5 => exact .keep h
  | case3 | case4 | case6 => exact via_failClosed h _
  | case7 c chain _ _ ticket _ _ _ clock _ hcheck =>
    exact .keep (h.trans (keeps_observeTicket hcheck))
  | case8 c chain _ hc ticket hticket _ _ clock _ hcheck
  | case9 c chain _ hc ticket hticket _ _ clock _ hcheck =>
    refine .ticket ((h.trans (keeps_observeTicket hcheck)).trans ?_) (h.credential.symm.trans hc)
      (storedTicket_eq hdecoded (openOnline_eq_ok hticket))
    exact { Keeps.refl _ with }

private theorem via_ingestKillOrder (h : s.Keeps s') (config : Config) (envelope : Envelope)
    (nonce : ByteId 32) : s.Via op now (s'.ingestKillOrder config envelope nonce now).1 := by
  fun_cases s'.ingestKillOrder config envelope nonce now with
  | case1 | case2 => exact .keep h
  | case3 | case4 => exact via_failClosed h _
  | case5 =>
    refine .wipe (h.trans ?_) (show IsWipe (.killOrderVerified _) from trivial)
    exact ⟨⟨le_rfl, le_rfl, s'.state.clock.lastSeenMax_le_observeServerTime _⟩,
      rfl, rfl, rfl, rfl, rfl, rfl⟩

theorem via_ingestValidateResponse (s : Session S) (config : Config) (response : Wire Envelope) :
    s.Via op now (s.ingestValidateResponse config response now).1 := by
  have hspent : s.Keeps { s with pendingValidateNonce := none } := { Keeps.refl s with }
  unfold ingestValidateResponse
  split
  · exact .keep (.refl s)
  split
  · exact via_failClosed hspent _
  next envelope henvelope =>
  split
  · exact via_ingestTicket hspent config (orFatal_eq_ok.1 henvelope) _
  · exact via_ingestKillOrder hspent config envelope _
  · exact via_failClosed hspent _

theorem step_via (anchors : TrustAnchors S) (s : Session S)
    (h : call.op.isImport = false) : s.Via call.op call.now (s.step config anchors call) := by
  obtain ⟨now, op⟩ := call
  cases op with
  | deviceKeygen generated => exact .keep (keeps_ensureDeviceKeys s generated)
  | snapshotExport => exact .keep (.refl s)
  | snapshotImport blob => cases h
  | buildActivateRequest wellFormed generated nonce fits =>
    exact via_buildActivateRequest s wellFormed generated nonce fits
  | ingestKeyset bytes => exact via_ingestKeyset s config anchors bytes
  | ingestActivateResponse encoded => exact via_ingestActivateResponse s config encoded
  | buildValidateRequest nonce =>
    change s.Via _ now (s.buildValidateRequest nonce now).1
    fun_cases s.buildValidateRequest nonce now <;> exact .keep { Keeps.refl s with }
  | ingestValidateResponse response => exact via_ingestValidateResponse s config response
  | deriveM feature derives =>
    change s.Via _ now (s.deriveM feature derives now).1
    fun_cases s.deriveM feature derives now with
    | case1 => exact .keep (.refl s)
    | _ => exact .event rfl
  | unsealAsset feature unwraps =>
    change s.Via _ now (s.unsealAsset feature unwraps now).1
    fun_cases s.unsealAsset feature unwraps now with
    | case1 => exact .keep (.refl s)
    | _ => exact .event rfl
  | event kind =>
    cases kind with
    | userDeactivate => exact .wipe (.refl s) (show IsWipe .userDeactivate from trivial)
    | _ => exact .event rfl
  | stateQuery => exact .keep (.refl s)
  | buildDeactivateRequest nonce signs =>
    change s.Via _ now (s.buildDeactivateRequest nonce signs now).1
    fun_cases s.buildDeactivateRequest nonce signs now with
    | case4 | case6 => exact via_failClosed (.refl s) _
    | _ => exact .keep (.refl s)

/-! ### Rebuildable sessions -/

/-- The deadlines and the credential in memory are those of the envelopes. -/
structure Dated (s : Session S) : Prop where
  deadlines : s.state.Dated s.credentialEnvelope s.ticketEnvelope
  credential : ∀ c, s.credential = some c → Stores c s.credentialEnvelope
  blank : s.credential = none → s.credentialEnvelope = none ∧ s.ticketEnvelope = none

/-- The session belongs to the envelopes it exports: so does its state, too. -/
structure Rebuildable (s : Session S) : Prop extends Dated s where
  standing : s.state.Standing (s.credentialEnvelope.isSome) ((storedDenial s.ticketEnvelope).isSome)

/-- A session that holds nothing, in a state that permits no keys. -/
structure Empty (s : Session S) : Prop where
  credential : s.credential = none
  credentialEnvelope : s.credentialEnvelope = none
  ticketEnvelope : s.ticketEnvelope = none
  state : s.state.state.permitsKeyDerivation = false ∧ s.state.state ≠ .locked

theorem Empty.dated (h : s.Empty) : s.Dated where
  deadlines := by
    rw [h.credentialEnvelope]
    exact dated_none
  credential := by
    intro c hc
    rw [h.credential] at hc
    cases hc
  blank _ := ⟨h.credentialEnvelope, h.ticketEnvelope⟩

theorem Empty.rebuildable (h : s.Empty) : s.Rebuildable := by
  refine ⟨h.dated, ?_⟩
  rw [h.credentialEnvelope]
  exact standing_of_wiped h.state.1 h.state.2 Bool.false_ne_true

variable (config : Config)

theorem empty_new (seedNow : ℤ) : (new config seedNow : Session S).Empty :=
  ⟨rfl, rfl, rfl, rfl, nofun⟩

theorem empty_wiped {event : Event} (hevent : IsWipe event) (s : Session S) :
    ((s.handle event now).wipeMaterial).Empty :=
  ⟨rfl, rfl, rfl, state_of_isWipe hevent⟩

theorem empty_failClosed (s : Session S) (e : FatalError) : ((s.failClosed e now).1).Empty :=
  empty_wiped (by trivial) s

/-- A session without credential is not locked. -/
theorem Rebuildable.state_ne_locked (h : s.Rebuildable) (hnone : s.credential = none) :
    s.state.state ≠ .locked := by
  intro hlocked
  have hstanding := h.standing
  unfold Standing at hstanding
  rw [hlocked, (h.blank hnone).1] at hstanding
  cases hstanding.2.1

theorem Via.dated (h : s.Via op now s') (hs : s.Dated) : s'.Dated := by
  cases h with
  | keep h =>
    refine ⟨?_, ?_, ?_⟩
    · rw [h.credentialEnvelope, h.ticketEnvelope, StateMachine.Dated, h.deadlines]
      exact hs.deadlines
    · rw [h.credential, h.credentialEnvelope]
      exact hs.credential
    · rw [h.credential, h.credentialEnvelope, h.ticketEnvelope]
      exact hs.blank
  | event he =>
    refine ⟨?_, hs.credential, hs.blank⟩
    rw [StateMachine.Dated, handle, handle_deadlines]
    exact hs.deadlines
  | wipe _ he => exact (empty_wiped he _).dated
  | @ticket base c t response h hc hresponse =>
    obtain ⟨encoded, envelope, hstored, hdecoded, hpeek⟩ := hs.credential c hc
    refine ⟨?_, ?_, ?_⟩
    · change StateMachine.Dated _ base.credentialEnvelope (some response)
      rw [h.credentialEnvelope, hstored]
      exact dated_handle (storedDeadlines_ticket hdecoded hpeek hresponse)
    · change ∀ c, base.credential = some c → Stores c base.credentialEnvelope
      rw [h.credential, h.credentialEnvelope]
      exact hs.credential
    · intro hnone
      have hsame := h.credential
      rw [show base.credential = none from hnone, hc] at hsame
      cases hsame
  | activate h hfree hstores hstate _ _ hc hencoded hticket =>
    obtain ⟨_, envelope, ⟨⟩, hdecoded, hpeek⟩ := hstores
    refine ⟨?_, ?_, ?_⟩
    · -- no ticket is stored, and the response leaves it so
      rw [hstate, hencoded, hticket, (hs.blank hfree).2]
      exact dated_handle (storedDeadlines_credential hdecoded hpeek)
    · rw [hc, hencoded]
      rintro c' ⟨⟩
      exact ⟨_, envelope, rfl, hdecoded, hpeek⟩
    · rw [hc]
      nofun

/-! ### Import -/

/-- The session has the clock and the deadlines of the imported envelopes, reloaded. -/
structure ImportsFrom (m : StateMachine) (s : Session S) (encoded : Wire Envelope)
    (ticket : Option (Wire Envelope)) (now : ℤ) (d : Deadlines) : Prop where
  deadlines : storedDeadlines encoded ticket = some d
  machine : s.state = (m.restored ticket d).reloaded (storedDenial ticket) now
  envelope : s.credentialEnvelope = some encoded
  response : s.ticketEnvelope = ticket
  credential : ∃ c, s.credential = some c ∧ Stores c (some encoded)

/-- Telling the session of a stored verdict finishes its reload. -/
theorem deny_state (s : Session S) (verdict : Verdict) (now : ℤ) :
    (((s.handle .credentialLoaded now).handle .tick now).deny (some verdict) now).state =
      s.state.reloaded (if verdict = .ok then none else some verdict) now := by
  cases verdict <;> rfl

@[simp] theorem deny_ticketEnvelope (s : Session S) (verdict : Option Verdict) (now : ℤ) :
    (s.deny verdict now).ticketEnvelope = s.ticketEnvelope := by
  rcases verdict with _ | verdict
  · rfl
  · cases verdict <;> rfl

/-- A ticket that is restored has been opened and its server time observed; otherwise the session
ends empty. -/
theorem restoreTicket_spec (hempty : s.Empty) (chain : VerifiedChain S.sig) (c : MachineCredential)
    (material : S.Material) (response : Wire Envelope) (now : ℤ) :
    match s.restoreTicket config chain c material response now with
    | .error ended => ended.1.Empty
    | .ok (s', _, t) => storedTicket response = some t ∧
        s'.state = { s.state with clock := s.state.clock.observeServerTime t.serverTime } ∧
        s'.ticketEnvelope = some response := by
  fun_cases s.restoreTicket config chain c material response now with
  | case4 => exact hempty
  | case6 envelope henvelope ticket hticket _ _ clock _ hcheck
  | case7 envelope henvelope ticket hticket _ _ clock _ hcheck =>
    have hresponse : storedTicket response = some ticket :=
      storedTicket_eq (orFatal_eq_ok.1 henvelope) (openOnline_eq_ok hticket)
    obtain ⟨-, -, -, -, rfl⟩ := checkTicket_eq_ok hcheck
    exact ⟨hresponse, rfl, rfl⟩
  | _ => exact empty_failClosed s _

/-- Loading an imported credential ends with an empty session, or with one rebuilt from the
envelopes. -/
theorem loadCredential_cases (anchors : TrustAnchors S) (hempty : s.Empty) (encoded : Wire Envelope)
    (ticket : Option (Wire Envelope)) (now : ℤ) :
    ((s.loadCredential config anchors encoded ticket now).1).Empty ∨
      ∃ d, ImportsFrom s.state (s.loadCredential config anchors encoded ticket now).1 encoded ticket
        now d := by
  have hobserved (c : MachineCredential) : (s.observeCredential c).Empty :=
    ⟨hempty.credential, hempty.credentialEnvelope, hempty.ticketEnvelope, hempty.state⟩
  fun_cases s.loadCredential config anchors encoded ticket now with
  | case1 => exact .inl hempty
  | case2 | case3 => exact .inl (empty_failClosed s _)
  | case4 _ _ _ _ _ _ c material hopen =>
    obtain ⟨envelope, hdecoded, hpeek, -⟩ := openCredential_eq_ok hopen
    refine .inr ⟨credentialDeadlines c, ?_, rfl, rfl, ?_, c, rfl, encoded, envelope, rfl, hdecoded,
      hpeek⟩
    · exact storedDeadlines_credential hdecoded hpeek
    · exact hempty.ticketEnvelope
  | case5 _ _ _ _ chain _ c material _ _ response ended hended =>
    have hfinal := restoreTicket_spec config (hobserved c) chain c material response now
    rw [hended] at hfinal
    exact .inl hfinal
  | case6 _ _ _ _ chain _ c material hopen _ response s' material' t hrestored =>
    obtain ⟨envelope, hdecoded, hpeek, -⟩ := openCredential_eq_ok hopen
    have hspec := restoreTicket_spec config (hobserved c) chain c material response now
    rw [hrestored] at hspec
    obtain ⟨hticket, hstate, hresponse⟩ := hspec
    refine .inr ⟨deadlinesFromTicket c t, ?_, ?_, rfl, ?_, c, rfl, encoded, envelope, rfl, hdecoded,
      hpeek⟩
    · exact storedDeadlines_ticket hdecoded hpeek hticket
    · rw [storedDenial_of_ticket hticket, StateMachine.restored, storedClock_of_ticket hticket]
      change (deny _ (some t.verdict) now).state = _
      rw [deny_state { s' with state := s'.state.setDeadlines (deadlinesFromTicket c t) }, hstate]
      rfl
    · simp only [finishImport, deny_ticketEnvelope]
      exact hresponse

theorem clock_of_check {snap : SessionSnapshot} {device : Option DeviceKeys}
    (h : snap.check S = some (device, clock)) :
    snap.clock = some clock ∧ clock.lastSeenMax = snap.lastSeenMax := by
  unfold SessionSnapshot.check at h
  split at h
  next device' clock' hdevice hclock =>
    split_ifs at h
    cases h
    refine ⟨hclock, ?_⟩
    unfold SessionSnapshot.clock ClockState.fromPersisted at hclock
    split_ifs at hclock
    cases hclock
    rfl
  · cases h

/-- An import is refused, or the session has taken over the clock of the snapshot and then holds
nothing or what it has opened again. -/
theorem snapshotImport_cases (anchors : TrustAnchors S) (h : s.Dated) (blob : SnapshotBlob)
    (now : ℤ) :
    let s' := (s.snapshotImport config anchors blob now).1
    s' = s ∨ (s.credential = none ∧ (s'.Empty ∨
      ∃ snap encoded clock d, blob.decoded = some snap ∧
        snap.credentialEnvelope = some encoded ∧ snap.clock = some clock ∧
        clock.lastSeenMax = snap.lastSeenMax ∧
        ImportsFrom { StateMachine.new config.core snap.lastSeenMax with clock } s' encoded
          snap.ticketEnvelope now d)) := by
  fun_cases s.snapshotImport config anchors blob now with
  | case5 hfree =>
    have hnone : s.credential = none := by simpa using (not_or.1 hfree).2
    exact .inr ⟨hnone, .inl ⟨hnone, (h.blank hnone).1, (h.blank hnone).2, rfl, nofun⟩⟩
  | case6 hfree _ snap hsnap device clock hcheck restored encoded hencoded =>
    have hnone : s.credential = none := by simpa using (not_or.1 hfree).2
    have hempty : restored.Empty := ⟨hnone, (h.blank hnone).1, (h.blank hnone).2, rfl, nofun⟩
    refine .inr ⟨hnone, ?_⟩
    obtain hended | ⟨d, hfrom⟩ :=
      loadCredential_cases config anchors hempty encoded snap.ticketEnvelope now
    · exact .inl hended
    · obtain ⟨hclock, hmark⟩ := clock_of_check hcheck
      exact .inr ⟨snap, encoded, clock, d, hsnap, hencoded, hclock, hmark, hfrom⟩
  | _ => exact .inl rfl

end Session

/-! ### Runs -/

/-- The event of an operation does not lock the machine for a reason that is not exported. -/
def SessionOp.Steady (m : StateMachine) (now : ℤ) : SessionOp → Prop
  | .event .tick | .event (.appResumed _) | .deriveM _ _ | .unsealAsset _ _ =>
    m.LocksOut now → m.state = .locked
  | .event .networkFailed => ¬ m.LocksEarly now
  | _ => True

/-- An operation at a time that fits its word, that is steady and does not import a session whose
exported count of rollbacks locks it. -/
structure SessionCall.Regular (config : Config) (anchors : TrustAnchors S) (s : Session S)
    (call : SessionCall) : Prop where
  fits : call.now ≤ signedMax 64
  steady : call.op.Steady s.state call.now
  imported : ∀ blob snap clock, call.op = .snapshotImport blob → blob.decoded = some snap →
    snap.clock = some clock → s.credential = none →
    (s.step config anchors call).credential.isSome = true →
    ¬ RestoredLock config.core clock snap.ticketEnvelope call.now

namespace Session

theorem step_dated (call : SessionCall) (h : s.Dated) : (s.step config anchors call).Dated := by
  cases hop : call.op with
  | snapshotImport blob =>
    unfold step answer
    simp only [hop]
    obtain hsame | ⟨-, hempty | ⟨snap, encoded, clock, d, -, -, -, -, hfrom⟩⟩ :=
      snapshotImport_cases config anchors h blob call.now
    · rw [hsame]
      exact h
    · exact hempty.dated
    · obtain ⟨c, hc, hstores⟩ := hfrom.credential
      refine ⟨?_, ?_, ?_⟩
      · rw [hfrom.machine, hfrom.envelope, hfrom.response]
        exact dated_reloaded hfrom.deadlines
      · rw [hc, hfrom.envelope]
        rintro c' ⟨⟩
        exact hstores
      · rw [hc]
        nofun
  | _ => exact (step_via anchors s (by rw [hop]; rfl)).dated h

/-- A steady operation passes no event that locks the machine for a reason that is not exported. -/
theorem Rebuildable.event (h : s.Rebuildable) {e : Event}
    (he : op.passes = some e) (hfits : now ≤ signedMax 64) (hsteady : op.Steady s.state now) :
    ((s.state.handle e now).1).Standing (s.credentialEnvelope.isSome)
      ((storedDenial s.ticketEnvelope).isSome) := by
  have hstanding := h.standing
  cases op with
  | deriveM | unsealAsset =>
    cases he
    exact hstanding.timed rfl hfits hsteady
  | event kind =>
    cases kind with
    | userDeactivate => cases he
    | networkAvailable =>
      cases he
      exact hstanding.networkAvailable
    | networkFailed =>
      cases he
      exact hstanding.networkFailed .offline hsteady
    | tick | appResumed =>
      cases he
      exact hstanding.timed rfl hfits hsteady
  | _ => cases he

theorem Via.standing (h : s.Via op now s')
    (hs : s.Rebuildable) (hfits : now ≤ signedMax 64) (hsteady : op.Steady s.state now) :
    s'.state.Standing (s'.credentialEnvelope.isSome)
      ((storedDenial s'.ticketEnvelope).isSome) := by
  have hstanding := hs.standing
  cases h with
  | keep h =>
    rw [h.credentialEnvelope, h.ticketEnvelope]
    exact hstanding.congr h.state h.hasCredential h.deadlines h.clock
  | event he => exact hs.event he hfits hsteady
  | wipe _ he => exact (empty_wiped he _).rebuildable.standing
  | @ticket base c t response h hc hresponse =>
    obtain ⟨encoded, -, hstored, -⟩ := hs.credential c hc
    change Standing _ (base.credentialEnvelope.isSome)
      ((storedDenial (some response)).isSome)
    rw [h.credentialEnvelope]
    refine hstanding.withTicket (by rw [hstored]; rfl) ?_ ?_ hresponse ?_
    · exact h.state
    · exact h.hasCredential
    · cases t.verdict with
      | ok => exact .inl ⟨rfl, rfl⟩
      | needsReactivation | versionOutOfScope => exact .inr ⟨nofun, rfl⟩
  | activate h hfree hstores hstate _ _ hc hencoded hticket =>
    rw [hstate, hencoded]
    exact hstanding.activated (hs.state_ne_locked hfree) h.state h.hasCredential rfl

theorem step_rebuildable (h : s.Rebuildable)
    (hregular : call.Regular config anchors s) : (s.step config anchors call).Rebuildable := by
  obtain ⟨hfits, hsteady, himported⟩ := hregular
  refine ⟨step_dated call h.toDated, ?_⟩
  cases hop : call.op with
  | snapshotImport blob =>
    unfold step answer at himported ⊢
    simp only [hop] at himported ⊢
    obtain hsame | ⟨hnone, hempty | ⟨snap, encoded, clock, d, hsnap, -, hclock, -, hfrom⟩⟩ :=
      snapshotImport_cases config anchors h.toDated blob call.now
    · rw [hsame]
      exact h.standing
    · exact hempty.rebuildable.standing
    · obtain ⟨c, hc, -⟩ := hfrom.credential
      have hrest := himported blob snap clock rfl hsnap hclock hnone (by rw [hc]; rfl)
      rw [hfrom.machine, hfrom.envelope, hfrom.response]
      exact standing_reloaded rfl hfits rfl id hrest
  | _ => exact (step_via anchors s (by rw [hop]; rfl)).standing h hfits hsteady

/-- In every run the deadlines and the credential of the session are those of its envelopes. -/
theorem exec_dated (config : Config) (anchors : TrustAnchors S) (seedNow : ℤ)
    (calls : List SessionCall) :
    (exec (step config anchors) (new config seedNow) calls).Dated :=
  exec_induction (I := Dated) _ (fun _ call h => step_dated call h) (empty_new config seedNow).dated
    calls

theorem exec_rebuildable {seedNow : ℤ} {calls : List SessionCall}
    (hregular : Along (step config anchors) (SessionCall.Regular config anchors)
      (new config seedNow) calls) :
    (exec (step config anchors) (new config seedNow) calls).Rebuildable :=
  exec_induction_along (I := Rebuildable) (P := SessionCall.Regular config anchors)
    (fun _ _ h hcall => step_rebuildable h hcall) (empty_new config seedNow).rebuildable hregular

/-- A session that does not permit keys is not imported into one that does: whenever its snapshot
is imported into a fresh session, and whenever that is then ticked. -/
theorem Rebuildable.not_permits_of_imported (h : s.Rebuildable) (config : Config)
    (anchors : TrustAnchors S) {blob : SnapshotBlob}
    (hfits : s.state.deadlines.refreshAfter ≤ signedMax 64)
    (hbarred : s.state.permitsKeyDerivation = false)
    (hexport : s.snapshotExport = .ok blob) (seedNow started t : ℤ) :
    ((((new config seedNow : Session S).snapshotImport config anchors blob started).1).handle
      .tick t).state.permitsKeyDerivation = false := by
  have hdecoded : blob.decoded = some s.snapshot := by
    unfold snapshotExport at hexport
    split_ifs at hexport
    rw [← Except.ok.inj hexport]
  have hnew : (new config seedNow : Session S).Empty := empty_new config seedNow
  obtain hsame | ⟨-, hempty | ⟨snap, encoded, clock, d, hsnap, hencoded, -, hmark, hfrom⟩⟩ :=
    snapshotImport_cases config anchors hnew.dated blob started
  · rw [hsame]
    exact not_permits_tick hnew.state.1
  · exact not_permits_tick hempty.state.1
  · rw [hdecoded] at hsnap
    cases hsnap
    have hmachine : s.state.Rebuildable s.credentialEnvelope s.ticketEnvelope :=
      ⟨h.standing, h.deadlines⟩
    rw [show s.credentialEnvelope = some encoded from hencoded] at hmachine
    rw [handle, hfrom.machine]
    refine hmachine.not_permits hfits hbarred rfl hfrom.deadlines ?_ t
    exact le_of_eq hmark.symm

end Session

end CopyLocker.Wasm
