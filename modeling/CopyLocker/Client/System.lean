import CopyLocker.Client.Operations
import CopyLocker.Core.Stored

/-!
# Runs of the desktop client

A system is a store and, when one is running, a client over it. Its calls are the critical
sections of `CopyLocker.Client.Operations` in any order, and `start`, which replaces the running
client by one constructed from the store. So a run covers every interleaving of the client's
calls with any number of restarts, from any initial contents of the store.

What a section does is said once (`Section.Via`): it leaves the stored credential in place while no
mark decreases, it installs a ticket, it wipes what is stored, or it installs a credential that it
has opened and whose counters the new marks cover. So in every run the marks cover the stored
credential, and the credential in memory is the stored one (`exec_consistent`).

## Main results

* `perform_via`, `perform_sound`: every section does one of these things.
* `exec_consistent`: the running client is consistent in every run.
-/

namespace CopyLocker.Client

open CopyLocker.Core Foundation.Run Proto Section

/-- The sections, and the construction of a client. -/
inductive Operation
  | start (generated : DeviceKeys)
  | featureKey
  | schedulerCycle (onlineHint : Bool)
  | transientFailure (error : TransientError)
  | failClosed (error : FatalError)
  | beginValidate
  | installKeyset (keyset : Keyset)
  | applyBatch (current target : ℕ) (response : Wire Envelope)
  | previewTicket (response : Wire Envelope) (nonce : ByteId 32)
  | acceptTicket (response : Wire Envelope) (nonce : ByteId 32)
  | acceptKillOrder (response : Wire Envelope) (nonce : ByteId 32)
  | ensureDeviceKeys (generated : DeviceKeys)
  | buildOfflineRequest (generated : DeviceKeys) (nonce : ByteId 32) (fits : Bool)
  | beginActivate (generated : DeviceKeys) (fits : Bool)
  | activateInstall (encoded : Wire Envelope) (target : ℕ)
  | importOfflineResponse (bytes : Wire Envelope)
  | importOlk (armored : Except ProtoError OfflineLicenseBundle)
  | userDeactivate

/-- An operation with its time and the behaviour of the store. -/
structure Call where
  now : ℤ
  io : Io
  operation : Operation

/-- A store, and the client that runs over it. -/
structure System (S : CryptoSuite) where
  client : Option (Inner S)
  store : KeyStore

variable {S : CryptoSuite}

/-- A store over which no client runs yet. -/
def System.stopped (S : CryptoSuite) (store : KeyStore) : System S := { client := none, store }

/-- Decode a validation response first; one that cannot be decoded fails closed. -/
def withEnvelope (rt : Runtime S) (store : KeyStore) (io : Io) (response : Wire Envelope) (now : ℤ)
    (body : Envelope → Section S) : Section S :=
  match orFatal response.decoded with
  | .error e => failClosedLocked rt store io e now
  | .ok envelope => body envelope

/-- Run a section of the running client. -/
def perform (config : Config) (inner : Inner S) (store : KeyStore) (c : Call) : Section S :=
  let rt := inner.runtime
  match c.operation with
  | .start _ => { runtime := rt, store, outcome := .ok }
  | .featureKey => featureKey rt store c.io c.now
  | .schedulerCycle onlineHint => schedulerCycle rt store c.io onlineHint c.now
  | .transientFailure error => applyTransientFailure rt store c.io error c.now
  | .failClosed error => failClosedLocked rt store c.io error c.now
  | .beginValidate => beginValidate S rt store c.now
  | .installKeyset keyset => installKeyset config inner.anchors rt store keyset c.now
  | .applyBatch current target response =>
    applyBatch config rt store c.io current target response c.now
  | .previewTicket response nonce =>
    withEnvelope rt store c.io response c.now fun envelope =>
      previewTicket config rt store c.io envelope nonce c.now
  | .acceptTicket response nonce =>
    withEnvelope rt store c.io response c.now fun envelope =>
      acceptTicket config rt store c.io response envelope nonce c.now
  | .acceptKillOrder response nonce =>
    withEnvelope rt store c.io response c.now fun envelope =>
      acceptKillOrder config rt store c.io envelope nonce c.now
  | .ensureDeviceKeys generated =>
    { runtime := ensureDeviceKeys rt generated, store, outcome := .ok }
  | .buildOfflineRequest generated nonce fits =>
    buildOfflineRequest rt store c.io generated nonce fits
  | .beginActivate generated fits => beginActivate rt store c.io generated fits c.now
  | .activateInstall encoded target => activateInstall config rt store c.io encoded target c.now
  | .importOfflineResponse bytes =>
    importOfflineResponse config inner.anchors rt store c.io bytes c.now
  | .importOlk armored => importOlk config inner.anchors rt store c.io armored c.now
  | .userDeactivate => userDeactivateLocked rt store c.io c.now

/-- The system after a section: an aborted client is gone. -/
def Section.system (inner : Inner S) (r : Section S) : System S where
  client := if r.outcome = .aborted then none else some { inner with runtime := r.runtime }
  store := r.store

/-- One call. Without a running client only `start` does anything. -/
def step (config : Config) (sys : System S) (c : Call) : System S :=
  match c.operation with
  | .start generated =>
    { sys with
      client :=
        match construct S config sys.store generated c.now with
        | .ok inner => some inner
        | .error _ => none }
  | _ =>
    match sys.client with
    | none => sys
    | some inner => (perform config inner sys.store c).system inner

/-! ### What a section can do -/

/-- The stored ticket of a runtime. -/
def Runtime.storedTicket (rt : Runtime S) : Option (Wire Envelope) :=
  rt.snapshot.bind (·.validationTicket)

/-- The event that a section tells the state machine while it installs nothing. -/
def Operation.event : Operation → Option Event
  | .featureKey | .schedulerCycle false => some .tick
  | .schedulerCycle true => some .networkAvailable
  | .transientFailure error => some (.networkFailed error)
  | _ => none

/-- What is stored and held stays: the state machine learns of an event, or its clock moves. -/
structure Keeps (op : Operation) (now : ℤ) (rt rt' : Runtime S) : Prop where
  stored : rt'.storedEnvelope = rt.storedEnvelope
  ticket : rt'.storedTicket = rt.storedTicket
  credential : rt'.credential = rt.credential
  olk : rt'.olk = rt.olk
  marks : MarksLE rt rt'
  snapshot : rt'.snapshot = none → rt.snapshot = none
  state : (∃ e, op.event = some e ∧ rt'.state = (rt.state.handle e now).1) ∨
    (rt'.state.state = rt.state.state ∧ rt'.state.hasCredential = rt.state.hasCredential ∧
      rt'.state.deadlines = rt.state.deadlines ∧
      rt.state.clock.lastSeenMax ≤ rt'.state.clock.lastSeenMax)

/-- What a section makes of the runtime, unless it wipes it. An import installs only where nothing
is held. -/
inductive RuntimeStep (op : Operation) (now : ℤ) (rt : Runtime S) : Runtime S → Prop
  | keep {rt' : Runtime S} (h : Keeps op now rt rt') : RuntimeStep op now rt rt'
  | ticket {c : MachineCredential} {t : ValidationTicket} {response : Wire Envelope}
      {clock : ClockState} {snapshot : Option ClientSnapshot} (hc : rt.credential = some c)
      (hresponse : storedTicket response = some t)
      (hsnapshot : snapshot = rt.snapshot.map fun s =>
        { s with validationTicket := some response }) :
      RuntimeStep op now rt
        { ((rt.withClock clock).withTicket c t).handle (ticketEvent t.verdict) now with snapshot }
  | install {rt' : Runtime S} {encoded : Wire Envelope} {envelope : Envelope} {m : StateMachine}
      (hfree : (∃ encoded target, op = .activateInstall encoded target) ∨ ¬ rt.isActivated = true)
      (hstored : rt'.storedEnvelope = some encoded) (hticket : rt'.storedTicket = none)
      (hdecoded : encoded.decoded = .ok envelope)
      (hcredential : ∀ c, rt'.credential = some c →
        envelope.peekUnverified MachineCredential = .ok c)
      (hheld : rt'.isActivated = true) (hmarks : WithinMarks rt' envelope)
      (hstate : rt'.state = (m.handle .activationVerified now).1) (hm : m.state = rt.state.state)
      (hhas : m.hasCredential = rt.state.hasCredential)
      (hdeadlines : storedDeadlines encoded none = some m.deadlines) : RuntimeStep op now rt rt'

/-- What a section does: it leaves the store alone, writes the new runtime to it, or wipes both. -/
inductive Section.Via (op : Operation) (now : ℤ) (io : Io) (rt : Runtime S) (store : KeyStore)
    (r : Section S) : Prop
  | kept (h : RuntimeStep op now rt r.runtime) (hstore : r.store = store)
  | written (h : RuntimeStep op now rt r.runtime) {record : StoreRecord}
      (hstore : r.store = some record) (hrecorded : Recorded r.runtime record)
  | wiped {before : Runtime S} {event : Event} (hevent : StateMachine.IsWipe event)
      (hruntime : r.runtime = before.wiped event now) (hstore : r.store = store.wipe io.wipes)

section Via

variable {op : Operation} {rt rt' : Runtime S} {store : KeyStore} {io : Io} {now : ℤ}

theorem MarksLE.refl (rt : Runtime S) : MarksLE rt rt := ⟨Nat.le_refl _, Nat.le_refl _⟩

theorem Keeps.refl (op : Operation) (now : ℤ) (rt : Runtime S) : Keeps op now rt rt :=
  ⟨rfl, rfl, rfl, rfl, .refl rt, id, .inr ⟨rfl, rfl, rfl, le_rfl⟩⟩

theorem RuntimeStep.refl (rt : Runtime S) : RuntimeStep op now rt rt := .keep (.refl op now rt)

theorem RuntimeStep.event {e : Event} (h : op.event = some e) :
    RuntimeStep op now rt (rt.handle e now) :=
  .keep { Keeps.refl op now rt with state := .inl ⟨e, h, rfl⟩ }

variable {snapshot : ClientSnapshot}

/-- The snapshot changes, but neither in its credential nor in its ticket. -/
theorem Keeps.withSnapshot {snapshot' : ClientSnapshot} (h : Keeps op now rt rt')
    (hsnapshot : rt'.snapshot = some snapshot)
    (hstored : snapshot'.credentialEnvelope = snapshot.credentialEnvelope)
    (hticket : snapshot'.validationTicket = snapshot.validationTicket) :
    Keeps op now rt { rt' with snapshot := some snapshot' } where
  stored := by
    rw [← h.stored]
    simp [Runtime.storedEnvelope, hsnapshot, hstored]
  ticket := by
    rw [← h.ticket]
    simp [Runtime.storedTicket, hsnapshot, hticket]
  credential := h.credential
  olk := h.olk
  marks := h.marks
  snapshot hnone := by cases hnone
  state := h.state

theorem via_persisting (h : RuntimeStep op now rt rt') (outcome : Outcome) :
    Via op now io rt store (persisting rt' store io outcome) := by
  unfold persisting
  split
  · exact .kept h rfl
  next store' hpersist =>
    obtain ⟨record, hrecord, hrecorded⟩ := persistLocked_eq_ok hpersist
    exact .written h hrecord hrecorded

theorem via_failClosedLocked (rt' : Runtime S) (error : FatalError) :
    Via op now io rt store (failClosedLocked rt' store io error now) :=
  .wiped (by trivial) rfl rfl

theorem featureKey_via : Via .featureKey now io rt store (featureKey rt store io now) := by
  have hticked : RuntimeStep .featureKey now rt (rt.handle .tick now) := .event rfl
  fun_cases featureKey rt store io now with
  | case3 _ snapshot _ store' hpersist =>
    obtain ⟨record, hrecord, hrecorded⟩ := persistLocked_eq_ok hpersist
    exact .written hticked hrecord hrecorded
  | _ => exact .kept hticked rfl

theorem schedulerCycle_via (onlineHint : Bool) :
    Via (.schedulerCycle onlineHint) now io rt store
      (schedulerCycle rt store io onlineHint now) := by
  have hmove : RuntimeStep (.schedulerCycle onlineHint) now rt
      (rt.handle (if onlineHint then .networkAvailable else .tick) now) :=
    .event (by cases onlineHint <;> rfl)
  have hvia : Via _ now io rt store (persisting _ store io .ok) := via_persisting hmove .ok
  cases hvia with
  | kept h hstore => exact .kept h hstore
  | written h hstore hrecorded => exact .written h hstore hrecorded
  | wiped hevent hruntime hstore => exact .wiped hevent hruntime hstore

theorem beginValidate_via : Via op now io rt store (beginValidate S rt store now) := by
  have hnoted : RuntimeStep op now rt { rt with state := rt.state.noteValidationAttempt now } :=
    .keep { Keeps.refl op now rt with state := .inr ⟨rfl, rfl, rfl, le_rfl⟩ }
  fun_cases beginValidate S rt store now <;> exact .kept hnoted rfl

theorem installKeyset_via (config : Config) (anchors : TrustAnchors S) (keyset : Keyset) :
    Via op now io rt store (installKeyset config anchors rt store keyset now) := by
  fun_cases installKeyset config anchors rt store keyset now with
  | case3 snapshot hsnapshot chain =>
    have hkeeps : Keeps op now rt { rt with chain := some chain } := { Keeps.refl op now rt with }
    exact .kept (.keep (hkeeps.withSnapshot hsnapshot rfl rfl)) rfl
  | _ => exact .kept (.refl rt) rfl

/-- A batch moves the revocation mark to its own end, which lies beyond it. -/
theorem applyBatch_via (config : Config) (current target : ℕ) (response : Wire Envelope) :
    Via op now io rt store (applyBatch config rt store io current target response now) := by
  rcases applyBatch_cases config rt store io current target response now with ⟨error, -, heq⟩ |
    ⟨-, heq⟩ |
    ⟨envelope, chain, batch, snapshot, revocation, -, hcurrent, -, -, hfine, hsnapshot, heq⟩
  · rw [heq]
    exact .kept (.refl rt) rfl
  · rw [heq]
    exact .kept (.refl rt) rfl
  · rw [heq]
    have hmarks : rt.maxRevocationEpoch ≤ batch.toEpoch := by
      simp only [batchRefused, not_or] at hfine
      omega
    have hkeeps : Keeps op now rt
        { rt with chain := some { chain with revocation }, maxRevocationEpoch := batch.toEpoch } :=
      { Keeps.refl op now rt with marks := ⟨Nat.le_refl _, hmarks⟩ }
    unfold concludeBatch
    split
    · exact .wiped (show StateMachine.IsWipe (.killOrderVerified _) from trivial) rfl rfl
    · refine via_persisting (.keep (hkeeps.withSnapshot hsnapshot ?_ ?_)) _
      · rfl
      · rfl

theorem previewTicket_via (config : Config) (envelope : Envelope) (nonce : ByteId 32) :
    Via op now io rt store (previewTicket config rt store io envelope nonce now) := by
  fun_cases previewTicket config rt store io envelope nonce now with
  | case3 | case5 => exact .kept (.refl rt) rfl
  | _ => exact via_failClosedLocked rt _

variable {config : Config} {envelope : Envelope}

theorem openOnline_eq_ok {α : Type} [Artifact α] {a : α}
    (h : openOnline α config rt envelope now = .ok a) : envelope.peekUnverified α = .ok a := by
  unfold openOnline at h
  split at h
  · cases h
  · exact VerifiedChain.peek_of_verifyArtifactFast (orFatal_eq_ok.1 h)

variable {response : Wire Envelope}

theorem acceptTicket_via (config : Config)
    (hdecoded : response.decoded = .ok envelope) (nonce : ByteId 32) :
    Via op now io rt store (acceptTicket config rt store io response envelope nonce now) := by
  fun_cases acceptTicket config rt store io response envelope nonce now with
  | case1 | case3 => exact .kept (.refl rt) rfl
  | case2 | case4 => exact via_failClosedLocked rt _
  | case5 c hc t ht clock _ hcheck =>
    have hclock : rt.state.clock.lastSeenMax ≤ clock.lastSeenMax := by
      unfold checkOnlineTicket at hcheck
      split at hcheck
      · cases hcheck
      · obtain ⟨-, -, -, -, hclock⟩ := checkTicket_eq_ok hcheck
        rw [hclock]
        exact rt.state.clock.lastSeenMax_le_observeServerTime _
    -- the clock has moved, and nothing else that is stored
    exact .kept (.keep ⟨rfl, rfl, rfl, rfl, marksLE_raise rt _ _, id, .inr ⟨rfl, rfl, rfl, hclock⟩⟩)
      rfl
  | case6 c hc t ht _ _ _ _ _ _ _ hnone =>
    refine .kept (.ticket hc (storedTicket_eq hdecoded (openOnline_eq_ok ht)) ?_) rfl
    rw [show rt.snapshot = none from hnone]
    exact hnone
  | case7 c hc t ht _ _ _ _ _ _ _ snapshot hsnapshot =>
    refine via_persisting (.ticket hc (storedTicket_eq hdecoded (openOnline_eq_ok ht)) ?_) _
    rw [show rt.snapshot = some snapshot from hsnapshot]
    rfl

theorem acceptKillOrder_via (config : Config) (envelope : Envelope) (nonce : ByteId 32) :
    Via op now io rt store (acceptKillOrder config rt store io envelope nonce now) := by
  fun_cases acceptKillOrder config rt store io envelope nonce now with
  | case1 => exact .kept (.refl rt) rfl
  | case7 => exact .wiped (show StateMachine.IsWipe (.killOrderVerified _) from trivial) rfl rfl
  | _ => exact via_failClosedLocked rt _

theorem keeps_ensureDeviceKeys (op : Operation) (now : ℤ) (rt : Runtime S)
    (generated : DeviceKeys) : Keeps op now rt (ensureDeviceKeys rt generated) := by
  refine ⟨?_, ?_, rfl, rfl, .refl rt, nofun, .inr ⟨rfl, rfl, rfl, le_rfl⟩⟩
  · unfold ensureDeviceKeys Runtime.storedEnvelope
    cases rt.snapshot <;> rfl
  · unfold ensureDeviceKeys Runtime.storedTicket
    cases rt.snapshot <;> rfl

theorem buildOfflineRequest_via (generated : DeviceKeys) (nonce : ByteId 32) (fits : Bool) :
    Via op now io rt store (buildOfflineRequest rt store io generated nonce fits) := by
  have hkeys := keeps_ensureDeviceKeys op now rt generated
  fun_cases buildOfflineRequest rt store io generated nonce fits with
  | case4 _ _ snapshot hsnapshot =>
    refine via_persisting (.keep (hkeys.withSnapshot hsnapshot ?_ ?_)) _
    · rfl
    · rfl
  | _ => exact .kept (.keep hkeys) rfl

theorem beginActivate_via (generated : DeviceKeys) (fits : Bool) :
    Via op now io rt store (beginActivate rt store io generated fits now) := by
  have hkeys := keeps_ensureDeviceKeys op now rt generated
  unfold beginActivate
  fun_cases requestActivation (ensureDeviceKeys rt generated) store io fits now with
  | case3 => exact via_failClosedLocked _ _
  | _ => exact .kept (.keep hkeys) rfl

theorem activateInstall_via (config : Config) (encoded : Wire Envelope) (target : ℕ) :
    Via (.activateInstall encoded target) now io rt store
      (activateInstall config rt store io encoded target now) := by
  fun_cases activateInstall config rt store io encoded target now with
  | case1 => exact .kept (.refl rt) rfl
  | case4 snapshot _ chain _ c material hopen =>
    obtain ⟨envelope, hdecoded, hpeek, -⟩ := openCredential_eq_ok hopen
    have hmarks := withinMarks_withCredential rt material chain hpeek
    refine via_persisting ?_ _
    refine .install (.inl ⟨encoded, target, rfl⟩) rfl rfl hdecoded ?_ rfl
      (hmarks.mono (marksLE_raise _ 0 target)) rfl rfl rfl
      (storedDeadlines_credential hdecoded hpeek)
    rintro c' ⟨⟩
    exact hpeek
  | _ => exact via_failClosedLocked rt _

variable {anchors : TrustAnchors S} {material : S.Material} {chain : VerifiedChain S.sig}

private theorem openOfflineResponse_eq_ok
    {unverified response : ActivationResponse} {pendingNonce : ByteId 32} {c : MachineCredential}
    (h : openOfflineResponse config anchors rt snapshot envelope unverified pendingNonce now =
      .ok (response, c, material, chain)) :
    ∃ envelope', response.credential.decoded = .ok envelope' ∧
      envelope'.peekUnverified MachineCredential = .ok c := by
  unfold openOfflineResponse at h
  simp only [bind, Except.bind] at h
  iterate 5
    split at h
    · cases h
  next opened hopen =>
  cases h
  obtain ⟨envelope', hdecoded, hpeek, -⟩ := openCredential_eq_ok hopen
  exact ⟨envelope', hdecoded, hpeek⟩

theorem importOfflineResponse_via (config : Config) (anchors : TrustAnchors S)
    (bytes : Wire Envelope) :
    Via op now io rt store (importOfflineResponse config anchors rt store io bytes now) := by
  fun_cases importOfflineResponse config anchors rt store io bytes now with
  | case3 | case4 | case5 => exact .kept (.refl rt) rfl
  | case7 _ _ _ _ hfree _ _ _ _ response c material chain hopen timed =>
    obtain ⟨envelope', hdecoded, hpeek⟩ := openOfflineResponse_eq_ok hopen
    have hmarks := withinMarks_withCredential timed material chain hpeek
    refine via_persisting ?_ _
    refine .install (.inr hfree) rfl rfl hdecoded ?_ rfl hmarks rfl rfl rfl
      (storedDeadlines_credential hdecoded hpeek)
    rintro c' ⟨⟩
    exact hpeek
  | _ => exact via_failClosedLocked rt _

theorem openBundle_eq_ok {bundle : OfflineLicenseBundle} {preview l : OfflineLicenseKey}
    (h : openBundle config anchors rt bundle envelope preview now = .ok (l, material, chain)) :
    rt.snapshot ≠ none ∧ envelope.peekUnverified OfflineLicenseKey = .ok l := by
  unfold openBundle at h
  split at h
  · cases h
  next snapshot hsnapshot =>
  dsimp only at h
  split at h
  · cases h
  split at h
  · cases h
  next l' material' hopen =>
  cases h
  refine ⟨?_, (openOfflineLicense_eq_ok hopen).1⟩
  rw [hsnapshot]
  exact Option.some_ne_none snapshot

theorem importOlk_via (config : Config) (anchors : TrustAnchors S)
    (armored : Except ProtoError OfflineLicenseBundle) :
    Via op now io rt store (importOlk config anchors rt store io armored now) := by
  fun_cases importOlk config anchors rt store io armored now with
  | case3 | case5 | case6 => exact .kept (.refl rt) rfl
  | case8 bundle _ envelope henvelope _ _ _ hfree l material chain hopen timed =>
    obtain ⟨hsome, hpeek⟩ := openBundle_eq_ok hopen
    obtain ⟨snapshot, hsnapshot⟩ := Option.ne_none_iff_exists'.1 hsome
    have htimed : timed.snapshot = some snapshot := hsnapshot
    have hdecoded := orFatal_eq_ok.1 henvelope
    have hmarks := withinMarks_withOlk timed material chain hpeek
    refine via_persisting ?_ _
    refine .install (.inr hfree) ?_ ?_ hdecoded ?_ rfl hmarks rfl rfl rfl
      (storedDeadlines_olk hdecoded hpeek)
    · simp [Runtime.storedEnvelope, htimed]
    · simp [Runtime.storedTicket, htimed]
    · rintro c ⟨⟩
  | _ => exact via_failClosedLocked rt _

private theorem withEnvelope_via {body : Envelope → Section S}
    (h : ∀ envelope, response.decoded = .ok envelope → Via op now io rt store (body envelope)) :
    Via op now io rt store (withEnvelope rt store io response now body) := by
  unfold withEnvelope
  split
  · exact via_failClosedLocked rt _
  next envelope henvelope => exact h envelope (orFatal_eq_ok.1 henvelope)

end Via

/-- What each section does. -/
theorem perform_via (config : Config) (inner : Inner S) (store : KeyStore) (c : Call) :
    Via c.operation c.now c.io inner.runtime store (perform config inner store c) := by
  unfold perform
  cases c.operation with
  | start => exact .kept (.refl _) rfl
  | featureKey => exact featureKey_via
  | schedulerCycle onlineHint => exact schedulerCycle_via onlineHint
  | transientFailure error => exact via_persisting (.event rfl) _
  | failClosed error => exact via_failClosedLocked _ error
  | beginValidate => exact beginValidate_via
  | installKeyset keyset => exact installKeyset_via config inner.anchors keyset
  | applyBatch current target response => exact applyBatch_via config current target response
  | previewTicket response nonce =>
    exact withEnvelope_via fun envelope _ => previewTicket_via config envelope nonce
  | acceptTicket response nonce =>
    exact withEnvelope_via fun envelope hdecoded => acceptTicket_via config hdecoded nonce
  | acceptKillOrder response nonce =>
    exact withEnvelope_via fun envelope _ => acceptKillOrder_via config envelope nonce
  | ensureDeviceKeys generated => exact .kept (.keep (keeps_ensureDeviceKeys _ _ _ generated)) rfl
  | buildOfflineRequest generated nonce fits => exact buildOfflineRequest_via generated nonce fits
  | beginActivate generated fits => exact beginActivate_via generated fits
  | activateInstall encoded target => exact activateInstall_via config encoded target
  | importOfflineResponse bytes => exact importOfflineResponse_via config inner.anchors bytes
  | importOlk armored => exact importOlk_via config inner.anchors armored
  | userDeactivate => exact .wiped (show StateMachine.IsWipe .userDeactivate from trivial) rfl rfl

/-! ### The stored credential -/

/-- What a section can do to the stored credential, the one in memory and the marks. -/
inductive Change (rt rt' : Runtime S) : Prop
  | keep (hstored : rt'.storedEnvelope = rt.storedEnvelope)
      (hcredential : rt'.credential = rt.credential) (hmarks : MarksLE rt rt')
  | wipe (hstored : rt'.storedEnvelope = none) (hcredential : rt'.credential = none)
  | install (encoded : Wire Envelope) (envelope : Envelope)
      (hstored : rt'.storedEnvelope = some encoded) (hdecoded : encoded.decoded = .ok envelope)
      (hcredential : ∀ c, rt'.credential = some c →
        envelope.peekUnverified MachineCredential = .ok c)
      (hmarks : WithinMarks rt' envelope)

/-- A section changes the stored credential in one of the three ways, and leaves the store alone,
wipes it or writes the new runtime to it. -/
structure Section.Sound (rt : Runtime S) (store : KeyStore) (r : Section S) : Prop where
  change : Change rt r.runtime
  store : r.store = store ∨ (r.store = none ∧ r.runtime.storedEnvelope = none) ∨
    ∃ record, r.store = some record ∧ Recorded r.runtime record

variable {rt : Runtime S} {now : ℤ} {rt' : Runtime S}

theorem RuntimeStep.change {op : Operation} (h : RuntimeStep op now rt rt') : Change rt rt' := by
  cases h with
  | keep h => exact .keep h.stored h.credential h.marks
  | ticket hc hresponse hsnapshot =>
    refine .keep ?_ rfl (marksLE_raise rt _ _)
    rw [Runtime.storedEnvelope, hsnapshot, Runtime.storedEnvelope]
    cases rt.snapshot <;> rfl
  | install _ hstored _ hdecoded hcredential _ hmarks =>
    exact .install _ _ hstored hdecoded hcredential hmarks

/-- Every section does one of the three things to the stored credential. -/
theorem perform_sound (config : Config) (inner : Inner S) (store : KeyStore) (c : Call) :
    Sound inner.runtime store (perform config inner store c) := by
  cases perform_via config inner store c with
  | kept h hstore => exact ⟨h.change, .inl hstore⟩
  | written h hstore hrecorded => exact ⟨h.change, .inr (.inr ⟨_, hstore, hrecorded⟩)⟩
  | wiped hevent hruntime hstore =>
    rw [KeyStore.wipe] at hstore
    refine ⟨.wipe (by rw [hruntime]; rfl) (by rw [hruntime]; rfl), ?_⟩
    split_ifs at hstore
    · exact .inr (.inl ⟨hstore, by rw [hruntime]; rfl⟩)
    · exact .inl hstore

/-! ### Consistent clients -/

/-- The envelope is stored and its body is this machine credential. -/
def Stores (c : MachineCredential) (stored : Option (Wire Envelope)) : Prop :=
  ∃ encoded envelope, stored = some encoded ∧ encoded.decoded = .ok envelope ∧
    envelope.peekUnverified MachineCredential = .ok c

/-- The marks cover the stored credential, and the credential in memory is the stored one. -/
structure Runtime.Consistent (rt : Runtime S) : Prop where
  marked : ∀ encoded envelope, rt.storedEnvelope = some encoded → encoded.decoded = .ok envelope →
    WithinMarks rt envelope
  credential : ∀ c, rt.credential = some c → Stores c rt.storedEnvelope

theorem Runtime.Consistent.of_stored {encoded : Wire Envelope} {envelope : Envelope}
    (hstored : rt.storedEnvelope = some encoded) (hdecoded : encoded.decoded = .ok envelope)
    (hmarks : WithinMarks rt envelope)
    (hcredential : ∀ c, rt.credential = some c →
      envelope.peekUnverified MachineCredential = .ok c) :
    rt.Consistent where
  marked := by
    intro encoded' envelope' hstored' hdecoded'
    rw [hstored] at hstored'
    cases hstored'
    rw [hdecoded] at hdecoded'
    cases hdecoded'
    exact hmarks
  credential c hc := ⟨encoded, envelope, hstored, hdecoded, hcredential c hc⟩

theorem Runtime.Consistent.of_blank (hstored : rt.storedEnvelope = none)
    (hcredential : rt.credential = none) :
    rt.Consistent where
  marked := by
    intro encoded envelope hencoded
    rw [hstored] at hencoded
    cases hencoded
  credential := by
    intro c hc
    rw [hcredential] at hc
    cases hc

theorem Change.consistent (h : Change rt rt') (hrt : rt.Consistent) : rt'.Consistent := by
  cases h with
  | keep hstored hcredential hmarks =>
    constructor
    · intro encoded envelope hencoded hdecoded
      rw [hstored] at hencoded
      exact (hrt.marked encoded envelope hencoded hdecoded).mono hmarks
    · intro c hc
      rw [hcredential] at hc
      rw [hstored]
      exact hrt.credential c hc
  | wipe hstored hcredential => exact .of_blank hstored hcredential
  | install encoded envelope hstored hdecoded hcredential hmarks =>
    exact .of_stored hstored hdecoded hmarks hcredential

variable {store : KeyStore} {inner : Inner S}

/-- The running client is consistent. -/
def System.Consistent (sys : System S) : Prop :=
  ∀ inner, sys.client = some inner → inner.runtime.Consistent

/-- The client that runs after a call was constructed by it, or has performed it. -/
theorem client_of_step {config : Config} {sys : System S} {c : Call}
    (h : (step config sys c).client = some inner) :
    ((step config sys c).store = sys.store ∧ ∃ generated, c.operation = .start generated ∧
        construct S config sys.store generated c.now = .ok inner) ∨
      ∃ before, sys.client = some before ∧
        (step config sys c).store = (perform config before sys.store c).store ∧
        inner.runtime = (perform config before sys.store c).runtime := by
  unfold step at h ⊢
  split at h
  next generated hop =>
    split at h
    next inner' hconstruct =>
      cases h
      exact .inl ⟨rfl, generated, hop, hconstruct⟩
    · cases h
  · split at h
    next hnone =>
      rw [hnone] at h
      cases h
    next before hbefore =>
      dsimp only [system] at h
      split_ifs at h
      cases h
      exact .inr ⟨before, hbefore, rfl, rfl⟩

theorem step_consistent (config : Config) {sys : System S} (hsys : sys.Consistent) (c : Call) :
    (step config sys c).Consistent := by
  intro inner hinner
  obtain ⟨-, generated, -, hconstruct⟩ | ⟨before, hbefore, -, hruntime⟩ := client_of_step hinner
  · obtain hblank | ⟨encoded, envelope, hloaded⟩ := construct_cases hconstruct
    · exact .of_blank hblank.stored hblank.credential
    · obtain ⟨-, -, -, -, -, rt, hrt, -⟩ := hloaded.record
      exact .of_stored hloaded.stored hloaded.decoded hrt.within hrt.credential
  · rw [hruntime]
    exact (perform_sound config before sys.store c).change.consistent (hsys before hbefore)

/-- In every run from any contents of the store, the running client is consistent. -/
theorem exec_consistent (config : Config) (store : KeyStore) (calls : List Call) :
    (exec (step config) (.stopped S store) calls).Consistent := by
  have hinit : (System.stopped S store).Consistent := by
    intro inner hinner
    cases hinner
  exact exec_induction (I := System.Consistent) (step config)
    (fun sys c hsys => step_consistent config hsys c) hinit calls

end CopyLocker.Client
