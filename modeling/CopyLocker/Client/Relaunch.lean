import CopyLocker.Client.System

/-!
# What a relaunched desktop client permits

The running client and the client constructed from its record are compared through
`StateMachine.Rebuildable`: every section of `CopyLocker.Client.System` keeps the state machine in
step with the stored credential and ticket, except in four situations that `Steady` and `Regular`
exclude. A rollback past the tolerance locks the machine, a failed validation locks it ahead of the
mark, an activation reaches a locked client, or a wipe fails. Then what does not permit keys after a
tick does not permit them after a restart either.

## Main results

* `exec_dated`: every run keeps the deadlines.
* `perform_rebuildable`, `exec_rebuildable`: regular calls keep the client rebuildable.
* `not_permits_of_relaunched`: a client that does not permit keys after a tick is not relaunched
  into one that does.
-/

namespace CopyLocker.Client

open CopyLocker.Core Foundation Run Saturating Proto StateMachine Result Option

variable {S : CryptoSuite}

/-! ### Rebuildable clients -/

/-- The runtime belongs to what it stores: its machine can be rebuilt from the envelopes, what is
stored is held, and a wiped client leaves no record. -/
structure Runtime.Rebuildable (rt : Runtime S) (store : KeyStore) : Prop where
  machine : rt.state.Rebuildable rt.storedEnvelope rt.storedTicket
  held : rt.storedEnvelope.isSome = true → rt.isActivated = true
  wiped : rt.snapshot = none → store = none

/-- So does the runtime that a section ends with. -/
def Section.Rebuildable (r : Section S) : Prop := r.runtime.Rebuildable r.store

/-- The event of a section does not lock the machine for a reason that is not stored. -/
def Steady (m : StateMachine) (now : ℤ) : Operation → Prop
  | .featureKey | .schedulerCycle false => m.LocksOut now → m.state = .locked
  | .transientFailure _ => ¬ m.LocksEarly now
  | .activateInstall _ _ => m.state ≠ .locked
  | _ => True

/-- A call at a time that fits its word, with a store that can be wiped, that is steady and does not
start a client whose stored count of rollbacks locks it. -/
structure Regular (config : Config) (sys : System S) (call : Call) : Prop where
  fits : call.now ≤ signedMax 64
  wipes : call.io.wipes = true
  steady : ∀ inner, sys.client = some inner → Steady inner.runtime.state call.now call.operation
  started : ∀ generated inner record snapshot, call.operation = .start generated →
    construct S config sys.store generated call.now = .ok inner → inner.runtime.isActivated →
    sys.store = some record → record.payload.decoded = .ok snapshot →
    ¬ RestoredLock config.core record.monotonic.clock snapshot.validationTicket call.now

variable {op : Operation} {rt rt' : Runtime S} {store : KeyStore} {inner : Inner S}
  {config : Config} {call tick : Call} {now : ℤ}

/-- A client that is not activated is not locked. -/
theorem Runtime.Rebuildable.state_ne_locked (h : rt.Rebuildable store)
    (hfree : ¬ rt.isActivated) : rt.state.state ≠ .locked := by
  intro hlocked
  have hstanding := h.machine.standing
  unfold Standing at hstanding
  rw [hlocked] at hstanding
  exact hfree (h.held hstanding.2.1)

/-- A steady section tells the machine no event that locks it for a reason that is not stored. -/
theorem Runtime.Rebuildable.event (h : rt.Rebuildable store) {e : Event}
    (he : op.event = some e) (hfits : now ≤ signedMax 64) (hsteady : Steady rt.state now op) :
    ((rt.state.handle e now).1).Standing (rt.storedEnvelope.isSome)
      ((storedDenial rt.storedTicket).isSome) := by
  cases op with
  | featureKey =>
    cases he
    exact h.machine.standing.timed rfl hfits hsteady
  | schedulerCycle onlineHint =>
    cases onlineHint with
    | true =>
      cases he
      exact h.machine.standing.networkAvailable
    | false =>
      cases he
      exact h.machine.standing.timed rfl hfits hsteady
  | transientFailure error =>
    cases he
    exact h.machine.standing.networkFailed error hsteady
  | _ => cases he

theorem ticketEvent_cases (verdict : Verdict) :
    (verdict = .ok ∧ ticketEvent verdict = .ticketVerified) ∨
      (verdict ≠ .ok ∧ ticketEvent verdict = .ticketDenied verdict) := by
  cases verdict with
  | ok => exact .inl ⟨rfl, rfl⟩
  | needsReactivation | versionOutOfScope => exact .inr ⟨nofun, rfl⟩

/-- The deadlines in memory are the stored ones. -/
def Runtime.Dated (rt : Runtime S) : Prop := rt.state.Dated rt.storedEnvelope rt.storedTicket

theorem RuntimeStep.dated (h : RuntimeStep op now rt rt') (hrt : rt.Dated)
    (hconsistent : rt.Consistent) : rt'.Dated := by
  unfold Runtime.Dated at hrt ⊢
  cases h with
  | keep h =>
    have hdeadlines : rt'.state.deadlines = rt.state.deadlines := by
      rcases h.state with ⟨e, -, hstate⟩ | ⟨-, -, hdeadlines, -⟩
      · rw [hstate, handle_deadlines]
      · exact hdeadlines
    rw [h.stored, h.ticket, Dated, hdeadlines]
    exact hrt
  | @ticket c t response clock snapshot hc hresponse hsnapshot =>
    -- the credential in memory is stored, so there is a snapshot
    obtain ⟨encoded, envelope, hstored, hencoded, hpeek⟩ := hconsistent.credential c hc
    obtain ⟨before, hbefore, hcredential⟩ := bind_eq_some_iff.1 hstored
    rw [hbefore] at hsnapshot
    subst hsnapshot
    simp only [Runtime.storedEnvelope, Runtime.storedTicket, map_some, bind_some,
      hcredential]
    exact dated_handle (storedDeadlines_ticket hencoded hpeek hresponse)
  | install _ hstored hticket _ _ _ _ hstate _ _ hdeadlines =>
    rw [hstored, hticket, hstate]
    exact dated_handle hdeadlines

/-- A steady step keeps the client rebuildable. -/
theorem RuntimeStep.rebuildable (h : RuntimeStep op now rt rt')
    (hrt : rt.Rebuildable store) (hconsistent : rt.Consistent) (hfits : now ≤ signedMax 64)
    (hsteady : Steady rt.state now op) : rt'.Rebuildable store := by
  have hdated := h.dated hrt.machine.deadlines hconsistent
  cases h with
  | keep h =>
    refine ⟨⟨?_, hdated⟩, ?_, fun hnone => hrt.wiped (h.snapshot hnone)⟩
    · rw [h.stored, h.ticket]
      rcases h.state with ⟨e, he, hstate⟩ | ⟨hstate, hhas, hdeadlines, hmark⟩
      · rw [hstate]
        exact hrt.event he hfits hsteady
      · exact hrt.machine.standing.congr hstate hhas hdeadlines hmark
    · rw [h.stored, Runtime.isActivated, h.credential, h.olk]
      exact hrt.held
  | @ticket c t response clock snapshot hc hresponse hsnapshot =>
    obtain ⟨encoded, envelope, hstored, -⟩ := hconsistent.credential c hc
    obtain ⟨before, hbefore, hcredential⟩ := bind_eq_some_iff.1 hstored
    rw [hbefore] at hsnapshot
    subst hsnapshot
    refine ⟨⟨?_, hdated⟩, fun _ => hrt.held (by rw [hstored]; rfl), nofun⟩
    have hstanding := hrt.machine.standing
    rw [hstored] at hstanding
    simp only [Runtime.storedEnvelope, Runtime.storedTicket, map_some, bind_some,
      hcredential]
    refine hstanding.withTicket rfl ?_ ?_ hresponse (ticketEvent_cases t.verdict)
    · rfl
    · rfl
  | install hfree hstored hticket _ _ hheld _ hstate hm hhas hdeadlines =>
    have hlocked : rt.state.state ≠ .locked := by
      rcases hfree with ⟨encoded, target, rfl⟩ | hfree
      · exact hsteady
      · exact hrt.state_ne_locked hfree
    refine ⟨⟨?_, hdated⟩, fun _ => hheld, fun hnone => ?_⟩
    · rw [hstored, hstate]
      exact hrt.machine.standing.activated hlocked hm hhas rfl
    · rw [Runtime.storedEnvelope, hnone] at hstored
      cases hstored

/-- A steady section keeps the client rebuildable. -/
theorem perform_rebuildable (config : Config) (h : inner.runtime.Rebuildable store)
    (hconsistent : inner.runtime.Consistent) (hfits : call.now ≤ signedMax 64)
    (hwipes : call.io.wipes) (hsteady : Steady inner.runtime.state call.now call.operation) :
    (perform config inner store call).Rebuildable := by
  unfold Section.Rebuildable
  cases perform_via config inner store call with
  | kept hmove hstore =>
    rw [hstore]
    exact hmove.rebuildable h hconsistent hfits hsteady
  | written hmove hstore hrecorded =>
    have hmoved := hmove.rebuildable h hconsistent hfits hsteady
    obtain ⟨snapshot, hsnapshot, -⟩ := hrecorded.payload
    refine ⟨hmoved.machine, hmoved.held, fun hnone => ?_⟩
    rw [hsnapshot] at hnone
    cases hnone
  | wiped hevent hruntime hstore =>
    rw [hruntime, hstore, hwipes]
    obtain ⟨hbarred, hlocked⟩ := state_of_isWipe hevent
    exact ⟨rebuildable_of_none hbarred hlocked, nofun, fun _ => rfl⟩

/-! ### Construction from a record -/

variable {anchors : TrustAnchors S} {snapshot : ClientSnapshot} {encoded : Wire Envelope}
  {envelope : Envelope}

/-- The loaded runtime has the stored clock and deadlines, reloaded. -/
structure LoadsFrom (rt rt' : Runtime S) (encoded : Wire Envelope) (ticket : Option (Wire Envelope))
    (now : ℤ) (d : Deadlines) : Prop where
  deadlines : storedDeadlines encoded ticket = some d
  machine : rt'.state = (rt.state.restored ticket d).reloaded (storedDenial ticket) now
  held : rt'.isActivated = true

theorem loadOlk_loadsFrom (hdecoded : encoded.decoded = .ok envelope)
    (h : loadOlk config anchors rt snapshot envelope now = .ok rt') :
    ∃ d, LoadsFrom rt rt' encoded snapshot.validationTicket now d := by
  unfold loadOlk at h
  split at h
  · cases h
  next hticket =>
  have hnone : snapshot.validationTicket = none := by simpa using hticket
  obtain ⟨preview, -, h⟩ := bind_eq_ok.1 h
  obtain ⟨chain, -, h⟩ := bind_eq_ok.1 h
  split at h
  · cases h
  · cases h
  next l material hopen =>
  cases h
  obtain ⟨hpeek, -⟩ := openOfflineLicense_eq_ok hopen
  refine ⟨olkDeadlines l, ?_, ?_, rfl⟩
  · rw [hnone]
    exact storedDeadlines_olk hdecoded hpeek
  · rw [hnone]
    rfl

/-- A restored ticket sets the deadlines and moves the clock forwards. -/
theorem restoreTicket_state {chain : VerifiedChain S.sig} {c : MachineCredential}
    {response : Wire Envelope} {verdict : Verdict}
    (h : restoreTicket config rt chain c response now = .ok (rt', verdict)) :
    ∃ t, storedTicket response = some t ∧ verdict = t.verdict ∧ rt'.state = { rt.state with
        clock := rt.state.clock.observeServerTime t.serverTime
        deadlines := deadlinesFromTicket c t } := by
  obtain ⟨signed, hsigned, h⟩ := bind_eq_ok.1 h
  obtain ⟨t, ht, h⟩ := bind_eq_ok.1 h
  split at h
  · cases h
  dsimp only at h
  split at h
  · cases h
  · cases h
  next clock observations hcheck =>
  cases h
  obtain ⟨-, -, -, -, hclock⟩ := checkTicket_eq_ok hcheck
  refine ⟨t, ?_, rfl, ?_⟩
  · exact storedTicket_eq (orFatal_eq_ok.1 (orInit_eq_ok.1 hsigned))
      (VerifiedChain.peek_of_verifyArtifactFast (orFatal_eq_ok.1 (orInit_eq_ok.1 ht)))
  · rw [← hclock]
    rfl

theorem deny_state (fresh : Runtime S) (verdict : Verdict) (now : ℤ) :
    (((fresh.handle .credentialLoaded now).handle .tick now).deny verdict now).state =
      fresh.state.reloaded (if verdict = .ok then none else some verdict) now := by
  cases verdict <;> rfl

private theorem loadCredential_loadsFrom
    (h : loadCredential config anchors rt snapshot encoded now = .ok rt') :
    ∃ d, LoadsFrom rt rt' encoded snapshot.validationTicket now d := by
  obtain ⟨chain, -, h⟩ := bind_eq_ok.1 h
  obtain ⟨⟨c, material⟩, hopen, h⟩ := bind_eq_ok.1 h
  obtain ⟨envelope, hdecoded, hpeek, -⟩ := openCredential_eq_ok (orInit_eq_ok.1 hopen)
  dsimp only at h
  split at h
  next hnone =>
    cases h
    refine ⟨credentialDeadlines c, ?_, ?_, rfl⟩
    · rw [hnone]
      exact storedDeadlines_credential hdecoded hpeek
    · rw [hnone]
      rfl
  next ticket hticket =>
    obtain ⟨restored, hrestored, h⟩ := bind_eq_ok.1 h
    cases h
    obtain ⟨t, ht, hverdict, hstate⟩ := restoreTicket_state hrestored
    obtain ⟨-, -, hcredential⟩ := restoreTicket_eq_ok hrestored
    refine ⟨deadlinesFromTicket c t, ?_, ?_, ?_⟩
    · rw [hticket]
      exact storedDeadlines_ticket hdecoded hpeek ht
    · rw [hticket, storedDenial_of_ticket ht, ← hverdict, StateMachine.restored,
        storedClock_of_ticket ht]
      refine (deny_state restored.1 restored.2 now).trans ?_
      rw [hstate]
      rfl
    · rw [Runtime.isActivated, deny_credential]
      simp only [Runtime.handle, hcredential]
      rfl

theorem loadStored_loadsFrom (hencoded : snapshot.credentialEnvelope = some encoded)
    (h : loadStored config anchors rt snapshot now = .ok rt') :
    ∃ d, LoadsFrom rt rt' encoded snapshot.validationTicket now d := by
  unfold loadStored at h
  rw [hencoded] at h
  dsimp only at h
  split at h
  · cases h
  next envelope henvelope =>
  split at h
  · exact loadOlk_loadsFrom (orFatal_eq_ok.1 (orInit_eq_ok.1 henvelope)) h
  · exact loadCredential_loadsFrom h
  · cases h

/-- A client constructed from a record that holds a credential: a new machine under the record's
clock, with the stored ticket's server time and the stored deadlines, reloaded. -/
structure Relaunched (config : Config) (record : StoreRecord) (rt : Runtime S)
    (encoded : Wire Envelope) (ticket : Option (Wire Envelope)) (now : ℤ) (d : Deadlines) :
    Prop where
  stored : rt.storedEnvelope = some encoded
  response : rt.storedTicket = ticket
  deadlines : storedDeadlines encoded ticket = some d
  machine : rt.state =
    ((record.machine config).restored ticket d).reloaded (storedDenial ticket) now
  held : rt.isActivated = true

variable {record : StoreRecord} {generated : DeviceKeys}

/-- A client has the snapshot that was loaded. -/
theorem loadStored_snapshot {state : StateMachine} {m : MonotonicState}
    (h : loadStored config anchors (.blank state snapshot m) snapshot now = .ok rt) :
    rt.snapshot = some snapshot := by
  obtain ⟨-, hrt⟩ | ⟨encoded, envelope, -, -, hloaded⟩ := loadStored_eq_ok h
  · rw [hrt]
    rfl
  · exact hloaded.snapshot

theorem construct_relaunched (h : construct S config store generated now = .ok inner) :
    StartsBlank store inner.runtime ∨ ∃ record snapshot encoded d, store = some record ∧
      record.payload.decoded = .ok snapshot ∧ snapshot.credentialEnvelope = some encoded ∧
      Relaunched config record inner.runtime encoded snapshot.validationTicket now d := by
  obtain hblank | ⟨encoded, envelope, hstarts⟩ := construct_cases h
  · exact .inl hblank
  obtain ⟨record, snapshot, rfl, hdecoded, hencoded, -⟩ := hstarts.record
  obtain ⟨state, snapshot', m, hrestore, hload⟩ := construct_eq_ok h
  obtain ⟨hdecoded', rfl, rfl⟩ := restoreState_some hrestore
  rw [hdecoded] at hdecoded'
  cases hdecoded'
  obtain ⟨d, hfrom⟩ := loadStored_loadsFrom hencoded hload
  refine .inr ⟨record, snapshot, encoded, d, rfl, hdecoded, hencoded, hstarts.stored, ?_,
    hfrom.deadlines, hfrom.machine, hfrom.held⟩
  rw [Runtime.storedTicket, loadStored_snapshot hload]
  rfl

theorem rebuildable_of_construct (h : construct S config store generated now = .ok inner)
    (hfits : now ≤ signedMax 64)
    (hlock : ∀ record snapshot, inner.runtime.isActivated → store = some record →
      record.payload.decoded = .ok snapshot →
      ¬ RestoredLock config.core record.monotonic.clock snapshot.validationTicket now) :
    inner.runtime.Rebuildable store := by
  have hwiped : inner.runtime.snapshot = none → store = none := by
    obtain ⟨_, snapshot, _, -, hload⟩ := construct_eq_ok h
    rw [loadStored_snapshot hload]
    intro hnone
    cases hnone
  obtain hblank | ⟨record, snapshot, encoded, d, rfl, hdecoded, -, hfresh⟩ :=
    construct_relaunched h
  · refine ⟨?_, ?_, hwiped⟩
    · rw [hblank.stored]
      refine rebuildable_of_none ?_ ?_
      · rw [hblank.state]
        rfl
      · rw [hblank.state]
        nofun
    · rw [hblank.stored]
      nofun
  · refine ⟨?_, fun _ => hfresh.held, hwiped⟩
    rw [hfresh.machine, hfresh.stored, hfresh.response]
    have hrest := hlock record snapshot hfresh.held rfl hdecoded
    exact ⟨standing_reloaded rfl hfits rfl id hrest, dated_reloaded hfresh.deadlines⟩

/-! ### Runs -/

/-- The running client is rebuildable from the store. -/
def System.Rebuildable (sys : System S) : Prop :=
  ∀ inner, sys.client = some inner → inner.runtime.Rebuildable sys.store

variable {sys : System S} {calls : List Call}

theorem step_rebuildable (hsys : sys.Rebuildable)
    (hconsistent : sys.Consistent) (hregular : Regular config sys call) :
    (step config sys call).Rebuildable := by
  intro inner hinner
  obtain ⟨hstore, generated, hop, hconstruct⟩ | ⟨before, hbefore, hstore, hruntime⟩ :=
    client_of_step hinner
  · rw [hstore]
    exact rebuildable_of_construct hconstruct hregular.fits
      fun record snapshot => hregular.started generated inner record snapshot hop hconstruct
  · rw [hstore, hruntime]
    exact perform_rebuildable config (hsys before hbefore) (hconsistent before hbefore)
      hregular.fits hregular.wipes (hregular.steady before hbefore)

/-- What is required of the running client holds before there is one. -/
theorem System.forall_client (hnone : sys.client = none) (P : Inner S → Prop) :
    ∀ inner, sys.client = some inner → P inner := by
  intro inner hinner
  rw [hnone] at hinner
  cases hinner

/-- In every run of regular calls, from any contents of the store, the running client is
rebuildable. -/
theorem exec_rebuildable (hnone : sys.client = none)
    (hregular : Along (step config) (Regular config) sys calls) :
    (exec (step config) sys calls).Rebuildable := by
  have hinv := exec_induction_along (I := fun sys : System S => sys.Consistent ∧ sys.Rebuildable)
    (P := Regular config)
    (fun sys call h hcall => ⟨step_consistent config h.1 call, step_rebuildable h.2 h.1 hcall⟩)
    ⟨System.forall_client hnone _, System.forall_client hnone _⟩ hregular
  exact hinv.2

/-- In every run the deadlines of the running client are those of its stored artifacts. -/
theorem exec_dated (hnone : sys.client = none)
    (h : (exec (step config) sys calls).client = some inner) : inner.runtime.Dated := by
  refine (exec_induction (I := fun sys : System S => sys.Consistent ∧
    ∀ inner, sys.client = some inner → inner.runtime.Dated) (step config) ?_
    ⟨System.forall_client hnone _, System.forall_client hnone _⟩ calls).2 inner h
  rintro sys call ⟨hconsistent, hdated⟩
  refine ⟨step_consistent config hconsistent call, fun inner hinner => ?_⟩
  obtain ⟨-, generated, -, hconstruct⟩ | ⟨before, hbefore, -, hruntime⟩ := client_of_step hinner
  · obtain hblank | ⟨_, _, _, _, -, -, -, hfresh⟩ := construct_relaunched hconstruct
    · rw [Runtime.Dated, hblank.stored]
      exact dated_none
    · rw [Runtime.Dated, hfresh.stored, hfresh.response, hfresh.machine]
      exact dated_reloaded hfresh.deadlines
  · rw [hruntime]
    cases perform_via config before sys.store call with
    | kept hmove | written hmove =>
      exact hmove.dated (hdated before hbefore) (hconsistent before hbefore)
    | wiped _ hwiped =>
      rw [hwiped]
      exact dated_none

/-! ### Relaunching after a tick -/

/-- The sections that tick. -/
def Operation.isTick : Operation → Bool
  | .featureKey | .schedulerCycle false => true
  | _ => false

theorem Operation.eq_of_isTick (h : op.isTick) :
    op = .featureKey ∨ op = .schedulerCycle false := by
  unfold isTick at h
  split at h
  · exact .inl rfl
  · exact .inr rfl
  · cases h

/-- The tick can write the client's state, if there is one to write. -/
def System.Writes (sys : System S) (tick : Call) : Prop :=
  ∀ inner, sys.client = some inner → inner.runtime.snapshot ≠ none →
    ∃ store, persistLocked (inner.runtime.handle .tick tick.now) sys.store tick.io.saves = .ok store

/-- A tick that can write leaves its runtime in the store. -/
theorem perform_tick (config : Config)
    (htick : tick.operation.isTick) (hwrites : sys.Writes tick)
    (hinner : sys.client = some inner) :
    (perform config inner sys.store tick).runtime = inner.runtime.handle .tick tick.now ∧
      (inner.runtime.snapshot = none ∨ ∃ record,
        (perform config inner sys.store tick).store = some record ∧
          Recorded (inner.runtime.handle .tick tick.now) record) := by
  unfold perform
  by_cases hnone : inner.runtime.snapshot = none
  · refine ⟨?_, .inl hnone⟩
    rcases Operation.eq_of_isTick htick with hop | hop
    · simp [hop, featureKey, Runtime.handle, hnone]
    · simp only [hop, schedulerCycle, Runtime.handle, persisting, persistLocked, hnone]
      rfl
  · obtain ⟨store, hstore⟩ := hwrites inner hinner hnone
    obtain ⟨record, rfl, hrecorded⟩ := persistLocked_eq_ok hstore
    obtain ⟨snapshot, hsnapshot⟩ := ne_none_iff_exists'.1 hnone
    have hticked : (inner.runtime.handle .tick tick.now).snapshot = some snapshot := hsnapshot
    rcases Operation.eq_of_isTick htick with hop | hop
    · simp only [hop, featureKey, hticked, hstore]
      exact ⟨trivial, .inr ⟨record, rfl, hrecorded⟩⟩
    · simp only [hop, schedulerCycle, persisting, Bool.false_eq_true, if_false, hstore]
      exact ⟨trivial, .inr ⟨record, rfl, hrecorded⟩⟩

variable {started : ℤ}

/-- A client that does not permit keys and has written its state is not relaunched into one that
does. -/
theorem Runtime.Rebuildable.not_permits_of_recorded
    (h : rt.Rebuildable (some record)) (hrecorded : Recorded rt record)
    (hfits : rt.state.deadlines.refreshAfter ≤ signedMax 64)
    (hbarred : rt.state.permitsKeyDerivation = false)
    (hconstruct : construct S config (some record) generated started = .ok inner) (t : ℤ) :
    (inner.runtime.handle .tick t).state.permitsKeyDerivation = false := by
  obtain hblank | ⟨_, snapshot, encoded, _, ⟨⟩, hdecoded, hencoded, hfresh⟩ :=
    construct_relaunched hconstruct
  · exact not_permits_tick (by rw [hblank.state]; rfl)
  · obtain ⟨written, hwritten, hpayload⟩ := hrecorded.payload
    rw [hpayload] at hdecoded
    have hback := ClientSnapshot.readBack_eq_ok hdecoded
    have hstored : rt.storedEnvelope = some encoded := by
      rw [Runtime.storedEnvelope, hwritten, ← hencoded, hback]
      rfl
    have hticket : rt.storedTicket = snapshot.validationTicket := by
      rw [Runtime.storedTicket, hwritten, hback]
      rfl
    have hmachine := h.machine
    rw [hstored, hticket] at hmachine
    rw [Runtime.handle, hfresh.machine]
    exact hmachine.not_permits hfits hbarred rfl hfresh.deadlines hrecorded.lastSeenMax t

/-- In every run of regular calls that ends with a tick that can write: if the client then does not
permit keys, a client constructed from the store, at any time, does not permit them after a tick,
at any time. -/
theorem not_permits_of_relaunched (hnone : sys.client = none) (htick : tick.operation.isTick)
    (hregular : Along (step config) (Regular config) sys (calls ++ [tick]))
    (hwrites : (exec (step config) sys calls).Writes tick)
    (hinner : (exec (step config) sys (calls ++ [tick])).client = some inner)
    (hfits : inner.runtime.state.deadlines.refreshAfter ≤ signedMax 64)
    (hbarred : inner.runtime.state.permitsKeyDerivation = false) {inner' : Inner S}
    (hconstruct : construct S config (exec (step config) sys (calls ++ [tick])).store generated
      started = .ok inner')
    (t : ℤ) : (inner'.runtime.handle .tick t).state.permitsKeyDerivation = false := by
  have hrebuildable := exec_rebuildable hnone hregular inner hinner
  rw [exec_append, exec_cons, exec_nil] at hinner hconstruct hrebuildable
  generalize exec (step config) sys calls = sys at hinner hconstruct hrebuildable hwrites
  obtain ⟨-, _, hop, -⟩ | ⟨before, hbefore, hstore, hruntime⟩ := client_of_step hinner
  · rw [hop] at htick
    cases htick
  rw [hstore] at hconstruct hrebuildable
  rw [hruntime] at hrebuildable hfits hbarred
  obtain ⟨hticked, hwritten⟩ := perform_tick config htick hwrites hbefore
  rcases hwritten with hnone | ⟨record, hrecord, hrecorded⟩
  · -- a wiped client has left no record, so a fresh one is constructed
    have hstore := hrebuildable.wiped (by rw [hticked]; exact hnone)
    rw [hstore] at hconstruct
    obtain hblank | ⟨encoded, envelope, hstarts⟩ := construct_cases hconstruct
    · exact not_permits_tick (by rw [hblank.state]; rfl)
    · obtain ⟨_, _, ⟨⟩, -⟩ := hstarts.record
  · rw [← hticked] at hrecorded
    rw [hrecord] at hrebuildable hconstruct
    exact hrebuildable.not_permits_of_recorded hrecorded hfits hbarred hconstruct t

end CopyLocker.Client
