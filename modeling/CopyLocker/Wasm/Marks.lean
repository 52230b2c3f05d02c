import CopyLocker.Wasm.Relaunch

/-!
# The marks of the browser session

A session keeps three marks that should only rise: the highest security floor, the highest
revocation epoch, and the latest time it has seen. Wiping keeps them, every artifact that is
accepted raises them, and importing a snapshot replaces them by those of the snapshot.
-/

namespace CopyLocker.Wasm

open CopyLocker.Core Foundation.Saturating Proto Client

variable {S : CryptoSuite}

namespace Session

variable (s : Session S)

theorem Advances.refl : s.Advances s := ⟨le_rfl, le_rfl, le_rfl⟩

theorem Advances.trans {s s' s'' : Session S} (h : s.Advances s') (h' : s'.Advances s'') :
    s.Advances s'' :=
  ⟨le_trans h.floor h'.floor, le_trans h.epoch h'.epoch, le_trans h.clock h'.clock⟩

section Operations

variable (s : Session S) (config : Config) (anchors : TrustAnchors S) (now : ℤ)

theorem advances_handle (event : Event) : s.Advances (s.handle event now) :=
  ⟨le_rfl, le_rfl, s.state.lastSeenMax_le_handle event now⟩

theorem advances_wipeMaterial : s.Advances s.wipeMaterial := ⟨le_rfl, le_rfl, le_rfl⟩

theorem advances_failClosed (e : FatalError) : s.Advances (s.failClosed e now).1 :=
  (s.advances_handle now _).trans (advances_wipeMaterial _)

/-! ### Imports -/

/-- The session that the check of a stored ticket leaves, whether or not it ends the import. -/
def afterRestore :
    Except (Session S × Answer) (Session S × S.Material × ValidationTicket) → Session S
  | .error ended => ended.1
  | .ok accepted => accepted.1

variable (chain : VerifiedChain S.sig)

/-- Whether the stored ticket is accepted or ends the import, the marks advance. -/
theorem advances_restoreTicket (c : MachineCredential)
    (material : S.Material) (encoded : Wire Envelope) :
    s.Advances (afterRestore (s.restoreTicket config chain c material encoded now)) := by
  fun_cases s.restoreTicket config chain c material encoded now with
  | case4 => exact .refl s
  | case6 _ _ _ _ _ _ _ _ hcheck | case7 _ _ _ _ _ _ _ _ hcheck =>
    have hobserved := keeps_observeTicket hcheck
    exact ⟨hobserved.floor, hobserved.epoch, hobserved.clock⟩
  | _ => exact s.advances_failClosed now _

private theorem advances_deny (verdict : Option Verdict) : s.Advances (s.deny verdict now) := by
  unfold deny
  split
  · exact .refl s
  · exact .refl s
  · exact s.advances_handle now _

/-- The end of an import keeps the marks and has seen the time of the call. -/
theorem advances_finishImport (c : MachineCredential) (encoded : Wire Envelope)
    (material : S.Material) (chain : VerifiedChain S.sig) (deadlines : Deadlines)
    (verdict : Option Verdict) :
    let s' := s.finishImport c encoded material chain deadlines verdict now
    s.Advances s' ∧ (now ≤ signedMax 64 → now ≤ s'.state.clock.lastSeenMax) := by
  let dated : Session S := { s with state := s.state.setDeadlines deadlines }
  let loaded := dated.handle .credentialLoaded now
  have hdated : s.Advances dated := ⟨le_rfl, le_rfl, le_rfl⟩
  have hloaded := hdated.trans (dated.advances_handle now .credentialLoaded)
  have hticked := loaded.advances_handle now .tick
  have hdenied := (loaded.handle .tick now).advances_deny now verdict
  refine ⟨(hloaded.trans (hticked.trans hdenied)).trans ⟨le_rfl, le_rfl, le_rfl⟩, fun hfits => ?_⟩
  refine le_trans ?_ hdenied.clock
  have hcheck := StateMachine.handle_clock_of_timed loaded.state (e := .tick) rfl now
  rw [handle, hcheck, ClockState.lastSeenMax_check hfits]
  unfold ClockState.effectiveNow
  split_ifs <;> omega

/-- Loading the credential of a snapshot advances the marks of the restored session. -/
theorem advances_loadCredential (encoded : Wire Envelope) (ticket : Option (Wire Envelope)) :
    s.Advances (s.loadCredential config anchors encoded ticket now).1 := by
  have hobserved (c : MachineCredential) := (keeps_observeCredential s c).toAdvances
  fun_cases s.loadCredential config anchors encoded ticket now with
  | case1 => exact .refl s
  | case2 | case3 => exact s.advances_failClosed now _
  | case4 _ _ _ _ chain _ c material _ observed =>
    exact (hobserved c).trans (observed.advances_finishImport now c encoded material chain _ _).1
  | case5 _ _ _ _ chain _ c material _ observed response ended hended =>
    have hadvances := observed.advances_restoreTicket config now chain c material response
    rw [hended] at hadvances
    exact (hobserved c).trans hadvances
  | case6 _ _ _ _ chain _ c material _ observed response s' material' t haccepted =>
    have hadvances := observed.advances_restoreTicket config now chain c material response
    rw [haccepted] at hadvances
    have hfinished := s'.advances_finishImport now c encoded material' chain
    exact (hobserved c).trans (.trans hadvances (hfinished _ _).1)

/-- The certificates of the session, the credential under them and the ticket stored with it
verify. -/
def Verifies (encoded : Wire Envelope) (ticket : Option (Wire Envelope)) : Prop :=
  ∃ keys chain c material, s.device = some keys ∧
    anchors.verifyKeyset ⟨Proto.protoVer, s.epochCertificates, s.maxRevocationEpoch⟩
      config.productId (s.state.clock.effectiveNow now) s.maxRevocationEpoch [] = .ok chain ∧
    openMachineCredential config encoded chain keys.kem (s.state.clock.effectiveNow now)
      s.maxSecurityFloor s.maxRevocationEpoch = .ok (c, material) ∧
    ∀ response, ticket = some response → ∃ envelope t epoch clock observations,
      response.decoded = .ok envelope ∧ envelope.epochRef = some epoch ∧
      (s.observeCredential c).openOnline ValidationTicket config chain envelope now = .ok t ∧
      checkTicket t ((s.observeCredential c).ticketChecks config c epoch t.nonceCEcho)
        s.state.clock now = some (clock, .ok observations)

/-- When everything verifies, the time of the call is seen. -/
theorem now_le_loadCredential {encoded : Wire Envelope} {ticket : Option (Wire Envelope)}
    (h : s.Verifies config anchors now encoded ticket) (hfits : now ≤ signedMax 64) :
    now ≤ (s.loadCredential config anchors encoded ticket now).1.state.clock.lastSeenMax := by
  obtain ⟨keys, chain, c, material, hdevice, hchain, hopen, hticket⟩ := h
  simp only [loadCredential, hdevice, hchain, hopen]
  cases ticket with
  | none => exact (advances_finishImport _ now c encoded material chain _ _).2 hfits
  | some response =>
    obtain ⟨envelope, t, epoch, clock, _, hdecoded, hepoch, honline, hcheck⟩ := hticket response rfl
    have hclock : (s.observeCredential c).state.clock = s.state.clock := rfl
    simp only [restoreTicket, hdecoded, orFatal, honline, hepoch, hclock, hcheck]
    split_ifs <;> exact (advances_finishImport _ now c encoded _ chain _ _).2 hfits

/-- What an import has to bring along: the session's marks, or for the clock a later time at which
the credential of the snapshot verifies. -/
structure Carries (snap : SessionSnapshot) : Prop where
  floor : s.maxSecurityFloor ≤ snap.maxSecurityFloor
  epoch : s.maxRevocationEpoch ≤ snap.maxRevocationEpoch
  clock : s.state.clock.lastSeenMax ≤ snap.lastSeenMax ∨
    s.state.clock.lastSeenMax ≤ now ∧ now ≤ signedMax 64 ∧ ∃ device clock encoded,
      snap.check S = some (device, clock) ∧ snap.credentialEnvelope = some encoded ∧
      (s.restored config snap device clock).Verifies config anchors now encoded snap.ticketEnvelope

theorem advances_snapshotImport {blob : SnapshotBlob}
    (hcarries : s.device = none → s.credential = none → ∀ snap, blob.decoded = some snap →
      s.Carries config anchors now snap) :
    s.Advances (s.snapshotImport config anchors blob now).1 := by
  fun_cases s.snapshotImport config anchors blob now with
  | case5 hfree _ snap hdecoded device clock hcheck restored hencoded =>
    simp only [Option.isSome_iff_ne_none, not_or, not_not] at hfree
    obtain ⟨hfloor, hepoch, hclock⟩ := hcarries hfree.1 hfree.2 snap hdecoded
    rw [hencoded, ← (clock_of_check hcheck).2] at hclock
    exact ⟨hfloor, hepoch, hclock.resolve_right (by simp)⟩
  | case6 hfree _ snap hdecoded device clock hcheck restored encoded hencoded =>
    simp only [Option.isSome_iff_ne_none, not_or, not_not] at hfree
    obtain ⟨hfloor, hepoch, hclock⟩ := hcarries hfree.1 hfree.2 snap hdecoded
    rw [← (clock_of_check hcheck).2] at hclock
    have hloaded := restored.advances_loadCredential config anchors now encoded snap.ticketEnvelope
    refine ⟨le_trans hfloor hloaded.floor, le_trans hepoch hloaded.epoch, ?_⟩
    rcases hclock with hbehind | ⟨hbehind, hfits, device', clock', encoded', h, h', hverifies⟩
    · exact le_trans hbehind hloaded.clock
    · cases hcheck.symm.trans h
      cases hencoded.symm.trans h'
      exact le_trans hbehind (restored.now_le_loadCredential config anchors now hverifies hfits)
  | _ => exact .refl s

end Operations

/-! ### All operations -/

variable {config : Config} {anchors : TrustAnchors S}

/-- An import, if accepted, brings the session's marks along. -/
def Brings (config : Config) (anchors : TrustAnchors S) (s : Session S) (call : SessionCall) :
    Prop :=
  ∀ blob, call.op = .snapshotImport blob → s.device = none → s.credential = none →
    ∀ snap, blob.decoded = some snap → s.Carries config anchors call.now snap

theorem brings_of_not_import {call : SessionCall}
    (h : call.op.isImport = false) : s.Brings config anchors call := by
  intro blob hblob
  rw [hblob] at h
  cases h

/-- An operation that is no import advances the marks. -/
theorem Via.advances {s s' : Session S} {op : SessionOp} {now : ℤ} (h : s.Via op now s') :
    s.Advances s' := by
  cases h with
  | keep h => exact h.toAdvances
  | event => exact s.advances_handle now _
  | wipe h => exact h.toAdvances.trans ((advances_handle _ now _).trans (advances_wipeMaterial _))
  | @ticket base c t response h =>
    have hset : base.Advances
        { base with state := base.state.setDeadlines (deadlinesFromTicket c t) } :=
      ⟨le_rfl, le_rfl, le_rfl⟩
    have hhandled := hset.trans (advances_handle _ now (ticketEvent t.verdict))
    exact h.toAdvances.trans ⟨hhandled.floor, hhandled.epoch, hhandled.clock⟩
  | activate h _ _ hstate hfloor hepoch =>
    refine h.toAdvances.trans ⟨le_of_eq hfloor.symm, le_of_eq hepoch.symm, ?_⟩
    rw [hstate]
    exact StateMachine.lastSeenMax_le_handle _ _ now

/-- Every operation advances the marks, an import if it brings them along. -/
theorem advances_step {call : SessionCall}
    (hbrings : s.Brings config anchors call) : s.Advances (s.step config anchors call) := by
  cases hop : call.op with
  | snapshotImport blob =>
    unfold step answer
    simp only [hop]
    exact s.advances_snapshotImport config anchors call.now (hbrings blob hop)
  | _ => exact (step_via anchors s (by rw [hop]; rfl)).advances

end Session

end CopyLocker.Wasm
