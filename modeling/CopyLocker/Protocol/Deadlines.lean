import CopyLocker.Protocol.RestartGrants

/-!
# Deadlines of the two shells

Each shell derives its deadlines from the machine credential and the last ticket that it has
accepted, whether it installs them, restores them or imports them. So in every run both shells have
the same ones. Grace ends at a hard expiry at the latest, and therefore before the refresh is due if
the credential or the ticket runs out before that.
-/

namespace CopyLocker.Protocol

open CopyLocker.Core Foundation.Run Foundation.Saturating Proto Client Wasm

/-- The deadlines of a credential, or of the last ticket for it. -/
def machineDeadlines (c : MachineCredential) (ticket : Option ValidationTicket) : Deadlines :=
  ticket.elim (credentialDeadlines c) (deadlinesFromTicket c)

section Stored

variable {c : MachineCredential} {credential ticket : Option (Wire Envelope)} {m : StateMachine}

private theorem deadlines_of_dated (h : m.Dated credential ticket) (hc : Stores c credential) :
    m.deadlines = machineDeadlines c (ticket.bind storedTicket) := by
  obtain ⟨encoded, envelope, rfl, hdecoded, hpeek⟩ := hc
  have hdeadlines := h encoded rfl
  simp only [storedDeadlines, hdecoded, hpeek] at hdeadlines
  cases ticket with
  | none => exact (Option.some.inj hdeadlines).symm
  | some response =>
    obtain ⟨t, ht, hdeadlines⟩ := Option.map_eq_some_iff.1 hdeadlines
    rw [← hdeadlines, Option.bind_some, ht]
    rfl

end Stored

/-- In every run of the desktop client and every run of the browser session that end with the same
machine credential and the same ticket, both have the deadlines of these, the end of grace is not
after a hard expiry, and it is not before the refresh unless the hard expiry is. -/
theorem shells_agree_on_deadlines {S S' : CryptoSuite} (config config' : Config)
    (anchors : TrustAnchors S') (store : KeyStore) (calls : List Call) (seedNow : ℤ)
    (sessionCalls : List SessionCall) {inner : Inner S} {c : MachineCredential}
    {t : Option ValidationTicket}
    (hinner : (exec (step config) (.stopped S store) calls).client = some inner)
    (hdesktop : inner.runtime.credential = some c ∧
      inner.runtime.storedTicket.bind storedTicket = t)
    (hbrowser :
      let s := exec (Session.step config' anchors) (Session.new config' seedNow) sessionCalls
      s.credential = some c ∧ s.ticketEnvelope.bind storedTicket = t)
    (hfits : (machineDeadlines c t).refreshAfter ≤ signedMax 64) :
    let d := machineDeadlines c t
    inner.runtime.state.deadlines = d ∧
      (exec (Session.step config' anchors) (Session.new config' seedNow)
        sessionCalls).state.deadlines = d ∧
      (d.notAfter ≠ 0 → d.graceDeadline ≤ d.notAfter) ∧
      (d.refreshAfter ≤ d.graceDeadline ↔ d.notAfter = 0 ∨ d.refreshAfter ≤ d.notAfter) := by
  obtain ⟨hc, rfl⟩ := hdesktop
  obtain ⟨hc', ht'⟩ := hbrowser
  refine ⟨?_, ?_, ?_⟩
  · exact deadlines_of_dated (exec_dated rfl hinner)
      ((exec_consistent config store calls inner hinner).credential c hc)
  · have hsession := Session.exec_dated config' anchors seedNow sessionCalls
    rw [← ht']
    exact deadlines_of_dated hsession.deadlines (hsession.credential c hc')
  -- the end of grace is the refresh plus the grace period, cut off at a hard expiry
  · generalize inner.runtime.storedTicket.bind storedTicket = t at hfits ⊢
    cases t <;> simp only [machineDeadlines, Option.elim, credentialDeadlines, deadlinesFromTicket,
        MachineCredential.graceDeadline, signedAdd, clamp] at hfits ⊢ <;>
      split_ifs <;> omega

/-- Both shells after an activation with an unlimited credential. -/
theorem activated_shells_agree :
    ∃ inner, (activatedSystem 0).client = some inner ∧
      inner.runtime.state.deadlines = machineDeadlines (sampleCredential 0) none :=
  ⟨_, rfl, (shells_agree_on_deadlines sampleConfig sampleConfig sampleAnchors none (activation 0)
    1000 sessionActivation rfl ⟨rfl, rfl⟩ ⟨rfl, rfl⟩ (by decide)).1⟩

/-- A credential that runs out before its refresh is due. -/
theorem grace_ends_before_refresh :
    ∃ inner, (activatedSystem 40000).client = some inner ∧
      inner.runtime.state.deadlines = ⟨50000, 40000, 40000⟩ :=
  ⟨_, rfl, rfl⟩

end CopyLocker.Protocol
