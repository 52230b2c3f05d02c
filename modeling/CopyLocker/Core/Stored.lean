import CopyLocker.Core.Standing

/-!
# Machines and the artifacts stored with them

Both shells store the envelopes of the credential and of the last ticket, and rebuild the deadlines
and a denial from them. `Rebuildable` relates a running machine to the two envelopes: its deadlines
are the ones that they give, and it is locked for no reason that they and the mark do not show. Then
a machine rebuilt from them permits no key that the running one does not.
-/

namespace CopyLocker.Core

open Foundation.Saturating Proto

/-! ### What the stored envelopes say -/

/-- The ticket in a stored envelope. -/
def storedTicket (response : Wire Envelope) : Option ValidationTicket :=
  match response.decoded with
  | .error _ => none
  | .ok envelope => (envelope.peekUnverified ValidationTicket).toOption

/-- The verdict of a stored ticket that denies. -/
def storedDenial (ticket : Option (Wire Envelope)) : Option Verdict :=
  match ticket.bind storedTicket with
  | none => none
  | some t => if t.verdict = .ok then none else some t.verdict

/-- The deadlines of a stored credential, extended by a stored ticket. -/
def storedDeadlines (credential : Wire Envelope) (ticket : Option (Wire Envelope)) :
    Option Deadlines :=
  match credential.decoded with
  | .error _ => none
  | .ok envelope =>
    match envelope.peekUnverified MachineCredential, ticket with
    | .ok c, none => some (credentialDeadlines c)
    | .ok c, some response => (storedTicket response).map (deadlinesFromTicket c)
    | .error _, none => (envelope.peekUnverified OfflineLicenseKey).toOption.map olkDeadlines
    | .error _, some _ => none

/-- A restored clock, after the stored ticket. -/
def storedClock (clock : ClockState) (ticket : Option (Wire Envelope)) : ClockState :=
  match ticket.bind storedTicket with
  | none => clock
  | some t => clock.observeServerTime t.serverTime

/-- The reading is a rollback of the restored clock, and exceeds the tolerance. -/
def RestoredLock (config : CoreConfig) (clock : ClockState) (ticket : Option (Wire Envelope))
    (w : ℤ) : Prop :=
  (storedClock clock ticket).RolledBack w ∧
    config.rollbackThreshold < (storedClock clock ticket).countRollback.rollbackEvents

section Stored

variable {encoded response : Wire Envelope} {envelope signed : Envelope} {c : MachineCredential}
  {t : ValidationTicket} {l : OfflineLicenseKey}

theorem storedTicket_eq (hdecoded : response.decoded = .ok signed)
    (hpeek : signed.peekUnverified ValidationTicket = .ok t) : storedTicket response = some t := by
  simp only [storedTicket, hdecoded, hpeek]
  rfl

theorem storedDenial_of_ticket (h : storedTicket response = some t) :
    storedDenial (some response) = if t.verdict = .ok then none else some t.verdict := by
  simp [storedDenial, h]

theorem storedClock_of_ticket (h : storedTicket response = some t) (clock : ClockState) :
    storedClock clock (some response) = clock.observeServerTime t.serverTime := by
  simp [storedClock, h]

theorem lastSeenMax_le_storedClock (clock : ClockState) (ticket : Option (Wire Envelope)) :
    clock.lastSeenMax ≤ (storedClock clock ticket).lastSeenMax := by
  unfold storedClock
  split
  · exact le_rfl
  · exact clock.lastSeenMax_le_observeServerTime _

theorem storedDeadlines_credential (hdecoded : encoded.decoded = .ok envelope)
    (hpeek : envelope.peekUnverified MachineCredential = .ok c) :
    storedDeadlines encoded none = some (credentialDeadlines c) := by
  simp [storedDeadlines, hdecoded, hpeek]

theorem storedDeadlines_ticket (hdecoded : encoded.decoded = .ok envelope)
    (hpeek : envelope.peekUnverified MachineCredential = .ok c)
    (hticket : storedTicket response = some t) :
    storedDeadlines encoded (some response) = some (deadlinesFromTicket c t) := by
  simp [storedDeadlines, hdecoded, hpeek, hticket]

theorem storedDeadlines_olk (hdecoded : encoded.decoded = .ok envelope)
    (hpeek : envelope.peekUnverified OfflineLicenseKey = .ok l) :
    storedDeadlines encoded none = some (olkDeadlines l) := by
  have hkind : envelope.kind = .offlineLicenseKey := EnvelopeOf.kind_of_peekUnverified hpeek
  have hother : envelope.peekUnverified MachineCredential = .error .artifactKindMismatch := by
    rw [EnvelopeOf.peekUnverified, hkind]
    exact if_pos (by decide)
  simp only [storedDeadlines, hdecoded, hother, hpeek]
  rfl

/-- Stored deadlines are ordered, as far as their refresh fits its word. -/
theorem ordered_storedDeadlines {ticket : Option (Wire Envelope)} {d : Deadlines}
    (h : storedDeadlines encoded ticket = some d) (hfits : d.refreshAfter ≤ signedMax 64) :
    d.Ordered := by
  unfold storedDeadlines at h
  split at h
  · cases h
  split at h
  next c hpeek =>
    cases h
    exact ordered_of_grace c.graceSeconds hfits
  next c response hpeek =>
    obtain ⟨t, -, rfl⟩ := Option.map_eq_some_iff.1 h
    exact ordered_of_grace c.graceSeconds hfits
  next =>
    obtain ⟨l, -, rfl⟩ := Option.map_eq_some_iff.1 h
    exact Deadlines.ordered_of_le (.inl le_rfl)
  next => cases h

end Stored

namespace StateMachine

/-! ### Machines that can be rebuilt -/

/-- The deadlines are those of the stored credential and ticket. -/
def Dated (m : StateMachine) (credential ticket : Option (Wire Envelope)) : Prop :=
  ∀ encoded, credential = some encoded → storedDeadlines encoded ticket = some m.deadlines

/-- The machine belongs to the stored credential and ticket. -/
structure Rebuildable (m : StateMachine) (credential ticket : Option (Wire Envelope)) : Prop where
  standing : m.Standing (credential.isSome = true) ((storedDenial ticket).isSome = true)
  deadlines : m.Dated credential ticket

/-- The machine with the clock and the deadlines of what is stored. -/
def restored (m : StateMachine) (ticket : Option (Wire Envelope)) (d : Deadlines) : StateMachine :=
  { m with clock := storedClock m.clock ticket, deadlines := d }

section Rebuildable

variable {m m' base : StateMachine} {d : Deadlines} {ticket : Option (Wire Envelope)}
  {encoded response : Wire Envelope} {t : ValidationTicket} {w : ℤ} {held denied : Prop}

theorem dated_none : m.Dated none ticket := by
  intro encoded hencoded
  cases hencoded

theorem dated_handle {e : Event} (h : storedDeadlines encoded ticket = some m.deadlines) :
    ((m.handle e w).1).Dated (some encoded) ticket := by
  rintro encoded' ⟨⟩
  rw [handle_deadlines]
  exact h

/-- A machine without stored credential. -/
theorem rebuildable_of_none (hstate : m.state.permitsKeyDerivation = false)
    (hlocked : m.state ≠ .locked) : m.Rebuildable none ticket :=
  ⟨standing_of_wiped hstate hlocked Bool.false_ne_true, dated_none⟩

theorem Standing.activated {held' denied' : Prop} (h : m.Standing held denied)
    (hlocked : m.state ≠ .locked) (hstate : m'.state = m.state)
    (hhas : m'.hasCredential = m.hasCredential) (hheld : held') :
    ((m'.handle .activationVerified w).1).Standing held' denied' := by
  refine standing_activationVerified (by rwa [hstate]) ?_ hheld
  rw [hstate, hhas]
  exact fun hpermits => (h.held_of_permits hpermits).1

theorem Standing.withTicket (h : m.Standing held denied) (hheld : held)
    (hstate : m'.state = m.state) (hhas : m'.hasCredential = m.hasCredential)
    (hticket : storedTicket response = some t) {e : Event}
    (he : (t.verdict = .ok ∧ e = .ticketVerified) ∨
      (t.verdict ≠ .ok ∧ e = .ticketDenied t.verdict)) :
    ((m'.handle e w).1).Standing held ((storedDenial (some response)).isSome) := by
  obtain ⟨hheld', hstates⟩ := h.state_of_held hheld
  rw [← hhas] at hheld'
  rw [← hstate] at hstates
  rcases he with ⟨hok, rfl⟩ | ⟨hdenies, rfl⟩
  · exact standing_ticketVerified hheld' hstates hheld
  · refine standing_ticketDenied hheld' hstates hheld t.verdict ?_
    rw [storedDenial_of_ticket hticket, if_neg hdenies]
    rfl

/-! ### Rebuilding -/

theorem dated_reloaded {denial : Option Verdict}
    (h : storedDeadlines encoded ticket = some d) :
    ((base.restored ticket d).reloaded denial w).Dated (some encoded) ticket := by
  rintro encoded' ⟨⟩
  cases denial <;> simpa only [reloaded, handle_deadlines, restored] using h

/-- A machine that does not permit keys is not rebuilt into one that does: whenever it is reloaded
from the stored envelopes under a mark that is not behind, and whenever it is then ticked. -/
theorem Rebuildable.not_permits (h : m.Rebuildable (some encoded) ticket)
    (hfits : m.deadlines.refreshAfter ≤ signedMax 64) (hbarred : m.permitsKeyDerivation = false)
    (hbase : base.state = .unlicensed) (hdeadlines : storedDeadlines encoded ticket = some d)
    (hmark : m.clock.lastSeenMax ≤ base.clock.lastSeenMax) (t : ℤ) :
    (((base.restored ticket d).reloaded (storedDenial ticket) w).handle
      .tick t).1.permitsKeyDerivation = false := by
  obtain rfl : m.deadlines = d := by
    have hrunning := h.deadlines encoded rfl
    rw [hdeadlines] at hrunning
    exact (Option.some.inj hrunning).symm
  refine not_permits_of_reloaded (m := base.restored ticket m.deadlines) hbase
    (ordered_storedDeadlines hdeadlines hfits) ?_ t
  refine (h.standing.reason rfl hbarred).imp id fun hlapsed => ?_
  exact Deadlines.graceExhausted_mono (le_trans hmark (lastSeenMax_le_storedClock ..)) hlapsed

end Rebuildable

end StateMachine

end CopyLocker.Core
