import CopyLocker.Protocol.HonestRuns
import CopyLocker.Protocol.RestartGrants
import CopyLocker.Wasm.Marks

/-!
# The nonce of a validation in the browser session

The session has one slot for the nonce of a validation. A request fills it, every response empties
it, and so does a wipe, together with the credential. A session without a credential has no nonce in
it, so an import, which needs such a session, finds none either. So an accepted response answers the
last request (`Session.accepted_response_answers_request`).
-/

namespace CopyLocker.Wasm

open CopyLocker.Core Foundation.Run Proto Client Protocol

variable {S : CryptoSuite} {config : Config} {anchors : TrustAnchors S}

/-- The operation ingests no response, imports nothing, and keeps the credential, which a wipe would
drop. -/
def SessionCall.Undisturbing (config : Config) (anchors : TrustAnchors S) (s : Session S)
    (call : SessionCall) : Prop :=
  (∀ response, call.op ≠ .ingestValidateResponse response) ∧
    (call.op.isImport = true → s.step config anchors call = s) ∧
    ∃ c, s.credential = some c ∧ (s.step config anchors call).credential = some c

/-- The ticket or the kill order in a response echoes the nonce. -/
def Echoes (response : Wire Envelope) (nonce : ByteId 32) : Prop :=
  ∃ envelope, response.decoded = .ok envelope ∧
    ((∃ t, envelope.peekUnverified ValidationTicket = .ok t ∧ t.nonceCEcho = nonce) ∨
      ∃ order, envelope.peekUnverified KillOrder = .ok order ∧ order.nonceCEcho = nonce)

namespace Session

variable {s : Session S} {call : SessionCall} {now : ℤ} {response : Wire Envelope}

/-- The operation is a request that was built with this nonce. -/
def Builds (config : Config) (anchors : TrustAnchors S) (nonce : ByteId 32) (s : Session S)
    (call : SessionCall) : Prop :=
  call.op = .buildValidateRequest (some nonce) ∧ (s.answer config anchors call).2 = .ok none

/-! ### Responses -/

theorem pending_ingestValidateResponse :
    (s.ingestValidateResponse config response now).1.pendingValidateNonce = none := by
  fun_cases s.ingestValidateResponse config response now with
  | case1 h => exact h
  | case2 | case5 => rfl
  | case3 nonce _ spent envelope =>
    fun_cases spent.ingestTicket config envelope response nonce now <;> rfl
  | case4 nonce _ spent envelope =>
    fun_cases spent.ingestKillOrder config envelope nonce now <;> rfl

/-- A response that is accepted echoes the pending nonce. -/
theorem echoes_of_ok {verdict : Option ℕ}
    (h : (s.ingestValidateResponse config response now).2 = .ok verdict) :
    ∃ nonce, s.pendingValidateNonce = some nonce ∧ Echoes response nonce := by
  revert h
  fun_cases s.ingestValidateResponse config response now with
  | case3 nonce hnonce spent envelope hdecoded =>
    fun_cases spent.ingestTicket config envelope response nonce now with
    | case8 c chain _ _ ticket hticket _ _ clock _ hcheck
    | case9 c chain _ _ ticket hticket _ _ clock _ hcheck =>
      intro _
      obtain ⟨hpassed, -⟩ := exists_checkTicket_eq_ok_iff.1 ⟨_, hcheck⟩
      exact ⟨nonce, hnonce, envelope, orFatal_eq_ok.1 hdecoded,
        .inl ⟨ticket, openOnline_eq_ok hticket, hpassed.nonceCEcho⟩⟩
    | _ => exact fun h => by cases h
  | case4 nonce hnonce spent envelope hdecoded =>
    fun_cases spent.ingestKillOrder config envelope nonce now with
    | case5 c chain _ _ order horder herror =>
      intro _
      refine ⟨nonce, hnonce, envelope, orFatal_eq_ok.1 hdecoded,
        .inr ⟨order, openOnline_eq_ok horder, ?_⟩⟩
      unfold killOrderError at herror
      split_ifs at herror with _ _ hecho
      exact not_not.1 hecho
    | _ => exact fun h => by cases h
  | _ => exact fun h => by cases h

/-! ### The other operations -/

theorem pending_restoreTicket (h : s.pendingValidateNonce = none) {chain : VerifiedChain S.sig}
    {c : MachineCredential} {material : S.Material}
    {restored : Except (Session S × Answer) (Session S × S.Material × ValidationTicket)}
    (hrestored : s.restoreTicket config chain c material response now = restored) :
    (afterRestore restored).pendingValidateNonce = none := by
  subst hrestored
  fun_cases s.restoreTicket config chain c material response now with
  | case4 | case6 | case7 => exact h
  | _ => rfl

private theorem pending_loadCredential (h : s.pendingValidateNonce = none) (encoded : Wire Envelope)
    (ticket : Option (Wire Envelope)) :
    (s.loadCredential config anchors encoded ticket now).1.pendingValidateNonce = none := by
  fun_cases s.loadCredential config anchors encoded ticket now with
  | case1 | case4 => exact h
  | case2 | case3 => rfl
  | case5 _ _ _ _ _ _ c _ _ _ _ _ hended =>
    exact pending_restoreTicket (s := s.observeCredential c) h hended
  | case6 _ _ _ _ _ _ c _ _ _ _ s' _ t haccepted =>
    have hs' := pending_restoreTicket (s := s.observeCredential c) h haccepted
    dsimp only [finishImport, deny]
    split <;> exact hs'

/-- What an operation does to the nonce: the slot is empty, or it and the credential are kept, or a
request fills it. -/
theorem step_pending (hheld : s.credential = none → s.pendingValidateNonce = none)
    {s' : Session S} (hs' : s.step config anchors call = s') :
    s'.pendingValidateNonce = none ∨
      (s'.pendingValidateNonce = s.pendingValidateNonce ∧ s'.credential = s.credential ∧
        ∀ response, call.op ≠ .ingestValidateResponse response) ∨
      ∃ nonce, s'.pendingValidateNonce = some nonce ∧ s'.credential ≠ none ∧
        Builds config anchors nonce s call := by
  subst hs'
  obtain ⟨now, op⟩ := call
  cases op <;> dsimp only [Builds, step, answer]
  case ingestValidateResponse => exact .inl pending_ingestValidateResponse
  case snapshotExport | stateQuery => exact .inr (.inl ⟨rfl, rfl, by simp⟩)
  case deviceKeygen generated =>
    fun_cases s.ensureDeviceKeys generated <;> exact .inr (.inl ⟨rfl, rfl, by simp⟩)
  case buildActivateRequest wellFormed generated nonce fits =>
    unfold buildActivateRequest ensureDeviceKeys
    cases s.device <;> cases generated <;> cases nonce <;> dsimp only <;> split_ifs <;>
      exact .inr (.inl ⟨rfl, rfl, by simp⟩)
  case deriveM feature derives =>
    fun_cases s.deriveM feature derives now <;> exact .inr (.inl ⟨rfl, rfl, by simp⟩)
  case unsealAsset feature unwraps =>
    fun_cases s.unsealAsset feature unwraps now <;> exact .inr (.inl ⟨rfl, rfl, by simp⟩)
  case event kind =>
    cases kind with
    | userDeactivate => exact .inl rfl
    | _ => exact .inr (.inl ⟨rfl, rfl, by simp⟩)
  case ingestKeyset bytes =>
    fun_cases s.ingestKeyset config anchors bytes now with
    | case3 => exact .inr (.inl ⟨rfl, rfl, by simp⟩)
    | _ => exact .inl rfl
  case buildDeactivateRequest nonce signs =>
    fun_cases s.buildDeactivateRequest nonce signs now with
    | case4 | case6 => exact .inl rfl
    | _ => exact .inr (.inl ⟨rfl, rfl, by simp⟩)
  case buildValidateRequest nonce =>
    fun_cases s.buildValidateRequest nonce now with
    | case5 _ nonce c hc => exact .inr (.inr ⟨nonce, rfl, by simp [hc], rfl, rfl⟩)
    | _ => exact .inr (.inl ⟨rfl, rfl, by simp⟩)
  -- an activation and an import need a session without a credential, whose slot is empty
  case ingestActivateResponse encoded =>
    fun_cases s.ingestActivateResponse config encoded now with
    | case4 => exact .inl rfl
    | case5 hfree => exact .inl (hheld (by simpa using hfree))
    | _ => exact .inr (.inl ⟨rfl, rfl, by simp⟩)
  case snapshotImport blob =>
    fun_cases s.snapshotImport config anchors blob now with
    | case5 hfree => exact .inl (hheld (by simpa using (not_or.1 hfree).2))
    | case6 hfree _ snap _ device clock _ base =>
      exact .inl (pending_loadCredential (s := base) (hheld (by simpa using (not_or.1 hfree).2)) ..)
    | _ => exact .inr (.inl ⟨rfl, rfl, by simp⟩)

/-- In every run, a validation response that is accepted echoes the nonce of an earlier request.
Since that request was built no other response was ingested and nothing imported or wiped. -/
theorem accepted_response_answers_request (config : Config) (anchors : TrustAnchors S)
    (seedNow now : ℤ) (calls : List SessionCall) (response : Wire Envelope) (verdict : Option ℕ)
    (h : ((exec (step config anchors) (new config seedNow) calls).answer config anchors
      ⟨now, .ingestValidateResponse response⟩).2 = .ok verdict) :
    ∃ before request after nonce, calls = before ++ request :: after ∧
      Builds config anchors nonce (exec (step config anchors) (new config seedNow) before) request ∧
      Along (step config anchors) (SessionCall.Undisturbing config anchors)
        (exec (step config anchors) (new config seedNow) (before ++ [request])) after ∧
      Echoes response nonce := by
  obtain ⟨nonce, hnonce, hechoes⟩ := echoes_of_ok h
  have hheld_step (s : Session S) (call : SessionCall)
      (hheld : s.credential = none → s.pendingValidateNonce = none)
      (hnone : (s.step config anchors call).credential = none) :
      (s.step config anchors call).pendingValidateNonce = none := by
    obtain h | ⟨hn, hc, -⟩ | ⟨_, -, hc, -⟩ := step_pending hheld rfl
    · exact h
    · exact hn.trans (hheld (hc.symm.trans hnone))
    · exact absurd hnone hc
  have hlast (s : Session S) (call : SessionCall)
      (hheld : s.credential = none → s.pendingValidateNonce = none)
      (hT : (s.step config anchors call).pendingValidateNonce = some nonce) :
      Builds config anchors nonce s call ∨
        s.pendingValidateNonce = some nonce ∧ SessionCall.Undisturbing config anchors s call := by
    obtain hnone | ⟨hn, hc, hop⟩ | ⟨nonce', hn, -, hbuilds⟩ := step_pending hheld rfl
    · cases hnone.symm.trans hT
    · have hpending := hn.symm.trans hT
      obtain ⟨c, hsome⟩ := Option.ne_none_iff_exists'.1 fun hnone => by
        cases (hheld hnone).symm.trans hpending
      refine .inr ⟨hpending, hop, fun himport => ?_, c, hsome, hc.trans hsome⟩
      obtain ⟨now, op⟩ := call
      cases op with
      | snapshotImport => simp [step, answer, snapshotImport, hsome]
      | _ => cases himport
    · obtain rfl := Option.some.inj (hn.symm.trans hT)
      exact .inl hbuilds
  obtain ⟨before, request, after, hcalls, hbuilds, hafter⟩ :=
    exists_last (T := fun s => s.pendingValidateNonce = some nonce) hheld_step hlast (fun _ => rfl)
      (fun h : none = some nonce => by cases h) hnonce
  exact ⟨before, request, after, nonce, hcalls, hbuilds, by simpa using hafter, hechoes⟩

/-- The session accepts a ticket after its activation. -/
theorem ticketForFirst_echoes_request : ∃ nonce, Echoes extendedResponse nonce := by
  obtain ⟨-, -, -, nonce, -, -, -, hechoes⟩ :=
    accepted_response_answers_request sampleConfig sampleAnchors 1000 1500
      (sessionActivation ++ [⟨1500, .buildValidateRequest (some 3)⟩]) extendedResponse (some 0) rfl
  exact ⟨nonce, hechoes⟩

end Session

end CopyLocker.Wasm
