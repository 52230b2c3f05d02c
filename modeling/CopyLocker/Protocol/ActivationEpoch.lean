import CopyLocker.Protocol.OnlineSignature
import CopyLocker.Worker.LicenseWrites

/-!
# The revocation epoch of a machine credential

A revocation counts up one sequence for all licenses, the keyset publishes the highest number that
was published, and a client that installed the keyset and followed the revocation log refuses a
credential with a lower one. The worker writes into a credential the number that the object of the
license keeps. Only a revocation of that license or a validation of one of its machines tells the
object a higher number; an activation does not. So a credential passes exactly when the object
already has the published number.

## Main results

* `reserve_nextEpoch`, `carries_nextEpoch`: the credential has the epoch that the reservation finds.
* `licenseEpoch_le_told`: the object of a license has no epoch that it was not told.
* `activation_passes_iff`: when the client accepts the epoch of an activation.
* `untold_activation_fails`: it does not, for a license that was told no epoch as high.
-/

namespace CopyLocker.Worker.LicenseDO

open Proto State

/-- The epoch of the credential in an envelope. -/
def envelopeEpoch (encoded : Wire Envelope) : ℕ :=
  match encoded.decoded with
  | .error _ => 0
  | .ok envelope =>
    match envelope.peekUnverified MachineCredential with
    | .error _ => 0
    | .ok c => c.revocationEpoch

/-- The epoch of the credential that a reservation leads to: its own, or the one in the envelope
that is stored with it. -/
def ReserveResponse.credentialEpoch (r : ReserveResponse) : ℕ :=
  match r.activationEnvelope with
  | none => r.revocationEpoch
  | some encoded => envelopeEpoch encoded

/-- The stored reservation that answers a repeated request: it was completed, or its row still
occupies a seat. -/
def State.heldReservation (s : State) (key : IdemKey) (requestHash : Digest) :
    Option ReserveResponse :=
  match s.loadOperation key requestHash with
  | .completed row => row.reservation.filter fun cached =>
      cached.activationEnvelope.isSome || (s.machineStatus cached.machineId).any (·.occupiesSeat)
  | _ => none

/-- The epoch of the credential that the activation with this key and hash gets. -/
def State.nextEpoch (s : State) (idempotencyKey : String) (requestHash : Digest) : ℕ :=
  match s.heldReservation { operation := .reserve, key := idempotencyKey } requestHash with
  | some cached => cached.credentialEpoch
  | none => (s.license.map (·.revocationEpoch)).getD 0

variable {s s' : State} {input : ReserveRequest} {now : ℤ} {httpStatus : ℕ} {r : ReserveResponse}

/-- A fresh reservation has the epoch of the object. -/
theorem reserveFresh_credentialEpoch {l : License} {variantId : ℤ} {requestHash : Digest}
    (h : reserveFresh s l input variantId requestHash now = (s', .reserved httpStatus r)) :
    r.credentialEpoch = l.revocationEpoch := by
  revert h
  fun_cases reserveFresh s l input variantId requestHash now with
  | case2 | case5 =>
    intro h
    rw [← (Response.reserved.inj (Prod.mk.inj h).2).2]
    rfl
  | _ => rintro ⟨⟩

/-- The reservation of an activation has the epoch that it finds. -/
theorem reserve_nextEpoch {env : Env} (h : reserve env s input now = (s', .reserved httpStatus r)) :
    r.credentialEpoch = s.nextEpoch input.idempotencyKey
      (input.requestHash.getD (env.operationHash (.reserve input))) := by
  unfold reserve at h
  split at h
  · cases h
  split at h
  · cases h
  next l hl =>
  split at h
  · cases h
  split at h
  · cases h
  -- raising the floor changes neither the stored reservations nor the rows
  have hload (key : IdemKey) (hash : Digest) :
      (s.setLicense (l.raiseFloor input.authoritativeSecurityFloor)).loadOperation key hash =
        s.loadOperation key hash := rfl
  have hstatus (m : MachineId) :
      (l.raiseFloor input.authoritativeSecurityFloor).activationStatus m = s.machineStatus m := by
    simp only [machineStatus, machine, hl, Option.bind_some]
    rfl
  simp only [hload, hstatus] at h
  split at h
  · cases h
  next hmissing =>
    simp only [nextEpoch, heldReservation, hmissing, hl]
    have hfresh := reserveFresh_credentialEpoch h
    exact hfresh
  next row hrow =>
    split at h
    · cases h
    next cached hcached =>
    by_cases hheld : cached.activationEnvelope.isSome ∨
        (s.machineStatus cached.machineId).any (·.occupiesSeat)
    · rw [if_pos hheld] at h
      cases (Prod.mk.inj h).2
      simp [nextEpoch, heldReservation, hrow, hcached, Option.filter, hheld]
    · rw [if_neg hheld] at h
      have hfree : (cached.activationEnvelope.isSome ||
          (s.machineStatus cached.machineId).any (·.occupiesSeat)) = false := by
        simpa using hheld
      simp only [nextEpoch, heldReservation, hrow, hcached, Option.filter, hfree, hl]
      have hfresh := reserveFresh_credentialEpoch h
      exact hfresh

end CopyLocker.Worker.LicenseDO

variable {n : ℕ} {w : CopyLocker.Worker.Service}

namespace CopyLocker.Worker

open Foundation Run

/-! ### What the object of a license is told -/

/-- The epoch that a step carries to the object of a license. -/
def ServiceStep.toldEpoch (id : LicenseId) : ServiceStep → ℕ
  | .license id' call => if id' = id then call.request.toldEpoch else 0
  | _ => 0

theorem LicenseDO.Write.revocationEpoch_le {c : Call} {l l' : License}
    (h : Write c l l') (hl : l.revocationEpoch ≤ n) (hc : c.request.toldEpoch ≤ n) :
    l'.revocationEpoch ≤ n := by
  cases h with
  | raiseEpoch => exact max_le hl hc
  | recordNonce h =>
    obtain ⟨nonces, -, rfl⟩ := Option.map_eq_some_iff.1 h
    exact hl
  | countValidation =>
    obtain ⟨start, count, heq⟩ := l.countValidation_eq c.now
    rw [heq]
    exact hl
  | _ => exact hl

/-- No object of a license has an epoch beyond those that the run told it. -/
theorem licenseEpoch_le_told (env : ServiceEnv) (id : LicenseId)
    (hw : ∀ l, (w.licenses id).license = some l → l.revocationEpoch ≤ n)
    {steps : List ServiceStep} (htold : ∀ step ∈ steps, step.toldEpoch id ≤ n) :
    ∀ l, ((exec (Service.step env) w steps).licenses id).license = some l →
      l.revocationEpoch ≤ n := by
  induction steps generalizing w with
  | nil => exact hw
  | cons step steps ih =>
    refine ih ?_ fun s hs => htold s (List.mem_cons_of_mem step hs)
    have hstep := htold step List.mem_cons_self
    cases step with
    | registry step => exact hw
    | issuer shard call => exact hw
    | license id' call =>
      by_cases hid : id = id'
      · subst hid
        simp only [ServiceStep.toldEpoch, if_true] at hstep
        simp only [Service.step, Service.setLicense, if_true]
        refine LicenseDO.step_keeps (fun input _ => Nat.zero_le n) (fun l l' h hl => ?_) hw
        exact h.revocationEpoch_le hl hstep
      · simp only [Service.step, Service.setLicense, if_neg hid]
        exact hw

end CopyLocker.Worker

namespace CopyLocker.Worker.Router

open Foundation Run Proto

/-! ### The credential of an activation -/

/-- The credential that an activation answers with: the one that was issued for it, or the one in
the stored envelope. -/
def Activated.Carries : Activated → MachineCredential → Prop
  | .stored encoded, c => ∃ envelope, encoded.decoded = .ok envelope ∧
      envelope.peekUnverified MachineCredential = .ok c
  | .issued credential _, c => c = credential

/-- What the worker does from the begin of an activation to its reservation. -/
def beforeReservation (parsed : ParsedActivation) (authorization : AuthorizationContext)
    (waits : ActivationWaits) (now : ℤ) : List ServiceStep :=
  let heartbeatSec := (heartbeatWord authorization.heartbeatSecs).toOption.join
  waits.beforeFloor ++ waits.beforeInit ++ .license authorization.licenseId
      { now, request := .init (initCall parsed authorization heartbeatSec) } ::
    waits.beforeReserve

section

variable {env : ServiceEnv} {parsed : ParsedActivation} {authorization : AuthorizationContext}
  {path : LicenseDO.ActivationPath} {material : ActivationMaterial} {waits : ActivationWaits}
  {now : ℤ} {w w' : Service} {answer : Activated}

/-- The credential issued for a reservation has its epoch. -/
theorem issueCredential_eq_ok {release : ReleaseMaterial} {epoch : SigningEpoch}
    {r : LicenseDO.ReserveResponse}
    (h : issueCredential env parsed authorization release epoch r material waits now w =
      (w', .ok answer)) :
    ∃ c encoded, answer = .issued c encoded ∧ c.revocationEpoch = r.revocationEpoch := by
  obtain ⟨-, h⟩ := Handler.require_bind h
  obtain ⟨-, h⟩ := Handler.require_bind h
  obtain ⟨secret, -, h⟩ := Handler.ofOption_bind h
  obtain ⟨keks, -, h⟩ := Handler.ofOption_bind h
  obtain ⟨preloaded, -, h⟩ := Handler.ofExcept_bind h
  obtain ⟨w₁, envelope, -, h⟩ := Handler.bind_eq_ok (α := Envelope) h
  obtain ⟨w₂, response, -, h⟩ := Handler.bind_eq_ok (α := LicenseDO.Response) h
  cases response with
  | completed encoded =>
    obtain ⟨-, hanswer⟩ := Prod.mk.inj h
    exact ⟨_, encoded, (Except.ok.inj hanswer).symm, rfl⟩
  | _ => cases h

/-- The credential of an activation has the epoch that its reservation finds. -/
theorem carries_nextEpoch {c : MachineCredential}
    (h : issueActivation env parsed authorization path material waits now w = (w', .ok answer))
    (hc : answer.Carries c) :
    c.revocationEpoch =
      ((exec (Service.step env) w (beforeReservation parsed authorization waits now)).licenses
        authorization.licenseId).nextEpoch parsed.idempotencyKey parsed.requestHash := by
  obtain ⟨release, -, h⟩ := Handler.ofOption_bind h
  obtain ⟨epoch, -, h⟩ := Handler.ofOption_bind (α := SigningEpoch) h
  obtain ⟨heartbeatSec, hheartbeat, h⟩ := Handler.ofExcept_bind (α := Option ℕ) h
  obtain ⟨w₁, started, hinit, h⟩ := Handler.bind_eq_ok (α := LicenseDO.Response) h
  obtain ⟨credentialState, -, h⟩ := Handler.ofOption_bind (α := Bytes) h
  obtain ⟨w₂, response, hreserve, h⟩ := Handler.bind_eq_ok (α := LicenseDO.Response) h
  obtain ⟨r, hr, h⟩ := Handler.ofOption_bind (α := LicenseDO.ReserveResponse) h
  -- the reservation runs on the object after the steps before it
  have hw₁ : w₁ = exec (Service.step env) w (waits.beforeFloor ++ waits.beforeInit ++
      [.license authorization.licenseId
        { now, request := .init (initCall parsed authorization heartbeatSec) }]) := by
    have hstate := congrArg Prod.fst (callLicense_eq_ok hinit)
    rw [exec_append, exec_append]
    exact hstate
  have hfound : exec (Service.step env) w₁ waits.beforeReserve =
      exec (Service.step env) w (beforeReservation parsed authorization waits now) := by
    rw [hw₁, ← exec_append, beforeReservation, hheartbeat, List.append_assoc]
    rfl
  have hreserved := (congrArg Prod.snd (callLicense_eq_ok hreserve)).symm
  cases response with
  | reserved httpStatus r' =>
    obtain rfl : r' = r := Option.some.inj hr
    have hepoch : r'.credentialEpoch = _ := LicenseDO.reserve_nextEpoch (Prod.ext rfl hreserved)
    rw [← hfound]
    refine Eq.trans ?_ hepoch
    cases henvelope : r'.activationEnvelope with
    | some encoded =>
      simp only [henvelope] at h
      obtain rfl : Activated.stored encoded = answer := Except.ok.inj (Prod.mk.inj h).2
      obtain ⟨envelope, hdecoded, hpeek⟩ := hc
      simp [LicenseDO.ReserveResponse.credentialEpoch, henvelope, LicenseDO.envelopeEpoch, hdecoded,
        hpeek]
    | none =>
      simp only [henvelope] at h
      obtain ⟨c', encoded, rfl, hc'⟩ := issueCredential_eq_ok h
      obtain rfl : c = c' := hc
      rw [LicenseDO.ReserveResponse.credentialEpoch, henvelope]
      exact hc'
  | _ => cases hr

end

end CopyLocker.Worker.Router

namespace CopyLocker.Protocol

open Foundation Run Proto Client Worker Worker.Router

/-- The revocation epoch of the published keyset. -/
def publishedEpoch (w : Service) : ℕ := (w.registry.keyset.map (·.revocationEpoch)).getD 0

/-- The client has installed the published keyset and followed the revocation log up to its
epoch. -/
def Synchronised {S : CryptoSuite} (rt : Runtime S) (w : Service) : Prop :=
  w.registry.keyset.map (·.revocationEpoch) = some rt.maxRevocationEpoch

section

variable (env : ServiceEnv) (steps : List ServiceStep) {parsed : ParsedActivation}
  {authorization : AuthorizationContext} {path : LicenseDO.ActivationPath}
  {material : ActivationMaterial} {waits : ActivationWaits} {now : ℤ} {w : Service}
  {answer : Activated} {c : MachineCredential} {S : CryptoSuite} (config : Config) (rt : Runtime S)
  {encoded : Wire Envelope} {envelope : Envelope} {chain : VerifiedChain S.sig} {opened : ℤ}

/-- After every run of the worker, for every activation and whatever happens during it and after it:
a client that follows the published keyset finds the epoch of the credential not behind its mark,
and does not report a rollback, exactly when the object of the license had the published epoch as
the reservation came. -/
theorem activation_passes_iff (h : issueActivation env parsed authorization path material waits now
      (exec (Service.step env) .new steps) = (w, .ok answer))
    (hc : answer.Carries c) (later : List ServiceStep)
    (hsync : Synchronised rt (exec (Service.step env) w later))
    (hdecoded : encoded.decoded = .ok envelope) (hver : envelope.protoVer = Proto.protoVer)
    (hsuite : envelope.suiteId = S.suiteId)
    (hverify : chain.verifyArtifact MachineCredential envelope config.productId opened = .ok c)
    (snapshot : ClientSnapshot) :
    (rt.maxRevocationEpoch ≤ c.revocationEpoch ∧
        openMachineCredential config encoded chain snapshot opened rt.maxSecurityFloor
          rt.maxRevocationEpoch ≠ .error .revocationRollback) ↔
      publishedEpoch (exec (Service.step env) w later) ≤ ((exec (Service.step env) .new
          (steps ++ beforeReservation parsed authorization waits now)).licenses
            authorization.licenseId).nextEpoch parsed.idempotencyKey parsed.requestHash := by
  have hepoch := carries_nextEpoch h hc
  rw [exec_append, ← hepoch, publishedEpoch, hsync, Option.getD_some]
  constructor
  · intro hpasses
    exact hpasses.1
  · intro hle
    refine ⟨hle, fun hrollback => ?_⟩
    have hbehind :=
      ((openMachineCredential_eq_rollback_iff hdecoded hver hsuite hverify).1 hrollback).2
    omega

/-- A license that was told no epoch as high as the client's mark gets no credential that the
client opens, unless the activation repeats an earlier one. -/
theorem untold_activation_fails
    (h : issueActivation env parsed authorization path material waits now
      (exec (Service.step env) .new steps) = (w, .ok answer))
    (hc : answer.Carries c) (hn : n < rt.maxRevocationEpoch)
    (htold : ∀ step ∈ steps ++ beforeReservation parsed authorization waits now,
      step.toldEpoch authorization.licenseId ≤ n) (hfresh : ((exec (Service.step env) .new
      (steps ++ beforeReservation parsed authorization waits now)).licenses
        authorization.licenseId).heldReservation
          { operation := .reserve, key := parsed.idempotencyKey } parsed.requestHash = none)
    (hdecoded : encoded.decoded = .ok envelope)
    (hpeek : envelope.peekUnverified MachineCredential = .ok c) (snapshot : ClientSnapshot)
    (result : MachineCredential × S.Material) :
    openMachineCredential config encoded chain snapshot opened rt.maxSecurityFloor
      rt.maxRevocationEpoch ≠ .ok result := by
  have hepoch := carries_nextEpoch h hc
  rw [← exec_append, LicenseDO.State.nextEpoch, hfresh] at hepoch
  have hbound : c.revocationEpoch ≤ n := by
    have hlicense := licenseEpoch_le_told env authorization.licenseId (w := Service.new) (n := n)
      (fun l hl => by cases hl) htold
    rw [hepoch]
    cases hl : ((exec (Service.step env) .new
        (steps ++ beforeReservation parsed authorization waits now)).licenses
          authorization.licenseId).license with
    | none => exact Nat.zero_le n
    | some l => exact hlicense l hl
  intro hopened
  obtain ⟨envelope', hdecoded', hpeek', hfine⟩ := openCredential_eq_ok hopened
  obtain rfl : envelope = envelope' := Except.ok.inj (hdecoded.symm.trans hdecoded')
  have hsame : c = result.1 := Except.ok.inj (hpeek.symm.trans hpeek')
  have hbehind : result.1.revocationEpoch < rt.maxRevocationEpoch := by
    rw [← hsame]
    omega
  exact hfine (by simp [credentialRefused, hbehind])

end

/-! ### A revocation of another license -/

/-- License `9` is revoked; then a certificate is uploaded and the keyset published again. -/
def revokedElsewhere : List ServiceStep :=
  let authorization := { sampleAuthorization .fast with licenseId := 9 }
  certificateUploaded ++ [ .registry (.reserveRevocation (.license 9) false 0 "admin" "r" 900),
      .license 9 ⟨900, .init (initCall sampleParsed authorization none)⟩,
      .license 9
        ⟨900, .revoke { licenseId := 9, subject := .license, revocationEpoch := 1 }⟩,
      .registry (.markApplied 1 "r" 900), .registry (.markPublished 1 "r" 900),
      .registry (.upload (certificateOf 6 2000) sampleRootKey), .registry .readCertificates,
      .registry (.readRevocationEpoch 0), .registry (.writeKeyset 0) ]

/-- The activation of license `1` after that. -/
def activationAnswer : Service × Except Failure Activated :=
  issueActivation sampleWorker sampleParsed (sampleAuthorization .fast) .online sampleMaterial
    noWaits 1000 (exec (Service.step sampleWorker) .new revokedElsewhere)

/-- A new client that installed the published keyset and applied the batch with license `9`. -/
def followingSystem : System sampleSuite :=
  let published := (exec (Service.step sampleWorker) .new revokedElsewhere).registry.keyset
  sampleRun (sampleCall 1000 (.start sampleKeys) ::
    published.toList.map (fun keyset => sampleCall 1000 (.installKeyset keyset)) ++ [otherRevoked])

/-- How the client opens a credential. -/
def opened (inner : Inner sampleSuite) (chain : VerifiedChain sampleSuite.sig)
    (encoded : Wire Envelope) (snapshot : ClientSnapshot) :=
  openMachineCredential sampleConfig encoded chain snapshot 1001 inner.runtime.maxSecurityFloor
    inner.runtime.maxRevocationEpoch

/-- An honest activation of a license that no revocation names is refused as a rollback. -/
theorem first_activation_rolls_back :
    ∃ w c encoded inner chain, activationAnswer = (w, .ok (.issued c encoded)) ∧
      followingSystem.client = some inner ∧ Synchronised inner.runtime w ∧
      inner.runtime.chain = some chain ∧ c.revocationEpoch < inner.runtime.maxRevocationEpoch ∧
      ∀ snapshot, opened inner chain encoded snapshot = .error .revocationRollback := by
  refine ⟨_, _, _, _, _, rfl, rfl, rfl, rfl, by decide, fun snapshot => ?_⟩
  rw [opened, openMachineCredential_eq_rollback_iff rfl rfl rfl rfl]
  decide

/-- The theorem at that activation. -/
theorem activation_passes_iff_first :
    ∃ w c encoded inner chain, activationAnswer = (w, .ok (.issued c encoded)) ∧
      followingSystem.client = some inner ∧ Synchronised inner.runtime w ∧
      inner.runtime.chain = some chain ∧ ∀ snapshot,
        ((inner.runtime.maxRevocationEpoch ≤ c.revocationEpoch ∧
            opened inner chain encoded snapshot ≠ .error .revocationRollback) ↔
          publishedEpoch w ≤ ((exec (Service.step sampleWorker) .new (revokedElsewhere ++
              beforeReservation sampleParsed (sampleAuthorization .fast) noWaits 1000)).licenses
                1).nextEpoch "k" 0) := by
  have hanswer : activationAnswer = (_, .ok (.issued _ _)) := rfl
  refine ⟨_, _, _, _, _, hanswer, rfl, rfl, rfl, fun snapshot => ?_⟩
  exact activation_passes_iff sampleWorker revokedElsewhere sampleConfig _ hanswer rfl []
    (by rfl) rfl rfl rfl rfl snapshot

/-- No revocation has told license `1` of an epoch. -/
theorem untold_activation_of_first :
    ∃ w c encoded inner chain, activationAnswer = (w, .ok (.issued c encoded)) ∧
      followingSystem.client = some inner ∧ inner.runtime.chain = some chain ∧
      ∀ snapshot result, opened inner chain encoded snapshot ≠ .ok result := by
  have hanswer : activationAnswer = (_, .ok (.issued _ _)) := rfl
  refine ⟨_, _, _, _, _, hanswer, rfl, rfl, fun snapshot result => ?_⟩
  exact untold_activation_fails (n := 0) sampleWorker revokedElsewhere sampleConfig _ hanswer rfl
    (by decide) (by decide) rfl rfl rfl snapshot result

end CopyLocker.Protocol
