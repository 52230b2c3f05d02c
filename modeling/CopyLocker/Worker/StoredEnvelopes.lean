import CopyLocker.Worker.ActivationSafety

/-!
# Replayed activations

The answer to a finished activation is kept under the idempotency key of its reservation, and a
reservation with the same key and the same request is answered from there. The row of the key and
the row of the machine have lives of their own: the first is erased a day after its reservation,
the second changes when the machine is revoked, deactivated, reclaimed or forgotten. A replay asks
for the machine only while the activation is unfinished. Once the envelope is stored, what decides
is the license and the kept row.
-/

namespace CopyLocker.Worker.LicenseDO

open Foundation Run Proto State

/-- The answer is a reservation of the machine `m` that carries the envelope `e`. -/
def Response.Returns (answer : Response) (m : MachineId) (e : Wire Envelope) : Prop :=
  ∃ httpStatus r, answer = .reserved httpStatus r ∧ r.machineId = m ∧ r.activationEnvelope = some e

/-- The request is well formed, and the license is initialised, active and not expired. -/
def Admitted (s : State) (input : ReserveRequest) (now : ℤ) : Prop :=
  (validateReservation input).isSome ∧ fitsI64 input.authoritativeSecurityFloor ∧
    ∃ l, s.license = some l ∧ l.status = .active ∧ ¬ l.expired now

/-- The key under which the answer to a reservation is kept. -/
def ReserveRequest.idemKey (input : ReserveRequest) : IdemKey :=
  { operation := .reserve, key := input.idempotencyKey }

/-- The row of the request's key was stored for the same request and holds the envelope `e` for the
machine `m`. -/
def Holds (env : Env) (s : State) (input : ReserveRequest) (m : MachineId) (e : Wire Envelope) :
    Prop :=
  ∃ row r, s.idem.find input.idemKey = some row ∧
    row.requestHash = input.requestHash.getD (env.operationHash (.reserve input)) ∧
    row.reservation = some r ∧ r.machineId = m ∧ r.activationEnvelope = some e

/-- The call completes the reservation of the key with the envelope `e`, and finds the machine `m`
with a seat. -/
def Completes (key : IdemKey) (m : MachineId) (e : Wire Envelope) (s : State) (c : Call) : Prop :=
  ∃ input a, c.request = .complete input ∧
    key = { operation := .reserve, key := input.idempotencyKey } ∧ input.machineId = m ∧
    input.activationEnvelope = e ∧ s.machine m = some a ∧ a.status.occupiesSeat = true

/-! ### The answer to one reservation -/

/-- A reservation that is not a replay is answered without an envelope. -/
theorem not_returns_reserveFresh (s : State) (l : License) (input : ReserveRequest) (variantId : ℤ)
    (requestHash : Digest) (now : ℤ) (m : MachineId) (e : Wire Envelope) :
    ¬ (reserveFresh s l input variantId requestHash now).2.Returns m e := by
  rintro ⟨httpStatus, r, hanswer, -, he⟩
  revert hanswer
  fun_cases reserveFresh s l input variantId requestHash now with
  | case2 | case5 =>
    intro hanswer
    rw [← (Response.reserved.inj hanswer).2] at he
    cases he
  | _ => rintro ⟨⟩

variable {env : Env} {s : State} {m : MachineId} {e : Wire Envelope}

private theorem admitted_and_holds_of_returns {input : ReserveRequest}
    {now : ℤ} (h : (reserve env s input now).2.Returns m e) :
    Admitted s input now ∧ Holds env s input m e := by
  unfold reserve at h
  split at h
  · obtain ⟨_, _, ⟨⟩, _⟩ := h
  next variantId hvalid =>
  split at h
  · obtain ⟨_, _, ⟨⟩, _⟩ := h
  next l hl =>
  split at h
  · obtain ⟨_, _, ⟨⟩, _⟩ := h
  next hopen =>
  split at h
  · obtain ⟨_, _, ⟨⟩, _⟩ := h
  next hfits =>
  obtain ⟨hactive, hexpired⟩ := not_or.1 hopen
  refine ⟨⟨by rw [hvalid]; rfl, not_not.1 hfits, l, hl, not_not.1 hactive, hexpired⟩, ?_⟩
  dsimp only at h
  split at h
  · obtain ⟨_, _, ⟨⟩, _⟩ := h
  · exact absurd h (not_returns_reserveFresh _ _ _ _ _ _ _ _)
  next row hload =>
  obtain ⟨hfind, hhash⟩ := loadOperation_eq_completed hload
  split at h
  · obtain ⟨_, _, ⟨⟩, _⟩ := h
  next cached hcached =>
  split at h
  · obtain ⟨httpStatus, r, hanswer, hm, he⟩ := h
    cases hanswer
    exact ⟨row, cached, hfind, hhash, hcached, hm, he⟩
  · exact absurd h (not_returns_reserveFresh _ _ _ _ _ _ _ _)

/-- A reservation is answered with an envelope exactly when it is admitted and the row of its key
holds that envelope. The machine's own row is not asked. -/
theorem reserve_returns_iff (env : Env) (s : State) (input : ReserveRequest) (now : ℤ)
    (m : MachineId) (e : Wire Envelope) :
    (reserve env s input now).2.Returns m e ↔ Admitted s input now ∧ Holds env s input m e := by
  refine ⟨admitted_and_holds_of_returns, ?_⟩
  rintro ⟨⟨hvalid, hfits, l, hl, hactive, hexpired⟩, row, r, hfind, hhash, hr, hm, he⟩
  obtain ⟨variantId, hvariant⟩ := Option.isSome_iff_exists.1 hvalid
  have hload : (s.setLicense (l.raiseFloor input.authoritativeSecurityFloor)).loadOperation
      { operation := .reserve, key := input.idempotencyKey }
      (input.requestHash.getD (env.operationHash (.reserve input))) = .completed row := by
    rw [← hhash]
    change s.loadOperation input.idemKey row.requestHash = _
    simp [loadOperation, hfind]
  have hopen : ¬ (l.status ≠ .active ∨ l.expired now) :=
    not_or.2 ⟨not_not.2 hactive, hexpired⟩
  have hstored : r.activationEnvelope.isSome := by rw [he]; rfl
  refine ⟨if r.reusedExisting then 200 else 201, r, ?_, hm, he⟩
  unfold reserve
  simp [hvariant, hl, if_neg hopen, hfits, hload, hr, hstored]

/-! ### The kept envelopes along a run -/

/-- An envelope kept for the key. -/
private def State.Keeps (s : State) (key : IdemKey) (m : MachineId) (e : Wire Envelope) : Prop :=
  ∃ r, s.reservation key = some r ∧ r.machineId = m ∧ r.activationEnvelope = some e

/-- The call after which an envelope is kept is its completion. -/
private theorem completes_of_keeps {c : Call} {key : IdemKey} (hnot : ¬ s.Keeps key m e)
    (h : (step env s c).Keeps key m e) : Completes key m e s c := by
  obtain ⟨r', hr', hm, he⟩ := h
  cases step_stored env s c key r' hr' with
  | carried hr => exact absurd ⟨r', hr, hm, he⟩ hnot
  | fresh _ hunfinished =>
    rw [hunfinished] at he
    cases he
  | @completed input r a hc hkey hr hmachine ha hseat heq =>
    subst heq
    refine ⟨input, a, hc, hkey, hmachine.symm.trans hm, Option.some.inj he, ?_, hseat⟩
    rw [← hm]
    exact ha

/-- An envelope that a run has left under a key was stored there by a completion, which found the
machine with a seat. -/
theorem occurs_completes {calls : List Call} {key : IdemKey} {r : ReserveResponse}
    (hr : (exec (step env) new calls).reservation key = some r)
    (he : r.activationEnvelope = some e) :
    Occurs (step env) (Completes key r.machineId e) new calls := by
  have hnew : ¬ new.Keeps key r.machineId e := by
    rintro ⟨r₀, hr₀, -⟩
    cases hr₀
  have hreached : (exec (step env) new calls).Keeps key r.machineId e := ⟨r, hr, rfl, he⟩
  obtain ⟨pre, c, post, hsplit, hnot, hkeeps⟩ :=
    occurs_of_reached (T := fun s : State ↦ s.Keeps key r.machineId e) hnew hreached
  exact ⟨pre, c, post, hsplit, completes_of_keeps hnot hkeeps⟩

/-- After any history, a reservation is answered with a stored envelope exactly when it is admitted
and the row of its key and request still holds that envelope, whatever has become of the machine.
The envelope was stored by a completion that found the machine with a seat. -/
theorem replayed_envelope_iff (env : Env) (calls : List Call) (input : ReserveRequest) (now : ℤ)
    (m : MachineId) (e : Wire Envelope) :
    let s := exec (step env) State.new calls
    ((answer env s { now, request := .reserve input }).Returns m e ↔
        Admitted s input now ∧ Holds env s input m e) ∧
      (Holds env s input m e → Occurs (step env) (Completes input.idemKey m e) new calls) := by
  intro s
  refine ⟨reserve_returns_iff env s input now m e, ?_⟩
  rintro ⟨row, r, hfind, -, hr, rfl, he⟩
  refine occurs_completes (r := r) ?_ he
  change (s.idem.find input.idemKey).bind IdemRow.reservation = some r
  rw [hfind, Option.bind_some, hr]

/-! ### An envelope after its machine was revoked -/

/-- An activation that is finished, and then its machine is revoked. -/
def revokedMachine : List Call :=
  [ ⟨0, .init sampleInit⟩,
    ⟨10, .reserve sampleReserve⟩,
    ⟨11, .complete sampleComplete⟩,
    ⟨12, .revoke { licenseId := 1, subject := .machine 7, revocationEpoch := 1 }⟩ ]

/-- The reservation is answered with the envelope of the machine that was revoked. -/
theorem revoked_machine_envelope_replayed :
    ¬ ∀ (env : Env) (calls : List Call) (input : ReserveRequest) (now : ℤ) (m : MachineId)
        (e : Wire Envelope),
      let s := exec (step env) State.new calls
      (answer env s { now, request := .reserve input }).Returns m e →
        s.machineStatus m = some .active := by
  intro h
  have hreturns := (reserve_returns_iff sampleEnv (exec (step sampleEnv) new revokedMachine)
    sampleReserve 13 7 sampleComplete.activationEnvelope).2
      ⟨⟨rfl, rfl, _, rfl, rfl, nofun⟩, _, _, rfl, rfl, rfl, rfl, rfl⟩
  exact absurd (h sampleEnv revokedMachine sampleReserve 13 7 _ hreturns) (by decide)

end CopyLocker.Worker.LicenseDO
