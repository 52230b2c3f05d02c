import CopyLocker.Worker.ActivationSafety

/-!
# The seats of a license

Only `reserve` adds a row, and it counts the seats and looks for the device before it does. This
file turns both checks into statements about whole runs of a LicenseDO: no call raises the number
of held seats above the limit, and a device holds one seat at most.

The second one needs the machine ids. A completion writes the device of the stored reservation
into the row of its machine, and it does not look whether that row is still the one that was
reserved. The worker draws a fresh id for each reservation, so a row that was erased does not come
back under its id for another device, and `Call.DrawnFor` says so.

A key and a body do not stay with one row for ever: when the reserved row was given back before a
completion, the key is free again and the next request with it reserves another row. One of the
rows at most holds a seat.

## Main results

* `occupied_step`: a call that takes a seat finds one.
* `seated_exec`: a device holds one seat at most, in every run.
* `seats_of_every_run`: both, and what they say about the rows of one key.
-/

namespace CopyLocker.Worker.LicenseDO

open Foundation Run State Option List Table

/-! ### The limit -/

variable {env : Env} {s : State} {c : Call}

theorem RowStep.occupiesSeat {a a' : Activation}
    (h : RowStep env s c a a') (hseat : a'.status.occupiesSeat) :
    a.status.occupiesSeat := by
  cases h with
  | kept h => rwa [← h.status]
  | committed hpending =>
    rw [hpending]
    rfl
  | completed _ _ _ hseat' => exact hseat'
  | released hseat' => exact hseat'
  | revoked _ _ _ hstatus =>
    rw [hstatus] at hseat
    cases hseat

private theorem seats_of_write {l l' : License} {input : ReserveRequest}
    (hc : c.request = .reserve input) (h : Write c l l') : l'.seats = l.seats := by
  cases h with
  | configure h | applyPending h | administer h | countValidation h =>
    rw [h] at hc
    cases hc
  | recordNonce hnonce =>
    obtain ⟨nonces, -, rfl⟩ := map_eq_some_iff.1 hnonce
    rfl
  | _ => rfl

theorem seats_reserve (env : Env) (s : State) {input : ReserveRequest}
    (hc : c.request = .reserve input) : (step env s c).seats = s.seats := by
  cases hl : s.license with
  | none =>
    rcases step_of_none env hl c with hnone | ⟨input', l', hinit, -⟩
    · rw [seats, seats, hnone, hl]
    · rw [hc] at hinit
      cases hinit
  | some l =>
    obtain ⟨l', hl', hwrites⟩ := step_writes env s c l hl
    rw [seats, seats, hl, hl', map_some, map_some]
    have hseats : l'.seats = l.seats := by
      clear hl'
      induction hwrites with
      | refl => rfl
      | tail _ hwrite ih => exact (seats_of_write hc hwrite).trans ih
    rw [hseats]

private theorem occupied_le {s' : State} (new : List MachineId)
    (h : ∀ m a', s'.machine m = some a' → a'.status.occupiesSeat →
      m ∈ new ∨ ∃ a, s.machine m = some a ∧ a.status.occupiesSeat) :
    s'.occupied ≤ new.length + s.occupied := by
  cases hl' : s'.license with
  | none =>
    rw [occupied, hl']
    exact Nat.zero_le _
  | some l' =>
    have hrows (t : Table Activation.machineId) (hs : ∀ m, s.machine m = t.find m) :
        l'.occupied ≤ new.length + t.countWhere (·.status.occupiesSeat) := by
      refine countWhere_le new fun a' ha' hseat => ?_
      rw [mem_rows_iff, ← machine_of_license hl'] at ha'
      rcases h a'.machineId a' ha' hseat with hnew | ⟨a, ha, hseat'⟩
      · exact .inl hnew
      · obtain ⟨hmem, hkey⟩ := find_eq_some_iff.1 ((hs _).symm.trans ha)
        exact .inr ⟨a, hmem, hseat', hkey⟩
    rw [occupied, hl', map_some, getD_some]
    cases hl : s.license with
    | none =>
      have hnone : ∀ m, s.machine m = (empty : Table Activation.machineId).find m := by
        intro m
        rw [machine, hl]
        rfl
      rw [occupied, hl]
      exact hrows empty hnone
    | some l =>
      rw [occupied, hl]
      exact hrows l.activations (machine_of_license hl)

/-- A call that raises the number of held seats does not raise it above the limit. -/
theorem occupied_step (env : Env) (s : State) (c : Call)
    (hraise : s.occupied < (step env s c).occupied) :
    (step env s c).occupied ≤ s.seats ∧ (step env s c).seats = s.seats := by
  by_cases hinserted : ∃ a', Inserted s c a'
  · obtain ⟨a', hinserted⟩ := hinserted
    obtain ⟨input, hc, -⟩ := hinserted.request
    have hone : (step env s c).occupied ≤ 1 + s.occupied := by
      refine occupied_le [input.machineId] fun m a₁ ha₁ hseat => ?_
      rcases step_row env s c m a₁ ha₁ with ⟨a, ha, hstep⟩ | hnew
      · exact .inr ⟨a, ha, hstep.occupiesSeat hseat⟩
      · obtain ⟨input', hc', hmachine, -⟩ := hnew.request
        obtain rfl : input = input' := by simpa using hc.symm.trans hc'
        rw [← key_of_machine ha₁, hmachine]
        exact .inl (mem_singleton_self _)
    have hseat := hinserted.seat
    exact ⟨by omega, seats_reserve env s hc⟩
  · -- without a new row every held seat was held before
    have hnone : (step env s c).occupied ≤ 0 + s.occupied := by
      refine occupied_le [] fun m a' ha' hseat => ?_
      rcases step_row env s c m a' ha' with ⟨a, ha, hstep⟩ | hnew
      · exact .inr ⟨a, ha, hstep.occupiesSeat hseat⟩
      · exact absurd ⟨a', hnew⟩ hinserted
    omega

/-! ### One seat for a device -/

/-- The machine id of a reservation was drawn for its device. -/
def Call.DrawnFor (device : MachineId → Bytes) (c : Call) : Prop :=
  ∀ input, c.request = .reserve input → input.fingerprint = device input.machineId

/-- Two rows that hold a seat are of different devices. -/
def State.OneSeatEach (s : State) : Prop :=
  ∀ m m' a a', s.machine m = some a → s.machine m' = some a' → a.status.occupiesSeat = true →
    a'.status.occupiesSeat = true → a.fingerprint = a'.fingerprint → m = m'

/-- Rows and stored reservations have the device that their machine id was drawn for, and no
device holds two seats. -/
structure State.Seated (device : MachineId → Bytes) (s : State) : Prop where
  rows : ∀ m a, s.machine m = some a → a.fingerprint = device m
  reservations : ∀ key r, s.reservation key = some r → r.fingerprint = device r.machineId
  oneSeatEach : s.OneSeatEach

section Seated

variable {device : MachineId → Bytes} {env : Env} {s : State} {c : Call}

theorem State.Seated.row_step (h : s.Seated device) (hc : c.DrawnFor device) (m : MachineId)
    (a' : Activation) (ha' : (step env s c).machine m = some a') : a'.fingerprint = device m := by
  rcases step_row env s c m a' ha' with ⟨a, ha, hstep⟩ | hnew
  · have hrow := h.rows m a ha
    cases hstep with
    | kept hkeeps => exact hkeeps.fingerprint.trans hrow
    | committed _ hfingerprint | released _ hfingerprint | revoked _ _ hfingerprint =>
      exact hfingerprint.trans hrow
    | completed _ hr hmachine _ hfingerprint =>
      rw [hfingerprint, h.reservations _ _ hr, hmachine, key_of_machine ha]
  · obtain ⟨input, hinput, hmachine, hfingerprint⟩ := hnew.request
    rw [hfingerprint, hc input hinput, ← hmachine, key_of_machine ha']

theorem State.Seated.reservation_step (h : s.Seated device) (hc : c.DrawnFor device)
    (key : IdemKey) (r' : ReserveResponse) (hr' : (step env s c).reservation key = some r') :
    r'.fingerprint = device r'.machineId := by
  cases step_reservation env s c key r' hr' with
  | kept hr hmachine hfingerprint =>
    rw [hfingerprint, hmachine]
    exact h.reservations key _ hr
  | made hinput hmachine hfingerprint =>
    rw [hfingerprint, hmachine]
    exact hc _ hinput
  | reused _ ha hsame hfingerprint =>
    rw [hfingerprint, ← hsame]
    exact h.rows _ _ ha

/-- A new row is of a device that holds no seat. -/
theorem State.Seated.oneSeatEach_step (h : s.Seated device) (hc : c.DrawnFor device) :
    (step env s c).OneSeatEach := by
  intro m m' a a' ha ha' hseat hseat' hsame
  have hdevice : device m = device m' := by
    rw [← h.row_step hc m a ha, ← h.row_step hc m' a' ha', hsame]
  rcases step_row env s c m a ha with ⟨b, hb, hstep⟩ | hnew
  · have hb_seat := hstep.occupiesSeat hseat
    rcases step_row env s c m' a' ha' with ⟨b', hb', hstep'⟩ | hnew'
    · refine h.oneSeatEach m m' b b' hb hb' hb_seat (hstep'.occupiesSeat hseat') ?_
      rw [h.rows m b hb, h.rows m' b' hb', hdevice]
    · refine absurd ?_ (hnew'.alone m b hb hb_seat)
      rw [h.rows m b hb, hdevice, h.row_step hc m' a' ha']
  · rcases step_row env s c m' a' ha' with ⟨b', hb', hstep'⟩ | hnew'
    · refine absurd ?_ (hnew.alone m' b' hb' (hstep'.occupiesSeat hseat'))
      rw [h.rows m' b' hb', ← hdevice, h.row_step hc m a ha]
    · obtain ⟨input, hinput, hmachine, -⟩ := hnew.request
      obtain ⟨input', hinput', hmachine', -⟩ := hnew'.request
      obtain rfl : input = input' := by simpa using hinput.symm.trans hinput'
      rw [← key_of_machine ha, ← key_of_machine ha', hmachine, hmachine']

theorem seated_exec (env : Env) {calls : List Call} (hdrawn : ∀ c ∈ calls, c.DrawnFor device) :
    (exec (step env) new calls).Seated device := by
  refine exec_induction_along (P := fun _ c => c.DrawnFor device) (fun s c h hc =>
    ⟨h.row_step hc, h.reservation_step hc, h.oneSeatEach_step hc⟩) ?_
    ((along_const _ calls).2 hdrawn)
  exact ⟨fun _ _ h => (by cases h), fun _ _ h => (by cases h), fun _ _ _ _ h => (by cases h)⟩

end Seated

/-! ### The rows of one key -/

/-- A reservation under a key and a body adds the row of a machine. The body is known by its
hash, and the device is a part of it. -/
def Reserves (env : Env) (s : State) (c : Call) (key : String) (body : Digest)
    (fingerprint : Bytes) (m : MachineId) : Prop :=
  (∃ input, c.request = .reserve input ∧ input.idempotencyKey = key ∧
    input.requestHash.getD (env.operationHash (.reserve input)) = body ∧
    input.fingerprint = fingerprint) ∧
  s.machine m = none ∧ (step env s c).machine m ≠ none

/-- Some call of a run reserves the row of a machine for a key and a body. -/
def ReservedIn (env : Env) (calls : List Call) (key : String) (body : Digest)
    (fingerprint : Bytes) (m : MachineId) : Prop :=
  ∃ pre c post, calls = pre ++ c :: post ∧
    Reserves env (exec (step env) State.new pre) c key body fingerprint m

private theorem device_of_reserves {device : MachineId → Bytes}
    {key : String} {body : Digest} {fingerprint : Bytes} {m : MachineId}
    (h : Reserves env s c key body fingerprint m) (hc : c.DrawnFor device) :
    device m = fingerprint := by
  obtain ⟨⟨input, hinput, -, -, hfingerprint⟩, hnone, hsome⟩ := h
  obtain ⟨a', ha'⟩ := ne_none_iff_exists'.1 hsome
  rcases step_row env s c m a' ha' with ⟨a, ha, -⟩ | hnew
  · rw [hnone] at ha
    cases ha
  · obtain ⟨input', hinput', hmachine, -⟩ := hnew.request
    obtain rfl : input = input' := by simpa using hinput.symm.trans hinput'
    rw [← key_of_machine ha', hmachine, ← hc input hinput, hfingerprint]

/-- In every run in which a machine id is drawn for one device only, and whatever requests are
repeated or lost: no call raises the held seats above the limit it finds, two held seats are of
different devices, and of the rows reserved under one key and body at most one holds a seat. -/
theorem seats_of_every_run (env : Env) (device : MachineId → Bytes) (calls : List Call)
    (hdrawn : ∀ c ∈ calls, c.DrawnFor device) :
    (∀ pre c post, calls = pre ++ c :: post → let s := exec (step env) State.new pre
      s.occupied < (step env s c).occupied →
        (step env s c).occupied ≤ s.seats ∧ (step env s c).seats = s.seats) ∧
    (∀ pre post, calls = pre ++ post → (exec (step env) new pre).OneSeatEach) ∧
    (∀ pre post, calls = pre ++ post → ∀ key body fingerprint m m' a a',
      ReservedIn env pre key body fingerprint m → ReservedIn env pre key body fingerprint m' →
      (exec (step env) new pre).machine m = some a → a.status.occupiesSeat →
      (exec (step env) new pre).machine m' = some a' → a'.status.occupiesSeat →
      m = m') := by
  have hseated {pre post : List Call} (hcalls : calls = pre ++ post) :
      (exec (step env) new pre).Seated device :=
    seated_exec env fun c hc => hdrawn c (by
      rw [hcalls]
      exact mem_append_left post hc)
  refine ⟨fun pre c _ _ => occupied_step env _ c, fun pre post hcalls => ?_, ?_⟩
  · exact (hseated hcalls).oneSeatEach
  · intro pre post hcalls key body fingerprint m m' a a' hres hres' ha hseat ha' hseat'
    have hdevice {m : MachineId} (h : ReservedIn env pre key body fingerprint m) :
        device m = fingerprint := by
      obtain ⟨before, c, after, rfl, hreserves⟩ := h
      refine device_of_reserves hreserves (hdrawn c ?_)
      rw [hcalls]
      exact mem_append_left post (mem_append_right before mem_cons_self)
    have hs := hseated hcalls
    refine hs.oneSeatEach m m' a a' ha ha' hseat hseat' ?_
    rw [hs.rows m a ha, hs.rows m' a' ha', hdevice hres, hdevice hres']

/-! ### Two rows for one device and for one key -/

/-- The reserved row is erased and its machine id comes back for another device before the
completion, while the first device has reserved again. -/
def reusedMachineId : List Call :=
  [ ⟨0, .init { sampleInit with seats := 3 }⟩,
    ⟨10, .reserve sampleReserve⟩,
    ⟨11, .adminForget { licenseId := 1, machineId := 7, operationId := "f" }⟩,
    ⟨12, .reserve { sampleReserve with idempotencyKey := "k2", machineId := 8 }⟩,
    ⟨13, .reserve { sampleReserve with idempotencyKey := "k3", fingerprint := [2] }⟩,
    ⟨14, .complete sampleComplete⟩ ]

/-- A reservation that is never completed, and a second request with its key and body after the
alarm has given the seat back. -/
def reservedAgain : List Call :=
  [ ⟨0, .init sampleInit⟩,
    ⟨10, .reserve sampleReserve⟩,
    ⟨70, .alarm 0⟩,
    ⟨71, .reserve { sampleReserve with machineId := 8 }⟩ ]

private theorem reservedAgain_drawnFor : ∀ c ∈ reservedAgain, c.DrawnFor fun _ => [1] := by
  intro c hc input hinput
  simp only [reservedAgain, mem_cons, not_mem_nil, or_false] at hc
  rcases hc with rfl | rfl | rfl | rfl
  · cases hinput
  · cases hinput
    rfl
  · cases hinput
  · cases hinput
    rfl

theorem seats_of_reservedAgain :
    (exec (step sampleEnv) State.new reservedAgain).OneSeatEach :=
  (seats_of_every_run sampleEnv _ reservedAgain reservedAgain_drawnFor).2.1 reservedAgain []
    (by simp)

/-- A machine id that comes back gives one device two seats, and one key and body can reserve two
rows. -/
theorem device_and_key_with_two_rows :
    ¬ (exec (step sampleEnv) State.new reusedMachineId).OneSeatEach ∧
      ReservedIn sampleEnv reservedAgain "k" 0 [1] 7 ∧
      ReservedIn sampleEnv reservedAgain "k" 0 [1] 8 := by
  refine ⟨fun h => ?_, ?_, ?_⟩
  · have heq : (7 : MachineId) = 8 := h 7 8 _ _ rfl rfl rfl rfl rfl
    exact absurd heq (by decide)
  · refine ⟨reservedAgain.take 1, _, reservedAgain.drop 2, rfl, ?_⟩
    exact ⟨⟨sampleReserve, rfl, rfl, rfl, rfl⟩, by decide, by decide⟩
  · refine ⟨reservedAgain.take 3, _, reservedAgain.drop 4, rfl, ?_⟩
    exact ⟨⟨{ sampleReserve with machineId := 8 }, rfl, rfl, rfl, rfl⟩, by decide, by decide⟩

end CopyLocker.Worker.LicenseDO
