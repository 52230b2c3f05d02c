import CopyLocker.Client.Relaunch
import CopyLocker.Client.Restart
import CopyLocker.Wasm.Relaunch

/-!
# Restarting grants nothing

Neither shell stores its state: the desktop client rebuilds it from the record in its store, the
browser session from the snapshot that it exported. So a restart can end a lock whose reason is not
among what is stored. Along runs whose calls are regular it does not.
-/

namespace CopyLocker.Client

open Foundation.Saturating

variable {S : CryptoSuite}

/-- The client does not permit keys, and a client constructed from the store does after a tick. -/
def System.RestartGrants (config : Config) (sys : System S) (t : ℤ) : Prop :=
  ∃ inner, sys.client = some inner ∧ inner.runtime.state.permitsKeyDerivation = false ∧
    ∃ generated started inner', construct S config sys.store generated started = .ok inner' ∧
      (inner'.runtime.handle .tick t).state.permitsKeyDerivation = true

/-- The refresh deadline of the running client fits its word. -/
def System.Fits (sys : System S) : Prop :=
  ∀ inner, sys.client = some inner → inner.runtime.state.deadlines.refreshAfter ≤ signedMax 64

end CopyLocker.Client

namespace CopyLocker.Wasm

open Client

variable {S : CryptoSuite}

/-- The session does not permit keys, and a fresh session that imports its snapshot does after a
tick. -/
def Session.ImportGrants (config : Config) (anchors : TrustAnchors S) (s : Session S) (t : ℤ) :
    Prop :=
  s.state.permitsKeyDerivation = false ∧ ∃ blob seedNow started, s.snapshotExport = .ok blob ∧
      (((Session.new config seedNow : Session S).snapshotImport config anchors blob
        started).1.handle
        .tick t).state.permitsKeyDerivation = true

end CopyLocker.Wasm

namespace CopyLocker.Protocol

open Foundation.Run Foundation.Saturating Proto Client Wasm

/-- In every run of regular calls of the desktop client that ends with a tick that can write, and in
every run of regular operations of the browser session: if the instance does not permit keys, an
instance rebuilt from what it stored, whenever that is, does not permit them after a tick. -/
theorem restart_grants_nothing {S : CryptoSuite} (config : Config) (anchors : TrustAnchors S) :
    (∀ (store : KeyStore) (calls : List Call) (tick : Call), tick.operation.isTick = true →
      Along (step config) (Regular config) (.stopped S store)
        (calls ++ [tick]) →
      (exec (step config) (.stopped S store) calls).Writes tick →
      (exec (step config) (.stopped S store) (calls ++ [tick])).Fits →
      ¬ (exec (step config) (.stopped S store)
        (calls ++ [tick])).RestartGrants config tick.now) ∧
    ∀ (seedNow : ℤ) (calls : List SessionCall) (t : ℤ),
      Along (Session.step config anchors) (SessionCall.Regular config anchors)
        (Session.new config seedNow) calls →
      (exec (Session.step config anchors) (Session.new config seedNow)
        calls).state.deadlines.refreshAfter ≤ signedMax 64 →
      ¬ (exec (Session.step config anchors) (Session.new config seedNow) calls).ImportGrants
        config anchors t := by
  constructor
  · rintro store calls tick htick hregular hwrites hfits
      ⟨inner, hinner, hbarred, generated, started, inner', hconstruct, hpermits⟩
    have hkept := not_permits_of_relaunched rfl htick hregular hwrites hinner (hfits inner hinner)
      hbarred hconstruct tick.now
    rw [hkept] at hpermits
    cases hpermits
  · rintro seedNow calls t hregular hfits ⟨hbarred, blob, seedNow', started, hexport, hpermits⟩
    have hkept := (Session.exec_rebuildable hregular).not_permits_of_imported config
      anchors hfits hbarred hexport seedNow' started t
    rw [hkept] at hpermits
    cases hpermits

/-! ### Locks that are not stored -/

/-- A tick of the scheduler while the store works. -/
def schedulerTick (now : ℤ) : Call := sampleCall now (.schedulerCycle false)

/-- An activated client ticks at `10000`, then four times with its clock turned back to `0`, and
again at `10000`. -/
def turnedBack : List Call :=
  activation 0 ++ [schedulerTick 10000, schedulerTick 0, schedulerTick 0, schedulerTick 0,
    schedulerTick 0, schedulerTick 10000]

/-- The root of the sample configuration. -/
def sampleAnchors : TrustAnchors sampleSuite where
  current := { digest := 0, key := { pq := (), ed := () } }
  next := none

/-- A tick of the host. -/
def hostTick (now : ℤ) : SessionCall := { now, op := .event .tick }

def activationResponse : Wire Envelope :=
  sampleEnvelope .machineCred (.machineCred (sampleCredential 0)) (some 5)

/-- Device keys, keyset and credential of a session. -/
def sessionActivation : List SessionCall :=
  [⟨1000, .deviceKeygen (some sampleKeys)⟩,
    ⟨1000, .ingestKeyset (.ok sampleKeyset)⟩,
    ⟨1000, .ingestActivateResponse activationResponse⟩]

/-- A run of a session that begins at `1000`. -/
def sampleSession (calls : List SessionCall) : Session sampleSuite :=
  exec (Session.step sampleConfig sampleAnchors) (Session.new sampleConfig 1000) calls

/-- An activated session ticks when its refresh is due, fails to validate after grace has run out,
and ticks with its clock set back into grace. -/
def setBack : List SessionCall :=
  sessionActivation ++
    [hostTick 50000, ⟨60000, .event .networkFailed⟩, hostTick 50001]

/-- A desktop client that its rollbacks have locked permits keys after a restart, and so does a
browser session that a failed validation has locked. -/
theorem restart_ends_locks :
    (sampleRun turnedBack).RestartGrants sampleConfig 10000 ∧
      (sampleSession setBack).ImportGrants sampleConfig sampleAnchors 50001 := by
  constructor
  · exact ⟨_, rfl, rfl, sampleKeys, 10000, _, rfl, rfl⟩
  · exact ⟨rfl, _, 1000, 50001, rfl, rfl⟩

/-! ### A lock that is stored -/

/-- An activated client that ticks when its refresh is due, after its grace has run out. -/
def refreshMissed : List Call := activation 0 ++ [schedulerTick 60000]

/-- An activated session that ticks twice after its grace has run out. -/
def graceMissed : List SessionCall := sessionActivation ++ [hostTick 60000, hostTick 60001]

theorem regular_refreshMissed :
    Along (step sampleConfig) (Regular sampleConfig) (.stopped sampleSuite none)
      (refreshMissed ++ [schedulerTick 60001]) := by
  refine ⟨⟨by decide, rfl, ?_, ?_⟩, ⟨by decide, rfl, fun _ _ => trivial, ?_⟩,
    ⟨by decide, rfl, ?_, ?_⟩, ⟨by decide, rfl, ?_, ?_⟩, ⟨by decide, rfl, ?_, ?_⟩, trivial⟩
  · rintro _ ⟨⟩
  · rintro _ _ _ _ _ _ _ ⟨⟩
  · rintro _ _ _ _ ⟨⟩
  · rintro _ ⟨⟩
    exact LicenseState.noConfusion
  · rintro _ _ _ _ ⟨⟩
  · rintro _ ⟨⟩ hlock
    exact absurd hlock (by decide)
  · rintro _ _ _ _ ⟨⟩
  · rintro _ ⟨⟩ hlock
    exact absurd hlock (by decide)
  · rintro _ _ _ _ ⟨⟩

private theorem regular_graceMissed :
    Along (Session.step sampleConfig sampleAnchors)
      (SessionCall.Regular sampleConfig sampleAnchors) (Session.new sampleConfig 1000)
      graceMissed := by
  have hoperation {s : Session sampleSuite} {call : SessionCall} (hfits : call.now ≤ signedMax 64)
      (hsteady : call.op.Steady s.state call.now) (hop : call.op.isImport = false) :
      SessionCall.Regular sampleConfig sampleAnchors s call :=
    ⟨hfits, hsteady, fun _ _ _ himport => by rw [himport] at hop; cases hop⟩
  refine ⟨hoperation (by decide) trivial rfl, hoperation (by decide) trivial rfl,
    hoperation (by decide) trivial rfl, hoperation (by decide) ?_ rfl,
    hoperation (by decide) ?_ rfl, trivial⟩
  · intro hlock
    exact absurd hlock (by decide)
  · intro hlock
    exact absurd hlock (by decide)

/-- The theorem at runs whose grace has run out. -/
theorem restart_grants_nothing_expired :
    (∃ inner, (sampleRun (refreshMissed ++ [schedulerTick 60001])).client = some inner ∧
      inner.runtime.state.permitsKeyDerivation = false) ∧
    ¬ (sampleRun (refreshMissed ++ [schedulerTick 60001])).RestartGrants sampleConfig 60001 ∧
    (sampleSession graceMissed).state.permitsKeyDerivation = false ∧
    ¬ (sampleSession graceMissed).ImportGrants sampleConfig sampleAnchors 60001 := by
  obtain ⟨hdesktop, hbrowser⟩ := restart_grants_nothing sampleConfig sampleAnchors
  refine ⟨⟨_, rfl, rfl⟩, ?_, rfl, ?_⟩
  · refine hdesktop none refreshMissed (schedulerTick 60001) rfl regular_refreshMissed ?_ ?_
    · rintro inner ⟨⟩ -
      exact ⟨_, rfl⟩
    · rintro inner ⟨⟩
      decide
  · exact hbrowser 1000 graceMissed 60001 regular_graceMissed (by decide)

end CopyLocker.Protocol
