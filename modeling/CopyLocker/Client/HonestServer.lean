import CopyLocker.Client.Flights

/-!
# A desktop client and an honest server

Every response of an honest server is signed by an epoch of one authority and answers the request
that it was sent for. Whether the client survives such a response depends on what has become of it
since the request: every check compares the response with the client as it is now, and a mismatch
fails closed. So each kind of response has two descriptions, what the server owes to the request and
what the client must still be when it looks, and under both the section loses nothing.

## Main results

* `verifyKeyset_of_honest`: an honest keyset verifies, to a chain of the authority's epochs.
* `calm_previewTicket`, `calm_acceptTicket`, `calm_activateInstall`, `calm_installKeyset`: the
  sections that look at a response lose nothing.
* `acceptKillOrder_of_honest`, `applyBatch_of_honest`: those that wipe, wipe what is named.
-/

namespace CopyLocker.Client

open CopyLocker.Core Foundation.Saturating Proto Suite Section VerifiedChain List

variable {encoded : Wire Envelope} {snapshot : ClientSnapshot} {t : ValidationTicket}
  {c : MachineCredential} {batch : RevocationBatch}

variable {S : CryptoSuite}

/-! ### The server's signatures -/

/-- The verifying keys of a signing epoch. -/
structure EpochKeys (S : CryptoSuite) where
  durable : S.sig.VerifyingKey
  fast : (fastSig S.primitives).VerifyingKey

/-- The server's signing epochs. -/
abbrev Authority (S : CryptoSuite) := EpochId → Option (EpochKeys S)

section Signed

variable {α : Type} [Artifact α] (config : Config) (auth : Authority S) (envelope : Envelope)
  (a : α)

/-- An epoch of the authority has signed this artifact with its fast key. -/
def SignedFast : Prop :=
  ∃ id keys, envelope.epochRef = some id ∧ auth id = some keys ∧
    envelope.openArtifact α (fastSig S.primitives) config.productId keys.fast = .ok a

/-- An epoch of the authority has signed this artifact with its key for durable artifacts. -/
def SignedDurable : Prop :=
  ∃ id keys, envelope.epochRef = some id ∧ auth id = some keys ∧
    envelope.openArtifact α S.sig config.productId keys.durable = .ok a

end Signed

/-- Every certificate of the chain is one of the authority's. -/
def ChainOf (auth : Authority S) (chain : VerifiedChain S.sig) : Prop :=
  ∀ e ∈ chain.epochs, ∃ keys, auth e.cert.epochId = some keys ∧ e.vk = keys.durable ∧
    (fastSig S.primitives).decodeVk e.cert.vkFast = .ok keys.fast

variable {α : Type} [Artifact α] {config : Config} {auth : Authority S} {envelope : Envelope}
  {chain : VerifiedChain S.sig} {now : ℤ} {e : VerifiedEpoch S.sig} {a : α}

/-- The signer that a chain of the authority knows has the authority's keys. -/
theorem ChainOf.keys_of_signer (h : ChainOf auth chain)
    (hsigner : chain.signer envelope now = .ok e) {id : EpochId} {keys : EpochKeys S}
    (href : envelope.epochRef = some id)
    (hauth : auth id = some keys) :
    e.vk = keys.durable ∧ (fastSig S.primitives).decodeVk e.cert.vkFast = .ok keys.fast := by
  obtain ⟨id', href', hepoch, -, -⟩ := signer_eq_ok_iff.1 hsigner
  obtain rfl : id = id' := Option.some.inj (href.symm.trans href')
  obtain ⟨keys', hauth', hkeys⟩ := h e (mem_of_find?_eq_some hepoch)
  have hid : e.cert.epochId = id := by simpa using find?_some hepoch
  rw [hid, hauth] at hauth'
  cases hauth'
  exact hkeys

theorem SignedFast.verify (h : SignedFast config auth envelope a) (hchain : ChainOf auth chain)
    (hsigner : chain.signer envelope now = .ok e) :
    chain.verifyArtifactFast α (fastSig S.primitives) envelope config.productId now = .ok a := by
  obtain ⟨id, keys, href, hauth, hopen⟩ := h
  have hkeys := hchain.keys_of_signer hsigner href hauth
  rw [verifyArtifactFast_eq_ok hsigner hkeys.2]
  exact hopen

theorem SignedDurable.verify (h : SignedDurable config auth envelope a)
    (hchain : ChainOf auth chain) (hsigner : chain.signer envelope now = .ok e) :
    chain.verifyArtifact α envelope config.productId now = .ok a := by
  obtain ⟨id, keys, href, hauth, hopen⟩ := h
  have hkeys := hchain.keys_of_signer hsigner href hauth
  simp only [verifyArtifact, hsigner, hkeys.1]
  exact hopen

theorem SignedFast.peek (h : SignedFast config auth envelope a) :
    envelope.peekUnverified α = .ok a := by
  obtain ⟨id, keys, -, -, hopen⟩ := h
  exact EnvelopeOf.peekUnverified_of_openArtifact hopen

theorem SignedDurable.peek (h : SignedDurable config auth envelope a) :
    envelope.peekUnverified α = .ok a := by
  obtain ⟨id, keys, -, -, hopen⟩ := h
  exact EnvelopeOf.peekUnverified_of_openArtifact hopen

/-! ### Keysets -/

/-- A certificate that a pinned root has issued to an epoch of the authority. -/
structure Certified (auth : Authority S) (anchors : TrustAnchors S) (productId : ProductId)
    (envelope : Envelope) (cert : EpochCert) : Prop where
  header : envelope.protoVer = Proto.protoVer ∧ envelope.suiteId = S.suiteId ∧
    envelope.epochRef = none
  body : cert.protoVer = Proto.protoVer ∧ cert.suiteId = S.suiteId ∧ cert.notBefore < cert.notAfter
  issuer : ∃ root, anchors.rootFor cert.issuerVkDigest = some root ∧
    S.hash (S.sig.encodeVk root) = cert.issuerVkDigest ∧
    S.sig.verify root { kind := .epochCert, suiteId := cert.suiteId, productId } envelope.tbs
      envelope.sig = .ok ()
  keys : ∃ keys, auth cert.epochId = some keys ∧ S.sig.decodeVk cert.vk = .ok keys.durable ∧
    (fastSig S.primitives).decodeVk cert.vkFast = .ok keys.fast

/-- A keyset of readable certificates, in which those for this product are certified. -/
structure HonestKeyset (config : Config) (auth : Authority S) (anchors : TrustAnchors S)
    (keyset : Keyset) : Prop where
  protoVer : keyset.protoVer = Proto.protoVer
  certificates : ∀ encoded ∈ keyset.epochCertificates, ∃ envelope cert,
    encoded.decoded = .ok envelope ∧ envelope.peekUnverified EpochCert = .ok cert ∧
    (cert.productScope = some config.productId →
      Certified auth anchors config.productId envelope cert)

/-- The keyset is not behind the client, and lists no epoch that the client knows as revoked. -/
structure KeysetFits (rt : Runtime S) (keyset : Keyset) : Prop where
  revocation : rt.maxRevocationEpoch ≤ keyset.revocationEpoch
  listed : ∀ snapshot, rt.snapshot = some snapshot → ∀ encoded ∈ keyset.epochCertificates,
    ∀ envelope cert, encoded.decoded = .ok envelope →
      envelope.peekUnverified EpochCert = .ok cert → cert.epochId ∉ snapshot.revokedEpochs

variable {anchors : TrustAnchors S} {root : S.sig.VerifyingKey}

theorem accepts_of_rootFor {digest : Digest}
    (h : anchors.rootFor digest = some root) : anchors.pins.accepts digest := by
  unfold TrustAnchors.rootFor at h
  unfold PinnedRoots.accepts TrustAnchors.pins
  split_ifs at h with hcurrent
  · simp [hcurrent]
  · obtain ⟨next, hnext, -⟩ := Option.map_eq_some_iff.1 h
    obtain ⟨hsome, hdigest⟩ := Option.filter_eq_some_iff.1 hnext
    have hdigest : next.digest = digest := by simpa using hdigest
    simp [hsome, hdigest]

/-- What the chain is while the certificates of a keyset are added. -/
structure Growing (auth : Authority S) (anchors : TrustAnchors S) (revocation : RevocationState)
    (chain : VerifiedChain S.sig) : Prop where
  roots : chain.roots = anchors.pins
  revocation : chain.revocation = revocation
  epochs : ChainOf auth chain

variable {revocation : RevocationState} {cert : EpochCert}

/-- A certified epoch that is not revoked is added. -/
theorem addEpoch_of_certified (hchain : Growing auth anchors revocation chain)
    (hcert : Certified auth anchors config.productId envelope cert)
    (hpeek : envelope.peekUnverified EpochCert = .ok cert)
    (hwindow : cert.window.contains now)
    (hlisted : revocation.isEpochRevoked cert.epochId = false)
    (hroot : anchors.rootFor cert.issuerVkDigest = some root) :
    ∃ chain', chain.addEpoch S.hash envelope config.productId root now = .ok chain' ∧
      Growing auth anchors revocation chain' := by
  obtain ⟨root', hroot', hdigest, hsig⟩ := hcert.issuer
  obtain rfl : root = root' := Option.some.inj (hroot.symm.trans hroot')
  obtain ⟨keys, hauth, hdurable, hfast⟩ := hcert.keys
  have haccepts : chain.roots.accepts cert.issuerVkDigest := by
    rw [hchain.roots]
    exact accepts_of_rootFor hroot
  have hrevoked : chain.revocation.isEpochRevoked cert.epochId = false := by
    rw [hchain.revocation]
    exact hlisted
  unfold addEpoch
  simp only [hpeek, haccepts, hdigest, hsig, hwindow, hrevoked, bind, Except.bind, ne_eq,
    not_true_eq_false, if_false, pure, Except.pure, Bool.false_eq_true]
  split
  next e he =>
    rw [hdurable] at he
    cases he
  next vk hvk =>
    refine ⟨_, rfl, hchain.roots, hchain.revocation, ?_⟩
    intro e he
    rcases mem_append.1 he with hold | hnew
    · exact hchain.epochs e (mem_filter.1 hold).1
    · obtain rfl := mem_singleton.1 hnew
      rw [hdurable] at hvk
      exact ⟨keys, hauth, (Except.ok.inj hvk).symm, hfast⟩

private theorem addCertificate_of_honest (hchain : Growing auth anchors revocation chain)
    (hdecoded : encoded.decoded = .ok envelope)
    (hpeek : envelope.peekUnverified EpochCert = .ok cert)
    (hcert : cert.productScope = some config.productId →
      Certified auth anchors config.productId envelope cert)
    (hlisted : revocation.isEpochRevoked cert.epochId = false) :
    ∃ chain', anchors.addCertificate config.productId now chain encoded = .ok chain' ∧
      Growing auth anchors revocation chain' := by
  unfold TrustAnchors.addCertificate
  simp only [hdecoded, hpeek, orFatal, bind, Except.bind]
  split_ifs with hscope hmalformed hwindow
  · exact ⟨chain, rfl, hchain⟩
  · have hcertified := hcert (not_not.1 hscope)
    have hheader := hcertified.header
    have hbody := hcertified.body
    refine absurd hmalformed ?_
    simp [hheader, hbody]
  · have hcertified := hcert (not_not.1 hscope)
    obtain ⟨root, hroot, -⟩ := hcertified.issuer
    obtain ⟨chain', hadd, hgrown⟩ := addEpoch_of_certified hchain hcertified hpeek hwindow hlisted
      hroot
    exact ⟨chain', by simp only [hroot, hadd], hgrown⟩
  · exact ⟨chain, rfl, hchain⟩

/-- An honest keyset that fits the client verifies, to a chain of the authority's epochs. -/
theorem verifyKeyset_of_honest (now : ℤ) {keyset : Keyset}
    (h : HonestKeyset config auth anchors keyset) {rt : Runtime S} (hfits : KeysetFits rt keyset)
    (hsnapshot : rt.snapshot = some snapshot) :
    ∃ chain, anchors.verifyKeyset keyset config.productId now rt.maxRevocationEpoch
        snapshot.revokedEpochs = .ok chain ∧ ChainOf auth chain ∧
      chain.revocation.epoch = rt.maxRevocationEpoch := by
  let revocation : RevocationState :=
    { epoch := rt.maxRevocationEpoch, revokedEpochs := mergeEpochs [] snapshot.revokedEpochs }
  have hempty : Growing auth anchors revocation
      { new anchors.pins with revocation } := by
    refine ⟨rfl, rfl, ?_⟩
    intro e he
    cases he
  have hfold : ∃ chain, keyset.epochCertificates.foldlM
      (anchors.addCertificate config.productId now)
      { new anchors.pins with revocation } = .ok chain ∧
        Growing auth anchors revocation chain := by
    refine Foundation.Result.foldlM_succeeds (fun encoded hmem chain hchain => ?_) hempty
    obtain ⟨envelope, cert, hdecoded, hpeek, hcert⟩ := h.certificates encoded hmem
    have hlisted : revocation.isEpochRevoked cert.epochId = false := by
      have hnot := hfits.listed snapshot hsnapshot encoded hmem envelope cert hdecoded hpeek
      rw [RevocationState.isEpochRevoked, Bool.eq_false_iff, ne_eq, contains_iff_mem]
      intro hin
      rcases mem_mergeEpochs.1 hin with hnil | hin
      · cases hnil
      · exact hnot hin
    exact addCertificate_of_honest hchain hdecoded hpeek hcert hlisted
  obtain ⟨chain, hchain, hgrown⟩ := hfold
  refine ⟨chain, ?_, hgrown.epochs, by rw [hgrown.revocation]⟩
  unfold TrustAnchors.verifyKeyset
  rw [if_neg (not_not.2 h.protoVer), if_neg (Nat.not_lt.2 hfits.revocation)]
  exact hchain

/-! ### A healthy client -/

/-- What the client keeps while its server is honest and nothing disturbs it. -/
structure Runtime.Healthy (auth : Authority S) (rt : Runtime S) : Prop where
  state : rt.state.state ≠ .tampered
  keys : ∀ snapshot, rt.snapshot = some snapshot → validateDeviceKeys S snapshot = true
  chain : ∀ chain, rt.chain = some chain →
    ChainOf auth chain ∧ chain.revocation.epoch ≤ rt.maxRevocationEpoch

/-- The section leaves a healthy client, and loses nothing of what was held or stored. -/
structure Section.Calm (auth : Authority S) (rt : Runtime S) (store : KeyStore) (r : Section S) :
    Prop where
  healthy : r.runtime.Healthy auth
  held : rt.isActivated = true → r.runtime.isActivated = true
  stored : store.isSome = true → r.store.isSome = true

variable {rt rt' : Runtime S} {store : KeyStore} {io : Io}

theorem Runtime.Healthy.handle (h : rt.Healthy auth) {e : Event}
    (he : ∀ error, e ≠ .verificationFailed error) : (rt.handle e now).Healthy auth :=
  ⟨StateMachine.state_ne_tampered_of_handle he h.state, h.keys, h.chain⟩

theorem Runtime.Healthy.withSnapshot (h : rt.Healthy auth)
    (hkeys : validateDeviceKeys S snapshot) :
    ({ rt with snapshot := some snapshot } : Runtime S).Healthy auth := by
  refine ⟨h.state, ?_, h.chain⟩
  intro snapshot' hsnapshot
  cases hsnapshot
  exact hkeys

/-- Nothing is left that could be unhealthy but the state. -/
theorem healthy_wiped {e : Event} (hstate : (rt.state.handle e now).1.state ≠ .tampered) :
    (rt.wiped e now).Healthy auth := by
  refine ⟨hstate, ?_, ?_⟩
  · intro snapshot hsnapshot
    cases hsnapshot
  · intro chain hchain
    cases hchain

theorem healthy_userDeactivateLocked (h : rt.Healthy auth) :
    (userDeactivateLocked rt store io now).runtime.Healthy auth :=
  healthy_wiped (StateMachine.state_ne_tampered_of_handle (fun _ h => by cases h) h.state)

theorem healthy_revokeLocked (rt : Runtime S) (hstate : rt.state.state ≠ .tampered)
    (reason : KillReason) :
    (revokeLocked rt store io reason now).runtime.Healthy auth :=
  healthy_wiped (StateMachine.state_ne_tampered_of_handle (fun _ h => by cases h) hstate)

theorem calm_of_healthy (rt : Runtime S) (h : rt'.Healthy auth)
    (hheld : rt'.isActivated = rt.isActivated) (outcome : Outcome) :
    Calm auth rt store { runtime := rt', store, outcome } :=
  ⟨h, fun hrt => hheld.trans hrt, id⟩

theorem calm_refused (h : rt.Healthy auth) (error : ClientError) :
    Calm auth rt store (refused rt store error) :=
  calm_of_healthy rt h rfl _

theorem calm_persisting (rt : Runtime S) (h : rt'.Healthy auth)
    (hheld : rt.isActivated → rt'.isActivated) (outcome : Outcome) :
    Calm auth rt store (persisting rt' store io outcome) := by
  have hruntime := persisting_runtime rt' store io outcome
  refine ⟨by rw [hruntime]; exact h, fun hrt => by rw [hruntime]; exact hheld hrt, ?_⟩
  intro hstore
  exact Option.isSome_iff_ne_none.2 (persisting_store_ne_none hstore)

section Calm

variable (h : rt.Healthy auth)

include h

theorem calm_applyTransientFailure (e : TransientError) :
    Calm auth rt store (applyTransientFailure rt store io e now) :=
  calm_persisting rt (h.handle fun _ he => by cases he) id _

theorem calm_schedulerCycle (onlineHint : Bool) :
    Calm auth rt store (schedulerCycle rt store io onlineHint now) := by
  have hevent : ∀ error, (if onlineHint then Event.networkAvailable else .tick) ≠
      .verificationFailed error := by
    intro error
    split_ifs <;> intro he <;> cases he
  have hcalm : Calm auth rt store (persisting
      (rt.handle (if onlineHint then .networkAvailable else .tick) now) store io .ok) :=
    calm_persisting rt (h.handle hevent) id _
  exact ⟨hcalm.healthy, hcalm.held, hcalm.stored⟩

theorem calm_featureKey : Calm auth rt store (featureKey rt store io now) := by
  have hticked : (rt.handle .tick now).Healthy auth := h.handle fun _ he => by cases he
  unfold featureKey
  dsimp only
  split
  · exact calm_of_healthy rt hticked rfl _
  split
  · exact calm_of_healthy rt hticked rfl _
  next store' hsave =>
    obtain ⟨record, hrecord, -⟩ := persistLocked_eq_ok hsave
    exact ⟨hticked, id, fun _ => by rw [hrecord]; rfl⟩

theorem calm_beginValidate : Calm auth rt store (beginValidate S rt store now) := by
  have hnoted : Runtime.Healthy auth { rt with state := rt.state.noteValidationAttempt now } :=
    ⟨h.state, h.keys, h.chain⟩
  unfold beginValidate
  dsimp only
  split
  · split
    · exact calm_of_healthy rt hnoted rfl _
    · exact calm_of_healthy rt hnoted rfl _
  · exact calm_of_healthy rt hnoted rfl _

theorem healthy_ensureDeviceKeys {generated : DeviceKeys}
    (hvalid : validateDeviceKeys S (.new generated)) :
    (ensureDeviceKeys rt generated).Healthy auth := by
  refine h.withSnapshot ?_
  cases hold : rt.snapshot with
  | none => exact hvalid
  | some old => exact h.keys old hold

theorem calm_requestActivation : Calm auth rt store (requestActivation rt store io true now) := by
  unfold requestActivation
  split_ifs
  · exact calm_refused h _
  split
  · exact calm_refused h _
  next snapshot hsnapshot =>
    rw [if_neg (by simp [h.keys snapshot hsnapshot])]
    exact calm_of_healthy rt h rfl _

theorem calm_requestDeactivation (holk : rt.olk.isSome = false) :
    Calm auth rt store (requestDeactivation rt store io now) := by
  unfold requestDeactivation
  rw [if_neg (by rw [holk]; exact Bool.false_ne_true)]
  split
  next snapshot hcredential hsnapshot =>
    have hkeys := h.keys snapshot hsnapshot
    rw [validateDeviceKeys, Bool.and_eq_true] at hkeys
    split
    next e he =>
      rw [he] at hkeys
      cases hkeys.2
    · exact calm_of_healthy rt h rfl _
  · exact calm_refused h _

theorem healthy_requestDeactivation :
    (requestDeactivation rt store io now).runtime.Healthy auth := by
  cases holk : rt.olk.isSome with
  | true =>
    rw [requestDeactivation, if_pos holk]
    exact healthy_userDeactivateLocked h
  | false => exact (calm_requestDeactivation h holk).healthy

theorem calm_installKeyset {keyset : Keyset}
    (hkeyset : HonestKeyset config auth anchors keyset) (hfits : KeysetFits rt keyset) :
    Calm auth rt store (installKeyset config anchors rt store keyset now) ∧
      ∀ e, (installKeyset config anchors rt store keyset now).outcome ≠ .error (.fatal e) := by
  unfold installKeyset
  cases hsnapshot : rt.snapshot with
  | none => exact ⟨calm_refused h _, fun e he => by cases he⟩
  | some snapshot =>
    obtain ⟨chain, hverify, hchain, hepoch⟩ :=
      verifyKeyset_of_honest (rt.effectiveNow now) hkeyset hfits hsnapshot
    simp only [hverify]
    refine ⟨⟨⟨h.state, ?_, ?_⟩, id, id⟩, fun e he => by cases he⟩
    · intro snapshot' hsnapshot'
      cases hsnapshot'
      exact h.keys snapshot hsnapshot
    · intro chain' hchain'
      cases hchain'
      exact ⟨hchain, Nat.le_of_eq hepoch⟩

end Calm

/-! ### Responses -/

/-- A ticket that answers a validation request. -/
structure HonestTicket (config : Config) (auth : Authority S) (view : View) (envelope : Envelope)
    (t : ValidationTicket) : Prop where
  signed : SignedFast config auth envelope t
  protoVer : t.protoVer = Proto.protoVer
  suiteId : config.supportedSuites.contains t.suiteId = true
  epochId : envelope.epochRef = some t.epochId
  nonce : t.nonceCEcho = view.nonce
  machineId : t.machineId = view.machineId
  revocation : view.knownRevocationEpoch ≤ t.revocationEpoch
  floor : view.knownSecurityFloor ≤ t.securityFloor
  refresh : t.serverTime < t.nextRefreshAfter
  time : 0 ≤ t.serverTime

/-- A kill order that answers a validation request. -/
structure HonestOrder (config : Config) (auth : Authority S) (view : View) (envelope : Envelope)
    (order : KillOrder) : Prop where
  signed : SignedFast config auth envelope order
  protoVer : order.protoVer = Proto.protoVer
  suiteId : order.suiteId = S.suiteId
  nonce : order.nonceCEcho = view.nonce
  machineId : order.machineId = view.machineId
  revocation : view.knownRevocationEpoch ≤ order.revocationEpoch

/-- A credential that answers an activation request, sealed to the device key of the request. -/
structure HonestCredential (config : Config) (auth : Authority S) (kem : Bytes)
    (envelope : Envelope) (c : MachineCredential) : Prop where
  signed : SignedDurable config auth envelope c
  header : envelope.protoVer = Proto.protoVer ∧ envelope.suiteId = S.suiteId
  protoVer : c.protoVer = Proto.protoVer
  suiteId : c.suiteId = S.suiteId
  productId : c.productId = config.productId
  epochId : envelope.epochRef = some c.epochId
  fingerprint : c.fingerprint = config.fingerprint
  build : c.buildFingerprint = some config.buildFingerprint
  variantId : c.variantId = config.variantId
  refresh : c.issuedAt < c.refreshAfter
  binds : (S.bindCredential kem c).isSome = true

/-- A batch that does not revoke its own signer. -/
structure HonestBatch (config : Config) (auth : Authority S) (envelope : Envelope)
    (batch : RevocationBatch) : Prop where
  signed : SignedDurable config auth envelope batch
  protoVer : batch.protoVer = Proto.protoVer
  suiteId : batch.suiteId = S.suiteId
  range : batch.fromEpoch ≤ batch.toEpoch
  signer : envelope.epochRef.any (fun id => batch.revokedEpochIds.contains id) = false

/-- What the request of a call was answered with. -/
def Purpose.Honest (config : Config) (auth : Authority S) : Purpose → Prop
  | .validate view response => ∃ envelope, response.decoded = .ok envelope ∧
      ((∃ t, HonestTicket config auth view envelope t) ∨
        ∃ order, HonestOrder config auth view envelope order)
  | .activate kem encoded => ∃ envelope c, encoded.decoded = .ok envelope ∧
      HonestCredential config auth kem envelope c

/-! ### The client that looks at them -/

/-- The certificate of the signer is there, and valid now. -/
def KnowsSigner (rt : Runtime S) (envelope : Envelope) (now : ℤ) : Prop :=
  ∃ chain e, rt.chain = some chain ∧ chain.signer envelope (rt.effectiveNow now) = .ok e

/-- The client still holds the machine that the validation was for, knows the signer, and has not
moved past the response's marks. -/
structure ValidationFits (rt : Runtime S) (view : View) (envelope : Envelope) (previewed : Bool)
    (now : ℤ) : Prop where
  held : envelope.kind = .validationTicket → previewed = false → rt.credential.isSome = true
  machineId : ∀ c, rt.credential = some c → c.machineId = view.machineId
  signer : rt.credential.isSome = true → KnowsSigner rt envelope now
  ticket : ∀ t, envelope.peekUnverified ValidationTicket = .ok t →
    rt.maxRevocationEpoch ≤ t.revocationEpoch ∧ rt.maxSecurityFloor ≤ t.securityFloor
  order : ∀ order, envelope.peekUnverified KillOrder = .ok order →
    rt.maxRevocationEpoch ≤ order.revocationEpoch
  reading : now ≤ signedMax 64

/-- The client still has the device key of the request, knows the signer, has not moved past the
credential's marks, and finds it neither early nor expired. -/
structure ActivationFits (rt : Runtime S) (kem : Bytes) (envelope : Envelope) (now : ℤ) : Prop where
  kem : ∀ snapshot, rt.snapshot = some snapshot → snapshot.kemSecretKey = kem
  signer : rt.snapshot.isSome = true → KnowsSigner rt envelope now
  marks : ∀ c, envelope.peekUnverified MachineCredential = .ok c →
    rt.maxSecurityFloor ≤ c.securityFloor ∧ rt.maxRevocationEpoch ≤ c.revocationEpoch
  time : ∀ c, envelope.peekUnverified MachineCredential = .ok c →
    c.issuedAt ≤ rt.effectiveNow now ∧ (c.notAfter = 0 ∨ rt.effectiveNow now < c.notAfter)

/-- The batch continues at the client's mark and ends within the target. -/
structure BatchFits (rt : Runtime S) (envelope : Envelope) (target : ℕ) (now : ℤ) : Prop where
  signer : KnowsSigner rt envelope now
  range : ∀ batch, envelope.peekUnverified RevocationBatch = .ok batch →
    batch.fromEpoch = rt.maxRevocationEpoch + 1 ∧ batch.toEpoch ≤ target

variable {view : View} {previewed : Bool} {response : Wire Envelope} {kem : Bytes}

theorem openOnline_of_signed (h : rt.Healthy auth)
    (hsigned : SignedFast config auth envelope a) (hsigner : KnowsSigner rt envelope now) :
    openOnline α config rt envelope now = .ok a := by
  obtain ⟨chain, e, hchain, he⟩ := hsigner
  have hverify := hsigned.verify (h.chain chain hchain).1 he
  simp [openOnline, hchain, hverify, orFatal]

/-- An honest ticket passes the checklist of a client that it fits. -/
theorem checkOnlineTicket_of_honest (ht : HonestTicket config auth view envelope t)
    (hfits : ValidationFits rt view envelope previewed now) (hc : rt.credential = some c) :
    ∃ clock obs, checkOnlineTicket config rt c envelope t view.nonce now =
      some (clock, .ok obs) := by
  have hskew : signedMin 64 < t.serverTime - now := by
    have htime := ht.time
    have hnow := hfits.reading
    simp only [signedMin, signedMax] at hnow ⊢
    omega
  obtain ⟨hrevocation, hfloor⟩ := hfits.ticket t ht.signed.peek
  have hmachine : t.machineId = c.machineId := ht.machineId.trans (hfits.machineId c hc).symm
  simp only [checkOnlineTicket, ht.epochId]
  exact ⟨_, exists_checkTicket_eq_ok_iff.2 ⟨⟨⟨ht.protoVer, List.contains_iff_mem.1 ht.suiteId, rfl,
    ht.nonce, hmachine⟩, hrevocation, hfloor, ht.refresh⟩, hskew, rfl⟩⟩

theorem calm_previewTicket (h : rt.Healthy auth) (ht : HonestTicket config auth view envelope t)
    (hfits : ValidationFits rt view envelope false now) :
    Calm auth rt store (previewTicket config rt store io envelope view.nonce now) := by
  have hkind : envelope.kind = .validationTicket := EnvelopeOf.kind_of_peekUnverified ht.signed.peek
  have hheld := hfits.held hkind rfl
  obtain ⟨c, hc⟩ := Option.isSome_iff_exists.1 hheld
  obtain ⟨clock, obs, hcheck⟩ := checkOnlineTicket_of_honest ht hfits hc
  have hopen := openOnline_of_signed h ht.signed (hfits.signer hheld)
  simp only [previewTicket, hc, hopen, hcheck]
  exact calm_of_healthy rt h rfl _

theorem Runtime.Healthy.withTicket (h : rt.Healthy auth) (clock : ClockState)
    (c : MachineCredential) (t : ValidationTicket) :
    ((rt.withClock clock).withTicket c t).Healthy auth := by
  refine ⟨h.state, h.keys, ?_⟩
  intro chain hchain
  obtain ⟨hof, hle⟩ := h.chain chain hchain
  exact ⟨hof, Nat.le_trans hle (Nat.le_max_left ..)⟩

theorem calm_acceptTicket (h : rt.Healthy auth) (ht : HonestTicket config auth view envelope t)
    (hfits : ValidationFits rt view envelope previewed now) :
    Calm auth rt store (acceptTicket config rt store io response envelope view.nonce now) := by
  unfold acceptTicket
  cases hc : rt.credential with
  | none => exact calm_refused h _
  | some c =>
    have hopen := openOnline_of_signed h ht.signed (hfits.signer (by rw [hc]; rfl))
    obtain ⟨clock, obs, hcheck⟩ := checkOnlineTicket_of_honest ht hfits hc
    have hupdated := h.withTicket clock c t
    have hhandled : (((rt.withClock clock).withTicket c t).handle (ticketEvent t.verdict)
        now).Healthy auth := by
      refine hupdated.handle fun error he => ?_
      cases hverdict : t.verdict <;> rw [hverdict] at he <;> cases he
    simp only [hopen, hcheck]
    split_ifs
    · exact ⟨⟨h.state, hupdated.keys, hupdated.chain⟩, id, id⟩
    split
    · exact ⟨hhandled, id, id⟩
    next snapshot hsnapshot =>
      refine calm_persisting rt (hhandled.withSnapshot ?_) id _
      exact hhandled.keys snapshot hsnapshot

/-- An honest kill order leaves a healthy client: nothing is held, or the machine it names. -/
theorem acceptKillOrder_of_honest {order : KillOrder} (h : rt.Healthy auth)
    (ho : HonestOrder config auth view envelope order)
    (hfits : ValidationFits rt view envelope previewed now) :
    (acceptKillOrder config rt store io envelope view.nonce now).runtime.Healthy auth ∧
      (rt.credential = none → Calm auth rt store
          (acceptKillOrder config rt store io envelope view.nonce now)) := by
  unfold acceptKillOrder
  cases hc : rt.credential with
  | none => exact ⟨h, fun _ => calm_refused h _⟩
  | some c =>
    refine ⟨?_, fun hnone => by cases hnone⟩
    have hopen := openOnline_of_signed h ho.signed (hfits.signer (by rw [hc]; rfl))
    have hmachine : order.machineId = c.machineId := ho.machineId.trans (hfits.machineId c hc).symm
    have hrevocation := hfits.order order ho.signed.peek
    simp only [hopen, ho.protoVer, ho.suiteId, ho.nonce, hmachine, ne_eq, not_true_eq_false,
      or_self, if_false, if_neg (Nat.not_lt.2 hrevocation)]
    refine healthy_revokeLocked _ ?_ _
    exact h.state

private theorem openMachineCredential_of_honest (hdecoded : encoded.decoded = .ok envelope)
    (hc : HonestCredential config auth kem envelope c) (hfits : ActivationFits rt kem envelope now)
    (hchain : ChainOf auth chain) (hsigner : chain.signer envelope (rt.effectiveNow now) = .ok e)
    (hsnapshot : rt.snapshot = some snapshot) :
    ∃ material, openMachineCredential config encoded chain snapshot (rt.effectiveNow now)
      rt.maxSecurityFloor rt.maxRevocationEpoch = .ok (c, material) := by
  have hverify := hc.signed.verify hchain hsigner
  obtain ⟨hfloor, hrevocation⟩ := hfits.marks c hc.signed.peek
  obtain ⟨hissued, hexpiry⟩ := hfits.time c hc.signed.peek
  obtain ⟨material, hmaterial⟩ := Option.isSome_iff_exists.1 hc.binds
  have hfine : ¬ credentialRefused S config envelope c (rt.effectiveNow now) rt.maxSecurityFloor
      rt.maxRevocationEpoch := by
    have hlive : ¬ (c.notAfter ≠ 0 ∧ c.notAfter ≤ rt.effectiveNow now) := by omega
    simp only [credentialRefused, hc.protoVer, hc.suiteId, hc.productId, hc.epochId,
      hc.fingerprint, hc.build, hc.variantId, ne_eq, not_true_eq_false, false_or, not_or]
    exact ⟨by omega, by omega, by omega, Int.not_le.2 hc.refresh, hlive⟩
  have hkem : S.bindCredential snapshot.kemSecretKey c = some material := by
    rw [hfits.kem snapshot hsnapshot]
    exact hmaterial
  refine ⟨material, ?_⟩
  unfold openMachineCredential openCredential
  simp only [hdecoded, orFatal, bind, Except.bind, hc.header.1, hc.header.2, ne_eq,
    not_true_eq_false, or_self, if_false, hverify, if_neg hfine, hkem]
  rfl

theorem calm_activateInstall (h : rt.Healthy auth)
    (hdecoded : encoded.decoded = .ok envelope) (hc : HonestCredential config auth kem envelope c)
    (hfits : ActivationFits rt kem envelope now) (target : ℕ) :
    Calm auth rt store (activateInstall config rt store io encoded target now) := by
  unfold activateInstall
  cases hsnapshot : rt.snapshot with
  | none => exact calm_refused h _
  | some snapshot =>
    obtain ⟨chain, e, hchain, hsigner⟩ := hfits.signer (by rw [hsnapshot]; rfl)
    obtain ⟨hof, hle⟩ := h.chain chain hchain
    obtain ⟨material, hopen⟩ := openMachineCredential_of_honest hdecoded hc hfits hof hsigner
      hsnapshot
    simp only [hchain, hopen]
    have hinstalled : ((rt.withCredential c material chain).raise 0 target).Healthy auth := by
      refine ⟨h.state, h.keys, ?_⟩
      intro chain' hchain'
      cases hchain'
      refine ⟨hof, Nat.le_trans hle ?_⟩
      exact Nat.le_trans (Nat.le_max_left ..) (Nat.le_max_left ..)
    have hhandled : (((rt.withCredential c material chain).raise 0 target).handle
        .activationVerified now).Healthy auth := hinstalled.handle fun _ he => by cases he
    refine calm_persisting rt (hhandled.withSnapshot ?_) (fun _ => rfl) _
    exact h.keys snapshot hsnapshot

/-- A batch was applied or left, and only a batch that names what the client holds wipes it. -/
structure Section.Follows (auth : Authority S) (rt : Runtime S) (store : KeyStore)
    (batch : RevocationBatch) (r : Section S) : Prop where
  healthy : r.runtime.Healthy auth
  fatal : ∀ e, r.outcome = .error (.fatal e) → ∃ reason, e = .revoked reason
  calm : rt.credentialIds.bind (revocationReason batch) = none → Section.Calm auth rt store r

theorem Section.Calm.follows {r : Section S} (h : Calm auth rt store r)
    (hfatal : ∀ e, r.outcome ≠ .error (.fatal e)) :
    Follows auth rt store batch r :=
  ⟨h.healthy, fun e he => absurd he (hfatal e), fun _ => h⟩

/-- The end of a batch that names what the client holds. -/
theorem follows_revokeLocked (rt' : Runtime S) (hstate : rt'.state.state ≠ .tampered)
    {reason : KillReason} (hreason : rt.credentialIds.bind (revocationReason batch) = some reason) :
    Follows auth rt store batch
      { revokeLocked rt' store io reason now with
        outcome := if io.wipes then .error (.fatal (.revoked reason)) else wipeOutcome io } := by
  have hhealthy : (revokeLocked rt' store io reason now).runtime.Healthy auth :=
    healthy_revokeLocked rt' hstate reason
  refine ⟨hhealthy, ?_, ?_⟩
  · intro e he
    split_ifs at he with hwipes
    · cases he
      exact ⟨reason, rfl⟩
    · rw [wipeOutcome, if_neg hwipes] at he
      cases he
  · intro hnone
    rw [hreason] at hnone
    cases hnone

/-- An honest batch that fits is followed. -/
theorem applyBatch_of_honest {current target : ℕ} (h : rt.Healthy auth)
    (hdecoded : response.decoded = .ok envelope) (hbatch : HonestBatch config auth envelope batch)
    (hfits : rt.maxRevocationEpoch = current → BatchFits rt envelope target now) :
    Follows auth rt store batch (applyBatch config rt store io current target response now) := by
  unfold applyBatch
  simp only [hdecoded, orFatal]
  by_cases hmoved : rt.maxRevocationEpoch ≠ current
  · rw [if_pos hmoved]
    exact (calm_of_healthy rt h rfl _).follows fun e he => by cases he
  rw [if_neg hmoved]
  obtain rfl := not_not.1 hmoved
  obtain ⟨⟨chain, e, hchain, hsigner⟩, hrange⟩ := hfits rfl
  obtain ⟨hof, hle⟩ := h.chain chain hchain
  obtain ⟨hfrom, htarget⟩ := hrange batch hbatch.signed.peek
  have hverify := hbatch.signed.verify hof hsigner
  have hlast := hbatch.range
  have hfine : ¬ batchRefused S envelope batch (rt.maxRevocationEpoch + 1) target := by
    rintro (hbad | hbad | hbad | hbad | hbad | hbad)
    · exact hbad hbatch.protoVer
    · exact hbad hbatch.suiteId
    · exact hbad hfrom
    · omega
    · omega
    · rw [hbatch.signer] at hbad
      cases hbad
  have hadvance : ¬ batch.toEpoch < chain.revocation.epoch := by omega
  simp only [hchain, hverify, if_neg hfine]
  cases hsnapshot : rt.snapshot with
  | none => exact (calm_refused h _).follows fun e he => by cases he
  | some snapshot =>
    simp only [RevocationState.advance, if_neg hadvance, concludeBatch]
    have happlied : (rt.withBatch chain ⟨batch.toEpoch, mergeEpochs chain.revocation.revokedEpochs
        batch.revokedEpochIds⟩ snapshot batch).Healthy auth := by
      refine ⟨h.state, ?_, ?_⟩
      · rintro _ ⟨⟩
        exact h.keys snapshot hsnapshot
      · rintro _ ⟨⟩
        exact ⟨hof, Nat.le_refl _⟩
    split
    next reason hreason =>
      refine follows_revokeLocked _ ?_ hreason
      exact h.state
    next hnone =>
      refine (calm_persisting rt happlied id _).follows ?_
      unfold persisting
      split <;> rintro _ ⟨⟩

end CopyLocker.Client
