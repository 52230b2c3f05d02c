import CopyLocker.Foundation.Bytes
import CopyLocker.Types

/-!
# Signature slots

The signature trait of `copylocker-suite` and its two instances of `copylocker-suite-std`:
the hybrid of Ed25519 and ML-DSA for durable artifacts, and Ed25519 alone for the tickets
and kill orders of a validation request.

The primitives themselves come from other crates. They are the fields of `Primitives`, and what
their documentation promises is stated as the structure `Primitives.Correct`. Messages are an
arbitrary type, of which only the digest is signed. A hybrid signature is longer than a fast one,
and the fast scheme refuses it for that alone.
-/

namespace CopyLocker.Suite

open Foundation List

/-- A cryptographic failure. -/
inductive CryptoError
  | invalid
  | badLength
  | outputTooLong
  | hybridStripDetected
  | rngFailure
  deriving DecidableEq

/-- The domain-separation context inside every signed message. -/
structure DomainCtx where
  kind : ArtifactKind
  suiteId : SuiteId
  productId : ProductId
  deriving DecidableEq

/-- The bytes of an `n`-byte identifier, most significant first. -/
def ByteId.toBytes {n : ℕ} (x : ByteId n) : Bytes := toBigEndian n x.toNat

/-- An array of `n` bytes. -/
abbrev ByteArr (n : ℕ) := { b : Bytes // b.length = n }

/-- Read an array of `n` bytes, refusing any other length. -/
def ByteArr.fromSlice (n : ℕ) (b : Bytes) : Option (ByteArr n) :=
  if h : b.length = n then some ⟨b, h⟩ else none

theorem ByteArr.fromSlice_val {n : ℕ} (a : ByteArr n) : ByteArr.fromSlice n a.val = some a := by
  simp [ByteArr.fromSlice, a.property]

/-- A length as four bytes, most significant first. -/
def u32be (n : ℕ) : Bytes := toBigEndian 4 n

/-- The serialised context. -/
def DomainCtx.toBytes (ctx : DomainCtx) : Bytes :=
  utf8 "copylocker/v1/" ++ utf8 ctx.kind.ctxName ++ [0] ++ ByteId.toBytes ctx.suiteId ++
    utf8 ctx.productId

/-- A signature scheme over messages of type `μ`. -/
structure SignatureScheme (μ : Type) where
  SigningKey : Type
  VerifyingKey : Type
  verifyingKey : SigningKey → VerifyingKey
  sign : SigningKey → DomainCtx → μ → Except CryptoError Bytes
  verify : VerifyingKey → DomainCtx → μ → Bytes → Except CryptoError Unit
  encodeVk : VerifyingKey → Bytes
  decodeVk : Bytes → Except CryptoError VerifyingKey
  decodeSk : Bytes → Except CryptoError SigningKey

/-- The primitives under the two schemes. -/
structure Primitives (μ : Type) where
  EdVerifyingKey : Type
  PqVerifyingKey : Type
  /-- SHA-256 of a message. -/
  digest : μ → Digest
  edVerifyingKey : ByteArr 32 → EdVerifyingKey
  edSign : ByteArr 32 → Bytes → ByteArr 64
  edVerifyStrict : EdVerifyingKey → Bytes → ByteArr 64 → Bool
  edEncodeVk : EdVerifyingKey → ByteArr 32
  edDecodeVk : ByteArr 32 → Option EdVerifyingKey
  pqVkLen : ℕ
  pqVerifyingKey : ByteArr 32 → PqVerifyingKey
  pqSign : ByteArr 32 → Bytes → Option Bytes
  pqVerify : PqVerifyingKey → Bytes → Bytes → Bool
  pqEncodeVk : PqVerifyingKey → Bytes
  pqDecodeVk : Bytes → PqVerifyingKey

/-- What the Ed25519 crate documents: an honest signature verifies, and an encoded key
decodes to itself. -/
structure Primitives.Correct {μ : Type} (P : Primitives μ) : Prop where
  ed_verify_sign : ∀ seed m, P.edVerifyStrict (P.edVerifyingKey seed) m (P.edSign seed m) = true
  ed_decode_encode : ∀ vk, P.edDecodeVk (P.edEncodeVk vk) = some vk

/-- Primitives with one key and one signature, which every key accepts. -/
def Primitives.permissive (μ : Type) : Primitives μ where
  EdVerifyingKey := Unit
  PqVerifyingKey := Unit
  digest _ := 0
  edVerifyingKey _ := ()
  edSign _ _ := ⟨replicate 64 0, length_replicate⟩
  edVerifyStrict _ _ _ := true
  edEncodeVk _ := ⟨replicate 32 0, length_replicate⟩
  edDecodeVk _ := some ()
  pqVkLen := 0
  pqVerifyingKey _ := ()
  pqSign _ _ := some []
  pqVerify _ _ _ := true
  pqEncodeVk _ := []
  pqDecodeVk _ := ()

theorem Primitives.permissive_correct (μ : Type) : (Primitives.permissive μ).Correct where
  ed_verify_sign _ _ := rfl
  ed_decode_encode _ := rfl

section Schemes

variable {μ : Type} (P : Primitives μ)

/-- The message that both schemes sign: label, length-prefixed context, digest. -/
def hybridTbs (ctx : DomainCtx) (msg : μ) : Bytes :=
  utf8 "copylocker/hybrid-sig/v1" ++ u32be ctx.toBytes.length ++ ctx.toBytes ++
    ByteId.toBytes (P.digest msg)

/-- Private key of the hybrid scheme: two independent seeds. -/
structure HybridSigningKey where
  pqSeed : ByteArr 32
  edSeed : ByteArr 32
  deriving DecidableEq

/-- Public key of the hybrid scheme. -/
structure HybridVerifyingKey where
  pq : P.PqVerifyingKey
  ed : P.EdVerifyingKey

/-- Read a length-prefixed part of a hybrid signature. -/
def readPrefixed (b : Bytes) : Option (Bytes × Bytes) :=
  if b.length < 4 then none
  else
    let len := (b.take 4).foldl (fun acc x ↦ 256 * acc + x.toNat) 0
    let rest := b.drop 4
    if rest.length < len then none else some (rest.take len, rest.drop len)

/-- Split `len ‖ pq ‖ len ‖ ed`, refusing anything left over. -/
def splitHybrid (sig : Bytes) : Except CryptoError (Bytes × Bytes) :=
  match readPrefixed sig with
  | none => .error .badLength
  | some (pq, rest) =>
    match readPrefixed rest with
    | none => .error .badLength
    | some (ed, tail) => if tail.isEmpty then .ok (pq, ed) else .error .badLength

/-- Both signatures, over one prehash. -/
def hybridSign (sk : HybridSigningKey) (ctx : DomainCtx) (msg : μ) : Except CryptoError Bytes :=
  let tbs := hybridTbs P ctx msg
  match P.pqSign sk.pqSeed tbs with
  | none => .error .invalid
  | some pqBytes =>
    let edBytes := P.edSign sk.edSeed tbs
    .ok (u32be pqBytes.length ++ pqBytes ++ u32be edBytes.val.length ++ edBytes.val)

/-- Both components must verify; exactly one is reported as stripping. -/
def hybridVerify (vk : HybridVerifyingKey P) (ctx : DomainCtx) (msg : μ) (sig : Bytes) :
    Except CryptoError Unit := do
  let (pqBytes, edBytes) ← splitHybrid sig
  let tbs := hybridTbs P ctx msg
  let pqOk := P.pqVerify vk.pq tbs pqBytes
  let edOk := (ByteArr.fromSlice 64 edBytes).any (P.edVerifyStrict vk.ed tbs)
  match pqOk, edOk with
  | true, true => .ok ()
  | true, false | false, true => .error .hybridStripDetected
  | false, false => .error .invalid

/-- Ed25519 and ML-DSA together. -/
def hybridSig : SignatureScheme μ where
  SigningKey := HybridSigningKey
  VerifyingKey := HybridVerifyingKey P
  verifyingKey sk := { pq := P.pqVerifyingKey sk.pqSeed, ed := P.edVerifyingKey sk.edSeed }
  sign := hybridSign P
  verify := hybridVerify P
  encodeVk vk := P.pqEncodeVk vk.pq ++ (P.edEncodeVk vk.ed).val
  decodeVk b :=
    if b.length ≠ P.pqVkLen + 32 then .error .badLength
    else
      match ByteArr.fromSlice 32 (b.drop P.pqVkLen) with
      | none => .error .badLength
      | some ed =>
        match P.edDecodeVk ed with
        | none => .error .invalid
        | some ed => .ok { pq := P.pqDecodeVk (b.take P.pqVkLen), ed }
  decodeSk b :=
    if b.length ≠ 64 then .error .badLength
    else
      match ByteArr.fromSlice 32 (b.take 32), ByteArr.fromSlice 32 (b.drop 32) with
      | some pqSeed, some edSeed => .ok { pqSeed, edSeed }
      | _, _ => .error .badLength

/-- The classical signature alone. -/
def fastVerify (vk : P.EdVerifyingKey) (ctx : DomainCtx) (msg : μ) (sig : Bytes) :
    Except CryptoError Unit :=
  match ByteArr.fromSlice 64 sig with
  | none => .error .badLength
  | some s => if P.edVerifyStrict vk (hybridTbs P ctx msg) s then .ok () else .error .invalid

/-- Ed25519 alone, the per-request fast path. -/
def fastSig : SignatureScheme μ where
  SigningKey := ByteArr 32
  VerifyingKey := P.EdVerifyingKey
  verifyingKey := P.edVerifyingKey
  sign sk ctx msg := .ok (P.edSign sk (hybridTbs P ctx msg)).val
  verify := fastVerify P
  encodeVk vk := (P.edEncodeVk vk).val
  decodeVk b :=
    match ByteArr.fromSlice 32 b with
    | none => .error .badLength
    | some b =>
      match P.edDecodeVk b with
      | none => .error .invalid
      | some vk => .ok vk
  decodeSk b :=
    match ByteArr.fromSlice 32 b with
    | none => .error .badLength
    | some b => .ok b

variable {P}

theorem fastVerify_edSign (hP : P.Correct) (sk : ByteArr 32) (ctx : DomainCtx) (msg : μ) :
    fastVerify P (P.edVerifyingKey sk) ctx msg (P.edSign sk (hybridTbs P ctx msg)).val =
      .ok () := by
  simp [fastVerify, ByteArr.fromSlice_val, hP.ed_verify_sign]

variable {ctx : DomainCtx} {msg : μ} {sig : Bytes}

/-- A hybrid signature is longer than an Ed25519 one, whatever its post-quantum part. -/
theorem length_hybridSign {sk : HybridSigningKey}
    (h : hybridSign P sk ctx msg = .ok sig) : 64 < sig.length := by
  unfold hybridSign at h
  cases hpq : P.pqSign sk.pqSeed (hybridTbs P ctx msg) with
  | none => simp [hpq] at h
  | some pqBytes =>
    have hed := (P.edSign sk.edSeed (hybridTbs P ctx msg)).property
    have hu (n : ℕ) : (u32be n).length = 4 := by simp [u32be]
    simp only [hpq, Except.ok.injEq] at h
    rw [← h]
    simp only [length_append, hu, hed]
    omega

end Schemes

end CopyLocker.Suite
