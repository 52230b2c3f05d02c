import CopyLocker.Packages.Cbor

/-!
# Sealed assets of the web

The two openers of the container in which the package `seal` puts an asset: the one of `seal` itself
(`container.ts`) and the one of the web runtime (`unseal.ts`). An asset longer than the chunk size
is encrypted in chunks, each with the index and the number of chunks in its associated data. AES-GCM
is a parameter.

## Main results

* `openers_agree`: the two openers give the same plaintexts.
-/

namespace CopyLocker.Packages

open Foundation Result

/-- AES-GCM of WebCrypto, as the openers use it. -/
structure Gcm where
  /-- `importKey` takes the key. -/
  imports : Bytes → Bool
  decrypt (key iv aad body : Bytes) : Option Bytes

/-- The string with the characters of a text. -/
def jsString (t : String) : JsString := Utf16.encode t.toList

/-- An entry with an integer key. -/
def entry (key : ℕ) (v : CborValue) : CborValue × CborValue := (.number (.finite key), v)

def webSealedAssetSchema : ℕ := 1

def webSealedAssetAlg : String := "AES-256-GCM"

/-- The size limit of a sealed asset. -/
def maxSealedAssetBytes : ℕ := 64 * 1024 * 1024

def nonceBytes : ℕ := 12

def tagBytes : ℕ := 16

/-- What sealing adds to a chunk. -/
def chunkOverhead : ℕ := nonceBytes + tagBytes

def aadLabel : String := "copylocker/web-asset-aad/v1"

/-- The limits of the reader for containers. -/
def assetLimits : CborLimits where
  maxDepth := 8
  maxItems := 32
  maxString := maxSealedAssetBytes
  items_safe := by decide
  string_safe := by decide

/-- What a container says about its asset. -/
structure SealedAssetMeta where
  productId : JsString
  variantId : Number
  featureId : JsString
  assetId : JsString

/-- A chunk among the chunks of its asset. -/
structure Chunk where
  index : ℕ
  count : ℕ

/-- The size and the number of the chunks. -/
structure Chunking where
  chunkSize : ℕ
  chunkCount : ℕ

/-- What the header of a container says. -/
structure SealedAsset where
  productId : JsString
  variantId : ℕ
  featureId : JsString
  assetId : JsString
  ciphertext : Bytes
  chunking : Option Chunking

/-- The identifiers are of bounded length and without zero units. -/
def identifiersValid (productId featureId assetId : JsString) : Bool :=
  [productId, featureId, assetId].all fun id =>
    decide (0 < id.length) && decide (id.length ≤ 1024) && !id.contains 0

/-- Associated data for the whole asset, or for one chunk. -/
def assetAad (info : SealedAssetMeta) (chunk : Option Chunk) : Except CborError Bytes :=
  encode (.map ([entry 0 (.string (jsString aadLabel)),
    entry 1 (.string (jsString webSealedAssetAlg)),
    entry 2 (.string info.productId),
    entry 3 (.number info.variantId),
    entry 4 (.string info.featureId),
    entry 5 (.string info.assetId)] ++
    match chunk with
    | none => []
    | some c => [entry 6 (.number (.finite c.index)), entry 7 (.number (.finite c.count))]))

/-- A field that is a text. -/
def requireText : Option CborValue → Option JsString
  | some (.string s) => some s
  | _ => none

/-- A field that is a number, at least zero. -/
def requireUint : Option CborValue → Option ℕ
  | some (.number x) => x.safeInteger.bind fun n => if 0 ≤ n then some n.toNat else none
  | _ => none

/-- A field that is a byte string. -/
def requireBytes : Option CborValue → Option Bytes
  | some (.bytes b) => some b
  | _ => none

/-- The last record holds at least one byte of plaintext and at most a whole chunk. -/
def validateChunking (payloadBytes : ℕ) (chunking : Chunking) : Bool :=
  let fullWire := chunking.chunkSize + chunkOverhead
  let lastWire : ℤ := payloadBytes - (chunking.chunkCount - 1) * fullWire
  decide (1 ≤ chunking.chunkSize) && decide (1 ≤ chunking.chunkCount) &&
    decide (chunking.chunkCount ≤ 0xffffffff) &&
    decide ((chunkOverhead : ℤ) < lastWire) && decide (lastWire ≤ fullWire)

/-- The chunk fields of the header; a container without either is not chunked. -/
def readChunking (rawSize rawCount : Option CborValue) (payloadBytes : ℕ) :
    Option (Option Chunking) :=
  if rawSize.isNone ∧ rawCount.isNone then some none
  else do
    let chunkSize ← requireUint rawSize
    let chunkCount ← requireUint rawCount
    let chunking : Chunking := ⟨chunkSize, chunkCount⟩
    if validateChunking payloadBytes chunking then some (some chunking) else none

/-- Decode and validate a container's header. Whatever goes wrong is one error in both packages. -/
def readAsset (sealedBytes : Bytes) : Option SealedAsset := do
  guard (sealedBytes.length ≠ 0 ∧ sealedBytes.length ≤ maxSealedAssetBytes)
  let value ← (decode sealedBytes assetLimits).toOption
  let get (key : ℕ) : Option (Option CborValue) := (mapGet value key).toOption
  let schema ← requireUint (← get 0)
  guard (schema = webSealedAssetSchema)
  let alg ← requireText (← get 1)
  guard (alg = jsString webSealedAssetAlg)
  let productId ← requireText (← get 2)
  let variantId ← requireUint (← get 3)
  let featureId ← requireText (← get 4)
  let assetId ← requireText (← get 5)
  let ciphertext ← requireBytes (← get 6)
  guard (chunkOverhead ≤ ciphertext.length)
  guard (identifiersValid productId featureId assetId = true)
  let chunking ← readChunking (← get 7) (← get 8) ciphertext.length
  return {
    productId
    variantId
    featureId
    assetId
    ciphertext
    chunking }

/-- The identifiers that the associated data is made of. -/
def SealedAsset.info (asset : SealedAsset) : SealedAssetMeta where
  productId := asset.productId
  variantId := .finite asset.variantId
  featureId := asset.featureId
  assetId := asset.assetId

/-- The product and the feature that the caller asks for. -/
structure Expected where
  productId : JsString
  featureId : JsString

/-- The container is for another product or feature. -/
def Expected.differs (expected : Expected) (asset : SealedAsset) : Prop :=
  asset.productId ≠ expected.productId ∨ asset.featureId ≠ expected.featureId

instance (expected : Expected) (asset : SealedAsset) : Decidable (expected.differs asset) :=
  inferInstanceAs (Decidable (_ ∨ _))

/-! ### The package `seal` -/

namespace Seal

/-- The codes of `SealError`. -/
inductive Code
  | config
  | corrupt
  | notEntitled
  deriving DecidableEq

/-- What the functions throw. -/
inductive Failure
  | seal (code : Code)
  | cbor (error : CborError)
  | webCrypto
  deriving DecidableEq

/-- The associated data of the seal package. -/
def sealAad (info : SealedAssetMeta) (chunk : Option Chunk) : Except Failure Bytes :=
  (assetAad info chunk).mapError .cbor

variable (gcm : Gcm)

def importKey (key : Bytes) : Except Failure Unit :=
  if key.length ≠ 32 then .error (.seal .config)
  else require (gcm.imports key = true) .webCrypto

def gcmDecrypt (key record aad : Bytes) : Except Failure Bytes :=
  ofOption (gcm.decrypt key (record.take nonceBytes) aad (record.drop nonceBytes))
    (.seal .notEntitled)

/-- Split a chunked payload into its records, from an offset. -/
def splitFrom (payload : Bytes) (fullWire : ℕ) : ℕ → ℕ → List Bytes
  | 0, _ => []
  | n + 1, offset =>
    let wire := min fullWire (payload.length - offset)
    (payload.drop offset).take wire :: splitFrom payload fullWire n (offset + wire)

/-- The records of the chunks. -/
def splitChunks (payload : Bytes) (chunking : Chunking) : List Bytes :=
  splitFrom payload (chunking.chunkSize + chunkOverhead) chunking.chunkCount 0

/-- Decrypt a chunk, bound to its place. -/
def openChunk (kek : Bytes) (asset : SealedAsset) (chunking : Chunking) (record : Bytes × ℕ) :
    Except Failure Bytes := do
  let aad ← sealAad asset.info (some ⟨record.2, chunking.chunkCount⟩)
  gcmDecrypt gcm kek record.1 aad

def decodeSealedAsset (sealedBytes : Bytes) : Except Failure SealedAsset :=
  ofOption (readAsset sealedBytes) (.seal .corrupt)

/-- The part of the opener after its checks. -/
def openPayload (kek : Bytes) (asset : SealedAsset) : Except Failure Bytes :=
  match asset.chunking with
  | none => do
    let aad ← sealAad asset.info none
    gcmDecrypt gcm kek asset.ciphertext aad
  | some chunking => do
    let parts ← (splitChunks asset.ciphertext chunking).zipIdx.mapM
      (openChunk gcm kek asset chunking)
    return parts.flatten

/-- Open a container. -/
def openSealedBytes (kek sealedBytes : Bytes) (expected : Option Expected) :
    Except Failure Bytes := do
  let asset ← decodeSealedAsset sealedBytes
  require (∀ e ∈ expected, ¬ e.differs asset) (.seal .notEntitled)
  importKey gcm kek
  openPayload gcm kek asset

end Seal

/-! ### The web runtime -/

namespace Web

/-- What the functions throw; `other` is an error that is not an `UnsealError`. -/
inductive Failure
  | unseal
  | other
  deriving DecidableEq

/-- The associated data of the web runtime. -/
def aad (info : SealedAssetMeta) (chunk : Option Chunk) : Except Failure Bytes :=
  (assetAad info chunk).mapError fun _ => .other

variable (gcm : Gcm)

def importKey (key : Bytes) : Except Failure Unit :=
  require (gcm.imports key = true) .other

/-- Decrypt a record: its nonce, then the rest. -/
def gcmDecryptRecord (key record aad : Bytes) : Except Failure Bytes :=
  ofOption (gcm.decrypt key (record.take nonceBytes) aad (record.drop nonceBytes)) .unseal

def decodeSealedAsset (sealedBytes : Bytes) : Except Failure SealedAsset :=
  ofOption (readAsset sealedBytes) .unseal

/-- The loop over the chunks: those that are left, the index and the offset of the next. -/
def openChunks (gcm : Gcm) (key : Bytes) (asset : SealedAsset) (chunking : Chunking) :
    ℕ → ℕ → ℕ → Except Failure (List Bytes)
  | 0, _, _ => .ok []
  | n + 1, i, offset => do
    let fullWire := chunking.chunkSize + chunkOverhead
    let wire := min fullWire (asset.ciphertext.length - offset)
    let record := (asset.ciphertext.drop offset).take wire
    let aadBytes ← aad asset.info (some ⟨i, chunking.chunkCount⟩)
    let part ← gcmDecryptRecord gcm key record aadBytes
    let parts ← openChunks gcm key asset chunking n (i + 1) (offset + wire)
    return part :: parts

/-- The part of the opener after its checks. -/
def openPayload (finalKey : Bytes) (asset : SealedAsset) : Except Failure Bytes :=
  match asset.chunking with
  | none => do
    let aadBytes ← aad asset.info none
    gcmDecryptRecord gcm finalKey asset.ciphertext aadBytes
  | some chunking => do
    let parts ← openChunks gcm finalKey asset chunking chunking.chunkCount 0 0
    return parts.flatten

/-- Open a container for a product and a feature. -/
def openSealedAsset (finalKey sealedBytes : Bytes) (expected : Expected) :
    Except Failure Bytes := do
  let asset ← decodeSealedAsset sealedBytes
  require (¬ expected.differs asset) .unseal
  importKey gcm finalKey
  openPayload gcm finalKey asset

end Web

/-! ### The two openers agree -/

section Agreement

variable {gcm} {key : Bytes} {asset : SealedAsset}

/-- `seal` splits the payload and then opens the chunks, the web runtime opens them as it goes. -/
theorem openChunks_agree {chunking : Chunking} {parts : List Bytes} (n i offset : ℕ) :
    ((Seal.splitFrom asset.ciphertext (chunking.chunkSize + chunkOverhead) n offset).zipIdx i).mapM
        (Seal.openChunk gcm key asset chunking) = .ok parts ↔
      Web.openChunks gcm key asset chunking n i offset = .ok parts := by
  induction n generalizing i offset parts with
  | zero => simp [Seal.splitFrom, Web.openChunks, pure, Except.pure]
  | succ n ih =>
    simp only [Seal.splitFrom, List.zipIdx_cons, List.mapM_cons, Web.openChunks, bind_eq_ok, ih,
      Seal.openChunk, Seal.sealAad, Web.aad, Seal.gcmDecrypt, Web.gcmDecryptRecord, mapError_eq_ok,
      ofOption_eq_ok]
    constructor
    · rintro ⟨part, ⟨aad, haad, hpart⟩, rest, hrest, hparts⟩
      exact ⟨aad, haad, part, hpart, rest, hrest, congrArg _ (Except.ok.inj hparts)⟩
    · rintro ⟨aad, haad, part, hpart, rest, hrest, hparts⟩
      exact ⟨part, ⟨aad, haad, hpart⟩, rest, hrest, congrArg _ (Except.ok.inj hparts)⟩

theorem openPayload_agree {plaintext : Bytes} :
    Seal.openPayload gcm key asset = .ok plaintext ↔
      Web.openPayload gcm key asset = .ok plaintext := by
  unfold Seal.openPayload Web.openPayload
  cases asset.chunking with
  | none =>
    simp only [bind_eq_ok, Seal.sealAad, Web.aad, Seal.gcmDecrypt, Web.gcmDecryptRecord,
      mapError_eq_ok, ofOption_eq_ok]
  | some chunking =>
    simp only [bind_eq_ok, Seal.splitChunks, openChunks_agree, pure, Except.pure, Except.ok.injEq]

end Agreement

/-- The two openers give the same plaintexts for the same containers, except that `seal` takes keys
of 32 bytes only. -/
theorem openers_agree (gcm : Gcm) (key sealedBytes : Bytes) (expected : Expected)
    (plaintext : Bytes) :
    Seal.openSealedBytes gcm key sealedBytes (some expected) = .ok plaintext ↔
      key.length = 32 ∧ Web.openSealedAsset gcm key sealedBytes expected = .ok plaintext := by
  have himport : Seal.importKey gcm key = .ok () ↔ key.length = 32 ∧ gcm.imports key = true := by
    unfold Seal.importKey
    split_ifs with h
    · exact iff_of_false (fun h => by cases h) fun hboth => h hboth.1
    · rw [require_eq_ok, and_iff_right (not_not.1 h)]
  rw [Seal.openSealedBytes, Web.openSealedAsset, bind_eq_ok, bind_eq_ok]
  simp only [Seal.decodeSealedAsset, Web.decodeSealedAsset, Web.importKey, seq_eq_ok,
    ofOption_eq_ok, require_eq_ok, openPayload_agree, himport, Option.mem_some_iff, forall_eq']
  grind

end CopyLocker.Packages
