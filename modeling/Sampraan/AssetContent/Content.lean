import Sampraan.AssetContent.FilePolicy

/-! `content.service.ts`: the encryption of the content, its integrity and its plaintext. -/

namespace Sampraan.AssetContent

open Backend Library

variable (env : ContentEnvironment) (storage : StorageResolution)

/-- What `randomBytes` gives to one upload, and the name of its temporary file. -/
structure ContentRandomness where
  dek : Bytes
  iv : Bytes
  wrapIv : Bytes
  suffix : String
  dek_length : dek.length = 32
  iv_length : iv.length = 12
  wrapIv_length : wrapIv.length = 12

structure EnvelopeEncryption where
  alg : String
  keyId : String
  wrappedKeyB64 : String
  ivB64 : String
  tagB64 : String
  deriving DecidableEq

/-! ### The envelope -/

def encryptBuffer (random : ContentRandomness) (plaintext : Bytes) :
    Except Error (Bytes × EnvelopeEncryption) := do
  let (ciphertext, tag) ← env.crypto.aes256Gcm.encrypt random.dek random.iv plaintext
  let wrapped ← storage.keyProvider.wrapKey env random.wrapIv random.dek
  .ok (ciphertext,
    { alg := "AES-256-GCM"
      keyId := wrapped.keyId
      wrappedKeyB64 := wrapped.wrappedKeyB64
      ivB64 := Base64.toText random.iv
      tagB64 := Base64.toText tag })

def decryptBuffer (ciphertext : Bytes) (envelope : EnvelopeEncryption) : Except Error Bytes := do
  let dek ← storage.keyProvider.unwrapKey env envelope.wrappedKeyB64 envelope.keyId
  env.crypto.aes256Gcm.decrypt dek (Base64.ofText envelope.ivB64) ciphertext
    (Base64.ofText envelope.tagB64)

/-- What the database keeps of an envelope. -/
def EnvelopeEncryption.toJson (envelope : EnvelopeEncryption) : Json :=
  .object
    [("alg", .string envelope.alg), ("keyId", .string envelope.keyId),
      ("wrappedKeyB64", .string envelope.wrappedKeyB64), ("ivB64", .string envelope.ivB64),
      ("tagB64", .string envelope.tagB64)]

def nonEmptyText (raw : Json) (key : String) : Except Error String :=
  match raw.property key with
  | some (.string value) =>
    if value = "" then .error (.other s!"Stored encryption envelope is malformed ({key})") else .ok value
  | _ => .error (.other s!"Stored encryption envelope is malformed ({key})")

def hasAlgorithm (raw : Json) : Bool :=
  match raw.property "alg" with
  | some (.string alg) => alg == "AES-256-GCM"
  | _ => false

def parseEnvelope (raw : Json) : Except Error EnvelopeEncryption :=
  if !raw.isObject then .error (.other "Stored encryption envelope is missing")
  else if !hasAlgorithm raw then
    let alg := ((raw.property "alg").map Json.text).getD "undefined"
    .error (.other s!"Unsupported content encryption: {alg}")
  else do
    let keyId ← nonEmptyText raw "keyId"
    let wrappedKeyB64 ← nonEmptyText raw "wrappedKeyB64"
    let ivB64 ← nonEmptyText raw "ivB64"
    let tagB64 ← nonEmptyText raw "tagB64"
    .ok
      { alg := "AES-256-GCM"
        keyId := keyId
        wrappedKeyB64 := wrappedKeyB64
        ivB64 := ivB64
        tagB64 := tagB64 }

/-! ### The operations -/

structure StoredVersionMetadata where
  filename : String
  originalFilename : String
  mimeType : String
  sizeBytes : ℕ
  contentHash : String
  storageProvider : String
  storageReference : String
  encryption : EnvelopeEncryption
  deriving DecidableEq

def contentReference (ciphertext : Bytes) (validated : ValidatedUpload) : String :=
  deriveContentReference env ciphertext validated.contentHash (storage.keyProvider.integrityKey env)

def encryptAndStore (random : ContentRandomness) (validated : ValidatedUpload) :
    Promise StoredVersionMetadata := do
  let (ciphertext, envelope) ← ofResult (encryptBuffer env storage random validated.data)
  let stored ← storage.provider.put (contentReference env storage ciphertext validated) ciphertext
    validated.contentHash
  pure
    { filename := validated.filename
      originalFilename := validated.originalFilename
      mimeType := validated.mimeType
      sizeBytes := validated.sizeBytes
      contentHash := validated.contentHash
      storageProvider := storage.provider.name
      storageReference := stored.reference
      encryption := envelope }

inductive IntegrityState where
  | integrityVerified
  | integrityMismatch
  | contentUnavailable
  | verificationError
  deriving DecidableEq

structure IntegrityResult where
  state : IntegrityState
  computedHash : Option String
  expectedHash : String
  sizeBytes : ℕ
  detail : Option String
  deriving DecidableEq

/-- The columns of a version row that its content is checked against. -/
structure VersionContent where
  storageProvider : String
  storageReference : String
  sizeBytes : ℕ
  contentHash : String
  encryption : Json

def loadVersionPlaintext (storageReference : String) (encryption : Json) : Promise Bytes := do
  let envelope ← ofResult (parseEnvelope encryption)
  let ciphertext ← storage.provider.get storageReference
  ofResult (decryptBuffer env storage ciphertext envelope)

def compareContent (version : VersionContent) (plaintext : Bytes) : IntegrityResult where
  state :=
    if contentHashOf env plaintext = version.contentHash ∧ plaintext.length = version.sizeBytes then
      .integrityVerified
    else .integrityMismatch
  computedHash := some (contentHashOf env plaintext)
  expectedHash := version.contentHash
  sizeBytes := plaintext.length
  detail := none

def integrityFailure (version : VersionContent) (error : Error) : IntegrityResult where
  state := if isContentUnavailable error then .contentUnavailable else .verificationError
  computedHash := none
  expectedHash := version.contentHash
  sizeBytes := version.sizeBytes
  detail := if isContentUnavailable error then none else some (describeError error)

def verifyVersionIntegrity (version : VersionContent) : Promise IntegrityResult :=
  tryCatch
    (do
      let envelope ← ofResult (parseEnvelope version.encryption)
      let ciphertext ← storage.provider.get version.storageReference
      let plaintext ← ofResult (decryptBuffer env storage ciphertext envelope)
      pure (compareContent env version plaintext))
    fun error => pure (integrityFailure version error)

def VersionContent.ofRow (row : AssetContentVersionRow) : VersionContent where
  storageProvider := row.storageProvider
  storageReference := row.storageReference
  sizeBytes := row.sizeBytes
  contentHash := row.contentHash
  encryption := row.encryption

def StoredVersionMetadata.content (stored : StoredVersionMetadata) : VersionContent where
  storageProvider := stored.storageProvider
  storageReference := stored.storageReference
  sizeBytes := stored.sizeBytes
  contentHash := stored.contentHash
  encryption := stored.encryption.toJson

/-! ### A sample deployment -/

/-- Not a cipher to rely on: each byte is masked with one of the key, and the tag says so. -/
def mask (key data : Bytes) : Bytes := data.mapIdx fun i byte => byte ^^^ key.getD (i % 32) 0

def sampleTag (key : Bytes) : Bytes := key.take 16

def sampleGcm : Aes256Gcm where
  encrypt key iv plaintext :=
    if key.length = 32 ∧ iv.length = 12 then .ok (mask key plaintext, sampleTag key)
    else .error (.named "RangeError" "Invalid key length")
  decrypt key _ ciphertext tag :=
    if tag = sampleTag key then .ok (mask key ciphertext)
    else .error (.other "Unsupported state or unable to authenticate data")

def sampleContent : ContentEnvironment where
  toEnvironment := sampleEnvironment
  crypto := { aes256Gcm := sampleGcm, sha256 := fun _ => [], hmacSha256 := fun _ _ => [1, 2, 3] }
  storage :=
    { assetContentMasterKey := some (String.ofList (List.replicate 64 '7'))
      jwtSecret := none
      ipfsApiUrl := some "http://kubo:5001"
      dataDirectory := "/data"
      maxUploadBytes := 1024 }
  text :=
    { decodeUtf8 := fun data => String.ofList (data.map fun byte => Char.ofNat byte.toNat)
      decodeUtf8Fatal := fun data =>
        if data.all (· < 128) then some (String.ofList (data.map fun byte => Char.ofNat byte.toNat))
        else none
      normalizeNfkc := id
      parseJson := fun _ => none }
  ipfsCid := fun _ => "bafy"

end Sampraan.AssetContent
