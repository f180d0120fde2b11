import Sampraan.CryptoAssurance.MlDsa
import Sampraan.Auth.Sessions
import Sampraan.Library.Base64
import Sampraan.Library.Decimal

/-!
`storage.ts`: the key provider that wraps the data keys of the asset content, the
providers that keep the encrypted objects, and the references they are kept
under.
-/

namespace Sampraan.AssetContent

open Backend Library
open Auth (attempt)
open CryptoAssurance (isProduction hexDigit bytesOfHex)

/-! ### The environment -/

/-- AES-256-GCM of `node:crypto`: `encrypt key iv plaintext` gives the ciphertext and the tag,
`decrypt key iv ciphertext tag` the plaintext. -/
structure Aes256Gcm where
  encrypt : Bytes → Bytes → Bytes → Except Error (Bytes × Bytes)
  decrypt : Bytes → Bytes → Bytes → Bytes → Except Error Bytes

/-- The digests of `createHash("sha256")` and `createHmac("sha256", key)`, as bytes. -/
structure NodeCrypto where
  aes256Gcm : Aes256Gcm
  sha256 : Bytes → Bytes
  hmacSha256 : Bytes → Bytes → Bytes

/-- The configuration of the content store; `dataDirectory` is what `defaultDirectory` gives. -/
structure StorageSettings where
  assetContentMasterKey : Option String
  jwtSecret : Option String
  ipfsApiUrl : Option String
  dataDirectory : String
  maxUploadBytes : ℕ

/-- `TextDecoder`, `String.prototype.normalize` and `JSON.parse`; the second and the last may fail. -/
structure TextLibrary where
  decodeUtf8 : Bytes → String
  decodeUtf8Fatal : Bytes → Option String
  normalizeNfkc : String → String
  parseJson : String → Option Json

/-- `ipfsCid` is the CID under which the IPFS node keeps an object. -/
structure ContentEnvironment extends Environment where
  crypto : NodeCrypto
  storage : StorageSettings
  text : TextLibrary
  ipfsCid : Bytes → String

variable (env : ContentEnvironment)

def ofResult {α : Type} : Except Error α → Promise α
  | .ok a => pure a
  | .error e => throw e

@[simp] theorem ofResult_ok {α : Type} (a : α) : ofResult (.ok a) = pure a := rfl

@[simp] theorem ofResult_error {α : Type} (e : Error) : (ofResult (.error e) : Promise α) = throw e := rfl

/-! ### Wrapped keys -/

structure LocalDevKeyProvider where
  masterKey : Bytes
  keyId : String
  size : masterKey.length = 32

def LocalDevKeyProvider.new (masterKey : Bytes) (keyId : String) : Except Error LocalDevKeyProvider :=
  if h : masterKey.length = 32 then .ok { masterKey := masterKey, keyId := keyId, size := h }
  else .error (.other "LocalDevKeyProvider requires a 32-byte (256-bit) master key")

/-- `configured.trim().toLowerCase().replace(/^0x/, "")` -/
def normalizedMasterKey (configured : String) : List Char :=
  match (toLowerCase (String.ofList (Decimal.trim configured.toList))).toList with
  | '0' :: 'x' :: digits => digits
  | digits => digits

def LocalDevKeyProvider.fromEnvironment : Except Error LocalDevKeyProvider :=
  let configured := env.storage.assetContentMasterKey.getD ""
  if configured ≠ "" then
    let normalized := normalizedMasterKey configured
    if normalized.length ≠ 64 ∨ ¬ normalized.all (fun c => (hexDigit c).isSome) then
      .error (.other ("ASSET_CONTENT_MASTER_KEY must be 64 hex characters (32 bytes). " ++
        "Refusing to start with a malformed master key."))
    else LocalDevKeyProvider.new (bytesOfHex normalized) "local-dev-v1"
  else if isProduction env.toEnvironment then
    .error (.other ("Refusing to start in production without ASSET_CONTENT_MASTER_KEY. Provision a " ++
      "32-byte random hex key (or a KMS-backed key provider) before serving asset content."))
  else
    let derived := env.crypto.sha256 (env.ethers.toUtf8Bytes
      ("sampraan-asset-content:" ++ env.storage.jwtSecret.getD "sampraan-dev"))
    LocalDevKeyProvider.new derived "local-dev-derived"

structure WrappedKey where
  wrappedKeyB64 : String
  keyId : String
  deriving DecidableEq

namespace LocalDevKeyProvider

variable (keyProvider : LocalDevKeyProvider)

/-- `iv` is the outcome of `randomBytes(12)`. -/
def wrapKey (iv plaintextKey : Bytes) : Except Error WrappedKey := do
  let (ciphertext, tag) ← env.crypto.aes256Gcm.encrypt keyProvider.masterKey iv plaintextKey
  .ok { wrappedKeyB64 := Base64.toText (iv ++ ciphertext ++ tag), keyId := keyProvider.keyId }

def unwrapKey (wrappedKeyB64 keyId : String) : Except Error Bytes :=
  if keyId ≠ keyProvider.keyId then
    .error (.other (s!"Unknown content key id \"{keyId}\" — " ++
      "key rotation/restore not available for this key"))
  else
    let wrapped := Base64.ofText wrappedKeyB64
    if wrapped.length < 16 + 12 then .error (.other "Wrapped key material is malformed")
    else
      let iv := wrapped.take 12
      let tag := wrapped.drop (wrapped.length - 16)
      let body := (wrapped.take (wrapped.length - 16)).drop 12
      env.crypto.aes256Gcm.decrypt keyProvider.masterKey iv body tag

def integrityKey : Bytes :=
  env.crypto.sha256 (env.ethers.toUtf8Bytes "sampraan-asset-integrity" ++ keyProvider.masterKey)

end LocalDevKeyProvider

/-! ### References -/

def isReferenceChar (c : Char) : Bool := c.isAlphanum || c == '.' || c == '_' || c == '-'

/-- `text.includes("..")` -/
def hasTraversal (text : String) : Bool := text.toList.tails.any fun rest => ['.', '.'].isPrefixOf rest

def assertSafeReference (ref : String) : Except Error Unit :=
  if ref.length = 0 ∨ 200 < ref.length then .error (.other "Invalid storage reference")
  else if ¬ ref.toList.all isReferenceChar then
    .error (.other "Invalid storage reference (unexpected characters)")
  else if hasTraversal ref then .error (.other "Invalid storage reference (traversal sequence)")
  else .ok ()

def base32Alphabet : List Char := "abcdefghijklmnopqrstuvwxyz234567".toList

/-- The inner loop of `base32Encode`: `value`, a 32-bit integer, holds `bits` bits that have not been
written. -/
def base32Digits : ℕ → ℕ → BitVec 32 → List Char × ℕ
  | 0, bits, _ => ([], bits)
  | fuel + 1, bits, value =>
    if 5 ≤ bits then
      let (digits, rest) := base32Digits fuel (bits - 5) value
      (base32Alphabet.getD ((value >>> (bits - 5)) &&& 31).toNat 'a' :: digits, rest)
    else ([], bits)

/-- The bits that have been written stay in `value` until they are shifted out of it. A byte adds two
digits at most. -/
def base32Loop : Bytes → ℕ → BitVec 32 → List Char
  | [], bits, value =>
    if 0 < bits then [base32Alphabet.getD ((value <<< (5 - bits)) &&& 31).toNat 'a'] else []
  | byte :: bytes, bits, value =>
    let value := (value <<< 8) ||| BitVec.ofNat 32 byte.toNat
    let (digits, rest) := base32Digits 2 (bits + 8) value
    digits ++ base32Loop bytes rest value

def base32Encode (bytes : Bytes) : String := String.ofList (base32Loop bytes 0 0)

example : base32Encode [102, 111, 111, 98, 97] = "mzxw6ytb" := by decide

def deriveContentReference (ciphertext : Bytes) (plaintextHash : String) (integrityKey : Bytes) :
    String :=
  let digest := env.crypto.hmacSha256 integrityKey (ciphertext ++ env.ethers.toUtf8Bytes plaintextHash)
  "bciqa" ++ toLowerCase (base32Encode (digest.take 30))

/-! ### Storage providers -/

structure StoredObject where
  reference : String
  byteLength : ℕ
  ciphertextSha256 : String
  deriving DecidableEq

def contentUnavailable (ref : String) : Error :=
  .named "ContentUnavailableError" s!"Stored content is unavailable for reference {ref}"

def isContentUnavailable : Error → Bool
  | .named name _ => name == "ContentUnavailableError"
  | _ => false

structure StorageProvider where
  name : String
  put : String → Bytes → String → Promise StoredObject
  get : String → Promise Bytes

def storedObject (reference : String) (data : Bytes) : StoredObject where
  reference := reference
  byteLength := data.length
  ciphertextSha256 := env.sha256.bytes data

/-! #### The local provider -/

/-- `path.join`, of parts that are normal already. -/
def objectPath (dataDir ref : String) : Except Error String := do
  assertSafeReference ref
  .ok (dataDir ++ "/" ++ sliceTo 2 ref ++ "/" ++ ref)

def setFile (path : String) (content : Option Bytes) (w : World) : World :=
  { w with files := Function.update w.files path content }

@[simp] theorem setFile_files (path : String) (content : Option Bytes) (w : World) :
    (setFile path content w).files = Function.update w.files path content := rfl

@[simp] theorem setFile_diskFails (path : String) (content : Option Bytes) (w : World) :
    (setFile path content w).diskFails = w.diskFails := rfl

def writeFile (path : String) (data : Bytes) : Promise Unit := do
  let done ← Async.statement fun w =>
    if w.diskFails then (false, w) else (true, setFile path (some data) w)
  if done then pure () else throw (.other "EIO: i/o error")

/-- `rm(path, \x7b force: true \x7d).catch(() => undefined)` -/
def removeFile (path : String) : Promise Unit :=
  Async.statement fun w => ((), if w.diskFails then w else setFile path none w)

/-- `pipeline(createReadStream(source), createWriteStream(target))` -/
def copyFile (source target : String) : Promise Unit := do
  match ← Async.query fun w => w.files source with
  | none => throw (.other s!"ENOENT: no such file or directory, open '{source}'")
  | some data => writeFile target data

/-- What `put` writes next to the object. -/
def metadataJson (contentHash : String) (data : Bytes) : String :=
  "\x7b\"contentHash\":\"" ++ contentHash ++ "\",\"byteLength\":" ++ toString data.length ++ "\x7d"

def cleanUp (tempPath : String) : Promise Unit := do
  removeFile tempPath
  removeFile (tempPath ++ ".meta")

/-- `suffix` is the outcome of `randomBytes(6).toString("hex")`. -/
def localPut (dataDir suffix ref : String) (data : Bytes) (contentHash : String) :
    Promise StoredObject := do
  let target ← ofResult (objectPath dataDir ref)
  let tempPath := target ++ ".tmp-" ++ suffix
  writeFile tempPath data
  writeFile (tempPath ++ ".meta") (env.ethers.toUtf8Bytes (metadataJson contentHash data))
  tryCatch (copyFile tempPath target) fun error => do
    cleanUp tempPath
    throw (.other s!"Failed to persist encrypted content: {describeError error}")
  cleanUp tempPath
  pure (storedObject env ref data)

def localGet (dataDir ref : String) : Promise Bytes := do
  let target ← ofResult (objectPath dataDir ref)
  match ← Async.query fun w => w.files target with
  | none => throw (contentUnavailable ref)
  | some data => pure data

def localEncryptedStorageProvider (dataDir suffix : String) : Except Error StorageProvider :=
  if dataDir.toList.head? ≠ some '/' then
    .error (.other "LocalEncryptedStorageProvider requires an absolute data directory")
  else
    .ok
      { name := "local-encrypted"
        put := localPut env dataDir suffix
        get := localGet dataDir }

/-! #### The IPFS provider -/

def isOkStatus (status : ℕ) : Bool := 200 ≤ status && status ≤ 299

def keepObject (cid : String) (data : Bytes) (w : World) : World :=
  { w with ipfsObjects := Function.update w.ipfsObjects cid (some data) }

@[simp] theorem keepObject_ipfsObjects (cid : String) (data : Bytes) (w : World) :
    (keepObject cid data w).ipfsObjects = Function.update w.ipfsObjects cid (some data) := rfl

@[simp] theorem keepObject_ipfsStatus (cid : String) (data : Bytes) (w : World) :
    (keepObject cid data w).ipfsStatus = w.ipfsStatus := rfl

/-- The answer of the node to `/add`; a request that cannot be made is rejected. -/
def ipfsAdd (data : Bytes) : Promise (ℕ × String) := do
  let response ← Async.statement fun w =>
    match w.ipfsStatus with
    | none => (none, w)
    | some status =>
      if isOkStatus status then
        (some (status, env.ipfsCid data), keepObject (env.ipfsCid data) data w)
      else (some (status, ""), w)
  match response with
  | none => throw (.named "TypeError" "fetch failed")
  | some answer => pure answer

/-- The answer of the node to `/cat`: 500 for an object that it does not have. -/
def ipfsCat (ref : String) : Promise (ℕ × Bytes) := do
  let response ← Async.query fun w => w.ipfsStatus.map fun status =>
    if isOkStatus status then
      match w.ipfsObjects ref with
      | some data => (status, data)
      | none => (500, [])
    else (status, [])
  match response with
  | none => throw (.named "TypeError" "fetch failed")
  | some answer => pure answer

def ipfsPut (_ : String) (data : Bytes) (_ : String) : Promise StoredObject := do
  let (status, hash) ← ipfsAdd env data
  if !isOkStatus status then throw (.other s!"IPFS add failed: HTTP {status}")
  else if hash = "" then throw (.other "IPFS add returned no CID")
  else pure (storedObject env hash data)

def ipfsGet (ref : String) : Promise Bytes := do
  ofResult (assertSafeReference ref)
  let (status, data) ← ipfsCat ref
  if status = 404 ∨ status = 500 then throw (contentUnavailable ref)
  else if !isOkStatus status then throw (.other s!"IPFS cat failed: HTTP {status}")
  else pure data

def ipfsStorageProvider : StorageProvider where
  name := "ipfs"
  put := ipfsPut env
  get := ipfsGet

/-! ### Provider resolution -/

structure StorageResolution where
  provider : StorageProvider
  keyProvider : LocalDevKeyProvider

/-- The test of `/^https?:\/\//i`. -/
def isHttpUrl (url : String) : Bool :=
  let url := (toLowerCase url).toList
  "http://".toList.isPrefixOf url || "https://".toList.isPrefixOf url

/-- `apiBase.trim().replace(/\/+$/, "")` -/
def trimmedApiBase (apiBase : String) : String :=
  String.ofList ((Decimal.trim apiBase.toList).reverse.dropWhile (· == '/')).reverse

/-- What `normalizeIpfsApiBase` checks; the URL it makes is left to the node. -/
def checkIpfsApiBase (apiBase : String) : Except Error Unit :=
  if isHttpUrl (trimmedApiBase apiBase) then .ok ()
  else .error (.other s!"IPFS_API_URL must be an http(s) URL (received \"{sliceTo 40 apiBase}\")")

/-- `suffix` names the temporary file of the local provider. -/
def resolveStorage (suffix : String) : Except Error StorageResolution := do
  let keyProvider ← LocalDevKeyProvider.fromEnvironment env
  let ipfsApiUrl := env.storage.ipfsApiUrl.getD ""
  if ipfsApiUrl ≠ "" then
    checkIpfsApiBase ipfsApiUrl
    .ok { provider := ipfsStorageProvider env, keyProvider := keyProvider }
  else if isProduction env.toEnvironment then
    .error (.other ("IPFS_API_URL is not set — production asset content requires the self-hosted " ++
      "Kubo IPFS node (refusing silent local-filesystem fallback)."))
  else
    let provider ← localEncryptedStorageProvider env env.storage.dataDirectory suffix
    .ok { provider := provider, keyProvider := keyProvider }

end Sampraan.AssetContent
