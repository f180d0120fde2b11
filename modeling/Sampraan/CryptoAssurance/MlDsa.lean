import Sampraan.Backend.Environment
import Sampraan.Library.Base64Url
import Sampraan.Library.Table

/-! `ml-dsa.ts` and `pqc-key-provider.ts`: the post-quantum half of a dual signature. -/

namespace Sampraan.CryptoAssurance

open Backend Library

def mlDsa65Algorithm : String := "ML-DSA-65"

def mlDsa65PublicKeySize : ℕ := 1952

def mlDsa65SignatureSize : ℕ := 3309

def mlDsa65SeedSize : ℕ := 32

def encodeBase64Url (bytes : Bytes) : String := String.ofList (Base64Url.encode bytes)

/-- Rejects anything that is not canonical base64url. -/
def decodeBase64Url (value : String) : Option Bytes :=
  if value = "" then none
  else
    match Base64Url.decode value.toList with
    | none => none
    | some bytes =>
      if bytes = [] then none
      else if encodeBase64Url bytes ≠ value then none
      else some bytes

variable (env : Environment)

def fingerprintPublicKey (publicKey : Bytes) : String := env.sha256.bytes publicKey

def keyPairFromSeed (seed : Bytes) : Promise (Bytes × Bytes) :=
  if seed.length ≠ mlDsa65SeedSize then
    throw (.other s!"ML-DSA-65 seed must be {mlDsa65SeedSize} bytes (received {seed.length})")
  else pure (env.mlDsa65.keygen seed)

def verifyMessageSignature (message publicKey signature : String) : Bool :=
  match decodeBase64Url publicKey with
  | none => false
  | some publicKeyBytes =>
    if publicKeyBytes.length ≠ mlDsa65PublicKeySize then false
    else
      match decodeBase64Url signature with
      | none => false
      | some signatureBytes =>
        if signatureBytes.length ≠ mlDsa65SignatureSize then false
        else
          env.mlDsa65.verify publicKeyBytes (env.mlDsa65.utf8 message) signatureBytes == some true

def pqcKeyIdentifierFor (did : String) (generation : ℕ) : String :=
  s!"pqc-key-{generation}-" ++ sliceTo 12 (env.sha256.text (did ++ s!"#ml-dsa-65#{generation}"))

/-! ### Key providers -/

structure ResolvedPqcKey where
  did : String
  keyIdentifier : String
  algorithm : String
  publicKey : String
  publicKeyFingerprint : String
  keySource : PqcKeySource
  deriving DecidableEq

def isProduction : Bool := env.process.nodeEnv == some "production"

def hexDigit (c : Char) : Option ℕ :=
  if '0' ≤ c ∧ c ≤ '9' then some (c.toNat - 48)
  else if 'a' ≤ c ∧ c ≤ 'f' then some (c.toNat - 87)
  else if 'A' ≤ c ∧ c ≤ 'F' then some (c.toNat - 55)
  else none

/-- `/^0x[0-9a-fA-F]{64}$/`. -/
def isOperatorKey (key : String) : Bool :=
  match key.toList with
  | '0' :: 'x' :: digits => digits.length == 64 && digits.all fun c => (hexDigit c).isSome
  | _ => false

/-- `Buffer.from(…, "hex")`: it stops at the first pair that is not two hex digits. -/
def bytesOfHex : List Char → Bytes
  | high :: low :: rest =>
    match hexDigit high, hexDigit low with
    | some h, some l => UInt8.ofNat (h * 16 + l) :: bytesOfHex rest
    | _, _ => []
  | _ => []

def derivePqcKeyPair (operatorKey did : String) : Promise (Bytes × Bytes) :=
  if !isOperatorKey operatorKey then
    throw (.other "PQC key derivation requires a valid 32-byte hex operator key")
  else
    let seed := env.ethers.keccak256
      (env.ethers.solidityPacked (env.ethers.keccak256 (env.ethers.toUtf8Bytes operatorKey))
        (did ++ "#ml-dsa-65"))
    keyPairFromSeed env (bytesOfHex (seed.toList.drop 2))

inductive PqcKeyProvider where
  | registered
  | localDev (operatorKey : String)
  deriving DecidableEq

def getActivePqcKeyRecord (did : String) : Promise (Option PqcKeyRecordRow) :=
  if !env.databaseConfigured then pure none
  else Async.query fun w =>
    Table.newest PqcKeyRecordRow.createdAt (fun row => row.did == did && row.status == .active)
      w.pqcKeyRecords

def ResolvedPqcKey.ofRecord (record : PqcKeyRecordRow) : ResolvedPqcKey where
  did := record.did
  keyIdentifier := record.keyIdentifier
  algorithm := mlDsa65Algorithm
  publicKey := record.publicKey
  publicKeyFingerprint := record.publicKeyFingerprint
  keySource := record.keySource

def ResolvedPqcKey.derived (did : String) (publicKey : Bytes) : ResolvedPqcKey where
  did := did
  keyIdentifier := pqcKeyIdentifierFor env did 1
  algorithm := mlDsa65Algorithm
  publicKey := encodeBase64Url publicKey
  publicKeyFingerprint := fingerprintPublicKey env publicKey
  keySource := .serverDerived

/-- A registered key wins under both providers. -/
def PqcKeyProvider.resolvePublicKey (did : String) :
    PqcKeyProvider → Promise (Option ResolvedPqcKey)
  | .registered => do return (← getActivePqcKeyRecord env did).map ResolvedPqcKey.ofRecord
  | .localDev operatorKey => do
    match ← getActivePqcKeyRecord env did with
    | some record => pure (some (.ofRecord record))
    | none => do
      let keyPair ← derivePqcKeyPair env operatorKey did
      pure (some (.derived env did keyPair.1))

def trim (s : String) : String :=
  String.ofList ((s.toList.dropWhile Char.isWhitespace).reverse.dropWhile Char.isWhitespace).reverse

/-- `new LocalDevPqcKeyProvider(operatorKey)`. -/
def newLocalDevProvider (operatorKey : String) : Promise PqcKeyProvider :=
  if !isOperatorKey operatorKey then
    throw (.other "LocalDevPqcKeyProvider requires a valid 32-byte hex operator key")
  else pure (.localDev operatorKey)

def resolvePqcKeyProvider : Promise PqcKeyProvider :=
  let requested := toLowerCase (trim (env.process.pqcKeyProvider.getD ""))
  let operatorKey := (env.process.pqcPrivateKey.or env.process.blockchainPrivateKey).getD ""
  if requested = "local-dev" then
    if isProduction env ∧ env.process.pqcAllowDevKeysInProduction ≠ some "1" then pure .registered
    else if operatorKey ≠ "" then newLocalDevProvider operatorKey
    else pure .registered
  else if requested = "registered" then pure .registered
  else if !isProduction env ∧ operatorKey ≠ "" then newLocalDevProvider operatorKey
  else pure .registered

/-- `resolvePqcKeyProvider().resolvePublicKey(did)`. -/
def resolvePqcPublicKey (did : String) : Promise (Option ResolvedPqcKey) := do
  (← resolvePqcKeyProvider env).resolvePublicKey env did

/-! ### Round trips -/

theorem encodeBase64Url_ne_empty {bytes : Bytes} (h : bytes ≠ []) : encodeBase64Url bytes ≠ "" := by
  intro he
  have hl := congrArg String.toList he
  rw [encodeBase64Url, String.toList_ofList] at hl
  exact h (Base64Url.encode_eq_nil.mp hl)

theorem decodeBase64Url_encodeBase64Url {bytes : Bytes} (h : bytes ≠ []) :
    decodeBase64Url (encodeBase64Url bytes) = some bytes := by
  rw [decodeBase64Url, if_neg (encodeBase64Url_ne_empty h)]
  rw [show (encodeBase64Url bytes).toList = Base64Url.encode bytes from String.toList_ofList,
    Base64Url.decode_encode]
  simp [h]

end Sampraan.CryptoAssurance
